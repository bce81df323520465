import GeneratorPi.AnyClock
import GeneratorPi.LowFuel

/-!
# No alert is repeated

One process, from a push on: the flag of `evaluate_low_fuel` stays set until an operation re-arms
it (`App.step_flag`), whatever the clock, the level, the threshold or the rate do in between.  So
between two pushes there is an operation that re-arms (`rearmed_between`).
-/

namespace GeneratorPi

open Trace

/-- The operation, taken in `s`, is an occasion on which the next low level may push again. -/
def Rearms (s : App) : StateOp → Prop
  | .mutate (.setFuelFill _ _) _ => True
  | .evaluateLowFuel now =>
      -- The level climbed above the threshold and the margin while the generator runs, ...
      ((evaluateLowFuel now s).1 = .rearm ∧ s.gen.running = true ∧
        (s.alerts.alertThreshold + fuelAlertRearmMargin : ℤ) < projectedFuelLevel now s) ∨
      -- ... or the generator was found stopped, with the alerts on.
      (s.alerts.fuelEnabled = true ∧ s.alerts.alertsOn = true ∧ s.gen.running = false)
  | _ => False

/-- A push finds the flag clear and sets it. -/
theorem evaluateLowFuel_push {now : ℚ} {s : App} (pushed : (evaluateLowFuel now s).1 = .push) :
    s.lowFuelAlerted = false ∧ (evaluateLowFuel now s).2.lowFuelAlerted = true := by
  unfold evaluateLowFuel at pushed ⊢
  split
  · next off => rw [if_pos off] at pushed; cases pushed
  · next on =>
      rw [if_neg on] at pushed
      split
      · next stopped => rw [if_pos stopped] at pushed; cases pushed
      · next running =>
          rw [if_neg running] at pushed
          dsimp only at pushed ⊢
          split
          · next low => exact ⟨low.2, rfl⟩
          · next high =>
              rw [if_neg high] at pushed
              split at pushed <;> cases pushed

/-- An evaluation that clears the flag is an occasion to re-arm. -/
theorem evaluateLowFuel_clears {now : ℚ} {s : App} (alerted : s.lowFuelAlerted = true)
    (cleared : (evaluateLowFuel now s).2.lowFuelAlerted = false) :
    Rearms s (.evaluateLowFuel now) := by
  unfold Rearms
  dsimp only
  unfold evaluateLowFuel at cleared ⊢
  split at cleared
  · exact absurd (alerted.symm.trans cleared) Bool.noConfusion
  · next on =>
      have enabled : s.alerts.fuelEnabled = true ∧ s.alerts.alertsOn = true := by
        simpa using on
      split at cleared
      · next stopped => exact Or.inr ⟨enabled.1, enabled.2, by simpa using stopped⟩
      · next running =>
          refine Or.inl ?_
          rw [if_neg on, if_neg running]
          dsimp only at cleared ⊢
          split at cleared
          · cases cleared
          · next high =>
              split at cleared
              · next above =>
                  rw [if_neg high, if_pos above]
                  exact ⟨rfl, by simpa using running, above.1⟩
              · exact absurd (alerted.symm.trans cleared) Bool.noConfusion

variable {s t : App} {op : StateOp}

/-- No mutator but a refuel touches the flag. -/
theorem Mutator.apply_flag (s : App) (m : Mutator) :
    (∃ now level, m = .setFuelFill now level) ∨
      (m.apply s).lowFuelAlerted = s.lowFuelAlerted := by
  cases m with
  | startFinish now maxRetries => exact Or.inr (applyRunningTransition_flag now true s)
  | stop now => exact Or.inr (applyRunningTransition_flag ..)
  | setRunning now b => exact Or.inr (applyRunningTransition_flag now b s)
  | recordFuelReading now level =>
      obtain ⟨rate, -, eq | eq⟩ := recordFuelReading_eq now level s
      · exact Or.inr (by rw [Mutator.apply, eq])
      · exact Or.inr (by rw [Mutator.apply, eq]; rfl)
  | setFuelFill now level => exact Or.inl ⟨now, level, rfl⟩
  | setTotalRunHours | setFuelRate | resetFuelRate | setAlerts => exact Or.inr rfl

/-- In one process nothing but a re-arming occasion clears the flag. -/
theorem App.step_flag (alerted : s.lowFuelAlerted = true) (h : s.step op = some t) :
    op = .restart ∨ Rearms s op ∨ t.lowFuelAlerted = true := by
  cases op with
  | mutate m lost =>
      cases h
      rcases m.apply_flag s with ⟨now, level, rfl⟩ | kept
      · exact Or.inr (Or.inl trivial)
      · exact Or.inr (Or.inr (kept.trans alerted))
  | startCheck =>
      obtain ⟨-, ⟨⟩⟩ := Option.ite_none_left_eq_some.mp h
      exact Or.inr (Or.inr alerted)
  | evaluateLowFuel now =>
      cases h
      cases flag : (GeneratorPi.evaluateLowFuel now s).2.lowFuelAlerted with
      | true => exact Or.inr (Or.inr rfl)
      | false => exact Or.inr (Or.inl (evaluateLowFuel_clears alerted flag))
  | startAttempt | startStamp | wipeRows | resetMemory =>
      cases h
      exact Or.inr (Or.inr alerted)
  | restart => exact Or.inl rfl

/-- Between two evaluations that push, in one process, there is an operation that re-arms. -/
theorem rearmed_between {a b : App} {now later : ℚ} {ops : List StateOp}
    (pushed : (evaluateLowFuel now a).1 = .push) (process : ∀ op ∈ ops, op ≠ .restart)
    (h : run App.step (evaluateLowFuel now a).2 ops = some b)
    (again : (evaluateLowFuel later b).1 = .push) :
    ∃ before op after m, ops = before ++ op :: after ∧
      run App.step (evaluateLowFuel now a).2 before = some m ∧ Rearms m op := by
  have alerted := (evaluateLowFuel_push pushed).2
  have clear := (evaluateLowFuel_push again).1
  have keep : ∀ s op t, s.lowFuelAlerted = true → op ≠ .restart ∧ ¬ Rearms s op →
      App.step s op = some t → t.lowFuelAlerted = true :=
    fun s op t alerted quiet h =>
      ((App.step_flag alerted h).resolve_left quiet.1).resolve_left quiet.2
  -- If no step re-arms, the flag of the first push is still set at the second.
  have rearmed : ¬ Meets App.step (fun m op => op ≠ .restart ∧ ¬ Rearms m op)
      (evaluateLowFuel now a).2 ops := by
    intro quiet
    have still := run_invariant_of_meets keep alerted quiet h
    exact absurd (still.symm.trans clear) Bool.noConfusion
  obtain ⟨before, op, after, m, rfl, ran, broken⟩ := exists_of_not_meets rearmed
  have here : op ≠ .restart := process op (List.mem_append_right _ List.mem_cons_self)
  exact ⟨before, op, after, m, rfl, ran, not_not.mp fun idle => broken ⟨here, idle⟩⟩

/-- A push, a stop that no evaluation sees, another run with a raised threshold and a clock set
back, and a reset whose stop an evaluation does see; then a low tank again. -/
def pushedTwice : List StateOp :=
  [.mutate (.stop 20) fun _ => false, .mutate (.setRunning 10 true) fun _ => false,
    .mutate (.setAlerts none (some 40) none) fun _ => false, .evaluateLowFuel (-500),
    .wipeRows, .resetMemory, .evaluateLowFuel 0,
    .startCheck, .mutate (.startFinish 60 1) fun _ => false]

/-- A running generator with a tank at its threshold. -/
def lowTank : App :=
  { gen := { running := true, currentRunStartedAt := some 0 }, fuel := { fillLevel := 20 } }

theorem rearmed_between_pushedTwice :
    ∃ before op after m, pushedTwice = before ++ op :: after ∧
      run App.step (evaluateLowFuel 0 lowTank).2 before = some m ∧ Rearms m op := by
  have pushed : (evaluateLowFuel 0 lowTank).1 = .push := by decide +kernel
  have seen : (run App.step (evaluateLowFuel 0 lowTank).2 pushedTwice).any fun b =>
      (evaluateLowFuel 100000 b).1 = .push := by decide +kernel
  obtain ⟨b, ran, again⟩ := (Option.any_eq_true _ _).mp seen
  exact rearmed_between pushed (by simp [pushedTwice]) ran (of_decide_eq_true again)

end GeneratorPi
