import GeneratorPi.Odometer

/-!
# The low-fuel alert over whole runs

`evaluate_low_fuel` pushes once per crossing: the edge flag it sets is cleared by a refuel, by a
level that climbs back, by an evaluation that finds the generator stopped, and by a new process.  A
stop itself does not clear it.  So a run that is opened before any evaluation has seen the stop is
silent about a low tank (`missed_of_unarmed`); in every run in which that does not happen, the alert
is complete (`alertComplete_of_run`).
-/

namespace GeneratorPi

open Trace

/-- A controller, and whether the generator was stopped or the tank refuelled since the last
push. -/
structure Monitor where
  controller : Controller := {}
  due : Bool := true
  deriving DecidableEq, Repr

/-- Whether another push is due after the operation has left the controller `y`. -/
def Monitor.dueAfter (m : Monitor) (y : Controller) : Op → Bool
  | .evaluateLowFuel =>
      if (evaluateLowFuel m.controller.clock m.controller.app).1 = .push then false
      else m.due || !y.app.gen.running
  | .setFuelFill _ => true
  | _ => m.due || !y.app.gen.running

def Monitor.step (m : Monitor) (op : Op) : Option Monitor :=
  (m.controller.step op).map fun y => { controller := y, due := m.dueAfter y op }

/-- An evaluation finds a running generator, the feature and its alerts on, and a low tank. -/
structure LowWhileRunning (x : Controller) : Prop where
  running : x.app.gen.running = true
  fuelEnabled : x.app.alerts.fuelEnabled = true
  alertsOn : x.app.alerts.alertsOn = true
  low : projectedFuelLevel x.clock x.app ≤ x.app.alerts.alertThreshold

/-- The next evaluation of a low tank pushes if a push is due. -/
def AlertComplete (m : Monitor) : Prop :=
  m.due = true → LowWhileRunning m.controller →
    (evaluateLowFuel m.controller.clock m.controller.app).1 = .push

/-- The operation marks the generator as running. -/
def Op.marksRunning : Op → Bool
  | .startFinish _ | .setRunning true => true
  | _ => false

/-- A run is opened only with the alert re-armed. -/
def OpensArmed (m : Monitor) (op : Op) : Prop :=
  op.marksRunning = true → m.controller.app.gen.running = false →
    m.controller.app.lowFuelAlerted = false

instance (m : Monitor) (op : Op) : Decidable (OpensArmed m op) :=
  inferInstanceAs (Decidable (_ → _))

/-! ## The edge flag -/

/-- An evaluation of a low tank pushes exactly if the alert is armed. -/
theorem evaluateLowFuel_push_iff {x : Controller} (low : LowWhileRunning x) :
    (evaluateLowFuel x.clock x.app).1 = .push ↔ x.app.lowFuelAlerted = false := by
  have gates : (!x.app.alerts.fuelEnabled || !x.app.alerts.alertsOn) = false ∧
      (!x.app.gen.running) = false := by
    rw [low.fuelEnabled, low.alertsOn, low.running]
    exact ⟨rfl, rfl⟩
  unfold evaluateLowFuel
  rw [gates.1, gates.2, if_neg Bool.false_ne_true, if_neg Bool.false_ne_true]
  dsimp only
  constructor
  · intro pushed
    split at pushed
    next h => exact h.2
    next =>
      split at pushed
      · cases pushed
      · cases pushed
  · intro armed
    rw [if_pos ⟨low.low, armed⟩]

/-- What an evaluation leaves of the flag. -/
theorem evaluateLowFuel_flag (now : ℚ) (s : App) :
    (evaluateLowFuel now s).1 = .push ∨
      (evaluateLowFuel now s).2.lowFuelAlerted = s.lowFuelAlerted ∨
      (evaluateLowFuel now s).2.lowFuelAlerted = false := by
  unfold evaluateLowFuel
  split
  · exact Or.inr (Or.inl rfl)
  · split
    · exact Or.inr (Or.inr rfl)
    · dsimp only
      split
      · exact Or.inl rfl
      · split
        · exact Or.inr (Or.inr rfl)
        · exact Or.inr (Or.inl rfl)

theorem applyRunningTransition_flag (now : ℚ) (b : Bool) (s : App) :
    (applyRunningTransition now b s).lowFuelAlerted = s.lowFuelAlerted := by
  rcases applyRunningTransition_cases now b s with ⟨-, eq⟩ | ⟨-, -, eq⟩ | ⟨-, -, eq⟩ <;> rw [eq]

variable {x y : Controller} {m n : Monitor} {op : Op}

/-- Nothing but a push sets the flag, and only the marking operations make a stopped generator
run. -/
theorem Controller.step_flag (h : x.step op = some y) :
    ((op = .evaluateLowFuel ∧ (evaluateLowFuel x.clock x.app).1 = .push) ∨
      y.app.lowFuelAlerted = x.app.lowFuelAlerted ∨ y.app.lowFuelAlerted = false) ∧
    (y.app.gen.running = x.app.gen.running ∨ y.app.gen.running = false ∨
      op.marksRunning = true) := by
  cases op with
  | advance d =>
      obtain ⟨-, rfl⟩ := enabled_eq_some.mp h
      exact ⟨Or.inr (Or.inl rfl), Or.inl rfl⟩
  | startCheck =>
      rcases Option.map_eq_some_iff.mp h with ⟨app, checked, rfl⟩
      obtain ⟨-, eq⟩ := Option.ite_none_left_eq_some.mp checked
      cases eq
      exact ⟨Or.inr (Or.inl rfl), Or.inl rfl⟩
  | startAttempt | startStamp | setFuelRate | resetFuelRate | setAlerts =>
      cases h
      exact ⟨Or.inr (Or.inl rfl), Or.inl rfl⟩
  | startFinish maxRetries =>
      cases h
      exact ⟨Or.inr (Or.inl (applyRunningTransition_flag x.clock true x.app)), Or.inr (Or.inr rfl)⟩
  | stop =>
      cases h
      exact ⟨Or.inr (Or.inl (applyRunningTransition_flag ..)),
        Or.inr (Or.inl (applyRunningTransition_running ..))⟩
  | setRunning b =>
      cases h
      refine ⟨Or.inr (Or.inl (applyRunningTransition_flag x.clock b x.app)), ?_⟩
      cases b with
      | true => exact Or.inr (Or.inr rfl)
      | false => exact Or.inr (Or.inl (applyRunningTransition_running x.clock false x.app))
  | setFuelFill level =>
      cases h
      exact ⟨Or.inr (Or.inr rfl), Or.inl rfl⟩
  | recordFuelReading level =>
      cases h
      rcases recordFuelReading_eq x.clock level x.app with ⟨rate, -, eq | eq⟩
      · rw [eq]
        exact ⟨Or.inr (Or.inl rfl), Or.inl rfl⟩
      · rw [eq]
        exact ⟨Or.inr (Or.inl rfl), Or.inl rfl⟩
  | setTotalRunHours hours pause =>
      obtain ⟨-, rfl⟩ := enabled_eq_some.mp h
      exact ⟨Or.inr (Or.inl rfl), Or.inl rfl⟩
  | evaluateLowFuel =>
      cases h
      constructor
      · rcases evaluateLowFuel_flag x.clock x.app with pushed | kept
        · exact Or.inl ⟨rfl, pushed⟩
        · exact Or.inr kept
      · rcases evaluateLowFuel_eq x.clock x.app with ⟨flag, eq⟩
        rw [eq]
        exact Or.inl rfl
  | factoryReset =>
      cases h
      exact ⟨Or.inr (Or.inl rfl), Or.inr (Or.inl rfl)⟩
  | restart =>
      cases h
      exact ⟨Or.inr (Or.inr rfl), Or.inr (Or.inl rfl)⟩

/-! ## Completeness -/

/-- While the generator is stopped a push is due, and a run in which one is due has the alert
armed. -/
structure Armed (m : Monitor) : Prop where
  due_of_stopped : m.controller.app.gen.running = false → m.due = true
  armed : m.controller.app.gen.running = true → m.due = true →
    m.controller.app.lowFuelAlerted = false

theorem Armed.alertComplete (armed : Armed m) : AlertComplete m := fun due low =>
  (evaluateLowFuel_push_iff low).mpr (armed.armed low.running due)

/-- After an operation that neither pushes nor refuels. -/
theorem Armed.of_quiet (armed : Armed m) (opens : OpensArmed m op)
    (h : m.controller.step op = some y)
    (flag : y.app.lowFuelAlerted = m.controller.app.lowFuelAlerted ∨ y.app.lowFuelAlerted = false) :
    Armed { controller := y, due := m.due || !y.app.gen.running } where
  due_of_stopped stopped := by
    dsimp only at stopped ⊢
    rw [stopped, Bool.not_false, Bool.or_true]
  armed running due := by
    dsimp only at running due ⊢
    rw [running, Bool.not_true, Bool.or_false] at due
    rcases flag with same | cleared
    · rw [same]
      cases before : m.controller.app.gen.running with
      | true => exact armed.armed before due
      | false =>
          rcases (Controller.step_flag h).2 with kept | stopped | marks
          · rw [kept, before] at running
            cases running
          · rw [stopped] at running
            cases running
          · exact opens marks before
    · exact cleared

/-- A push is made of a running generator, and none is due after it. -/
theorem Armed.of_push (pushed : (evaluateLowFuel x.clock x.app).1 = .push) :
    Armed {
      controller := { x with app := (evaluateLowFuel x.clock x.app).2 }
      due := false } := by
  have running : x.app.gen.running = true := by
    by_contra stopped
    rw [Bool.not_eq_true] at stopped
    unfold evaluateLowFuel at pushed
    rw [stopped] at pushed
    split at pushed
    · cases pushed
    · cases pushed
  rcases evaluateLowFuel_eq x.clock x.app with ⟨edge, eq⟩
  refine ⟨fun stopped => ?_, fun _ due => by cases due⟩
  dsimp only at stopped
  rw [eq, running] at stopped
  cases stopped

theorem Armed.step (armed : Armed m) (opens : OpensArmed m op) (h : m.step op = some n) :
    Armed n := by
  rcases Option.map_eq_some_iff.mp h with ⟨y, stepped, rfl⟩
  by_cases pushes : op = .evaluateLowFuel ∧
      (evaluateLowFuel m.controller.clock m.controller.app).1 = .push
  · rcases pushes with ⟨rfl, pushed⟩
    have nothingDue : m.dueAfter y .evaluateLowFuel = false := if_pos pushed
    rw [nothingDue]
    cases stepped
    exact Armed.of_push pushed
  · have flag := (Controller.step_flag stepped).1.resolve_left pushes
    have quiet := armed.of_quiet opens stepped flag
    cases op with
    | evaluateLowFuel =>
        have due : m.dueAfter y .evaluateLowFuel = (m.due || !y.app.gen.running) :=
          if_neg fun push => pushes ⟨rfl, push⟩
        rw [due]
        exact quiet
    | setFuelFill level =>
        cases stepped
        exact ⟨fun _ => rfl, fun _ _ => rfl⟩
    | _ => exact quiet

/-- In every run in which each run of the generator is opened with the alert re-armed, an
evaluation of a low tank pushes whenever a push is due. -/
theorem alertComplete_of_run {clock : ℚ} {ops : List Op}
    (opens : Meets Monitor.step OpensArmed { controller := { clock := clock } } ops)
    (h : run Monitor.step { controller := { clock := clock } } ops = some m) : AlertComplete m := by
  have start : Armed { controller := { clock := clock } } := ⟨fun _ => rfl, fun _ _ => rfl⟩
  exact (run_invariant_of_meets (fun _ _ _ armed opens h => Armed.step armed opens h)
    start opens h).alertComplete

/-- A push, a stop that an evaluation sees, and another run. -/
def stopThenEvaluate : List Op :=
  [.setFuelFill 10, .setRunning true, .evaluateLowFuel, .advance 60, .stop, .evaluateLowFuel,
    .startCheck, .startAttempt 1 1, .startStamp, .startFinish 1, .setAlerts none (some 30) none]

theorem alertComplete_stopThenEvaluate :
    ∃ m, run Monitor.step {} stopThenEvaluate = some m ∧ m.due = true ∧ AlertComplete m := by
  have opens : Meets Monitor.step OpensArmed {} stopThenEvaluate := by decide +kernel
  have seen : (run Monitor.step {} stopThenEvaluate).any (·.due) := by decide +kernel
  rcases (Option.any_eq_true _ _).mp seen with ⟨m, ran, due⟩
  exact ⟨m, ran, due, alertComplete_of_run opens ran⟩

/-- Stopped and started again between two evaluations: the second run is silent. -/
theorem second_run_silent :
    ∃ m, run Monitor.step {}
        [.setFuelFill 10, .setRunning true, .evaluateLowFuel, .stop, .setRunning true] = some m ∧
      ¬ AlertComplete m := by
  have seen : (run Monitor.step {}
      [.setFuelFill 10, .setRunning true, .evaluateLowFuel, .stop, .setRunning true]).any fun m =>
        m.due && m.controller.app.gen.running && m.controller.app.alerts.fuelEnabled &&
          m.controller.app.alerts.alertsOn && m.controller.app.lowFuelAlerted &&
          projectedFuelLevel m.controller.clock m.controller.app ≤
            m.controller.app.alerts.alertThreshold := by decide +kernel
  rcases (Option.any_eq_true _ _).mp seen with ⟨m, ran, facts⟩
  simp only [Bool.and_eq_true, decide_eq_true_eq] at facts
  obtain ⟨⟨⟨⟨⟨due, running⟩, enabled⟩, on⟩, flag⟩, level⟩ := facts
  refine ⟨m, ran, fun complete => ?_⟩
  have low : LowWhileRunning m.controller := ⟨running, enabled, on, level⟩
  have armed := (evaluateLowFuel_push_iff low).mp (complete due low)
  rw [flag] at armed
  cases armed

/-! ### A run opened unarmed -/

/-- Longer than any tank lasts at 100 %/hr. -/
def longWait (s : App) : ℚ :=
  3600 * (|s.gen.totalRunHours| + |s.fuel.fillRunHours| + |s.fuel.fillLevel|)

/-- The settings under which every tank is low in the end. -/
def thirsty (s : App) : App :=
  (setFuelRate 100 (setAlerts (some true) (some 40) (some true) s).2).2

def untilLow (s : App) : List Op :=
  [.setAlerts (some true) (some 40) (some true), .setFuelRate 100, .advance (longWait s)]

theorem run_untilLow (y : Controller) :
    run Monitor.step { controller := y } (untilLow y.app) =
      some {
        controller := { y with app := thirsty y.app, clock := y.clock + longWait y.app }
        due := true } := by
  have forward : 0 ≤ longWait y.app := by
    unfold longWait
    positivity
  have waited : Controller.step { y with app := thirsty y.app } (.advance (longWait y.app)) =
      some { y with app := thirsty y.app, clock := y.clock + longWait y.app } := if_pos forward
  exact congrArg (fun z => (z.map fun y => ({ controller := y, due := true } : Monitor)).bind some)
    waited

theorem low_thirsty {y : Controller} {started : ℚ} (running : y.app.gen.running = true)
    (start : y.app.gen.currentRunStartedAt = some started) (past : started ≤ y.clock) :
    LowWhileRunning { y with app := thirsty y.app, clock := y.clock + longWait y.app } := by
  have total := neg_abs_le y.app.gen.totalRunHours
  have mark := le_abs_self y.app.fuel.fillRunHours
  have level := le_abs_self y.app.fuel.fillLevel
  have some_level := abs_nonneg y.app.fuel.fillLevel
  have live : liveTotalRunHours (y.clock + longWait y.app) (thirsty y.app) =
      y.app.gen.totalRunHours + elapsedHours started (y.clock + longWait y.app) :=
    liveTotalRunHours_of_running running start _
  have forward : 0 ≤ longWait y.app := by
    unfold longWait
    positivity
  rw [elapsedHours_of_le (by linarith)] at live
  have run : |y.app.fuel.fillLevel| ≤ runSinceFill (y.clock + longWait y.app) (thirsty y.app) := by
    have mark_eq : (thirsty y.app).fuel.fillRunHours = y.app.fuel.fillRunHours := rfl
    unfold runSinceFill
    rw [live, mark_eq]
    apply le_max_of_le_right
    unfold longWait
    linarith
  have rate : (thirsty y.app).fuel.drainRate = 100 := by
    have rounded : max (1 / 10) (Rounding.roundTo 1 100) = (100 : ℚ) := by decide +kernel
    exact rounded
  have threshold : (thirsty y.app).alerts.alertThreshold = 40 := rfl
  refine ⟨running, rfl, rfl, ?_⟩
  dsimp only
  unfold projectedFuelLevel
  rw [rate, threshold]
  apply max_le (by norm_num)
  apply min_le_of_right_le
  have fill : (thirsty y.app).fuel.fillLevel = y.app.fuel.fillLevel := rfl
  rw [fill]
  push_cast
  linarith

/-- What an operation that opens a run leaves. -/
theorem Controller.opens_run (marks : op.marksRunning = true) (stopped : x.app.gen.running = false)
    (h : x.step op = some y) :
    y.app.gen.running = true ∧ y.app.gen.currentRunStartedAt = some x.clock ∧
      y.app.lowFuelAlerted = x.app.lowFuelAlerted ∧ y.clock = x.clock := by
  cases op with
  | startFinish maxRetries =>
      cases h
      dsimp only [startFinish]
      rw [applyRunningTransition_start stopped]
      exact ⟨rfl, rfl, rfl, rfl⟩
  | setRunning b =>
      cases b with
      | false => cases marks
      | true =>
          cases h
          dsimp only [setRunning]
          rw [applyRunningTransition_start stopped]
          exact ⟨rfl, rfl, rfl, rfl⟩
  | _ => cases marks

/-- A run opened with the flag still set is silent about a low tank sooner or later. -/
theorem missed_of_unarmed (armed : Armed m) (h : m.step op = some n) (unarmed : ¬ OpensArmed m op) :
    ∃ q, run Monitor.step n (untilLow n.controller.app) = some q ∧ ¬ AlertComplete q := by
  obtain ⟨marks, stopped, flag⟩ : op.marksRunning = true ∧
      m.controller.app.gen.running = false ∧ m.controller.app.lowFuelAlerted = true := by
    unfold OpensArmed at unarmed
    push Not at unarmed
    simpa using unarmed
  rcases Option.map_eq_some_iff.mp h with ⟨y, stepped, rfl⟩
  obtain ⟨running, start, kept, clock⟩ := Controller.opens_run marks stopped stepped
  have due : m.dueAfter y op = true := by
    have dueBefore := armed.due_of_stopped stopped
    cases op with
    | evaluateLowFuel => cases marks
    | setFuelFill level => rfl
    | _ =>
        dsimp only [Monitor.dueAfter]
        rw [dueBefore, Bool.true_or]
  rw [due]
  refine ⟨_, run_untilLow y, fun complete => ?_⟩
  have low := low_thirsty running start clock.ge
  have armedNow := (evaluateLowFuel_push_iff low).mp (complete rfl low)
  have still : (thirsty y.app).lowFuelAlerted = true := kept.trans flag
  exact absurd (still.symm.trans armedNow) (by decide)

end GeneratorPi
