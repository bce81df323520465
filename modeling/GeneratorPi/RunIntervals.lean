import GeneratorPi.Lib.OnOff
import GeneratorPi.Odometer

/-!
# The odometer against the running intervals

What the three entry points ask for is a switch: the end of a start sequence and a mark as running
turn it on, a stop and a mark as stopped turn it off, and any of them may repeat the state that is
tracked already.  The running intervals are the stretches of that switch, read off the operations
alone; they are the times at which the tracked flag is set (`mem_runningIntervals_iff`).

While nothing overrides the odometer, the live total is the total at the beginning and the hours of
the running intervals (`reckoned_of_run`).
-/

namespace GeneratorPi

open Trace OnOff

/-- The run-state an operation asks for. -/
def Op.target : Op → Option Bool
  | .startFinish _ => some true
  | .stop => some false
  | .setRunning b => some b
  | _ => none

/-- The time an operation lets pass. -/
def Op.elapsed : Op → ℚ
  | .advance d => d
  | _ => 0

/-- The operation sets the odometer by hand, or puts the controller back. -/
def Op.overrides : Op → Bool
  | .setTotalRunHours _ _ | .factoryReset | .restart => true
  | _ => false

/-- What a list of operations, begun at `clock`, asks for, with the readings it is done at. -/
def turnsOf (clock : ℚ) : List Op → List (Turn ℚ)
  | [] => []
  | op :: ops =>
      (op.target.map fun b => (clock, b)).toList ++ turnsOf (clock + op.elapsed) ops

/-- The moment the open run is timed from. -/
def Controller.openedAt (x : Controller) : Option ℚ :=
  if x.app.gen.running then x.app.gen.currentRunStartedAt else none

/-- The maximal intervals in which the generator runs, over operations that lead from `x` to the
reading `now`. -/
def runningIntervals (x : Controller) (ops : List Op) (now : ℚ) : List (Stretch ℚ) :=
  stretches x.openedAt (turnsOf x.clock ops) now

/-- The open run is timed from a moment that has passed. -/
def Timed (x : Controller) : Prop :=
  x.app.gen.running = true →
    ∃ started, x.app.gen.currentRunStartedAt = some started ∧ started ≤ x.clock

theorem Timed.openedAt {x : Controller} (timed : Timed x) {s : ℚ} (h : x.openedAt = some s) :
    s ≤ x.clock := by
  unfold Controller.openedAt at h
  split at h
  · next running =>
      obtain ⟨started, start, past⟩ := timed running
      cases start.symm.trans h
      exact past
  · cases h

theorem Timed.isSome_openedAt {x : Controller} (timed : Timed x) :
    x.openedAt.isSome = x.app.gen.running := by
  unfold Controller.openedAt
  cases running : x.app.gen.running with
  | false => rfl
  | true =>
      obtain ⟨started, start, -⟩ := timed running
      rw [if_pos rfl, start]
      rfl

/-! ## What one operation does to the odometer -/

/-- Two states agree on the run-state and on the total, in memory and in its row. -/
structure SameOdometer (s t : App) : Prop where
  running : t.gen.running = s.gen.running
  started : t.gen.currentRunStartedAt = s.gen.currentRunStartedAt
  total : t.gen.totalRunHours = s.gen.totalRunHours
  row : t.kv.totalRunHours = s.kv.totalRunHours

theorem SameOdometer.refl (s : App) : SameOdometer s s := ⟨rfl, rfl, rfl, rfl⟩

theorem SameAccounts.sameOdometer {s t : App} (same : SameAccounts s t) : SameOdometer s t :=
  ⟨same.running, same.started, same.total, congrArg Kv.totalRunHours same.kv⟩

variable {x y : Controller} {op : Op} {ops : List Op}

/-- An operation that asks for no run-state lets the odometer be, and the others are transitions. -/
theorem Controller.step_odometer (kept : op.overrides = false) (h : x.step op = some y) :
    y.clock = x.clock + op.elapsed ∧ 0 ≤ op.elapsed ∧
      SameOdometer (op.target.elim x.app fun b => applyRunningTransition x.clock b x.app)
      y.app := by
  have instant : x.clock = x.clock + 0 := (add_zero _).symm
  cases op with
  | advance d =>
      obtain ⟨forward, rfl⟩ := enabled_eq_some.mp h
      exact ⟨rfl, forward, .refl _⟩
  | startCheck =>
      obtain ⟨app, checked, rfl⟩ := Option.map_eq_some_iff.mp h
      exact ⟨instant, le_rfl, (startCheck_sameAccounts checked).sameOdometer⟩
  | startAttempt m k =>
      cases h
      exact ⟨instant, le_rfl, (startAttempt_sameAccounts m k _).sameOdometer⟩
  | startStamp =>
      cases h
      exact ⟨instant, le_rfl, (startStamp_sameAccounts _ _).sameOdometer⟩
  | startFinish m =>
      cases h
      exact ⟨instant, le_rfl, (startFinish_sameAccounts _ m _).sameOdometer⟩
  | stop =>
      cases h
      exact ⟨instant, le_rfl, (stopBank_sameAccounts _ _).sameOdometer⟩
  | setRunning b =>
      cases h
      exact ⟨instant, le_rfl, (setRunning_sameAccounts _ b _).sameOdometer⟩
  | recordFuelReading level =>
      cases h
      refine ⟨instant, le_rfl, ?_⟩
      obtain ⟨rate, -, eq | eq⟩ := recordFuelReading_eq x.clock level x.app
      · rw [eq]; exact .refl _
      · rw [eq]; exact ⟨rfl, rfl, rfl, rfl⟩
  | evaluateLowFuel =>
      cases h
      refine ⟨instant, le_rfl, ?_⟩
      obtain ⟨flag, eq⟩ := evaluateLowFuel_eq x.clock x.app
      rw [eq]
      exact ⟨rfl, rfl, rfl, rfl⟩
  | setFuelFill | setFuelRate | resetFuelRate | setAlerts =>
      cases h
      exact ⟨instant, le_rfl, ⟨rfl, rfl, rfl, rfl⟩⟩
  | setTotalRunHours | factoryReset | restart => cases kept

theorem SameOdometer.timed (same : SameOdometer x.app y.app) (timed : Timed x)
    (later : x.clock ≤ y.clock) : Timed y := by
  intro running
  obtain ⟨started, start, past⟩ := timed (same.running ▸ running)
  exact ⟨started, same.started.trans start, past.trans later⟩

theorem SameOdometer.openedAt (same : SameOdometer x.app y.app) : y.openedAt = x.openedAt := by
  rw [Controller.openedAt, Controller.openedAt, same.running, same.started]

theorem SameOdometer.live (same : SameOdometer x.app y.app) (now : ℚ) :
    liveTotalRunHours now y.app = liveTotalRunHours now x.app := by
  simp only [liveTotalRunHours, same.running, same.started, same.total]

/-- The controller after a transition at its reading. -/
def Controller.transition (x : Controller) (b : Bool) : Controller :=
  { x with app := applyRunningTransition x.clock b x.app }

theorem Timed.transition (timed : Timed x) (b : Bool) : Timed (x.transition b) := by
  unfold Controller.transition
  rcases applyRunningTransition_cases x.clock b x.app with
    ⟨-, eq⟩ | ⟨-, -, eq⟩ | ⟨-, -, eq⟩ <;> rw [eq]
  · exact timed
  · exact fun _ => ⟨x.clock, rfl, le_rfl⟩
  · exact fun running => absurd running Bool.false_ne_true

/-- A transition moves hours from the open interval to the total, and none anywhere else. -/
theorem Timed.transition_hours (timed : Timed x) (b : Bool) (turns : List (Turn ℚ)) (now : ℚ) :
    x.app.gen.totalRunHours +
        total (stretches x.openedAt ((x.clock, b) :: turns) now) / 3600 =
      (x.transition b).app.gen.totalRunHours +
        total (stretches (x.transition b).openedAt turns now) / 3600 := by
  unfold Controller.transition
  rcases applyRunningTransition_cases x.clock b x.app with
    ⟨same, eq⟩ | ⟨rfl, stopped, eq⟩ | ⟨rfl, running, eq⟩ <;> rw [eq]
  · -- A repeated state neither restarts nor ends the open interval.
    have openedAt := timed.isSome_openedAt
    rw [same] at openedAt
    cases opened : x.openedAt with
    | none =>
        rw [opened] at openedAt
        subst openedAt
        rfl
    | some s =>
        rw [opened] at openedAt
        subst openedAt
        rfl
  · have closed : x.openedAt = none := by rw [Controller.openedAt, stopped]; rfl
    rw [closed]
    rfl
  · obtain ⟨started, start, past⟩ := timed running
    have opened : x.openedAt = some started := by rw [Controller.openedAt, running, start]; rfl
    rw [opened]
    dsimp only [stretches]
    rw [liveTotalRunHours_of_running running start, elapsedHours_of_le past, total_cons]
    dsimp only [Controller.openedAt]
    simp only [Bool.false_eq_true, if_false]
    ring

/-- A transition shows the same live total. -/
theorem liveTotalRunHours_transition (x : Controller) (b : Bool) :
    liveTotalRunHours x.clock (x.transition b).app = liveTotalRunHours x.clock x.app := by
  unfold Controller.transition
  rcases applyRunningTransition_cases x.clock b x.app with
    ⟨-, eq⟩ | ⟨-, stopped, eq⟩ | ⟨-, -, eq⟩ <;> rw [eq]
  · rw [liveTotalRunHours_of_stopped stopped,
      liveTotalRunHours_of_running rfl rfl, elapsedHours_self, add_zero]
  · rfl

/-- Where a total is banked, its row is written. -/
theorem transition_persisted (x : Controller) (b : Bool)
    (before : x.app.kv.totalRunHours.getD 0 = x.app.gen.totalRunHours) :
    (x.transition b).app.kv.totalRunHours.getD 0 = (x.transition b).app.gen.totalRunHours := by
  unfold Controller.transition
  rcases applyRunningTransition_cases x.clock b x.app with
    ⟨-, eq⟩ | ⟨-, -, eq⟩ | ⟨-, -, eq⟩ <;> rw [eq]
  · exact before
  · exact before
  · rfl

/-! ## Runs -/

/-- Every step that keeps the odometer's hands off leads to a controller timed in the past. -/
theorem Timed.step (timed : Timed x) (kept : op.overrides = false) (h : x.step op = some y) :
    Timed y := by
  obtain ⟨clock, forward, same⟩ := Controller.step_odometer kept h
  have later : x.clock ≤ y.clock := by linarith
  cases target : op.target with
  | none =>
      rw [target] at same
      exact same.timed timed later
  | some b =>
      rw [target] at same
      exact same.timed (x := x.transition b) (timed.transition b) later

/-- The total and the hours of the intervals to come are the same before and after a step. -/
theorem Timed.step_hours (timed : Timed x) (kept : op.overrides = false) (h : x.step op = some y)
    (ops : List Op) (now : ℚ) :
    x.app.gen.totalRunHours + total (runningIntervals x (op :: ops) now) / 3600 =
      y.app.gen.totalRunHours + total (runningIntervals y ops now) / 3600 := by
  obtain ⟨clock, -, same⟩ := Controller.step_odometer kept h
  rw [runningIntervals, runningIntervals, turnsOf, ← clock]
  cases target : op.target with
  | none =>
      rw [target] at same
      rw [same.total, same.openedAt (x := x)]
      rfl
  | some b =>
      rw [target] at same
      rw [same.total, same.openedAt (x := x.transition b)]
      exact timed.transition_hours b _ now

theorem live_le_step (kept : op.overrides = false) (h : x.step op = some y) :
    liveTotalRunHours x.clock x.app ≤ liveTotalRunHours y.clock y.app := by
  obtain ⟨clock, forward, same⟩ := Controller.step_odometer kept h
  have later : x.clock ≤ y.clock := by linarith
  refine (liveTotalRunHours_mono _ later).trans' ?_
  cases target : op.target with
  | none =>
      rw [target] at same
      exact (same.live (x := x) x.clock).ge
  | some b =>
      rw [target] at same
      rw [same.live (x := x.transition b), liveTotalRunHours_transition]

theorem step_persisted (kept : op.overrides = false) (h : x.step op = some y)
    (before : x.app.kv.totalRunHours.getD 0 = x.app.gen.totalRunHours) :
    y.app.kv.totalRunHours.getD 0 = y.app.gen.totalRunHours := by
  obtain ⟨-, -, same⟩ := Controller.step_odometer kept h
  rw [same.row, same.total]
  cases op.target with
  | none => exact before
  | some b => exact transition_persisted x b before

/-- The operations before a moment that passes lead to the state that holds at it. -/
def HoldsAt (x : Controller) (ops : List Op) (t : ℚ) (m : Controller) : Prop :=
  ∃ before d after, ops = before ++ .advance d :: after ∧
    run Controller.step x before = some m ∧ m.clock ≤ t ∧ t < m.clock + d

/-- What the odometer shows and keeps after a run from `x` to `y`. -/
structure Reckoned (x : Controller) (ops : List Op) (y : Controller) : Prop where
  live : liveTotalRunHours y.clock y.app =
    x.app.gen.totalRunHours + total (runningIntervals x ops y.clock) / 3600
  grown : liveTotalRunHours x.clock x.app ≤ liveTotalRunHours y.clock y.app
  persisted : x.app.kv.totalRunHours.getD 0 = x.app.gen.totalRunHours →
    y.app.kv.totalRunHours.getD 0 = y.app.gen.totalRunHours
  /-- The intervals follow on each other. -/
  disjoint : (runningIntervals x ops y.clock).Pairwise fun i j => i.2 ≤ j.1
  /-- They are the times at which the tracked flag is set. -/
  covers : ∀ t m, HoldsAt x ops t m →
    ((∃ i ∈ runningIntervals x ops y.clock, i.1 ≤ t ∧ t < i.2) ↔ m.app.gen.running = true)

/-! ### Hours -/

/-- With no operation in between, the only interval is the open one. -/
theorem Timed.live_eq (timed : Timed x) :
    liveTotalRunHours x.clock x.app =
      x.app.gen.totalRunHours + total (runningIntervals x [] x.clock) / 3600 := by
  unfold runningIntervals turnsOf Controller.openedAt
  cases running : x.app.gen.running with
  | false =>
      rw [liveTotalRunHours_of_stopped running, if_neg Bool.false_ne_true]
      simp [stretches]
  | true =>
      obtain ⟨started, start, past⟩ := timed running
      rw [liveTotalRunHours_of_running running start, elapsedHours_of_le past, if_pos rfl, start]
      simp [stretches]

theorem live_of_run (timed : Timed x) (kept : ∀ op ∈ ops, op.overrides = false)
    (h : run Controller.step x ops = some y) :
    liveTotalRunHours y.clock y.app =
      x.app.gen.totalRunHours + total (runningIntervals x ops y.clock) / 3600 := by
  induction ops generalizing x with
  | nil =>
      cases h
      exact timed.live_eq
  | cons op ops ih =>
      obtain ⟨m, stepped, rest⟩ := run_cons_eq_some.mp h
      have here := kept op List.mem_cons_self
      have later := fun op h => kept op (List.mem_cons_of_mem _ h)
      rw [timed.step_hours here stepped]
      exact ih (timed.step here stepped) later rest

theorem live_le_of_run (kept : ∀ op ∈ ops, op.overrides = false)
    (h : run Controller.step x ops = some y) :
    liveTotalRunHours x.clock x.app ≤ liveTotalRunHours y.clock y.app := by
  induction ops generalizing x with
  | nil =>
      cases h
      exact le_rfl
  | cons op ops ih =>
      obtain ⟨m, stepped, rest⟩ := run_cons_eq_some.mp h
      have grown := live_le_step (kept op List.mem_cons_self) stepped
      exact grown.trans (ih (fun op h => kept op (List.mem_cons_of_mem _ h)) rest)

theorem persisted_of_run (kept : ∀ op ∈ ops, op.overrides = false)
    (h : run Controller.step x ops = some y)
    (before : x.app.kv.totalRunHours.getD 0 = x.app.gen.totalRunHours) :
    y.app.kv.totalRunHours.getD 0 = y.app.gen.totalRunHours := by
  induction ops generalizing x with
  | nil =>
      cases h
      exact before
  | cons op ops ih =>
      obtain ⟨m, stepped, rest⟩ := run_cons_eq_some.mp h
      have here := step_persisted (kept op List.mem_cons_self) stepped before
      exact ih (fun op h => kept op (List.mem_cons_of_mem _ h)) rest here

/-! ### Times -/

theorem turnsOf_append {m : Controller} {before after : List Op}
    (kept : ∀ op ∈ before, op.overrides = false) (h : run Controller.step x before = some m) :
    turnsOf x.clock (before ++ after) = turnsOf x.clock before ++ turnsOf m.clock after := by
  induction before generalizing x with
  | nil =>
      cases h
      rfl
  | cons op before ih =>
      obtain ⟨next, stepped, rest⟩ := run_cons_eq_some.mp h
      obtain ⟨clock, -, -⟩ := Controller.step_odometer (kept op List.mem_cons_self) stepped
      rw [List.cons_append, turnsOf, turnsOf, ← clock, List.append_assoc,
        ih (fun op h => kept op (List.mem_cons_of_mem _ h)) rest]

/-- The turns of a run lie between its readings. -/
theorem ordered_turnsOf (kept : ∀ op ∈ ops, op.overrides = false)
    (h : run Controller.step x ops = some y) : Ordered x.clock (turnsOf x.clock ops) y.clock := by
  induction ops generalizing x with
  | nil =>
      cases h
      exact le_rfl
  | cons op ops ih =>
      obtain ⟨m, stepped, rest⟩ := run_cons_eq_some.mp h
      obtain ⟨clock, forward, -⟩ := Controller.step_odometer (kept op List.mem_cons_self) stepped
      have later := ih (fun op h => kept op (List.mem_cons_of_mem _ h)) rest
      have earlier : x.clock ≤ m.clock := by linarith
      rw [turnsOf, ← clock]
      cases op.target with
      | none => exact later.mono earlier
      | some b => exact ⟨le_rfl, later.mono earlier⟩

/-- The last turn of a run is the tracked flag. -/
theorem lastState_turnsOf (kept : ∀ op ∈ ops, op.overrides = false)
    (h : run Controller.step x ops = some y) :
    lastState x.app.gen.running (turnsOf x.clock ops) = y.app.gen.running := by
  induction ops generalizing x with
  | nil =>
      cases h
      rfl
  | cons op ops ih =>
      obtain ⟨m, stepped, rest⟩ := run_cons_eq_some.mp h
      obtain ⟨clock, -, same⟩ := Controller.step_odometer (kept op List.mem_cons_self) stepped
      have later := ih (fun op h => kept op (List.mem_cons_of_mem _ h)) rest
      rw [turnsOf, ← clock, ← later, same.running]
      cases op.target with
      | none => rfl
      | some b =>
          dsimp only [Option.elim_some]
          rw [applyRunningTransition_running]
          rfl

theorem Timed.mem_runningIntervals_iff (timed : Timed x)
    (kept : ∀ op ∈ ops, op.overrides = false) (h : run Controller.step x ops = some y)
    {t : ℚ} {m : Controller} (holds : HoldsAt x ops t m) :
    (∃ i ∈ runningIntervals x ops y.clock, i.1 ≤ t ∧ t < i.2) ↔ m.app.gen.running = true := by
  obtain ⟨before, d, after, rfl, ran, started, past⟩ := holds
  obtain ⟨_, ran', rest⟩ := run_append_eq_some.mp h
  cases ran.symm.trans ran'
  obtain ⟨next, stepped, rest⟩ := run_cons_eq_some.mp rest
  obtain ⟨-, rfl⟩ := enabled_eq_some.mp stepped
  have first := fun op (mem : op ∈ before) => kept op (List.mem_append_left _ mem)
  have second := fun op (mem : op ∈ after) =>
    kept op (List.mem_append_right _ (List.mem_cons_of_mem _ mem))
  have soFar := ordered_turnsOf first ran
  have toCome := ordered_turnsOf second rest
  have seen : ∀ turn ∈ turnsOf x.clock before, turn.1 ≤ t :=
    fun turn mem => (soFar.turn_le mem).trans started
  unfold runningIntervals
  rw [mem_stretch_iff (ordered_turnsOf kept h) (fun s h => timed.openedAt h)
    (soFar.le.trans started) (past.trans_le toCome.le), turnsOf_append first ran, onAt_append seen,
    timed.isSome_openedAt, lastState_turnsOf first ran]
  exact Eq.congr_left (onAt_of_lt toCome past _)

/-- Over any run that is not overridden, the live total is the first total and the hours of the
running intervals; it has not fallen; and the total that would be loaded is the one in memory. -/
theorem reckoned_of_run (timed : Timed x) (kept : ∀ op ∈ ops, op.overrides = false)
    (h : run Controller.step x ops = some y) : Reckoned x ops y where
  live := live_of_run timed kept h
  grown := live_le_of_run kept h
  persisted := persisted_of_run kept h
  disjoint := stretches_pairwise (ordered_turnsOf kept h)
  covers _ _ holds := timed.mem_runningIntervals_iff kept h holds

/-- A start sequence overtaken by the manual override, a stop told twice, and another run. -/
def redundantTurns : List Op :=
  [.startCheck, .startAttempt 1 1, .advance 20, .setRunning true, .advance 10, .startStamp,
    .startFinish 1, .advance 1800, .stop, .stop, .advance 60, .setRunning false, .setRunning true,
    .advance 900]

theorem reckoned_redundantTurns :
    ∃ y, run Controller.step {} redundantTurns = some y ∧ Reckoned {} redundantTurns y ∧
      runningIntervals {} redundantTurns y.clock = [(20, 1830), (1890, 2790)] := by
  have timed : Timed {} := fun running => absurd running Bool.false_ne_true
  have kept : ∀ op ∈ redundantTurns, op.overrides = false := by decide
  have seen : (run Controller.step {} redundantTurns).any fun y =>
      runningIntervals {} redundantTurns y.clock = [(20, 1830), (1890, 2790)] := by decide +kernel
  obtain ⟨y, ran, intervals⟩ := (Option.any_eq_true _ _).mp seen
  exact ⟨y, ran, reckoned_of_run timed kept ran, of_decide_eq_true intervals⟩

end GeneratorPi
