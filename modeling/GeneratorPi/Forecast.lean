import GeneratorPi.AnyClock
import Mathlib.Order.Bounds.Basic

/-!
# The forecast of the panel

The live values of `frontend/app.js` over a snapshot of `GET /api/state` (`genpi/routes/core.py`):
`liveTotalHours` and `projectedLevel` extrapolate what the server's `_live_total_run_hours_locked`
and `projected_fuel_level_locked` compute, and `hoursTo` inverts the projection.  Clocks are
exact: the snapshot is applied at the reading it carries, and from then on both clocks advance
alike.

`hoursTo` counts from the present.  A run whose start is ahead of the clock, after the clock was
set back, has yet to begin as far as the projection is concerned, so the level is reached that
much later (`first_reached_later`).
-/

namespace GeneratorPi

open Trace

/-- What the forecast uses of the `api_state` answer. -/
structure Snapshot where
  running : Bool
  currentRunStartedAt : Option ℚ
  totalRunHours : ℚ
  fuel : FuelState
  serverNow : ℚ

/-- `api_state`. -/
def apiState (serverNow : ℚ) (s : App) : Snapshot where
  running := s.gen.running
  currentRunStartedAt := s.gen.currentRunStartedAt
  totalRunHours := s.gen.totalRunHours
  fuel := s.fuel
  serverNow := serverNow

/-- The globals `state` and `clockOffset`, in milliseconds. -/
structure StatePanel where
  state : Option Snapshot := none
  clockOffset : ℚ := 0

namespace StatePanel

/-- `applyState`, at a reading of `Date.now()`. -/
def applyState (dateNow : ℚ) (s : Snapshot) : StatePanel where
  state := some s
  clockOffset := s.serverNow * 1000 - dateNow

/-- `nowSec`. -/
def nowSec (dateNow : ℚ) (p : StatePanel) : ℚ := (dateNow + p.clockOffset) / 1000

/-- `liveTotalHours`; a start of zero is falsy. -/
def liveTotalHours (dateNow : ℚ) (p : StatePanel) : ℚ :=
  match p.state with
  | none => 0
  | some s =>
      match s.running, s.currentRunStartedAt with
      | true, some started =>
          if started ≠ 0 then s.totalRunHours + max 0 ((p.nowSec dateNow - started) / 3600)
          else s.totalRunHours
      | _, _ => s.totalRunHours

/-- `fuel`. -/
def fuel (p : StatePanel) : Option FuelState := p.state.map (·.fuel)

/-- `projectedLevel`. -/
def projectedLevel (dateNow : ℚ) (p : StatePanel) : Option ℚ :=
  p.fuel.map fun f =>
    let run := max 0 (p.liveTotalHours dateNow - f.fillRunHours)
    max 0 (min 100 (f.fillLevel - f.drainRate * run))

/-- `hoursTo`. -/
def hoursTo (dateNow target : ℚ) (p : StatePanel) : Option ℚ :=
  match p.state, p.projectedLevel dateNow with
  | some s, some level =>
      if !s.running then none
      else if 0 < s.fuel.drainRate ∧ target < level then
        some ((level - target) / s.fuel.drainRate)
      else none
  | _, _ => none

end StatePanel

/-! ## The two extrapolations -/

variable {s : App} {now t h target started serverNow dateNow later : ℚ}

/-- The corrected clock of the panel reads as the server's. -/
theorem nowSec_applyState (dateNow later : ℚ) (snap : Snapshot) :
    (StatePanel.applyState dateNow snap).nowSec later =
      snap.serverNow + (later - dateNow) / 1000 := by
  rw [StatePanel.nowSec, StatePanel.applyState]
  ring

theorem liveTotalHours_applyState (nonzero : s.gen.currentRunStartedAt ≠ some 0)
    (serverNow dateNow later : ℚ) :
    (StatePanel.applyState dateNow (apiState serverNow s)).liveTotalHours later =
      liveTotalRunHours (serverNow + (later - dateNow) / 1000) s := by
  have clock := nowSec_applyState dateNow later (apiState serverNow s)
  change (match s.gen.running, s.gen.currentRunStartedAt with
    | true, some started =>
        if started ≠ 0 then s.gen.totalRunHours + max 0
          (((StatePanel.applyState dateNow (apiState serverNow s)).nowSec later - started) / 3600)
        else s.gen.totalRunHours
    | _, _ => s.gen.totalRunHours) = _
  rw [clock]
  cases running : s.gen.running with
  | false => rw [liveTotalRunHours_of_stopped running]
  | true =>
      cases start : s.gen.currentRunStartedAt with
      | none => simp [liveTotalRunHours, running, start]
      | some started =>
          have stamped : started ≠ 0 := fun zero => nonzero (zero ▸ start)
          rw [liveTotalRunHours_of_running running start]
          exact if_pos stamped

theorem projectedLevel_applyState (nonzero : s.gen.currentRunStartedAt ≠ some 0)
    (serverNow dateNow later : ℚ) :
    (StatePanel.applyState dateNow (apiState serverNow s)).projectedLevel later =
      some (projectedFuelLevel (serverNow + (later - dateNow) / 1000) s) := by
  rw [projectedFuelLevel, runSinceFill, ← liveTotalHours_applyState nonzero serverNow dateNow later]
  rfl

/-! ## The inverse -/

/-- A level above a target is not clamped. -/
theorem projectedFuelLevel_of_lt (level : s.fuel.fillLevel ≤ 100) (rate : 0 ≤ s.fuel.drainRate)
    (target_nonneg : 0 ≤ target) (above : target < projectedFuelLevel t s) :
    projectedFuelLevel t s = s.fuel.fillLevel - s.fuel.drainRate * runSinceFill t s := by
  have run_nonneg : 0 ≤ runSinceFill t s := le_max_left _ _
  have full : s.fuel.fillLevel - s.fuel.drainRate * runSinceFill t s ≤ 100 := by nlinarith
  unfold projectedFuelLevel at above ⊢
  rw [min_eq_right full] at above ⊢
  refine max_eq_right (le_of_not_gt fun empty => ?_)
  rw [max_eq_left empty.le] at above
  exact absurd above (not_lt.mpr target_nonneg)

/-- At a target in the tank or below it, the clamps do not matter. -/
theorem projectedFuelLevel_le_iff (target_nonneg : 0 ≤ target) (below_full : target < 100) :
    projectedFuelLevel t s ≤ target ↔
      s.fuel.fillLevel - s.fuel.drainRate * runSinceFill t s ≤ target := by
  rw [projectedFuelLevel, max_le_iff, min_le_iff]
  exact ⟨fun h => h.2.resolve_left (not_le.mpr below_full), fun h => ⟨target_nonneg, Or.inr h⟩⟩

/-- What has been run since, from the later of the present and the start of the run. -/
theorem elapsedHours_sub_le_iff (h_nonneg : 0 < h) :
    h ≤ elapsedHours started t - elapsedHours started now ↔ max now started + 3600 * h ≤ t := by
  unfold elapsedHours
  rcases le_total started now with past | ahead
  · have began : 0 ≤ (now - started) / 3600 := by
      have := sub_nonneg.mpr past
      positivity
    rw [max_eq_left past, max_eq_right began]
    rcases le_total 0 ((t - started) / 3600) with run | idle
    · rw [max_eq_right run]
      constructor <;> intro le <;> linarith
    · rw [max_eq_left idle]
      constructor <;> intro le <;> linarith
  · have idle_now : (now - started) / 3600 ≤ 0 := by
      have := sub_nonpos.mpr ahead
      linarith
    rw [max_eq_right ahead, max_eq_left idle_now]
    rcases le_total 0 ((t - started) / 3600) with run | idle
    · rw [max_eq_right run]
      constructor <;> intro le <;> linarith
    · rw [max_eq_left idle]
      constructor <;> intro le <;> linarith

/-- From now on, the hours since the fill grow with those of the run. -/
theorem runSinceFill_sub (running : s.gen.running = true)
    (start : s.gen.currentRunStartedAt = some started)
    (mark : s.fuel.fillRunHours ≤ liveTotalRunHours now s) (later : now ≤ t) :
    runSinceFill t s - runSinceFill now s = elapsedHours started t - elapsedHours started now := by
  have mark_later := mark.trans (liveTotalRunHours_mono s later)
  unfold runSinceFill
  rw [max_eq_right (sub_nonneg.mpr mark), max_eq_right (sub_nonneg.mpr mark_later),
    liveTotalRunHours_of_running running start, liveTotalRunHours_of_running running start]
  ring

/-- The level is first down to the target when the hours to it have been run, from the present or
from the start of the run, whichever comes later. -/
theorem isLeast_reached (inRange : s.InRange) (running : s.gen.running = true)
    (start : s.gen.currentRunStartedAt = some started)
    (mark : s.fuel.fillRunHours ≤ liveTotalRunHours now s) (target_nonneg : 0 ≤ target)
    (above : target < projectedFuelLevel now s) :
    IsLeast {t | now ≤ t ∧ projectedFuelLevel t s ≤ target}
      (max now started + 3600 * ((projectedFuelLevel now s - target) / s.fuel.drainRate)) := by
  have drains : 0 < s.fuel.drainRate := lt_of_lt_of_le (by norm_num) inRange.fuel.rate_le
  have below_full : target < 100 := above.trans_le (projectedFuelLevel_range now s).2
  have level := projectedFuelLevel_of_lt inRange.fuel.level_le drains.le target_nonneg above
  set hours := (projectedFuelLevel now s - target) / s.fuel.drainRate with hours_eq
  have positive : 0 < hours := div_pos (sub_pos.mpr above) drains
  have drop : s.fuel.drainRate * hours = projectedFuelLevel now s - target := by
    rw [hours_eq]
    field_simp
  have reached : ∀ t, now ≤ t →
      (projectedFuelLevel t s ≤ target ↔ max now started + 3600 * hours ≤ t) := by
    intro t later
    have grown := runSinceFill_sub running start mark later
    rw [projectedFuelLevel_le_iff target_nonneg below_full, ← elapsedHours_sub_le_iff positive,
      ← grown]
    constructor
    · intro low
      refine le_of_mul_le_mul_left ?_ drains
      rw [drop]
      linarith
    · intro enough
      have scaled := mul_le_mul_of_nonneg_left enough drains.le
      rw [drop] at scaled
      linarith
  have later : now ≤ max now started + 3600 * hours :=
    (le_max_left _ _).trans (le_add_of_nonneg_right (by positivity))
  exact ⟨⟨later, (reached _ later).mpr le_rfl⟩, fun t low => (reached t low.1).mp low.2⟩

/-! ## Every published state -/

/-- The panel shows, at the instant `now` of the server, what the server computes then. -/
structure ForecastAgrees (s : App) (now dateNow : ℚ) (p : StatePanel) : Prop where
  live_total : p.liveTotalHours dateNow = liveTotalRunHours now s
  level : p.projectedLevel dateNow = some (projectedFuelLevel now s)
  reached : ∀ target h, 0 ≤ target → target ≤ 100 → p.hoursTo dateNow target = some h →
    ∃ started, s.gen.currentRunStartedAt = some started ∧
      IsLeast {t | now ≤ t ∧ projectedFuelLevel t s ≤ target} (max now started + 3600 * h)
  not_reached : ∀ target, 0 ≤ target → target ≤ 100 → p.hoursTo dateNow target = none →
    projectedFuelLevel now s ≤ target ∨
      ∀ t, now ≤ t → projectedFuelLevel t s = projectedFuelLevel now s

/-- `hoursTo` over a snapshot, the level being the server's. -/
theorem hoursTo_applyState (nonzero : s.gen.currentRunStartedAt ≠ some 0)
    (serverNow dateNow later target : ℚ) :
    (StatePanel.applyState dateNow (apiState serverNow s)).hoursTo later target =
      if !s.gen.running then none
      else if 0 < s.fuel.drainRate ∧
          target < projectedFuelLevel (serverNow + (later - dateNow) / 1000) s then
        some ((projectedFuelLevel (serverNow + (later - dateNow) / 1000) s - target) /
          s.fuel.drainRate)
      else none := by
  have level := projectedLevel_applyState nonzero serverNow dateNow later
  unfold StatePanel.hoursTo
  rw [level]
  rfl

/-- For a snapshot of every state the operations reach, at every later time: the panel's live
total and level are the server's, and where `hoursTo` returns hours the server's level first is
down to the target that many hours after the later of the present and the start of the run; where
it returns nothing the level is there already, or does not fall. -/
theorem forecastAgrees_of_run {ops : List StateOp} (ran : run App.step (boot {}) ops = some s)
    (nonzero : s.gen.currentRunStartedAt ≠ some 0)
    (mark : s.fuel.fillRunHours ≤ liveTotalRunHours serverNow s) (after : dateNow ≤ later) :
    ForecastAgrees s (serverNow + (later - dateNow) / 1000) later
      (StatePanel.applyState dateNow (apiState serverNow s)) := by
  have inRange : s.InRange := run_invariant (fun _ _ _ => App.InRange.step) .firstBoot ran
  have hours := hoursTo_applyState nonzero serverNow dateNow later
  have passed : serverNow ≤ serverNow + (later - dateNow) / 1000 := by
    have := sub_nonneg.mpr after
    exact le_add_of_nonneg_right (by positivity)
  have mark_later := mark.trans (liveTotalRunHours_mono s passed)
  set now := serverNow + (later - dateNow) / 1000
  constructor
  · exact liveTotalHours_applyState nonzero serverNow dateNow later
  · exact projectedLevel_applyState nonzero serverNow dateNow later
  · intro target h target_nonneg _ returned
    rw [hours] at returned
    cases running : s.gen.running with
    | false => simp [running] at returned
    | true =>
        obtain ⟨started, start⟩ := Option.isSome_iff_exists.mp (inRange.running_iff.mp running)
        rw [running, Bool.not_true, if_neg Bool.false_ne_true] at returned
        obtain ⟨⟨-, above⟩, value⟩ := Option.ite_none_right_eq_some.mp returned
        rw [← Option.some.inj value]
        exact ⟨started, start, isLeast_reached inRange running start mark_later target_nonneg above⟩
  · intro target _ _ returned
    rw [hours] at returned
    cases running : s.gen.running with
    | false =>
        refine Or.inr fun t _ => ?_
        simp only [projectedFuelLevel, runSinceFill, liveTotalRunHours_of_stopped running]
    | true =>
        have drains : 0 < s.fuel.drainRate := lt_of_lt_of_le (by norm_num) inRange.fuel.rate_le
        rw [running, Bool.not_true, if_neg Bool.false_ne_true] at returned
        refine Or.inl (not_lt.mp fun above => ?_)
        rw [if_pos ⟨drains, above⟩] at returned
        cases returned

/-- A run started at 7200 on a full tank. -/
def startedAtTwo : List StateOp := [.startCheck, .mutate (.startFinish 7200 1) fun _ => false]

/-- An hour into it the panel counts down eleven hours and a half to twenty percent. -/
theorem forecastAgrees_startedAtTwo :
    ∃ s, run App.step (boot {}) startedAtTwo = some s ∧
      ForecastAgrees s (10800 + (1000 - 1000) / 1000) 1000
        (StatePanel.applyState 1000 (apiState 10800 s)) ∧
      (StatePanel.applyState 1000 (apiState 10800 s)).hoursTo 1000 20 = some (23 / 2) := by
  have seen : (run App.step (boot {}) startedAtTwo).any fun s =>
      s.gen.currentRunStartedAt ≠ some 0 ∧
      s.fuel.fillRunHours ≤ liveTotalRunHours 10800 s ∧
      (StatePanel.applyState 1000 (apiState 10800 s)).hoursTo 1000 20 = some (23 / 2) := by
    decide +kernel
  obtain ⟨s, ran, facts⟩ := (Option.any_eq_true _ _).mp seen
  obtain ⟨nonzero, mark, hours⟩ := of_decide_eq_true facts
  exact ⟨s, ran, forecastAgrees_of_run ran nonzero mark le_rfl, hours⟩

/-- The clock set back to zero during the run: twelve hours and a half later, when the panel has it
at twenty percent, the tank is above. -/
theorem first_reached_later :
    ∃ s, run App.step (boot {}) startedAtTwo = some s ∧
      s.gen.currentRunStartedAt ≠ some 0 ∧ s.fuel.fillRunHours ≤ liveTotalRunHours 0 s ∧
      (StatePanel.applyState 1000 (apiState 0 s)).hoursTo 1000 20 = some (25 / 2) ∧
      ¬ IsLeast {t | 0 ≤ t ∧ projectedFuelLevel t s ≤ 20} (0 + 3600 * (25 / 2)) := by
  have seen : (run App.step (boot {}) startedAtTwo).any fun s =>
      s.gen.currentRunStartedAt ≠ some 0 ∧ s.fuel.fillRunHours ≤ liveTotalRunHours 0 s ∧
      (StatePanel.applyState 1000 (apiState 0 s)).hoursTo 1000 20 = some (25 / 2) ∧
      ¬ projectedFuelLevel (0 + 3600 * (25 / 2)) s ≤ 20 := by
    decide +kernel
  obtain ⟨s, ran, facts⟩ := (Option.any_eq_true _ _).mp seen
  obtain ⟨nonzero, mark, hours, above⟩ := of_decide_eq_true facts
  exact ⟨s, ran, nonzero, mark, hours, fun least => above least.1.2⟩

end GeneratorPi
