import GeneratorPi.AnyClock

/-!
# Overriding the odometer under the fuel projection

`set_total_run_hours` rewrites the base of the odometer, the start of a run in progress and the fill
mark together (`App.rebase`).  Evaluated at one instant it may move the projected tank level only
where the new total is smaller than the hours run since the fill, and then only upwards: the mark
cannot go below zero, so the hours since the fill fall to the new total
(`runSinceFill_setTotalRunHours`).
-/

namespace GeneratorPi

open Trace

/-- The three values an override writes, and the rows it persists. -/
def App.rebase (total mark : ℚ) (started : Option ℚ) (s : App) : App :=
  { s with
    gen := { s.gen with totalRunHours := total, currentRunStartedAt := started }
    fuel := { s.fuel with fillRunHours := mark }
    kv := { s.kv with
      totalRunHours := some total
      fuelState := some { s.fuel with fillRunHours := mark } } }

variable {s t : App}

theorem setTotalRunHours_eq (now restamp hours : ℚ) (s : App) :
    (setTotalRunHours now restamp hours s).2 =
      s.rebase (clampTotalRunHours hours)
        (max 0 (clampTotalRunHours hours - runSinceFill now s))
        (if s.gen.running then some restamp else s.gen.currentRunStartedAt) := rfl

theorem App.rebase_rebase (total total' mark mark' : ℚ) (started started' : Option ℚ) :
    (s.rebase total mark started).rebase total' mark' started' = s.rebase total' mark' started' :=
  rfl

/-- A run in progress is re-stamped to the instant of the call. -/
theorem liveTotalRunHours_setTotalRunHours (now hours : ℚ) (s : App) :
    liveTotalRunHours now (setTotalRunHours now now hours s).2 = clampTotalRunHours hours := by
  rw [setTotalRunHours_eq]
  set mark := max 0 (clampTotalRunHours hours - runSinceFill now s)
  cases running : s.gen.running with
  | false =>
      have stopped : (s.rebase (clampTotalRunHours hours) mark
        (if false then some now else s.gen.currentRunStartedAt)).gen.running = false := running
      exact liveTotalRunHours_of_stopped stopped now
  | true =>
      have stays : (s.rebase (clampTotalRunHours hours) mark
        (if true then some now else s.gen.currentRunStartedAt)).gen.running = true := running
      have live := liveTotalRunHours_of_running stays rfl now
      rw [live, elapsedHours_self, add_zero]
      rfl

/-- The fill mark follows the odometer down to zero and no further. -/
theorem runSinceFill_setTotalRunHours (now hours : ℚ) (s : App) :
    runSinceFill now (setTotalRunHours now now hours s).2 =
      min (runSinceFill now s) (clampTotalRunHours hours) := by
  have mark : (setTotalRunHours now now hours s).2.fuel.fillRunHours =
    max 0 (clampTotalRunHours hours - runSinceFill now s) := rfl
  have run_nonneg : 0 ≤ runSinceFill now s := le_max_left _ _
  have total_nonneg := clampTotalRunHours_nonneg hours
  rw [runSinceFill, liveTotalRunHours_setTotalRunHours, mark]
  rcases le_total (runSinceFill now s) (clampTotalRunHours hours) with le | le
  · rw [max_eq_right (sub_nonneg.mpr le), min_eq_left le, sub_sub_cancel, max_eq_right run_nonneg]
  · rw [max_eq_left (sub_nonpos.mpr le), min_eq_right le, sub_zero, max_eq_right total_nonneg]

/-- Fewer hours since the fill leave more in the tank. -/
theorem projectedFuelLevel_anti {now : ℚ} (level : s.fuel.fillLevel = t.fuel.fillLevel)
    (rate : s.fuel.drainRate = t.fuel.drainRate) (drains : 0 ≤ t.fuel.drainRate)
    (run : runSinceFill now t ≤ runSinceFill now s) :
    projectedFuelLevel now s ≤ projectedFuelLevel now t := by
  unfold projectedFuelLevel
  rw [level, rate]
  gcongr

/-- A second override to the same total puts the base, the stamp and the mark where they are. -/
theorem setTotalRunHours_again (now hours : ℚ) (s : App) :
    (setTotalRunHours now now hours (setTotalRunHours now now hours s).2).2 =
      (setTotalRunHours now now hours s).2 := by
  have run := runSinceFill_setTotalRunHours now hours s
  have mark : max 0 (clampTotalRunHours hours -
        runSinceFill now (setTotalRunHours now now hours s).2) =
      max 0 (clampTotalRunHours hours - runSinceFill now s) := by
    rw [run]
    rcases le_total (runSinceFill now s) (clampTotalRunHours hours) with le | le
    · rw [min_eq_left le]
    · rw [min_eq_right le, sub_self, max_self, max_eq_left (sub_nonpos.mpr le)]
  rw [setTotalRunHours_eq now now hours (setTotalRunHours now now hours s).2, mark,
    setTotalRunHours_eq, App.rebase_rebase]
  congr 1
  change (if s.gen.running = true then some now
    else if s.gen.running = true then some now else s.gen.currentRunStartedAt) = _
  split <;> rfl

/-- What an override at one instant leaves of the two derived quantities. -/
structure OverrideKeeps (now hours : ℚ) (s t : App) : Prop where
  live_total : liveTotalRunHours now t = clampTotalRunHours hours
  base_nonneg : 0 ≤ t.gen.totalRunHours
  run_since_fill : runSinceFill now t = min (runSinceFill now s) (clampTotalRunHours hours)
  level_kept : runSinceFill now s ≤ clampTotalRunHours hours →
    projectedFuelLevel now t = projectedFuelLevel now s
  level_le : projectedFuelLevel now s ≤ projectedFuelLevel now t
  again : (setTotalRunHours now now hours t).2 = t

theorem overrideKeeps_of_inRange (inRange : s.InRange) (now hours : ℚ) :
    OverrideKeeps now hours s (setTotalRunHours now now hours s).2 where
  live_total := liveTotalRunHours_setTotalRunHours now hours s
  base_nonneg := clampTotalRunHours_nonneg hours
  run_since_fill := runSinceFill_setTotalRunHours now hours s
  level_kept fits := by
    have run := runSinceFill_setTotalRunHours now hours s
    rw [min_eq_left fits] at run
    rw [projectedFuelLevel, run]
    rfl
  level_le := by
    have drains : 0 ≤ s.fuel.drainRate := le_trans (by norm_num) inRange.fuel.rate_le
    have run := runSinceFill_setTotalRunHours now hours s
    exact projectedFuelLevel_anti rfl rfl drains (run.trans_le (min_le_left _ _))
  again := setTotalRunHours_again now hours s

/-- In every state the operations reach, at whatever clock readings, an override at one instant
reads as asked, keeps the base non-negative and never lowers the projected level. -/
theorem overrideKeeps_of_run {ops : List StateOp} (ran : run App.step (boot {}) ops = some s)
    (now hours : ℚ) : OverrideKeeps now hours s (setTotalRunHours now now hours s).2 := by
  have inRange : s.InRange := run_invariant (fun _ _ _ => App.InRange.step) .firstBoot ran
  exact overrideKeeps_of_inRange inRange now hours

/-- Two hours into a run on a fresh tank. -/
def twoHoursIn : List StateOp :=
  [.startCheck, .mutate (.startFinish 0 1) fun _ => false]

/-- An override to half an hour, two hours after the fill: the gauge rises from 87.2 to 96.8. -/
theorem overrideKeeps_twoHoursIn :
    ∃ s, run App.step (boot {}) twoHoursIn = some s ∧
      OverrideKeeps 7200 (1 / 2) s (setTotalRunHours 7200 7200 (1 / 2) s).2 ∧
      projectedFuelLevel 7200 s = 436 / 5 ∧
      projectedFuelLevel 7200 (setTotalRunHours 7200 7200 (1 / 2) s).2 = 484 / 5 := by
  have seen : (run App.step (boot {}) twoHoursIn).any fun s =>
      projectedFuelLevel 7200 s = 436 / 5 ∧
      projectedFuelLevel 7200 (setTotalRunHours 7200 7200 (1 / 2) s).2 = 484 / 5 := by
    decide +kernel
  obtain ⟨s, ran, facts⟩ := (Option.any_eq_true _ _).mp seen
  exact ⟨s, ran, overrideKeeps_of_run ran _ _, of_decide_eq_true facts⟩

end GeneratorPi
