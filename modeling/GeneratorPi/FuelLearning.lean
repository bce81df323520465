import GeneratorPi.Lib.Contraction
import GeneratorPi.AnyClock

/-!
# Learning the burn rate

A reading that comes late enough after the fill halves the distance between the drain rate and the
rate the reading is consistent with, up to the rounding to one decimal (`halves_distance`).  Nothing
else that happens between readings moves the rate, a refuel, a corrected odometer or a restart over
the stored row included (`rate_kept`), so the estimate converges (`drainRate_converges`).
-/

namespace GeneratorPi

open Trace Rounding

/-! ## Runs that only learn -/

/-- The fuel model of memory is the one a fresh process would load. -/
def FuelStored (s : App) : Prop := (boot s.kv).fuel = s.fuel

instance (s : App) : Decidable (FuelStored s) := inferInstanceAs (Decidable (_ = _))

/-- A tank level observed after burning `r` %/hr since the fill. -/
def ConsistentReading (r now level : ℚ) (s : App) : Prop :=
  level = s.fuel.fillLevel - r * runSinceFill now s ∧ 0 ≤ level

instance (r now level : ℚ) (s : App) : Decidable (ConsistentReading r now level s) :=
  inferInstanceAs (Decidable (_ ∧ _))

/-- A reading that is used is consistent with `r`, and the rate is not set by hand. -/
def Mutator.LearnsFrom (r : ℚ) (s : App) : Mutator → Prop
  | .recordFuelReading now level =>
      fuelMinRunSinceFill ≤ runSinceFill now s → ConsistentReading r now level s
  | .setFuelRate _ | .resetFuelRate => False
  | _ => True

instance (r : ℚ) (s : App) : (m : Mutator) → Decidable (m.LearnsFrom r s)
  | .recordFuelReading _ _ => inferInstanceAs (Decidable (_ → _))
  | .setFuelRate _ | .resetFuelRate => isFalse not_false
  | .startFinish _ _ | .stop _ | .setRunning _ _ | .setTotalRunHours _ _ _ | .setFuelFill _ _
  | .setAlerts _ _ _ => isTrue trivial

def KvRow.isFuel : KvRow → Bool
  | .fuelState _ => true
  | _ => false

/-- The rate changes by readings consistent with `r` only, and no row of the fuel model is lost. -/
def LearnsFrom (r : ℚ) (s : App) : StateOp → Prop
  | .mutate m lost =>
      m.LearnsFrom r s ∧ ∀ row ∈ m.kvSets s, row.isFuel = true → lost row = false
  | .wipeRows | .resetMemory => False
  | _ => True

instance (r : ℚ) (s : App) : (op : StateOp) → Decidable (LearnsFrom r s op)
  | .mutate _ _ => inferInstanceAs (Decidable (_ ∧ _))
  | .wipeRows | .resetMemory => isFalse not_false
  | .startCheck | .startAttempt _ _ | .startStamp _ | .evaluateLowFuel _ | .restart =>
      isTrue trivial

/-- A reading taken at least `FUEL_MIN_RUN_SINCE_FILL` run-hours after the latest fill. -/
def lateReading (s : App) : StateOp → Bool
  | .mutate (.recordFuelReading now _) _ => fuelMinRunSinceFill ≤ runSinceFill now s
  | _ => false

/-! ## One reading -/

variable {r : ℚ} {s t : App}

theorem clampLevel_of_mem {level : ℚ} (nonneg : 0 ≤ level) (le : level ≤ 100) :
    clampLevel level = level := by
  rw [clampLevel, min_eq_right le, max_eq_right nonneg]

/-- The rate a consistent reading fits is the true one. -/
theorem ConsistentReading.fit {now level : ℚ} (floor : 1 / 10 ≤ r) (inRange : s.InRange)
    (late : fuelMinRunSinceFill ≤ runSinceFill now s) (read : ConsistentReading r now level s) :
    max (1 / 10) ((s.fuel.fillLevel - clampLevel level) / runSinceFill now s) = r := by
  obtain ⟨eq, nonneg⟩ := read
  have ran : 0 < runSinceFill now s := lt_of_lt_of_le (by norm_num [fuelMinRunSinceFill]) late
  have burnt : 0 ≤ r * runSinceFill now s := mul_nonneg (by linarith) ran.le
  have le : level ≤ 100 := by linarith [inRange.fuel.level_le]
  have drop : s.fuel.fillLevel - level = r * runSinceFill now s := by linarith
  rw [clampLevel_of_mem nonneg le, drop, mul_div_cancel_right₀ _ ran.ne', max_eq_right floor]

theorem halves_distance {now level : ℚ} (floor : 1 / 10 ≤ r) (inRange : s.InRange)
    (late : fuelMinRunSinceFill ≤ runSinceFill now s) (read : ConsistentReading r now level s) :
    |(recordFuelReading now level s).2.fuel.drainRate - r| ≤
      1 / 2 * |s.fuel.drainRate - r| + (1 - 1 / 2) * (1 / 10) := by
  have blend : (recordFuelReading now level s).2.fuel.drainRate =
      roundTo 1 (1 / 2 * s.fuel.drainRate + 1 / 2 * r) := by
    rw [recordFuelReading, if_neg late.not_gt, read.fit floor inRange late]
    rfl
  have rounded := abs_roundTo_sub_le 1 (1 / 2 * s.fuel.drainRate + 1 / 2 * r)
  have middle : |1 / 2 * s.fuel.drainRate + 1 / 2 * r - r| = 1 / 2 * |s.fuel.drainRate - r| := by
    rw [← abs_of_pos (show (0 : ℚ) < 1 / 2 by norm_num), ← abs_mul,
      abs_of_pos (show (0 : ℚ) < 1 / 2 by norm_num)]
    ring_nf
  rw [blend]
  calc |roundTo 1 (1 / 2 * s.fuel.drainRate + 1 / 2 * r) - r|
      ≤ |roundTo 1 (1 / 2 * s.fuel.drainRate + 1 / 2 * r) -
            (1 / 2 * s.fuel.drainRate + 1 / 2 * r)| +
          |1 / 2 * s.fuel.drainRate + 1 / 2 * r - r| := abs_sub_le _ _ _
    _ ≤ 1 / 2 / 10 ^ 1 + 1 / 2 * |s.fuel.drainRate - r| := add_le_add rounded middle.le
    _ = 1 / 2 * |s.fuel.drainRate - r| + (1 - 1 / 2) * (1 / 10) := by ring

theorem recordFuelReading_early {now : ℚ} (early : runSinceFill now s < fuelMinRunSinceFill)
    (level : ℚ) : (recordFuelReading now level s).2 = s := by
  rw [recordFuelReading, if_pos early]

/-! ## Everything else -/

theorem applyRunningTransition_fuel (now : ℚ) (b : Bool) (s : App) :
    (applyRunningTransition now b s).fuel = s.fuel ∧
      (applyRunningTransition now b s).kv.fuelState = s.kv.fuelState := by
  rcases applyRunningTransition_cases now b s with ⟨-, eq⟩ | ⟨-, -, eq⟩ | ⟨-, -, eq⟩ <;>
    rw [eq] <;> exact ⟨rfl, rfl⟩

/-- A mutator leaves the fuel model and its row alone or writes the one into the other. -/
theorem Mutator.fuel_cases (m : Mutator) (s : App) :
    (m.apply s).fuel = s.fuel ∧ (m.apply s).kv.fuelState = s.kv.fuelState ∨
      (m.apply s).kv.fuelState = some (m.apply s).fuel := by
  cases m with
  | startFinish now maxRetries => exact Or.inl (applyRunningTransition_fuel now true s)
  | stop now =>
      have same := stopBank_sameAccounts now s
      have moved := applyRunningTransition_fuel now false s
      exact Or.inl ⟨same.fuel.trans moved.1, by rw [apply, same.kv, moved.2]⟩
  | setRunning now b => exact Or.inl (applyRunningTransition_fuel now b s)
  | recordFuelReading now level =>
      obtain ⟨rate, -, eq | eq⟩ := recordFuelReading_eq now level s
      · exact Or.inl (by rw [apply, eq]; exact ⟨rfl, rfl⟩)
      · exact Or.inr (by rw [apply, eq]; rfl)
  | setTotalRunHours now restamp hours => exact Or.inr rfl
  | setFuelRate rate => exact Or.inr rfl
  | resetFuelRate => exact Or.inr rfl
  | setFuelFill now level => exact Or.inr rfl
  | setAlerts enabled threshold fuelEnabled => exact Or.inl ⟨rfl, rfl⟩

/-- Losing other rows does not change the fuel row. -/
theorem foldl_kvSet_filter {lost : KvRow → Bool} {rows : List KvRow} (kv : Kv)
    (kept : ∀ row ∈ rows, row.isFuel = true → lost row = false) :
    ((rows.filter fun row => !lost row).foldl kvSet kv).fuelState =
      (rows.foldl kvSet kv).fuelState := by
  have congr : ∀ (kv kv' : Kv), kv.fuelState = kv'.fuelState →
      ((rows.filter fun row => !lost row).foldl kvSet kv).fuelState =
        (rows.foldl kvSet kv').fuelState := by
    induction rows with
    | nil => exact fun _ _ same => same
    | cons row rows ih =>
        intro kv kv' same
        have rest := ih fun row mem => kept row (List.mem_cons_of_mem _ mem)
        cases gone : lost row with
        | false =>
            rw [List.filter_cons_of_pos (by simp [gone])]
            refine rest _ _ ?_
            cases row with
            | fuelState fuel => rfl
            | totalRunHours | alertsState => exact same
        | true =>
            rw [List.filter_cons_of_neg (by simp [gone])]
            refine rest _ _ ?_
            cases row with
            | fuelState fuel => exact absurd (kept _ List.mem_cons_self rfl) (by simp [gone])
            | totalRunHours | alertsState => exact same
  exact congr kv kv rfl

theorem FuelStored.congr (stored : FuelStored s) (fuel : t.fuel = s.fuel)
    (row : t.kv.fuelState = s.kv.fuelState) : FuelStored t := by
  rw [FuelStored, boot_fuel, row, fuel]
  exact stored

/-- The fuel row stays the one of memory as long as none is lost. -/
theorem FuelStored.step {op : StateOp} (stored : FuelStored s) (learns : LearnsFrom r s op)
    (h : s.step op = some t) : FuelStored t := by
  cases op with
  | mutate m lost =>
      cases h
      have row : ((m.saved s lost).foldl kvSet s.kv).fuelState = (m.apply s).kv.fuelState := by
        rw [Mutator.apply_kv]
        exact foldl_kvSet_filter s.kv learns.2
      rcases m.fuel_cases s with ⟨fuel, same⟩ | written
      · exact stored.congr fuel (row.trans same)
      · change ((m.saved s lost).foldl kvSet s.kv).fuelState.getD {} = (m.apply s).fuel
        rw [row, written]
        rfl
  | startCheck =>
      have same := startCheck_sameAccounts h
      exact stored.congr same.fuel (by rw [same.kv])
  | startAttempt | startStamp =>
      cases h
      exact stored
  | evaluateLowFuel now =>
      cases h
      obtain ⟨flag, eq⟩ := evaluateLowFuel_eq now s
      rw [eq]
      exact stored
  | wipeRows | resetMemory => exact learns.elim
  | restart =>
      cases h
      rfl

/-- Only a late reading moves the rate. -/
theorem rate_kept {op : StateOp} (stored : FuelStored s) (learns : LearnsFrom r s op)
    (unread : lateReading s op = false) (h : s.step op = some t) :
    t.fuel.drainRate = s.fuel.drainRate := by
  cases op with
  | mutate m lost =>
      cases h
      cases m with
      | recordFuelReading now level =>
          have early : runSinceFill now s < fuelMinRunSinceFill := by
            simpa [lateReading] using unread
          exact congrArg (fun u => u.fuel.drainRate) (recordFuelReading_early early level)
      | startFinish now maxRetries =>
          exact congrArg _ (applyRunningTransition_fuel now true s).1
      | stop now =>
          have same := (stopBank_sameAccounts now s).fuel
          exact congrArg _ (same.trans (applyRunningTransition_fuel now false s).1)
      | setRunning now b => exact congrArg _ (applyRunningTransition_fuel now b s).1
      | setTotalRunHours | setFuelFill | setAlerts => rfl
      | setFuelRate | resetFuelRate => exact learns.1.elim
  | startCheck => rw [(startCheck_sameAccounts h).fuel]
  | startAttempt | startStamp =>
      cases h
      rfl
  | evaluateLowFuel now =>
      cases h
      obtain ⟨flag, eq⟩ := evaluateLowFuel_eq now s
      rw [eq]
  | wipeRows | resetMemory => exact learns.elim
  | restart =>
      cases h
      exact congrArg FuelState.drainRate stored

theorem late_step {op : StateOp} (floor : 1 / 10 ≤ r) (inRange : s.InRange)
    (learns : LearnsFrom r s op) (read : lateReading s op = true) (h : s.step op = some t) :
    |t.fuel.drainRate - r| ≤ 1 / 2 * |s.fuel.drainRate - r| + (1 - 1 / 2) * (1 / 10) := by
  unfold lateReading at read
  split at read
  · next now level lost =>
      cases h
      have late := of_decide_eq_true read
      exact halves_distance floor inRange late (learns.1 late)
  · cases read

/-! ## Whole runs -/

/-- From any state in its ranges (`inRange_of_run`) whose fuel model is stored, and for readings
consistent with a true rate, in any number and with refuels in between: the distance to that rate
halves with each of them up to 0.1, in memory as in the row.  A reading that comes too early after
the fill leaves memory and rows as they are. -/
theorem drainRate_converges {ops : List StateOp} (floor : 1 / 10 ≤ r) (inRange : s.InRange)
    (stored : FuelStored s) (learns : Meets App.step (LearnsFrom r) s ops)
    (ran : run App.step s ops = some t) :
    |t.fuel.drainRate - r| ≤
        |s.fuel.drainRate - r| / 2 ^ markedSteps App.step lateReading s ops + 1 / 10 ∧
      (boot t.kv).fuel = t.fuel ∧
      ∀ (u : App) (now level : ℚ) (lost : KvRow → Bool), runSinceFill now u < fuelMinRunSinceFill →
        u.step (.mutate (.recordFuelReading now level) lost) = some u := by
  have keep : ∀ s op t, (s.InRange ∧ FuelStored s) → LearnsFrom r s op → s.step op = some t →
      t.InRange ∧ FuelStored t := fun s op t inv learns h => ⟨inv.1.step h, inv.2.step learns h⟩
  refine ⟨?_, (run_invariant_of_meets keep ⟨inRange, stored⟩ learns ran).2, ?_⟩
  · have drawn := run_contracts (fun s : App => |s.fuel.drainRate - r|) (by norm_num) keep
      (fun s op t inv learns h read => late_step floor inv.1 learns read h)
      (fun s op t inv learns h unread => by rw [rate_kept inv.2 learns unread h])
      ⟨inRange, stored⟩ learns ran
    have spread := drawn.le (by norm_num) (by norm_num)
    rwa [one_div_pow, one_div_mul_eq_div] at spread
  · intro u now level lost early
    have none_written : (Mutator.recordFuelReading now level).kvSets u = [] := by
      rw [Mutator.kvSets, if_pos early]
    rw [App.step, Mutator.saved, none_written, Mutator.apply, recordFuelReading_early early]
    rfl

/-- At a true rate of 4 %/hr: a reading after an hour, a refuel with a reading that comes a second
later, a reading an hour later, and one more after a restart. -/
def fourPercentAnHour : List StateOp :=
  [.startCheck, .mutate (.startFinish 0 1) fun _ => false,
    .mutate (.setFuelFill 0 100) fun _ => false,
    .mutate (.recordFuelReading 3600 96) fun _ => false,
    .mutate (.setFuelFill 7200 80) fun _ => false,
    .mutate (.recordFuelReading 7201 10) fun _ => false,
    .mutate (.stop 10800) fun _ => false,
    .mutate (.recordFuelReading 10800 76) fun _ => false, .restart,
    .mutate (.recordFuelReading 0 76) fun _ => false]

theorem converges_fourPercentAnHour :
    ∃ s, run App.step (boot {}) fourPercentAnHour = some s ∧
      markedSteps App.step lateReading (boot {}) fourPercentAnHour = 3 ∧
      |s.fuel.drainRate - 4| ≤ |(boot {}).fuel.drainRate - 4| / 2 ^ 3 + 1 / 10 := by
  have reached : (run App.step (boot {}) fourPercentAnHour).isSome = true := by decide
  have late : markedSteps App.step lateReading (boot {}) fourPercentAnHour = 3 := by decide +kernel
  obtain ⟨s, ran⟩ := Option.isSome_iff_exists.mp reached
  have converges := drainRate_converges (r := 4) (by norm_num) .firstBoot rfl
    (by decide +kernel) ran
  rw [late] at converges
  exact ⟨s, ran, late, converges.1⟩

end GeneratorPi
