import GeneratorPi.ResetRace

/-!
# The ranges of the tracked state under any clock

`App.step` is one operation on the tracked state.  Each operation brings its own clock readings, so
the clock may be set to anything between two of them, and within one that reads it twice.  The store
may refuse any row a mutator writes; a process killed in a mutator is one whose later rows were
refused, restarted at once.  A factory reset is its two halves, with whatever comes between them.

Every clamp of the setters keeps its record in range (`MemoryInRange.mutator`), and what is written
to a row is what stands in memory, so a restart finds nothing out of range either
(`inRange_of_run`).
-/

namespace GeneratorPi

open Trace Rounding

/-- What can happen to the tracked state. -/
inductive StateOp where
  /-- A mutator, some of whose rows are `lost`. -/
  | mutate (m : Mutator) (lost : KvRow → Bool)
  | startCheck
  | startAttempt (maxRetries : ℤ) (attempt : ℕ)
  | startStamp (now : ℚ)
  | evaluateLowFuel (now : ℚ)
  | wipeRows
  | resetMemory
  | restart

/-- The rows of a mutator that reach the store. -/
def Mutator.saved (s : App) (m : Mutator) (lost : KvRow → Bool) : List KvRow :=
  (m.kvSets s).filter fun row => !lost row

def App.step (s : App) : StateOp → Option App
  | .mutate m lost => some { m.apply s with kv := (m.saved s lost).foldl kvSet s.kv }
  | .startCheck => GeneratorPi.startCheck s
  | .startAttempt maxRetries attempt => some (GeneratorPi.startAttempt maxRetries attempt s)
  | .startStamp now => some (GeneratorPi.startStamp now s)
  | .evaluateLowFuel now => some (GeneratorPi.evaluateLowFuel now s).2
  | .wipeRows => some (GeneratorPi.wipeRows s)
  | .resetMemory => some (GeneratorPi.resetMemory s)
  | .restart => some (boot s.kv)

/-! ## Ranges -/

structure FuelState.InRange (f : FuelState) : Prop extends f.WellFormed where
  mark_nonneg : 0 ≤ f.fillRunHours

structure AlertsState.InRange (a : AlertsState) : Prop where
  threshold_ge : 5 ≤ a.alertThreshold
  threshold_le : a.alertThreshold ≤ 40

/-- The in-memory globals are in their ranges. -/
structure MemoryInRange (s : App) : Prop where
  running_iff : s.gen.running = true ↔ s.gen.currentRunStartedAt.isSome = true
  total_nonneg : 0 ≤ s.gen.totalRunHours
  fuel : s.fuel.InRange
  alerts : s.alerts.InRange

def KvRow.InRange : KvRow → Prop
  | .totalRunHours hours => 0 ≤ hours
  | .fuelState fuel => fuel.InRange
  | .alertsState alerts => alerts.InRange

/-- The rows that are present are in their ranges. -/
structure Kv.InRange (kv : Kv) : Prop where
  total : ∀ hours, kv.totalRunHours = some hours → 0 ≤ hours
  fuel : ∀ fuel, kv.fuelState = some fuel → fuel.InRange
  alerts : ∀ alerts, kv.alertsState = some alerts → alerts.InRange

/-- The tracked state is well formed, its rows included, and so is what is projected from it at any
reading of the clock. -/
structure App.InRange (s : App) : Prop extends MemoryInRange s where
  rows : s.kv.InRange
  level : ∀ now, 0 ≤ projectedFuelLevel now s ∧ projectedFuelLevel now s ≤ 100

theorem FuelState.inRange_default : FuelState.InRange {} :=
  ⟨FuelState.wellFormed_default, le_rfl⟩

theorem AlertsState.inRange_default : AlertsState.InRange {} := by
  constructor <;> decide

theorem Kv.inRange_empty : Kv.InRange {} :=
  ⟨(fun _ h => nomatch h), (fun _ h => nomatch h), (fun _ h => nomatch h)⟩

theorem Kv.InRange.kvSet {kv : Kv} (inRange : kv.InRange) {row : KvRow} (h : row.InRange) :
    (kvSet kv row).InRange := by
  cases row with
  | totalRunHours hours => exact ⟨fun _ eq => Option.some.inj eq ▸ h, inRange.fuel, inRange.alerts⟩
  | fuelState fuel => exact ⟨inRange.total, fun _ eq => Option.some.inj eq ▸ h, inRange.alerts⟩
  | alertsState alerts => exact ⟨inRange.total, inRange.fuel, fun _ eq => Option.some.inj eq ▸ h⟩

theorem Kv.InRange.foldl {kv : Kv} (inRange : kv.InRange) {rows : List KvRow}
    (h : ∀ row ∈ rows, row.InRange) : (rows.foldl GeneratorPi.kvSet kv).InRange := by
  induction rows generalizing kv with
  | nil => exact inRange
  | cons row rows ih =>
      have first := inRange.kvSet (h row List.mem_cons_self)
      exact ih first fun row mem => h row (List.mem_cons_of_mem _ mem)

/-- The projection is clamped, whatever it is made from. -/
theorem projectedFuelLevel_range (now : ℚ) (s : App) :
    0 ≤ projectedFuelLevel now s ∧ projectedFuelLevel now s ≤ 100 :=
  ⟨le_max_left _ _, max_le (by norm_num) (min_le_left _ _)⟩

/-! ## Every operation keeps the ranges -/

variable {s t : App}

/-- What a fresh process loads is a row in range or a default. -/
theorem MemoryInRange.boot {kv : Kv} (rows : kv.InRange) : MemoryInRange (boot kv) where
  running_iff := iff_of_false Bool.false_ne_true Bool.false_ne_true
  total_nonneg := by
    rw [boot_total]
    cases row : kv.totalRunHours with
    | none => exact le_rfl
    | some hours => exact rows.total hours row
  fuel := by
    rw [boot_fuel]
    cases row : kv.fuelState with
    | none => exact FuelState.inRange_default
    | some fuel => exact rows.fuel fuel row
  alerts := by
    change (kv.alertsState.getD {}).InRange
    cases row : kv.alertsState with
    | none => exact AlertsState.inRange_default
    | some alerts => exact rows.alerts alerts row

theorem MemoryInRange.transition (inRange : MemoryInRange s) (now : ℚ) (b : Bool) :
    MemoryInRange (applyRunningTransition now b s) := by
  rcases applyRunningTransition_cases now b s with ⟨-, eq⟩ | ⟨-, -, eq⟩ | ⟨-, -, eq⟩ <;> rw [eq]
  · exact inRange
  · exact ⟨by simp, inRange.total_nonneg, inRange.fuel, inRange.alerts⟩
  · have banked := inRange.total_nonneg.trans (totalRunHours_le_live now s)
    exact ⟨by simp, banked, inRange.fuel, inRange.alerts⟩

theorem MemoryInRange.setRate (inRange : MemoryInRange s) {rate : ℚ} (h : 1 / 10 ≤ rate) :
    MemoryInRange (s.setFuel { s.fuel with drainRate := rate }) :=
  have fuel := inRange.fuel
  ⟨inRange.running_iff, inRange.total_nonneg,
    ⟨⟨fuel.level_nonneg, fuel.level_le, h, fuel.default_eq⟩, fuel.mark_nonneg⟩, inRange.alerts⟩

theorem MemoryInRange.setFuelFill (inRange : MemoryInRange s) (now level : ℚ) :
    MemoryInRange (GeneratorPi.setFuelFill now level s).2 :=
  have mark := inRange.total_nonneg.trans (totalRunHours_le_live now s)
  ⟨inRange.running_iff, inRange.total_nonneg,
    ⟨⟨clampLevel_nonneg level, clampLevel_le level, inRange.fuel.rate_le, inRange.fuel.default_eq⟩,
      mark⟩, inRange.alerts⟩

/-- An override re-stamps a run in progress and lets a stopped generator be. -/
theorem MemoryInRange.setTotalRunHours (inRange : MemoryInRange s) (now restamp hours : ℚ) :
    MemoryInRange (GeneratorPi.setTotalRunHours now restamp hours s).2 where
  running_iff := by
    dsimp only [GeneratorPi.setTotalRunHours]
    cases running : s.gen.running with
    | true => simp
    | false => simpa [running] using inRange.running_iff
  total_nonneg := clampTotalRunHours_nonneg hours
  fuel :=
    have fuel := inRange.fuel
    ⟨⟨fuel.level_nonneg, fuel.level_le, fuel.rate_le, fuel.default_eq⟩, le_max_left _ _⟩
  alerts := inRange.alerts

theorem MemoryInRange.setAlerts (inRange : MemoryInRange s) (enabled : Option Bool)
    (threshold : Option ℚ) (fuelEnabled : Option Bool) :
    MemoryInRange (GeneratorPi.setAlerts enabled threshold fuelEnabled s).2 := by
  refine ⟨inRange.running_iff, inRange.total_nonneg, inRange.fuel, ?_⟩
  cases threshold with
  | none => exact ⟨inRange.alerts.threshold_ge, inRange.alerts.threshold_le⟩
  | some t =>
      refine ⟨le_max_left _ _, ?_⟩
      exact max_le (by decide) (min_le_left _ _)

/-- Every mutator leaves the globals in range, at any clock reading. -/
theorem MemoryInRange.mutator (inRange : MemoryInRange s) (m : Mutator) :
    MemoryInRange (m.apply s) := by
  cases m with
  | startFinish now maxRetries =>
      have moved := inRange.transition now true
      exact ⟨moved.running_iff, moved.total_nonneg, moved.fuel, moved.alerts⟩
  | stop now =>
      have told : MemoryInRange { s with gen := { s.gen with lastCommand := some "stop" } } :=
        ⟨inRange.running_iff, inRange.total_nonneg, inRange.fuel, inRange.alerts⟩
      have moved := told.transition now false
      exact ⟨moved.running_iff, moved.total_nonneg, moved.fuel, moved.alerts⟩
  | setRunning now b =>
      have moved := inRange.transition now b
      exact ⟨moved.running_iff, moved.total_nonneg, moved.fuel, moved.alerts⟩
  | setTotalRunHours now restamp hours => exact inRange.setTotalRunHours now restamp hours
  | recordFuelReading now level =>
      obtain ⟨rate, floor, eq | eq⟩ := recordFuelReading_eq now level s
      · rw [Mutator.apply, eq]
        exact inRange
      · rw [Mutator.apply, eq]
        exact inRange.setRate (floor inRange.fuel.toWellFormed)
  | setFuelRate rate => exact inRange.setRate (le_max_left _ _)
  | resetFuelRate =>
      refine inRange.setRate ?_
      have rounded := le_roundTo (n := 1) (k := 1) (x := s.fuel.defaultRate)
        (by rw [inRange.fuel.default_eq]; norm_num [fuelDefaultRate])
      simpa using rounded
  | setFuelFill now level => exact inRange.setFuelFill now level
  | setAlerts enabled threshold fuelEnabled =>
      exact inRange.setAlerts enabled threshold fuelEnabled

/-- The rows of a mutator hold what it leaves in memory. -/
theorem Mutator.mem_kvSets {m : Mutator} {row : KvRow} (mem : row ∈ m.kvSets s) :
    row = .totalRunHours (m.apply s).gen.totalRunHours ∨ row = .fuelState (m.apply s).fuel ∨
      row = .alertsState (m.apply s).alerts := by
  cases m with
  | startFinish => cases mem
  | stop now | setRunning now b =>
      dsimp only [Mutator.kvSets] at mem
      split at mem
      · exact Or.inl (List.mem_singleton.mp mem)
      · cases mem
  | recordFuelReading now level =>
      dsimp only [Mutator.kvSets] at mem
      split at mem
      · cases mem
      · exact Or.inr (Or.inl (List.mem_singleton.mp mem))
  | setTotalRunHours now restamp hours =>
      rcases List.mem_cons.mp mem with rfl | mem
      · exact Or.inl rfl
      · exact Or.inr (Or.inl (List.mem_singleton.mp mem))
  | setFuelRate | resetFuelRate | setFuelFill =>
      exact Or.inr (Or.inl (List.mem_singleton.mp mem))
  | setAlerts => exact Or.inr (Or.inr (List.mem_singleton.mp mem))

theorem MemoryInRange.kvSets {m : Mutator} (after : MemoryInRange (m.apply s)) :
    ∀ row ∈ m.kvSets s, row.InRange := by
  intro row mem
  rcases Mutator.mem_kvSets mem with rfl | rfl | rfl
  · exact after.total_nonneg
  · exact after.fuel
  · exact after.alerts

theorem App.InRange.of_memory (memory : MemoryInRange s) (rows : s.kv.InRange) : s.InRange :=
  ⟨memory, rows, fun now => projectedFuelLevel_range now s⟩

theorem App.InRange.step {op : StateOp} (inRange : s.InRange) (h : s.step op = some t) :
    t.InRange := by
  have memory := inRange.toMemoryInRange
  cases op with
  | mutate m lost =>
      cases h
      have after := memory.mutator m
      refine .of_memory ⟨after.running_iff, after.total_nonneg, after.fuel, after.alerts⟩ ?_
      exact inRange.rows.foldl fun row mem => after.kvSets row (List.mem_of_mem_filter mem)
  | startCheck =>
      obtain ⟨-, ⟨⟩⟩ := Option.ite_none_left_eq_some.mp h
      exact .of_memory ⟨memory.running_iff, memory.total_nonneg, memory.fuel, memory.alerts⟩
        inRange.rows
  | startAttempt | startStamp =>
      cases h
      exact .of_memory ⟨memory.running_iff, memory.total_nonneg, memory.fuel, memory.alerts⟩
        inRange.rows
  | evaluateLowFuel now =>
      cases h
      obtain ⟨flag, eq⟩ := evaluateLowFuel_eq now s
      rw [eq]
      exact .of_memory ⟨memory.running_iff, memory.total_nonneg, memory.fuel, memory.alerts⟩
        inRange.rows
  | wipeRows =>
      cases h
      exact .of_memory ⟨memory.running_iff, memory.total_nonneg, memory.fuel, memory.alerts⟩
        Kv.inRange_empty
  | resetMemory =>
      cases h
      refine .of_memory ⟨by simp [GeneratorPi.resetMemory, factoryReset], le_rfl,
        FuelState.inRange_default, AlertsState.inRange_default⟩ inRange.rows
  | restart =>
      cases h
      exact .of_memory (.boot inRange.rows) inRange.rows

theorem App.InRange.firstBoot : (boot {}).InRange :=
  .of_memory (.boot Kv.inRange_empty) Kv.inRange_empty

/-- From the first boot on, in every order of operations, clock readings, lost rows and restarts,
the tracked state is in its ranges. -/
theorem inRange_of_run {ops : List StateOp} (h : run App.step (boot {}) ops = some s) :
    s.InRange :=
  run_invariant (fun _ _ _ inRange h => App.InRange.step inRange h) .firstBoot h

/-- The store refuses the row of the fuel model. -/
def fuelRowLost : KvRow → Bool
  | .fuelState _ => true
  | _ => false

/-- Out-of-range arguments, a clock set back by a day in a run, an override whose fuel row is lost,
and a restart. -/
def strainedState : List StateOp :=
  [.startCheck, .mutate (.startFinish 100000 1) fun _ => false,
    .mutate (.setFuelFill 103600 250) fun _ => false,
    .mutate (.setAlerts none (some (-3)) none) fun _ => false,
    .mutate (.setFuelRate (-1)) fun _ => false,
    .mutate (.setTotalRunHours 13600 13601 (-5)) fuelRowLost,
    .mutate (.stop 0) fun _ => false, .evaluateLowFuel (-50), .restart]

theorem inRange_strainedState :
    ∃ s, run App.step (boot {}) strainedState = some s ∧ s.InRange ∧
      s.fuel.fillLevel = 100 ∧ s.alerts.alertThreshold = 5 := by
  have seen : (run App.step (boot {}) strainedState).any fun s =>
      s.fuel.fillLevel = 100 ∧ s.alerts.alertThreshold = 5 := by decide
  obtain ⟨s, ran, facts⟩ := (Option.any_eq_true _ _).mp seen
  exact ⟨s, ran, inRange_of_run ran, of_decide_eq_true facts⟩

end GeneratorPi
