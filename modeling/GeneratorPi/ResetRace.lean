import GeneratorPi.Durable

/-!
# A factory reset among the other writers

A mutator moves the memory and then makes its `kv_set` calls under one hold of `state_lock`;
`factory_reset` deletes the rows under `_event_lock` first and takes `state_lock` only for the
memory.  `Race.step` interleaves any number of both.  What a mutator writes between the two halves
of a reset stays in the rows although the memory is reset after it, so they agree once everything
has finished exactly when the last outstanding reset finds no such row (`settled_run_iff`).
-/

namespace GeneratorPi

open Trace

/-! ## The writes of a mutator -/

/-- One `kv_set` call. -/
inductive KvRow where
  | totalRunHours (hours : ℚ)
  | fuelState (fuel : FuelState)
  | alertsState (alerts : AlertsState)
  deriving DecidableEq, Repr

/-- `kv_set`: an upsert of the row. -/
def kvSet (kv : Kv) : KvRow → Kv
  | .totalRunHours hours => { kv with totalRunHours := some hours }
  | .fuelState fuel => { kv with fuelState := some fuel }
  | .alertsState alerts => { kv with alertsState := some alerts }

/-- The operations that hold `state_lock` over the memory they move and the rows they write, with
their clock readings. -/
inductive Mutator where
  | startFinish (now : ℚ) (maxRetries : ℤ)
  | stop (now : ℚ)
  | setRunning (now : ℚ) (running : Bool)
  | setTotalRunHours (now restamp hours : ℚ)
  | recordFuelReading (now level : ℚ)
  | setFuelRate (rate : ℚ)
  | resetFuelRate
  | setFuelFill (now level : ℚ)
  | setAlerts (enabled : Option Bool) (threshold : Option ℚ) (fuelEnabled : Option Bool)
  deriving DecidableEq, Repr

/-- The whole operation, its writes included. -/
def Mutator.apply (s : App) : Mutator → App
  | .startFinish now maxRetries => GeneratorPi.startFinish now maxRetries s
  | .stop now => stopBank now s
  | .setRunning now running => GeneratorPi.setRunning now running s
  | .setTotalRunHours now restamp hours => (GeneratorPi.setTotalRunHours now restamp hours s).2
  | .recordFuelReading now level => (GeneratorPi.recordFuelReading now level s).2
  | .setFuelRate rate => (GeneratorPi.setFuelRate rate s).2
  | .resetFuelRate => (GeneratorPi.resetFuelRate s).2
  | .setFuelFill now level => (GeneratorPi.setFuelFill now level s).2
  | .setAlerts enabled threshold fuelEnabled =>
      (GeneratorPi.setAlerts enabled threshold fuelEnabled s).2

/-- The `kv_set` calls of the operation, in their order. -/
def Mutator.kvSets (s : App) (m : Mutator) : List KvRow :=
  let t := m.apply s
  match m with
  | .startFinish _ _ => []
  | .stop _ => if s.gen.running then [.totalRunHours t.gen.totalRunHours] else []
  | .setRunning _ running =>
      if !running && s.gen.running then [.totalRunHours t.gen.totalRunHours] else []
  | .setTotalRunHours _ _ _ => [.totalRunHours t.gen.totalRunHours, .fuelState t.fuel]
  | .recordFuelReading now _ =>
      if runSinceFill now s < fuelMinRunSinceFill then [] else [.fuelState t.fuel]
  | .setFuelRate _ | .resetFuelRate | .setFuelFill _ _ => [.fuelState t.fuel]
  | .setAlerts _ _ _ => [.alertsState t.alerts]

/-- The rows after the whole operation are those of its calls. -/
theorem Mutator.apply_kv (s : App) (m : Mutator) :
    (m.apply s).kv = (m.kvSets s).foldl kvSet s.kv := by
  cases m with
  | startFinish now maxRetries =>
      rcases applyRunningTransition_cases now true s with ⟨-, eq⟩ | ⟨-, -, eq⟩ | ⟨h, -, -⟩
      · simp [apply, kvSets, GeneratorPi.startFinish, eq]
      · simp [apply, kvSets, GeneratorPi.startFinish, eq]
      · cases h
  | stop now =>
      cases running : s.gen.running with
      | true =>
          rw [apply, kvSets, apply, stopBank, applyRunningTransition_stop (by exact running)]
          simp [running, kvSet]
      | false =>
          rw [apply, kvSets, apply, stopBank, applyRunningTransition_same (by exact running)]
          simp [running]
  | setRunning now b =>
      rcases applyRunningTransition_cases now b s with
        ⟨same, eq⟩ | ⟨rfl, -, eq⟩ | ⟨rfl, running, eq⟩
      · simp [apply, kvSets, GeneratorPi.setRunning, eq, same]
      · simp [apply, kvSets, GeneratorPi.setRunning, eq]
      · simp [apply, kvSets, GeneratorPi.setRunning, eq, running, kvSet]
  | recordFuelReading now level =>
      by_cases early : runSinceFill now s < fuelMinRunSinceFill
      · simp [apply, kvSets, GeneratorPi.recordFuelReading, early]
      · simp [apply, kvSets, GeneratorPi.recordFuelReading, early, App.setFuel, kvSet]
  | setTotalRunHours now restamp hours => rfl
  | setFuelRate rate => rfl
  | resetFuelRate => rfl
  | setFuelFill now level => rfl
  | setAlerts enabled threshold fuelEnabled => rfl

theorem Durable.mutator {s : App} (durable : Durable s) (m : Mutator) : Durable (m.apply s) := by
  cases m with
  | startFinish now maxRetries => exact durable.startFinish now maxRetries
  | stop now => exact durable.stopBank now
  | setRunning now b => exact durable.setRunning now b
  | setTotalRunHours now restamp hours => exact durable.setTotalRunHours now restamp hours
  | recordFuelReading now level => exact durable.recordFuelReading now level
  | setFuelRate rate => exact durable.setFuel _
  | resetFuelRate => exact durable.setFuel _
  | setFuelFill now level => exact durable.setFuelFill now level
  | setAlerts enabled threshold fuelEnabled =>
      exact durable.setAlerts enabled threshold fuelEnabled

/-! ## The two halves of `factory_reset` -/

/-- The rows are deleted, under `_event_lock`. -/
def wipeRows (s : App) : App := { s with kv := {} }

/-- The globals get their code defaults, under `state_lock`. -/
def resetMemory (s : App) : App := { factoryReset s with kv := s.kv }

theorem factoryReset_eq (s : App) : factoryReset s = resetMemory (wipeRows s) := rfl

/-- Every row is absent or holds its code default. -/
def Kv.HoldsDefaults (kv : Kv) : Prop :=
  kv.totalRunHours.getD 0 = 0 ∧ kv.fuelState.getD {} = {} ∧ kv.alertsState.getD {} = {}

instance (kv : Kv) : Decidable kv.HoldsDefaults := inferInstanceAs (Decidable (_ ∧ _))

/-- Right after the memory reset, agreement says what the rows hold. -/
theorem durable_resetMemory_iff (s : App) : Durable (resetMemory s) ↔ s.kv.HoldsDefaults :=
  ⟨fun durable => ⟨durable.total, durable.fuel, durable.alerts⟩, fun ⟨total, fuel, alerts⟩ =>
    ⟨total, fuel, alerts⟩⟩

/-! ## The threads -/

/-- The globals and rows, the `kv_set` calls the holder of `state_lock` has still to make, and the
number of resets that have wiped the rows but not yet reset the memory. -/
structure Race where
  app : App := boot {}
  writing : Option (List KvRow) := none
  wiped : ℕ := 0
  deriving DecidableEq, Repr

/-- A step of some thread. -/
inductive RaceStep where
  /-- A mutator takes `state_lock` and moves the memory. -/
  | mutate (m : Mutator)
  | kvSet
  | release
  | wipe
  | resetMemory
  deriving DecidableEq, Repr

/-- One step; `none` where no thread can take it. -/
def Race.step (x : Race) : RaceStep → Option Race
  | .mutate m =>
      if x.writing = none then
        some { x with
          app := { m.apply x.app with kv := x.app.kv }
          writing := some (m.kvSets x.app) }
      else none
  | .kvSet =>
      match x.writing with
      | some (row :: rest) =>
          some { x with
            app := { x.app with kv := GeneratorPi.kvSet x.app.kv row }
            writing := some rest }
      | _ => none
  | .release => if x.writing = some [] then some { x with writing := none } else none
  | .wipe => some { x with app := wipeRows x.app, wiped := x.wiped + 1 }
  | .resetMemory =>
      if x.writing = none ∧ 0 < x.wiped then
        some { x with app := GeneratorPi.resetMemory x.app, wiped := x.wiped - 1 }
      else none

/-- The state the holder of `state_lock` leaves once its calls are made. -/
def Race.flushed (x : Race) : App :=
  { x.app with kv := (x.writing.getD []).foldl kvSet x.app.kv }

theorem Race.flushed_of_idle {x : Race} (idle : x.writing = none) : x.flushed = x.app := by
  simp [flushed, idle]

/-- With no reset half done, memory agrees with the rows as the lock holder will leave them. -/
def Race.Sound (x : Race) : Prop := x.wiped = 0 → Durable x.flushed

/-- Memory and rows agree after the step if nothing is left to do. -/
def SettledAfter (x : Race) (a : RaceStep) : Prop :=
  ∀ y, x.step a = some y → y.writing = none → y.wiped = 0 → Durable y.app

/-- The memory reset that ends the last outstanding factory reset finds only default rows: no row
with another value was written since the tables were wiped. -/
def LastResetClean (x : Race) (a : RaceStep) : Prop :=
  a = .resetMemory → x.writing = none → x.wiped = 1 → x.app.kv.HoldsDefaults

instance (x : Race) (a : RaceStep) : Decidable (LastResetClean x a) :=
  inferInstanceAs (Decidable (_ → _))

theorem Race.Sound.step {x y : Race} (sound : x.Sound) {a : RaceStep} (clean : LastResetClean x a)
    (h : x.step a = some y) : y.Sound := by
  cases a with
  | mutate m =>
      obtain ⟨idle, rfl⟩ := enabled_eq_some.mp h
      intro none_wiped
      have durable := sound none_wiped
      rw [flushed_of_idle idle] at durable
      have written : Race.flushed { x with
          app := { m.apply x.app with kv := x.app.kv }
          writing := some (m.kvSets x.app) } = m.apply x.app := by
        change { m.apply x.app with kv := (m.kvSets x.app).foldl GeneratorPi.kvSet x.app.kv } = _
        rw [← m.apply_kv x.app]
      rw [written]
      exact durable.mutator m
  | kvSet =>
      simp only [Race.step] at h
      split at h
      · next row rest writing =>
          cases h
          intro none_wiped
          have durable := sound none_wiped
          simpa [flushed, writing] using durable
      · cases h
  | release =>
      obtain ⟨made, rfl⟩ := enabled_eq_some.mp h
      intro none_wiped
      have durable := sound none_wiped
      simpa [flushed, made] using durable
  | wipe =>
      cases h
      intro none_wiped
      simp at none_wiped
  | resetMemory =>
      obtain ⟨⟨idle, outstanding⟩, rfl⟩ := enabled_eq_some.mp h
      intro none_wiped
      have last : x.wiped = 1 := by
        have : x.wiped - 1 = 0 := none_wiped
        omega
      rw [flushed_of_idle (by exact idle)]
      exact (durable_resetMemory_iff x.app).mpr (clean rfl idle last)

theorem settledAfter_iff {x : Race} (sound : x.Sound) (a : RaceStep) :
    SettledAfter x a ↔ LastResetClean x a := by
  constructor
  · rintro settled rfl idle last
    have stepped : x.step .resetMemory =
        some { x with app := GeneratorPi.resetMemory x.app, wiped := x.wiped - 1 } :=
      if_pos ⟨idle, by omega⟩
    exact (durable_resetMemory_iff x.app).mp (settled _ stepped idle (by simp [last]))
  · intro clean y h idle none_wiped
    have durable := sound.step clean h none_wiped
    rwa [Race.flushed_of_idle idle] at durable

/-- From any state in which memory and rows agree, and for any interleaving: they agree whenever
all writers and resets have finished exactly when every memory reset that ends the last outstanding
factory reset finds only default rows. -/
theorem settled_run_iff {s : App} (durable : Durable s) (steps : List RaceStep) :
    Meets Race.step SettledAfter { app := s } steps ↔
      Meets Race.step LastResetClean { app := s } steps :=
  meets_congr (fun _ a sound => settledAfter_iff sound a)
    (fun _ _ _ sound clean h => Race.Sound.step sound clean h)
    (fun _ => durable)

/-- A mutator that has moved the memory before the wipe and writes its row after the memory is
wiped again, by a second reset. -/
def resetTwice : List RaceStep :=
  [.mutate (.setFuelRate 9), .wipe, .kvSet, .release, .wipe, .resetMemory, .resetMemory]

theorem settled_resetTwice : Meets Race.step SettledAfter { app := boot {} } resetTwice :=
  (settled_run_iff (durable_boot {}) resetTwice).mpr (by decide +kernel)

/-- A rate set between the two halves of a reset: the memory is back at the default rate, the row
keeps the rate that was set. -/
theorem rate_set_inside_a_reset :
    ∃ y, run Race.step {}
      [.wipe, .mutate (.setFuelRate 9), .kvSet, .release, .resetMemory] = some y ∧
      y.writing = none ∧ y.wiped = 0 ∧ ¬ Durable y.app := by
  refine ⟨_, rfl, rfl, rfl, fun durable => ?_⟩
  have fuel := durable.fuel
  revert fuel
  decide +kernel

end GeneratorPi
