import GeneratorPi.Odometer

/-!
# What a fresh process would load

Every operation that moves durable memory writes the kv rows a later process restores it from, so
memory and store agree after each of them (`Durable.step`).  The record-routine-http setting of
`genpi/store.py` is one more row, mirrored by a module global that is filled on the first read.
`factory_reset` empties the rows and resets the other globals but leaves that mirror alone
(`Agreement.reset_iff`).
-/

namespace GeneratorPi

open Trace

/-! ## The globals of `genpi/state.py` -/

/-- The durable memory is what a fresh process would load from the rows. -/
structure Durable (s : App) : Prop where
  total : (boot s.kv).gen.totalRunHours = s.gen.totalRunHours
  fuel : (boot s.kv).fuel = s.fuel
  alerts : (boot s.kv).alerts = s.alerts

theorem durable_boot (kv : Kv) : Durable (boot kv) := ⟨rfl, rfl, rfl⟩

/-- Operations that touch neither the durable memory nor the rows. -/
theorem Durable.congr {s t : App} (durable : Durable s) (same : SameAccounts s t)
    (alerts : t.alerts = s.alerts) : Durable t where
  total := by rw [same.kv, same.total]; exact durable.total
  fuel := by rw [same.kv, same.fuel]; exact durable.fuel
  alerts := by rw [same.kv, alerts]; exact durable.alerts

theorem Durable.transition {s : App} (durable : Durable s) (now : ℚ) (b : Bool) :
    Durable (applyRunningTransition now b s) := by
  rcases applyRunningTransition_cases now b s with ⟨-, eq⟩ | ⟨-, -, eq⟩ | ⟨-, -, eq⟩
  · rw [eq]
    exact durable
  · rw [eq]
    exact ⟨durable.total, durable.fuel, durable.alerts⟩
  · -- A stop writes the banked total into its row.
    rw [eq]
    exact ⟨rfl, durable.fuel, durable.alerts⟩

theorem Durable.setFuel {s : App} (durable : Durable s) (fuel : FuelState) :
    Durable (s.setFuel fuel) :=
  ⟨durable.total, rfl, durable.alerts⟩

theorem Durable.stopBank {s : App} (durable : Durable s) (now : ℚ) :
    Durable (GeneratorPi.stopBank now s) := by
  have alerts : (GeneratorPi.stopBank now s).alerts =
      (applyRunningTransition now false s).alerts := by
    rcases applyRunningTransition_cases now false s with
      ⟨stopped, eq⟩ | ⟨h, -, -⟩ | ⟨-, running, eq⟩
    · rw [eq, GeneratorPi.stopBank, applyRunningTransition_same (by exact stopped)]
    · cases h
    · rw [eq, GeneratorPi.stopBank, applyRunningTransition_stop (by exact running)]
  exact (durable.transition now false).congr (stopBank_sameAccounts now s) alerts

theorem Durable.setRunning {s : App} (durable : Durable s) (now : ℚ) (b : Bool) :
    Durable (GeneratorPi.setRunning now b s) :=
  (durable.transition now b).congr (setRunning_sameAccounts now b s) rfl

theorem Durable.startFinish {s : App} (durable : Durable s) (now : ℚ) (maxRetries : ℤ) :
    Durable (GeneratorPi.startFinish now maxRetries s) :=
  (durable.transition now true).congr (startFinish_sameAccounts now maxRetries s) rfl

theorem Durable.setFuelFill {s : App} (durable : Durable s) (now level : ℚ) :
    Durable (GeneratorPi.setFuelFill now level s).2 :=
  ⟨durable.total, rfl, durable.alerts⟩

theorem Durable.recordFuelReading {s : App} (durable : Durable s) (now level : ℚ) :
    Durable (GeneratorPi.recordFuelReading now level s).2 := by
  obtain ⟨rate, -, eq | eq⟩ := recordFuelReading_eq now level s
  · rw [eq]
    exact durable
  · rw [eq]
    exact durable.setFuel _

theorem Durable.setTotalRunHours {s : App} (durable : Durable s) (now restamp hours : ℚ) :
    Durable (GeneratorPi.setTotalRunHours now restamp hours s).2 :=
  ⟨rfl, rfl, durable.alerts⟩

theorem Durable.setAlerts {s : App} (durable : Durable s) (enabled : Option Bool)
    (threshold : Option ℚ) (fuelEnabled : Option Bool) :
    Durable (GeneratorPi.setAlerts enabled threshold fuelEnabled s).2 :=
  ⟨durable.total, durable.fuel, rfl⟩

theorem Durable.factoryReset (s : App) : Durable (GeneratorPi.factoryReset s) := ⟨rfl, rfl, rfl⟩

/-- Memory and store agree after every operation on the globals of `genpi/state.py`. -/
theorem Durable.step {x y : Controller} (durable : Durable x.app) {op : Op}
    (h : x.step op = some y) : Durable y.app := by
  cases op with
  | advance d =>
      obtain ⟨-, rfl⟩ := enabled_eq_some.mp h
      exact durable
  | startCheck =>
      obtain ⟨app, eq, rfl⟩ := Option.map_eq_some_iff.mp h
      refine durable.congr (startCheck_sameAccounts eq) ?_
      unfold startCheck at eq
      split at eq <;> cases eq
      rfl
  | startAttempt m k =>
      cases h
      exact durable.congr (startAttempt_sameAccounts m k _) rfl
  | startStamp =>
      cases h
      exact durable.congr (startStamp_sameAccounts _ _) rfl
  | startFinish m =>
      cases h
      exact durable.startFinish _ m
  | stop =>
      cases h
      exact durable.stopBank _
  | setRunning b =>
      cases h
      exact durable.setRunning _ b
  | setFuelFill level =>
      cases h
      exact durable.setFuelFill _ level
  | recordFuelReading level =>
      cases h
      exact durable.recordFuelReading _ level
  | setFuelRate rate =>
      cases h
      exact durable.setFuel _
  | resetFuelRate =>
      cases h
      exact durable.setFuel _
  | setTotalRunHours hours pause =>
      obtain ⟨-, rfl⟩ := enabled_eq_some.mp h
      exact durable.setTotalRunHours _ _ hours
  | setAlerts enabled threshold fuelEnabled =>
      cases h
      exact durable.setAlerts enabled threshold fuelEnabled
  | evaluateLowFuel =>
      cases h
      obtain ⟨flag, eq⟩ := evaluateLowFuel_eq x.clock x.app
      rw [eq]
      exact ⟨durable.total, durable.fuel, durable.alerts⟩
  | factoryReset =>
      cases h
      exact Durable.factoryReset _
  | restart =>
      cases h
      exact durable_boot _

/-! ## The record-routine-http setting -/

/-- A controller together with the row `record_routine_http` and its mirror
`_record_http_cache`, which is `none` until the first read. -/
structure DurableProcess where
  controller : Controller := {}
  recordHttpCache : Option Bool := none
  recordHttpRow : Option Bool := none
  deriving DecidableEq, Repr

/-- A process that has just been started over the rows of an earlier one. -/
def DurableProcess.fresh (clock : ℚ) (kv : Kv) (row : Option Bool) : DurableProcess :=
  { controller := { app := boot kv, clock := clock }, recordHttpRow := row }

/-- `record_routine_http`: the row is read once and mirrored from then on. -/
def recordRoutineHttp (p : DurableProcess) : Bool × DurableProcess :=
  let cached := p.recordHttpCache.getD (p.recordHttpRow.getD false)
  (cached, { p with recordHttpCache := some cached })

/-- `set_record_routine_http`. -/
def setRecordRoutineHttp (enabled : Bool) (p : DurableProcess) : Bool × DurableProcess :=
  (enabled, { p with recordHttpCache := some enabled, recordHttpRow := some enabled })

/-- What an operation on the controller leaves of the row: `factory_reset` deletes every row. -/
def recordHttpRowAfter (row : Option Bool) : Op → Option Bool
  | .factoryReset => none
  | _ => row

/-- What an operation on the controller leaves of the mirror: a new process starts without one,
and `factory_reset` does not touch it. -/
def recordHttpCacheAfter (cache : Option Bool) : Op → Option Bool
  | .restart => none
  | _ => cache

/-- An operation of a process. -/
inductive StoreOp where
  | control (op : Op)
  | recordRoutineHttp
  | setRecordRoutineHttp (enabled : Bool)
  deriving DecidableEq, Repr

/-- One operation; `none` where the controller refuses it. -/
def DurableProcess.step (p : DurableProcess) : StoreOp → Option DurableProcess
  | .control op => (p.controller.step op).map fun controller =>
      { controller := controller
        recordHttpCache := recordHttpCacheAfter p.recordHttpCache op
        recordHttpRow := recordHttpRowAfter p.recordHttpRow op }
  | .recordRoutineHttp => some (GeneratorPi.recordRoutineHttp p).2
  | .setRecordRoutineHttp enabled => some (GeneratorPi.setRecordRoutineHttp enabled p).2

/-! ## Agreement of the whole process -/

/-- Every durable value of the process, the setting included, is the one a fresh process would
load from the rows. -/
structure Agreement (p : DurableProcess) : Prop where
  durable : Durable p.controller.app
  recordHttp :
    (recordRoutineHttp (.fresh p.controller.clock p.controller.app.kv p.recordHttpRow)).1 =
      (recordRoutineHttp p).1

theorem Agreement.fresh (clock : ℚ) (kv : Kv) (row : Option Bool) :
    Agreement (.fresh clock kv row) :=
  ⟨durable_boot kv, rfl⟩

/-- The setting alone, in terms of the row and its mirror. -/
theorem agreement_iff {p : DurableProcess} :
    Agreement p ↔ Durable p.controller.app ∧
      p.recordHttpRow.getD false = p.recordHttpCache.getD (p.recordHttpRow.getD false) :=
  ⟨fun agree => ⟨agree.durable, agree.recordHttp⟩, fun h => ⟨h.1, h.2⟩⟩

/-- Every operation but the factory reset keeps the agreement. -/
theorem Agreement.step {p q : DurableProcess} (agree : Agreement p) {op : StoreOp}
    (h : p.step op = some q) (other : op ≠ .control .factoryReset) : Agreement q := by
  have setting := agree.recordHttp
  cases op with
  | control op =>
      obtain ⟨controller, stepped, rfl⟩ := Option.map_eq_some_iff.mp h
      refine agreement_iff.mpr ⟨agree.durable.step stepped, ?_⟩
      cases op with
      | factoryReset => exact absurd rfl other
      | restart => rfl
      | _ => exact setting
  | recordRoutineHttp =>
      cases h
      exact agreement_iff.mpr ⟨agree.durable, setting⟩
  | setRecordRoutineHttp enabled =>
      cases h
      exact agreement_iff.mpr ⟨agree.durable, rfl⟩

/-- A factory reset keeps the agreement exactly when the mirror is not holding `True`, the one
value that differs from the default of an absent row. -/
theorem Agreement.reset_iff {p q : DurableProcess} (h : p.step (.control .factoryReset) = some q) :
    Agreement q ↔ p.recordHttpCache ≠ some true := by
  cases h
  rw [agreement_iff]
  cases cache : p.recordHttpCache with
  | none => simp [recordHttpRowAfter, recordHttpCacheAfter, Durable.factoryReset]
  | some cached => simp [recordHttpRowAfter, recordHttpCacheAfter, Durable.factoryReset]

/-- The property of one step: memory and store agree after it. -/
def AgreesAfter (p : DurableProcess) (op : StoreOp) : Prop :=
  ∀ q, p.step op = some q → Agreement q

/-- A factory reset finds the mirror of the record-routine-http row without the value `True`. -/
def ResetUnmirrored (p : DurableProcess) (op : StoreOp) : Prop :=
  op = .control .factoryReset → p.recordHttpCache ≠ some true

instance (p : DurableProcess) (op : StoreOp) : Decidable (ResetUnmirrored p op) :=
  inferInstanceAs (Decidable (_ → _))

theorem agreesAfter_iff {p : DurableProcess} (agree : Agreement p) (op : StoreOp) :
    AgreesAfter p op ↔ ResetUnmirrored p op := by
  constructor
  · rintro after rfl
    exact (Agreement.reset_iff rfl).mp (after _ rfl)
  · intro uncached q h
    by_cases reset : op = .control .factoryReset
    · subst reset
      exact (Agreement.reset_iff h).mpr (uncached rfl)
    · exact agree.step h reset

/-- Over the rows of any earlier process: memory and store agree after every operation of a run
exactly when no factory reset of it finds the setting mirrored as `True`. -/
theorem agreement_run_iff (clock : ℚ) (kv : Kv) (row : Option Bool) (ops : List StoreOp) :
    Meets DurableProcess.step AgreesAfter (.fresh clock kv row) ops ↔
      Meets DurableProcess.step ResetUnmirrored (.fresh clock kv row) ops :=
  meets_congr (fun _ op agree => agreesAfter_iff agree op)
    (fun _ op _ agree uncached h => (agreesAfter_iff agree op).mpr uncached _ h)
    (Agreement.fresh clock kv row)

/-- Recording is switched on and the memory wiped: the running process still records, the next
one does not. -/
theorem reset_leaves_the_mirror :
    ∃ p, run DurableProcess.step {} [.setRecordRoutineHttp true, .control .factoryReset] = some p ∧
      ¬ Agreement p := by
  refine ⟨_, rfl, fun agree => ?_⟩
  have setting := agree.recordHttp
  revert setting
  decide

end GeneratorPi
