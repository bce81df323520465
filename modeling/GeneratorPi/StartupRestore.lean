import GeneratorPi.Lib.OrderedDict
import GeneratorPi.Lib.PyFloat
import GeneratorPi.AnyClock

/-!
# Restoring the durable state at startup

`load_persisted_state` of `genpi/state.py` over `kv_get` of `genpi/store.py`, with rows of any
content: no connection, no row, a text that is not JSON, or any JSON value.  `float` turns the
stored odometer into the total, and the exceptions it raises on a text or on a shape of another
kind are caught.  The one it raises on an integer that is too large is not, and what it makes of a
non-finite value or a bool is taken over (`survives_iff`).

On the rows the program writes itself this is the restore of `State.lean`
(`loadPersistedState_ofApp`).
-/

namespace GeneratorPi.Startup

open PyJson PyText PyFloat OrderedDict

/-! ## The kv table -/

/-- The value column of a row. -/
inductive Stored where
  /-- A JSON document, as the value it stands for. -/
  | document (value : Json)
  /-- A text that is no JSON document, with what `json.loads` raises on it. -/
  | undecodable (error : PyError)

mutual

/-- No integer of the value has more digits than `int` reads. -/
def intsReadable : Json → Bool
  | .int n => n.natAbs < 10 ^ intMaxStrDigits
  | .list items => itemsReadable items
  | .dict entries => entriesReadable entries
  | _ => true

def itemsReadable : List Json → Bool
  | [] => true
  | j :: items => intsReadable j && itemsReadable items

def entriesReadable : List (Text × Json) → Bool
  | [] => true
  | (_, j) :: entries => intsReadable j && entriesReadable entries

end

/-- `json.loads`. -/
def jsonLoads : Stored → Except PyError Json
  | .document value =>
      if intsReadable value then .ok value
      else .error ⟨.value, s!"Exceeds the limit ({intMaxStrDigits} digits) for integer string " ++
        "conversion; use sys.set_int_max_str_digits() to increase the limit"⟩
  | .undecodable error => .error error

/-- The rows of the table; `none` where there is no connection or a query raises. -/
abbrev Store := Option (String → Option Stored)

/-- `kv_get`. -/
def kvGet (store : Store) (key : String) (default : Json) : Json :=
  match store with
  | none => default
  | some rows =>
      match rows key with
      | none => default
      | some content =>
          match jsonLoads content with
          | .ok value => value
          | .error _ => default

/-- The JSON value that can be read under a key. -/
def readable (store : Store) (key : String) : Option Json :=
  (store.bind fun rows => rows key).bind fun content => (jsonLoads content).toOption

theorem kvGet_eq (store : Store) (key : String) (default : Json) :
    kvGet store key default = (readable store key).getD default := by
  cases store with
  | none => rfl
  | some rows =>
      dsimp only [kvGet, readable, Option.bind_some]
      cases rows key with
      | none => rfl
      | some content =>
          dsimp only [Option.bind_some]
          cases jsonLoads content <;> rfl

/-! ## `load_persisted_state` -/

/-- The globals that are restored: the odometer, and the fuel and alert models with a value of any
shape under each of their keys. -/
structure Memory where
  totalRunHours : FloatValue
  fuelState : Dict Text Json
  alertsState : Dict Text Json

/-- What the restore leaves. -/
structure Restored where
  memory : Memory
  /-- The raw value that the CRITICAL line calls corrupt. -/
  corrupt : Option Json

section

variable (P : Printable) (floatRepr : FloatValue → Text)

/-- The odometer, and the raw value where the total in memory is kept instead of it. -/
def restoreTotal (store : Store) (total : FloatValue) : Except PyError (FloatValue × Option Json) :=
  let rawTotal := kvGet store "total_run_hours" (.float total (floatRepr total))
  match toFloat P rawTotal with
  | .ok hours => .ok (hours, none)
  | .error e =>
      -- `except (TypeError, ValueError)`.
      if e.kind = .type || e.kind = .value then .ok (total, some rawTotal) else .error e

/-- Only the known keys of a saved object are copied. -/
def copyKnown (saved : Json) (known : Dict Text Json) : Dict Text Json :=
  match saved with
  | .dict entries => known.refresh fun key => entries.lookup key
  | _ => known

/-- `load_persisted_state`. -/
def loadPersistedState (store : Store) (s : Memory) : Except PyError Restored := do
  let (total, corrupt) ← restoreTotal P floatRepr store s.totalRunHours
  return {
    memory :=
      { totalRunHours := total
        fuelState := copyKnown (kvGet store "fuel_state" .null) s.fuelState
        alertsState := copyKnown (kvGet store "alerts_state" .null) s.alertsState }
    corrupt := corrupt }

end

/-! ## The stored objects -/

/-- The keys are the known ones, and each of them has the stored value where an object with that key
is stored. -/
structure KnownKeysTaken (known : Dict Text Json) (saved : Option Json)
    (after : Dict Text Json) : Prop where
  keys : after.keys = known.keys
  taken : ∀ entries, saved = some (.dict entries) → ∀ key ∈ known.keys,
    after.get? key = (entries.lookup key).or (known.get? key)
  other : (∀ entries, saved ≠ some (.dict entries)) → after = known

theorem copyKnown_taken (known : Dict Text Json) (saved : Option Json) :
    KnownKeysTaken known saved (copyKnown (saved.getD .null) known) where
  keys := by
    unfold copyKnown
    split
    · exact Dict.keys_refresh
    · rfl
  taken := by
    rintro entries rfl key mem
    obtain ⟨old, here⟩ := Dict.mem_keys.mp mem
    rw [Option.getD_some, copyKnown, Dict.get?_refresh, Dict.get?_eq_some.mpr here]
    cases entries.lookup key <;> rfl
  other := by
    intro shape
    unfold copyKnown
    split
    · next entries eq =>
        cases saved with
        | none => cases eq
        | some value => exact absurd (congrArg some eq) (shape entries)
    · rfl

/-! ## The stored odometer -/

/-- The value where it is finite. -/
def finite? : FloatValue → Option ℚ
  | .finite q => some q
  | _ => none

/-- The finite number that a stored value is, or is the text of; a bool is none. -/
def finiteNumber? : Json → Option ℚ
  | .int n => finite? (binary64.round n)
  | .float value _ => finite? value
  | .str s => (float? s).bind finite?
  | _ => none

/-- The stored odometer is restored or does no harm: it is not an integer that is too large, not a
non-finite value or the text of one, and not a bool other than the total that is kept. -/
def RestorableTotal (total : ℚ) : Option Json → Prop
  | some (.int n) => |n| < floatLimit
  | some (.float value _) => ∃ q, value = .finite q
  | some (.str s) => ∀ value, float? s = some value → ∃ q, value = .finite q
  | some (.bool b) => (if b then 1 else 0) = total
  | _ => True

variable (P : Printable) (floatRepr : FloatValue → Text) (store : Store)

/-- The restore ends with the number that is stored or else with the total it found, and the known
keys of the stored objects are taken over. -/
def Survives (total : ℚ) (fuel alerts : Dict Text Json) : Prop :=
  ∃ restored, loadPersistedState P floatRepr store ⟨.finite total, fuel, alerts⟩ = .ok restored ∧
    restored.memory.totalRunHours =
      .finite (((readable store "total_run_hours").bind finiteNumber?).getD total) ∧
    KnownKeysTaken fuel (readable store "fuel_state") restored.memory.fuelState ∧
    KnownKeysTaken alerts (readable store "alerts_state") restored.memory.alertsState

theorem finite_eq_iff (value : FloatValue) (total : ℚ) :
    value = .finite ((finite? value).getD total) ↔ ∃ q, value = .finite q := by
  constructor
  · exact fun eq => ⟨_, eq⟩
  · rintro ⟨q, rfl⟩
    rfl

/-- The objects are copied whatever the odometer is; what decides is where its restore ends. -/
theorem survives_iff_total {total : ℚ} {fuel alerts : Dict Text Json} :
    Survives P floatRepr store total fuel alerts ↔
      ∃ corrupt, restoreTotal P floatRepr store (.finite total) =
        .ok (.finite (((readable store "total_run_hours").bind finiteNumber?).getD total),
          corrupt) := by
  unfold Survives loadPersistedState
  rw [kvGet_eq, kvGet_eq]
  cases restoreTotal P floatRepr store (.finite total) with
  | error e =>
      constructor
      · rintro ⟨restored, eq, -⟩
        cases eq
      · rintro ⟨corrupt, eq⟩
        cases eq
  | ok ended =>
      constructor
      · rintro ⟨restored, eq, hours, -⟩
        cases eq
        exact ⟨ended.2, by rw [← hours]⟩
      · rintro ⟨corrupt, eq⟩
        cases eq
        exact ⟨_, rfl, rfl, copyKnown_taken fuel _, copyKnown_taken alerts _⟩

/-- The restore of an odometer that can be read, by what `float` makes of it. -/
theorem restoreTotal_some {value : Json} (stored : readable store "total_run_hours" = some value)
    (total : FloatValue) :
    restoreTotal P floatRepr store total =
      match toFloat P value with
      | .ok hours => .ok (hours, none)
      | .error e =>
          if e.kind = .type || e.kind = .value then .ok (total, some value) else .error e := by
  rw [restoreTotal, kvGet_eq, stored]
  rfl

/-- The exception `float` raises on an integer that is too large is not caught. -/
theorem restoreTotal_tooLarge {n : ℤ}
    (stored : readable store "total_run_hours" = some (.int n)) (large : floatLimit ≤ |n|)
    (total : FloatValue) :
    restoreTotal P floatRepr store total =
      .error ⟨.overflow, "int too large to convert to float"⟩ := by
  rw [restoreTotal_some P floatRepr store stored]
  rcases floatOfInt_cases n with ⟨-, eq⟩ | ⟨fits, -⟩
  · rw [toFloat, eq]
    rfl
  · exact absurd large (not_le.mpr fits)

/-- For rows of any content: the restore survives exactly when the stored odometer is restorable. -/
theorem survives_iff (total : ℚ) (fuel alerts : Dict Text Json) :
    Survives P floatRepr store total fuel alerts ↔
      RestorableTotal total (readable store "total_run_hours") := by
  rw [survives_iff_total]
  cases stored : readable store "total_run_hours" with
  | none =>
      rw [restoreTotal, kvGet_eq, stored]
      exact iff_of_true ⟨none, rfl⟩ trivial
  | some value =>
      rw [restoreTotal_some P floatRepr store stored]
      cases value with
      | null | list | dict => exact iff_of_true ⟨_, rfl⟩ trivial
      | bool b => simp [toFloat, finiteNumber?, RestorableTotal]
      | float value repr =>
          rw [RestorableTotal, ← finite_eq_iff _ total]
          simp [toFloat, finiteNumber?]
      | int n =>
          rcases floatOfInt_cases n with ⟨large, -⟩ | ⟨fits, v, eq⟩
          · rw [← restoreTotal_some P floatRepr store stored,
              restoreTotal_tooLarge P floatRepr store stored large]
            simp [RestorableTotal, not_lt.mpr large]
          · have rounded := round_of_floatOfInt eq
            simp [toFloat, eq, finiteNumber?, rounded, finite?, RestorableTotal, fits]
      | str s =>
          cases read : float? s with
          | none => simp [toFloat, read, finiteNumber?, RestorableTotal]
          | some value =>
              have finite := finite_eq_iff value total
              simp [toFloat, read, finiteNumber?, RestorableTotal, finite]

/-- A number as `json` decodes it. -/
def number (q : ℚ) : Json := .float (.finite q) (floatRepr (.finite q))

/-- `fuel_state`, with the values of a fuel model. -/
def fuelDict (fuel : FuelState) : Dict Text Json where
  entries :=
    [("fill_level".toList, number floatRepr fuel.fillLevel),
      ("fill_run_hours".toList, number floatRepr fuel.fillRunHours),
      ("drain_rate".toList, number floatRepr fuel.drainRate),
      ("default_rate".toList, number floatRepr fuel.defaultRate)]
  nodup := by
    change ["fill_level".toList, "fill_run_hours".toList, "drain_rate".toList,
      "default_rate".toList].Nodup
    decide

/-- `alerts_state`, with the values of an alert config. -/
def alertsDict (alerts : AlertsState) : Dict Text Json where
  entries :=
    [("alerts_on".toList, .bool alerts.alertsOn),
      ("alert_threshold".toList, .int alerts.alertThreshold),
      ("fuel_enabled".toList, .bool alerts.fuelEnabled)]
  nodup := by
    change ["alerts_on".toList, "alert_threshold".toList, "fuel_enabled".toList].Nodup
    decide

def hugeHours : ℤ := 10 ^ 400

/-- An odometer of 10^400 hours, and no other row. -/
def hugeOdometer : Store := some fun key =>
  if key = "total_run_hours" then some (.document (.int hugeHours)) else none

/-- Over it the program does not start: the restore raises on the defaults of the code. -/
theorem hugeOdometer_stops_startup :
    ¬ ∃ (P : Printable) (floatRepr : FloatValue → Text),
      Survives P floatRepr hugeOdometer 0 (fuelDict floatRepr {}) (alertsDict {}) := by
  rintro ⟨P, floatRepr, restored, eq, -⟩
  have digits : intsReadable (.int hugeHours) = true := by decide +kernel
  have stored : readable hugeOdometer "total_run_hours" = some (.int hugeHours) := by
    simp [readable, hugeOdometer, jsonLoads, digits, Except.toOption]
  have large : floatLimit ≤ |hugeHours| := by decide +kernel
  rw [loadPersistedState, restoreTotal_tooLarge P floatRepr hugeOdometer stored large] at eq
  cases eq

/-! ## The rows the program writes -/

/-- The tracked state as the globals the restore finds. -/
def memoryOf (s : App) : Memory where
  totalRunHours := .finite s.gen.totalRunHours
  fuelState := fuelDict floatRepr s.fuel
  alertsState := alertsDict s.alerts

/-- The rows as `kv_set` writes them. -/
def storeOf (kv : Kv) : Store := some fun key =>
  if key = "total_run_hours" then
    kv.totalRunHours.map fun hours => .document (number floatRepr hours)
  else if key = "fuel_state" then
    kv.fuelState.map fun fuel => .document (.dict (fuelDict floatRepr fuel).entries)
  else if key = "alerts_state" then
    kv.alertsState.map fun alerts => .document (.dict (alertsDict alerts).entries)
  else none

theorem copyKnown_dict {known saved : Dict Text Json} (same : saved.keys = known.keys) :
    copyKnown (.dict saved.entries) known = saved := by
  rw [copyKnown]
  simp only [Dict.lookup_entries]
  exact Dict.refresh_of_keys same

theorem readable_total (kv : Kv) :
    readable (storeOf floatRepr kv) "total_run_hours" =
      kv.totalRunHours.map (number floatRepr) := by
  cases h : kv.totalRunHours <;> simp [readable, storeOf, h, jsonLoads, number, intsReadable,
    Except.toOption]

theorem readable_fuel (kv : Kv) :
    readable (storeOf floatRepr kv) "fuel_state" =
      kv.fuelState.map fun fuel => .dict (fuelDict floatRepr fuel).entries := by
  cases h : kv.fuelState <;> simp [readable, storeOf, h, jsonLoads, number, intsReadable,
    entriesReadable, fuelDict, Except.toOption]

/-- The threshold of a row in its range has few digits. -/
theorem readable_alerts {kv : Kv} (inRange : kv.InRange) :
    readable (storeOf floatRepr kv) "alerts_state" =
      kv.alertsState.map fun alerts => .dict (alertsDict alerts).entries := by
  cases h : kv.alertsState with
  | none => simp [readable, storeOf, h]
  | some alerts =>
      have threshold := (inRange.alerts alerts h).threshold_le
      have positive := (inRange.alerts alerts h).threshold_ge
      have digits : alerts.alertThreshold.natAbs < 10 ^ intMaxStrDigits :=
        lt_of_lt_of_le (show alerts.alertThreshold.natAbs < 10 ^ 2 by omega)
          (Nat.pow_le_pow_right (by decide) (by decide))
      simp [readable, storeOf, h, jsonLoads, intsReadable, entriesReadable, alertsDict, digits,
        Except.toOption]

/-- Over rows in their ranges, as the program leaves them, the restore is the one of `State.lean`
and finds nothing corrupt. -/
theorem loadPersistedState_ofApp {s : App} (inRange : s.kv.InRange) :
    loadPersistedState P floatRepr (storeOf floatRepr s.kv) (memoryOf floatRepr s) =
      .ok ⟨memoryOf floatRepr (GeneratorPi.loadPersistedState s), none⟩ := by
  have total : restoreTotal P floatRepr (storeOf floatRepr s.kv) (.finite s.gen.totalRunHours) =
      .ok (.finite (s.kv.totalRunHours.getD s.gen.totalRunHours), none) := by
    rw [restoreTotal, kvGet_eq, readable_total]
    cases s.kv.totalRunHours <;> rfl
  have fuel : copyKnown (kvGet (storeOf floatRepr s.kv) "fuel_state" .null)
      (fuelDict floatRepr s.fuel) = fuelDict floatRepr (s.kv.fuelState.getD s.fuel) := by
    rw [kvGet_eq, readable_fuel]
    cases s.kv.fuelState with
    | none => rfl
    | some fuel => exact copyKnown_dict rfl
  have alerts : copyKnown (kvGet (storeOf floatRepr s.kv) "alerts_state" .null)
      (alertsDict s.alerts) = alertsDict (s.kv.alertsState.getD s.alerts) := by
    rw [kvGet_eq, readable_alerts floatRepr inRange]
    cases s.kv.alertsState with
    | none => rfl
    | some alerts => exact copyKnown_dict rfl
  rw [loadPersistedState, memoryOf, total, fuel, alerts]
  rfl

end GeneratorPi.Startup
