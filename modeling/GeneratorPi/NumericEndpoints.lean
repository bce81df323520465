import GeneratorPi.AnyClock
import GeneratorPi.Lib.PyFloat
import GeneratorPi.Requests

/-!
# The endpoints that take a number

`_json_number` (`genpi/routes/_helpers.py`), `api_runtime_hours` (`genpi/routes/core.py`), and the
fuel and alert endpoints (`genpi/routes/fuel.py`), over any body and any failing of the database.

`float(v)` is guarded where `v` is a string and not where it is an integer: one of `floatLimit` or
more in magnitude raises.  A body that is nested too deep for the decoder raises as well.  On
every other body the endpoints answer 400 and leave the state alone, or store what is in the range
of the setter (`safelyAnswered_iff`).
-/

namespace GeneratorPi

open Handled Noninterference PyFloat PyJson PyText Rounding Trace

/-! ## Reading a number -/

/-- The value of a key, where the body is an object that has it. -/
def present (data : Json) (name : String) : Option Json :=
  match data with
  | .dict entries => entries.lookup name.toList
  | _ => none

theorem present_cons_self {name : String} {value : Json} {entries : List (Text × Json)} :
    present (.dict ((name.toList, value) :: entries)) name = some value := by
  simp [present]

/-- `math.isfinite`, with what `_json_number` makes of it. -/
def finiteOnly (name : String) : FloatValue → Except String ℚ
  | .finite q => .ok q
  | _ => .error s!"'{name}' is not a finite number"

/-- What it makes of a string, which `float` reads or not. -/
def numberOfText (name : String) : Option FloatValue → Except String ℚ
  | some value => finiteOnly name value
  | none => .error s!"'{name}' is not a number"

/-- `_json_number` on a value that is present. -/
def numberOf (name : String) : Json → Except PyError (Except String ℚ)
  | .int n => (floatOfInt n).map (finiteOnly name)
  | .float value _ => .ok (finiteOnly name value)
  | .str s => .ok (numberOfText name (float? (strip s)))
  -- A `bool` is no number here, though it is an `int`.
  | _ => .ok (.error s!"'{name}' is not a number")

/-- `_json_number`. -/
def jsonNumber (data : Json) (name : String) : Except PyError (Except String ℚ) :=
  match present data name with
  | some v => numberOf name v
  | none => .ok (.error s!"missing '{name}'")

/-- The field is an integer that no float can hold. -/
def TooLarge (data : Json) (name : String) : Prop :=
  ∃ n, present data name = some (.int n) ∧ floatLimit ≤ |n|

/-- The conversion raises on an integer that is too large, and on nothing else. -/
theorem jsonNumber_cases (data : Json) (name : String) :
    (TooLarge data name ∧ ∃ e, jsonNumber data name = .error e) ∨
      (¬ TooLarge data name ∧ ∃ number, jsonNumber data name = .ok number) := by
  unfold jsonNumber TooLarge
  cases present data name with
  | none => exact Or.inr ⟨by simp, _, rfl⟩
  | some v =>
      cases v with
      | int n =>
          dsimp only [numberOf]
          rcases floatOfInt_cases n with ⟨large, eq⟩ | ⟨fits, v, eq⟩
          · exact Or.inl ⟨⟨n, rfl, large⟩, _, by rw [eq]; rfl⟩
          · refine Or.inr ⟨?_, finiteOnly name (.finite v), by rw [eq]; rfl⟩
            rintro ⟨n', same, large⟩
            cases same
            exact absurd large (not_le.mpr fits)
      | _ => exact Or.inr ⟨by simp, _, rfl⟩

/-! ## The handlers -/

/-- How Python writes a float: `repr(x)`, and `format(x, "g")`. -/
structure FloatText where
  repr : ℚ → Text
  general : ℚ → Text

variable (text : FloatText) (request : RequestContext)

def floatJson (q : ℚ) : Json := .float (.finite q) (text.repr q)

def fuelJson (f : FuelState) : Json :=
  .dict [("fill_level".toList, floatJson text f.fillLevel),
    ("fill_run_hours".toList, floatJson text f.fillRunHours),
    ("drain_rate".toList, floatJson text f.drainRate),
    ("default_rate".toList, floatJson text f.defaultRate)]

def alertsJson (a : AlertsState) : Json :=
  .dict [("alerts_on".toList, .bool a.alertsOn),
    ("alert_threshold".toList, .int a.alertThreshold),
    ("fuel_enabled".toList, .bool a.fuelEnabled)]

namespace Api

/-- An endpoint that reads one number: a setter applied to it, an event about what the setter
returned, and the response. -/
def numberEndpoint (name : String) (setter : ℚ → Mutator) (type : String)
    (message : ℚ → Value → Text) (response : Value → List (String × Json)) (data : Json) :
    Handler Response := do
  match ← jsonNumber data name with
  | .error err => return failed 400 err
  | .ok value =>
      let result ← onBoard
        (Proc.audited request.config (setter value) type (message value) request.actor)
      return ⟨200, ("success", .bool true) :: response result⟩

/-- `api_runtime_hours`. -/
def runtimeHours : Json → Handler Response :=
  numberEndpoint request "hours" (.setTotalRunHours (request.clock 0) (request.clock 1))
    "set_running"
    (fun _ result => match result with
      | .hours old new => "Total run-hours set to ".toList ++ text.general new ++
          " h (was ".toList ++
          text.general old ++ " h)".toList
      | _ => [])
    (fun result => match result with
      | .hours _ new => [("total_run_hours", floatJson text new)]
      | _ => [])

/-- The response with the drain rate. -/
def rateResponse : Value → List (String × Json)
  | .rate rate => [("drain_rate", floatJson text rate)]
  | _ => []

/-- `api_fuel_reading`. -/
def fuelReading : Json → Handler Response :=
  numberEndpoint request "level" (.recordFuelReading (request.clock 0)) "fuel"
    (fun value result => match result with
      | .rate rate => "Observed level ".toList ++ text.general (clampLevel value) ++
          "% - drain rate now ".toList ++ text.general rate ++ " %/hr".toList
      | _ => [])
    (rateResponse text)

/-- `api_fuel_rate`. -/
def fuelRate : Json → Handler Response :=
  numberEndpoint request "rate" .setFuelRate "fuel"
    (fun _ result => match result with
      | .rate rate => "Drain rate set to ".toList ++ text.general rate ++ " %/hr".toList
      | _ => [])
    (rateResponse text)

/-- `api_fuel_fill`. -/
def fuelFill : Json → Handler Response :=
  numberEndpoint request "level" (.setFuelFill (request.clock 0)) "fuel"
    (fun _ result => match result with
      | .fuel snap => "Tank filled to ".toList ++ text.general snap.fillLevel ++ "%".toList
      | _ => [])
    (fun result => match result with
      | .fuel snap => [("fuel", fuelJson text snap)]
      | _ => [])

/-- `_bool_field`. -/
def boolField (data : Json) (name : String) : Option Bool := (present data name).map flagOf

/-- The threshold, if the body has one. -/
def threshold (data : Json) : Except PyError (Except String (Option ℚ)) :=
  if (present data "threshold").isSome then (jsonNumber data "threshold").map (Except.map some)
  else .ok (.ok none)

/-- `api_alerts`. -/
def alerts (data : Json) : Handler Response := do
  match ← threshold data with
  | .error terr => return failed 400 terr
  | .ok value =>
      let snap ← onBoard (Proc.mutate
        (.setAlerts (boolField data "enabled") value (boolField data "fuel_enabled")))
      return ⟨200, ("success", .bool true) :: match snap with
        | .alerts alerts => [("alerts", alertsJson alerts)]
        | _ => []⟩

end Api

inductive NumericEndpoint where
  | runtimeHours
  | fuelReading
  | fuelRate
  | fuelFill
  | alerts
  deriving DecidableEq, Repr

/-- The key an endpoint reads its number from. -/
def NumericEndpoint.key : NumericEndpoint → String
  | .runtimeHours => "hours"
  | .fuelReading | .fuelFill => "level"
  | .fuelRate => "rate"
  | .alerts => "threshold"

def NumericEndpoint.handler : NumericEndpoint → Json → Handler Response
  | .runtimeHours => Api.runtimeHours text request
  | .fuelReading => Api.fuelReading text request
  | .fuelRate => Api.fuelRate text request
  | .fuelFill => Api.fuelFill text request
  | .alerts => Api.alerts

/-! ## What is asked of them -/

/-- The tracked state, with the kv rows of the store. -/
def Site.app (s : Site) : App := { s.board.control.app with kv := s.board.store.rows }

/-- The range a setter documents for what it stores. -/
def NumericEndpoint.Bounds (s : App) : NumericEndpoint → Prop
  | .runtimeHours => 0 ≤ s.gen.totalRunHours ∧ s.gen.totalRunHours ≤ maxTotalRunHours
  | .fuelReading | .fuelRate => 1 / 10 ≤ s.fuel.drainRate
  | .fuelFill => 0 ≤ s.fuel.fillLevel ∧ s.fuel.fillLevel ≤ 100
  | .alerts => 5 ≤ s.alerts.alertThreshold ∧ s.alerts.alertThreshold ≤ 40

/-- Each row is one that was there, or what stands in memory. -/
structure RowsMirror (before : Kv) (s : App) (rows : Kv) : Prop where
  total : rows.totalRunHours = before.totalRunHours ∨ rows.totalRunHours = some s.gen.totalRunHours
  fuel : rows.fuelState = before.fuelState ∨ rows.fuelState = some s.fuel
  alerts : rows.alertsState = before.alertsState ∨ rows.alertsState = some s.alerts

/-- What a request that succeeds leaves. -/
structure Stored (endpoint : NumericEndpoint) (s t : App) : Prop where
  bounds : endpoint.Bounds t
  mirror : RowsMirror s.kv t t.kv
  inRange : t.InRange

/-- The handler returns: a 400 with the stored state unchanged, or a success that has stored what is
in range. -/
def SafelyAnswered (endpoint : NumericEndpoint) (body : Body) (s : Site) : Prop :=
  ∃ r t, received request (endpoint.handler text request) body s = .ok r t ∧
    ((r.status = 400 ∧ Unchanged s t) ∨ (r.status = 200 ∧ Stored endpoint s.app t.app))

/-! ## What a setter stores -/

variable {text request} {s : Site} {body : Json} {endpoint : NumericEndpoint}

theorem RowsMirror.refl (kv : Kv) (s : App) : RowsMirror kv s kv :=
  ⟨Or.inl rfl, Or.inl rfl, Or.inl rfl⟩

theorem RowsMirror.kvSet {before rows : Kv} {s : App} {m : Mutator} {row : KvRow}
    (mirror : RowsMirror before (m.apply s) rows) (mem : row ∈ m.kvSets s) :
    RowsMirror before (m.apply s) (GeneratorPi.kvSet rows row) := by
  rcases Mutator.mem_kvSets mem with rfl | rfl | rfl
  · exact ⟨Or.inr rfl, mirror.fuel, mirror.alerts⟩
  · exact ⟨mirror.total, Or.inr rfl, mirror.alerts⟩
  · exact ⟨mirror.total, mirror.fuel, Or.inr rfl⟩

/-- Rows that mirror a memory in range, or were there in range, are in range. -/
theorem RowsMirror.inRange {before rows : Kv} {s : App} (mirror : RowsMirror before s rows)
    (old : before.InRange) (memory : MemoryInRange s) : rows.InRange where
  total hours row := by
    rcases mirror.total with same | new
    · exact old.total hours (same ▸ row)
    · rw [new] at row
      exact Option.some.inj row ▸ memory.total_nonneg
  fuel fuel row := by
    rcases mirror.fuel with same | new
    · exact old.fuel fuel (same ▸ row)
    · rw [new] at row
      exact Option.some.inj row ▸ memory.fuel
  alerts alerts row := by
    rcases mirror.alerts with same | new
    · exact old.alerts alerts (same ▸ row)
    · rw [new] at row
      exact Option.some.inj row ▸ memory.alerts

theorem Site.memoryInRange (inRange : s.app.InRange) : MemoryInRange s.board.control.app :=
  ⟨inRange.running_iff, inRange.total_nonneg, inRange.fuel, inRange.alerts⟩

/-- A setter in its range leaves a state in range, with rows that mirror it. -/
theorem stored_of_setter {m : Mutator} {store : Store} (inRange : s.app.InRange)
    (bounds : endpoint.Bounds (m.apply s.board.control.app))
    (mirror : RowsMirror s.board.store.rows (m.apply s.board.control.app) store.rows) :
    Stored endpoint s.app
      (Site.app { s with board := s.board.remember (m.apply s.board.control.app) store }) := by
  have after := (Site.memoryInRange inRange).mutator m
  have rows := mirror.inRange inRange.rows after
  refine ⟨?_, ⟨mirror.total, mirror.fuel, mirror.alerts⟩, .of_memory
    ⟨after.running_iff, after.total_nonneg, after.fuel, after.alerts⟩ rows⟩
  cases endpoint <;> exact bounds

namespace Api

variable {name type : String} {setter : ℚ → Mutator} {message : ℚ → Value → Text}
  {response : Value → List (String × Json)}

theorem numberEndpoint_raises (large : TooLarge body name) (s : Site) :
    ∃ e, numberEndpoint request name setter type message response body s = .error e s := by
  rcases jsonNumber_cases body name with ⟨-, e, raised⟩ | ⟨small, -⟩
  · refine ⟨e, ?_⟩
    unfold numberEndpoint
    rw [raised]
    rfl
  · exact absurd large small

/-- A number that is read is refused, or handed to the setter. -/
theorem numberEndpoint_answers (small : ¬ TooLarge body name) (inRange : s.app.InRange)
    (bounds : ∀ value, endpoint.Bounds ((setter value).apply s.board.control.app)) :
    ∃ r t, numberEndpoint request name setter type message response body s = .ok r t ∧
      ((r.status = 400 ∧ Unchanged s t) ∨ (r.status = 200 ∧ Stored endpoint s.app t.app)) := by
  rcases jsonNumber_cases body name with ⟨large, -⟩ | ⟨-, number, read⟩
  · exact absurd large small
  · unfold numberEndpoint
    rw [read]
    cases number with
    | error err => exact ⟨failed 400 err, s, rfl, Or.inl ⟨rfl, Unchanged.refl s⟩⟩
    | ok value =>
        obtain ⟨store, moved, mirror⟩ := Proc.audited_run request.config (setter value) type
          (message value) request.actor s.board (RowsMirror.refl _ _)
          fun row mem kv mirror => mirror.kvSet mem
        exact ⟨_, _, (bind_run rfl).trans (bind_run (onBoard_run moved)),
          Or.inr ⟨rfl, stored_of_setter inRange (bounds value) mirror⟩⟩

/-- The threshold is read like any number, where there is one. -/
theorem threshold_cases (data : Json) :
    (TooLarge data "threshold" ∧ ∃ e, threshold data = .error e) ∨
      (¬ TooLarge data "threshold" ∧ ∃ value, threshold data = .ok value) := by
  unfold threshold
  cases there : (present data "threshold").isSome with
  | false =>
      refine Or.inr ⟨?_, _, rfl⟩
      rintro ⟨n, here, -⟩
      rw [here] at there
      cases there
  | true =>
      rcases jsonNumber_cases data "threshold" with ⟨large, e, eq⟩ | ⟨small, number, eq⟩
      · exact Or.inl ⟨large, e, by rw [eq]; rfl⟩
      · exact Or.inr ⟨small, number.map some, by rw [eq]; rfl⟩

theorem alerts_raises (large : TooLarge body "threshold") (s : Site) :
    ∃ e, alerts body s = .error e s := by
  rcases threshold_cases body with ⟨-, e, raised⟩ | ⟨small, -⟩
  · refine ⟨e, ?_⟩
    unfold alerts
    rw [raised]
    rfl
  · exact absurd large small

theorem alerts_answers (small : ¬ TooLarge body "threshold") (inRange : s.app.InRange) :
    ∃ r t, alerts body s = .ok r t ∧
      ((r.status = 400 ∧ Unchanged s t) ∨ (r.status = 200 ∧ Stored .alerts s.app t.app)) := by
  rcases threshold_cases body with ⟨large, -⟩ | ⟨-, value, read⟩
  · exact absurd large small
  · unfold alerts
    rw [read]
    cases value with
    | error terr => exact ⟨failed 400 terr, s, rfl, Or.inl ⟨rfl, Unchanged.refl s⟩⟩
    | ok value =>
        set m : Mutator := .setAlerts (boolField body "enabled") value
          (boolField body "fuel_enabled")
        have after := (Site.memoryInRange inRange).mutator m
        obtain ⟨store, moved, mirror⟩ := Proc.mutate_run m s.board (RowsMirror.refl _ _)
          fun row mem kv mirror => mirror.kvSet mem
        exact ⟨_, _, (bind_run rfl).trans (bind_run (onBoard_run moved)), Or.inr ⟨rfl,
          stored_of_setter inRange ⟨after.alerts.threshold_ge, after.alerts.threshold_le⟩ mirror⟩⟩

end Api

/-- In every state the operations reach, an endpoint answers a body safely exactly when the decoder
comes through it and its number is not an integer too large for a float. -/
theorem safelyAnswered_iff (text : FloatText) (request : RequestContext)
    (endpoint : NumericEndpoint) (body : Body) :
    (∀ s ops, run App.step (boot {}) ops = some s.app →
      SafelyAnswered text request endpoint body s) ↔
      body.nesting ≤ request.nestingLimit ∧ ¬ TooLarge body.value endpoint.key := by
  constructor
  · intro answered
    obtain ⟨r, t, ran, -⟩ := answered {} [] rfl
    have shallow : body.nesting ≤ request.nestingLimit := by
      by_contra deep
      obtain ⟨e, raised⟩ := received_raises deep (endpoint.handler text request) {}
      cases raised.symm.trans ran
    refine ⟨shallow, fun large => ?_⟩
    rw [received_eq shallow] at ran
    have raises : ∃ e, endpoint.handler text request body.value {} = .error e {} := by
      cases endpoint with
      | alerts => exact Api.alerts_raises large {}
      | _ => exact Api.numberEndpoint_raises large {}
    obtain ⟨e, raised⟩ := raises
    cases raised.symm.trans ran
  · intro ⟨shallow, small⟩ s ops ran
    rw [SafelyAnswered, received_eq shallow]
    have inRange : s.app.InRange := run_invariant (fun _ _ _ => App.InRange.step) .firstBoot ran
    have memory := Site.memoryInRange inRange
    cases endpoint with
    | runtimeHours => exact Api.numberEndpoint_answers small inRange fun value =>
        ⟨clampTotalRunHours_nonneg value, clampTotalRunHours_le value⟩
    | fuelReading => exact Api.numberEndpoint_answers small inRange fun value =>
        (memory.mutator (.recordFuelReading (request.clock 0) value)).fuel.rate_le
    | fuelRate => exact Api.numberEndpoint_answers small inRange fun value =>
        (memory.mutator (.setFuelRate value)).fuel.rate_le
    | fuelFill => exact Api.numberEndpoint_answers small inRange fun value =>
        ⟨(memory.mutator (.setFuelFill (request.clock 0) value)).fuel.level_nonneg,
          (memory.mutator (.setFuelFill (request.clock 0) value)).fuel.level_le⟩
    | alerts => exact Api.alerts_answers small inRange

/-- A level of `10 ^ 400` makes the fill raise, on a fresh site. -/
theorem huge_level_raises :
    ¬ ∀ s ops, run App.step (boot {}) ops = some s.app →
      SafelyAnswered ⟨fun _ => [], fun _ => []⟩ {} .fuelFill
        ⟨.dict [("level".toList, .int (10 ^ 400))], 1⟩ s := by
  intro answered
  have large : TooLarge (.dict [("level".toList, .int (10 ^ 400))]) "level" :=
    ⟨10 ^ 400, present_cons_self, by decide +kernel⟩
  obtain ⟨e, raised⟩ := Api.numberEndpoint_raises large {}
  obtain ⟨r, t, ran, -⟩ := answered {} [] rfl
  rw [received_eq (by decide)] at ran
  cases raised.symm.trans ran

end GeneratorPi
