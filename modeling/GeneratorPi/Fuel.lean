import GeneratorPi.State

/-!
# Fuel projection and low-fuel alerting

`genpi/fuel.py`: the linear-drain projection `level = fill_level - drain_rate * run-hours since the
fill`, the operator mutators that refine or reset it, and the edge-triggered low-fuel evaluator.
Every mutator persists the snapshot it leaves in memory (`Persisted`).
-/

namespace GeneratorPi

open Rounding

/-! ## The projection -/

/-- The run-hours since the fill that the projection and the rate fit use. -/
def runSinceFill (now : ℚ) (s : App) : ℚ :=
  max 0 (liveTotalRunHours now s - s.fuel.fillRunHours)

/-- `projected_fuel_level_locked`. -/
def projectedFuelLevel (now : ℚ) (s : App) : ℚ :=
  max 0 (min 100 (s.fuel.fillLevel - s.fuel.drainRate * runSinceFill now s))

/-! ## The operator mutators -/

/-- Put a fuel model in memory and its snapshot in the kv row, as every fuel mutator does. -/
def App.setFuel (fuel : FuelState) (s : App) : App :=
  { s with fuel := fuel, kv := { s.kv with fuelState := some fuel } }

/-- The clamp of an operator-supplied tank level. -/
def clampLevel (level : ℚ) : ℚ := max 0 (min 100 level)

theorem clampLevel_nonneg (level : ℚ) : 0 ≤ clampLevel level := le_max_left _ _

theorem clampLevel_le (level : ℚ) : clampLevel level ≤ 100 :=
  max_le (by norm_num) (min_le_left _ _)

/-- `FUEL_MIN_RUN_SINCE_FILL`. -/
def fuelMinRunSinceFill : ℚ := 1 / 20

/-- `record_fuel_reading`. -/
def recordFuelReading (now level : ℚ) (s : App) : ℚ × App :=
  let level := clampLevel level
  let run := runSinceFill now s
  if run < fuelMinRunSinceFill then
    -- Too little run-time since the fill to fit a rate: a no-op.
    (s.fuel.drainRate, s)
  else
    let newRate := max (1 / 10) ((s.fuel.fillLevel - level) / run)
    let rate := roundTo 1 (1 / 2 * s.fuel.drainRate + 1 / 2 * newRate)
    (rate, s.setFuel { s.fuel with drainRate := rate })

/-- `set_fuel_rate`. -/
def setFuelRate (rate : ℚ) (s : App) : ℚ × App :=
  let rate := max (1 / 10) (roundTo 1 rate)
  (rate, s.setFuel { s.fuel with drainRate := rate })

/-- `reset_fuel_rate`. -/
def resetFuelRate (s : App) : ℚ × App :=
  let rate := roundTo 1 s.fuel.defaultRate
  (rate, s.setFuel { s.fuel with drainRate := rate })

/-- `set_fuel_fill`: the mark is the live total, a run in progress included. -/
def setFuelFill (now level : ℚ) (s : App) : FuelState × App :=
  let fuel :=
    { s.fuel with fillLevel := clampLevel level, fillRunHours := liveTotalRunHours now s }
  (fuel, { s.setFuel fuel with lowFuelAlerted := false })

/-- `set_alerts`; an absent field keeps its value, and `int(threshold)` drops the fraction. -/
def setAlerts (enabled : Option Bool) (threshold : Option ℚ) (fuelEnabled : Option Bool)
    (s : App) : AlertsState × App :=
  let alerts : AlertsState :=
    { alertsOn := enabled.getD s.alerts.alertsOn
      alertThreshold := (threshold.map fun t =>
        max 5 (min 40 (Int.tdiv t.num t.den))).getD s.alerts.alertThreshold
      fuelEnabled := fuelEnabled.getD s.alerts.fuelEnabled }
  (alerts, { s with alerts := alerts, kv := { s.kv with alertsState := some alerts } })

/-! ## The low-fuel evaluator -/

/-- `FUEL_ALERT_REARM_MARGIN`. -/
def fuelAlertRearmMargin : ℤ := 5

/-- The action `evaluate_low_fuel` reports. -/
inductive LowFuelAction where
  | push
  | rearm
  | skip
  deriving DecidableEq, Repr

/-- `evaluate_low_fuel`. -/
def evaluateLowFuel (now : ℚ) (s : App) : LowFuelAction × App :=
  if !s.alerts.fuelEnabled || !s.alerts.alertsOn then
    (.skip, s)
  else if !s.gen.running then
    -- Nothing is draining: re-arm for the next crossing.
    (.skip, { s with lowFuelAlerted := false })
  else
    let level := projectedFuelLevel now s
    if level ≤ s.alerts.alertThreshold ∧ s.lowFuelAlerted = false then
      (.push, { s with lowFuelAlerted := true })
    else if (s.alerts.alertThreshold + fuelAlertRearmMargin : ℤ) < level ∧
        s.lowFuelAlerted = true then
      (.rearm, { s with lowFuelAlerted := false })
    else
      (.skip, s)

/-- The evaluator moves nothing but the edge flag. -/
theorem evaluateLowFuel_eq (now : ℚ) (s : App) :
    ∃ flag, (evaluateLowFuel now s).2 = { s with lowFuelAlerted := flag } := by
  unfold evaluateLowFuel
  split
  · exact ⟨s.lowFuelAlerted, rfl⟩
  · split
    · exact ⟨false, rfl⟩
    · dsimp only
      split
      · exact ⟨true, rfl⟩
      · split
        · exact ⟨false, rfl⟩
        · exact ⟨s.lowFuelAlerted, rfl⟩

/-! ## Well-formed fuel models -/

/-- The ranges the operator mutators keep a fuel model in. -/
structure FuelState.WellFormed (f : FuelState) : Prop where
  level_nonneg : 0 ≤ f.fillLevel
  level_le : f.fillLevel ≤ 100
  rate_le : 1 / 10 ≤ f.drainRate
  default_eq : f.defaultRate = fuelDefaultRate

theorem FuelState.wellFormed_default : FuelState.WellFormed {} := by
  constructor <;> norm_num [fuelDefaultRate]

/-- The memory agrees with the rows a fresh process would load. -/
structure Persisted (s : App) : Prop where
  total : s.kv.totalRunHours.getD 0 = s.gen.totalRunHours
  fuel : s.kv.fuelState.getD {} = s.fuel

/-- What a fuel mutator leaves: the other stores untouched, the new model persisted, and the fill
mark moved at most by a refuel. -/
theorem recordFuelReading_eq (now level : ℚ) (s : App) :
    ∃ rate, (s.fuel.WellFormed → 1 / 10 ≤ rate) ∧
      ((recordFuelReading now level s).2 = s ∨
        (recordFuelReading now level s).2 = s.setFuel { s.fuel with drainRate := rate }) := by
  unfold recordFuelReading
  dsimp only
  split
  · exact ⟨1 / 10, fun _ => le_rfl, Or.inl rfl⟩
  · refine ⟨_, fun wf => ?_, Or.inr rfl⟩
    set newRate := max (1 / 10) ((s.fuel.fillLevel - clampLevel level) / runSinceFill now s)
    have fit : 1 / 10 ≤ newRate := le_max_left _ _
    have blend : (1 / 10 : ℚ) ≤ 1 / 2 * s.fuel.drainRate + 1 / 2 * newRate := by
      linarith [wf.rate_le]
    have rounded := le_roundTo (n := 1) (k := 1) (by simpa using blend)
    simpa using rounded

end GeneratorPi
