import GeneratorPi.Lib.Rounding

/-!
# In-memory application state and its durable rows

`genpi/state.py`: the tracked run-state with the lifetime odometer, the fuel-projection model, the
alert config, the run-hours accounting, and the restore at startup.  The kv table of
`genpi/store.py` appears as the rows these modules write (`Kv`), a row being `none` until its
first write.

Times are the unix clock in seconds and hours are exact rationals; every function that reads
`time.time()` takes the reading as an argument.  ISO stamps are kept as the reading they render.
-/

namespace GeneratorPi

open Rounding

/-! ## The stores -/

/-- `generator_state`. -/
structure GeneratorState where
  running : Bool := false
  lastCommand : Option String := none
  lastStartTime : Option ℚ := none
  lastStopTime : Option ℚ := none
  startAttempts : ℕ := 0
  message : String := "System ready"
  currentRunStartedAt : Option ℚ := none
  totalRunHours : ℚ := 0
  deriving DecidableEq, Repr

/-- `FUEL_DEFAULT_RATE`, 6.4 %/hr. -/
def fuelDefaultRate : ℚ := 32 / 5

/-- `fuel_state`. -/
structure FuelState where
  fillLevel : ℚ := 100
  fillRunHours : ℚ := 0
  drainRate : ℚ := fuelDefaultRate
  defaultRate : ℚ := fuelDefaultRate
  deriving DecidableEq, Repr

/-- `alerts_state`. -/
structure AlertsState where
  alertsOn : Bool := true
  alertThreshold : ℤ := 20
  fuelEnabled : Bool := true
  deriving DecidableEq, Repr

/-- The kv rows `total_run_hours`, `fuel_state` and `alerts_state`. -/
structure Kv where
  totalRunHours : Option ℚ := none
  fuelState : Option FuelState := none
  alertsState : Option AlertsState := none
  deriving DecidableEq, Repr

/-- One process: its module globals and the kv table it shares with its predecessors. -/
structure App where
  gen : GeneratorState := {}
  fuel : FuelState := {}
  alerts : AlertsState := {}
  lowFuelAlerted : Bool := false
  kv : Kv := {}
  deriving DecidableEq, Repr

/-! ## Startup -/

/-- `load_persisted_state`: a missing row keeps the in-memory default. -/
def loadPersistedState (s : App) : App :=
  { s with
    gen := { s.gen with totalRunHours := s.kv.totalRunHours.getD s.gen.totalRunHours }
    fuel := s.kv.fuelState.getD s.fuel
    alerts := s.kv.alertsState.getD s.alerts }

/-- A fresh process over the kv rows left by the previous ones. -/
def boot (kv : Kv) : App := loadPersistedState { kv := kv }

@[simp] theorem boot_running (kv : Kv) : (boot kv).gen.running = false := rfl
@[simp] theorem boot_total (kv : Kv) :
    (boot kv).gen.totalRunHours = kv.totalRunHours.getD 0 := rfl
@[simp] theorem boot_fuel (kv : Kv) : (boot kv).fuel = kv.fuelState.getD {} := rfl

/-! ## Run-hours accounting -/

/-- Hours on the wall clock from `started` to `now`, never negative. -/
def elapsedHours (started now : ℚ) : ℚ := max 0 ((now - started) / 3600)

theorem elapsedHours_nonneg (started now : ℚ) : 0 ≤ elapsedHours started now := le_max_left _ _

@[simp] theorem elapsedHours_self (now : ℚ) : elapsedHours now now = 0 := by simp [elapsedHours]

theorem elapsedHours_of_le {started now : ℚ} (h : started ≤ now) :
    elapsedHours started now = (now - started) / 3600 :=
  max_eq_right (by have := sub_nonneg.mpr h; positivity)

theorem elapsedHours_mono (started : ℚ) {now later : ℚ} (h : now ≤ later) :
    elapsedHours started now ≤ elapsedHours started later := by
  unfold elapsedHours
  gcongr

/-- `_live_total_run_hours_locked`. -/
def liveTotalRunHours (now : ℚ) (s : App) : ℚ :=
  match s.gen.running, s.gen.currentRunStartedAt with
  | true, some started => s.gen.totalRunHours + elapsedHours started now
  | _, _ => s.gen.totalRunHours

theorem liveTotalRunHours_of_stopped {s : App} (stopped : s.gen.running = false) (now : ℚ) :
    liveTotalRunHours now s = s.gen.totalRunHours := by
  simp [liveTotalRunHours, stopped]

theorem liveTotalRunHours_of_running {s : App} {started : ℚ} (running : s.gen.running = true)
    (start : s.gen.currentRunStartedAt = some started) (now : ℚ) :
    liveTotalRunHours now s = s.gen.totalRunHours + elapsedHours started now := by
  simp [liveTotalRunHours, running, start]

theorem totalRunHours_le_live (now : ℚ) (s : App) :
    s.gen.totalRunHours ≤ liveTotalRunHours now s := by
  unfold liveTotalRunHours
  split
  · next started _ _ => linarith [elapsedHours_nonneg started now]
  · exact le_rfl

theorem liveTotalRunHours_mono (s : App) {now later : ℚ} (h : now ≤ later) :
    liveTotalRunHours now s ≤ liveTotalRunHours later s := by
  unfold liveTotalRunHours
  split
  · next started _ _ => linarith [elapsedHours_mono started h]
  · exact le_rfl

/-- `_apply_running_transition_locked`. -/
def applyRunningTransition (now : ℚ) (newRunning : Bool) (s : App) : App :=
  if newRunning && !s.gen.running then
    -- Stopped -> running: begin timing a new run.
    { s with gen := { s.gen with currentRunStartedAt := some now, running := newRunning } }
  else if !newRunning && s.gen.running then
    -- Running -> stopped: bank the elapsed run-time and persist the new total.
    let total := match s.gen.currentRunStartedAt with
      | some started => s.gen.totalRunHours + elapsedHours started now
      | none => s.gen.totalRunHours
    { s with
      gen := { s.gen with
        totalRunHours := total, currentRunStartedAt := none, running := newRunning }
      kv := { s.kv with totalRunHours := some total } }
  else
    { s with gen := { s.gen with running := newRunning } }

/-- Asserting the state that is already tracked changes nothing. -/
theorem applyRunningTransition_same {s : App} {b : Bool} (h : s.gen.running = b) (now : ℚ) :
    applyRunningTransition now b s = s := by
  subst h
  cases running : s.gen.running <;> simp [applyRunningTransition, running] <;>
    rw [← running]

theorem applyRunningTransition_start {s : App} (stopped : s.gen.running = false) (now : ℚ) :
    applyRunningTransition now true s =
      { s with gen := { s.gen with currentRunStartedAt := some now, running := true } } := by
  simp [applyRunningTransition, stopped]

/-- A stop banks the live total, in memory and in the kv row. -/
theorem applyRunningTransition_stop {s : App} (running : s.gen.running = true) (now : ℚ) :
    applyRunningTransition now false s =
      { s with
        gen := { s.gen with
          totalRunHours := liveTotalRunHours now s
          currentRunStartedAt := none
          running := false }
        kv := { s.kv with totalRunHours := some (liveTotalRunHours now s) } } := by
  cases start : s.gen.currentRunStartedAt <;>
    simp [applyRunningTransition, liveTotalRunHours, running, start]

/-- The three things a transition can do: nothing, open a run, or bank one. -/
theorem applyRunningTransition_cases (now : ℚ) (b : Bool) (s : App) :
    (s.gen.running = b ∧ applyRunningTransition now b s = s) ∨
    (b = true ∧ s.gen.running = false ∧ applyRunningTransition now b s =
      { s with gen := { s.gen with currentRunStartedAt := some now, running := true } }) ∨
    (b = false ∧ s.gen.running = true ∧ applyRunningTransition now b s =
      { s with
        gen := { s.gen with
          totalRunHours := liveTotalRunHours now s
          currentRunStartedAt := none
          running := false }
        kv := { s.kv with totalRunHours := some (liveTotalRunHours now s) } }) := by
  by_cases same : s.gen.running = b
  · exact Or.inl ⟨same, applyRunningTransition_same same now⟩
  · cases b with
    | true =>
        have stopped : s.gen.running = false := by simpa using same
        exact Or.inr (Or.inl ⟨rfl, stopped, applyRunningTransition_start stopped now⟩)
    | false =>
        have running : s.gen.running = true := by simpa using same
        exact Or.inr (Or.inr ⟨rfl, running, applyRunningTransition_stop running now⟩)

theorem applyRunningTransition_running (now : ℚ) (b : Bool) (s : App) :
    (applyRunningTransition now b s).gen.running = b := by
  rcases applyRunningTransition_cases now b s with ⟨same, eq⟩ | ⟨rfl, -, eq⟩ | ⟨rfl, -, eq⟩
  · rw [eq, same]
  · rw [eq]
  · rw [eq]

/-- `MAX_TOTAL_RUN_HOURS`. -/
def maxTotalRunHours : ℚ := 1000000

/-- The clamp and quantization `set_total_run_hours` applies before it takes the lock. -/
def clampTotalRunHours (hours : ℚ) : ℚ := roundTo 3 (max 0 (min maxTotalRunHours hours))

theorem clampTotalRunHours_nonneg (hours : ℚ) : 0 ≤ clampTotalRunHours hours :=
  roundTo_nonneg (le_max_left _ _)

theorem clampTotalRunHours_le (hours : ℚ) : clampTotalRunHours hours ≤ maxTotalRunHours := by
  have limit : maxTotalRunHours = ((1000000000 : ℤ) : ℚ) / 10 ^ 3 := by norm_num [maxTotalRunHours]
  rw [clampTotalRunHours, limit]
  exact roundTo_le (max_le (by norm_num) (min_le_left _ _))

/-- `set_total_run_hours`.  `now` is the clock reading behind the live total and `restamp` the
later one a run in progress is re-based to. -/
def setTotalRunHours (now restamp hours : ℚ) (s : App) : (ℚ × ℚ) × App :=
  let hours := clampTotalRunHours hours
  let oldLive := liveTotalRunHours now s
  let runSinceFill := max 0 (oldLive - s.fuel.fillRunHours)
  let fuel := { s.fuel with fillRunHours := max 0 (hours - runSinceFill) }
  let started := if s.gen.running then some restamp else s.gen.currentRunStartedAt
  ((oldLive, hours),
    { s with
      gen := { s.gen with totalRunHours := hours, currentRunStartedAt := started }
      fuel := fuel
      kv := { s.kv with totalRunHours := some hours, fuelState := some fuel } })

/-! ## Factory reset -/

/-- `factory_reset` (`genpi/routes/core.py`), its database wipe followed by the reset of the
in-memory globals.  The log file is not part of this state. -/
def factoryReset (s : App) : App :=
  { s with
    kv := {}
    gen := { s.gen with running := false, currentRunStartedAt := none, totalRunHours := 0 }
    fuel := {}
    alerts := {} }

end GeneratorPi
