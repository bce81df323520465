import GeneratorPi.Lib.Trace
import GeneratorPi.Control
import GeneratorPi.Fuel

/-!
# The odometer and the fuel mark over whole runs

`Controller.step` is one operation on a controller that is restarted at will: the sections of the
control sequences, the operator mutators, a clock that never goes back, and a process restart over
the kv rows written so far.

The fill mark `fill_run_hours` is a point on the lifetime odometer.  `FuelCoherent` says that it
lies between zero and the live total, so that the projection's run-since-fill is never clamped and
the projected level falls while the generator runs.  A refuel marks the *live* total while a
restart keeps only the *banked* one, so a restart in a run that was refuelled breaks it
(`restart_coherent_iff`); no other step does (`Books.step`).
-/

namespace GeneratorPi

open Trace

/-- A controller, its clock, and the history bit `filledInRun`: the tank was filled in the open run
after the moment the run is timed from. -/
structure Controller where
  app : App := boot {}
  clock : ℚ := 0
  filledInRun : Bool := false
  deriving DecidableEq, Repr

/-- What can happen to a controller. -/
inductive Op where
  | advance (seconds : ℚ)
  | startCheck
  | startAttempt (maxRetries : ℤ) (attempt : ℕ)
  | startStamp
  | startFinish (maxRetries : ℤ)
  | stop
  | setRunning (running : Bool)
  | setFuelFill (level : ℚ)
  | recordFuelReading (level : ℚ)
  | setFuelRate (rate : ℚ)
  | resetFuelRate
  /-- `pause` is the time between the two clock readings of the call. -/
  | setTotalRunHours (hours pause : ℚ)
  | setAlerts (enabled : Option Bool) (threshold : Option ℚ) (fuelEnabled : Option Bool)
  | evaluateLowFuel
  | factoryReset
  | restart
  deriving DecidableEq, Repr

/-- Whether a fill at `clock` lies strictly inside the open run. -/
def insideRun (clock : ℚ) (s : App) : Bool :=
  s.gen.running && s.gen.currentRunStartedAt.any fun started => started < clock

/-- One operation; `none` where it is refused or its clock would go back. -/
def Controller.step (x : Controller) : Op → Option Controller
  | .advance d => if 0 ≤ d then some { x with clock := x.clock + d } else none
  | .startCheck => (GeneratorPi.startCheck x.app).map fun app => { x with app := app }
  | .startAttempt m k => some { x with app := GeneratorPi.startAttempt m k x.app }
  | .startStamp => some { x with app := GeneratorPi.startStamp x.clock x.app }
  | .startFinish m => some { x with app := GeneratorPi.startFinish x.clock m x.app }
  | .stop => some { x with app := stopBank x.clock x.app, filledInRun := false }
  | .setRunning b =>
      some { x with
        app := GeneratorPi.setRunning x.clock b x.app
        filledInRun := b && x.filledInRun }
  | .setFuelFill level =>
      some { x with
        app := (GeneratorPi.setFuelFill x.clock level x.app).2
        filledInRun := insideRun x.clock x.app }
  | .recordFuelReading level =>
      some { x with app := (GeneratorPi.recordFuelReading x.clock level x.app).2 }
  | .setFuelRate rate => some { x with app := (GeneratorPi.setFuelRate rate x.app).2 }
  | .resetFuelRate => some { x with app := (GeneratorPi.resetFuelRate x.app).2 }
  | .setTotalRunHours hours pause =>
      if 0 ≤ pause then
        some {
          app := (GeneratorPi.setTotalRunHours x.clock (x.clock + pause) hours x.app).2
          clock := x.clock + pause
          filledInRun := false }
      else none
  | .setAlerts enabled threshold fuelEnabled =>
      some { x with app := (GeneratorPi.setAlerts enabled threshold fuelEnabled x.app).2 }
  | .evaluateLowFuel => some { x with app := (GeneratorPi.evaluateLowFuel x.clock x.app).2 }
  | .factoryReset => some { x with app := GeneratorPi.factoryReset x.app, filledInRun := false }
  | .restart => some { x with app := boot x.app.kv, filledInRun := false }

/-! ## Coherence of the fill mark -/

/-- The fill mark lies on the odometer, so the projection never clamps a negative run-since-fill
and falls while the generator runs with fuel left. -/
structure FuelCoherent (x : Controller) : Prop where
  mark_nonneg : 0 ≤ x.app.fuel.fillRunHours
  mark_le_live : x.app.fuel.fillRunHours ≤ liveTotalRunHours x.clock x.app
  unclamped : runSinceFill x.clock x.app =
    liveTotalRunHours x.clock x.app - x.app.fuel.fillRunHours
  falls : x.app.gen.running = true → ∀ later, x.clock < later →
    0 < projectedFuelLevel x.clock x.app →
      projectedFuelLevel later x.app < projectedFuelLevel x.clock x.app

/-- The books behind coherence: memory and rows agree, the open run is timed in the past, and the
mark is beyond the banked total exactly when it was set inside the open run. -/
structure Books (x : Controller) : Prop where
  persisted : Persisted x.app
  wellFormed : x.app.fuel.WellFormed
  total_nonneg : 0 ≤ x.app.gen.totalRunHours
  timed : x.app.gen.running = true →
    ∃ started, x.app.gen.currentRunStartedAt = some started ∧ started ≤ x.clock
  mark_nonneg : 0 ≤ x.app.fuel.fillRunHours
  mark_le_live : x.app.fuel.fillRunHours ≤ liveTotalRunHours x.clock x.app
  filled_iff : x.filledInRun = true ↔ x.app.gen.totalRunHours < x.app.fuel.fillRunHours

theorem Books.initial (clock : ℚ) : Books { clock := clock } where
  persisted := ⟨rfl, rfl⟩
  wellFormed := FuelState.wellFormed_default
  total_nonneg := le_rfl
  timed running := by cases running
  mark_nonneg := le_rfl
  mark_le_live := le_rfl
  filled_iff := by simp

/-- Outside an open run no fill mark is ahead of the bank. -/
theorem Books.not_filled_of_stopped {x : Controller} (books : Books x)
    (stopped : x.app.gen.running = false) : x.filledInRun = false := by
  have mark := books.mark_le_live
  rw [liveTotalRunHours_of_stopped stopped] at mark
  rw [← Bool.not_eq_true, books.filled_iff]
  exact not_lt.mpr mark

/-- The live total of an open run, with the elapsed part spelled out. -/
theorem Books.live_of_running {x : Controller} (books : Books x)
    (running : x.app.gen.running = true) :
    ∃ started, x.app.gen.currentRunStartedAt = some started ∧ started ≤ x.clock ∧
      ∀ later, x.clock ≤ later → liveTotalRunHours later x.app =
        x.app.gen.totalRunHours + (later - started) / 3600 := by
  obtain ⟨started, start, past⟩ := books.timed running
  refine ⟨started, start, past, fun later h => ?_⟩
  rw [liveTotalRunHours_of_running running start, elapsedHours_of_le (past.trans h)]

/-- A controller with the same accounts, at the same or a later time, keeps the books. -/
theorem Books.of_sameAccounts {x y : Controller} (books : Books x)
    (same : SameAccounts x.app y.app) (clock : x.clock ≤ y.clock)
    (filled : y.filledInRun = x.filledInRun) : Books y where
  persisted := by
    constructor
    · rw [same.kv, same.total]; exact books.persisted.total
    · rw [same.kv, same.fuel]; exact books.persisted.fuel
  wellFormed := by rw [same.fuel]; exact books.wellFormed
  total_nonneg := by rw [same.total]; exact books.total_nonneg
  timed running := by
    obtain ⟨started, start, past⟩ := books.timed (same.running ▸ running)
    exact ⟨started, same.started ▸ start, past.trans clock⟩
  mark_nonneg := by rw [same.fuel]; exact books.mark_nonneg
  mark_le_live := by
    rw [same.fuel, same.live]
    exact books.mark_le_live.trans (liveTotalRunHours_mono _ clock)
  filled_iff := by rw [filled, same.total, same.fuel]; exact books.filled_iff

/-! ## Every operation keeps the books -/

theorem Books.transition {x : Controller} (books : Books x) (b : Bool) :
    Books { x with
      app := applyRunningTransition x.clock b x.app
      filledInRun := b && x.filledInRun } := by
  rcases applyRunningTransition_cases x.clock b x.app with
    ⟨same, eq⟩ | ⟨rfl, stopped, eq⟩ | ⟨rfl, running, eq⟩
  · rw [eq]
    have filled : (b && x.filledInRun) = x.filledInRun := by
      cases b with
      | true => simp
      | false => simp [books.not_filled_of_stopped same]
    exact books.of_sameAccounts (.refl _) le_rfl filled
  · -- A new run is timed from now, so the live total is still the banked one.
    have live : liveTotalRunHours x.clock x.app = x.app.gen.totalRunHours :=
      liveTotalRunHours_of_stopped stopped _
    rw [eq]
    refine ⟨⟨books.persisted.total, books.persisted.fuel⟩, books.wellFormed, books.total_nonneg,
      fun _ => ⟨x.clock, rfl, le_rfl⟩, books.mark_nonneg, ?_, by simpa using books.filled_iff⟩
    have mark := books.mark_le_live
    rw [live] at mark
    simpa [liveTotalRunHours] using mark
  · -- A stop banks the live total, which no mark is beyond.
    rw [eq]
    refine ⟨⟨rfl, books.persisted.fuel⟩, books.wellFormed,
      books.total_nonneg.trans (totalRunHours_le_live _ _), (absurd · Bool.false_ne_true),
      books.mark_nonneg, books.mark_le_live, ?_⟩
    simpa using books.mark_le_live

theorem Books.setFuelRate {x : Controller} (books : Books x) {rate : ℚ} (h : 1 / 10 ≤ rate) :
    Books { x with app := x.app.setFuel { x.app.fuel with drainRate := rate } } :=
  ⟨⟨books.persisted.total, rfl⟩, ⟨books.wellFormed.level_nonneg, books.wellFormed.level_le, h,
    books.wellFormed.default_eq⟩, books.total_nonneg, books.timed, books.mark_nonneg,
    books.mark_le_live, books.filled_iff⟩

theorem Books.setFuelFill {x : Controller} (books : Books x) (level : ℚ) :
    Books { x with
      app := (GeneratorPi.setFuelFill x.clock level x.app).2
      filledInRun := insideRun x.clock x.app } := by
  refine ⟨⟨books.persisted.total, rfl⟩, ⟨clampLevel_nonneg level, clampLevel_le level,
    books.wellFormed.rate_le, books.wellFormed.default_eq⟩, books.total_nonneg, books.timed,
    books.total_nonneg.trans (totalRunHours_le_live _ _), le_rfl, ?_⟩
  change insideRun x.clock x.app = true ↔
    x.app.gen.totalRunHours < liveTotalRunHours x.clock x.app
  cases running : x.app.gen.running with
  | false => simp [insideRun, running, liveTotalRunHours_of_stopped running]
  | true =>
      obtain ⟨started, start, -, live⟩ := books.live_of_running running
      rw [live _ le_rfl]
      simp [insideRun, running, start]

theorem Books.setTotalRunHours {x : Controller} (books : Books x) (hours pause : ℚ) :
    Books {
      app := (GeneratorPi.setTotalRunHours x.clock (x.clock + pause) hours x.app).2
      clock := x.clock + pause
      filledInRun := false } := by
  have total := clampTotalRunHours_nonneg hours
  have mark : max 0 (clampTotalRunHours hours -
      max 0 (liveTotalRunHours x.clock x.app - x.app.fuel.fillRunHours)) ≤
      clampTotalRunHours hours :=
    max_le total (sub_le_self _ (le_max_left _ _))
  refine ⟨⟨rfl, rfl⟩, ⟨books.wellFormed.level_nonneg, books.wellFormed.level_le,
    books.wellFormed.rate_le, books.wellFormed.default_eq⟩, total, fun running => ?_,
    le_max_left _ _, mark.trans (totalRunHours_le_live _ _), ?_⟩
  · -- A run in progress is re-based to the later reading.
    have wasRunning : x.app.gen.running = true := running
    exact ⟨x.clock + pause, by simp [GeneratorPi.setTotalRunHours, wasRunning], le_rfl⟩
  · simpa [GeneratorPi.setTotalRunHours] using mark

theorem Books.factoryReset {x : Controller} :
    Books { x with app := GeneratorPi.factoryReset x.app, filledInRun := false } :=
  ⟨⟨rfl, rfl⟩, FuelState.wellFormed_default, le_rfl, (fun running => nomatch running), le_rfl,
    le_rfl, by simp [GeneratorPi.factoryReset]⟩

/-- A restart in a run that was not refuelled finds the mark within the banked total. -/
theorem Books.restart {x : Controller} (books : Books x) (unfilled : x.filledInRun = false) :
    Books { x with app := boot x.app.kv, filledInRun := false } := by
  have mark : x.app.fuel.fillRunHours ≤ x.app.gen.totalRunHours := by
    rw [← not_lt, ← books.filled_iff, unfilled]
    exact Bool.false_ne_true
  have total : (boot x.app.kv).gen.totalRunHours = x.app.gen.totalRunHours :=
    books.persisted.total
  have fuel : (boot x.app.kv).fuel = x.app.fuel := books.persisted.fuel
  refine ⟨⟨rfl, rfl⟩, ?_, ?_, (fun running => nomatch running), ?_, ?_, ?_⟩
  · rw [fuel]; exact books.wellFormed
  · rw [total]; exact books.total_nonneg
  · rw [fuel]; exact books.mark_nonneg
  · rw [fuel, liveTotalRunHours_of_stopped (boot_running _), total]; exact mark
  · rw [fuel, total]; simpa using mark

/-- No restart falls into a run that was refuelled after its start. -/
def RestartSafe (x : Controller) (op : Op) : Prop := op = .restart → x.filledInRun = false

instance (x : Controller) (op : Op) : Decidable (RestartSafe x op) :=
  inferInstanceAs (Decidable (_ → _))

theorem Books.step {x y : Controller} (books : Books x) {op : Op} (safe : RestartSafe x op)
    (h : x.step op = some y) : Books y := by
  cases op with
  | advance d =>
      obtain ⟨forward, rfl⟩ := enabled_eq_some.mp h
      exact books.of_sameAccounts (.refl _) (le_add_of_nonneg_right forward) rfl
  | startCheck =>
      obtain ⟨app, eq, rfl⟩ := Option.map_eq_some_iff.mp h
      exact books.of_sameAccounts (startCheck_sameAccounts eq) le_rfl rfl
  | startAttempt m k =>
      cases h
      exact books.of_sameAccounts (startAttempt_sameAccounts m k _) le_rfl rfl
  | startStamp =>
      cases h
      exact books.of_sameAccounts (startStamp_sameAccounts _ _) le_rfl rfl
  | startFinish m =>
      cases h
      exact (books.transition true).of_sameAccounts (startFinish_sameAccounts _ m _) le_rfl rfl
  | stop =>
      cases h
      exact (books.transition false).of_sameAccounts (stopBank_sameAccounts _ _) le_rfl rfl
  | setRunning b =>
      cases h
      exact (books.transition b).of_sameAccounts (setRunning_sameAccounts _ b _) le_rfl rfl
  | setFuelFill level =>
      cases h
      exact books.setFuelFill level
  | recordFuelReading level =>
      cases h
      obtain ⟨rate, floor, eq | eq⟩ := recordFuelReading_eq x.clock level x.app
      · rw [eq]; exact books
      · rw [eq]; exact books.setFuelRate (floor books.wellFormed)
  | setFuelRate rate =>
      cases h
      exact books.setFuelRate (le_max_left _ _)
  | resetFuelRate =>
      cases h
      refine books.setFuelRate ?_
      have rounded := Rounding.le_roundTo (n := 1) (k := 1) (x := x.app.fuel.defaultRate)
        (by rw [books.wellFormed.default_eq]; norm_num [fuelDefaultRate])
      simpa using rounded
  | setTotalRunHours hours pause =>
      obtain ⟨-, rfl⟩ := enabled_eq_some.mp h
      exact books.setTotalRunHours hours pause
  | setAlerts enabled threshold fuelEnabled =>
      cases h
      exact ⟨⟨books.persisted.total, books.persisted.fuel⟩, books.wellFormed, books.total_nonneg,
        books.timed, books.mark_nonneg, books.mark_le_live, books.filled_iff⟩
  | evaluateLowFuel =>
      cases h
      obtain ⟨flag, eq⟩ := evaluateLowFuel_eq x.clock x.app
      rw [eq]
      exact books.of_sameAccounts ⟨rfl, rfl, rfl, rfl, rfl⟩ le_rfl rfl
  | factoryReset =>
      cases h
      exact Books.factoryReset
  | restart =>
      cases h
      exact books.restart (safe rfl)

/-! ## Coherence -/

theorem Books.coherent {x : Controller} (books : Books x) : FuelCoherent x := by
  have unclamped : ∀ later, x.clock ≤ later →
      runSinceFill later x.app = liveTotalRunHours later x.app - x.app.fuel.fillRunHours :=
    fun later h => max_eq_right (sub_nonneg.mpr
      (books.mark_le_live.trans (liveTotalRunHours_mono _ h)))
  refine ⟨books.mark_nonneg, books.mark_le_live, unclamped _ le_rfl, ?_⟩
  intro running later h left
  obtain ⟨started, -, -, live⟩ := books.live_of_running running
  have drained : runSinceFill x.clock x.app < runSinceFill later x.app := by
    rw [unclamped _ le_rfl, unclamped _ h.le, live _ le_rfl, live _ h.le]
    linarith
  have rate : 0 < x.app.fuel.drainRate := by linarith [books.wellFormed.rate_le]
  have lower := mul_lt_mul_of_pos_left drained rate
  -- The level is at most the fill level, so only the clamp at zero can bind.
  have below : ∀ now, x.app.fuel.fillLevel - x.app.fuel.drainRate * runSinceFill now x.app ≤ 100 :=
    fun now => by
      have := mul_nonneg rate.le (le_max_left 0 (liveTotalRunHours now x.app -
        x.app.fuel.fillRunHours))
      have := books.wellFormed.level_le
      unfold runSinceFill
      linarith
  unfold projectedFuelLevel at left ⊢
  rw [min_eq_right (below _)] at left ⊢
  rw [min_eq_right (below _)]
  have positive := (lt_max_iff.mp left).resolve_left (lt_irrefl 0)
  rw [max_eq_right positive.le]
  exact max_lt positive (by linarith)

/-- Restarting keeps the fill mark coherent exactly when the open run was not refuelled. -/
theorem restart_coherent_iff {x y : Controller} (books : Books x)
    (h : x.step .restart = some y) : FuelCoherent y ↔ x.filledInRun = false := by
  constructor
  · intro coherent
    cases h
    have mark := coherent.mark_le_live
    rw [liveTotalRunHours_of_stopped (boot_running _)] at mark
    rw [← Bool.not_eq_true, books.filled_iff, ← books.persisted.total, ← books.persisted.fuel]
    exact not_lt.mpr mark
  · exact fun unfilled => (books.step (fun _ => unfilled) h).coherent

/-- In every run from a first boot whose restarts all fall outside refuelled runs, the fill mark
stays on the odometer. -/
theorem fuelCoherent_of_run {clock : ℚ} {ops : List Op} {x : Controller}
    (safe : Meets Controller.step RestartSafe { clock := clock } ops)
    (h : run Controller.step { clock := clock } ops = some x) : FuelCoherent x :=
  (run_invariant_of_meets (fun _ _ _ books safe h => Books.step books safe h)
    (Books.initial clock) safe h).coherent

/-- A run that is refuelled and stopped before the process restarts, then another one that is
re-based and restarted without a refuel. -/
def refuelledThenStopped : List Op :=
  [.startCheck, .startAttempt 1 1, .startStamp, .startFinish 1, .advance 3600, .setFuelFill 100,
    .advance 1800, .recordFuelReading 90, .stop, .restart, .setRunning true,
    .setTotalRunHours 5 1, .restart]

theorem fuelCoherent_refuelledThenStopped :
    ∃ x, run Controller.step { clock := 0 } refuelledThenStopped = some x ∧ FuelCoherent x :=
  have safe : Meets Controller.step RestartSafe { clock := 0 } refuelledThenStopped := by
    decide
  ⟨_, rfl, fuelCoherent_of_run safe rfl⟩

/-- Refuelled one hour into a run and restarted inside it: the mark is one hour ahead of the
odometer. -/
theorem refuel_then_restart_incoherent :
    ∃ x, run Controller.step {}
      [.setRunning true, .advance 3600, .setFuelFill 100, .restart] = some x ∧
      ¬ FuelCoherent x := by
  refine ⟨_, rfl, fun coherent => ?_⟩
  have mark := coherent.mark_le_live
  revert mark
  decide +kernel

end GeneratorPi
