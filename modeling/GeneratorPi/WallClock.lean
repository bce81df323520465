import GeneratorPi.Lib.Trace
import GeneratorPi.Fuel

/-!
# Run accounting against real time

The run-hours accounting subtracts two readings of the wall clock.  Here real time and the wall
clock are separate histories: `elapse` moves both, `adjust` steps the wall clock alone (an NTP sync
on a board without an RTC).  A `RunRecord` follows the open or last run by its true elapsed time
and by the net clock step that fell into it.

A run adds its true elapsed time *plus* that net step, floored at zero (`Ledger.live_eq`), so the
accounting is honest exactly when nothing was stepped, or an empty run was stepped back
(`honestHours_iff`).
-/

namespace GeneratorPi

open Trace

/-- The open run, or the last finished one.  Times are in seconds. -/
structure RunRecord where
  /-- The live total when the run was opened. -/
  liveBefore : ℚ
  /-- The live total less the fill mark when the run was opened. -/
  sinceFillBefore : ℚ
  trueElapsed : ℚ := 0
  netStep : ℚ := 0
  /-- The highest live total shown during the run. -/
  peak : ℚ
  deriving DecidableEq, Repr

/-- The tracked state with the wall clock it is timed by. -/
structure Timekeeping where
  app : App
  wall : ℚ
  record : Option RunRecord := none
  deriving DecidableEq, Repr

/-- What can happen to the clocks and to the run-state. -/
inductive ClockOp where
  | elapse (seconds : ℚ)
  | adjust (seconds : ℚ)
  | transition (running : Bool)
  deriving DecidableEq, Repr

/-- The live total at the wall clock. -/
def Timekeeping.live (x : Timekeeping) : ℚ := liveTotalRunHours x.wall x.app

/-- The record of the open run after `elapsed` seconds of real time and a clock step. -/
def RunRecord.extend (r : RunRecord) (elapsed step live : ℚ) : RunRecord :=
  { r with
    trueElapsed := r.trueElapsed + elapsed
    netStep := r.netStep + step
    peak := max r.peak live }

/-- Move the wall clock by `elapsed + step`, of which `elapsed` is real. -/
def Timekeeping.move (x : Timekeeping) (elapsed step : ℚ) : Timekeeping :=
  let wall := x.wall + elapsed + step
  { x with
    wall := wall
    record := if x.app.gen.running then
        x.record.map fun r => r.extend elapsed step (liveTotalRunHours wall x.app)
      else x.record }

def Timekeeping.step (x : Timekeeping) : ClockOp → Option Timekeeping
  | .elapse d => if 0 ≤ d then some (x.move d 0) else none
  | .adjust a => some (x.move 0 a)
  | .transition b =>
      some { x with
        app := applyRunningTransition x.wall b x.app
        record := if b && !x.app.gen.running then
            some {
              liveBefore := x.live
              sinceFillBefore := x.live - x.app.fuel.fillRunHours
              peak := x.live }
          else x.record }

/-- The accounting tells the truth about the open or last run: the odometer gained its true
elapsed hours, the projected level lost what those hours burn, and the live total never fell
below a value it had shown during the run. -/
structure HonestRun (x : Timekeeping) (r : RunRecord) : Prop where
  odometer : x.live = r.liveBefore + r.trueElapsed / 3600
  fuel : projectedFuelLevel x.wall x.app =
    max 0 (min 100 (x.app.fuel.fillLevel -
      x.app.fuel.drainRate * max 0 (r.sinceFillBefore + r.trueElapsed / 3600)))
  monotone : r.peak ≤ x.live

/-- What holds of the record after any sequence of steps. -/
structure Ledger (x : Timekeeping) : Prop where
  recorded : x.app.gen.running = true → ∃ r, x.record = some r
  timed : ∀ r, x.record = some r → x.app.gen.running = true →
    ∃ started, x.app.gen.currentRunStartedAt = some started ∧
      x.wall - started = r.trueElapsed + r.netStep ∧ x.app.gen.totalRunHours = r.liveBefore
  elapsed_nonneg : ∀ r, x.record = some r → 0 ≤ r.trueElapsed
  live_eq : ∀ r, x.record = some r →
    x.live = r.liveBefore + max 0 ((r.trueElapsed + r.netStep) / 3600)
  sinceFill_eq : ∀ r, x.record = some r →
    r.sinceFillBefore = r.liveBefore - x.app.fuel.fillRunHours

theorem Ledger.initial (kv : Kv) (wall : ℚ) : Ledger { app := boot kv, wall := wall } where
  recorded running := by cases running
  timed _ h := by cases h
  elapsed_nonneg _ h := by cases h
  live_eq _ h := by cases h
  sinceFill_eq _ h := by cases h

/-- While the tracked state is stopped the clocks are not read. -/
theorem Timekeeping.live_move_of_stopped {x : Timekeeping} (stopped : x.app.gen.running = false)
    (d a : ℚ) : (x.move d a).live = x.live := by
  simp only [Timekeeping.live, Timekeeping.move, liveTotalRunHours_of_stopped stopped]

theorem Ledger.move {x : Timekeeping} (ledger : Ledger x) {d : ℚ} (forward : 0 ≤ d) (a : ℚ) :
    Ledger (x.move d a) := by
  cases running : x.app.gen.running with
  | false =>
      have record : (x.move d a).record = x.record := by simp [Timekeeping.move, running]
      have live := Timekeeping.live_move_of_stopped running d a
      refine ⟨fun h => ?_, fun r h run => ?_, ?_, ?_, ?_⟩
      · exact absurd (running ▸ h) Bool.false_ne_true
      · exact absurd (running ▸ run) Bool.false_ne_true
      · rw [record]; exact ledger.elapsed_nonneg
      · rw [record, live]; exact ledger.live_eq
      · rw [record]; exact ledger.sinceFill_eq
  | true =>
      obtain ⟨r, hr⟩ := ledger.recorded running
      obtain ⟨started, start, span, base⟩ := ledger.timed r hr running
      have record : (x.move d a).record =
          some (r.extend d a (liveTotalRunHours (x.wall + d + a) x.app)) := by
        simp [Timekeeping.move, running, hr]
      have newSpan : (x.move d a).wall - started =
          (r.trueElapsed + d) + (r.netStep + a) := by
        simp only [Timekeeping.move]
        linarith
      refine ⟨fun _ => ⟨_, record⟩, ?_, ?_, ?_, ?_⟩ <;> intro r' hr' <;>
        cases record.symm.trans hr'
      · exact fun _ => ⟨started, start, newSpan, base⟩
      · exact add_nonneg (ledger.elapsed_nonneg r hr) forward
      · have live : (x.move d a).live =
            x.app.gen.totalRunHours + elapsedHours started (x.move d a).wall :=
          liveTotalRunHours_of_running running start _
        rw [live, elapsedHours, newSpan, base]
        rfl
      · exact ledger.sinceFill_eq r hr

theorem Ledger.transition {x y : Timekeeping} (ledger : Ledger x) {b : Bool}
    (h : x.step (.transition b) = some y) : Ledger y := by
  cases h
  rcases applyRunningTransition_cases x.wall b x.app with
    ⟨same, eq⟩ | ⟨rfl, stopped, eq⟩ | ⟨rfl, running, eq⟩
  · have keep : (b && !x.app.gen.running) = false := by simp [same]
    rw [eq, keep]
    exact ledger
  · -- A new run is recorded with nothing elapsed and nothing stepped.
    have live : x.live = x.app.gen.totalRunHours := liveTotalRunHours_of_stopped stopped _
    rw [eq, stopped]
    refine ⟨fun _ => ⟨_, rfl⟩, ?_, ?_, ?_, ?_⟩ <;> intro r hr <;> cases hr
    · exact fun _ => ⟨x.wall, rfl, by ring, live.symm⟩
    · exact le_rfl
    · simp [Timekeeping.live, liveTotalRunHours, stopped]
    · rfl
  · -- A stop banks the live total, so the record keeps its meaning.
    rw [eq, running]
    refine ⟨(absurd · Bool.false_ne_true), fun _ _ => (absurd · Bool.false_ne_true),
      ledger.elapsed_nonneg, ?_, ledger.sinceFill_eq⟩
    exact ledger.live_eq

theorem Ledger.step {x y : Timekeeping} (ledger : Ledger x) {op : ClockOp}
    (h : x.step op = some y) : Ledger y := by
  cases op with
  | elapse d =>
      obtain ⟨forward, rfl⟩ := enabled_eq_some.mp h
      exact ledger.move forward 0
  | adjust a =>
      cases h
      exact ledger.move le_rfl a
  | transition b => exact ledger.transition h

theorem ledger_of_run {kv : Kv} {wall : ℚ} {ops : List ClockOp} {x : Timekeeping}
    (h : run Timekeeping.step { app := boot kv, wall := wall } ops = some x) : Ledger x :=
  run_invariant (fun _ _ _ ledger h => Ledger.step ledger h) (Ledger.initial kv wall) h

/-- The hours a run adds are its true ones exactly when its net clock step is zero, or it is an
empty run stepped back. -/
theorem honestHours_iff {x : Timekeeping} (ledger : Ledger x) {r : RunRecord}
    (hr : x.record = some r) :
    x.live = r.liveBefore + r.trueElapsed / 3600 ↔
      r.netStep = 0 ∨ r.trueElapsed = 0 ∧ r.netStep ≤ 0 := by
  have elapsed := ledger.elapsed_nonneg r hr
  rw [ledger.live_eq r hr, add_right_inj]
  rcases le_total 0 (r.trueElapsed + r.netStep) with pos | neg
  · rw [max_eq_right (by positivity)]
    constructor
    · intro eq
      exact Or.inl (by linarith)
    · rintro (eq | ⟨eq, le⟩)
      · rw [eq, add_zero]
      · rw [show r.netStep = 0 by linarith, add_zero]
  · rw [max_eq_left (by linarith)]
    constructor
    · intro eq
      have zero : r.trueElapsed = 0 := by linarith
      exact Or.inr ⟨zero, by linarith⟩
    · rintro (eq | ⟨eq, -⟩)
      · rw [show r.trueElapsed = 0 by linarith, zero_div]
      · rw [eq, zero_div]

/-! ## Runs whose clock is left alone -/

/-- The wall clock is not stepped while a run is open. -/
def UnsteppedRun (x : Timekeeping) (op : ClockOp) : Prop :=
  ∀ a, op = .adjust a → x.app.gen.running = true → a = 0

instance (x : Timekeeping) (op : ClockOp) : Decidable (UnsteppedRun x op) :=
  match op with
  | .adjust a => decidable_of_iff (x.app.gen.running = true → a = 0) (by simp [UnsteppedRun])
  | .elapse _ => isTrue (by simp [UnsteppedRun])
  | .transition _ => isTrue (by simp [UnsteppedRun])

/-- No clock step has fallen into the recorded run, and its live total has only grown. -/
structure QuietLedger (x : Timekeeping) : Prop extends Ledger x where
  unstepped : ∀ r, x.record = some r → r.netStep = 0
  peak_le : ∀ r, x.record = some r → r.peak ≤ x.live

theorem QuietLedger.move {x : Timekeeping} (quiet : QuietLedger x) {d : ℚ} (forward : 0 ≤ d)
    {a : ℚ} (still : x.app.gen.running = true → a = 0) : QuietLedger (x.move d a) := by
  refine ⟨quiet.toLedger.move forward a, ?_, ?_⟩ <;> cases running : x.app.gen.running
  case refine_1.false =>
    simpa [Timekeeping.move, running] using quiet.unstepped
  case refine_2.false =>
    rw [Timekeeping.live_move_of_stopped running]
    simpa [Timekeeping.move, running] using quiet.peak_le
  case refine_1.true =>
    obtain ⟨r, hr⟩ := quiet.recorded running
    intro r' hr'
    simp only [Timekeeping.move, running, hr, if_true, Option.map_some, Option.some.injEq] at hr'
    rw [← hr']
    simp [RunRecord.extend, quiet.unstepped r hr, still running]
  case refine_2.true =>
    obtain ⟨r, hr⟩ := quiet.recorded running
    intro r' hr'
    simp only [Timekeeping.move, running, hr, if_true, Option.map_some, Option.some.injEq] at hr'
    rw [← hr']
    have grown : x.live ≤ (x.move d a).live :=
      liveTotalRunHours_mono x.app (by simp [Timekeeping.move, still running, forward])
    exact max_le ((quiet.peak_le r hr).trans grown) le_rfl

theorem QuietLedger.step {x y : Timekeeping} (quiet : QuietLedger x) {op : ClockOp}
    (still : UnsteppedRun x op) (h : x.step op = some y) : QuietLedger y := by
  cases op with
  | elapse d =>
      obtain ⟨forward, rfl⟩ := enabled_eq_some.mp h
      exact quiet.move forward fun _ => rfl
  | adjust a =>
      cases h
      exact quiet.move le_rfl (still a rfl)
  | transition b =>
      have ledger := quiet.toLedger.transition h
      cases h
      rcases applyRunningTransition_cases x.wall b x.app with
        ⟨same, eq⟩ | ⟨rfl, stopped, eq⟩ | ⟨rfl, running, eq⟩
      · refine ⟨ledger, ?_, ?_⟩
        · simpa [same] using quiet.unstepped
        · simpa [same, eq, Timekeeping.live] using quiet.peak_le
      · refine ⟨ledger, ?_, ?_⟩
        · simp [stopped]
        · simp [stopped, eq, Timekeeping.live, liveTotalRunHours]
      · refine ⟨ledger, ?_, ?_⟩
        · simpa [running] using quiet.unstepped
        · rw [eq]
          simpa [running, Timekeeping.live, liveTotalRunHours_of_stopped] using quiet.peak_le

theorem QuietLedger.honest {x : Timekeeping} (quiet : QuietLedger x) {r : RunRecord}
    (hr : x.record = some r) : HonestRun x r := by
  have odometer : x.live = r.liveBefore + r.trueElapsed / 3600 :=
    (honestHours_iff quiet.toLedger hr).mpr (Or.inl (quiet.unstepped r hr))
  refine ⟨odometer, ?_, quiet.peak_le r hr⟩
  have since : liveTotalRunHours x.wall x.app - x.app.fuel.fillRunHours =
      r.sinceFillBefore + r.trueElapsed / 3600 := by
    rw [quiet.sinceFill_eq r hr, show liveTotalRunHours x.wall x.app = _ from odometer]
    ring
  rw [projectedFuelLevel, runSinceFill, since]

/-- From any boot, over any transitions and any clock steps outside the open runs, the accounting
of every run is honest at every moment. -/
theorem honestRun_of_run {kv : Kv} {wall : ℚ} {ops : List ClockOp} {x : Timekeeping}
    (still : Meets Timekeeping.step UnsteppedRun { app := boot kv, wall := wall } ops)
    (h : run Timekeeping.step { app := boot kv, wall := wall } ops = some x) :
    ∀ r, x.record = some r → HonestRun x r := by
  have quiet : QuietLedger x :=
    run_invariant_of_meets (fun _ _ _ quiet still h => QuietLedger.step quiet still h)
      ⟨Ledger.initial kv wall, (fun _ h => nomatch h), (fun _ h => nomatch h)⟩ still h
  exact fun r hr => quiet.honest hr

/-- A clock stepped by a day before the run and back by an hour after it. -/
def steppedAroundRun : List ClockOp :=
  [.adjust 86400, .transition true, .elapse 1800, .transition true, .elapse 1800,
    .transition false, .adjust (-3600)]

theorem honestRun_steppedAroundRun :
    ∃ x r, run Timekeeping.step { app := boot {}, wall := 0 } steppedAroundRun = some x ∧
      x.record = some r ∧ r.trueElapsed = 3600 ∧ HonestRun x r :=
  have still : Meets Timekeeping.step UnsteppedRun { app := boot {}, wall := 0 }
      steppedAroundRun := by decide
  ⟨_, _, rfl, rfl, by decide +kernel, honestRun_of_run still rfl _ rfl⟩

/-- Two hours into a run the clock is stepped back by one, and the run is stopped: one hour is
banked and burnt, and the live total has fallen. -/
theorem steppedBack_dishonest :
    ∃ x r, run Timekeeping.step { app := boot {}, wall := 0 }
        [.transition true, .elapse 7200, .adjust (-3600), .transition false] = some x ∧
      x.record = some r ∧ x.live ≠ r.liveBefore + r.trueElapsed / 3600 ∧
      ¬ HonestRun x r ∧ x.live < r.peak := by
  refine ⟨_, _, rfl, rfl, ?_, fun honest => ?_, ?_⟩
  · decide +kernel
  · have odometer := honest.odometer
    revert odometer
    decide +kernel
  · decide +kernel

end GeneratorPi
