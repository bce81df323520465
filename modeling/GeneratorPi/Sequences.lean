import GeneratorPi.Control
import GeneratorPi.Lib.Trace
import Mathlib.Logic.Function.Basic

/-!
# Start and stop sequences in their threads

`start_generator` and `stop_generator` (`genpi/control.py`) with `press_button` (`genpi/relay.py`),
each thread cut at its sleeps and at the sections it runs under `state_lock`.  Any number of threads
run them in any order, next to manual overrides and the clock, and any sleep may raise.

In every state reached only the holder of `relay_lock` is inside a sequence, the lock is held by
such a thread, and the relay is energised exactly while that thread is inside a press
(`RelaySafe`).
-/

namespace GeneratorPi

/-! ## Threads -/

/-- The press in hand: the prime or the start press of an attempt, or the stop press. -/
inductive Button where
  | prime (attempt : ℕ)
  | crank (attempt : ℕ)
  | stop
  deriving DecidableEq, Repr

/-- Where a press stands. -/
inductive PressPoint where
  /-- Before `relay_start_stop.on()`. -/
  | energise
  /-- In `time.sleep(duration)`. -/
  | hold
  /-- Before the `off()` of the `finally`, with an exception to pass on or not. -/
  | deEnergise (raised : Bool)
  /-- In the debounce sleep. -/
  | debounce
  deriving DecidableEq, Repr

inductive Outcome where
  | success
  | refused
  | aborted
  deriving DecidableEq, Repr

/-- Where a thread stands. -/
inductive Point where
  | unborn
  | acquireStart
  | check
  | attempt (n : ℕ)
  | pressing (button : Button) (p : PressPoint)
  /-- In the prime delay. -/
  | priming (attempt : ℕ)
  | stamp (attempt : ℕ)
  /-- In the retry delay. -/
  | retrying (attempt : ℕ)
  | finish
  | acquireStop
  | bank
  /-- Before the `finally` that releases the lock. -/
  | releasing (o : Outcome)
  | ended (o : Outcome)
  deriving DecidableEq, Repr

/-- Between the acquisition of `relay_lock` and its release. -/
def Point.critical : Point → Bool
  | .unborn | .acquireStart | .acquireStop | .ended _ => false
  | _ => true

/-- Between the press's `on()` and its `off()`. -/
def Point.energised : Point → Bool
  | .pressing _ .hold | .pressing _ (.deEnergise _) => true
  | _ => false

/-- About to take `relay_lock`. -/
def Point.acquiring : Point → Bool
  | .acquireStart | .acquireStop => true
  | _ => false

theorem Point.critical_of_energised {p : Point} (h : p.energised) : p.critical := by
  cases p with
  | pressing button p => rfl
  | _ => cases h

/-- The threads and what they share. -/
structure Relay where
  app : App
  now : ℚ
  /-- The holder of `relay_lock`. -/
  lock : Option ℕ := none
  /-- The relay's contacts are closed. -/
  on : Bool := false
  threads : ℕ → Point := fun _ => .unborn

/-- A thread goes on to another point. -/
def Relay.goto (r : Relay) (i : ℕ) (p : Point) : Relay :=
  { r with threads := Function.update r.threads i p }

@[simp] theorem Relay.goto_self (r : Relay) (i : ℕ) (p : Point) : (r.goto i p).threads i = p :=
  Function.update_self ..

theorem Relay.goto_of_ne (r : Relay) {i j : ℕ} (other : j ≠ i) (p : Point) :
    (r.goto i p).threads j = r.threads j :=
  Function.update_of_ne other ..

/-- What follows a finished press. -/
def Button.after : Button → Point
  | .prime n => .priming n
  | .crank n => .stamp n
  | .stop => .bank

/-- A thread runs to its next sleep, section or lock operation. -/
def Relay.advance (maxRetries : ℤ) (r : Relay) (i : ℕ) : Option Relay :=
  match r.threads i with
  | .unborn | .ended _ => none
  | .acquireStart => some
      (if r.lock = none then { r with lock := some i }.goto i .check
      else r.goto i (.ended .refused))
  | .check => some
      (match startCheck r.app with
      | none => r.goto i (.releasing .refused)
      | some app => { r with app }.goto i (.attempt 1))
  | .attempt n => some
      (if (n : ℤ) ≤ maxRetries then
        { r with app := startAttempt maxRetries n r.app }.goto i (.pressing (.prime n) .energise)
      else r.goto i .finish)
  | .pressing button .energise => some ({ r with on := true }.goto i (.pressing button .hold))
  | .pressing button .hold => some (r.goto i (.pressing button (.deEnergise false)))
  | .pressing button (.deEnergise raised) => some
      ({ r with on := false }.goto i
        (if raised then .releasing .aborted else .pressing button .debounce))
  | .pressing button .debounce => some (r.goto i button.after)
  | .priming n => some (r.goto i (.pressing (.crank n) .energise))
  | .stamp n => some
      ({ r with app := startStamp r.now r.app }.goto i
        (if (n : ℤ) < maxRetries then .retrying n else .finish))
  | .retrying n => some (r.goto i (.attempt (n + 1)))
  | .finish => some
      ({ r with app := startFinish r.now maxRetries r.app }.goto i (.releasing .success))
  | .acquireStop => some
      (if r.lock = none then { r with lock := some i }.goto i (.pressing .stop .energise)
      else r.goto i (.ended .refused))
  | .bank => some ({ r with app := stopBank r.now r.app }.goto i (.releasing .success))
  | .releasing o => some ({ r with lock := none }.goto i (.ended o))

/-- Where an exception raised inside a sleep, or by the energising write, takes a thread. -/
def Point.raised : Point → Option Point
  | .pressing button .hold => some (.pressing button (.deEnergise true))
  | .pressing _ .energise | .pressing _ .debounce | .priming _ | .retrying _ =>
      some (.releasing .aborted)
  | _ => none

inductive RelayOp where
  /-- `/api/start` spawns its worker, `/api/stop` calls `stop_generator`. -/
  | spawn (i : ℕ) (stop : Bool)
  | advance (i : ℕ)
  | raised (i : ℕ)
  | setRunning (running : Bool)
  | tick (d : ℚ)
  deriving DecidableEq

def Relay.step (maxRetries : ℤ) (r : Relay) : RelayOp → Option Relay
  | .spawn i stop =>
      if r.threads i = .unborn then some (r.goto i (if stop then .acquireStop else .acquireStart))
      else none
  | .advance i => r.advance maxRetries i
  | .raised i => (r.threads i).raised.map (r.goto i)
  | .setRunning running => some { r with app := setRunning r.now running r.app }
  | .tick d => if 0 ≤ d then some { r with now := r.now + d } else none

/-! ## Exclusion -/

structure RelaySafe (r : Relay) : Prop where
  /-- Whoever is inside a sequence holds the lock. -/
  holder : ∀ i, (r.threads i).critical → r.lock = some i
  /-- The lock is held by a thread inside a sequence. -/
  held : ∀ i, r.lock = some i → (r.threads i).critical
  on_iff : r.on ↔ ∃ i, (r.threads i).energised

variable {maxRetries : ℤ} {r s : Relay} {i : ℕ}

theorem RelaySafe.alone (safe : RelaySafe r) (critical : (r.threads i).critical) {j : ℕ}
    (other : j ≠ i) : (r.threads j).critical = false := by
  rw [Bool.eq_false_iff]
  intro also
  have same := (safe.holder j also).symm.trans (safe.holder i critical)
  exact other (Option.some.inj same)

/-- The relay is on exactly if the thread inside a sequence has it on. -/
theorem RelaySafe.on_iff_of_critical (safe : RelaySafe r) (critical : (r.threads i).critical) :
    r.on ↔ (r.threads i).energised := by
  rw [safe.on_iff]
  constructor
  · rintro ⟨j, energised⟩
    by_cases same : j = i
    · exact same ▸ energised
    · have idle := safe.alone critical same
      rw [Point.critical_of_energised energised] at idle
      cases idle
  · exact fun energised => ⟨i, energised⟩

theorem RelaySafe.off_of_free (safe : RelaySafe r) (free : r.lock = none) : r.on = false := by
  rw [Bool.eq_false_iff]
  intro on
  obtain ⟨i, energised⟩ := safe.on_iff.mp on
  rw [safe.holder i (Point.critical_of_energised energised)] at free
  cases free

/-- The invariant depends on the lock, the relay and the threads alone. -/
theorem RelaySafe.congr (safe : RelaySafe r) (lock : s.lock = r.lock) (on : s.on = r.on)
    (threads : s.threads = r.threads) : RelaySafe s := by
  refine ⟨?_, ?_, ?_⟩
  · rw [lock, threads]
    exact safe.holder
  · rw [lock, threads]
    exact safe.held
  · rw [on, threads]
    exact safe.on_iff

/-- One thread alone inside a sequence, or none: the lock and the relay are as its point demands. -/
theorem RelaySafe.move {p : Point} (threads : s.threads = Function.update r.threads i p)
    (others : ∀ j, j ≠ i → (r.threads j).critical = false)
    (locked : s.lock = if p.critical then some i else none) (energised : s.on = p.energised) :
    RelaySafe s := by
  have here : s.threads i = p := by rw [threads, Function.update_self]
  have idle (j : ℕ) (other : j ≠ i) : (s.threads j).critical = false := by
    rw [threads, Function.update_of_ne other]
    exact others j other
  refine ⟨fun j critical => ?_, fun j holds => ?_, ?_⟩
  · by_cases same : j = i
    · rw [same, here] at critical
      rw [locked, if_pos critical, same]
    · rw [idle j same] at critical
      cases critical
  · rw [locked] at holds
    obtain ⟨critical, rfl⟩ := Trace.enabled_eq_some.mp holds
    rw [here]
    exact critical
  · rw [energised]
    constructor
    · intro on
      exact ⟨i, by rw [here]; exact on⟩
    · rintro ⟨j, on⟩
      by_cases same : j = i
      · rwa [same, here] at on
      · have out := idle j same
        rw [Point.critical_of_energised on] at out
        cases out

/-- A thread outside the sequences stays outside: nothing else changes. -/
theorem RelaySafe.idle {p : Point} (safe : RelaySafe r)
    (before : (r.threads i).critical = false) (after : p.critical = false) :
    RelaySafe (r.goto i p) := by
  have there (j : ℕ) (other : j ≠ i) : (r.goto i p).threads j = r.threads j :=
    Function.update_of_ne other ..
  have here : (r.goto i p).threads i = p := Function.update_self ..
  have same (j : ℕ) : ((r.goto i p).threads j).critical = (r.threads j).critical := by
    by_cases same : j = i
    · rw [same, here, before, after]
    · rw [there j same]
  have sameOn (j : ℕ) : ((r.goto i p).threads j).energised ↔ (r.threads j).energised := by
    by_cases same : j = i
    · rw [same, here]
      constructor <;> intro on
      · rw [Point.critical_of_energised on] at after
        cases after
      · rw [Point.critical_of_energised on] at before
        cases before
    · rw [there j same]
  refine ⟨fun j critical => safe.holder j (same j ▸ critical), fun j holds => ?_, ?_⟩
  · rw [same]
    exact safe.held j holds
  · exact safe.on_iff.trans (exists_congr fun j => (sameOn j).symm)

/-- A step of a thread inside a sequence to a point where it still holds the lock. -/
theorem RelaySafe.stay {p : Point} (safe : RelaySafe r) (critical : (r.threads i).critical)
    (threads : s.threads = Function.update r.threads i p) (lock : s.lock = r.lock)
    (after : p.critical) (energised : s.on = p.energised) : RelaySafe s := by
  refine RelaySafe.move threads (fun j other => safe.alone critical other) ?_ energised
  rw [lock, safe.holder i critical, if_pos after]

/-- The relay of a thread inside a sequence but not inside a press is off. -/
theorem RelaySafe.off (safe : RelaySafe r) (critical : (r.threads i).critical)
    (quiet : (r.threads i).energised = false) : r.on = false := by
  rw [Bool.eq_false_iff]
  intro on
  rw [(safe.on_iff_of_critical critical).mp on] at quiet
  cases quiet

theorem RelaySafe.acquire {p : Point} (safe : RelaySafe r) (free : r.lock = none)
    (threads : s.threads = Function.update r.threads i p) (lock : s.lock = some i)
    (on : s.on = r.on) (after : p.critical) (quiet : p.energised = false) : RelaySafe s := by
  refine RelaySafe.move threads (fun j _ => ?_) ?_ ?_
  · rw [Bool.eq_false_iff]
    intro critical
    rw [safe.holder j critical] at free
    cases free
  · rw [lock, if_pos after]
  · rw [on, safe.off_of_free free, quiet]

theorem RelaySafe.advance (safe : RelaySafe r) (h : r.advance maxRetries i = some s) :
    RelaySafe s := by
  cases point : r.threads i with
  | unborn | ended o =>
      simp only [Relay.advance, point] at h
      cases h
  | acquireStart | acquireStop =>
      simp only [Relay.advance, point, Option.some.injEq] at h
      rw [← h]
      split
      case isTrue free => exact safe.acquire free rfl rfl rfl rfl rfl
      case isFalse => exact safe.idle (by rw [point]; rfl) rfl
  | releasing o =>
      have critical : (r.threads i).critical := by rw [point]; rfl
      simp only [Relay.advance, point, Option.some.injEq] at h
      rw [← h]
      exact RelaySafe.move rfl (fun j other => safe.alone critical other) rfl
        (safe.off critical (by rw [point]; rfl))
  | pressing button p =>
      have critical : (r.threads i).critical := by rw [point]; rfl
      cases p with
      | energise =>
          simp only [Relay.advance, point, Option.some.injEq] at h
          rw [← h]
          exact safe.stay critical rfl rfl rfl rfl
      | hold =>
          have on : r.on := (safe.on_iff_of_critical critical).mpr (by rw [point]; rfl)
          simp only [Relay.advance, point, Option.some.injEq] at h
          rw [← h]
          exact safe.stay critical rfl rfl rfl on
      | deEnergise raised =>
          simp only [Relay.advance, point, Option.some.injEq] at h
          rw [← h]
          split
          · exact safe.stay critical rfl rfl rfl rfl
          · exact safe.stay critical rfl rfl rfl rfl
      | debounce =>
          have off := safe.off critical (by rw [point]; rfl)
          simp only [Relay.advance, point, Option.some.injEq] at h
          rw [← h]
          cases button <;> exact safe.stay critical rfl rfl rfl off
  | check | attempt n | stamp n =>
      have critical : (r.threads i).critical := by rw [point]; rfl
      have off := safe.off critical (by rw [point]; rfl)
      simp only [Relay.advance, point, Option.some.injEq] at h
      rw [← h]
      split
      · exact safe.stay critical rfl rfl rfl off
      · exact safe.stay critical rfl rfl rfl off
  | priming n | retrying n | finish | bank =>
      have critical : (r.threads i).critical := by rw [point]; rfl
      have off := safe.off critical (by rw [point]; rfl)
      simp only [Relay.advance, point, Option.some.injEq] at h
      rw [← h]
      exact safe.stay critical rfl rfl rfl off

theorem RelaySafe.raised {p : Point} (safe : RelaySafe r) (h : (r.threads i).raised = some p) :
    RelaySafe (r.goto i p) := by
  cases point : r.threads i with
  | pressing button q =>
      have critical : (r.threads i).critical := by rw [point]; rfl
      rw [point] at h
      cases q with
      | hold =>
          cases h
          have on : r.on := (safe.on_iff_of_critical critical).mpr (by rw [point]; rfl)
          exact safe.stay critical rfl rfl rfl on
      | energise | debounce =>
          cases h
          exact safe.stay critical rfl rfl rfl (safe.off critical (by rw [point]; rfl))
      | deEnergise => cases h
  | priming n | retrying n =>
      have critical : (r.threads i).critical := by rw [point]; rfl
      rw [point] at h
      cases h
      exact safe.stay critical rfl rfl rfl (safe.off critical (by rw [point]; rfl))
  | unborn | acquireStart | check | attempt | stamp | finish | acquireStop | bank | releasing
  | ended =>
      rw [point] at h
      cases h

theorem RelaySafe.step (safe : RelaySafe r) {op : RelayOp} (h : r.step maxRetries op = some s) :
    RelaySafe s := by
  cases op with
  | spawn i stop =>
      obtain ⟨unborn, rfl⟩ := Trace.enabled_eq_some.mp h
      exact safe.idle (by rw [unborn]; rfl) (by cases stop <;> rfl)
  | advance i => exact safe.advance h
  | raised i =>
      obtain ⟨p, raised, rfl⟩ := Option.map_eq_some_iff.mp h
      exact safe.raised raised
  | setRunning running =>
      cases h
      exact safe.congr rfl rfl rfl
  | tick d =>
      obtain ⟨-, rfl⟩ := Trace.enabled_eq_some.mp h
      exact safe.congr rfl rfl rfl

theorem RelaySafe.initial (app : App) (now : ℚ) : RelaySafe { app, now } where
  holder _ h := by cases h
  held _ h := by cases h
  on_iff := ⟨fun h => (by cases h), fun ⟨_, h⟩ => (by cases h)⟩

/-- A step takes the lock only for a thread that is about to acquire it. -/
theorem Relay.step_lock {op : RelayOp} (h : r.step maxRetries op = some s) :
    s.lock = r.lock ∨ s.lock = none ∨
      ∃ i, op = .advance i ∧ (r.threads i).acquiring ∧ r.lock = none ∧ s.lock = some i := by
  cases op with
  | spawn i stop =>
      obtain ⟨-, rfl⟩ := Trace.enabled_eq_some.mp h
      exact Or.inl rfl
  | setRunning running =>
      cases h
      exact Or.inl rfl
  | tick d =>
      obtain ⟨-, rfl⟩ := Trace.enabled_eq_some.mp h
      exact Or.inl rfl
  | raised i =>
      obtain ⟨p, -, rfl⟩ := Option.map_eq_some_iff.mp h
      exact Or.inl rfl
  | advance i =>
      have advanced : r.advance maxRetries i = some s := h
      cases point : r.threads i with
      | unborn | ended o =>
          simp only [Relay.advance, point] at advanced
          cases advanced
      | acquireStart | acquireStop =>
          simp only [Relay.advance, point, Option.some.injEq] at advanced
          by_cases free : r.lock = none
          · rw [if_pos free] at advanced
            rw [← advanced]
            exact Or.inr (Or.inr ⟨i, rfl, by rw [point]; rfl, free, rfl⟩)
          · rw [if_neg free] at advanced
            rw [← advanced]
            exact Or.inl rfl
      | releasing o =>
          simp only [Relay.advance, point, Option.some.injEq] at advanced
          rw [← advanced]
          exact Or.inr (Or.inl rfl)
      | check =>
          simp only [Relay.advance, point, Option.some.injEq] at advanced
          rw [← advanced]
          split <;> exact Or.inl rfl
      | attempt n =>
          simp only [Relay.advance, point, Option.some.injEq] at advanced
          rw [← advanced]
          split <;> exact Or.inl rfl
      | pressing button p =>
          cases p <;> simp only [Relay.advance, point, Option.some.injEq] at advanced <;>
            rw [← advanced] <;> exact Or.inl rfl
      | priming n | stamp n | retrying n | finish | bank =>
          simp only [Relay.advance, point, Option.some.injEq] at advanced
          rw [← advanced]
          exact Or.inl rfl

end GeneratorPi
