import GeneratorPi.Lib.OrderedDict
import GeneratorPi.Lib.PyText
import GeneratorPi.Lib.Trace
import Mathlib.Data.Rat.Cast.Order
import Mathlib.Logic.Function.Basic
import Mathlib.Tactic.Linarith

/-!
# The tracker of failed logins

`genpi/ratelimit.py`: failures by client address, the lockout after `RATE_LIMIT_MAX_FAILURES` of
them, the periodic cleanup and the hard cap.  Times are readings of the monotonic clock; a function
that reads it twice takes both readings.

`Watch` is the limiter under its clock with the lockouts it has granted, and `Watch.step` one call
or the passing of time.
-/

namespace GeneratorPi

open PyText OrderedDict

abbrev Ip := Text

/-- The `RATE_LIMIT_*` settings of `CONFIG`. -/
structure RateLimits where
  maxFailures : ℤ
  lockoutSeconds : ℤ
  cleanupSeconds : ℤ
  maxTrackedIps : ℤ
  deriving DecidableEq, Repr

structure RateLimits.Positive (c : RateLimits) : Prop where
  maxFailures : 0 < c.maxFailures
  lockoutSeconds : 0 < c.lockoutSeconds
  cleanupSeconds : 0 < c.cleanupSeconds
  maxTrackedIps : 0 < c.maxTrackedIps

/-- An entry of `_fail_tracker`. -/
structure Failures where
  count : ℕ := 0
  lockedUntil : Option ℚ := none
  lastAttempt : ℚ := 0
  deriving DecidableEq, Repr

structure Limiter where
  /-- `_fail_tracker`. -/
  tracker : Dict Ip Failures := .empty
  /-- `_last_cleanup`. -/
  lastCleanup : ℚ
  deriving DecidableEq

/-! ## The calls -/

/-- An entry that a cleanup at `now` drops: its lockout is over, or it is stale. -/
def Failures.purged (c : RateLimits) (now : ℚ) (e : Failures) : Bool :=
  e.lockedUntil.any (· ≤ now) || (c.cleanupSeconds : ℚ) < now - e.lastAttempt

/-- `_cleanup_tracker`. -/
def cleanupTracker (c : RateLimits) (now : ℚ) (l : Limiter) : Limiter :=
  if now - l.lastCleanup < c.cleanupSeconds then l
  else { tracker := l.tracker.filter fun _ e => !e.purged c now, lastCleanup := now }

/-- `is_rate_limited`; `later` is the reading behind the seconds remaining. -/
def isRateLimited (c : RateLimits) (now later : ℚ) (ip : Ip) (l : Limiter) : ℚ × Limiter :=
  let l := cleanupTracker c now l
  match (l.tracker.get? ip).bind (·.lockedUntil) with
  | none => (0, l)
  | some deadline =>
      let remaining := deadline - later
      if remaining ≤ 0 then (0, { l with tracker := l.tracker.erase ip }) else (remaining, l)

/-- The eviction at the head of `record_failure`; `none` is the `ValueError` of `min` on an empty
tracker. -/
def makeRoom (c : RateLimits) (ip : Ip) (tracker : Dict Ip Failures) :
    Option (Dict Ip Failures) :=
  if ip ∉ tracker.keys ∧ c.maxTrackedIps ≤ tracker.size then
    (tracker.minKey (·.lastAttempt)).map tracker.erase
  else some tracker

/-- The entry `record_failure` writes over the one it finds, with its first result. -/
def Failures.more (c : RateLimits) (now lockAt : ℚ) (e : Failures) : Bool × Failures :=
  let count := e.count + 1
  if c.maxFailures ≤ count then
    (true, { count, lockedUntil := some (lockAt + c.lockoutSeconds), lastAttempt := now })
  else (false, { e with count, lastAttempt := now })

/-- `record_failure`; `lockAt` is the reading the lockout is counted from. -/
def recordFailure (c : RateLimits) (now lockAt : ℚ) (ip : Ip) (l : Limiter) :
    Option ((Bool × ℕ) × Limiter) :=
  (makeRoom c ip l.tracker).map fun tracker =>
    let (lockedOut, e) := ((tracker.get? ip).getD {}).more c now lockAt
    ((lockedOut, e.count), { l with tracker := tracker.set ip e })

/-- `record_success`. -/
def recordSuccess (ip : Ip) (l : Limiter) : Limiter :=
  { l with tracker := l.tracker.erase ip }

/-! ## What a call can do -/

section Calls

variable {c : RateLimits} {now later lockAt : ℚ} {ip other : Ip} {l l' : Limiter}

theorem lastAttempt_more (e : Failures) : (e.more c now lockAt).2.lastAttempt = now := by
  unfold Failures.more
  dsimp only
  split <;> rfl

/-- The lockout of a written entry is a new one, or the one it had. -/
theorem lockedUntil_more (e : Failures) :
    (e.more c now lockAt).2.lockedUntil =
      if (e.more c now lockAt).1 then some (lockAt + c.lockoutSeconds) else e.lockedUntil := by
  unfold Failures.more
  dsimp only
  split <;> rfl

theorem cleanupTracker_cases (c : RateLimits) (now : ℚ) (l : Limiter) :
    (now - l.lastCleanup < c.cleanupSeconds ∧ cleanupTracker c now l = l) ∨
    (c.cleanupSeconds ≤ now - l.lastCleanup ∧ cleanupTracker c now l =
      { tracker := l.tracker.filter fun _ e => !e.purged c now, lastCleanup := now }) := by
  by_cases soon : now - l.lastCleanup < c.cleanupSeconds
  · exact Or.inl ⟨soon, if_pos soon⟩
  · exact Or.inr ⟨not_lt.mp soon, if_neg soon⟩

/-- A cleanup finds no other entries, and leaves those it does not purge. -/
theorem get?_cleanupTracker {e : Failures} (found : l.tracker.get? ip = some e)
    (kept : e.purged c now = false) : (cleanupTracker c now l).tracker.get? ip = some e := by
  rcases cleanupTracker_cases c now l with ⟨-, eq⟩ | ⟨-, eq⟩
  · rw [eq, found]
  · rw [eq, Dict.get?_filter, found]
    simp [kept]

theorem mem_of_mem_cleanupTracker {e : Failures}
    (mem : (ip, e) ∈ (cleanupTracker c now l).tracker.entries) : (ip, e) ∈ l.tracker.entries := by
  rcases cleanupTracker_cases c now l with ⟨-, eq⟩ | ⟨-, eq⟩
  · rwa [eq] at mem
  · rw [eq] at mem
    exact (Dict.mem_filter.mp mem).1

theorem size_cleanupTracker_le : (cleanupTracker c now l).tracker.size ≤ l.tracker.size := by
  rcases cleanupTracker_cases c now l with ⟨-, eq⟩ | ⟨-, eq⟩
  · rw [eq]
  · rw [eq]
    exact Dict.size_filter_le _

/-- A check purges and then may drop the entry it was asked about. -/
theorem isRateLimited_cases (c : RateLimits) (now later : ℚ) (ip : Ip) (l : Limiter) :
    ((isRateLimited c now later ip l).2 = cleanupTracker c now l) ∨
    ((isRateLimited c now later ip l).1 = 0 ∧
      (isRateLimited c now later ip l).2 =
        recordSuccess ip (cleanupTracker c now l)) := by
  unfold isRateLimited
  dsimp only
  split
  · exact Or.inl rfl
  · split
    · exact Or.inr ⟨rfl, rfl⟩
    · exact Or.inl rfl

/-- An address is reported as limited by an entry whose lockout is not over and which the cleanup,
if one is due, does not take. -/
theorem limited_iff :
    0 < (isRateLimited c now later ip l).1 ↔
      ∃ e deadline, (cleanupTracker c now l).tracker.get? ip = some e ∧
        e.lockedUntil = some deadline ∧ later < deadline := by
  unfold isRateLimited
  dsimp only
  split
  next missing =>
    refine ⟨fun h => absurd h (lt_irrefl 0), ?_⟩
    rintro ⟨e, deadline, found, locked, -⟩
    rw [found, Option.bind_some, locked] at missing
    cases missing
  next deadline found =>
    rcases Option.bind_eq_some_iff.mp found with ⟨e, entry, locked⟩
    have only : ∀ e' deadline', (cleanupTracker c now l).tracker.get? ip = some e' →
        e'.lockedUntil = some deadline' → deadline' = deadline := by
      intro e' deadline' entry' locked'
      rw [entry, Option.some.injEq] at entry'
      rw [← entry', locked, Option.some.injEq] at locked'
      exact locked'.symm
    split
    next passed =>
      refine ⟨fun h => absurd h (lt_irrefl 0), ?_⟩
      rintro ⟨e', deadline', entry', locked', h⟩
      rw [only e' deadline' entry' locked'] at h
      linarith
    next left =>
      exact ⟨fun h => ⟨e, deadline, entry, locked, sub_pos.mp h⟩, fun _ => not_le.mp left⟩

theorem makeRoom_of_room (room : ip ∈ l.tracker.keys ∨ (l.tracker.size : ℤ) < c.maxTrackedIps) :
    makeRoom c ip l.tracker = some l.tracker := by
  refine if_neg ?_
  rintro ⟨fresh, full⟩
  rcases room with mem | room
  · exact fresh mem
  · omega

/-- `record_failure` evicts `ip` for `other`: the tracker is full, `other` is new and no entry is
older. -/
def Evicts (c : RateLimits) (l : Limiter) (other ip : Ip) : Prop :=
  other ∉ l.tracker.keys ∧ c.maxTrackedIps ≤ l.tracker.size ∧
    l.tracker.minKey (·.lastAttempt) = some ip

instance (c : RateLimits) (l : Limiter) (other ip : Ip) : Decidable (Evicts c l other ip) :=
  inferInstanceAs (Decidable (_ ∧ _ ∧ _))

/-- The tracker after the eviction: as it was, or without the oldest entry. -/
theorem makeRoom_cases {tracker : Dict Ip Failures}
    (h : makeRoom c other l.tracker = some tracker) :
    (tracker = l.tracker ∧ ∀ ip, ¬ Evicts c l other ip) ∨
    ∃ oldest, tracker = l.tracker.erase oldest ∧ Evicts c l other oldest := by
  unfold makeRoom at h
  split at h
  next full =>
    rcases Option.map_eq_some_iff.mp h with ⟨oldest, least, rfl⟩
    exact Or.inr ⟨oldest, rfl, full.1, full.2, least⟩
  next room =>
    cases h
    exact Or.inl ⟨rfl, fun ip evicted => room ⟨evicted.1, evicted.2.1⟩⟩

/-- A full tracker has an oldest entry. -/
theorem oldest_of_full (cap : 0 < c.maxTrackedIps) (full : c.maxTrackedIps ≤ l.tracker.size) :
    ∃ oldest, l.tracker.minKey (·.lastAttempt) = some oldest := by
  cases least : l.tracker.minKey (·.lastAttempt) with
  | none =>
      have empty := Dict.minKey_eq_none.mp least
      omega
  | some oldest => exact ⟨oldest, rfl⟩

/-- `min` is never asked of an empty tracker. -/
theorem makeRoom_isSome (cap : 0 < c.maxTrackedIps) : (makeRoom c ip l.tracker).isSome := by
  unfold makeRoom
  split
  next full =>
    rcases oldest_of_full cap full.2 with ⟨oldest, least⟩
    rw [least]
    rfl
  next => rfl

/-- What `record_failure` leaves: room was made, and the address has its new entry. -/
theorem recordFailure_eq_some {r : Bool × ℕ}
    (h : recordFailure c now lockAt ip l = some (r, l')) :
    ∃ tracker, makeRoom c ip l.tracker = some tracker ∧
      r.1 = (((tracker.get? ip).getD {}).more c now lockAt).1 ∧
      l'.lastCleanup = l.lastCleanup ∧
      l'.tracker = tracker.set ip (((tracker.get? ip).getD {}).more c now lockAt).2 := by
  rcases Option.map_eq_some_iff.mp h with ⟨tracker, room, eq⟩
  cases eq
  exact ⟨tracker, room, rfl, rfl, rfl⟩

end Calls

/-! ## Under a clock -/

/-- A limiter, its clock, and the lockouts that `record_failure` reported, each until the next
success of its address. -/
structure Watch where
  limiter : Limiter
  clock : ℚ
  granted : Ip → Option ℚ := fun _ => none

inductive LimiterOp where
  /-- `pause` is the time between the two readings of the call, as in `check`. -/
  | failure (ip : Ip) (pause : ℚ)
  | success (ip : Ip)
  | check (ip : Ip) (pause : ℚ)
  | advance (seconds : ℚ)
  deriving DecidableEq

/-- A process that starts at the reading `clock`. -/
def Watch.start (clock : ℚ) : Watch := { limiter := { lastCleanup := clock }, clock }

/-- One call, or time that passes; `none` where the call raises or the clock would go back. -/
def Watch.step (c : RateLimits) (w : Watch) : LimiterOp → Option Watch
  | .failure ip pause =>
      if 0 ≤ pause then
        (recordFailure c w.clock (w.clock + pause) ip w.limiter).map
        fun ((lockedOut, _), limiter) =>
          { limiter := limiter
            clock := w.clock + pause
            granted :=
              if lockedOut then
                Function.update w.granted ip (some (w.clock + pause + c.lockoutSeconds))
              else w.granted }
      else none
  | .success ip =>
      some { w with
        limiter := recordSuccess ip w.limiter
        granted := Function.update w.granted ip none }
  | .check ip pause =>
      if 0 ≤ pause then
        some { w with
          limiter := (isRateLimited c w.clock (w.clock + pause) ip w.limiter).2
          clock := w.clock + pause }
      else none
  | .advance d => if 0 ≤ d then some { w with clock := w.clock + d } else none

/-- The address of a failure. -/
def LimiterOp.failing : LimiterOp → Option Ip
  | .failure ip _ => some ip
  | _ => none

end GeneratorPi
