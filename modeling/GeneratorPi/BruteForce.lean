import GeneratorPi.Lockouts

/-!
# Concurrent login attempts from one address

`auth_required` (`genpi/auth.py`) asks `is_rate_limited` first, verifies the password without a
lock held, and only then records the result, so requests that are past the check are not seen by
it.  `Guard.step` interleaves any number of requests from one address with the tracker calls made
for other addresses.  The failing verifications between two clearings of the address's counter
stay below the threshold plus the requests open at once (`verified_lt_of_run`); the check alone
does not keep them within the threshold (`open_requests_exceed_threshold`).
-/

namespace GeneratorPi

open OrderedDict Trace

/-! ## Tracker calls -/

/-- A call for some address, with its readings of the monotonic clock. -/
inductive TrackerCall where
  | check (now later : ℚ)
  | failure (now lockAt : ℚ)
  | success
  deriving DecidableEq, Repr

/-- The tracker after the call; a `record_failure` that raises leaves it as it was. -/
def TrackerCall.apply (c : RateLimits) (ip : Ip) (l : Limiter) : TrackerCall → Limiter
  | .check now later => (isRateLimited c now later ip l).2
  | .failure now lockAt => ((recordFailure c now lockAt ip l).map Prod.snd).getD l
  | .success => recordSuccess ip l

/-- The failures counted for an address. -/
def Limiter.count (ip : Ip) (l : Limiter) : ℕ := ((l.tracker.get? ip).map (·.count)).getD 0

/-- The entry of the address is the one it was, or gone. -/
def KeepsOrClears (ip : Ip) (l l' : Limiter) : Prop :=
  l'.tracker.get? ip = l.tracker.get? ip ∨ l'.tracker.get? ip = none

section Calls

variable {c : RateLimits} {ip other : Ip} {l l' : Limiter} {now later lockAt : ℚ}

theorem keepsOrClears_cleanup (ip : Ip) (l : Limiter) :
    KeepsOrClears ip l (cleanupTracker c now l) := by
  rcases cleanupTracker_cases c now l with ⟨-, eq⟩ | ⟨-, eq⟩
  · exact Or.inl (by rw [eq])
  · rw [eq]
    cases found : l.tracker.get? ip with
    | none => exact Or.inr (by rw [Dict.get?_filter, found]; rfl)
    | some e =>
        cases kept : e.purged c now with
        | false => exact Or.inl (by rw [Dict.get?_filter, found]; simp [kept])
        | true => exact Or.inr (by rw [Dict.get?_filter, found]; simp [kept])

theorem KeepsOrClears.success (keeps : KeepsOrClears ip l l') (other : Ip) :
    KeepsOrClears ip l (recordSuccess other l') := by
  by_cases mine : ip = other
  · subst mine
    exact Or.inr Dict.get?_erase_self
  · have same : (recordSuccess other l').tracker.get? ip = l'.tracker.get? ip :=
      Dict.get?_erase_of_ne mine
    rcases keeps with kept | cleared
    · exact Or.inl (same.trans kept)
    · exact Or.inr (same.trans cleared)

theorem keepsOrClears_check (other : Ip) :
    KeepsOrClears ip l (isRateLimited c now later other l).2 := by
  rcases isRateLimited_cases c now later other l with eq | ⟨-, eq⟩
  · rw [eq]
    exact keepsOrClears_cleanup ip l
  · rw [eq]
    exact (keepsOrClears_cleanup ip l).success other

/-- No call for another address adds to the failures of this one. -/
theorem keepsOrClears_elsewhere (different : other ≠ ip) (call : TrackerCall) :
    KeepsOrClears ip l (call.apply c other l) := by
  cases call with
  | check now later => exact keepsOrClears_check other
  | failure now lockAt =>
      cases recorded : recordFailure c now lockAt other l with
      | none => exact Or.inl (by simp [TrackerCall.apply, recorded])
      | some result =>
          have entry := get?_recordFailure_of_ne different recorded
          have eq : TrackerCall.apply c other l (.failure now lockAt) = result.2 := by
            simp [TrackerCall.apply, recorded]
          rw [eq]
          split at entry
          · exact Or.inr entry
          · exact Or.inl entry
  | success =>
      exact KeepsOrClears.success (Or.inl rfl) other

/-- An address that passes the check has no lockout left. -/
theorem unlocked_of_passed (passed : ¬ 0 < (isRateLimited c now later ip l).1) {e : Failures}
    (found : (isRateLimited c now later ip l).2.tracker.get? ip = some e) :
    e.lockedUntil = none := by
  cases locked : e.lockedUntil with
  | none => rfl
  | some deadline =>
      unfold isRateLimited at found passed
      dsimp only at found passed
      split at found
      next missing =>
        rw [found, Option.bind_some, locked] at missing
        cases missing
      next until_ standing =>
        split at found
        · rw [Dict.get?_erase_self] at found
          cases found
        next left =>
          rw [standing] at passed
          dsimp only at passed
          rw [if_neg left] at passed
          exact absurd (not_le.mp left) passed

/-- With room for one address, a failure is recorded: the count of its address goes up by one. -/
theorem get?_recordFailure_self (cap : 0 < c.maxTrackedIps) :
    (TrackerCall.apply c ip l (.failure now lockAt)).tracker.get? ip =
      some (((l.tracker.get? ip).getD {}).more c now lockAt).2 := by
  have some_room : (makeRoom c ip l.tracker).isSome := makeRoom_isSome cap
  rcases Option.isSome_iff_exists.mp some_room with ⟨tracker, room⟩
  have own : tracker.get? ip = l.tracker.get? ip := by
    rcases makeRoom_cases room with ⟨rfl, -⟩ | ⟨oldest, rfl, fresh, -, least⟩
    · rfl
    · refine Dict.get?_erase_of_ne ?_
      rintro rfl
      exact fresh (Dict.mem_keys_of_minKey least)
  have recorded : recordFailure c now lockAt ip l =
      some (((((tracker.get? ip).getD {}).more c now lockAt).1,
        (((tracker.get? ip).getD {}).more c now lockAt).2.count),
        { l with
          tracker := tracker.set ip (((tracker.get? ip).getD {}).more c now lockAt).2 }) := by
    rw [recordFailure, room]
    rfl
  rw [TrackerCall.apply, recorded, ← own]
  exact Dict.get?_set_self

theorem count_more (e : Failures) : (e.more c now lockAt).2.count = e.count + 1 := by
  unfold Failures.more
  dsimp only
  split <;> rfl

end Calls

/-! ## The requests of one address -/

/-- What `auth_required` finds out about a request behind the check. -/
inductive Verdict where
  /-- A password verification failed. -/
  | denied
  /-- No `Authorization` to verify. -/
  | missing
  /-- The API key or the password is right. -/
  | granted
  deriving DecidableEq, Repr

/-- A step of some request thread. -/
inductive GuardStep where
  | check (now later : ℚ)
  | verify (verdict : Verdict)
  | recordFailure (now lockAt : ℚ)
  | recordSuccess
  /-- A tracker call of a request from another address. -/
  | elsewhere (other : Ip) (call : TrackerCall)
  deriving DecidableEq, Repr

/-- The tracker and the requests of one address: how many are past the check and not verified, how
many are verified and have still to record a failure or a success, the failing password
verifications since the address's counter was last cleared, and the most requests that have been
open at once since then. -/
structure Guard where
  limiter : Limiter
  checked : ℕ := 0
  denied : ℕ := 0
  granted : ℕ := 0
  verified : ℕ := 0
  peak : ℕ := 0
  deriving DecidableEq

/-- The requests whose failure may still be recorded. -/
def Guard.opened (g : Guard) : ℕ := g.checked + g.denied

/-- The counter of the address is cleared: its entry leaves the tracker. -/
def Cleared (ip : Ip) (l l' : Limiter) : Prop :=
  (l.tracker.get? ip).isSome ∧ l'.tracker.get? ip = none

instance (ip : Ip) (l l' : Limiter) : Decidable (Cleared ip l l') :=
  inferInstanceAs (Decidable (_ ∧ _))

/-- The state after a tracker call, the history bits brought up to date. -/
def Guard.settle (ip : Ip) (before : Limiter) (g : Guard) : Guard :=
  if Cleared ip before g.limiter then { g with verified := 0, peak := g.opened }
  else { g with peak := max g.peak g.opened }

/-- One step; `none` where no request is at that point. -/
def Guard.step (c : RateLimits) (ip : Ip) (g : Guard) : GuardStep → Option Guard
  | .check now later =>
      let (remaining, limiter) := isRateLimited c now later ip g.limiter
      -- A limited request ends here.
      let passed := if 0 < remaining then 0 else 1
      some (.settle ip g.limiter { g with limiter := limiter, checked := g.checked + passed })
  | .verify verdict =>
      if 0 < g.checked then
        let g := { g with checked := g.checked - 1 }
        match verdict with
        | .denied => some { g with denied := g.denied + 1, verified := g.verified + 1 }
        | .missing => some { g with denied := g.denied + 1 }
        | .granted => some { g with granted := g.granted + 1 }
      else none
  | .recordFailure now lockAt =>
      if 0 < g.denied then
        some (.settle ip g.limiter { g with
          limiter := TrackerCall.apply c ip g.limiter (.failure now lockAt)
          denied := g.denied - 1 })
      else none
  | .recordSuccess =>
      if 0 < g.granted then
        some (.settle ip g.limiter { g with
          limiter := GeneratorPi.recordSuccess ip g.limiter
          granted := g.granted - 1 })
      else none
  | .elsewhere other call =>
      if other ≠ ip then
        some (.settle ip g.limiter { g with limiter := call.apply c other g.limiter })
      else none

/-- `RATE_LIMIT_MAX_FAILURES`, at least one: the first failure is always recorded. -/
def RateLimits.threshold (c : RateLimits) : ℕ := (max 1 c.maxFailures).toNat

/-- Recorded and open failures stay below the threshold plus the open requests, and every failing
verification is recorded or open. -/
structure Guard.Bounded (c : RateLimits) (ip : Ip) (g : Guard) : Prop where
  unlocked : ∀ e, g.limiter.tracker.get? ip = some e → e.lockedUntil = none →
    (e.count : ℤ) < c.maxFailures
  opened_le : g.opened ≤ g.peak
  sum_lt : g.limiter.count ip + g.opened < c.threshold + g.peak
  verified_le : g.verified ≤ g.limiter.count ip + g.denied

section Guard

variable {c : RateLimits} {ip : Ip} {g g' : Guard} {l l' : Limiter}

theorem threshold_pos : 0 < c.threshold := by
  unfold RateLimits.threshold
  omega

theorem Guard.Bounded.start (l : Limiter) (empty : l.tracker.get? ip = none) :
    Guard.Bounded c ip { limiter := l } where
  unlocked e found := by
    rw [empty] at found
    cases found
  opened_le := le_rfl
  sum_lt := by
    have := threshold_pos (c := c)
    simpa [Limiter.count, empty, Guard.opened] using this
  verified_le := Nat.zero_le _

theorem count_of_none (h : l.tracker.get? ip = none) : l.count ip = 0 := by
  rw [Limiter.count, h]
  rfl

theorem count_of_some {e : Failures} (h : l.tracker.get? ip = some e) : l.count ip = e.count := by
  rw [Limiter.count, h]
  rfl

/-- After any step it is enough to bound what a clearing does not reset. -/
theorem Guard.Bounded.settle
    (unlocked : ∀ e, g.limiter.tracker.get? ip = some e → e.lockedUntil = none →
      (e.count : ℤ) < c.maxFailures)
    (sum_lt : ¬ Cleared ip l g.limiter →
      g.limiter.count ip + g.opened < c.threshold + max g.peak g.opened)
    (verified_le : ¬ Cleared ip l g.limiter → g.verified ≤ g.limiter.count ip + g.denied) :
    Guard.Bounded c ip (.settle ip l g) := by
  unfold Guard.settle
  split
  next cleared =>
    have none_left := count_of_none cleared.2
    have positive := threshold_pos (c := c)
    refine ⟨unlocked, le_rfl, ?_, Nat.zero_le _⟩
    change g.limiter.count ip + g.opened < c.threshold + g.opened
    omega
  next kept => exact ⟨unlocked, le_max_right _ _, sum_lt kept, verified_le kept⟩

/-- A call that keeps or clears the address's entry, with no more requests open. -/
theorem Guard.Bounded.of_keepsOrClears (bounded : g.Bounded c ip)
    (keeps : KeepsOrClears ip g.limiter l') (granted : ℕ) :
    Guard.Bounded c ip (.settle ip g.limiter { g with limiter := l', granted := granted }) := by
  have kept : ¬ Cleared ip g.limiter l' → l'.tracker.get? ip = g.limiter.tracker.get? ip := by
    intro uncleared
    rcases keeps with same | gone
    · exact same
    · rw [gone]
      by_contra other
      refine uncleared ⟨Option.isSome_iff_ne_none.mpr fun none => other none.symm, gone⟩
  have count : ¬ Cleared ip g.limiter l' → l'.count ip = g.limiter.count ip := fun uncleared => by
    rw [Limiter.count, kept uncleared, Limiter.count]
  refine Guard.Bounded.settle ?_ ?_ ?_
  · intro e found
    rcases keeps with same | gone
    · exact bounded.unlocked e (same ▸ found)
    · rw [show l'.tracker.get? ip = some e from found] at gone
      cases gone
  · intro uncleared
    have sum := bounded.sum_lt
    change l'.count ip + g.opened < c.threshold + max g.peak g.opened
    rw [count uncleared]
    omega
  · intro uncleared
    change g.verified ≤ l'.count ip + g.denied
    rw [count uncleared]
    exact bounded.verified_le

/-- An address that passes the check has fewer recorded failures than the threshold. -/
theorem count_lt_threshold (bounded : g.Bounded c ip) {now later : ℚ}
    (passed : ¬ 0 < (isRateLimited c now later ip g.limiter).1) :
    (isRateLimited c now later ip g.limiter).2.count ip < c.threshold := by
  cases found : (isRateLimited c now later ip g.limiter).2.tracker.get? ip with
  | none =>
      rw [count_of_none found]
      exact threshold_pos
  | some e =>
      rw [count_of_some found]
      have old : g.limiter.tracker.get? ip = some e := by
        have kept : KeepsOrClears ip g.limiter (isRateLimited c now later ip g.limiter).2 :=
          keepsOrClears_check ip
        rcases kept with same | gone
        · rw [← same, found]
        · rw [found] at gone
          cases gone
      have below := bounded.unlocked e old (unlocked_of_passed passed found)
      unfold RateLimits.threshold
      omega

theorem step_check (g : Guard) (now later : ℚ) :
    g.step c ip (.check now later) = some (.settle ip g.limiter { g with
      limiter := (isRateLimited c now later ip g.limiter).2
      checked := g.checked + if 0 < (isRateLimited c now later ip g.limiter).1 then 0 else 1 }) :=
  rfl

theorem step_recordSuccess (waiting : 0 < g.granted) :
    g.step c ip .recordSuccess = some (.settle ip g.limiter { g with
      limiter := GeneratorPi.recordSuccess ip g.limiter
      granted := g.granted - 1 }) :=
  if_pos waiting

theorem step_recordFailure (waiting : 0 < g.denied) (now lockAt : ℚ) :
    g.step c ip (.recordFailure now lockAt) = some (.settle ip g.limiter { g with
      limiter := TrackerCall.apply c ip g.limiter (.failure now lockAt)
      denied := g.denied - 1 }) :=
  if_pos waiting

theorem Guard.Bounded.check (bounded : g.Bounded c ip) (now later : ℚ)
    (h : g.step c ip (.check now later) = some g') : g'.Bounded c ip := by
  have keeps : KeepsOrClears ip g.limiter (isRateLimited c now later ip g.limiter).2 :=
    keepsOrClears_check ip
  rw [step_check] at h
  cases h
  by_cases limited : 0 < (isRateLimited c now later ip g.limiter).1
  · rw [if_pos limited]
    exact bounded.of_keepsOrClears keeps g.granted
  · rw [if_neg limited]
    have below := count_lt_threshold bounded limited
    refine Guard.Bounded.settle ?_ ?_ ?_
    · intro e found
      rcases keeps with same | gone
      · exact bounded.unlocked e (same ▸ found)
      · rw [show (isRateLimited c now later ip g.limiter).2.tracker.get? ip = some e from found]
          at gone
        cases gone
    · intro _
      simp only [Guard.opened]
      omega
    · intro uncleared
      have verified := bounded.verified_le
      rcases keeps with same | gone
      · change g.verified ≤ (isRateLimited c now later ip g.limiter).2.count ip + g.denied
        rw [Limiter.count, same]
        exact verified
      · have absent : g.limiter.tracker.get? ip = none := by
          by_contra other
          exact uncleared ⟨Option.isSome_iff_ne_none.mpr other, gone⟩
        rw [count_of_none absent] at verified
        change g.verified ≤ (isRateLimited c now later ip g.limiter).2.count ip + g.denied
        omega

theorem Guard.Bounded.verify (bounded : g.Bounded c ip) (verdict : Verdict)
    (h : g.step c ip (.verify verdict) = some g') : g'.Bounded c ip := by
  obtain ⟨unlocked, opened_le, sum_lt, verified_le⟩ := bounded
  simp only [Guard.opened] at opened_le sum_lt
  simp only [Guard.step] at h
  split at h
  next waiting =>
    cases verdict <;> cases h <;> refine ⟨unlocked, ?_, ?_, ?_⟩ <;>
      simp only [Guard.opened] <;> omega
  next => cases h

theorem Guard.Bounded.recordFailure (bounded : g.Bounded c ip) (cap : 0 < c.maxTrackedIps)
    (now lockAt : ℚ) (h : g.step c ip (.recordFailure now lockAt) = some g') :
    g'.Bounded c ip := by
  obtain ⟨waiting, rfl⟩ := enabled_eq_some.mp h
  have entry : (TrackerCall.apply c ip g.limiter (.failure now lockAt)).tracker.get? ip =
      some (((g.limiter.tracker.get? ip).getD {}).more c now lockAt).2 :=
    get?_recordFailure_self cap
  set after := TrackerCall.apply c ip g.limiter (.failure now lockAt)
  have count : after.count ip = g.limiter.count ip + 1 := by
    rw [count_of_some entry, count_more, Limiter.count]
    cases g.limiter.tracker.get? ip <;> rfl
  obtain ⟨unlocked, opened_le, sum_lt, verified_le⟩ := bounded
  simp only [Guard.opened] at opened_le sum_lt
  refine Guard.Bounded.settle ?_ ?_ ?_
  · intro e found open_
    rw [show after.tracker.get? ip = some e from found, Option.some.injEq] at entry
    subst entry
    unfold Failures.more at open_ ⊢
    dsimp only at open_ ⊢
    split at open_
    · cases open_
    next below =>
      rw [if_neg below]
      exact not_le.mp below
  · intro _
    simp only [Guard.opened]
    omega
  · intro _
    dsimp only
    omega

/-- Every step keeps the bounds. -/
theorem Guard.Bounded.step (bounded : g.Bounded c ip) (cap : 0 < c.maxTrackedIps) {a : GuardStep}
    (h : g.step c ip a = some g') : g'.Bounded c ip := by
  cases a with
  | check now later => exact bounded.check now later h
  | verify verdict => exact bounded.verify verdict h
  | recordFailure now lockAt => exact bounded.recordFailure cap now lockAt h
  | recordSuccess =>
      obtain ⟨-, rfl⟩ := enabled_eq_some.mp h
      exact bounded.of_keepsOrClears (KeepsOrClears.success (Or.inl rfl) ip) (g.granted - 1)
  | elsewhere other call =>
      obtain ⟨different, rfl⟩ := enabled_eq_some.mp h
      exact bounded.of_keepsOrClears (keepsOrClears_elsewhere different call) g.granted

/-- From any tracker without an entry of the address: the failing verifications since the last
clearing of its counter stay below the threshold plus the most requests open at once since then. -/
theorem verified_lt_of_run (cap : 0 < c.maxTrackedIps) (empty : l.tracker.get? ip = none)
    {steps : List GuardStep} (h : run (Guard.step c ip) { limiter := l } steps = some g) :
    g.verified < c.threshold + g.peak := by
  have bounded := run_invariant (fun _ _ _ bounded h => Guard.Bounded.step bounded cap h)
    (Guard.Bounded.start l empty) h
  have verified := bounded.verified_le
  have sum := bounded.sum_lt
  simp only [Guard.opened] at sum
  omega

end Guard

/-- Two requests that are open at once, a failure of another address between them. -/
def twoOpenRequests : List GuardStep :=
  [.check 1 1, .check 2 2, .verify .denied, .elsewhere "10.0.0.9".toList (.failure 3 3),
    .verify .denied, .recordFailure 4 4, .recordFailure 5 5, .check 6 6, .verify .granted,
    .recordSuccess]

theorem verified_twoOpenRequests :
    ∃ g, run (Guard.step defaultRateLimits "10.0.0.7".toList) { limiter := { lastCleanup := 0 } }
      twoOpenRequests = some g ∧ g.verified < defaultRateLimits.threshold + g.peak := by
  have seen : (run (Guard.step defaultRateLimits "10.0.0.7".toList)
      { limiter := { lastCleanup := 0 } } twoOpenRequests).isSome := by decide +kernel
  rcases Option.isSome_iff_exists.mp seen with ⟨g, h⟩
  exact ⟨g, h, verified_lt_of_run (by decide) rfl h⟩

/-- Six requests pass the check before any of them is recorded: six passwords are verified under a
threshold of five. -/
theorem open_requests_exceed_threshold :
    ∃ g, run (Guard.step defaultRateLimits "10.0.0.7".toList) { limiter := { lastCleanup := 0 } }
      (List.replicate 6 (.check 1 1) ++ List.replicate 6 (.verify .denied)) = some g ∧
      defaultRateLimits.maxFailures < g.verified := by
  have seen : (run (Guard.step defaultRateLimits "10.0.0.7".toList)
      { limiter := { lastCleanup := 0 } }
      (List.replicate 6 (.check 1 1) ++ List.replicate 6 (.verify .denied))).any
        (defaultRateLimits.maxFailures < ·.verified) := by decide +kernel
  rcases (Option.any_eq_true _ _).mp seen with ⟨g, h, exceeds⟩
  exact ⟨g, h, by simpa using exceeds⟩

end GeneratorPi
