import GeneratorPi.RateLimit
import Mathlib.Tactic.Ring
import Mathlib.Algebra.Order.Field.Basic

/-!
# Lockouts over whole runs

A lockout lasts `RATE_LIMIT_LOCKOUT_SECONDS`, but a cleanup drops every entry whose last attempt is
older than `RATE_LIMIT_CLEANUP_SECONDS`, locked out or not.  While fewer addresses fail than the
tracker holds, lockouts are kept exactly if they are not longer than that (`lockoutsKept_iff`).

When more addresses fail, the tracker is full and each new one evicts the oldest entry, which a
lockout makes old: `evictsOldest_of_run` says whose lockout a failure lifts.
-/

namespace GeneratorPi

open OrderedDict Trace

/-! ## Few addresses -/

/-- Every lockout granted is reported until it is over, and no cleanup drops it before. -/
structure LockoutsKept (c : RateLimits) (w : Watch) : Prop where
  limited : ∀ ip deadline, w.granted ip = some deadline → ∀ now later, w.clock ≤ now →
    now ≤ later → later < deadline → 0 < (isRateLimited c now later ip w.limiter).1
  uncleaned : ∀ ip deadline, w.granted ip = some deadline → ∀ now, w.clock ≤ now →
    now < deadline → ∃ e, (cleanupTracker c now w.limiter).tracker.get? ip = some e ∧
      e.lockedUntil = some deadline

/-- Fewer distinct addresses fail than the tracker may hold. -/
def FewAddresses (c : RateLimits) (ops : List LimiterOp) : Prop :=
  ((ops.filterMap LimiterOp.failing).toFinset.card : ℤ) < c.maxTrackedIps

/-- The time between the two clock readings of a call. -/
def LimiterOp.pause : LimiterOp → ℚ
  | .failure _ pause | .check _ pause => pause
  | _ => 0

/-- No call takes longer than `slack` between its two clock readings. -/
def Brisk (slack : ℚ) (ops : List LimiterOp) : Prop := ∀ op ∈ ops, op.pause ≤ slack

/-- A step of a run over the addresses `ips` whose calls are brisk. -/
def LimiterOp.Within (ips : Finset Ip) (slack : ℚ) (op : LimiterOp) : Prop :=
  (∀ ip, op.failing = some ip → ip ∈ ips) ∧ op.pause ≤ slack

/-- The entry of a lockout that is not over is there, and will not be stale before it is. -/
structure Guarded (c : RateLimits) (ips : Finset Ip) (w : Watch) : Prop where
  within : ∀ ip ∈ w.limiter.tracker.keys, ip ∈ ips
  past : ∀ ip e, w.limiter.tracker.get? ip = some e → e.lastAttempt ≤ w.clock
  held : ∀ ip deadline, w.granted ip = some deadline → w.clock < deadline →
    ∃ e, w.limiter.tracker.get? ip = some e ∧ e.lockedUntil = some deadline ∧
      deadline ≤ e.lastAttempt + c.cleanupSeconds

variable {c : RateLimits} {ips : Finset Ip} {slack : ℚ} {w v : Watch}

theorem Guarded.start (clock : ℚ) : Guarded c ips (.start clock) where
  within _ h := nomatch h
  past _ _ h := nomatch h
  held _ _ h := nomatch h

/-- An entry whose lockout is not over and ends before the entry is stale survives a cleanup. -/
theorem not_purged {e : Failures} {deadline now : ℚ} (locked : e.lockedUntil = some deadline)
    (fresh : deadline ≤ e.lastAttempt + c.cleanupSeconds) (early : now < deadline) :
    e.purged c now = false := by
  have running : ¬ deadline ≤ now := not_le.mpr early
  have recent : ¬ (c.cleanupSeconds : ℚ) < now - e.lastAttempt := by
    apply not_lt.mpr
    linarith
  simp [Failures.purged, locked, running, recent]

theorem Guarded.lockoutsKept (guarded : Guarded c ips w) : LockoutsKept c w := by
  have uncleaned : ∀ ip deadline, w.granted ip = some deadline → ∀ now, w.clock ≤ now →
      now < deadline → ∃ e, (cleanupTracker c now w.limiter).tracker.get? ip = some e ∧
        e.lockedUntil = some deadline := by
    intro ip deadline granted now past early
    rcases guarded.held ip deadline granted (past.trans_lt early) with ⟨e, found, locked, fresh⟩
    exact ⟨e, get?_cleanupTracker found (not_purged locked fresh early), locked⟩
  refine ⟨?_, uncleaned⟩
  intro ip deadline granted now later past order early
  rcases uncleaned ip deadline granted now past (order.trans_lt early) with ⟨e, found, locked⟩
  exact limited_iff.mpr ⟨e, deadline, found, locked, early⟩

/-- Time passes. -/
theorem Guarded.wait (guarded : Guarded c ips w) {clock : ℚ} (h : w.clock ≤ clock) :
    Guarded c ips { w with clock } where
  within := guarded.within
  past ip e found := (guarded.past ip e found).trans h
  held ip deadline granted early := guarded.held ip deadline granted (h.trans_lt early)

theorem Guarded.success (guarded : Guarded c ips w) (ip : Ip) :
    Guarded c ips { w with
      limiter := recordSuccess ip w.limiter
      granted := Function.update w.granted ip none } where
  within other mem := by
    rcases Dict.mem_keys.mp mem with ⟨e, inside⟩
    exact guarded.within other (Dict.mem_keys.mpr ⟨e, (Dict.mem_erase.mp inside).2⟩)
  past other e found :=
    guarded.past other e
      (Dict.get?_eq_some.mpr (Dict.mem_erase.mp (Dict.get?_eq_some.mp found)).2)
  held other deadline granted early := by
    dsimp only at granted
    by_cases same : other = ip
    · rw [same, Function.update_self] at granted
      cases granted
    · rw [Function.update_of_ne same] at granted
      rcases guarded.held other deadline granted early with ⟨e, found, rest⟩
      exact ⟨e, (Dict.get?_erase_of_ne same).trans found, rest⟩

/-- A cleanup takes no lockout that is not over. -/
theorem Guarded.cleanup (guarded : Guarded c ips w) :
    Guarded c ips { w with limiter := cleanupTracker c w.clock w.limiter } where
  within ip mem := by
    rcases Dict.mem_keys.mp mem with ⟨e, inside⟩
    exact guarded.within ip (Dict.mem_keys.mpr ⟨e, mem_of_mem_cleanupTracker inside⟩)
  past ip e found :=
    guarded.past ip e
      (Dict.get?_eq_some.mpr (mem_of_mem_cleanupTracker (Dict.get?_eq_some.mp found)))
  held ip deadline granted early := by
    rcases guarded.held ip deadline granted early with ⟨e, found, locked, fresh⟩
    exact ⟨e, get?_cleanupTracker found (not_purged locked fresh early), locked, fresh⟩

/-- A check drops at most the entry of a lockout that is over when it returns. -/
theorem Guarded.check (guarded : Guarded c ips w) (ip : Ip) {pause : ℚ} (forward : 0 ≤ pause) :
    Guarded c ips { w with
      limiter := (isRateLimited c w.clock (w.clock + pause) ip w.limiter).2
      clock := w.clock + pause } := by
  have later : w.clock ≤ w.clock + pause := le_add_of_nonneg_right forward
  have cleaned := guarded.cleanup.wait later
  rcases isRateLimited_cases c w.clock (w.clock + pause) ip w.limiter with eq | ⟨free, eq⟩
  · rw [eq]
    exact cleaned
  · rw [eq]
    have dropped := cleaned.success ip
    refine ⟨dropped.within, dropped.past, fun other deadline granted early => ?_⟩
    by_cases same : other = ip
    · rw [same] at granted
      have limited := guarded.lockoutsKept.limited ip deadline granted w.clock
        (w.clock + pause) le_rfl later early
      rw [free] at limited
      exact absurd limited (lt_irrefl 0)
    · have kept : Function.update w.granted ip none other = some deadline := by
        rw [Function.update_of_ne same]
        exact granted
      exact dropped.held other deadline kept early

/-- With room in the tracker a failure evicts nobody, and a lockout it grants is not longer than
its entry stays fresh. -/
theorem Guarded.failure (guarded : Guarded c ips w) (few : (ips.card : ℤ) < c.maxTrackedIps)
    (short : (c.lockoutSeconds : ℚ) + slack ≤ c.cleanupSeconds) {ip : Ip} (mine : ip ∈ ips)
    {pause : ℚ} (forward : 0 ≤ pause) (brisk : pause ≤ slack)
    (h : w.step c (.failure ip pause) = some v) : Guarded c ips v := by
  have room : ip ∈ w.limiter.tracker.keys ∨
      (w.limiter.tracker.size : ℤ) < c.maxTrackedIps := by
    have size := Dict.size_le_card guarded.within
    right
    omega
  rw [Watch.step, if_pos forward] at h
  rcases Option.map_eq_some_iff.mp h with ⟨⟨⟨lockedOut, count⟩, limiter⟩, recorded, rfl⟩
  rcases recordFailure_eq_some recorded with ⟨tracker, made, outcome, -, written⟩
  rw [makeRoom_of_room room] at made
  cases made
  dsimp only at outcome written ⊢
  set e := (w.limiter.tracker.get? ip).getD {} with old
  refine ⟨fun other mem => ?_, fun other e' found => ?_, fun other deadline granted early => ?_⟩
  · rcases Dict.mem_keys.mp mem with ⟨e', inside⟩
    rw [written] at inside
    rcases Dict.mem_set.mp inside with ⟨rfl, -⟩ | ⟨-, before⟩
    · exact mine
    · exact guarded.within other (Dict.mem_keys.mpr ⟨e', before⟩)
  · dsimp only at found ⊢
    rw [written] at found
    by_cases same : other = ip
    · rw [same, Dict.get?_set_self, Option.some.injEq] at found
      rw [← found, lastAttempt_more]
      linarith
    · rw [Dict.get?_set_of_ne same] at found
      linarith [guarded.past other e' found]
  · dsimp only at granted early ⊢
    rw [written]
    by_cases same : other = ip
    · rw [same] at granted ⊢
      refine ⟨_, Dict.get?_set_self, ?_⟩
      rw [lockedUntil_more, lastAttempt_more, ← outcome]
      cases lockedOut with
      | true =>
          rw [if_pos rfl, Function.update_self, Option.some.injEq] at granted
          refine ⟨by rw [if_pos rfl, granted], ?_⟩
          linarith
      | false =>
          -- The lockout it had is still in its entry, which the attempt has made fresher.
          rw [if_neg Bool.false_ne_true] at granted ⊢
          have before : w.clock < deadline := by linarith
          rcases guarded.held ip deadline granted before with ⟨e', found, locked, fresh⟩
          have same : e = e' := by rw [old, found, Option.getD_some]
          rw [same]
          exact ⟨locked, by linarith [guarded.past ip e' found]⟩
    · have elsewhere : w.granted other = some deadline := by
        split at granted
        · rwa [Function.update_of_ne same] at granted
        · exact granted
      rcases guarded.held other deadline elsewhere (by linarith) with ⟨e', found, rest⟩
      exact ⟨e', (Dict.get?_set_of_ne same).trans found, rest⟩

theorem Guarded.step (guarded : Guarded c ips w) (few : (ips.card : ℤ) < c.maxTrackedIps)
    (short : (c.lockoutSeconds : ℚ) + slack ≤ c.cleanupSeconds) {op : LimiterOp}
    (within : op.Within ips slack) (h : w.step c op = some v) : Guarded c ips v := by
  cases op with
  | failure ip pause =>
      have forward := (Option.ite_none_right_eq_some.mp h).1
      exact guarded.failure few short (within.1 ip rfl) forward within.2 h
  | success ip =>
      cases h
      exact guarded.success ip
  | check ip pause =>
      obtain ⟨forward, rfl⟩ := enabled_eq_some.mp h
      exact guarded.check ip forward
  | advance d =>
      obtain ⟨forward, rfl⟩ := enabled_eq_some.mp h
      exact guarded.wait (le_add_of_nonneg_right forward)

/-- No lockout is forgotten in a run over few addresses if it is short enough. -/
theorem lockoutsKept_of_short (short : (c.lockoutSeconds : ℚ) + slack ≤ c.cleanupSeconds)
    {clock : ℚ} {ops : List LimiterOp} (brisk : Brisk slack ops) (few : FewAddresses c ops)
    (h : run (Watch.step c) (.start clock) ops = some w) : LockoutsKept c w := by
  have within : ∀ op ∈ ops,
      op.Within (ops.filterMap LimiterOp.failing).toFinset slack := fun op mem =>
    ⟨fun ip failing => List.mem_toFinset.mpr (List.mem_filterMap.mpr ⟨op, mem, failing⟩),
      brisk op mem⟩
  exact (run_invariant_of_meets (fun _ _ _ guarded within h =>
    Guarded.step guarded few short within h)
    (Guarded.start clock) (meets_of_forall within) h).lockoutsKept

/-! ### A long lockout is forgotten -/

/-- A stale entry is gone with the next cleanup, locked out or not. -/
theorem cleanup_forgets {l : Limiter} {ip : Ip} {e : Failures} {now later : ℚ}
    (found : l.tracker.get? ip = some e) (due : (c.cleanupSeconds : ℚ) ≤ now - l.lastCleanup)
    (stale : (c.cleanupSeconds : ℚ) < now - e.lastAttempt) :
    ¬ 0 < (isRateLimited c now later ip l).1 := by
  intro limited
  rcases limited_iff.mp limited with ⟨e', deadline, kept, -, -⟩
  rcases cleanupTracker_cases c now l with ⟨soon, -⟩ | ⟨-, cleaned⟩
  · linarith
  · have purged : e.purged c now = true := by
      unfold Failures.purged
      rw [decide_eq_true stale, Bool.or_true]
    rw [cleaned, Dict.get?_filter, found, Option.filter_some, purged] at kept
    cases kept

/-- The tracker after `k` failures of one address at the reading zero. -/
def counted (ip : Ip) (k : ℕ) : Dict Ip Failures :=
  if k = 0 then .empty else Dict.empty.set ip { count := k }

theorem get?_counted (ip : Ip) (k : ℕ) :
    ((counted ip k).get? ip).getD {} = { count := k } := by
  unfold counted
  split
  next zero => rw [zero, Dict.get?_empty, Option.getD_none]
  next => rw [Dict.get?_set_self, Option.getD_some]

theorem set_counted (ip : Ip) (k : ℕ) (e : Failures) :
    (counted ip k).set ip e = Dict.empty.set ip e := by
  unfold counted
  split
  · rfl
  · exact Dict.set_set

theorem makeRoom_counted (cap : 0 < c.maxTrackedIps) (ip : Ip) (k : ℕ) :
    makeRoom c ip (counted ip k) = some (counted ip k) := by
  apply makeRoom_of_room (l := { tracker := counted ip k, lastCleanup := 0 })
  unfold counted
  split
  · exact Or.inr cap
  · left
    exact Dict.mem_keys.mpr ⟨_, Dict.mem_set.mpr (Or.inl ⟨rfl, rfl⟩)⟩

/-- One more failure of the address. -/
theorem step_counted (cap : 0 < c.maxTrackedIps) (ip : Ip) (k : ℕ) {pause : ℚ}
    (forward : 0 ≤ pause) :
    Watch.step c { limiter := { tracker := counted ip k, lastCleanup := 0 }, clock := 0 }
        (.failure ip pause) =
      some {
        limiter := {
          tracker := Dict.empty.set ip (({ count := k } : Failures).more c 0 pause).2
          lastCleanup := 0 }
        clock := pause
        granted :=
          if (({ count := k } : Failures).more c 0 pause).1 then
            Function.update (fun _ => none) ip (some (pause + c.lockoutSeconds))
          else fun _ => none } := by
  rw [Watch.step, if_pos forward, recordFailure]
  dsimp only
  rw [makeRoom_counted cap, Option.map_some, Option.map_some, get?_counted, set_counted, zero_add]

/-- Too few failures for a lockout. -/
theorem run_failures (cap : 0 < c.maxTrackedIps) (ip : Ip) {k : ℕ}
    (few : (k : ℤ) < c.maxFailures) :
    run (Watch.step c) (.start 0) (List.replicate k (.failure ip 0)) =
      some { limiter := { tracker := counted ip k, lastCleanup := 0 }, clock := 0 } := by
  induction k with
  | zero => rfl
  | succ k ih =>
      have more : ({ count := k } : Failures).more c 0 0 = (false, { count := k + 1 }) :=
        if_neg (not_le.mpr few)
      rw [List.replicate_succ', run_append, ih (by push_cast at few; omega), Option.bind_some,
        run_cons, step_counted cap ip k le_rfl, Option.bind_some, run_nil, more]
      simp [counted]

/-- An address is locked out for longer than its entry stays fresh, and a cleanup comes between. -/
theorem forgets_long (pos : c.Positive) (forward : 0 ≤ slack) (cap : 1 < c.maxTrackedIps)
    (long : (c.cleanupSeconds : ℚ) < c.lockoutSeconds + slack) :
    ∃ ops w, Brisk slack ops ∧ FewAddresses c ops ∧
      run (Watch.step c) (.start 0) ops = some w ∧ ¬ LockoutsKept c w := by
  obtain ⟨k, eq⟩ : ∃ k : ℕ, c.maxFailures = k + 1 :=
    ⟨(c.maxFailures - 1).toNat, by have := pos.maxFailures; omega⟩
  have full : ({ count := k } : Failures).more c 0 slack =
      (true,
        { count := k + 1, lockedUntil := some (slack + c.lockoutSeconds), lastAttempt := 0 }) :=
    if_pos (by rw [eq]; push_cast; omega)
  let ip : Ip := []
  let ops : List LimiterOp := List.replicate k (.failure ip 0) ++ [.failure ip slack]
  have calls : ∀ op ∈ ops, op = .failure ip 0 ∨ op = .failure ip slack := by
    intro op mem
    rcases List.mem_append.mp mem with early | last
    · exact Or.inl (List.eq_of_mem_replicate early)
    · exact Or.inr (List.mem_singleton.mp last)
  have ran : run (Watch.step c) (.start 0) ops = some {
      limiter := {
        tracker := Dict.empty.set ip
          { count := k + 1, lockedUntil := some (slack + c.lockoutSeconds), lastAttempt := 0 }
        lastCleanup := 0 }
      clock := slack
      granted := Function.update (fun _ => none) ip (some (slack + c.lockoutSeconds)) } := by
    have room : 0 < c.maxTrackedIps := by omega
    rw [run_append, run_failures room ip (by omega), Option.bind_some, run_cons,
      step_counted room ip k forward, Option.bind_some, run_nil, full]
    rfl
  refine ⟨ops, _, ?_, ?_, ran, fun kept => ?_⟩
  · intro op mem
    rcases calls op mem with rfl | rfl
    · exact forward
    · exact le_rfl
  · have one : (ops.filterMap LimiterOp.failing).toFinset ⊆ {ip} := by
      intro other mem
      rcases List.mem_filterMap.mp (List.mem_toFinset.mp mem) with ⟨op, inside, failing⟩
      rcases calls op inside with rfl | rfl <;> cases failing <;> exact Finset.mem_singleton_self _
    have card := Finset.card_le_card one
    rw [Finset.card_singleton] at card
    unfold FewAddresses
    omega
  · -- A moment between the end of the entry's freshness and the end of the lockout.
    have lockout : (0 : ℚ) < c.lockoutSeconds := by exact_mod_cast pos.lockoutSeconds
    obtain ⟨now, stale, early⟩ := exists_between (max_lt long (lt_add_of_pos_left slack lockout))
    have cleanup : (c.cleanupSeconds : ℚ) < now := (le_max_left _ _).trans_lt stale
    have past : slack ≤ now := ((le_max_right _ _).trans_lt stale).le
    have granted : Function.update (fun _ : Ip => none) ip (some (slack + c.lockoutSeconds)) ip =
        some (slack + c.lockoutSeconds) := Function.update_self ..
    have limited := kept.limited ip _ granted now now past le_rfl (by linarith)
    refine cleanup_forgets (Dict.get?_set_self) ?_ ?_ limited
    · linarith
    · linarith

/-- Only a failure grants a lockout. -/
theorem granted_of_quiet {op : LimiterOp} (free : ∀ ip, w.granted ip = none)
    (quiet : op.failing = none) (h : w.step c op = some v) : ∀ ip, v.granted ip = none := by
  cases op with
  | failure ip pause => cases quiet
  | success ip =>
      cases h
      intro other
      by_cases same : other = ip
      · rw [same]
        exact Function.update_self ..
      · exact (Function.update_of_ne same ..).trans (free other)
  | check ip pause =>
      obtain ⟨-, rfl⟩ := enabled_eq_some.mp h
      exact free
  | advance d =>
      obtain ⟨-, rfl⟩ := enabled_eq_some.mp h
      exact free

/-- With settings that are positive and calls that take at most `slack`, every run over fewer
addresses than the tracker holds keeps its lockouts if and only if a lockout ends before its entry
can be stale (or the tracker holds no two addresses, so that none may fail). -/
theorem lockoutsKept_iff (pos : c.Positive) (forward : 0 ≤ slack) :
    (∀ (clock : ℚ) (ops : List LimiterOp) (w : Watch), Brisk slack ops → FewAddresses c ops →
      run (Watch.step c) (.start clock) ops = some w → LockoutsKept c w) ↔
    (c.lockoutSeconds : ℚ) + slack ≤ c.cleanupSeconds ∨ c.maxTrackedIps ≤ 1 := by
  constructor
  · intro kept
    by_contra neither
    obtain ⟨long, cap⟩ := not_or.mp neither
    rcases forgets_long pos forward (not_le.mp cap) (not_le.mp long) with
      ⟨ops, w, brisk, few, ran, forgotten⟩
    exact forgotten (kept 0 ops w brisk few ran)
  · rintro (short | single) clock ops w brisk few ran
    · exact lockoutsKept_of_short short brisk few ran
    · -- Not one address fails, so none is ever locked out.
      have none_fails : (ops.filterMap LimiterOp.failing).toFinset = ∅ := by
        rw [← Finset.card_eq_zero]
        unfold FewAddresses at few
        omega
      have quiet : ∀ op ∈ ops, op.failing = none := by
        intro op mem
        cases failing : op.failing with
        | none => rfl
        | some ip =>
            have inside := List.mem_toFinset.mpr (List.mem_filterMap.mpr ⟨op, mem, failing⟩)
            rw [none_fails] at inside
            cases inside
      have keep : ∀ (s : Watch) (op : LimiterOp) (s' : Watch), (∀ ip, s.granted ip = none) →
          op.failing = none → s.step c op = some s' → ∀ ip, s'.granted ip = none :=
        fun _ _ _ => granted_of_quiet
      have nothing := run_invariant_of_meets keep (fun _ => rfl) (meets_of_forall quiet) ran
      constructor <;> intro ip deadline granted <;> rw [nothing ip] at granted <;> cases granted

/-- The settings as they are shipped. -/
def defaultRateLimits : RateLimits :=
  { maxFailures := 5, lockoutSeconds := 300, cleanupSeconds := 600, maxTrackedIps := 1000 }

def clientA : Ip := "10.0.0.1".toList
def clientB : Ip := "10.0.0.2".toList
def clientC : Ip := "10.0.0.3".toList

/-- A lockout, a cleanup in the middle of it, and another client's traffic. -/
def lockedOutOnce : List LimiterOp :=
  List.replicate 5 (.failure clientA 1) ++
    [.advance 200, .check clientA 0, .failure clientB 0, .success clientB, .advance 250]

theorem lockoutsKept_lockedOutOnce :
    ∃ w, run (Watch.step defaultRateLimits) (.start 0) lockedOutOnce = some w ∧
      LockoutsKept defaultRateLimits w := by
  have pos : defaultRateLimits.Positive := by constructor <;> decide
  have short : (defaultRateLimits.lockoutSeconds : ℚ) + 1 ≤ defaultRateLimits.cleanupSeconds := by
    decide +kernel
  have brisk : Brisk 1 lockedOutOnce := by
    unfold Brisk
    decide
  have few : FewAddresses defaultRateLimits lockedOutOnce := by
    unfold FewAddresses
    decide
  have runs : (run (Watch.step defaultRateLimits) (.start 0) lockedOutOnce).isSome := by
    decide +kernel
  rcases Option.isSome_iff_exists.mp runs with ⟨w, ran⟩
  exact ⟨w, ran, (lockoutsKept_iff pos zero_le_one).mpr (Or.inl short) 0 _ w brisk few ran⟩

/-- The same with a lockout of an hour. -/
def hourLockout : RateLimits := { defaultRateLimits with lockoutSeconds := 3600 }

/-- Locked out, and ten minutes later. -/
def lockedOutThenWait : List LimiterOp :=
  List.replicate 5 (.failure clientA 0) ++ [.advance 601]

/-- A lockout of an hour is forgotten with the first cleanup. -/
theorem lockout_forgotten :
    hourLockout.Positive ∧ FewAddresses hourLockout lockedOutThenWait ∧
      ∃ w, run (Watch.step hourLockout) (.start 0) lockedOutThenWait = some w ∧
        w.granted clientA = some 3600 ∧ ¬ LockoutsKept hourLockout w := by
  refine ⟨by constructor <;> decide, by unfold FewAddresses; decide, ?_⟩
  have seen : (run (Watch.step hourLockout) (.start 0) lockedOutThenWait).any fun w =>
      w.clock ≤ 601 && w.granted clientA = some 3600 &&
        (isRateLimited hourLockout 601 601 clientA w.limiter).1 ≤ 0 := by decide +kernel
  rcases (Option.any_eq_true _ _).mp seen with ⟨w, ran, facts⟩
  obtain ⟨⟨past, granted⟩, free⟩ : (w.clock ≤ 601 ∧ w.granted clientA = some 3600) ∧
      (isRateLimited hourLockout 601 601 clientA w.limiter).1 ≤ 0 := by simpa using facts
  refine ⟨w, ran, granted, fun kept => ?_⟩
  have limited := kept.limited clientA 3600 granted 601 601 past le_rfl (by norm_num)
  exact absurd limited (not_lt.mpr free)

/-! ## Many addresses -/

section Flood

variable {l l' : Limiter} {ip other : Ip} {now lockAt seen later : ℚ} {r : Bool × ℕ}

/-- What a cleanup leaves of an address depends on its entry alone. -/
theorem get?_cleanupTracker_congr (last : l'.lastCleanup = l.lastCleanup)
    (entry : l'.tracker.get? ip = l.tracker.get? ip) :
    (cleanupTracker c now l').tracker.get? ip = (cleanupTracker c now l).tracker.get? ip := by
  unfold cleanupTracker
  rw [last]
  split
  · exact entry
  · rw [Dict.get?_filter, Dict.get?_filter, entry]

/-- The entry of another address after a failure: evicted, or as it was. -/
theorem get?_recordFailure_of_ne (different : other ≠ ip)
    (h : recordFailure c now lockAt other l = some (r, l')) :
    l'.tracker.get? ip = if Evicts c l other ip then none else l.tracker.get? ip := by
  rcases recordFailure_eq_some h with ⟨tracker, made, -, -, written⟩
  rw [written, Dict.get?_set_of_ne (Ne.symm different)]
  rcases makeRoom_cases made with ⟨rfl, kept⟩ | ⟨oldest, rfl, evicted⟩
  · rw [if_neg (kept ip)]
  · by_cases mine : ip = oldest
    · rw [mine, if_pos evicted, Dict.get?_erase_self]
    · have spared : ¬ Evicts c l other ip := fun taken =>
        mine (Option.some.inj (taken.2.2.symm.trans evicted.2.2))
      rw [if_neg spared, Dict.get?_erase_of_ne mine]

/-- A failure of another address lifts a lockout exactly if it evicts its entry. -/
theorem limited_recordFailure_iff (different : other ≠ ip)
    (h : recordFailure c now lockAt other l = some (r, l'))
    (limited : 0 < (isRateLimited c seen later ip l).1) :
    0 < (isRateLimited c seen later ip l').1 ↔ ¬ Evicts c l other ip := by
  have entry := get?_recordFailure_of_ne different h
  rcases recordFailure_eq_some h with ⟨-, -, -, last, -⟩
  constructor
  · intro still evicted
    rw [if_pos evicted] at entry
    rcases limited_iff.mp still with ⟨e, deadline, found, -⟩
    have old := mem_of_mem_cleanupTracker (Dict.get?_eq_some.mp found)
    rw [Dict.get?_eq_some.mpr old] at entry
    cases entry
  · intro spared
    rw [if_neg spared] at entry
    rcases limited_iff.mp limited with ⟨e, deadline, found, rest⟩
    exact limited_iff.mpr ⟨e, deadline, (get?_cleanupTracker_congr last entry).trans found, rest⟩

/-- A failure makes room before it adds an address. -/
theorem size_recordFailure_le (cap : 0 < c.maxTrackedIps)
    (size : (l.tracker.size : ℤ) ≤ c.maxTrackedIps)
    (h : recordFailure c now lockAt ip l = some (r, l')) :
    (l'.tracker.size : ℤ) ≤ c.maxTrackedIps := by
  rcases recordFailure_eq_some h with ⟨tracker, made, -, -, written⟩
  rw [written]
  by_cases mem : ip ∈ tracker.keys
  · rw [Dict.size_set_of_mem mem]
    rcases makeRoom_cases made with ⟨rfl, -⟩ | ⟨oldest, rfl, -⟩
    · exact size
    · have smaller : (l.tracker.erase oldest).size ≤ l.tracker.size := Dict.size_erase_le
      omega
  · rw [Dict.size_set_of_not_mem mem]
    rcases makeRoom_cases made with ⟨rfl, kept⟩ | ⟨oldest, rfl, evicted⟩
    · have room : (l.tracker.size : ℤ) < c.maxTrackedIps := by
        by_contra full
        rcases oldest_of_full cap (not_lt.mp full) with ⟨oldest, least⟩
        exact kept oldest ⟨mem, not_lt.mp full, least⟩
      omega
    · have smaller : (l.tracker.erase oldest).size < l.tracker.size :=
        Dict.size_erase_lt (Dict.mem_keys_of_minKey evicted.2.2)
      omega

end Flood

/-- The cap holds, every failure is recorded, and another address's failure lifts a lockout exactly
if it evicts the entry with the oldest last attempt and that is the lockout's. -/
structure EvictsOldest (c : RateLimits) (w : Watch) : Prop where
  size_le : (w.limiter.tracker.size : ℤ) ≤ c.maxTrackedIps
  accepts : ∀ ip now lockAt, (recordFailure c now lockAt ip w.limiter).isSome
  lifts_iff : ∀ ip other now lockAt r l', other ≠ ip →
    recordFailure c now lockAt other w.limiter = some (r, l') →
    ∀ seen later, 0 < (isRateLimited c seen later ip w.limiter).1 →
      (0 < (isRateLimited c seen later ip l').1 ↔ ¬ Evicts c w.limiter other ip)

/-- The cap holds. -/
def Watch.Capped (c : RateLimits) (w : Watch) : Prop :=
  (w.limiter.tracker.size : ℤ) ≤ c.maxTrackedIps

theorem Watch.Capped.step (cap : 0 < c.maxTrackedIps) (size : w.Capped c) {op : LimiterOp}
    (h : w.step c op = some v) : v.Capped c := by
  unfold Watch.Capped at size ⊢
  have erased (ip : Ip) (l : Limiter) : (recordSuccess ip l).tracker.size ≤ l.tracker.size :=
    Dict.size_erase_le
  cases op with
  | failure ip pause =>
      obtain ⟨-, h⟩ := Option.ite_none_right_eq_some.mp h
      rcases Option.map_eq_some_iff.mp h with ⟨⟨r, limiter⟩, recorded, rfl⟩
      exact size_recordFailure_le cap size recorded
  | success ip =>
      cases h
      have smaller := erased ip w.limiter
      dsimp only
      omega
  | check ip pause =>
      obtain ⟨-, rfl⟩ := enabled_eq_some.mp h
      have cleaned : (cleanupTracker c w.clock w.limiter).tracker.size ≤ w.limiter.tracker.size :=
        size_cleanupTracker_le
      rcases isRateLimited_cases c w.clock (w.clock + pause) ip w.limiter with eq | ⟨-, eq⟩
      · rw [eq]
        dsimp only
        omega
      · have smaller := erased ip (cleanupTracker c w.clock w.limiter)
        rw [eq]
        dsimp only
        omega
  | advance d =>
      obtain ⟨-, rfl⟩ := enabled_eq_some.mp h
      exact size

/-- However many addresses fail, in any order and at any time. -/
theorem evictsOldest_of_run (cap : 0 < c.maxTrackedIps) {clock : ℚ} {ops : List LimiterOp}
    (h : run (Watch.step c) (.start clock) ops = some w) : EvictsOldest c w where
  size_le := by
    have start : (Watch.start clock).Capped c := cap.le
    have capped : w.Capped c :=
      run_invariant (fun _ _ _ capped h => Watch.Capped.step cap capped h) start h
    exact capped
  accepts _ _ _ := by
    unfold recordFailure
    rw [Option.isSome_map]
    exact makeRoom_isSome cap
  lifts_iff _ _ _ _ _ _ different h _ _ limited := limited_recordFailure_iff different h limited

/-- Room for two addresses. -/
def smallTracker : RateLimits :=
  { maxFailures := 2, lockoutSeconds := 300, cleanupSeconds := 600, maxTrackedIps := 2 }

/-- One client is locked out, then another one fails once. -/
def lockedOutThenOther : List LimiterOp :=
  [.failure clientA 0, .failure clientA 0, .advance 1, .failure clientB 0]

theorem evictsOldest_lockedOutThenOther :
    ∃ w, run (Watch.step smallTracker) (.start 0) lockedOutThenOther = some w ∧
      EvictsOldest smallTracker w := by
  have runs : (run (Watch.step smallTracker) (.start 0) lockedOutThenOther).isSome := by
    decide
  rcases Option.isSome_iff_exists.mp runs with ⟨w, ran⟩
  exact ⟨w, ran, evictsOldest_of_run (by decide) ran⟩

/-- A failure of another address lifts no lockout while an entry that is not locked out could be
evicted instead. -/
def SparesLocked (c : RateLimits) (w : Watch) : Prop :=
  ∀ ip other now lockAt r l', other ≠ ip →
    recordFailure c now lockAt other w.limiter = some (r, l') →
    (∃ e ∈ w.limiter.tracker.entries, e.2.lockedUntil.all (· ≤ now)) →
    ∀ seen later, 0 < (isRateLimited c seen later ip w.limiter).1 →
      0 < (isRateLimited c seen later ip l').1

/-- The third client evicts the one that is locked out, not the one that is not. -/
theorem lockout_lifted_by_flood :
    ∃ w, run (Watch.step smallTracker) (.start 0) lockedOutThenOther = some w ∧
      ¬ SparesLocked smallTracker w := by
  have seen : (run (Watch.step smallTracker) (.start 0) lockedOutThenOther).any fun w =>
      w.limiter.tracker.entries.any (fun e => e.2.lockedUntil.all (· ≤ 2)) &&
        0 < (isRateLimited smallTracker 2 2 clientA w.limiter).1 &&
        (recordFailure smallTracker 2 2 clientC w.limiter).any fun after =>
          (isRateLimited smallTracker 2 2 clientA after.2).1 ≤ 0 := by decide +kernel
  rcases (Option.any_eq_true _ _).mp seen with ⟨w, ran, facts⟩
  simp only [Bool.and_eq_true, decide_eq_true_eq, List.any_eq_true, Option.any_eq_true] at facts
  obtain ⟨⟨unlocked, limited⟩, ⟨r, l'⟩, recorded, free⟩ := facts
  refine ⟨w, ran, fun spares => ?_⟩
  have still := spares clientA clientC 2 2 r l' (by decide) recorded unlocked 2 2 limited
  exact absurd still (not_lt.mpr free)

end GeneratorPi
