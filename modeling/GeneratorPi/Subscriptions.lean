import Mathlib.Algebra.Order.Ring.Rat
import Mathlib.Data.List.Nodup
import GeneratorPi.Lib.PyText
import GeneratorPi.Lib.Selection
import GeneratorPi.Lib.Trace

/-!
# The push-subscription table

`add_subscription` and `remove_subscription` (`genpi/store.py`).  The rows stand in the order in
which they were first added; refreshing a subscription changes its keys and leaves its
`created_ts` and its place.

Past the cap the rows to keep are chosen by `created_ts`, a reading of the clock.  The table
evicts in the order of addition, and keeps the row just added, as long as every row it has to give
up was stamped before every row behind it (`Orderly`).  A clock that was set back, or that reads
the same twice, costs the new row its place (`added_then_evicted`).  An addition whose statements
raise is passed over, with what they have done by then (`AddReached`).
-/

namespace GeneratorPi

open PyText Selection Trace

structure Subscription where
  endpoint : Text
  p256dh : Text
  auth : Text
  createdTs : ℚ
  deriving DecidableEq, Repr

/-- `subscriptions`; `endpoint` is the primary key. -/
abbrev SubscriptionTable := List Subscription

/-- `INSERT … ON CONFLICT(endpoint) DO UPDATE SET p256dh, auth`. -/
def upsertRow (rows : SubscriptionTable) (endpoint p256dh auth : Text) (now : ℚ) :
    SubscriptionTable :=
  if rows.any fun row => row.endpoint = endpoint then
    rows.map fun row =>
      if row.endpoint = endpoint then { row with p256dh := p256dh, auth := auth } else row
  else rows ++ [⟨endpoint, p256dh, auth, now⟩]

/-- How far the statements of an addition get; what they raise goes to the log. -/
inductive AddReached where
  /-- The INSERT raises.  It does for a string with a lone surrogate, which has no UTF-8 form. -/
  | nothing
  /-- The DELETE raises. -/
  | inserted
  | trimmed
  deriving DecidableEq, Repr

/-- A call, with the reading of the clock and the rows SQLite selects to be kept. -/
inductive SubscriptionOp where
  | add (endpoint p256dh auth : Text) (now : ℚ) (keep : Subscription → Bool) (reached : AddReached)
  | remove (endpoint : Text) (done : Bool)

/-- One call under a cap of `max_subs` rows. -/
def SubscriptionTable.step (maxSubs : ℕ) (rows : SubscriptionTable) :
    SubscriptionOp → Option SubscriptionTable
  | .add _ _ _ _ _ .nothing => some rows
  | .add endpoint p256dh auth now _ .inserted => some (upsertRow rows endpoint p256dh auth now)
  | .add endpoint p256dh auth now keep .trimmed =>
      let rows := upsertRow rows endpoint p256dh auth now
      if Selects Subscription.createdTs maxSubs rows keep then some (rows.filter keep) else none
  | .remove endpoint true => some (rows.filter fun row => row.endpoint ≠ endpoint)
  | .remove _ false => some rows

/-- What an addition leaves: one row for the endpoint, with the keys given; no more rows than the
cap; and of the rows only those first added longest ago are gone. -/
structure Added (maxSubs : ℕ) (endpoint p256dh auth : Text) (now : ℚ)
    (rows rows' : SubscriptionTable) : Prop where
  one_row : (rows'.map Subscription.endpoint).count endpoint = 1
  keys : ∀ row ∈ rows', row.endpoint = endpoint → row.p256dh = p256dh ∧ row.auth = auth
  capped : rows'.length ≤ maxSubs
  oldest_gone : ∃ gone, upsertRow rows endpoint p256dh auth now = gone ++ rows'

/-- What a call leaves. -/
def SubscriptionOp.Kept (maxSubs : ℕ) (rows rows' : SubscriptionTable) : SubscriptionOp → Prop
  | .add endpoint p256dh auth now _ _ => Added maxSubs endpoint p256dh auth now rows rows'
  | .remove _ _ => True

/-- The statements go through, and the rows that have to go were stamped before all that stay. -/
def Orderly (maxSubs : ℕ) (rows : SubscriptionTable) : SubscriptionOp → Prop
  | .add endpoint p256dh auth now _ reached =>
      reached = .trimmed ∧
        Rising Subscription.createdTs maxSubs (upsertRow rows endpoint p256dh auth now)
  | .remove _ _ => True

instance instDecidableOrderly (maxSubs : ℕ) (rows : SubscriptionTable) :
    (op : SubscriptionOp) → Decidable (Orderly maxSubs rows op)
  | .add endpoint p256dh auth now _ reached =>
      inferInstanceAs (Decidable (reached = .trimmed ∧
        Rising Subscription.createdTs maxSubs (upsertRow rows endpoint p256dh auth now)))
  | .remove _ _ => isTrue trivial

/-! ## The primary key -/

/-- No endpoint has two rows. -/
def SubscriptionTable.Keyed (rows : SubscriptionTable) : Prop :=
  (rows.map Subscription.endpoint).Nodup

variable {rows rows' : SubscriptionTable} {endpoint p256dh auth : Text} {now : ℚ} {maxSubs : ℕ}
  {op : SubscriptionOp} {ops : List SubscriptionOp}

theorem any_endpoint :
    (rows.any fun row => row.endpoint = endpoint) = true ↔
      endpoint ∈ rows.map Subscription.endpoint := by
  simp

theorem SubscriptionTable.Keyed.filter (keyed : rows.Keyed) (keep : Subscription → Bool) :
    SubscriptionTable.Keyed (rows.filter keep) :=
  keyed.sublist (List.filter_sublist.map _)

theorem endpoints_refreshed :
    (rows.map fun row => if row.endpoint = endpoint then
      { row with p256dh := p256dh, auth := auth } else row).map Subscription.endpoint =
      rows.map Subscription.endpoint := by
  rw [List.map_map]
  refine List.map_congr_left fun row _ => ?_
  by_cases here : row.endpoint = endpoint <;> simp [here]

theorem SubscriptionTable.Keyed.upsert (keyed : rows.Keyed) (endpoint p256dh auth : Text)
    (now : ℚ) : SubscriptionTable.Keyed (upsertRow rows endpoint p256dh auth now) := by
  unfold GeneratorPi.upsertRow
  split
  case isTrue =>
    rw [SubscriptionTable.Keyed, endpoints_refreshed]
    exact keyed
  case isFalse fresh =>
    rw [any_endpoint] at fresh
    rw [SubscriptionTable.Keyed, List.map_append, List.nodup_append]
    refine ⟨keyed, List.nodup_singleton _, fun old mem new added => ?_⟩
    rw [List.map_singleton, List.mem_singleton] at added
    rintro rfl
    rw [added] at mem
    exact fresh mem

theorem SubscriptionTable.Keyed.step (keyed : rows.Keyed)
    (h : SubscriptionTable.step maxSubs rows op = some rows') : rows'.Keyed := by
  cases op with
  | add endpoint p256dh auth now keep reached =>
      cases reached with
      | nothing =>
          cases h
          exact keyed
      | inserted =>
          cases h
          exact keyed.upsert endpoint p256dh auth now
      | trimmed =>
          obtain ⟨-, rfl⟩ := enabled_eq_some.mp h
          exact (keyed.upsert endpoint p256dh auth now).filter keep
  | remove endpoint done =>
      cases done <;> cases h
      · exact keyed
      · exact keyed.filter _

/-! ## An addition -/

/-- Every row of the endpoint has the keys given. -/
theorem keys_of_mem_upsert {row : Subscription}
    (mem : row ∈ upsertRow rows endpoint p256dh auth now) (here : row.endpoint = endpoint) :
    row.p256dh = p256dh ∧ row.auth = auth := by
  unfold upsertRow at mem
  split at mem
  case isTrue =>
    obtain ⟨old, -, rfl⟩ := List.mem_map.mp mem
    by_cases same : old.endpoint = endpoint
    · rw [if_pos same]
      exact ⟨rfl, rfl⟩
    · rw [if_neg same] at here
      exact absurd here same
  case isFalse fresh =>
    rw [any_endpoint] at fresh
    rcases List.mem_append.mp mem with old | new
    · exact absurd (here ▸ List.mem_map_of_mem old) fresh
    · rw [List.mem_singleton.mp new]
      exact ⟨rfl, rfl⟩

/-- A refreshed subscription adds no row; a new one stands behind all others. -/
theorem upsert_cases (rows : SubscriptionTable) (endpoint p256dh auth : Text) (now : ℚ) :
    (endpoint ∈ (upsertRow rows endpoint p256dh auth now).map Subscription.endpoint ∧
        (upsertRow rows endpoint p256dh auth now).length = rows.length) ∨
      upsertRow rows endpoint p256dh auth now = rows ++ [⟨endpoint, p256dh, auth, now⟩] := by
  by_cases there : (rows.any fun row => row.endpoint = endpoint) = true
  · refine Or.inl ?_
    rw [upsertRow, if_pos there, endpoints_refreshed, List.length_map]
    exact ⟨any_endpoint.mp there, rfl⟩
  · exact Or.inr (if_neg there)

/-- Within the cap nothing goes; past it the first row does, and the row just added stays. -/
theorem added_of_rising (positive : 1 ≤ maxSubs) (keyed : rows.Keyed)
    (capped : rows.length ≤ maxSubs) {keep : Subscription → Bool}
    (selects : Selects Subscription.createdTs maxSubs
      (upsertRow rows endpoint p256dh auth now) keep)
    (rising : Rising Subscription.createdTs maxSubs (upsertRow rows endpoint p256dh auth now)) :
    Added maxSubs endpoint p256dh auth now rows
      ((upsertRow rows endpoint p256dh auth now).filter keep) := by
  have kept := selects.filter_eq_drop rising
  have unique : SubscriptionTable.Keyed ((upsertRow rows endpoint p256dh auth now).filter keep) :=
    (keyed.upsert endpoint p256dh auth now).filter keep
  have present : endpoint ∈ ((upsertRow rows endpoint p256dh auth now).filter keep).map
      Subscription.endpoint := by
    rw [kept]
    rcases upsert_cases rows endpoint p256dh auth now with ⟨there, same⟩ | appended
    · rwa [same, Nat.sub_eq_zero_of_le capped, List.drop_zero]
    · rw [appended, List.length_append, List.length_singleton,
        List.drop_append_of_le_length (by omega), List.map_append]
      exact List.mem_append_right _ (List.mem_singleton_self _)
  constructor
  · exact List.count_eq_one_of_mem unique present
  · exact fun row mem here => keys_of_mem_upsert (List.mem_of_mem_filter mem) here
  · exact selects.length_le
  · rw [kept]
    exact ⟨_, (List.take_append_drop _ _).symm⟩

/-! ## Runs -/

/-- What holds between two calls. -/
structure SubscriptionTable.Valid (maxSubs : ℕ) (rows : SubscriptionTable) : Prop where
  keyed : rows.Keyed
  capped : rows.length ≤ maxSubs

theorem SubscriptionTable.Valid.empty (maxSubs : ℕ) : SubscriptionTable.Valid maxSubs [] :=
  ⟨List.Pairwise.nil, Nat.zero_le _⟩

/-- The cap holds again as soon as an addition goes through. -/
theorem SubscriptionTable.Valid.step (valid : rows.Valid maxSubs)
    (orderly : Orderly maxSubs rows op)
    (h : SubscriptionTable.step maxSubs rows op = some rows') : rows'.Valid maxSubs := by
  refine ⟨valid.keyed.step h, ?_⟩
  cases op with
  | add endpoint p256dh auth now keep reached =>
      obtain ⟨rfl, -⟩ := orderly
      obtain ⟨selects, rfl⟩ := enabled_eq_some.mp h
      exact selects.length_le
  | remove endpoint done =>
      cases done <;> cases h
      · exact valid.capped
      · exact (List.length_filter_le _ _).trans valid.capped

theorem kept_of_orderly (positive : 1 ≤ maxSubs) (valid : rows.Valid maxSubs)
    (orderly : Orderly maxSubs rows op)
    (h : SubscriptionTable.step maxSubs rows op = some rows') : op.Kept maxSubs rows rows' := by
  cases op with
  | add endpoint p256dh auth now keep reached =>
      obtain ⟨rfl, rising⟩ := orderly
      obtain ⟨selects, rfl⟩ := enabled_eq_some.mp h
      exact added_of_rising positive valid.keyed valid.capped selects rising
  | remove endpoint done => trivial

/-- In every run from an empty table whose additions went through, and in which the rows that had to
go were stamped before those that stayed, every addition kept its row and the cap, and cost only the
rows added longest ago. -/
theorem kept_of_run (positive : 1 ≤ maxSubs)
    (met : Meets (SubscriptionTable.step maxSubs) (Orderly maxSubs) [] (ops ++ [op]))
    (ran : run (SubscriptionTable.step maxSubs) [] ops = some rows)
    (next : SubscriptionTable.step maxSubs rows op = some rows') : op.Kept maxSubs rows rows' := by
  have valid : rows.Valid maxSubs :=
    run_invariant_of_meets (fun _ _ _ valid orderly h =>
      SubscriptionTable.Valid.step valid orderly h)
      (SubscriptionTable.Valid.empty maxSubs) met.of_prefix ran
  exact kept_of_orderly positive valid (met.of_append ran).head next

/-- A browser subscribes at `now`; the rows stamped `kept` are selected. -/
def subscribed (name : String) (now kept : ℚ) : SubscriptionOp :=
  .add name.toList "key".toList "secret".toList now (fun row => row.createdTs = kept) .trimmed

/-- A row of such a browser. -/
def subscribedRow (name : String) (now : ℚ) : Subscription :=
  ⟨name.toList, "key".toList, "secret".toList, now⟩

/-- Under a cap of one, two browsers in turn. -/
theorem kept_subscribedInTurn :
    Added 1 "phone".toList "key".toList "secret".toList 100 [subscribedRow "laptop" 50]
      [subscribedRow "phone" 100] := by
  have met : Meets (SubscriptionTable.step 1) (Orderly 1) []
    ([subscribed "laptop" 50 50] ++ [subscribed "phone" 100 100]) := by decide
  have ran : run (SubscriptionTable.step 1) [] [subscribed "laptop" 50 50] =
    some [subscribedRow "laptop" 50] := by decide
  have next : SubscriptionTable.step 1 [subscribedRow "laptop" 50] (subscribed "phone" 100 100) =
    some [subscribedRow "phone" 100] := by decide
  exact kept_of_run le_rfl met ran next

/-- The clock is set back between the two: of the two rows the new one goes. -/
theorem added_then_evicted :
    ∃ rows rows', run (SubscriptionTable.step 1) [] [subscribed "laptop" 50 50] = some rows ∧
      SubscriptionTable.step 1 rows (subscribed "phone" 0 50) = some rows' ∧
      ¬ Added 1 "phone".toList "key".toList "secret".toList 0 rows rows' := by
  refine ⟨[subscribedRow "laptop" 50], [subscribedRow "laptop" 50], by decide,
    by decide, fun added => ?_⟩
  exact absurd added.one_row (by decide)

end GeneratorPi
