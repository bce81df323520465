import Mathlib.Data.List.Sort
import Mathlib.Order.Basic

/-!
# Stable sorting by a key, largest first

`sortDesc` sorts by descending key and keeps elements with equal keys in their order.  An element's
position in the result is the number of those with a larger key, or an equal one and an earlier
place (`sortDesc_split`), which decides whether it is among the first `k` (`mem_take_sortDesc_iff`).
-/

namespace StableSort

variable {α κ : Type*} [LinearOrder κ] (key : α → κ)

def sortDesc (l : List α) : List α := l.insertionSort fun a b => key b ≤ key a

/-- How many elements stand before `x` in the sorted list, by its place in the unsorted one. -/
def rank (x : α) (before after : List α) : ℕ :=
  before.countP (fun a => key x ≤ key a) + after.countP (fun a => key x < key a)

theorem pairwise_sortDesc (l : List α) :
    (sortDesc key l).Pairwise fun a b => key b ≤ key a :=
  haveI : Std.Total fun a b : α => key b ≤ key a := ⟨fun _ _ => le_total _ _⟩
  haveI : IsTrans α fun a b => key b ≤ key a := ⟨fun _ _ _ hab hbc => hbc.trans hab⟩
  List.pairwise_insertionSort _ l

theorem perm_sortDesc (l : List α) : (sortDesc key l).Perm l := List.perm_insertionSort _ l

variable {key}

/-- In a sorted list the elements above a bound are its first ones. -/
theorem length_takeWhile_of_pairwise {l : List α} (sorted : l.Pairwise fun a b => key b ≤ key a)
    (k : κ) : (l.takeWhile fun a => ¬ key a ≤ k).length = l.countP fun a => k < key a := by
  induction l with
  | nil => rfl
  | cons a rest ih =>
      obtain ⟨largest, rest_sorted⟩ := List.pairwise_cons.mp sorted
      by_cases above : k < key a
      · rw [List.takeWhile_cons_of_pos (by simpa using above), List.length_cons, ih rest_sorted,
          List.countP_cons_of_pos (by simpa using above)]
      · have none : rest.countP (fun b => k < key b) = 0 := by
          rw [List.countP_eq_zero]
          intro b hb
          simpa using (largest b hb).trans (not_lt.mp above)
        rw [List.takeWhile_cons_of_neg (by simpa using above),
          List.countP_cons_of_neg (by simpa using above), none, List.length_nil]

/-- An element no smaller than `x` is inserted before it. -/
theorem orderedInsert_split_of_le {a x : α} (newer older : List α) (h : key x ≤ key a) :
    ∃ newer', (newer ++ x :: older).orderedInsert (fun a b => key b ≤ key a) a =
        newer' ++ x :: older ∧ newer'.length = newer.length + 1 := by
  induction newer with
  | nil => exact ⟨[a], by rw [List.nil_append, List.orderedInsert_cons, if_pos h]; rfl, rfl⟩
  | cons b rest ih =>
      by_cases here : key b ≤ key a
      · refine ⟨a :: b :: rest, ?_, by simp⟩
        rw [List.cons_append, List.orderedInsert_cons, if_pos here]
        rfl
      · obtain ⟨newer', inserted, long⟩ := ih
        refine ⟨b :: newer', ?_, by simp [long]⟩
        rw [List.cons_append, List.orderedInsert_cons, if_neg here, inserted]
        rfl

/-- An element smaller than `x` is inserted after it. -/
theorem orderedInsert_split_of_lt {a x : α} {newer older : List α}
    (sorted : (newer ++ x :: older).Pairwise fun a b => key b ≤ key a) (h : key a < key x) :
    (newer ++ x :: older).orderedInsert (fun a b => key b ≤ key a) a =
      newer ++ x :: older.orderedInsert (fun a b => key b ≤ key a) a := by
  induction newer with
  | nil => exact if_neg (not_le.mpr h)
  | cons b rest ih =>
      obtain ⟨largest, rest_sorted⟩ := List.pairwise_cons.mp sorted
      have above : key x ≤ key b := largest x (by simp)
      rw [List.cons_append, List.orderedInsert_cons, if_neg (not_le.mpr (h.trans_le above)),
        ih rest_sorted, List.cons_append]

variable (key) in
/-- An element stands in the sorted list at its rank. -/
theorem sortDesc_split (x : α) (before after : List α) :
    ∃ newer older, sortDesc key (before ++ x :: after) = newer ++ x :: older ∧
      newer.length = rank key x before after := by
  induction before with
  | nil =>
      refine ⟨_, _, List.orderedInsert_eq_take_drop _ x (sortDesc key after), ?_⟩
      rw [length_takeWhile_of_pairwise (pairwise_sortDesc key after), rank, List.countP_nil,
        Nat.zero_add]
      exact (perm_sortDesc key after).countP_eq _
  | cons a rest ih =>
      obtain ⟨newer, older, sorted, long⟩ := ih
      have inserted : sortDesc key (a :: rest ++ x :: after) =
          (newer ++ x :: older).orderedInsert (fun a b => key b ≤ key a) a :=
        congrArg (List.orderedInsert _ a) sorted
      by_cases h : key x ≤ key a
      · obtain ⟨newer', split, longer⟩ := orderedInsert_split_of_le newer older h
        refine ⟨newer', older, inserted.trans split, ?_⟩
        rw [longer, long, rank, rank, List.countP_cons_of_pos (by simpa using h)]
        omega
      · have ordered := pairwise_sortDesc key (rest ++ x :: after)
        rw [sorted] at ordered
        refine ⟨newer, _, inserted.trans (orderedInsert_split_of_lt ordered (not_le.mp h)), ?_⟩
        rw [long, rank, rank, List.countP_cons_of_neg (by simpa using h)]

/-- An element is among the first `k` of the sorted list exactly if fewer than `k` come before. -/
theorem mem_take_sortDesc_iff {x : α} {before after : List α} (k : ℕ)
    (nodup : (before ++ x :: after).Nodup) :
    x ∈ (sortDesc key (before ++ x :: after)).take k ↔ rank key x before after < k := by
  obtain ⟨newer, older, split, long⟩ := sortDesc_split key x before after
  have once : (newer ++ x :: older).Nodup :=
    split ▸ (perm_sortDesc key _).nodup_iff.mpr nodup
  have fresh : x ∉ newer := fun mem =>
    (List.nodup_append.mp once).2.2 x mem x List.mem_cons_self rfl
  rw [split, ← long]
  constructor
  · intro mem
    by_contra short
    rw [List.take_append_of_le_length (not_lt.mp short)] at mem
    exact fresh (List.mem_of_mem_take mem)
  · intro short
    obtain ⟨n, rfl⟩ := Nat.exists_eq_add_of_lt short
    rw [List.take_append, List.take_of_length_le (by omega),
      show newer.length + n + 1 - newer.length = n + 1 by omega, List.take_succ_cons]
    simp

end StableSort
