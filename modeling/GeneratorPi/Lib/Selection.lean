import Mathlib.Data.List.Basic
import Mathlib.Order.Lattice

/-!
# The rows a descending order with a limit selects

`SELECT … ORDER BY key DESC LIMIT n` returns as many rows as there are, up to `n`, and none with a
smaller key than one it leaves out (`Selects`); among equal keys the choice is the engine's.  Where
the last `n` rows all have larger keys than the ones before them, there is only one choice
(`filter_eq_drop`).
-/

namespace Selection

variable {α β : Type*} [LinearOrder β]

/-- `keep` is a choice of the rows of `l` that `ORDER BY key DESC LIMIT n` may return. -/
structure Selects (key : α → β) (n : ℕ) (l : List α) (keep : α → Bool) : Prop where
  length_eq : (l.filter keep).length = min n l.length
  largest : ∀ a ∈ l, keep a = true → ∀ b ∈ l, keep b = false → key b ≤ key a

instance instDecidableSelects (key : α → β) (n : ℕ) (l : List α) (keep : α → Bool) :
    Decidable (Selects key n l keep) :=
  decidable_of_iff ((l.filter keep).length = min n l.length ∧
      ∀ a ∈ l, keep a = true → ∀ b ∈ l, keep b = false → key b ≤ key a)
    ⟨fun h => ⟨h.1, h.2⟩, fun h => ⟨h.1, h.2⟩⟩

/-- The rows before the last `n` have smaller keys than the last `n`. -/
def Rising (key : α → β) (n : ℕ) (l : List α) : Prop :=
  ∀ a ∈ l.take (l.length - n), ∀ b ∈ l.drop (l.length - n), key a < key b

instance instDecidableRising (key : α → β) (n : ℕ) (l : List α) : Decidable (Rising key n l) :=
  inferInstanceAs (Decidable (∀ a ∈ l.take (l.length - n), ∀ b ∈ l.drop (l.length - n),
    key a < key b))

variable {key : α → β} {n : ℕ} {l : List α} {keep : α → Bool}

theorem Selects.length_le (selects : Selects key n l keep) : (l.filter keep).length ≤ n :=
  selects.length_eq.trans_le (min_le_left _ _)

theorem length_filter_take_add (keep : α → Bool) (l : List α) (k : ℕ) :
    ((l.take k).filter keep).length + ((l.drop k).filter keep).length = (l.filter keep).length := by
  rw [← List.length_append, ← List.filter_append, List.take_append_drop]

/-- Were one of the first rows kept, one of the last would not be, although its key is larger. -/
theorem Selects.not_keep (selects : Selects key n l keep) (rising : Rising key n l) {a : α}
    (early : a ∈ l.take (l.length - n)) : keep a = false := by
  by_contra kept
  rw [Bool.not_eq_false] at kept
  have taken : 0 < ((l.take (l.length - n)).filter keep).length :=
    List.length_pos_of_mem (List.mem_filter.mpr ⟨early, kept⟩)
  have total := length_filter_take_add keep l (l.length - n)
  have count := selects.length_eq
  have last : (l.drop (l.length - n)).length = min n l.length := by
    rw [List.length_drop]
    omega
  have short : ((l.drop (l.length - n)).filter keep).length < (l.drop (l.length - n)).length := by
    omega
  rw [List.length_filter_lt_length_iff_exists] at short
  obtain ⟨b, late, dropped⟩ := short
  have smaller := selects.largest a (List.mem_of_mem_take early) kept b (List.mem_of_mem_drop late)
    (by simpa using dropped)
  exact absurd smaller (not_le.mpr (rising a early b late))

/-- Only the last `n` rows can be kept, and all of them are. -/
theorem Selects.filter_eq_drop (selects : Selects key n l keep) (rising : Rising key n l) :
    l.filter keep = l.drop (l.length - n) := by
  have early : (l.take (l.length - n)).filter keep = [] :=
    List.filter_eq_nil_iff.mpr fun a mem => by simp [selects.not_keep rising mem]
  have split : l.filter keep = (l.drop (l.length - n)).filter keep := by
    conv_lhs => rw [← List.take_append_drop (l.length - n) l]
    rw [List.filter_append, early, List.nil_append]
  have whole : ((l.drop (l.length - n)).filter keep).length = (l.drop (l.length - n)).length := by
    rw [← split, selects.length_eq, List.length_drop]
    omega
  rw [split]
  exact List.filter_eq_self.mpr (List.length_filter_eq_length_iff.mp whole)

end Selection
