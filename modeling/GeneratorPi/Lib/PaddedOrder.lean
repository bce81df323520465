import Mathlib

/-!
# Comparing lists component by component, missing components read as a pad

Two lists are compared at the first index where they differ, every component past the end of a list
read as the pad `z` (`PadLt`, `PadEq`).  The lexicographic order of lists agrees with this order
except on ties: it puts the list with fewer components first (`lt_iff`, `le_iff`).
-/

namespace PaddedOrder

section Definitions

variable {α : Type*} (z : α)

/-- `a` is below `b` at the first component where they differ. -/
def PadLt [LT α] (a b : List α) : Prop :=
  ∃ i, (∀ j < i, a.getD j z = b.getD j z) ∧ a.getD i z < b.getD i z

/-- `a` and `b` have the same components. -/
def PadEq (a b : List α) : Prop :=
  ∀ i, a.getD i z = b.getD i z

def PadLe [LT α] (a b : List α) : Prop :=
  PadLt z a b ∨ PadEq z a b

end Definitions

variable {α : Type*} {z : α} {a b c : List α}

/-- Both lists are padding from the longer one's length on. -/
theorem getD_eq_pad {i : ℕ} (h : max a.length b.length ≤ i) : a.getD i z = b.getD i z := by
  have ha : a.length ≤ i := (le_max_left _ _).trans h
  have hb : b.length ≤ i := (le_max_right _ _).trans h
  rw [List.getD_eq_default _ _ ha, List.getD_eq_default _ _ hb]

instance decidablePadLt [LinearOrder α] (a b : List α) : Decidable (PadLt z a b) :=
  decidable_of_iff
    (∃ i < max a.length b.length, (∀ j < i, a.getD j z = b.getD j z) ∧ a.getD i z < b.getD i z)
    ⟨fun ⟨i, _, h⟩ => ⟨i, h⟩, fun ⟨i, same, lt⟩ =>
      ⟨i, not_le.mp fun long => lt.ne (getD_eq_pad long), same, lt⟩⟩

instance decidablePadEq [DecidableEq α] (a b : List α) : Decidable (PadEq z a b) :=
  decidable_of_iff (∀ i < max a.length b.length, a.getD i z = b.getD i z)
    ⟨fun h i => (lt_or_ge i _).elim (h i) getD_eq_pad, fun h i _ => h i⟩

instance decidablePadLe [LinearOrder α] (a b : List α) : Decidable (PadLe z a b) :=
  inferInstanceAs (Decidable (_ ∨ _))

theorem PadEq.refl (a : List α) : PadEq z a a := fun _ => rfl

theorem PadEq.symm (h : PadEq z a b) : PadEq z b a := fun i => (h i).symm

/-- Lists with the same components and the same number of them are equal. -/
theorem PadEq.eq_of_length (same : PadEq z a b) (long : a.length = b.length) : a = b := by
  refine List.ext_getElem long fun i ha hb => ?_
  simpa [List.getD_eq_getElem, ha, hb] using same i

/-! ## Heads and tails -/

theorem getD_succ (l : List α) (i : ℕ) : l.getD (i + 1) z = l.tail.getD i z := by
  cases l <;> simp

theorem getD_zero (l : List α) : l.getD 0 z = l.headD z := by
  cases l <;> simp

theorem padEq_iff : PadEq z a b ↔ a.headD z = b.headD z ∧ PadEq z a.tail b.tail := by
  constructor
  · intro h
    refine ⟨?_, fun i => ?_⟩
    · simpa only [getD_zero] using h 0
    · simpa only [getD_succ] using h (i + 1)
  · rintro ⟨head, tail⟩ i
    cases i with
    | zero => simpa only [getD_zero] using head
    | succ i => simpa only [getD_succ] using tail i

theorem padLt_iff [LT α] :
    PadLt z a b ↔ a.headD z < b.headD z ∨ a.headD z = b.headD z ∧ PadLt z a.tail b.tail := by
  constructor
  · rintro ⟨i, same, lt⟩
    cases i with
    | zero => exact Or.inl (by simpa only [getD_zero] using lt)
    | succ i =>
        refine Or.inr ⟨by simpa only [getD_zero] using same 0 i.succ_pos, i, ?_, ?_⟩
        · intro j hj
          simpa only [getD_succ] using same (j + 1) (Nat.succ_lt_succ hj)
        · simpa only [getD_succ] using lt
  · rintro (lt | ⟨head, i, same, lt⟩)
    · exact ⟨0, fun _ h => absurd h (Nat.not_lt_zero _), by simpa only [getD_zero] using lt⟩
    · refine ⟨i + 1, fun j hj => ?_, by simpa only [getD_succ] using lt⟩
      cases j with
      | zero => simpa only [getD_zero] using head
      | succ j => simpa only [getD_succ] using same j (Nat.lt_of_succ_lt_succ hj)

/-! ## The order itself -/

variable [LinearOrder α]

theorem PadLt.irrefl (a : List α) : ¬ PadLt z a a := fun ⟨_, _, lt⟩ => lt_irrefl _ lt

theorem PadLt.congr_left (h : PadEq z a b) (lt : PadLt z a c) : PadLt z b c := by
  obtain ⟨i, same, below⟩ := lt
  exact ⟨i, fun j hj => (h j).symm.trans (same j hj), (h i) ▸ below⟩

theorem PadLt.congr_right (h : PadEq z b c) (lt : PadLt z a b) : PadLt z a c := by
  obtain ⟨i, same, below⟩ := lt
  exact ⟨i, fun j hj => (same j hj).trans (h j), (h i) ▸ below⟩

/-! ## The lexicographic order -/

/-- Against padding alone, a list of components that are at least the pad is equal or above. -/
theorem padLt_or_padEq_nil (above : ∀ x ∈ b, z ≤ x) : PadLt z [] b ∨ PadEq z [] b := by
  induction b with
  | nil => exact Or.inr (PadEq.refl [])
  | cons y ys ih =>
      rw [padLt_iff, padEq_iff]
      rcases (above y List.mem_cons_self).lt_or_eq with lt | eq
      · exact Or.inl (Or.inl lt)
      · rcases ih fun x h => above x (List.mem_cons_of_mem _ h) with lt | same
        · exact Or.inl (Or.inr ⟨eq, lt⟩)
        · exact Or.inr ⟨eq, same⟩

theorem not_padLt_nil (above : ∀ x ∈ a, z ≤ x) : ¬ PadLt z a [] := by
  rintro ⟨i, -, lt⟩
  rw [List.getD_nil] at lt
  rcases lt_or_ge i a.length with short | long
  · rw [List.getD_eq_getElem _ _ short] at lt
    exact absurd (above _ (List.getElem_mem short)) (not_le.mpr lt)
  · rw [List.getD_eq_default _ _ long] at lt
    exact lt_irrefl _ lt

/-- Lists of components that are at least the pad: the lexicographic order breaks the ties of the
padded one in favour of fewer components. -/
theorem lt_iff (ha : ∀ x ∈ a, z ≤ x) (hb : ∀ x ∈ b, z ≤ x) :
    a < b ↔ PadLt z a b ∨ PadEq z a b ∧ a.length < b.length := by
  induction a generalizing b with
  | nil =>
      cases b with
      | nil => simp [PadLt.irrefl]
      | cons y ys =>
          have split := padLt_or_padEq_nil hb
          simpa using split
  | cons x xs ih =>
      cases b with
      | nil => simp [not_padLt_nil ha]
      | cons y ys =>
          have tails := ih (fun v h => ha v (List.mem_cons_of_mem _ h))
            (fun v h => hb v (List.mem_cons_of_mem _ h))
          have lt : PadLt z (x :: xs) (y :: ys) ↔ x < y ∨ x = y ∧ PadLt z xs ys := padLt_iff
          have eq : PadEq z (x :: xs) (y :: ys) ↔ x = y ∧ PadEq z xs ys := padEq_iff
          rw [List.cons_lt_cons_iff, tails, lt, eq, List.length_cons, List.length_cons,
            Nat.add_lt_add_iff_right, and_or_left, or_assoc, and_assoc]

theorem le_iff (ha : ∀ x ∈ a, z ≤ x) (hb : ∀ x ∈ b, z ≤ x) :
    a ≤ b ↔ PadLt z a b ∨ PadEq z a b ∧ a.length ≤ b.length := by
  rw [le_iff_lt_or_eq, lt_iff ha hb]
  constructor
  · rintro ((lt | ⟨same, short⟩) | rfl)
    · exact Or.inl lt
    · exact Or.inr ⟨same, short.le⟩
    · exact Or.inr ⟨PadEq.refl _, le_rfl⟩
  · rintro (lt | ⟨same, long⟩)
    · exact Or.inl (Or.inl lt)
    · rcases long.lt_or_eq with short | equal
      · exact Or.inl (Or.inr ⟨same, short⟩)
      · exact Or.inr (same.eq_of_length equal)

end PaddedOrder
