import Mathlib.Data.List.ReduceOption

/-!
# Lines that bear names

A file of lines, of which each bears a name and may give that name a value.  What a name's lines say
is the list of their values in order (`marks`).  `fillFirst` sets a name's value in place, at the
first line that bears it, or behind all lines: of the name's other lines all remain but the first,
and other names' lines are not touched.
-/

namespace NamedLines

variable {ℓ κ ν : Type*}

structure Reading (ℓ κ ν : Type*) where
  name : ℓ → κ
  /-- A line may bear a name without giving it a value. -/
  value : ℓ → Option ν

/-- Put a line in the place of the first that `bears`, else behind the lines, after the block. -/
def fillFirst (bears : ℓ → Bool) (block : List ℓ) (line : ℓ) : List ℓ → List ℓ
  | [] => block ++ [line]
  | first :: rest =>
      if bears first then line :: rest else first :: fillFirst bears block line rest

theorem mem_fillFirst {bears : ℓ → Bool} {block : List ℓ} {line l : ℓ} {lines : List ℓ}
    (h : l ∈ fillFirst bears block line lines) : l ∈ block ∨ l = line ∨ l ∈ lines := by
  induction lines with
  | nil =>
      rw [fillFirst, List.mem_append, List.mem_singleton] at h
      exact h.imp_right Or.inl
  | cons first rest ih =>
      rw [fillFirst] at h
      split at h
      · rcases List.mem_cons.mp h with rfl | later
        · exact Or.inr (Or.inl rfl)
        · exact Or.inr (Or.inr (List.mem_cons_of_mem _ later))
      · rcases List.mem_cons.mp h with rfl | later
        · exact Or.inr (Or.inr List.mem_cons_self)
        · exact (ih later).imp_right (Or.imp_right (List.mem_cons_of_mem _))

/-- The new line stands for the first that bears the name, or ends the lines if none does. -/
theorem fillFirst_cases (bears : ℓ → Bool) (block : List ℓ) (line : ℓ) (lines : List ℓ) :
    (∃ a old b, lines = a ++ old :: b ∧ bears old = true ∧ (∀ l ∈ a, bears l = false) ∧
      fillFirst bears block line lines = a ++ line :: b) ∨
    (∀ l ∈ lines, bears l = false) ∧
      fillFirst bears block line lines = lines ++ (block ++ [line]) := by
  induction lines with
  | nil => exact Or.inr ⟨fun _ mem => (nomatch mem), rfl⟩
  | cons first rest ih =>
      rw [fillFirst]
      by_cases here : bears first = true
      · rw [if_pos here]
        exact Or.inl ⟨[], first, rest, rfl, here, fun _ mem => (nomatch mem), rfl⟩
      · rw [if_neg here]
        have other := eq_false_of_ne_true here
        rcases ih with ⟨a, old, b, rfl, bearsOld, none, filled⟩ | ⟨none, filled⟩
        · refine Or.inl ⟨first :: a, old, b, rfl, bearsOld, ?_, by rw [filled]; rfl⟩
          exact List.forall_mem_cons.mpr ⟨other, none⟩
        · exact Or.inr ⟨List.forall_mem_cons.mpr ⟨other, none⟩, by rw [filled]; rfl⟩

variable [DecidableEq κ] (r : Reading ℓ κ ν)

/-- The values that the lines of a name give, in order, `none` for a line without one. -/
def Reading.marks (k : κ) (lines : List ℓ) : List (Option ν) :=
  (lines.filter fun l => r.name l = k).map r.value

/-- The values of a name, in order. -/
def Reading.values (k : κ) (lines : List ℓ) : List ν := (r.marks k lines).reduceOption

/-- The values that the lines of a name give behind the first of them. -/
def Reading.later (k : κ) (lines : List ℓ) : List ν := (r.marks k lines).tail.reduceOption

variable {r} {k j : κ}

@[simp] theorem marks_nil : r.marks k [] = [] := rfl

theorem marks_append (as bs : List ℓ) : r.marks k (as ++ bs) = r.marks k as ++ r.marks k bs := by
  rw [Reading.marks, List.filter_append, List.map_append]
  rfl

theorem values_append (as bs : List ℓ) :
    r.values k (as ++ bs) = r.values k as ++ r.values k bs := by
  rw [Reading.values, marks_append, List.reduceOption_append]
  rfl

theorem marks_singleton_of_ne {l : ℓ} (h : r.name l ≠ k) : r.marks k [l] = [] := by
  simp [Reading.marks, h]

theorem marks_singleton {l : ℓ} (h : r.name l = k) : r.marks k [l] = [r.value l] := by
  simp [Reading.marks, h]

theorem marks_cons (l : ℓ) (lines : List ℓ) :
    r.marks k (l :: lines) = r.marks k [l] ++ r.marks k lines := marks_append [l] lines

theorem marks_eq_nil_iff {lines : List ℓ} :
    r.marks k lines = [] ↔ ∀ l ∈ lines, r.name l ≠ k := by
  simp [Reading.marks]

/-- Behind the first line of a name the last value is that of all its lines. -/
theorem getLast?_later {lines : List ℓ} (h : r.later k lines ≠ []) :
    (r.later k lines).getLast? = (r.values k lines).getLast? := by
  rw [Reading.later] at h ⊢
  rw [Reading.values]
  cases marks : r.marks k lines with
  | nil =>
      rw [marks] at h
      exact absurd rfl h
  | cons first rest =>
      rw [marks] at h
      rw [List.tail_cons] at h ⊢
      rw [← List.singleton_append, List.reduceOption_append, List.getLast?_append,
        Option.or_of_isSome (List.getLast?_isSome.mpr h)]

section Fill

variable {block : List ℓ} {line : ℓ} (clear : r.marks k block = [])
include clear

/-- The name's first line is the new one, and its others stay. -/
theorem marks_fillFirst (named : r.name line = k) (lines : List ℓ) :
    r.marks k (fillFirst (fun l => r.name l = k) block line lines) =
      r.value line :: (r.marks k lines).tail := by
  induction lines with
  | nil => rw [fillFirst, marks_append, clear, marks_singleton named]; rfl
  | cons first rest ih =>
      rw [fillFirst]
      split
      case isTrue bears =>
        have here : r.name first = k := of_decide_eq_true bears
        rw [marks_cons, marks_singleton named, marks_cons first, marks_singleton here]
        rfl
      case isFalse other =>
        have elsewhere : r.name first ≠ k := fun same => other (decide_eq_true same)
        rw [marks_cons, marks_singleton_of_ne elsewhere, ih, marks_cons first,
          marks_singleton_of_ne elsewhere]
        rfl

/-- Another name's lines are the same. -/
theorem marks_fillFirst_of_ne (other : r.name line ≠ k) (different : j ≠ k) (lines : List ℓ) :
    r.marks k (fillFirst (fun l => r.name l = j) block line lines) = r.marks k lines := by
  induction lines with
  | nil => rw [fillFirst, marks_append, clear, marks_singleton_of_ne other]; rfl
  | cons first rest ih =>
      rw [fillFirst]
      split
      case isTrue bears =>
        have here : r.name first ≠ k := of_decide_eq_true bears ▸ different
        rw [marks_cons, marks_singleton_of_ne other, marks_cons first, marks_singleton_of_ne here]
      case isFalse => rw [marks_cons, ih, ← marks_cons]

end Fill

end NamedLines
