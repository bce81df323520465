import Mathlib.Data.List.Basic
import Mathlib.Order.Basic

/-!
# The last elements of a stream

A buffer of capacity `cap` holds the last `cap` elements of what was pushed (`lastN`).  A copy that
held the last elements of a part of the stream comes up to date by appending what is new to it and
cutting it to the capacity (`lastN_append_lastN`), also where more came than the buffer holds.
With keys that ascend along the stream, what is new is what lies above the copy's last key
(`filter_lastN_append`).
-/

namespace RingBuffer

variable {α κ : Type*}

/-- The last `cap` elements. -/
def lastN (cap : ℕ) (l : List α) : List α := l.drop (l.length - cap)

/-- What the buffer holds after one more element. -/
def push (cap : ℕ) (l : List α) (a : α) : List α := lastN cap (l ++ [a])

theorem length_lastN (cap : ℕ) (l : List α) : (lastN cap l).length = min cap l.length := by
  rw [lastN, List.length_drop]
  omega

theorem lastN_of_length_le {cap : ℕ} {l : List α} (short : l.length ≤ cap) : lastN cap l = l := by
  rw [lastN, Nat.sub_eq_zero_of_le short, List.drop_zero]

theorem mem_of_mem_lastN {cap : ℕ} {l : List α} {a : α} (mem : a ∈ lastN cap l) : a ∈ l :=
  List.mem_of_mem_drop mem

theorem lastN_lastN {i j : ℕ} (le : i ≤ j) (l : List α) : lastN i (lastN j l) = lastN i l := by
  have total : l.length - j + ((lastN j l).length - i) = l.length - i := by
    rw [length_lastN]
    omega
  rw [lastN, lastN, List.drop_drop, ← lastN, total, ← lastN]

/-- The newer part comes first to the capacity, and leaves the rest to the older. -/
theorem lastN_append (cap : ℕ) (l m : List α) :
    lastN cap (l ++ m) = lastN (cap - m.length) l ++ lastN cap m := by
  have second : l.length + m.length - cap - l.length = m.length - cap := by omega
  have first : l.drop (l.length + m.length - cap) = l.drop (l.length - (cap - m.length)) := by
    rcases Nat.le_total cap m.length with long | short
    · rw [List.drop_eq_nil_of_le (by omega), List.drop_eq_nil_of_le (by omega)]
    · congr 1
      omega
  rw [lastN, List.length_append, List.drop_append, second, first, lastN, lastN]

/-- What was cut from the parts would be cut from the whole. -/
theorem lastN_append_lastN (cap : ℕ) (l m : List α) :
    lastN cap (lastN cap l ++ lastN cap m) = lastN cap (l ++ m) := by
  have rest : cap - (lastN cap m).length = cap - m.length := by
    rw [length_lastN]
    omega
  rw [lastN_append, rest, lastN_lastN (Nat.sub_le _ _), lastN_lastN (Nat.le_refl _), lastN_append]

theorem push_lastN (cap : ℕ) (l : List α) (a : α) :
    push cap (lastN cap l) a = lastN cap (l ++ [a]) := by
  rw [push, lastN_append, lastN_lastN (Nat.sub_le _ _), ← lastN_append]

theorem map_lastN {β : Type*} (f : α → β) (cap : ℕ) (l : List α) :
    (lastN cap l).map f = lastN cap (l.map f) := by
  rw [lastN, lastN, List.map_drop, List.length_map]

/-- The last element is kept. -/
theorem getLast?_lastN {cap : ℕ} (pos : cap ≠ 0) (l : List α) :
    (lastN cap l).getLast? = l.getLast? := by
  rw [lastN, List.getLast?_drop]
  split
  case isTrue long =>
    have empty : l = [] := List.length_eq_zero_iff.mp (by omega)
    rw [empty, List.getLast?_nil]
  case isFalse => rfl

section Keys

variable [Preorder κ] [DecidableLT κ] (key : α → κ)

/-- What a buffer holds above a key that ends the older part is the last of the newer part. -/
theorem filter_lastN_append {cap : ℕ} {l m : List α} {k : κ} (old : ∀ a ∈ l, ¬ k < key a)
    (new : ∀ a ∈ m, k < key a) :
    (lastN cap (l ++ m)).filter (fun a => k < key a) = lastN cap m := by
  have none : (lastN (cap - m.length) l).filter (fun a => k < key a) = [] :=
    List.filter_eq_nil_iff.mpr fun a mem => by simpa using old a (mem_of_mem_lastN mem)
  have all : (lastN cap m).filter (fun a => k < key a) = lastN cap m :=
    List.filter_eq_self.mpr fun a mem => by simpa using new a (mem_of_mem_lastN mem)
  rw [lastN_append, List.filter_append, none, all, List.nil_append]

end Keys

/-- Where the keys ascend, what does not lie below a key comes last. -/
theorem filter_ge_suffix [Preorder κ] [DecidableLE κ] (key : α → κ) {l : List α}
    (ascending : l.Pairwise fun a b => key a < key b) (k : κ) :
    l.filter (fun a => k ≤ key a) <:+ l := by
  induction l with
  | nil => exact List.suffix_rfl
  | cons a l ih =>
      obtain ⟨above, rest⟩ := List.pairwise_cons.1 ascending
      by_cases here : k ≤ key a
      · have all : (a :: l).filter (fun a => k ≤ key a) = a :: l := by
          refine List.filter_eq_self.2 fun b mem => decide_eq_true ?_
          rcases List.mem_cons.1 mem with rfl | later
          · exact here
          · exact here.trans (above b later).le
        exact ⟨[], by rw [all, List.nil_append]⟩
      · rw [List.filter_cons_of_neg (by simpa using here)]
        exact (ih rest).trans (List.suffix_cons a l)

end RingBuffer
