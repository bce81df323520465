import Mathlib.Algebra.Order.Group.Int
import Mathlib.Data.Prod.Lex
import Mathlib.Tactic.Ring

/-!
# Priorities that improve with age

A waiting entry has a base priority, of which a lower number goes first, and gains one level for
each full `interval` it has waited.  Where one entry is at least as urgent as another, `urgency_lt`
and `urgency_le` bound how much later it can have come.

`firstBest` scans a list once for the first element that no other beats; by a key in a linear order
that is the first of the least (`firstBest_least`).
-/

namespace Ageing

/-! ## Urgency -/

/-- The base priority less one for each full interval waited. -/
def urgency (interval base since now : ℤ) : ℤ := base - (now - since) / interval

section Urgency

variable {interval b c s t now : ℤ}

/-- A more urgent entry came before the other one's time moved by the difference in base
priority. -/
theorem urgency_lt (pos : 0 < interval)
    (h : urgency interval b s now < urgency interval c t now) : s < t + (c - b) * interval := by
  unfold urgency at h
  have moved : (now - t + (b - c) * interval) / interval = (now - t) / interval + (b - c) :=
    Int.add_mul_ediv_right _ _ pos.ne'
  have whole : (now - t + (b - c) * interval) / interval < (now - s) / interval := by omega
  have earlier : now - t + (b - c) * interval < now - s :=
    lt_of_not_ge fun le => absurd (Int.ediv_le_ediv pos le) (not_le.mpr whole)
  calc s < t - (b - c) * interval := by omega
    _ = t + (c - b) * interval := by ring

/-- Of two entries alike in urgency the floors hide less than one interval. -/
theorem urgency_le (pos : 0 < interval)
    (h : urgency interval b s now ≤ urgency interval c t now) :
    s < t + (c - b + 1) * interval := by
  have next : urgency interval b s now < urgency interval (c + 1) t now := by
    unfold urgency at h ⊢
    omega
  have later := urgency_lt pos next
  rwa [add_sub_right_comm] at later

theorem base_eq_of_urgency_eq (h : urgency interval b s now = urgency interval c s now) :
    b = c := by
  unfold urgency at h
  omega

end Urgency

/-! ## The first best of a list -/

variable {κ ω : Type*}

/-- The rest of the scan: `i` elements are seen, `best` is the best of them and its place. -/
def scan (beats : κ → κ → Bool) (i : ℕ) (best : ℕ × κ) : List κ → ℕ × κ
  | [] => best
  | k :: rest => scan beats (i + 1) (if beats k best.2 then (i, k) else best) rest

/-- The first element that no other beats, with its place. -/
def firstBest (beats : κ → κ → Bool) : List κ → Option (ℕ × κ)
  | [] => none
  | k :: rest => some (scan beats 1 (0, k) rest)

section FirstBest

variable {beats : κ → κ → Bool} {l seen rest : List κ} {best : ℕ × κ} {i : ℕ}

theorem firstBest_eq_none : firstBest beats l = none ↔ l = [] := by
  cases l with
  | nil => exact iff_of_true rfl rfl
  | cons k rest => exact iff_of_false (Option.some_ne_none _) (List.cons_ne_nil _ _)

/-- The best of the elements seen stands at its place. -/
theorem scan_get (here : seen[best.1]? = some best.2) :
    (seen ++ rest)[(scan beats seen.length best rest).1]? =
      some (scan beats seen.length best rest).2 := by
  induction rest generalizing seen best with
  | nil =>
      rw [List.append_nil]
      exact here
  | cons k rest ih =>
      have longer : (seen ++ [k]).length = seen.length + 1 := List.length_append
      rw [scan, ← longer, ← List.singleton_append, ← List.append_assoc]
      refine ih ?_
      split
      · exact List.getElem?_concat_length
      · rw [List.getElem?_append_left (List.getElem?_eq_some_iff.mp here).1]
        exact here

theorem firstBest_get {k : κ} (h : firstBest beats l = some (i, k)) : l[i]? = some k := by
  cases l with
  | nil => cases h
  | cons a rest =>
      have here : [a][(0, a).1]? = some (0, a).2 := rfl
      have found : ([a] ++ rest)[(scan beats [a].length (0, a) rest).1]? =
          some (scan beats [a].length (0, a) rest).2 := scan_get here
      rw [firstBest, Option.some.injEq] at h
      rw [List.length_singleton, h] at found
      exact found

variable [LinearOrder ω] {key : κ → ω}

/-- `k` at place `i` is the first of the least. -/
def Least (key : κ → ω) (l : List κ) (best : ℕ × κ) : Prop :=
  ∀ (j : ℕ) (k : κ), l[j]? = some k → key best.2 ≤ key k ∧ (j < best.1 → key best.2 < key k)

theorem scan_least (ordered : ∀ a ∈ seen ++ rest, ∀ b ∈ seen ++ rest,
      (beats a b = true ↔ key a < key b))
    (here : seen[best.1]? = some best.2) (least : Least key seen best) :
    Least key (seen ++ rest) (scan beats seen.length best rest) := by
  induction rest generalizing seen best with
  | nil =>
      rw [List.append_nil]
      exact least
  | cons k rest ih =>
      have split_ : seen ++ k :: rest = seen ++ [k] ++ rest := by simp
      have longer : (seen ++ [k]).length = seen.length + 1 := List.length_append
      have inside := (List.getElem?_eq_some_iff.mp here).1
      have decides := ordered k (by simp) best.2
        (List.mem_append_left _ (List.mem_of_getElem? here))
      rw [scan, ← longer, split_]
      rw [split_] at ordered
      refine ih ordered ?_ ?_
      · split
        · exact List.getElem?_concat_length
        · rw [List.getElem?_append_left inside]
          exact here
      · intro j a found
        rcases Nat.lt_or_ge j seen.length with old | new
        · rw [List.getElem?_append_left old] at found
          obtain ⟨le, first⟩ := least j a found
          split
          case isTrue better =>
            have below := (decides.mp better).trans_le le
            exact ⟨below.le, fun _ => below⟩
          case isFalse => exact ⟨le, first⟩
        · rw [List.getElem?_append_right new] at found
          obtain ⟨isLast, rfl⟩ : j - seen.length = 0 ∧ k = a := by
            cases at_ : j - seen.length with
            | zero =>
                rw [at_] at found
                exact ⟨rfl, Option.some.inj found⟩
            | succ n =>
                rw [at_] at found
                cases found
          split
          case isTrue =>
            exact ⟨le_rfl, fun before => absurd before (by omega)⟩
          case isFalse worse =>
            exact ⟨not_lt.mp fun below => worse (decides.mpr below),
              fun before => absurd before (by omega)⟩

/-- Where beating is being below in key, the scan ends at the first of the least. -/
theorem firstBest_least (ordered : ∀ a ∈ l, ∀ b ∈ l, (beats a b = true ↔ key a < key b))
    (h : firstBest beats l = some best) : Least key l best := by
  cases l with
  | nil => cases h
  | cons a rest =>
      cases h
      have here : [a][(0, a).1]? = some (0, a).2 := rfl
      refine scan_least ordered here fun j k found => ?_
      cases j with
      | zero =>
          cases found
          exact ⟨le_rfl, fun before => absurd before (lt_irrefl _)⟩
      | succ n => cases found

end FirstBest

end Ageing
