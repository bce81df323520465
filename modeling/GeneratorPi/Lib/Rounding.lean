import Mathlib.Data.Rat.Floor
import Mathlib.Tactic.Linarith
import Mathlib.Tactic.Positivity
import Mathlib.Tactic.FieldSimp

/-!
# Rounding to a number of decimals, ties to even

`roundTo n x` is the nearest multiple of `10 ^ (-n)`, a tie going to the even multiple.
-/

namespace Rounding

/-- The nearest integer; a tie goes to the even one. -/
def roundHalfEven (x : ℚ) : ℤ :=
  let f := ⌊x⌋
  if x - f < 1 / 2 then f
  else if 1 / 2 < x - f then f + 1
  else if f % 2 = 0 then f else f + 1

/-- `round(x, n)`. -/
def roundTo (n : ℕ) (x : ℚ) : ℚ := roundHalfEven (x * 10 ^ n) / 10 ^ n

theorem roundHalfEven_eq_floor_or (x : ℚ) :
    roundHalfEven x = ⌊x⌋ ∧ x - ⌊x⌋ ≤ 1 / 2 ∨
      roundHalfEven x = ⌊x⌋ + 1 ∧ 1 / 2 ≤ x - ⌊x⌋ := by
  simp only [roundHalfEven]
  split
  · next below => exact Or.inl ⟨rfl, below.le⟩
  · next notBelow =>
      split
      · next above => exact Or.inr ⟨rfl, above.le⟩
      · next notAbove =>
          split
          · exact Or.inl ⟨rfl, not_lt.mp notAbove⟩
          · exact Or.inr ⟨rfl, not_lt.mp notBelow⟩

/-- Rounding stays on the right of every integer on the left of its argument. -/
theorem le_roundHalfEven {k : ℤ} {x : ℚ} (h : (k : ℚ) ≤ x) : k ≤ roundHalfEven x := by
  have floor : k ≤ ⌊x⌋ := Int.le_floor.mpr h
  rcases roundHalfEven_eq_floor_or x with ⟨eq, -⟩ | ⟨eq, -⟩ <;> omega

theorem roundHalfEven_le {k : ℤ} {x : ℚ} (h : x ≤ k) : roundHalfEven x ≤ k := by
  rcases roundHalfEven_eq_floor_or x with ⟨eq, -⟩ | ⟨eq, half⟩ <;> rw [eq]
  · exact_mod_cast (Int.floor_le x).trans h
  · have less : (⌊x⌋ : ℚ) < k := by linarith
    exact Int.add_one_le_iff.mpr (by exact_mod_cast less)

/-- Rounding reaches an even integer from half below it on. -/
theorem even_le_roundHalfEven {k : ℤ} {x : ℚ} (even : k % 2 = 0) :
    k ≤ roundHalfEven x ↔ (k : ℚ) - 1 / 2 ≤ x := by
  constructor
  · intro h
    rcases roundHalfEven_eq_floor_or x with ⟨eq, -⟩ | ⟨eq, half⟩ <;> rw [eq] at h
    · have below : (k : ℚ) ≤ ⌊x⌋ := by exact_mod_cast h
      linarith [Int.floor_le x]
    · have below : (k : ℚ) ≤ ⌊x⌋ + 1 := by exact_mod_cast h
      linarith
  · intro h
    have high := Int.lt_floor_add_one x
    simp only [roundHalfEven]
    split
    · next near =>
        have less : (k : ℚ) < ⌊x⌋ + 1 := by linarith
        exact Int.lt_add_one_iff.mp (by exact_mod_cast less)
    · next far =>
        have less : (k : ℚ) < ⌊x⌋ + 2 := by linarith
        have next_or : k < ⌊x⌋ + 2 := by exact_mod_cast less
        split
        · omega
        · next tie =>
            split
            · omega
            · omega

theorem le_roundTo {n : ℕ} {k : ℤ} {x : ℚ} (h : (k : ℚ) / 10 ^ n ≤ x) :
    (k : ℚ) / 10 ^ n ≤ roundTo n x := by
  have scaled : (k : ℚ) ≤ x * 10 ^ n := (div_le_iff₀ (by positivity)).mp h
  unfold roundTo
  gcongr
  exact_mod_cast le_roundHalfEven scaled

theorem roundTo_le {n : ℕ} {k : ℤ} {x : ℚ} (h : x ≤ (k : ℚ) / 10 ^ n) :
    roundTo n x ≤ (k : ℚ) / 10 ^ n := by
  have scaled : x * 10 ^ n ≤ (k : ℚ) := (le_div_iff₀ (by positivity)).mp h
  unfold roundTo
  gcongr
  exact_mod_cast roundHalfEven_le scaled

theorem roundTo_nonneg {n : ℕ} {x : ℚ} (h : 0 ≤ x) : 0 ≤ roundTo n x := by
  have low := le_roundTo (n := n) (k := 0) (x := x) (by simpa using h)
  simpa using low

theorem abs_roundHalfEven_sub_le (x : ℚ) : |(roundHalfEven x : ℚ) - x| ≤ 1 / 2 := by
  have low := Int.floor_le x
  have high := Int.lt_floor_add_one x
  rcases roundHalfEven_eq_floor_or x with ⟨eq, half⟩ | ⟨eq, half⟩ <;> rw [eq, abs_le]
  · constructor <;> linarith
  · push_cast
    constructor <;> linarith

/-- Rounding is off by at most half a unit of the last decimal kept. -/
theorem abs_roundTo_sub_le (n : ℕ) (x : ℚ) : |roundTo n x - x| ≤ 1 / 2 / 10 ^ n := by
  have scale : (0 : ℚ) < 10 ^ n := by positivity
  have same : roundTo n x - x = (roundHalfEven (x * 10 ^ n) - x * 10 ^ n) / 10 ^ n := by
    rw [roundTo]
    field_simp
  rw [same, abs_div, abs_of_pos scale]
  gcongr
  exact abs_roundHalfEven_sub_le _

end Rounding
