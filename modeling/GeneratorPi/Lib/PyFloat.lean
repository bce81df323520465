import Mathlib.Data.Int.Log
import Mathlib.Tactic.NormNum
import GeneratorPi.Lib.PyJson
import GeneratorPi.Lib.Rounding

/-!
# Python floats

A float is the rational it stands for.  `Format.round` rounds a rational to the nearest value of a
binary format, a tie going to the even one; it overflows from half a last place below the first
value that is too large (`Format.overflows_iff`).  `float?` reads the literals of `float`.
-/

namespace PyFloat

open PyJson PyText Rounding

/-! ## Rounding -/

/-- A binary format with `precision` bits: last places from `2 ^ emin` on, values below
`2 ^ emax`. -/
structure Format where
  precision : ℕ
  emin : ℤ
  emax : ℤ
  some_bit : 1 ≤ precision
  room : emin + precision ≤ emax

/-- The exponent of the last place of a value near `q`. -/
def Format.lastPlace (f : Format) (q : ℚ) : ℤ := max (Int.log 2 |q| - (f.precision - 1)) f.emin

/-- The rounded magnitude, before the exponent is checked. -/
def Format.magnitude (f : Format) (q : ℚ) : ℚ :=
  roundHalfEven (|q| / 2 ^ f.lastPlace q) * 2 ^ f.lastPlace q

def Format.round (f : Format) (q : ℚ) : FloatValue :=
  if 2 ^ f.emax ≤ f.magnitude q then .infinite
  else .finite (if q < 0 then -f.magnitude q else f.magnitude q)

def binary64 : Format where
  precision := 53
  emin := -1074
  emax := 1024
  some_bit := by decide
  room := by decide

variable {f : Format} {q : ℚ}

theorem two_zpow_pos (k : ℤ) : (0 : ℚ) < 2 ^ k := zpow_pos (by norm_num) k

theorem two_zpow_succ (k : ℤ) : (2 : ℚ) ^ (k + 1) = 2 * 2 ^ k := by
  rw [zpow_add_one₀ (by norm_num), mul_comm]

theorem two_zpow_le {j k : ℤ} (h : j ≤ k) : (2 : ℚ) ^ j ≤ 2 ^ k :=
  zpow_le_zpow_right₀ (by norm_num) h

/-- Where the last place is below the limit, the magnitude reaches it from half a last place before
it. -/
theorem Format.le_magnitude_iff (below : f.lastPlace q < f.emax) :
    2 ^ f.emax ≤ f.magnitude q ↔ (2 : ℚ) ^ f.emax - 2 ^ (f.lastPlace q - 1) ≤ |q| := by
  set u := f.lastPlace q
  obtain ⟨n, gap⟩ : ∃ n : ℕ, f.emax = u + (n + 1) := ⟨(f.emax - u - 1).toNat, by omega⟩
  have scaled : (2 : ℚ) ^ f.emax = ((2 * 2 ^ n : ℤ) : ℚ) * 2 ^ u := by
    rw [gap, zpow_add₀ (by norm_num), two_zpow_succ, mul_comm]
    push_cast
    rw [zpow_natCast]
  have half : (2 : ℚ) ^ u = 2 * 2 ^ (u - 1) := by rw [← two_zpow_succ, sub_add_cancel]
  have even : (2 * 2 ^ n : ℤ) % 2 = 0 := Int.mul_emod_right 2 _
  calc 2 ^ f.emax ≤ f.magnitude q
      ↔ ((2 * 2 ^ n : ℤ) : ℚ) ≤ roundHalfEven (|q| / 2 ^ u) := by
        rw [magnitude, scaled, mul_le_mul_iff_left₀ (two_zpow_pos u)]
    _ ↔ ((2 * 2 ^ n : ℤ) : ℚ) - 1 / 2 ≤ |q| / 2 ^ u := by
        rw [Int.cast_le, even_le_roundHalfEven even]
    _ ↔ (2 : ℚ) ^ f.emax - 2 ^ (u - 1) ≤ |q| := by
        rw [le_div_iff₀ (two_zpow_pos u), sub_mul, ← scaled, half]
        ring_nf

/-- A magnitude with a digit above the limit is rounded to no less. -/
theorem Format.le_magnitude_of_log (large : f.emax ≤ Int.log 2 |q|)
    (lower : (2 : ℚ) ^ Int.log 2 |q| ≤ |q|) : 2 ^ f.emax ≤ f.magnitude q := by
  have bits := f.some_bit
  have room := f.room
  have place : f.lastPlace q = Int.log 2 |q| - (f.precision - 1) := by
    unfold lastPlace
    omega
  have whole : (2 : ℚ) ^ Int.log 2 |q| = ((2 ^ (f.precision - 1) : ℤ) : ℚ) * 2 ^ f.lastPlace q := by
    push_cast
    rw [← zpow_natCast, ← zpow_add₀ (by norm_num), place]
    congr 1
    omega
  refine (two_zpow_le large).trans ?_
  rw [whole, magnitude]
  refine mul_le_mul_of_nonneg_right ?_ (two_zpow_pos _).le
  refine Int.cast_le.mpr (le_roundHalfEven ?_)
  rw [le_div_iff₀ (two_zpow_pos _), ← whole]
  exact lower

/-- A rational overflows from half a last place below the limit on. -/
theorem Format.overflows_iff :
    2 ^ f.emax ≤ f.magnitude q ↔ (2 : ℚ) ^ f.emax - 2 ^ (f.emax - f.precision - 1) ≤ |q| := by
  have bits := f.some_bit
  have room := f.room
  have upper := Int.lt_zpow_succ_log_self (b := 2) (by decide) |q|
  by_cases zero : q = 0
  · have none_left : f.magnitude q = 0 := by
      rw [magnitude, zero, abs_zero, zero_div]
      norm_num [roundHalfEven]
    have less : (2 : ℚ) ^ (f.emax - f.precision - 1) < 2 ^ f.emax :=
      zpow_lt_zpow_right₀ (by norm_num) (by omega)
    rw [none_left, zero, abs_zero]
    exact iff_of_false (not_le.mpr (two_zpow_pos _)) (by linarith)
  have positive : 0 < |q| := abs_pos.mpr zero
  have lower := Int.zpow_log_le_self (b := 2) (by decide) positive
  rcases lt_trichotomy (Int.log 2 |q|) (f.emax - 1) with less | last | more
  · -- All of it is below half the limit.
    have place : f.lastPlace q < f.emax := by unfold lastPlace; omega
    have small : |q| < 2 ^ (f.emax - 1) := upper.trans_le (two_zpow_le (by omega))
    have halves : (2 : ℚ) ^ f.emax = 2 * 2 ^ (f.emax - 1) := by
      rw [← two_zpow_succ, sub_add_cancel]
    rw [f.le_magnitude_iff place]
    refine iff_of_false (not_le.mpr ?_) (not_le.mpr ?_)
    · linarith [two_zpow_le (j := f.lastPlace q - 1) (k := f.emax - 1) (by omega)]
    · linarith [two_zpow_le (j := f.emax - f.precision - 1) (k := f.emax - 1) (by omega)]
  · have place : f.lastPlace q = f.emax - f.precision := by
      unfold lastPlace
      omega
    rw [f.le_magnitude_iff (by omega), place]
  · have above : (2 : ℚ) ^ f.emax ≤ 2 ^ Int.log 2 |q| := two_zpow_le (by omega)
    refine iff_of_true (f.le_magnitude_of_log (by omega) lower) (le_trans ?_ lower)
    exact (sub_le_self _ (two_zpow_pos _).le).trans above

theorem Format.round_cases (f : Format) (q : ℚ) :
    ((2 : ℚ) ^ f.emax - 2 ^ (f.emax - f.precision - 1) ≤ |q| ∧ f.round q = .infinite) ∨
      (|q| < (2 : ℚ) ^ f.emax - 2 ^ (f.emax - f.precision - 1) ∧ ∃ v, f.round q = .finite v) := by
  unfold round
  split
  · next large => exact Or.inl ⟨overflows_iff.mp large, rfl⟩
  · next fits => exact Or.inr ⟨lt_of_not_ge fun h => fits (overflows_iff.mpr h), _, rfl⟩

/-! ## Literals -/

/-- The text with its underscores dropped, each of which stands between two digits. -/
def dropUnderscores : Char → Text → Option Text
  | prev, [] => if prev = '_' then none else some []
  | prev, '_' :: rest => if prev.isDigit then dropUnderscores '_' rest else none
  | prev, c :: rest =>
      if prev = '_' && !c.isDigit then none else (dropUnderscores c rest).map (c :: ·)

/-- An exponent, `e` and digits with a sign or without. -/
def exponent? : Text → Option ℤ
  | [] => some 0
  | e :: rest =>
      let number := fun (ds : Text) =>
        if !ds.isEmpty && ds.all Char.isDigit then some (Nat.ofDigitChars 10 ds 0 : ℤ) else none
      if e = 'e' || e = 'E' then
        match rest with
        | '-' :: ds => (number ds).map Neg.neg
        | '+' :: ds => number ds
        | ds => number ds
      else none

/-- An unsigned decimal literal: digits with a point among them or not, and an exponent. -/
def decimal? (s : Text) : Option ℚ :=
  let whole := s.takeWhile Char.isDigit
  let rest := s.dropWhile Char.isDigit
  let (places, rest) := match rest with
    | '.' :: rest => (rest.takeWhile Char.isDigit, rest.dropWhile Char.isDigit)
    | rest => ([], rest)
  if whole.isEmpty && places.isEmpty then none
  else (exponent? rest).map fun e : ℤ =>
    (Nat.ofDigitChars 10 (whole ++ places) 0 : ℚ) * 10 ^ (e - (places.length : ℤ))

def unsignedFloat? (s : Text) : Option FloatValue :=
  let word := s.map Char.toLower
  if word = "inf".toList || word = "infinity".toList then some .infinite
  else if word = "nan".toList then some .nan
  else (decimal? s).map binary64.round

/-- `-x`. -/
def negated : FloatValue → FloatValue
  | .finite q => .finite (-q)
  | x => x

/-- `float(s)`; `none` is its `ValueError`. -/
def float? (s : Text) : Option FloatValue :=
  match dropUnderscores ' ' ((stripNumber s).map asciiDecimal) with
  | some ('-' :: s) => (unsignedFloat? s).map negated
  | some ('+' :: s) => unsignedFloat? s
  | some s => unsignedFloat? s
  | none => none

/-- `float(n)`; an integer that is too large is refused. -/
def floatOfInt (n : ℤ) : Except PyError FloatValue :=
  match binary64.round n with
  | .infinite => .error ⟨.overflow, "int too large to convert to float"⟩
  | x => .ok x

/-- The least integer that is too large. -/
def floatLimit : ℤ := 2 ^ 1024 - 2 ^ 970

theorem floatOfInt_cases (n : ℤ) :
    (floatLimit ≤ |n| ∧
        floatOfInt n = .error ⟨.overflow, "int too large to convert to float"⟩) ∨
      (|n| < floatLimit ∧ ∃ v, floatOfInt n = .ok (.finite v)) := by
  have limit : (2 : ℚ) ^ binary64.emax - 2 ^ (binary64.emax - binary64.precision - 1) =
      (floatLimit : ℚ) := by
    have first : binary64.emax = ((1024 : ℕ) : ℤ) := rfl
    have second : binary64.emax - binary64.precision - 1 = ((970 : ℕ) : ℤ) := rfl
    rw [second, first, zpow_natCast, zpow_natCast, floatLimit, Int.cast_sub, Int.cast_pow,
      Int.cast_pow, Int.cast_ofNat]
  unfold floatOfInt
  rcases binary64.round_cases n with ⟨large, eq⟩ | ⟨fits, v, eq⟩
  · rw [limit] at large
    exact Or.inl ⟨by exact_mod_cast large, by rw [eq]⟩
  · rw [limit] at fits
    exact Or.inr ⟨by exact_mod_cast fits, v, by rw [eq]⟩

/-! ## Conversion -/

/-- `float(j)`. -/
def toFloat (P : Printable) : Json → Except PyError FloatValue
  | .bool b => .ok (.finite (if b then 1 else 0))
  | .int n => floatOfInt n
  | .float value _ => .ok value
  | .str s =>
      match float? s with
      | some value => .ok value
      | none => .error ⟨.value, "could not convert string to float: " ++
          String.ofList (PyText.repr P s)⟩
  | j => .error ⟨.type, s!"float() argument must be a string or a real number, not '{j.typeName}'"⟩

theorem round_of_floatOfInt {n : ℤ} {value : FloatValue} (h : floatOfInt n = .ok value) :
    binary64.round n = value := by
  unfold floatOfInt at h
  split at h
  · cases h
  · exact Except.ok.inj h

end PyFloat
