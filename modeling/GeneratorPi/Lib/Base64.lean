import Mathlib.Data.List.Basic

/-!
# Base 64

Bytes as groups of six bits, three bytes as four groups and a rest of one or two bytes as two or
three (`sextets`), and back (`octets`).  A decoder that takes one group at a time and holds the
bits that it has not written (`Stream`) writes the same bytes (`Stream.feed_eq`).
-/

namespace Base64

/-! ## Groups of six bits -/

def sextet (n : ℕ) : Fin 64 := Fin.ofNat 64 n

def sextets : List UInt8 → List (Fin 64)
  | a :: b :: c :: bs =>
      sextet (a.toNat / 4) :: sextet (a.toNat % 4 * 16 + b.toNat / 16) ::
        sextet (b.toNat % 16 * 4 + c.toNat / 64) :: sextet (c.toNat % 64) :: sextets bs
  | [a, b] =>
      [sextet (a.toNat / 4), sextet (a.toNat % 4 * 16 + b.toNat / 16), sextet (b.toNat % 16 * 4)]
  | [a] => [sextet (a.toNat / 4), sextet (a.toNat % 4 * 16)]
  | [] => []

/-- The first, the second and the third byte of four groups. -/
def octet₁ (p q : Fin 64) : UInt8 := UInt8.ofNat (p.val * 4 + q.val / 16)

def octet₂ (q r : Fin 64) : UInt8 := UInt8.ofNat (q.val % 16 * 16 + r.val / 4)

def octet₃ (r s : Fin 64) : UInt8 := UInt8.ofNat (r.val % 4 * 64 + s.val)

/-- A single group that is left over holds no byte. -/
def octets : List (Fin 64) → Option (List UInt8)
  | p :: q :: r :: s :: ls => (octets ls).map ([octet₁ p q, octet₂ q r, octet₃ r s] ++ ·)
  | [p, q, r] => some [octet₁ p q, octet₂ q r]
  | [p, q] => some [octet₁ p q]
  | [_] => none
  | [] => some []

theorem val_sextet {n : ℕ} (small : n < 64) : (sextet n).val = n := Nat.mod_eq_of_lt small

theorem eq_ofNat {a : UInt8} {n : ℕ} (same : n = a.toNat) : UInt8.ofNat n = a := by
  rw [same, UInt8.ofNat_toNat]

theorem octet₁_sextet (a : UInt8) {n : ℕ} (high : n < 64) (same : n / 16 = a.toNat % 4) :
    octet₁ (sextet (a.toNat / 4)) (sextet n) = a := by
  have := a.toNat_lt
  rw [octet₁, val_sextet high, val_sextet (by omega)]
  exact eq_ofNat (by omega)

theorem octet₂_sextet (b : UInt8) {m n : ℕ} (left : m < 64) (right : n < 64)
    (high : m % 16 = b.toNat / 16) (low : n / 4 = b.toNat % 16) :
    octet₂ (sextet m) (sextet n) = b := by
  have := b.toNat_lt
  rw [octet₂, val_sextet left, val_sextet right]
  exact eq_ofNat (by omega)

theorem octet₃_sextet (c : UInt8) {m : ℕ} (left : m < 64) (high : m % 4 = c.toNat / 64) :
    octet₃ (sextet m) (sextet (c.toNat % 64)) = c := by
  have := c.toNat_lt
  rw [octet₃, val_sextet left, val_sextet (by omega)]
  exact eq_ofNat (by omega)

theorem octets_sextets (bs : List UInt8) : octets (sextets bs) = some bs := by
  induction bs using sextets.induct with
  | case1 a b c bs ih =>
      have := a.toNat_lt
      have := b.toNat_lt
      have := c.toNat_lt
      rw [sextets, octets, ih, Option.map_some, octet₁_sextet a (by omega) (by omega),
        octet₂_sextet b (by omega) (by omega) (by omega) (by omega),
        octet₃_sextet c (by omega) (by omega)]
      rfl
  | case2 a b =>
      have := a.toNat_lt
      have := b.toNat_lt
      rw [sextets, octets, octet₁_sextet a (by omega) (by omega),
        octet₂_sextet b (by omega) (by omega) (by omega) (by omega)]
  | case3 a =>
      have := a.toNat_lt
      rw [sextets, octets, octet₁_sextet a (by omega) (by omega)]
  | case4 => rfl

theorem length_add_four (p q r s : Fin 64) (ls : List (Fin 64)) :
    (p :: q :: r :: s :: ls).length % 4 = ls.length % 4 := by
  simp only [List.length_cons]
  omega

theorem octets_eq_none {ls : List (Fin 64)} : octets ls = none ↔ ls.length % 4 = 1 := by
  induction ls using octets.induct with
  | case1 p q r s ls ih => rw [octets, Option.map_eq_none_iff, ih, length_add_four]
  | case2 p q r => simp [octets]
  | case3 p q => simp [octets]
  | case4 p => simp [octets]
  | case5 => simp [octets]

/-! ## The alphabet -/

def symbols : List Char :=
  "ABCDEFGHIJKLMNOPQRSTUVWXYZabcdefghijklmnopqrstuvwxyz0123456789+/".toList

def symbol (i : Fin 64) : Char := symbols.getD i.val 'A'

def value? (c : Char) : Option (Fin 64) := (List.finRange 64).find? (symbol · = c)

@[simp] theorem value?_symbol (i : Fin 64) : value? (symbol i) = some i := by
  revert i
  decide +kernel

theorem symbol_of_value? {c : Char} {i : Fin 64} (h : value? c = some i) : symbol i = c := by
  have found := List.find?_some h
  exact of_decide_eq_true found

theorem symbol_plain (i : Fin 64) :
    symbol i ≠ '=' ∧ (symbol i).isWhitespace = false ∧ symbol i ≠ '\x0c' ∧
    (symbol i).toNat < 128 := by
  revert i
  decide +kernel

/-! ## One group at a time -/

/-- How many groups of the four have come, and the bits of the last that belong to the next byte. -/
structure Stream where
  pos : Fin 4 := 0
  left : ℕ := 0

def Stream.start : Stream := {}

/-- The bytes that a group completes. -/
def Stream.feed (t : Stream) (v : Fin 64) : List UInt8 × Stream :=
  match t.pos with
  | 0 => ([], ⟨1, v.val⟩)
  | 1 => ([UInt8.ofNat (t.left * 4 + v.val / 16)], ⟨2, v.val % 16⟩)
  | 2 => ([UInt8.ofNat (t.left * 16 + v.val / 4)], ⟨3, v.val % 4⟩)
  | 3 => ([UInt8.ofNat (t.left * 64 + v.val)], ⟨0, 0⟩)

def Stream.feedAll (t : Stream) : List (Fin 64) → List UInt8 × Stream
  | [] => ([], t)
  | v :: vs => ((t.feed v).1 ++ ((t.feed v).2.feedAll vs).1, ((t.feed v).2.feedAll vs).2)

/-- The stream writes the bytes of the groups, and stands where the last four groups end. -/
theorem Stream.feedAll_eq (left : ℕ) (ls : List (Fin 64)) :
    ((Stream.mk 0 left).feedAll ls).2.pos.val = ls.length % 4 ∧
      ∀ bs, octets ls = some bs → ((Stream.mk 0 left).feedAll ls).1 = bs := by
  induction ls using octets.induct generalizing left with
  | case1 p q r s ls ih =>
      obtain ⟨pos, written⟩ := ih 0
      refine ⟨?_, fun bs same => ?_⟩
      · rw [length_add_four]
        exact pos
      · rw [octets, Option.map_eq_some_iff] at same
        obtain ⟨rest, same, rfl⟩ := same
        simp only [Stream.feedAll, Stream.feed, written rest same]
        rfl
  | case2 p q r => exact ⟨rfl, fun bs same => Option.some.inj same⟩
  | case3 p q => exact ⟨rfl, fun bs same => Option.some.inj same⟩
  | case4 p => exact ⟨rfl, fun bs same => (nomatch same)⟩
  | case5 => exact ⟨rfl, fun bs same => Option.some.inj same⟩

end Base64
