import Mathlib.Data.List.Basic
import Mathlib.Data.Nat.Init

/-!
# UTF-8 with replacement, by lines

`bytes.decode("utf-8", "replace")`, as a machine that reads one byte at a time: a byte that does not
continue the character begun ends it with U+FFFD and is read again as a first byte.  A newline is
never part of another character, so decoding goes line by line (`splitOn_decode`).
-/

namespace Utf8

abbrev Bytes := List UInt8

/-- U+FFFD -/
def replacement : Char := '\ufffd'

/-- A character that has been begun. -/
structure Partial where
  /-- Bytes owed after the next one. -/
  more : ℕ
  lower : UInt8
  upper : UInt8
  value : ℕ
  continues : 0x80 ≤ lower
  /-- No byte sequence is longer than it needs to be. -/
  shortest : (if more = 0 then 0x80 else 2) ≤ value * 64 + (lower.toNat - 0x80)

/-- The first byte of a character of several bytes. -/
def opening (b : UInt8) : Option Partial :=
  if two : 0xc2 ≤ b ∧ b ≤ 0xdf then
    some ⟨0, 0x80, 0xbf, b.toNat - 0xc0, by decide, by
      have := UInt8.le_iff_toNat_le.mp two.1
      simp at this ⊢
      omega⟩
  else if b = 0xe0 then some ⟨1, 0xa0, 0xbf, 0, by decide, by decide⟩
  else if b = 0xed then some ⟨1, 0x80, 0x9f, 0xd, by decide, by decide⟩
  else if three : 0xe1 ≤ b ∧ b ≤ 0xef then
    some ⟨1, 0x80, 0xbf, b.toNat - 0xe0, by decide, by
      have := UInt8.le_iff_toNat_le.mp three.1
      simp at this ⊢
      omega⟩
  else if b = 0xf0 then some ⟨2, 0x90, 0xbf, 0, by decide, by decide⟩
  else if b = 0xf4 then some ⟨2, 0x80, 0x8f, 4, by decide, by decide⟩
  else if four : 0xf1 ≤ b ∧ b ≤ 0xf3 then
    some ⟨2, 0x80, 0xbf, b.toNat - 0xf0, by decide, by
      have := UInt8.le_iff_toNat_le.mp four.1
      simp at this ⊢
      omega⟩
  else none

/-- A byte where a character begins: what is written, and what has been begun. -/
def start (b : UInt8) : List Char × Option Partial :=
  if b < 0x80 then ([Char.ofNat b.toNat], none)
  else
    match opening b with
    | some p => ([], some p)
    | none => ([replacement], none)

/-- A byte that continues the character. -/
def Partial.next (p : Partial) (b : UInt8) (h : p.lower ≤ b) : List Char × Option Partial :=
  match eq : p.more with
  | 0 => ([Char.ofNat (p.value * 64 + (b.toNat - 0x80))], none)
  | more + 1 => ([], some ⟨more, 0x80, 0xbf, p.value * 64 + (b.toNat - 0x80), by decide, by
      have low := UInt8.le_iff_toNat_le.mp h
      have shortest := p.shortest
      rw [eq, if_neg (Nat.succ_ne_zero more)] at shortest
      split <;> simp <;> omega⟩)

def feed : Option Partial → UInt8 → List Char × Option Partial
  | none, b => start b
  | some p, b =>
      if h : p.lower ≤ b ∧ b ≤ p.upper then p.next b h.1
      else (replacement :: (start b).1, (start b).2)

/-- A character still begun at the end is replaced. -/
def flush : Option Partial → List Char
  | none => []
  | some _ => [replacement]

def decodeFrom (begun : Option Partial) : Bytes → List Char
  | [] => flush begun
  | b :: bs => (feed begun b).1 ++ decodeFrom (feed begun b).2 bs

/-- `bytes.decode("utf-8", "replace")`. -/
def decode (bs : Bytes) : List Char := decodeFrom none bs

/-! ## Newlines -/

theorem feed_some (p : Partial) (b : UInt8) :
    feed (some p) b =
      if h : p.lower ≤ b ∧ b ≤ p.upper then p.next b h.1
      else (replacement :: (start b).1, (start b).2) := rfl

theorem decodeFrom_cons (begun : Option Partial) (b : UInt8) (bs : Bytes) :
    decodeFrom begun (b :: bs) = (feed begun b).1 ++ decodeFrom (feed begun b).2 bs := rfl

theorem feed_newline (begun : Option Partial) : feed begun 10 = (flush begun ++ ['\n'], none) := by
  cases begun with
  | none => rfl
  | some p =>
      have stops : ¬ (p.lower ≤ 10 ∧ 10 ≤ p.upper) := fun h =>
        absurd (UInt8.le_trans p.continues h.1) (by decide)
      rw [feed_some, dif_neg stops]
      rfl

theorem decodeFrom_newline (begun : Option Partial) (a b : Bytes) :
    decodeFrom begun (a ++ 10 :: b) = decodeFrom begun a ++ '\n' :: decode b := by
  induction a generalizing begun with
  | nil =>
      rw [List.nil_append, decodeFrom_cons, feed_newline, List.append_assoc]
      rfl
  | cons x a ih =>
      rw [List.cons_append, decodeFrom_cons, decodeFrom_cons, ih, List.append_assoc]

theorem ofNat_ne_newline {v : ℕ} (other : v ≠ 10) : Char.ofNat v ≠ '\n' := by
  intro eq
  unfold Char.ofNat at eq
  by_cases valid : v.isValidChar
  · rw [dif_pos valid] at eq
    exact other (congrArg Char.toNat eq)
  · rw [dif_neg valid] at eq
    exact absurd eq (by decide)

theorem newline_not_mem_start {b : UInt8} (other : b ≠ 10) : '\n' ∉ (start b).1 := by
  have code : b.toNat ≠ 10 := fun eq => other (UInt8.toNat_inj.mp eq)
  unfold start
  split
  · rw [List.mem_singleton]
    exact (ofNat_ne_newline code).symm
  · split
    · exact List.not_mem_nil
    · decide

theorem newline_not_mem_next (p : Partial) {b : UInt8} (h : p.lower ≤ b) :
    '\n' ∉ (p.next b h).1 := by
  unfold Partial.next
  split
  next last =>
    have low := UInt8.le_iff_toNat_le.mp h
    have shortest := p.shortest
    rw [if_pos last] at shortest
    rw [List.mem_singleton]
    exact (ofNat_ne_newline (by omega)).symm
  next => exact List.not_mem_nil

theorem newline_not_mem_feed (begun : Option Partial) {b : UInt8} (other : b ≠ 10) :
    '\n' ∉ (feed begun b).1 := by
  cases begun with
  | none => exact newline_not_mem_start other
  | some p =>
      rw [feed_some]
      split
      next h => exact newline_not_mem_next p h.1
      next =>
        rw [List.mem_cons]
        rintro (eq | mem)
        · exact absurd eq (by decide)
        · exact newline_not_mem_start other mem

theorem newline_not_mem_decodeFrom (begun : Option Partial) {bs : Bytes} (h : 10 ∉ bs) :
    '\n' ∉ decodeFrom begun bs := by
  induction bs generalizing begun with
  | nil =>
      cases begun with
      | none => exact List.not_mem_nil
      | some p =>
          have only : decodeFrom (some p) [] = [replacement] := rfl
          rw [only]
          decide
  | cons b bs ih =>
      rw [List.mem_cons, not_or] at h
      rw [decodeFrom_cons, List.mem_append, not_or]
      exact ⟨newline_not_mem_feed begun (Ne.symm h.1), ih _ h.2⟩

/-! ## Lines -/

/-- The lines that are ended by a newline. -/
def completeLines (bs : Bytes) : List Bytes := (bs.splitOn 10).dropLast

/-- `bytes.rfind(b"\n")`. -/
def rfindNewline : Bytes → Option ℕ
  | [] => none
  | b :: bs =>
      match rfindNewline bs with
      | some i => some (i + 1)
      | none => if b = 10 then some 0 else none

theorem rfindNewline_eq_none {bs : Bytes} : rfindNewline bs = none ↔ 10 ∉ bs := by
  induction bs with
  | nil => simp [rfindNewline]
  | cons b bs ih =>
      unfold rfindNewline
      split
      next i found =>
        have mem : 10 ∈ bs := by
          by_contra absent
          rw [ih.mpr absent] at found
          cases found
        simp [mem]
      next missing =>
        have absent := ih.mp missing
        by_cases newline : b = 10
        · simp [newline]
        · simp [newline, absent, Ne.symm newline]

/-- The last newline ends the complete lines. -/
theorem eq_of_rfindNewline {bs : Bytes} {i : ℕ} (h : rfindNewline bs = some i) :
    bs = bs.take i ++ 10 :: bs.drop (i + 1) ∧ 10 ∉ bs.drop (i + 1) := by
  induction bs generalizing i with
  | nil => cases h
  | cons b bs ih =>
      unfold rfindNewline at h
      split at h
      next j found =>
        cases h
        rcases ih found with ⟨split, clear⟩
        refine ⟨?_, clear⟩
        rw [List.take_succ_cons, List.cons_append, List.drop_succ_cons, ← split]
      next missing =>
        split at h
        next newline =>
          cases h
          exact ⟨by simp [newline], rfindNewline_eq_none.mp missing⟩
        next => cases h

theorem completeLines_of_not_mem {bs : Bytes} (h : 10 ∉ bs) : completeLines bs = [] := by
  unfold completeLines
  rw [List.splitOn_eq_singleton h]
  rfl

theorem completeLines_of_rfindNewline {bs : Bytes} {i : ℕ} (h : rfindNewline bs = some i) :
    completeLines bs = (bs.take i).splitOn 10 := by
  rcases eq_of_rfindNewline h with ⟨split, clear⟩
  unfold completeLines
  conv_lhs => rw [split]
  rw [List.splitOn_append_cons_self, List.splitOn_eq_singleton clear, List.dropLast_concat]

theorem completeLines_append {a : Bytes} (ends : a = [] ∨ a.getLast? = some 10) (b : Bytes) :
    completeLines (a ++ b) = completeLines a ++ completeLines b := by
  rcases ends with rfl | newline
  · rfl
  · obtain ⟨front, rfl⟩ := List.getLast?_eq_some_iff.mp newline
    rw [completeLines, List.append_assoc, List.singleton_append, List.splitOn_append_cons_self,
      List.dropLast_append_of_ne_nil (List.splitOn_ne_nil _ _), completeLines,
      List.splitOn_append_cons_self, List.splitOn_nil, List.dropLast_concat, completeLines]

/-- Decoding goes line by line. -/
theorem splitOn_decode (bs : Bytes) : (decode bs).splitOn '\n' = (bs.splitOn 10).map decode := by
  by_cases newline : 10 ∈ bs
  · rcases List.append_of_mem newline with ⟨a, b, eq⟩
    have left := splitOn_decode a
    have right := splitOn_decode b
    have decoded : decode bs = decode a ++ '\n' :: decode b := by
      rw [eq]
      exact decodeFrom_newline none a b
    rw [decoded, eq, List.splitOn_append_cons_self, List.splitOn_append_cons_self, List.map_append,
      left, right]
  · have plain : '\n' ∉ decode bs := newline_not_mem_decodeFrom none newline
    rw [List.splitOn_eq_singleton newline, List.splitOn_eq_singleton plain]
    rfl
termination_by bs.length
decreasing_by
  · rw [eq, List.length_append, List.length_cons]
    omega
  · rw [eq, List.length_append, List.length_cons]
    omega

theorem getElem?_of_rfindNewline {bs : Bytes} {i : ℕ} (h : rfindNewline bs = some i) :
    bs[i]? = some 10 := by
  induction bs generalizing i with
  | nil => cases h
  | cons b bs ih =>
      unfold rfindNewline at h
      split at h
      next j found =>
        cases h
        rw [List.getElem?_cons_succ]
        exact ih found
      next =>
        split at h
        next newline =>
          cases h
          rw [newline]
          rfl
        next => cases h

/-! ## Encoding -/

/-- `str.encode("utf-8")`. -/
def encode (t : List Char) : Bytes := t.flatMap String.utf8EncodeChar

@[simp] theorem encode_append (t u : List Char) : encode (t ++ u) = encode t ++ encode u :=
  List.flatMap_append

theorem encode_cons (c : Char) (t : List Char) :
    encode (c :: t) = String.utf8EncodeChar c ++ encode t := rfl

theorem encode_injective : Function.Injective encode := by
  intro t u same
  have bytes : t.utf8Encode = u.utf8Encode := congrArg List.toByteArray same
  have decoded := congrArg ByteArray.utf8Decode? bytes
  simpa using decoded

end Utf8
