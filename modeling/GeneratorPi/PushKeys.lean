import GeneratorPi.Lib.Base64
import GeneratorPi.Lib.PyText
import GeneratorPi.Lib.Utf8
import Mathlib

/-!
# The keys of Web Push as text

Keys travel as base 64 with the alphabet for URLs and no padding: the server's public key in the
settings file and in the state, the keys of a browser's subscription in its request.  The page reads
with `urlB64ToUint8` (`app.js`) and the `atob` of the browser, the server with `_b64url_decode`
(`genpi/store.py`) and Python's `binascii`, which reads one character at a time and ignores what is
not in the alphabet.

What is written reads back as it was on either side, and on the characters of both alphabets the two
sides read alike: any text but one with a single character left over (`keys_read_back`).
-/

namespace GeneratorPi.PushKeys

open Base64 PyText Utf8

/-- `'+'` and `'/'` in the alphabet for URLs. -/
def toUrl (c : Char) : Char := if c = '+' then '-' else if c = '/' then '_' else c

def fromUrl (c : Char) : Char := if c = '-' then '+' else if c = '_' then '/' else c

/-- How many `'='` complete `n` characters to a multiple of four. -/
def padding (n : ℕ) : ℕ := (4 - n % 4) % 4

/-- Base 64 as in RFC 4648, in the alphabet for URLs and without padding: what a browser writes, and
`_vapid_b64` of `config.py`. -/
def base64url (bs : Bytes) : Text := (sextets bs).map (toUrl ∘ symbol)

/-! ## The page (app.js) -/

/-- `length` of a string. -/
def utf16Length (s : Text) : ℕ := (s.map fun c => if c.toNat < 0x10000 then 1 else 2).sum

def isAsciiWhitespace (c : Char) : Bool :=
  c = ' ' || c = '\t' || c = '\n' || c = '\x0c' || c = '\r'

/-- One or two `'='` at the end are removed. -/
def dropPads (t : Text) : Text :=
  if t.getLast? = some '=' then
    if t.dropLast.getLast? = some '=' then t.dropLast.dropLast else t.dropLast
  else t

/-- `atob`; `none` is an `InvalidCharacterError`. -/
def atob (t : Text) : Option Bytes :=
  let data := t.filter (!isAsciiWhitespace ·)
  let data := if data.length % 4 = 0 then dropPads data else data
  if data.length % 4 = 1 then none else (data.mapM value?).bind octets

/-- `urlB64ToUint8` -/
def urlB64ToUint8 (base64 : Text) : Option Bytes :=
  atob ((base64 ++ List.replicate (padding (utf16Length base64)) '=').map fromUrl)

/-! ## The server (store.py) -/

/-- `binascii.a2b_base64`; `none` is a `binascii.Error`. -/
def a2b (t : Stream) (pads : ℕ) : Bytes → Option Bytes
  | [] => if t.pos.val = 0 then some [] else none
  | b :: rest =>
      if b = 61 then
        if 2 ≤ t.pos.val then if 4 ≤ t.pos.val + (pads + 1) then some [] else a2b t (pads + 1) rest
        else a2b t pads rest
      else
        match value? (Char.ofNat b.toNat) with
        | none => a2b t pads rest
        | some v => (a2b (t.feed v).2 0 rest).map ((t.feed v).1 ++ ·)

def urlByte (b : UInt8) : UInt8 := if b = 45 then 43 else if b = 95 then 47 else b

/-- `_b64url_decode` -/
def b64urlDecode (value : Text) : Option Bytes :=
  a2b .start 0 ((encode value ++ List.replicate (padding (encode value).length) 61).map urlByte)

/-! ## Characters of the alphabets -/

/-- In the alphabet for URLs, or in the other one. -/
def Spelled (c : Char) : Prop := (value? (fromUrl c)).isSome = true

variable {s : Text} {ls : List (Fin 64)} {c : Char}

theorem Spelled.cases (h : Spelled c) : c = '-' ∨ c = '_' ∨ ∃ i, c = symbol i := by
  obtain ⟨i, value⟩ := Option.isSome_iff_exists.1 h
  have same := symbol_of_value? value
  unfold fromUrl at same
  split at same
  next dash => exact Or.inl dash
  · split at same
    next underscore => exact Or.inr (Or.inl underscore)
    · exact Or.inr (Or.inr ⟨i, same.symm⟩)

theorem Spelled.ascii (h : Spelled c) : c.toNat < 128 := by
  rcases h.cases with rfl | rfl | ⟨i, rfl⟩
  · decide
  · decide
  · exact (symbol_plain i).2.2.2

theorem exists_groups (spelled : ∀ c ∈ s, Spelled c) :
    ∃ ls : List (Fin 64), s.map fromUrl = ls.map symbol := by
  induction s with
  | nil => exact ⟨[], rfl⟩
  | cons c s ih =>
      obtain ⟨ls, rest⟩ := ih fun d mem => spelled d (List.mem_cons_of_mem c mem)
      obtain ⟨i, value⟩ := Option.isSome_iff_exists.1 (spelled c List.mem_cons_self)
      exact ⟨i :: ls, by rw [List.map_cons, List.map_cons, rest, symbol_of_value? value]⟩

/-- A digit in the alphabet for URLs, and back. -/
theorem toUrl_symbol (i : Fin 64) :
    fromUrl (toUrl (symbol i)) = symbol i ∧
      ((toUrl (symbol i)).isAlphanum = true ∨ toUrl (symbol i) = '-' ∨ toUrl (symbol i) = '_') := by
  revert i
  decide +kernel

theorem spelled_toUrl (i : Fin 64) : Spelled (toUrl (symbol i)) := by
  rw [Spelled, (toUrl_symbol i).1, value?_symbol]
  rfl

/-! ## The page reads groups -/

theorem mapM_symbols (ls : List (Fin 64)) : (ls.map symbol).mapM value? = some ls := by
  induction ls with
  | nil => rfl
  | cons i ls ih => simp [ih]

theorem mapM_pad (ls : List (Fin 64)) : (ls.map symbol ++ ['=']).mapM value? = none := by
  induction ls with
  | nil =>
      have pad : value? '=' = none :=
        List.find?_eq_none.2 fun i _ => by simpa using (symbol_plain i).1
      rw [List.map_nil, List.nil_append, List.mapM_cons, pad]
      rfl
  | cons i ls ih => simp [ih]

theorem getLast?_symbols (ls : List (Fin 64)) : (ls.map symbol).getLast? ≠ some '=' := by
  rw [List.getLast?_map]
  intro h
  obtain ⟨i, -, same⟩ := Option.map_eq_some_iff.1 h
  exact (symbol_plain i).1 same

theorem dropPads_symbols (ls : List (Fin 64)) (k : ℕ) :
    dropPads (ls.map symbol ++ List.replicate k '=') =
      ls.map symbol ++ List.replicate (k - 2) '=' := by
  have plain := getLast?_symbols ls
  match k with
  | 0 => rw [dropPads, List.replicate_zero, List.append_nil, if_neg plain]
  | 1 => rw [dropPads, List.replicate_one, if_pos List.getLast?_concat, List.dropLast_concat,
      if_neg plain, Nat.sub_eq_zero_of_le (by decide), List.replicate_zero, List.append_nil]
  | k + 2 =>
      rw [dropPads, List.replicate_succ', List.replicate_succ', ← List.append_assoc,
        ← List.append_assoc, if_pos List.getLast?_concat, List.dropLast_concat,
        if_pos List.getLast?_concat, List.dropLast_concat]
      rfl

theorem not_whitespace (i : Fin 64) : (!isAsciiWhitespace (symbol i)) = true := by
  obtain ⟨-, space, feed, -⟩ := symbol_plain i
  simp only [Char.isWhitespace, Bool.or_eq_false_iff, decide_eq_false_iff_not] at space
  simp [isAsciiWhitespace, space, feed]

theorem filter_symbols (ls : List (Fin 64)) (k : ℕ) :
    (ls.map symbol ++ List.replicate k '=').filter (!isAsciiWhitespace ·) =
      ls.map symbol ++ List.replicate k '=' := by
  rw [List.filter_eq_self]
  intro c mem
  rcases List.mem_append.1 mem with mem | mem
  · obtain ⟨i, -, rfl⟩ := List.mem_map.1 mem
    exact not_whitespace i
  · rw [List.eq_of_mem_replicate mem]
    rfl

theorem atob_groups (ls : List (Fin 64)) :
    atob (ls.map symbol ++ List.replicate (padding ls.length) '=') = octets ls := by
  have whole : (ls.length + padding ls.length) % 4 = 0 := by
    rw [padding]
    omega
  rw [atob, filter_symbols]
  simp only [dropPads_symbols, List.length_append, List.length_map, List.length_replicate,
    if_pos whole]
  by_cases lone : ls.length % 4 = 1
  · have one : padding ls.length - 2 = 1 := by rw [padding]; omega
    rw [one, List.replicate_one, mapM_pad, octets_eq_none.2 lone]
    exact ite_self _
  · have none_left : padding ls.length - 2 = 0 := by rw [padding]; omega
    rw [none_left, Nat.add_zero, if_neg lone, List.replicate_zero, List.append_nil, mapM_symbols]
    rfl

theorem utf16Length_of_spelled (spelled : ∀ c ∈ s, Spelled c) : utf16Length s = s.length := by
  induction s with
  | nil => rfl
  | cons c s ih =>
      have small : c.toNat < 0x10000 :=
        Nat.lt_trans (spelled c List.mem_cons_self).ascii (by decide)
      have rest := ih fun d mem => spelled d (List.mem_cons_of_mem c mem)
      rw [utf16Length, List.map_cons, List.sum_cons, if_pos small, List.length_cons, Nat.add_comm]
      exact congrArg (· + 1) rest

theorem urlB64ToUint8_groups (spelled : ∀ c ∈ s, Spelled c)
    (groups : s.map fromUrl = ls.map symbol) :
    urlB64ToUint8 s = octets ls := by
  have length : s.length = ls.length := by simpa using congrArg List.length groups
  rw [urlB64ToUint8, utf16Length_of_spelled spelled, length, List.map_append, groups,
    List.map_replicate]
  exact atob_groups ls

/-! ## The server reads groups -/

/-- The byte of a character in the alphabet. -/
def symbolByte (i : Fin 64) : UInt8 := UInt8.ofNat (symbol i).toNat

theorem symbolByte_spec (i : Fin 64) :
    symbolByte i ≠ 61 ∧ value? (Char.ofNat (symbolByte i).toNat) = some i ∧
      fromUrl (symbol i) = symbol i ∧
        (String.utf8EncodeChar (symbol i)).map urlByte = [symbolByte i] := by
  revert i
  decide +kernel

theorem a2b_symbols (t : Stream) (ls : List (Fin 64)) (rest : Bytes) :
    a2b t 0 (ls.map symbolByte ++ rest) =
      (a2b (t.feedAll ls).2 0 rest).map ((t.feedAll ls).1 ++ ·) := by
  induction ls generalizing t with
  | nil => simp [Stream.feedAll]
  | cons i ls ih =>
      obtain ⟨data, value, -⟩ := symbolByte_spec i
      rw [List.map_cons, List.cons_append, a2b, if_neg data, value]
      simp only [ih, Option.map_map, Stream.feedAll]
      congr 1
      funext bs
      exact (List.append_assoc ..).symm

/-- The padding ends what may end. -/
theorem a2b_padding (t : Stream) :
    a2b t 0 (List.replicate (padding t.pos.val) 61) = if t.pos = 1 then none else some [] := by
  match t with
  | ⟨0, left⟩ => simp [a2b, padding]
  | ⟨1, left⟩ => simp [a2b, padding, List.replicate]
  | ⟨2, left⟩ => simp [a2b, padding, List.replicate]
  | ⟨3, left⟩ =>
      rw [show padding (Stream.mk 3 left).pos.val = 1 from rfl, List.replicate_one]
      exact if_pos rfl

theorem a2b_groups (ls : List (Fin 64)) :
    a2b {} 0 (ls.map symbolByte ++ List.replicate (padding ls.length) 61) = octets ls := by
  obtain ⟨pos, written⟩ := Stream.feedAll_eq 0 ls
  have same : padding ls.length = padding ((Stream.mk 0 0).feedAll ls).2.pos.val := by
    rw [pos, padding, padding, Nat.mod_mod]
  rw [a2b_symbols, same, a2b_padding]
  by_cases lone : ls.length % 4 = 1
  · rw [if_pos (Fin.ext (pos.trans lone)), octets_eq_none.2 lone]
    rfl
  · obtain ⟨bs, same⟩ := Option.ne_none_iff_exists'.1 (mt octets_eq_none.1 lone)
    rw [if_neg fun one => lone (by rw [← pos, one]; rfl), same, Option.map_some, written bs same,
      List.append_nil]

theorem symbol_injective {i j : Fin 64} (same : symbol i = symbol j) : i = j :=
  Option.some.inj (by rw [← value?_symbol, same, value?_symbol])

theorem urlByte_spelled {i : Fin 64} (h : Spelled c) (same : fromUrl c = symbol i) :
    (String.utf8EncodeChar c).map urlByte = [symbolByte i] := by
  rcases h.cases with rfl | rfl | ⟨j, rfl⟩
  · rw [← symbol_injective (show symbol 62 = symbol i by rw [← same]; decide)]
    decide
  · rw [← symbol_injective (show symbol 63 = symbol i by rw [← same]; decide)]
    decide
  · obtain ⟨-, -, fixed, bytes⟩ := symbolByte_spec j
    rw [fixed] at same
    rw [bytes, symbol_injective same]

theorem encode_spelled (spelled : ∀ c ∈ s, Spelled c) (groups : s.map fromUrl = ls.map symbol) :
    (encode s).map urlByte = ls.map symbolByte ∧ (encode s).length = ls.length := by
  induction s generalizing ls with
  | nil =>
      rw [List.map_nil, eq_comm, List.map_eq_nil_iff] at groups
      rw [groups]
      exact ⟨rfl, rfl⟩
  | cons c s ih =>
      cases ls with
      | nil => exact absurd groups (List.cons_ne_nil _ _)
      | cons i ls =>
          rw [List.map_cons, List.map_cons, List.cons.injEq] at groups
          obtain ⟨bytes, length⟩ :=
            ih (fun d mem => spelled d (List.mem_cons_of_mem c mem)) groups.2
          have byte := urlByte_spelled (spelled c List.mem_cons_self) groups.1
          have one : (String.utf8EncodeChar c).length = 1 := by
            simpa using congrArg List.length byte
          rw [encode_cons, List.map_append, byte, bytes, List.length_append, one, length]
          exact ⟨rfl, Nat.add_comm ..⟩

theorem b64urlDecode_groups (spelled : ∀ c ∈ s, Spelled c)
    (groups : s.map fromUrl = ls.map symbol) :
    b64urlDecode s = octets ls := by
  obtain ⟨bytes, length⟩ := encode_spelled spelled groups
  rw [b64urlDecode, length, List.map_append, bytes, List.map_replicate]
  exact a2b_groups ls

/-! ## Keys -/

theorem groups_base64url (bs : Bytes) :
    (∀ c ∈ base64url bs, Spelled c) ∧ (base64url bs).map fromUrl = (sextets bs).map symbol := by
  constructor
  · intro c mem
    obtain ⟨i, -, rfl⟩ := List.mem_map.1 mem
    exact spelled_toUrl i
  · rw [base64url, List.map_map]
    exact List.map_congr_left fun i _ => (toUrl_symbol i).1

/-- Every key is written in letters, digits, `'-'` and `'_'` and reads back on either side; and the
two sides read any text in these characters, `'+'` and `'/'` alike. -/
theorem keys_read_back (bs : Bytes) (spelled : ∀ c ∈ s, Spelled c) :
    (∀ c ∈ base64url bs, c.isAlphanum = true ∨ c = '-' ∨ c = '_') ∧
      urlB64ToUint8 (base64url bs) = some bs ∧ b64urlDecode (base64url bs) = some bs ∧
      urlB64ToUint8 s = b64urlDecode s ∧ (b64urlDecode s = none ↔ s.length % 4 = 1) := by
  obtain ⟨spelled', groups⟩ := groups_base64url bs
  obtain ⟨ls, read⟩ := exists_groups spelled
  have length : s.length = ls.length := by simpa using congrArg List.length read
  refine ⟨fun c mem => ?_, ?_, ?_, ?_, ?_⟩
  · obtain ⟨i, -, rfl⟩ := List.mem_map.1 mem
    exact (toUrl_symbol i).2
  · rw [urlB64ToUint8_groups spelled' groups, octets_sextets]
  · rw [b64urlDecode_groups spelled' groups, octets_sextets]
  · rw [urlB64ToUint8_groups spelled read, b64urlDecode_groups spelled read]
  · rw [b64urlDecode_groups spelled read, octets_eq_none, length]

theorem leftOver_unreadable :
    urlB64ToUint8 ['A', 'Q', 'I', '-', '_'] = b64urlDecode ['A', 'Q', 'I', '-', '_'] ∧
      b64urlDecode ['A', 'Q', 'I', '-', '_'] = none :=
  have spelled : (['A', 'Q', 'I', '-', '_'].all fun c => (value? (fromUrl c)).isSome) = true := by
    decide
  have read := (keys_read_back [] (List.all_eq_true.mp spelled)).2.2.2
  ⟨read.1, read.2.2 rfl⟩

end GeneratorPi.PushKeys
