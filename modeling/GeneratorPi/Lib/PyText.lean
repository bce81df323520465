import Mathlib.Data.Nat.Init
import Mathlib.Data.List.Basic
import Mathlib.Data.List.DropRight

/-!
# Python text

Text is a list of characters.  `strip`, `splitlines` and `int` follow Python's `str.strip`,
`str.splitlines` and `int(str)`, with the decimal digits of Unicode 14.
-/

namespace PyText

abbrev Text := List Char

/-! ## White space -/

/-- `str.isspace` of one character. -/
def isSpace (c : Char) : Bool :=
  let n := c.toNat
  (9 ≤ n && n ≤ 13) || (28 ≤ n && n ≤ 32) || n == 0x85 || n == 0xa0 || n == 0x1680 ||
    (0x2000 ≤ n && n ≤ 0x200a) || n == 0x2028 || n == 0x2029 || n == 0x202f || n == 0x205f ||
    n == 0x3000

/-- The form in which a fact about all characters is computed. -/
theorem any_eq_false_iff {p : Char → Bool} {s : Text} :
    s.any p = false ↔ ∀ c ∈ s, p c = false := by
  simp only [List.any_eq_false, Bool.not_eq_true]

def lstrip (s : Text) : Text := s.dropWhile isSpace

def rstrip (s : Text) : Text := (s.reverse.dropWhile isSpace).reverse

/-- `str.strip()`. -/
def strip (s : Text) : Text := rstrip (lstrip s)

theorem lstrip_eq_self {s : Text} (h : ∀ c ∈ s.head?, isSpace c = false) : lstrip s = s := by
  cases s with
  | nil => rfl
  | cons c rest => simp [lstrip, h c rfl]

theorem rstrip_eq_self {s : Text} (h : ∀ c ∈ s.getLast?, isSpace c = false) : rstrip s = s := by
  have head : ∀ c ∈ s.reverse.head?, isSpace c = false := by simpa using h
  have same := lstrip_eq_self head
  rw [lstrip] at same
  rw [rstrip, same, List.reverse_reverse]

/-- Neither the first nor the last character is white space. -/
structure Trimmed (s : Text) : Prop where
  head : ∀ c ∈ s.head?, isSpace c = false
  last : ∀ c ∈ s.getLast?, isSpace c = false

theorem Trimmed.strip_eq {s : Text} (h : Trimmed s) : strip s = s := by
  rw [strip, lstrip_eq_self h.head, rstrip_eq_self h.last]

theorem Trimmed.of_all {s : Text} (h : ∀ c ∈ s, isSpace c = false) : Trimmed s where
  head c hc := h c (List.mem_of_mem_head? hc)
  last c hc := h c (List.mem_of_mem_getLast? hc)

theorem strip_eq_self {s : Text} (h : ∀ c ∈ s, isSpace c = false) : strip s = s :=
  (Trimmed.of_all h).strip_eq

theorem Trimmed.append {s t : Text} (hs : Trimmed s) (ht : Trimmed t) : Trimmed (s ++ t) where
  head c hc := by
    rw [List.head?_append, Option.mem_def, Option.or_eq_some_iff] at hc
    rcases hc with first | ⟨-, first⟩
    · exact hs.head c first
    · exact ht.head c first
  last c hc := by
    rw [List.getLast?_append, Option.mem_def, Option.or_eq_some_iff] at hc
    rcases hc with last | ⟨-, last⟩
    · exact ht.last c last
    · exact hs.last c last

theorem trimmed_strip (s : Text) : Trimmed (strip s) where
  head c hc := by
    have start : strip s <+: lstrip s := List.rdropWhile_prefix isSpace _
    have first : (lstrip s).head? = some c := by
      obtain ⟨spaces, eq⟩ := start
      rw [← eq, List.head?_append, hc]
      rfl
    have outside := List.head?_dropWhile_not isSpace s
    rw [lstrip] at first
    rw [first] at outside
    exact outside
  last c hc := by
    have nonempty : strip s ≠ [] := by
      rintro empty
      rw [empty] at hc
      cases hc
    have outside := List.rdropWhile_last_not isSpace (lstrip s) nonempty
    rw [Option.mem_def, List.getLast?_eq_getLast_of_ne_nil nonempty, Option.some.injEq] at hc
    rw [← hc]
    exact eq_false_of_ne_true outside

theorem strip_append_of_space {a s : Text} (h : ∀ c ∈ a, isSpace c) : strip (a ++ s) = strip s := by
  rw [strip, strip, lstrip, List.dropWhile_append_of_pos h]
  rfl

/-- A text is its stripped part between white space. -/
theorem exists_strip (s : Text) :
    ∃ a b, s = a ++ (strip s ++ b) ∧ ∀ c ∈ a, isSpace c := by
  obtain ⟨b, eq⟩ : strip s <+: lstrip s := List.rdropWhile_prefix isSpace _
  refine ⟨s.takeWhile isSpace, b, ?_, fun c hc => List.mem_takeWhile_imp hc⟩
  rw [eq]
  exact List.takeWhile_append_dropWhile.symm

theorem rstrip_append (a b : Text) :
    rstrip (a ++ b) = if rstrip b = [] then rstrip a else a ++ rstrip b := by
  have blank : (b.reverse.dropWhile isSpace).isEmpty = true ↔ rstrip b = [] := by
    rw [List.isEmpty_iff, rstrip, List.reverse_eq_nil_iff]
  rw [rstrip, List.reverse_append, List.dropWhile_append]
  split
  case isTrue empty =>
    rw [if_pos (blank.mp empty)]
    rfl
  case isFalse some_text =>
    rw [if_neg (mt blank.mpr some_text), List.reverse_append, List.reverse_reverse]
    rfl

theorem rstrip_rstrip (s : Text) : rstrip (rstrip s) = rstrip s := by
  refine rstrip_eq_self fun c last => ?_
  rw [rstrip, List.getLast?_reverse] at last
  have outside := List.head?_dropWhile_not isSpace s.reverse
  rw [Option.mem_def] at last
  rw [last] at outside
  exact outside

/-! ## Splitting -/

theorem not_mem_of_mem_splitOn {s piece : Text} {c : Char} (h : piece ∈ s.splitOn c) :
    c ∉ piece := by
  induction s generalizing piece with
  | nil => simp_all
  | cons x xs ih =>
      rw [List.splitOn_cons_eq_if_modifyHead] at h
      split at h
      · rcases List.mem_cons.mp h with rfl | later
        · exact List.not_mem_nil
        · exact ih later
      · next other =>
          obtain ⟨first, rest, pieces⟩ := List.exists_cons_of_ne_nil (List.splitOn_ne_nil c xs)
          rw [pieces, List.modifyHead_cons] at h
          rcases List.mem_cons.mp h with rfl | later
          · have firstFree := ih (pieces ▸ List.mem_cons_self)
            rw [List.mem_cons]
            rintro (rfl | mem)
            · exact other (by simp)
            · exact firstFree mem
          · exact ih (pieces ▸ List.mem_cons_of_mem _ later)

theorem subset_of_mem_splitOn {s piece : Text} {c : Char} (h : piece ∈ s.splitOn c) :
    piece ⊆ s := by
  induction s generalizing piece with
  | nil => simp_all
  | cons x xs ih =>
      rw [List.splitOn_cons_eq_if_modifyHead] at h
      split at h
      · rcases List.mem_cons.mp h with rfl | later
        · exact List.nil_subset _
        · exact List.subset_cons_of_subset x (ih later)
      · obtain ⟨first, rest, pieces⟩ := List.exists_cons_of_ne_nil (List.splitOn_ne_nil c xs)
        rw [pieces, List.modifyHead_cons] at h
        rcases List.mem_cons.mp h with rfl | later
        · exact List.cons_subset_cons x (ih (pieces ▸ List.mem_cons_self))
        · exact List.subset_cons_of_subset x (ih (pieces ▸ List.mem_cons_of_mem _ later))

/-- The last piece ends the text. -/
theorem suffix_of_getLast?_splitOn {s piece : Text} {c : Char}
    (h : (s.splitOn c).getLast? = some piece) : piece <:+ s := by
  have joined : ∀ {pieces : List Text}, pieces.getLast? = some piece →
      piece <:+ [c].intercalate pieces := by
    intro pieces last
    induction pieces with
    | nil => cases last
    | cons first rest ih =>
        cases rest with
        | nil =>
            cases last
            rw [List.intercalate_singleton]
            exact List.suffix_refl _
        | cons next later =>
            rw [List.intercalate_cons_cons]
            exact (ih (by simpa using last)).trans (List.suffix_append _ _)
  have suffix := joined h
  rwa [List.intercalate_splitOn] at suffix

/-- What is put behind a text is put behind its last piece. -/
theorem splitOn_append_of_not_mem {s t piece : Text} {c : Char} {front : List Text}
    (h : s.splitOn c = front ++ [piece]) (free : c ∉ t) :
    (s ++ t).splitOn c = front ++ [piece ++ t] := by
  have joined (pieces : List Text) (last : Text) :
      [c].intercalate (pieces ++ [last]) ++ t = [c].intercalate (pieces ++ [last ++ t]) := by
    induction pieces with
    | nil => simp
    | cons first rest ih =>
        obtain ⟨next, later, split⟩ := List.exists_cons_of_ne_nil
          (List.append_ne_nil_of_right_ne_nil rest (List.cons_ne_nil last []))
        obtain ⟨next', later', split'⟩ := List.exists_cons_of_ne_nil
          (List.append_ne_nil_of_right_ne_nil rest (List.cons_ne_nil (last ++ t) []))
        rw [split, split'] at ih
        rw [List.cons_append, List.cons_append, split, split', List.intercalate_cons_cons,
          List.intercalate_cons_cons, List.append_assoc, List.append_assoc, ih, List.append_assoc]
  have whole : s ++ t = [c].intercalate (front ++ [piece ++ t]) := by
    rw [← joined, ← h, List.intercalate_splitOn]
  rw [whole]
  refine List.splitOn_intercalate c (fun part mem => ?_) (by simp)
  have pieces (part : Text) (mem : part ∈ front ++ [piece]) : c ∉ part :=
    not_mem_of_mem_splitOn (h ▸ mem)
  rcases List.mem_append.mp mem with inFront | isLast
  · exact pieces part (List.mem_append_left _ inFront)
  · rw [List.mem_singleton.mp isLast, List.mem_append, not_or]
    exact ⟨pieces piece (List.mem_append_right _ List.mem_cons_self), free⟩

/-! ## Lines -/

/-- A character at which `str.splitlines` ends a line. -/
def isLineBreak (c : Char) : Bool :=
  let n := c.toNat
  (10 ≤ n && n ≤ 13) || (28 ≤ n && n ≤ 30) || n == 0x85 || n == 0x2028 || n == 0x2029

/-- `str.splitlines()`. -/
def splitlines : Text → List Text
  | [] => []
  | '\r' :: '\n' :: rest => [] :: splitlines rest
  | c :: rest =>
      if isLineBreak c then [] :: splitlines rest
      else
        match splitlines rest with
        | [] => [[c]]
        | line :: lines => (c :: line) :: lines

/-- `"\n".join(lines) + "\n"`. -/
def joinLines (lines : List Text) : Text := ['\n'].intercalate lines ++ ['\n']

/-- No character of the line would end it. -/
def OneLine (line : Text) : Prop := ∀ c ∈ line, isLineBreak c = false

instance (line : Text) : Decidable (OneLine line) :=
  decidable_of_iff (line.any isLineBreak = false) any_eq_false_iff

theorem isSpace_of_isLineBreak {c : Char} (h : isLineBreak c) : isSpace c := by
  simp only [isLineBreak, isSpace, Bool.or_eq_true, Bool.and_eq_true, decide_eq_true_eq,
    beq_iff_eq] at h ⊢
  omega

theorem OneLine.append {a b : Text} (ha : OneLine a) (hb : OneLine b) : OneLine (a ++ b) :=
  fun c hc => (List.mem_append.mp hc).elim (ha c) (hb c)

theorem OneLine.of_no_space {line : Text} (h : ∀ c ∈ line, isSpace c = false) : OneLine line := by
  intro c hc
  by_contra isBreak
  have space := isSpace_of_isLineBreak (eq_true_of_ne_false isBreak)
  rw [h c hc] at space
  cases space

theorem oneLine_of_mem_splitlines {s line : Text} (h : line ∈ splitlines s) : OneLine line := by
  induction s using splitlines.induct generalizing line with
  | case1 => cases h
  | case2 rest ih =>
      rw [splitlines] at h
      rcases List.mem_cons.mp h with rfl | later
      · exact fun _ hc => nomatch hc
      · exact ih later
  | case3 c rest other isBreak ih =>
      rw [splitlines.eq_3 c rest other, if_pos isBreak] at h
      rcases List.mem_cons.mp h with rfl | later
      · exact fun _ hc => nomatch hc
      · exact ih later
  | case4 c rest other plain last ih =>
      rw [splitlines.eq_3 c rest other, if_neg plain, last] at h
      rw [List.mem_singleton.mp h]
      intro d hd
      rw [List.mem_singleton.mp hd]
      exact eq_false_of_ne_true plain
  | case5 c rest other plain first lines split ih =>
      rw [splitlines.eq_3 c rest other, if_neg plain, split] at h
      rcases List.mem_cons.mp h with rfl | later
      · intro d hd
        rcases List.mem_cons.mp hd with rfl | inFirst
        · exact eq_false_of_ne_true plain
        · exact ih (split ▸ List.mem_cons_self) d inFirst
      · exact ih (split ▸ List.mem_cons_of_mem _ later)

theorem splitlines_append {line rest : Text} (h : OneLine line) :
    splitlines (line ++ '\n' :: rest) = line :: splitlines rest := by
  induction line with
  | nil => rfl
  | cons c line ih =>
      have plain : isLineBreak c = false := h c List.mem_cons_self
      have other : c ≠ '\r' := by
        rintro rfl
        cases plain
      have step := ih fun d hd => h d (List.mem_cons_of_mem _ hd)
      rw [List.cons_append, splitlines.eq_3 _ _ fun _ isReturn => absurd isReturn other, step]
      simp [plain]

/-- Lines that are joined are found again; of none, one that is empty. -/
theorem splitlines_joinLines {lines : List Text} (h : ∀ line ∈ lines, OneLine line) :
    splitlines (joinLines lines) = if lines = [] then [[]] else lines := by
  induction lines with
  | nil => rfl
  | cons line rest ih =>
      rw [if_neg (List.cons_ne_nil _ _)]
      have first := h line List.mem_cons_self
      cases rest with
      | nil =>
          rw [joinLines, List.intercalate_singleton]
          exact splitlines_append first
      | cons next later =>
          have split := ih fun l hl => h l (List.mem_cons_of_mem _ hl)
          rw [if_neg (List.cons_ne_nil _ _), joinLines] at split
          rw [joinLines, List.intercalate_cons_cons, List.append_assoc, List.append_assoc,
            List.singleton_append, splitlines_append first, split]

theorem splitlines_ne_nil {s : Text} (some_text : s ≠ []) : splitlines s ≠ [] := by
  cases s using splitlines.induct with
  | case1 => exact absurd rfl some_text
  | case2 rest => exact List.cons_ne_nil _ _
  | case3 c rest other isBreak =>
      rw [splitlines.eq_3 c rest other, if_pos isBreak]
      exact List.cons_ne_nil _ _
  | case4 c rest other plain last =>
      rw [splitlines.eq_3 c rest other, if_neg plain, last]
      exact List.cons_ne_nil _ _
  | case5 c rest other plain first lines split =>
      rw [splitlines.eq_3 c rest other, if_neg plain, split]
      exact List.cons_ne_nil _ _

/-- What begins no `\r\n` begins none when more text follows it. -/
theorem not_crlf_append {c : Char} {s t : Text}
    (other : ∀ rest, c = '\r' → s = '\n' :: rest → False) (more : c = '\r' → s ≠ []) :
    ∀ rest, c = '\r' → s ++ t = '\n' :: rest → False := by
  intro rest isReturn same
  cases s with
  | nil => exact more isReturn rfl
  | cons d s =>
      cases same
      exact other s isReturn rfl

/-- A newline ends a line, whatever else is in the text. -/
theorem splitlines_append_newline (s rest : Text) :
    splitlines (s ++ '\n' :: rest) = splitlines (s ++ ['\n']) ++ splitlines rest := by
  induction s using splitlines.induct with
  | case1 => rfl
  | case2 s ih =>
      rw [List.cons_append, List.cons_append, List.cons_append, List.cons_append, splitlines,
        splitlines, ih, List.cons_append]
  | case3 c s other isBreak ih =>
      by_cases crlf : c = '\r' ∧ s = []
      · obtain ⟨rfl, rfl⟩ := crlf
        rfl
      · have more : c = '\r' → s ≠ [] := fun isReturn empty => crlf ⟨isReturn, empty⟩
        rw [List.cons_append, List.cons_append, splitlines.eq_3 _ _ (not_crlf_append other more),
          splitlines.eq_3 _ _ (not_crlf_append other more), if_pos isBreak, if_pos isBreak, ih,
          List.cons_append]
  | case4 c s other plain last ih | case5 c s other plain _ _ last ih =>
      have more : c = '\r' → s ≠ [] := by
        rintro rfl
        exact absurd rfl plain
      obtain ⟨first, lines, split⟩ := List.exists_cons_of_ne_nil
        (splitlines_ne_nil (List.append_ne_nil_of_right_ne_nil s (List.cons_ne_nil '\n' [])))
      rw [List.cons_append, List.cons_append, splitlines.eq_3 _ _ (not_crlf_append other more),
        splitlines.eq_3 _ _ (not_crlf_append other more), if_neg plain, if_neg plain, ih, split]
      rfl

/-- Lines, each ended by a newline. -/
def endLines (lines : List Text) : Text := lines.flatMap (· ++ ['\n'])

theorem splitlines_endLines_cons (line : Text) (lines : List Text) :
    splitlines (endLines (line :: lines)) =
      splitlines (line ++ ['\n']) ++ splitlines (endLines lines) := by
  rw [endLines, List.flatMap_cons, List.append_assoc, List.singleton_append,
    splitlines_append_newline, endLines]

theorem splitlines_endLines_append (lines more : List Text) :
    splitlines (endLines (lines ++ more)) =
      splitlines (endLines lines) ++ splitlines (endLines more) := by
  induction lines with
  | nil => rfl
  | cons line lines ih =>
      rw [List.cons_append, splitlines_endLines_cons, splitlines_endLines_cons, ih,
        List.append_assoc]

theorem length_le_splitlines_endLines (lines : List Text) :
    lines.length ≤ (splitlines (endLines lines)).length := by
  induction lines with
  | nil => exact Nat.zero_le _
  | cons line lines ih =>
      have first := List.length_pos_iff.mpr
        (splitlines_ne_nil (List.append_ne_nil_of_right_ne_nil line (List.cons_ne_nil '\n' [])))
      rw [splitlines_endLines_cons, List.length_append, List.length_cons]
      omega

/-- `splitlines` finds the lines as they were ended exactly if none holds a line break. -/
theorem splitlines_endLines_iff (lines : List Text) :
    splitlines (endLines lines) = lines ↔ ∀ line ∈ lines, OneLine line := by
  constructor
  · intro same line mem
    rw [← same] at mem
    exact oneLine_of_mem_splitlines mem
  · intro whole
    induction lines with
    | nil => rfl
    | cons line lines ih =>
        have first : splitlines (line ++ ['\n']) = [line] :=
          splitlines_append (whole line List.mem_cons_self)
        rw [splitlines_endLines_cons, first, ih fun l mem => whole l (List.mem_cons_of_mem _ mem)]
        rfl

theorem endLines_eq_joinLines {lines : List Text} (some_line : lines ≠ []) :
    endLines lines = joinLines lines := by
  induction lines with
  | nil => exact absurd rfl some_line
  | cons line rest ih =>
      cases rest with
      | nil => rw [endLines, joinLines, List.flatMap_singleton, List.intercalate_singleton]
      | cons next later =>
          have tail := ih (List.cons_ne_nil _ _)
          rw [joinLines] at tail
          rw [endLines, List.flatMap_cons, ← endLines, tail, joinLines,
            List.intercalate_cons_cons, List.append_assoc, List.append_assoc, List.append_assoc]

/-- The text up to its last newline is its lines but the last piece, each ended. -/
theorem rdropWhile_newline (s : Text) :
    s.rdropWhile (· != '\n') = endLines (s.splitOn '\n').dropLast := by
  induction s using List.reverseRecOn with
  | nil => rfl
  | append_singleton s c ih =>
      by_cases newline : c = '\n'
      · have joined : ['\n'].intercalate (s.splitOn '\n') = s := List.intercalate_splitOn _
        rw [newline, List.rdropWhile_concat_neg _ _ _ (by decide), List.splitOn_append_cons_self,
          List.splitOn_nil, List.dropLast_concat, endLines_eq_joinLines (List.splitOn_ne_nil _ _),
          joinLines, joined]
      · have pieces := (List.dropLast_append_getLast (List.splitOn_ne_nil '\n' s)).symm
        have free : '\n' ∉ [c] := by
          rw [List.mem_singleton]
          exact Ne.symm newline
        rw [List.rdropWhile_concat_pos _ _ _ (by simpa using newline), ih,
          splitOn_append_of_not_mem pieces free, List.dropLast_concat]

/-! ## Integers -/

/-- The zeros of the decimal digits beyond ASCII; the other nine digits follow each. -/
def decimalZeros : List ℕ :=
  [0x660, 0x6f0, 0x7c0, 0x966, 0x9e6, 0xa66, 0xae6, 0xb66, 0xbe6, 0xc66, 0xce6, 0xd66, 0xde6,
    0xe50, 0xed0, 0xf20, 0x1040, 0x1090, 0x17e0, 0x1810, 0x1946, 0x19d0, 0x1a80, 0x1a90, 0x1b50,
    0x1bb0, 0x1c40, 0x1c50, 0xa620, 0xa8d0, 0xa900, 0xa9d0, 0xa9f0, 0xaa50, 0xabf0, 0xff10,
    0x104a0, 0x10d30, 0x11066, 0x110f0, 0x11136, 0x111d0, 0x112f0, 0x11450, 0x114d0, 0x11650,
    0x116c0, 0x11730, 0x118e0, 0x11950, 0x11c50, 0x11d50, 0x11da0, 0x16a60, 0x16ac0, 0x16b50,
    0x1d7ce, 0x1d7d8, 0x1d7e2, 0x1d7ec, 0x1d7f6, 0x1e140, 0x1e2f0, 0x1e950, 0x1fbf0]

/-- The ASCII digit of a decimal digit; any other character is kept. -/
def asciiDecimal (c : Char) : Char :=
  if c.toNat < 128 then c
  else
    match decimalZeros.find? fun z => z ≤ c.toNat && c.toNat < z + 10 with
    | some z => Char.ofNat ('0'.toNat + (c.toNat - z))
    | none => c

/-- The digits of an unsigned literal, single underscores between them dropped. -/
def digits? (s : Text) : Option Text :=
  let groups := s.splitOn '_'
  if groups.all fun g => !g.isEmpty && g.all Char.isDigit then some groups.flatten else none

/-- An unsigned literal of at most `limit` digits. -/
def natural? (limit : ℕ) (s : Text) : Option ℕ :=
  match digits? s with
  | some ds => if ds.length ≤ limit then some (Nat.ofDigitChars 10 ds 0) else none
  | none => none

/-- The white space that `int` and `float` pass over, which is not all that `strip` removes:
U+001C to U+001F count as characters of the literal. -/
def isNumberSpace (c : Char) : Bool := isSpace c && !(28 ≤ c.toNat && c.toNat ≤ 31)

/-- The literal between white space. -/
def stripNumber (s : Text) : Text :=
  ((s.dropWhile isNumberSpace).reverse.dropWhile isNumberSpace).reverse

theorem stripNumber_eq_self {s : Text} (h : ∀ c ∈ s, isSpace c = false) : stripNumber s = s := by
  have outside : ∀ c ∈ s, isNumberSpace c = false := fun c mem => by
    rw [isNumberSpace, h c mem, Bool.false_and]
  have first : s.dropWhile isNumberSpace = s := by
    cases s with
    | nil => rfl
    | cons c s => exact List.dropWhile_cons_of_neg (by simpa using outside c List.mem_cons_self)
  have last : s.reverse.dropWhile isNumberSpace = s.reverse := by
    cases back : s.reverse with
    | nil => rfl
    | cons c rest =>
        have mem : c ∈ s := List.mem_reverse.mp (back ▸ List.mem_cons_self)
        exact List.dropWhile_cons_of_neg (by simpa using outside c mem)
  rw [stripNumber, first, last, List.reverse_reverse]

/-- `sys.int_info.default_max_str_digits`: `int` refuses longer strings of digits. -/
def intMaxStrDigits : ℕ := 4300

/-- `int(s)`; `none` is its `ValueError`. -/
def int? (limit : ℕ) (s : Text) : Option ℤ :=
  match (stripNumber s).map asciiDecimal with
  | '-' :: rest => (natural? limit rest).map fun n => -(n : ℤ)
  | '+' :: rest => (natural? limit rest).map Int.ofNat
  | rest => (natural? limit rest).map Int.ofNat

theorem isSpace_of_isDigit {c : Char} (h : c.isDigit) : isSpace c = false := by
  have bounds : 48 ≤ c.toNat ∧ c.toNat ≤ 57 := by
    simp only [Char.isDigit, Bool.and_eq_true, decide_eq_true_eq, ge_iff_le,
      UInt32.le_iff_toNat_le] at h
    exact h
  simp only [isSpace, Bool.or_eq_false_iff, Bool.and_eq_false_iff, decide_eq_false_iff_not,
    beq_eq_false_iff_ne]
  omega

theorem asciiDecimal_of_ascii {c : Char} (h : c.toNat < 128) : asciiDecimal c = c := if_pos h

theorem map_asciiDecimal {s : Text} (h : ∀ c ∈ s, c.toNat < 128) : s.map asciiDecimal = s := by
  rw [List.map_congr_left fun c hc => asciiDecimal_of_ascii (h c hc), List.map_id']

theorem toNat_lt_of_isDigit {c : Char} (h : c.isDigit) : c.toNat < 128 := by
  simp only [Char.isDigit, Bool.and_eq_true, decide_eq_true_eq, ge_iff_le,
    UInt32.le_iff_toNat_le] at h
  exact Nat.lt_of_le_of_lt h.2 (by decide)

theorem digits?_of_digits {s : Text} (some_digit : s ≠ []) (h : ∀ c ∈ s, c.isDigit) :
    digits? s = some s := by
  have plain : '_' ∉ s := fun mem => absurd (h '_' mem) (by decide)
  simp [digits?, List.splitOn_eq_singleton plain, some_digit, List.all_eq_true.mpr h]

/-- A string of digits is read as the number it spells, unless it has too many of them. -/
theorem int?_of_digits {limit : ℕ} {s : Text} (some_digit : s ≠ []) (h : ∀ c ∈ s, c.isDigit) :
    int? limit s =
      if s.length ≤ limit then some (Nat.ofDigitChars 10 s 0 : ℤ) else none := by
  have stripped : stripNumber s = s := stripNumber_eq_self fun c hc => isSpace_of_isDigit (h c hc)
  have read : natural? limit s =
      if s.length ≤ limit then some (Nat.ofDigitChars 10 s 0) else none := by
    simp [natural?, digits?_of_digits some_digit h]
  rw [int?, stripped, map_asciiDecimal fun c hc => toNat_lt_of_isDigit (h c hc)]
  split
  · exact absurd (h '-' (by simp)) (by decide)
  · exact absurd (h '+' (by simp)) (by decide)
  · rw [read]
    split <;> rfl

/-- A letter is not part of a number. -/
theorem int?_cons_v (limit : ℕ) {s : Text} (h : ∀ c ∈ s, c.isDigit) :
    int? limit ('v' :: s) = none := by
  have stripped : stripNumber ('v' :: s) = 'v' :: s := by
    refine stripNumber_eq_self fun c hc => ?_
    rcases List.mem_cons.mp hc with rfl | hc
    · decide
    · exact isSpace_of_isDigit (h c hc)
  have plain : '_' ∉ 'v' :: s := by
    rw [List.mem_cons]
    rintro (eq | mem)
    · exact absurd eq (by decide)
    · exact absurd (h '_' mem) (by decide)
  have read : digits? ('v' :: s) = none := by
    simp [digits?, List.splitOn_eq_singleton plain]
  have ascii : ∀ c ∈ 'v' :: s, c.toNat < 128 := by
    intro c hc
    rcases List.mem_cons.mp hc with rfl | hc
    · decide
    · exact toNat_lt_of_isDigit (h c hc)
  rw [int?, stripped, map_asciiDecimal ascii]
  simp [natural?, read]

/-! ## Decimal digits -/

/-- `\d` -/
def isDecimal (c : Char) : Bool := (asciiDecimal c).isDigit

theorem isSpace_of_isDecimal {c : Char} (h : isDecimal c) : isSpace c = false := by
  refine eq_false_of_ne_true fun space => ?_
  have apart : ∀ n ∈ [9, 10, 11, 12, 13, 28, 29, 30, 31, 32, 0x85, 0xa0, 0x1680, 0x2000, 0x2001,
      0x2002, 0x2003, 0x2004, 0x2005, 0x2006, 0x2007, 0x2008, 0x2009, 0x200a, 0x2028, 0x2029,
      0x202f, 0x205f, 0x3000], isDecimal (Char.ofNat n) = false := by decide
  have listed :
    c.toNat ∈ [9, 10, 11, 12, 13, 28, 29, 30, 31, 32, 0x85, 0xa0, 0x1680, 0x2000, 0x2001,
      0x2002, 0x2003, 0x2004, 0x2005, 0x2006, 0x2007, 0x2008, 0x2009, 0x200a, 0x2028, 0x2029,
      0x202f, 0x205f, 0x3000] := by
    simp only [isSpace, Bool.or_eq_true, Bool.and_eq_true, decide_eq_true_eq, beq_iff_eq] at space
    simp only [List.mem_cons, List.not_mem_nil, or_false]
    omega
  have never := apart c.toNat listed
  rw [Char.ofNat_toNat] at never
  rw [never] at h
  cases h

/-- A string of decimal digits is read as the number it spells, unless it has too many of them. -/
theorem int?_of_decimals {limit : ℕ} {p : Text} (some_digit : p ≠ []) (h : ∀ c ∈ p, isDecimal c) :
    int? limit p =
      if p.length ≤ limit then some (Nat.ofDigitChars 10 (p.map asciiDecimal) 0 : ℤ) else none := by
  have digits : ∀ c ∈ p.map asciiDecimal, c.isDigit := by
    intro c mem
    obtain ⟨d, of_p, rfl⟩ := List.mem_map.mp mem
    exact h d of_p
  have stripped : stripNumber p = p :=
    stripNumber_eq_self fun c mem => isSpace_of_isDecimal (h c mem)
  have strippedDigits : stripNumber (p.map asciiDecimal) = p.map asciiDecimal :=
    stripNumber_eq_self fun c mem => isSpace_of_isDigit (digits c mem)
  have same : int? limit p = int? limit (p.map asciiDecimal) := by
    rw [int?, int?, stripped, strippedDigits,
      map_asciiDecimal fun c mem => toNat_lt_of_isDigit (digits c mem)]
  rw [same, int?_of_digits (by simpa using some_digit) digits, List.length_map]

end PyText
