import GeneratorPi.Lib.PyText

/-!
# Python's `repr` of text

Text that holds single quotes and no double ones is quoted by double quotes, any other by single
ones.  The quote, backslashes, controls and what `str.isprintable` rejects are escaped, so the only
white space of a representation is the ASCII blank (`isSpace_of_mem_reprBody`).  A pattern of
literal characters begins the body of a representation exactly when it begins the text
(`literal_prefix_iff`).
-/

namespace PyText

/-- `str.isprintable` of the characters beyond ASCII, a table of the Unicode database; it holds no
separators. -/
structure Printable where
  isPrintable : Char → Bool
  not_space : ∀ c, isPrintable c → isSpace c = false

/-- The last `k` hexadecimal digits. -/
def hexDigits : ℕ → ℕ → Text
  | 0, _ => []
  | k + 1, n => hexDigits k (n / 16) ++ [Nat.digitChar (n % 16)]

/-- The quote `repr` chooses. -/
def reprQuote (s : Text) : Char := if '\'' ∈ s ∧ '"' ∉ s then '"' else '\''

/-- One character between the quotes. -/
def reprChar (P : Printable) (quote c : Char) : Text :=
  let n := c.toNat
  if c = quote ∨ c = '\\' then ['\\', c]
  else if c = '\t' then ['\\', 't']
  else if c = '\n' then ['\\', 'n']
  else if c = '\r' then ['\\', 'r']
  else if 32 ≤ n ∧ n < 127 ∨ 127 < n ∧ P.isPrintable c then [c]
  else if n < 0x100 then '\\' :: 'x' :: hexDigits 2 n
  else if n < 0x10000 then '\\' :: 'u' :: hexDigits 4 n
  else '\\' :: 'U' :: hexDigits 8 n

/-- What stands between the quotes. -/
def reprBody (P : Printable) (quote : Char) (s : Text) : Text := s.flatMap (reprChar P quote)

/-- `repr(s)`. -/
def repr (P : Printable) (s : Text) : Text :=
  reprQuote s :: (reprBody P (reprQuote s) s ++ [reprQuote s])

/-- ASCII that is shown as it is between these quotes. -/
def Literal (quote c : Char) : Prop :=
  (32 ≤ c.toNat ∧ c.toNat < 127) ∧ c ≠ quote ∧ c ≠ '\\'

instance (quote c : Char) : Decidable (Literal quote c) := inferInstanceAs (Decidable (_ ∧ _))

theorem reprQuote_cases (s : Text) : reprQuote s = '"' ∨ reprQuote s = '\'' := by
  unfold reprQuote
  split
  · exact Or.inl rfl
  · exact Or.inr rfl

theorem isSpace_reprQuote (s : Text) : isSpace (reprQuote s) = false := by
  rcases reprQuote_cases s with eq | eq <;> rw [eq] <;> decide

theorem isSpace_digitChar (n : ℕ) : isSpace (Nat.digitChar (n % 16)) = false := by
  have bound : n % 16 < 16 := Nat.mod_lt n (by omega)
  generalize n % 16 = d at bound
  revert d
  decide

theorem isSpace_of_mem_hexDigits {k n : ℕ} {c : Char} (h : c ∈ hexDigits k n) :
    isSpace c = false := by
  induction k generalizing n with
  | zero => cases h
  | succ k ih =>
      rcases List.mem_append.mp h with earlier | last
      · exact ih earlier
      · rw [List.mem_singleton.mp last]
        exact isSpace_digitChar n

/-- ASCII in the printable range is white space only as the blank. -/
theorem eq_blank_of_isSpace {c : Char} (range : 32 ≤ c.toNat ∧ c.toNat < 127)
    (space : isSpace c = true) : c = ' ' := by
  apply Char.toNat_inj.mp
  simp only [isSpace, Bool.or_eq_true, Bool.and_eq_true, decide_eq_true_eq, beq_iff_eq] at space
  have : c.toNat = 32 := by omega
  rw [this]
  decide

section Body

variable {P : Printable} {quote c : Char}

theorem reprChar_literal (h : Literal quote c) : reprChar P quote c = [c] := by
  obtain ⟨range, notQuote, notBackslash⟩ := h
  have notTab : c ≠ '\t' := by rintro rfl; exact absurd range (by decide)
  have notNewline : c ≠ '\n' := by rintro rfl; exact absurd range (by decide)
  have notReturn : c ≠ '\r' := by rintro rfl; exact absurd range (by decide)
  simp [reprChar, notQuote, notBackslash, notTab, notNewline, notReturn, range]

/-- A character is shown as itself, and is then no white space but the blank, or it is escaped. -/
theorem reprChar_cases (P : Printable) (c : Char) (plain : isSpace quote = false) :
    (reprChar P quote c = [c] ∧ c ≠ quote ∧ (isSpace c = true → c = ' ')) ∨
      (¬ Literal quote c ∧ ∃ rest, reprChar P quote c = '\\' :: rest ∧
        ∀ d ∈ rest, isSpace d = false) := by
  by_cases literal : Literal quote c
  · exact Or.inl ⟨reprChar_literal literal, literal.2.1, eq_blank_of_isSpace literal.1⟩
  · unfold reprChar
    dsimp only
    split
    next special =>
      refine Or.inr ⟨literal, [c], rfl, fun d hd => ?_⟩
      rw [List.mem_singleton.mp hd]
      rcases special with rfl | rfl
      · exact plain
      · decide
    next ordinary =>
      have notQuote : c ≠ quote := fun eq => ordinary (Or.inl eq)
      have escapes : ∀ {rest : Text}, (∀ d ∈ rest, isSpace d = false) →
          ∃ tail, '\\' :: rest = '\\' :: tail ∧ ∀ d ∈ tail, isSpace d = false :=
        fun h => ⟨_, rfl, h⟩
      have hex : ∀ {x : Char} {k : ℕ}, isSpace x = false →
          ∀ d ∈ x :: hexDigits k c.toNat, isSpace d = false := by
        intro x k hx d hd
        rcases List.mem_cons.mp hd with rfl | hd
        · exact hx
        · exact isSpace_of_mem_hexDigits hd
      split
      · exact Or.inr ⟨literal, escapes (List.forall_mem_singleton.mpr (by decide))⟩
      split
      · exact Or.inr ⟨literal, escapes (List.forall_mem_singleton.mpr (by decide))⟩
      split
      · exact Or.inr ⟨literal, escapes (List.forall_mem_singleton.mpr (by decide))⟩
      split
      next shown =>
        refine Or.inl ⟨rfl, notQuote, fun space => ?_⟩
        rcases shown with range | ⟨-, printable⟩
        · exact eq_blank_of_isSpace range space
        · rw [P.not_space c printable] at space
          cases space
      next =>
        refine Or.inr ⟨literal, ?_⟩
        split
        · exact escapes (hex (by decide))
        split
        · exact escapes (hex (by decide))
        · exact escapes (hex (by decide))

@[simp] theorem reprBody_nil : reprBody P quote [] = [] := rfl

theorem reprBody_cons (s : Text) :
    reprBody P quote (c :: s) = reprChar P quote c ++ reprBody P quote s := rfl

theorem reprBody_literal {start : Text} (h : ∀ c ∈ start, Literal quote c) (s : Text) :
    reprBody P quote (start ++ s) = start ++ reprBody P quote s := by
  induction start with
  | nil => rfl
  | cons c start ih =>
      rw [List.cons_append, reprBody_cons, reprChar_literal (h c List.mem_cons_self),
        ih fun d hd => h d (List.mem_cons_of_mem c hd)]
      rfl

/-- The only white space between the quotes is a blank of the text. -/
theorem isSpace_of_mem_reprBody {s : Text} (plain : isSpace quote = false) (blankless : ' ' ∉ s) :
    ∀ d ∈ reprBody P quote s, isSpace d = false := by
  intro d hd
  obtain ⟨c, mem, shown⟩ := List.mem_flatMap.mp hd
  rcases reprChar_cases P c plain with ⟨eq, -, blank⟩ | ⟨-, rest, eq, escaped⟩
  · rw [eq, List.mem_singleton] at shown
    subst shown
    by_contra space
    rw [blank (eq_true_of_ne_false space)] at mem
    exact blankless mem
  · rw [eq] at shown
    rcases List.mem_cons.mp shown with rfl | mem
    · decide
    · exact escaped d mem

/-- A literal pattern begins the body with its closing quote exactly when it begins the text. -/
theorem literal_prefix_iff {start s tail : Text} (h : ∀ c ∈ start, Literal quote c)
    (plain : isSpace quote = false) :
    start <+: reprBody P quote s ++ quote :: tail ↔ start <+: s := by
  constructor
  · induction start generalizing s with
    | nil => exact fun _ => List.nil_prefix
    | cons x start ih =>
        intro begins
        have literal := h x List.mem_cons_self
        cases s with
        | nil =>
            rw [reprBody_nil, List.nil_append, List.cons_prefix_cons] at begins
            exact absurd begins.1 literal.2.1
        | cons c s =>
            rw [reprBody_cons, List.append_assoc] at begins
            rcases reprChar_cases P c plain with ⟨eq, -, -⟩ | ⟨-, rest, eq, -⟩
            · rw [eq, List.singleton_append, List.cons_prefix_cons] at begins
              rw [List.cons_prefix_cons]
              exact ⟨begins.1, ih (fun d hd => h d (List.mem_cons_of_mem x hd)) begins.2⟩
            · rw [eq, List.cons_append, List.cons_prefix_cons] at begins
              exact absurd begins.1 literal.2.2
  · rintro ⟨rest, rfl⟩
    rw [reprBody_literal h, List.append_assoc]
    exact List.prefix_append _ _

end Body

end PyText
