import Mathlib.Data.List.Basic
import Mathlib.Data.Option.Basic
import GeneratorPi.Lib.PyText

/-!
# JSON objects of strings

`loads` reads the text of a JSON object whose values are strings, as a strict reader does: a
control character inside a string is refused.  `write` puts members out between quotes as they
stand.  A text written so is read back exactly when no control character is in it
(`loads_write_iff`), as long as nothing in it would have needed an escape.
-/

namespace JsonStrings

open PyText

def isSpace (c : Char) : Bool := c = ' ' || c = '\t' || c = '\n' || c = '\r'

def skip : Text → Text := List.dropWhile isSpace

/-- The escapes of one character. -/
def unescape : Char → Option Char
  | '"' => some '"'
  | '\\' => some '\\'
  | '/' => some '/'
  | 'b' => some '\x08'
  | 'f' => some '\x0c'
  | 'n' => some '\n'
  | 'r' => some '\r'
  | 't' => some '\t'
  | _ => none

/-- A string whose opening quote has been read, and what stands behind its closing quote. -/
def scanString : Text → Option (Text × Text)
  | [] => none
  | '"' :: rest => some ([], rest)
  | ['\\'] => none
  | '\\' :: c :: rest => do
      let plain ← unescape c
      let (s, rest) ← scanString rest
      some (plain :: s, rest)
  | c :: rest => do
      guard (' ' ≤ c)
      let (s, rest) ← scanString rest
      some (c :: s, rest)

def scanQuoted : Text → Option (Text × Text)
  | '"' :: rest => scanString rest
  | _ => none

/-- A key, a colon and a value. -/
def scanMember (t : Text) : Option ((Text × Text) × Text) := do
  let (key, rest) ← scanQuoted t
  match skip rest with
  | ':' :: rest =>
      let (value, rest) ← scanQuoted (skip rest)
      some ((key, value), skip rest)
  | _ => none

def scanMembers : ℕ → Text → Option (List (Text × Text) × Text)
  | 0, _ => none
  | fuel + 1, t => do
      let (member, rest) ← scanMember t
      match rest with
      | '}' :: rest => some ([member], rest)
      | ',' :: rest =>
          let (members, rest) ← scanMembers fuel (skip rest)
          some (member :: members, rest)
      | _ => none

/-- What stands behind the opening brace. -/
def scanObject (t : Text) : Option (List (Text × Text) × Text) :=
  match t with
  | '}' :: rest => some ([], rest)
  | t => scanMembers t.length t

/-- The members of an object of strings, in order; `none` for any other text. -/
def loads (t : Text) : Option (List (Text × Text)) :=
  match skip t with
  | '{' :: rest =>
      (scanObject (skip rest)).bind fun (members, rest) =>
        if skip rest = [] then some members else none
  | _ => none

/-! ## Writing -/

def quote (t : Text) : Text := '"' :: (t ++ ['"'])

def writeMember (m : Text × Text) : Text := quote m.1 ++ ':' :: quote m.2

def writeMembers : List (Text × Text) → Text
  | [] => []
  | [m] => writeMember m
  | m :: ms => writeMember m ++ ',' :: writeMembers ms

def write (ms : List (Text × Text)) : Text := '{' :: (writeMembers ms ++ ['}'])

/-- Nothing that has to be escaped for its syntax. -/
def Verbatim (t : Text) : Prop := ∀ c ∈ t, c ≠ '"' ∧ c ≠ '\\'

/-- No control character. -/
def Printing (t : Text) : Prop := ∀ c ∈ t, ' ' ≤ c

variable {t u rest : Text} {c : Char}

/-- The text stands for itself between quotes. -/
def Plain (t : Text) : Prop := Verbatim t ∧ Printing t

theorem plain_of_all (h : t.all (fun c => c ≠ '"' ∧ c ≠ '\\' ∧ ' ' ≤ c) = true) : Plain t := by
  have each : ∀ c ∈ t, c ≠ '"' ∧ c ≠ '\\' ∧ ' ' ≤ c := by simpa using h
  exact ⟨fun c mem => ⟨(each c mem).1, (each c mem).2.1⟩, fun c mem => (each c mem).2.2⟩

theorem Verbatim.append (left : Verbatim t) (right : Verbatim u) : Verbatim (t ++ u) := fun c mem =>
  (List.mem_append.mp mem).elim (left c) (right c)

theorem Printing.append (left : Printing t) (right : Printing u) : Printing (t ++ u) := fun c mem =>
  (List.mem_append.mp mem).elim (left c) (right c)

theorem scanString_cons (quote : c ≠ '"') (backslash : c ≠ '\\') :
    scanString (c :: rest) =
      (guard (' ' ≤ c) : Option Unit).bind fun _ =>
        (scanString rest).bind fun s => some (c :: s.1, s.2) := by
  cases rest with
  | nil => exact scanString.eq_5 c [] quote (fun eq _ => backslash eq) nofun
  | cons d rest => exact scanString.eq_5 c (d :: rest) quote nofun fun _ _ eq _ => backslash eq

/-- A string put out as it stands is read back. -/
theorem scanString_append (verbatim : Verbatim t) (printing : Printing t) (rest : Text) :
    scanString (t ++ '"' :: rest) = some (t, rest) := by
  induction t with
  | nil => rfl
  | cons c t ih =>
      have tail := ih (fun d mem => verbatim d (List.mem_cons_of_mem _ mem))
        fun d mem => printing d (List.mem_cons_of_mem _ mem)
      obtain ⟨quote, backslash⟩ := verbatim c List.mem_cons_self
      rw [List.cons_append, scanString_cons quote backslash, tail, guard,
        if_pos (printing c List.mem_cons_self)]
      rfl

/-- A control character ends the reading. -/
theorem scanString_eq_none (verbatim : Verbatim t) (control : ¬ Printing t) (rest : Text) :
    scanString (t ++ rest) = none := by
  induction t with
  | nil => exact absurd (fun c mem => (nomatch mem)) control
  | cons c t ih =>
      obtain ⟨quote, backslash⟩ := verbatim c List.mem_cons_self
      rw [List.cons_append, scanString_cons quote backslash]
      by_cases here : ' ' ≤ c
      · have later : ¬ Printing t := fun printing => control fun d mem => by
          rcases List.mem_cons.mp mem with rfl | mem
          · exact here
          · exact printing d mem
        rw [ih (fun d mem => verbatim d (List.mem_cons_of_mem _ mem)) later, guard, if_pos here]
        rfl
      · rw [guard, if_neg here]
        rfl

/-! ## Reading back -/

/-- A member, every part of it without syntax to escape. -/
def Verbatims (ms : List (Text × Text)) : Prop := ∀ m ∈ ms, Verbatim m.1 ∧ Verbatim m.2

def Printings (ms : List (Text × Text)) : Prop := ∀ m ∈ ms, Printing m.1 ∧ Printing m.2

theorem skip_cons (solid : isSpace c = false) : skip (c :: rest) = c :: rest := by
  simp [skip, solid]

theorem scanMember_append {m : Text × Text} (key : Verbatim m.1 ∧ Printing m.1)
    (value : Verbatim m.2 ∧ Printing m.2) (rest : Text) :
    scanMember (writeMember m ++ rest) = some (m, skip rest) := by
  have text : writeMember m ++ rest =
      '"' :: (m.1 ++ '"' :: ':' :: '"' :: (m.2 ++ '"' :: rest)) := by
    simp [writeMember, quote]
  rw [text, scanMember, scanQuoted, scanString_append key.1 key.2]
  simp only [Option.bind_eq_bind, Option.bind_some, skip_cons (show isSpace ':' = false by decide),
    skip_cons (show isSpace '"' = false by decide), scanQuoted, scanString_append value.1 value.2]

/-- A member with a control character is not read. -/
theorem scanMember_eq_none {m : Text × Text} (verbatim : Verbatim m.1 ∧ Verbatim m.2)
    (control : ¬ (Printing m.1 ∧ Printing m.2)) (rest : Text) :
    scanMember (writeMember m ++ rest) = none := by
  have text : writeMember m ++ rest =
      '"' :: (m.1 ++ '"' :: ':' :: '"' :: (m.2 ++ '"' :: rest)) := by
    simp [writeMember, quote]
  rw [text, scanMember, scanQuoted]
  by_cases key : Printing m.1
  · have value : ¬ Printing m.2 := fun h => control ⟨key, h⟩
    rw [scanString_append verbatim.1 key]
    simp only [Option.bind_eq_bind, Option.bind_some,
      skip_cons (show isSpace ':' = false by decide),
      skip_cons (show isSpace '"' = false by decide), scanQuoted,
      scanString_eq_none verbatim.2 value, Option.bind_none]
  · rw [scanString_eq_none verbatim.1 key]
    rfl

theorem writeMembers_cons (m n : Text × Text) (ms : List (Text × Text)) :
    writeMembers (m :: n :: ms) = writeMember m ++ ',' :: writeMembers (n :: ms) := rfl

/-- The members begin with a quote. -/
theorem exists_writeMembers_eq (m : Text × Text) (ms : List (Text × Text)) :
    ∃ tail, writeMembers (m :: ms) = '"' :: tail := by
  cases ms with
  | nil => exact ⟨_, rfl⟩
  | cons n ms => exact ⟨_, rfl⟩

theorem skip_writeMembers (m : Text × Text) (ms : List (Text × Text)) (rest : Text) :
    skip (writeMembers (m :: ms) ++ rest) = writeMembers (m :: ms) ++ rest := by
  obtain ⟨tail, eq⟩ := exists_writeMembers_eq m ms
  rw [eq, List.cons_append, skip_cons (show isSpace '"' = false by decide)]

/-- Written members are read back one by one; at the first control character the reading ends. -/
theorem printings_cons {m : Text × Text} {ms : List (Text × Text)} :
    Printings (m :: ms) ↔ (Printing m.1 ∧ Printing m.2) ∧ Printings ms := List.forall_mem_cons

theorem scanMembers_write {ms : List (Text × Text)} (some_member : ms ≠ [])
    (verbatims : Verbatims ms) {fuel : ℕ} (enough : ms.length ≤ fuel) (rest : Text) :
    (Printings ms → scanMembers fuel (writeMembers ms ++ '}' :: rest) = some (ms, rest)) ∧
      (¬ Printings ms → scanMembers fuel (writeMembers ms ++ '}' :: rest) = none) := by
  induction ms generalizing fuel with
  | nil => exact absurd rfl some_member
  | cons m ms ih =>
      obtain ⟨fuel, rfl⟩ : ∃ k, fuel = k + 1 := ⟨fuel - 1, by simp at enough; omega⟩
      have verbatim := verbatims m List.mem_cons_self
      cases ms with
      | nil =>
          have one : writeMembers [m] = writeMember m := rfl
          rw [one, scanMembers]
          constructor
          · intro printings
            obtain ⟨⟨key, value⟩, -⟩ := printings_cons.mp printings
            rw [scanMember_append ⟨verbatim.1, key⟩ ⟨verbatim.2, value⟩,
              skip_cons (show isSpace '}' = false by decide)]
            rfl
          · intro control
            have here : ¬ (Printing m.1 ∧ Printing m.2) := fun h =>
              control (printings_cons.mpr ⟨h, fun _ mem => (nomatch mem)⟩)
            rw [scanMember_eq_none verbatim here]
            rfl
      | cons n ms =>
          have enough_left : (n :: ms).length ≤ fuel := by
            simp only [List.length_cons] at enough ⊢
            omega
          have rest_read := ih (List.cons_ne_nil _ _)
            (fun m mem => verbatims m (List.mem_cons_of_mem _ mem)) enough_left
          rw [writeMembers_cons, List.append_assoc, List.cons_append, scanMembers]
          by_cases here : Printing m.1 ∧ Printing m.2
          · rw [scanMember_append ⟨verbatim.1, here.1⟩ ⟨verbatim.2, here.2⟩,
              skip_cons (show isSpace ',' = false by decide)]
            simp only [Option.bind_eq_bind, Option.bind_some, skip_writeMembers]
            constructor
            · intro printings
              rw [rest_read.1 (printings_cons.mp printings).2]
              rfl
            · intro control
              rw [rest_read.2 fun h => control (printings_cons.mpr ⟨here, h⟩)]
              rfl
          · rw [scanMember_eq_none verbatim here]
            exact ⟨fun printings => absurd (printings_cons.mp printings).1 here, fun _ => rfl⟩

theorem length_le_length_writeMembers (ms : List (Text × Text)) :
    ms.length ≤ (writeMembers ms).length := by
  induction ms with
  | nil => exact Nat.zero_le _
  | cons m ms ih =>
      cases ms with
      | nil => simp [writeMembers, writeMember, quote]
      | cons n ms =>
          rw [writeMembers_cons, List.length_append, List.length_cons (a := ',')]
          exact Nat.succ_le_of_lt (Nat.lt_of_lt_of_le (Nat.lt_succ_of_le ih) (Nat.le_add_left _ _))

theorem loads_write_cons (m : Text × Text) (ms : List (Text × Text)) (line : Text) :
    loads (write (m :: ms) ++ line) =
      (scanMembers (writeMembers (m :: ms) ++ '}' :: line).length
        (writeMembers (m :: ms) ++ '}' :: line)).bind fun (members, rest) =>
          if skip rest = [] then some members else none := by
  have text : write (m :: ms) ++ line = '{' :: (writeMembers (m :: ms) ++ '}' :: line) := by
    simp [write]
  have opened : ∀ t, loads ('{' :: t) = (scanObject (skip t)).bind fun (members, rest) =>
    if skip rest = [] then some members else none := fun _ => rfl
  have members : scanObject (writeMembers (m :: ms) ++ '}' :: line) =
      scanMembers (writeMembers (m :: ms) ++ '}' :: line).length
        (writeMembers (m :: ms) ++ '}' :: line) := by
    obtain ⟨tail, eq⟩ := exists_writeMembers_eq m ms
    rw [eq]
    rfl
  rw [text, opened, skip_writeMembers, members]

/-- A written line is read back as its members, or not at all. -/
theorem loads_write_iff {ms : List (Text × Text)} (some_member : ms ≠ [])
    (verbatims : Verbatims ms) :
    loads (write ms ++ ['\n']) = some ms ↔ Printings ms := by
  obtain ⟨m, ms, rfl⟩ := List.exists_cons_of_ne_nil some_member
  have fuel : (m :: ms).length ≤ (writeMembers (m :: ms) ++ '}' :: ['\n']).length := by
    rw [List.length_append]
    exact Nat.le_trans (length_le_length_writeMembers _) (Nat.le_add_right _ _)
  obtain ⟨back, refused⟩ := scanMembers_write some_member verbatims fuel ['\n']
  have ends : skip ['\n'] = [] := by decide
  rw [loads_write_cons]
  by_cases printings : Printings (m :: ms)
  · rw [back printings, Option.bind_some]
    exact iff_of_true (if_pos ends) printings
  · rw [refused printings]
    exact iff_of_false (by simp) printings

end JsonStrings
