import GeneratorPi.Lib.PyText
import Mathlib

/-!
# HTML text and tags

`tokenize` reads a fragment of HTML by the states of the HTML standard's tokenizer: text, the three
references `&amp;`, `&lt;` and `&gt;` (any other reference is left as its text), start and end tags
with their attributes (whose values are left as they are), and what starts with `<!` or `<?`, which
is dropped up to the next `>`.  `render` writes tokens, escaping their text, and what is written
reads back as the tokens (`tokenize_render`).
-/

namespace Markup

open PyText (Text)

/-! ## Escaping -/

/-- `s.replace(/c/g, piece)` -/
def replaceAll (c : Char) (piece s : Text) : Text := s.flatMap fun d => if d = c then piece else [d]

def escapeChar (c : Char) : Text :=
  if c = '&' then "&amp;".toList
  else if c = '<' then "&lt;".toList
  else if c = '>' then "&gt;".toList
  else [c]

def escape (s : Text) : Text := s.flatMap escapeChar

/-- Replacing the three characters one after another, `&` first, escapes each of them once. -/
theorem replaceAll_eq_escape (s : Text) :
    replaceAll '>' "&gt;".toList (replaceAll '<' "&lt;".toList (replaceAll '&' "&amp;".toList s)) =
      escape s := by
  simp only [replaceAll, escape, List.flatMap_assoc]
  refine congrArg (fun f => s.flatMap f) (funext fun d => ?_)
  by_cases amp : d = '&'
  · subst amp
    decide
  by_cases lt : d = '<'
  · subst lt
    decide
  by_cases gt : d = '>' <;> simp [escapeChar, amp, lt, gt]

theorem escape_append (s t : Text) : escape (s ++ t) = escape s ++ escape t := List.flatMap_append

/-! ## Reading -/

structure Tag where
  closing : Bool
  name : Text
  attributes : List (Text × Text)
deriving DecidableEq

def Tag.add (tag : Tag) (name value : Text) : Tag :=
  { tag with attributes := tag.attributes ++ [(name, value)] }

inductive Token
  | char (c : Char)
  | tag (t : Tag)
deriving DecidableEq

inductive State
  | data
  | reference (name : Text)
  | tagOpen
  | endTagOpen
  | tagName (tag : Tag)
  | beforeAttribute (tag : Tag)
  | attributeName (tag : Tag) (name : Text)
  | afterName (tag : Tag) (name : Text)
  | beforeValue (tag : Tag) (name : Text)
  | quoted (quote : Char) (tag : Tag) (name value : Text)
  | unquoted (tag : Tag) (name value : Text)
  | comment

def chars (s : Text) : List Token := s.map .char

def isBlank (c : Char) : Bool := c = ' ' || c = '\t' || c = '\n' || c = '\x0c' || c = '\r'

/-- The text of the reference `&name;`. -/
def referent (name : Text) : Text :=
  if name = "amp".toList then ['&']
  else if name = "lt".toList then ['<']
  else if name = "gt".toList then ['>']
  else '&' :: (name ++ [';'])

def dataStep (c : Char) : State × List Token :=
  if c = '<' then (.tagOpen, [])
  else if c = '&' then (.reference [], [])
  else (.data, [.char c])

/-- `c` is read again as data, after the text that turned out not to be markup. -/
def reconsume (text : Text) (c : Char) : State × List Token :=
  ((dataStep c).1, chars text ++ (dataStep c).2)

def step : State → Char → State × List Token
  | .data, c => dataStep c
  | .reference name, c =>
      if c.isAlphanum then (.reference (name ++ [c]), [])
      else if c = ';' then (.data, chars (referent name))
      else reconsume ('&' :: name) c
  | .tagOpen, c =>
      if c.isAlpha then (.tagName ⟨false, [c.toLower], []⟩, [])
      else if c = '/' then (.endTagOpen, [])
      else if c = '!' || c = '?' then (.comment, [])
      else reconsume ['<'] c
  | .endTagOpen, c =>
      if c.isAlpha then (.tagName ⟨true, [c.toLower], []⟩, [])
      else if c = '>' then (.data, [])
      else (.comment, [])
  | .tagName tag, c =>
      if isBlank c || c = '/' then (.beforeAttribute tag, [])
      else if c = '>' then (.data, [.tag tag])
      else (.tagName { tag with name := tag.name ++ [c.toLower] }, [])
  | .beforeAttribute tag, c =>
      if isBlank c || c = '/' then (.beforeAttribute tag, [])
      else if c = '>' then (.data, [.tag tag])
      else (.attributeName tag [c.toLower], [])
  | .attributeName tag name, c =>
      if c = '=' then (.beforeValue tag name, [])
      else if isBlank c then (.afterName tag name, [])
      else if c = '/' then (.beforeAttribute (tag.add name []), [])
      else if c = '>' then (.data, [.tag (tag.add name [])])
      else (.attributeName tag (name ++ [c.toLower]), [])
  | .afterName tag name, c =>
      if c = '=' then (.beforeValue tag name, [])
      else if isBlank c then (.afterName tag name, [])
      else if c = '/' then (.beforeAttribute (tag.add name []), [])
      else if c = '>' then (.data, [.tag (tag.add name [])])
      else (.attributeName (tag.add name []) [c.toLower], [])
  | .beforeValue tag name, c =>
      if isBlank c then (.beforeValue tag name, [])
      else if c = '"' || c = '\'' then (.quoted c tag name [], [])
      else if c = '>' then (.data, [.tag (tag.add name [])])
      else (.unquoted tag name [c], [])
  | .quoted quote tag name value, c =>
      if c = quote then (.beforeAttribute (tag.add name value), [])
      else (.quoted quote tag name (value ++ [c]), [])
  | .unquoted tag name value, c =>
      if isBlank c then (.beforeAttribute (tag.add name value), [])
      else if c = '>' then (.data, [.tag (tag.add name value)])
      else (.unquoted tag name (value ++ [c]), [])
  | .comment, c => (if c = '>' then .data else .comment, [])

/-- A tag that is not closed before the text ends is no token. -/
def flush : State → List Token
  | .reference name => chars ('&' :: name)
  | .tagOpen => chars ['<']
  | .endTagOpen => chars ['<', '/']
  | _ => []

def tokenizeFrom (s : State) : Text → List Token
  | [] => flush s
  | c :: rest => (step s c).2 ++ tokenizeFrom (step s c).1 rest

/-- Line feeds are normalised before this, and NUL characters in text dropped behind it; neither is
done here. -/
def tokenize (s : Text) : List Token := tokenizeFrom .data s

/-! ## Writing -/

def renderAttribute (a : Text × Text) : Text := ' ' :: (a.1 ++ '=' :: '"' :: (a.2 ++ ['"']))

def renderTag (t : Tag) : Text :=
  '<' :: ((if t.closing then ['/'] else []) ++ t.name ++
    t.attributes.flatMap renderAttribute ++ ['>'])

def renderToken : Token → Text
  | .char c => escapeChar c
  | .tag t => renderTag t

def render (ts : List Token) : Text := ts.flatMap renderToken

/-- A name of small letters. -/
def IsName (name : Text) : Prop := name ≠ [] ∧ ∀ c ∈ name, c.isLower = true

theorem isName_of_all {name : Text} (filled : name ≠ []) (small : name.all Char.isLower = true) :
    IsName name :=
  ⟨filled, List.all_eq_true.mp small⟩

/-- An attribute whose value can stand between double quotes as it is. -/
structure IsAttribute (a : Text × Text) : Prop where
  name : IsName a.1
  value : ∀ c ∈ a.2, c ≠ '"' ∧ c ≠ '&'

theorem plain_of_all {value : Text} (plain : value.all (fun c => c ≠ '"' ∧ c ≠ '&') = true) :
    ∀ c ∈ value, c ≠ '"' ∧ c ≠ '&' := fun c mem =>
  of_decide_eq_true (List.all_eq_true.mp plain c mem)

structure Tag.WellFormed (t : Tag) : Prop where
  name : IsName t.name
  attributes : ∀ a ∈ t.attributes, IsAttribute a

def Token.WellFormed : Token → Prop
  | .char _ => True
  | .tag t => t.WellFormed

/-! ## Reading what was written -/

theorem tokenizeFrom_cons (s : State) (c : Char) (rest : Text) :
    tokenizeFrom s (c :: rest) = (step s c).2 ++ tokenizeFrom (step s c).1 rest := rfl

theorem tokenizeFrom_escapeChar (c : Char) (rest : Text) :
    tokenizeFrom .data (escapeChar c ++ rest) = .char c :: tokenizeFrom .data rest := by
  by_cases amp : c = '&'
  · subst amp
    rfl
  by_cases lt : c = '<'
  · subst lt
    rfl
  by_cases gt : c = '>'
  · subst gt
    rfl
  simp [escapeChar, amp, lt, gt, tokenizeFrom_cons, step, dataStep]

section Letters

variable {c : Char} (h : c.isLower = true)

include h

theorem isAlpha_of_isLower : c.isAlpha = true := by simp [Char.isAlpha, h]

theorem toLower_of_isLower : c.toLower = c := by
  simp only [Char.isLower, Bool.and_eq_true, decide_eq_true_eq] at h
  rw [Char.toLower, dif_neg]
  rintro ⟨-, small⟩
  exact absurd (UInt32.le_trans h.1 small) (by decide)

theorem not_delimiter_of_isLower :
    isBlank c = false ∧ c ≠ '/' ∧ c ≠ '>' ∧ c ≠ '=' := by
  refine ⟨?_, ?_, ?_, ?_⟩
  · simp only [isBlank, Bool.or_eq_false_iff, decide_eq_false_iff_not]
    refine ⟨⟨⟨⟨?_, ?_⟩, ?_⟩, ?_⟩, ?_⟩ <;> rintro rfl <;> exact absurd h (by decide)
  all_goals rintro rfl; exact absurd h (by decide)

end Letters

theorem tokenizeFrom_tagName {more : Text} (lower : ∀ c ∈ more, c.isLower = true) (tag : Tag)
    (rest : Text) :
    tokenizeFrom (.tagName tag) (more ++ rest) =
      tokenizeFrom (.tagName { tag with name := tag.name ++ more }) rest := by
  induction more generalizing tag with
  | nil => simp
  | cons c more ih =>
      have small := lower c List.mem_cons_self
      obtain ⟨blank, slash, close, -⟩ := not_delimiter_of_isLower small
      have read : step (.tagName tag) c = (.tagName { tag with name := tag.name ++ [c] }, []) := by
        simp [step, blank, slash, close, toLower_of_isLower small]
      rw [List.cons_append, tokenizeFrom_cons, read,
        ih (fun d mem => lower d (List.mem_cons_of_mem _ mem))]
      simp

theorem tokenizeFrom_attributeName {more : Text} (lower : ∀ c ∈ more, c.isLower = true) (tag : Tag)
    (name rest : Text) :
    tokenizeFrom (.attributeName tag name) (more ++ rest) =
      tokenizeFrom (.attributeName tag (name ++ more)) rest := by
  induction more generalizing name with
  | nil => simp
  | cons c more ih =>
      have small := lower c List.mem_cons_self
      obtain ⟨blank, slash, close, equals⟩ := not_delimiter_of_isLower small
      have read : step (.attributeName tag name) c = (.attributeName tag (name ++ [c]), []) := by
        simp [step, blank, slash, close, equals, toLower_of_isLower small]
      rw [List.cons_append, tokenizeFrom_cons, read,
        ih (fun d mem => lower d (List.mem_cons_of_mem _ mem))]
      simp

theorem tokenizeFrom_quoted {quote : Char} {more : Text} (plain : ∀ c ∈ more, c ≠ quote) (tag : Tag)
    (name value rest : Text) :
    tokenizeFrom (.quoted quote tag name value) (more ++ rest) =
      tokenizeFrom (.quoted quote tag name (value ++ more)) rest := by
  induction more generalizing value with
  | nil => simp
  | cons c more ih =>
      have read : step (.quoted quote tag name value) c =
          (.quoted quote tag name (value ++ [c]), []) := by
        simp [step, plain c List.mem_cons_self]
      rw [List.cons_append, tokenizeFrom_cons, read,
        ih (fun d mem => plain d (List.mem_cons_of_mem _ mem))]
      simp

/-- The state after a name or a value is ready for another attribute. -/
inductive Ready (tag : Tag) : State → Prop
  | name : Ready tag (.tagName tag)
  | value : Ready tag (.beforeAttribute tag)

theorem Ready.space {tag : Tag} {s : State} (ready : Ready tag s) (rest : Text) :
    tokenizeFrom s (' ' :: rest) = tokenizeFrom (.beforeAttribute tag) rest := by
  cases ready <;> rfl

theorem Ready.close {tag : Tag} {s : State} (ready : Ready tag s) (rest : Text) :
    tokenizeFrom s ('>' :: rest) = .tag tag :: tokenizeFrom .data rest := by
  cases ready <;> rfl

theorem tokenizeFrom_attribute {a : Text × Text} (fine : IsAttribute a) {tag : Tag} {s : State}
    (ready : Ready tag s) (rest : Text) :
    tokenizeFrom s (renderAttribute a ++ rest) =
      tokenizeFrom (.beforeAttribute (tag.add a.1 a.2)) rest := by
  obtain ⟨name, value⟩ := a
  obtain ⟨⟨some_letter, lower⟩, plain⟩ := fine
  obtain ⟨c, more, rfl⟩ := List.exists_cons_of_ne_nil some_letter
  have small := lower c List.mem_cons_self
  obtain ⟨blank, slash, close, -⟩ := not_delimiter_of_isLower small
  have read : step (.beforeAttribute tag) c = (.attributeName tag [c], []) := by
    simp [step, blank, slash, close, toLower_of_isLower small]
  have equals : ∀ more : Text, tokenizeFrom (.attributeName tag (c :: more)) ('=' :: '"' ::
      (value ++ '"' :: rest)) = tokenizeFrom (.quoted '"' tag (c :: more) [])
        (value ++ '"' :: rest) :=
    fun _ => rfl
  have quote : tokenizeFrom (.quoted '"' tag (c :: more) value) ('"' :: rest) =
      tokenizeFrom (.beforeAttribute (tag.add (c :: more) value)) rest := rfl
  simp only [renderAttribute, List.cons_append, List.append_assoc, List.nil_append]
  rw [ready.space, tokenizeFrom_cons, read, List.nil_append,
    tokenizeFrom_attributeName (fun d mem => lower d (List.mem_cons_of_mem _ mem)),
    List.singleton_append, equals, tokenizeFrom_quoted (fun d mem => (plain d mem).1),
    List.nil_append, quote]

theorem tokenizeFrom_attributes {as : List (Text × Text)} (attributes : ∀ a ∈ as, IsAttribute a)
    {tag : Tag} {s : State} (ready : Ready tag s) (rest : Text) :
    tokenizeFrom s (as.flatMap renderAttribute ++ '>' :: rest) =
      .tag { tag with attributes := tag.attributes ++ as } :: tokenizeFrom .data rest := by
  induction as generalizing tag s with
  | nil => simpa using ready.close rest
  | cons a as ih =>
      rw [List.flatMap_cons, List.append_assoc,
        tokenizeFrom_attribute (attributes a List.mem_cons_self) ready,
        ih (fun b mem => attributes b (List.mem_cons_of_mem _ mem)) .value]
      simp [Tag.add]

theorem tokenizeFrom_renderTag {t : Tag} (h : t.WellFormed) (rest : Text) :
    tokenizeFrom .data (renderTag t ++ rest) = .tag t :: tokenizeFrom .data rest := by
  obtain ⟨closing, name, attributes⟩ := t
  obtain ⟨⟨some_letter, lower⟩, fine⟩ := h
  obtain ⟨c, more, rfl⟩ := List.exists_cons_of_ne_nil some_letter
  have small := lower c List.mem_cons_self
  have opens : tokenizeFrom .data ('<' :: ((if closing then ['/'] else []) ++ c :: more ++
      (attributes.flatMap renderAttribute ++ '>' :: rest))) =
      tokenizeFrom (.tagName ⟨closing, [c], []⟩)
        (more ++ (attributes.flatMap renderAttribute ++ '>' :: rest)) := by
    cases closing <;>
      simp [tokenizeFrom_cons, step, dataStep, isAlpha_of_isLower small, toLower_of_isLower small]
  have written : renderTag ⟨closing, c :: more, attributes⟩ ++ rest =
      '<' :: ((if closing then ['/'] else []) ++ c :: more ++
        (attributes.flatMap renderAttribute ++ '>' :: rest)) := by
    simp [renderTag]
  rw [written, opens, tokenizeFrom_tagName (fun d mem => lower d (List.mem_cons_of_mem _ mem)),
    tokenizeFrom_attributes fine .name]
  simp

theorem tokenizeFrom_render {ts : List Token} (h : ∀ t ∈ ts, t.WellFormed) (rest : Text) :
    tokenizeFrom .data (render ts ++ rest) = ts ++ tokenizeFrom .data rest := by
  induction ts with
  | nil => rfl
  | cons t ts ih =>
      have later := ih fun u mem => h u (List.mem_cons_of_mem _ mem)
      have here := h t List.mem_cons_self
      rw [render, List.flatMap_cons, List.append_assoc]
      cases t with
      | char c => rw [renderToken, tokenizeFrom_escapeChar, ← render, later, List.cons_append]
      | tag t => rw [renderToken, tokenizeFrom_renderTag here, ← render, later, List.cons_append]

/-- Tokens that are written read back as themselves. -/
theorem tokenize_render {ts : List Token} (h : ∀ t ∈ ts, t.WellFormed) :
    tokenize (render ts) = ts := by
  have read := tokenizeFrom_render h []
  have ended : tokenizeFrom .data [] = [] := rfl
  rwa [ended, List.append_nil, List.append_nil] at read

theorem render_append (ts us : List Token) : render (ts ++ us) = render ts ++ render us :=
  List.flatMap_append

theorem render_chars (s : Text) : render (chars s) = escape s := by
  rw [render, chars, List.flatMap_map]
  rfl

end Markup
