import GeneratorPi.Lib.Markup
import Mathlib.Data.Prod.Lex
import Mathlib.Data.List.Forall2

/-!
# The update terminal

The page builds the terminal's HTML from the lines of the update log, which hold whatever an
exception said.  Read back as HTML it is one row to a line, each row the fixed tags of its severity
around the text of its line (`termHTML_tokens`).  The rewrite is left out while the number of lines
and the last line are unchanged; a log that only grows is shown as it was last polled all the same
(`polled_shown`).
-/

namespace GeneratorPi.Terminal

open PyText (Text)
open Markup

/-! ## The log lines as HTML (app.js) -/

/-- `\s` -/
def isSpace (c : Char) : Bool :=
  let n := c.toNat
  (9 ≤ n && n ≤ 13) || n == 32 || n == 0xa0 || n == 0x1680 || (0x2000 ≤ n && n ≤ 0x200a) ||
    n == 0x2028 || n == 0x2029 || n == 0x202f || n == 0x205f || n == 0x3000 || n == 0xfeff

/-- The line terminators, which `.` does not match. -/
def isTerminator (c : Char) : Bool :=
  let n := c.toNat
  n == 10 || n == 13 || n == 0x2028 || n == 0x2029

/-- `\w` -/
def isWord (c : Char) : Bool := c.isAlphanum || c = '_'

/-- `toUpperCase`, as far as a comparison with a word of ASCII letters sees it: `ı` is the only
other character whose capital is a letter of the four words below. -/
def upperChar (c : Char) : Char := if c = 'ı' then 'I' else c.toUpper

/-- `\s?` -/
def skipOne : Text → Text
  | c :: rest => if isSpace c then rest else c :: rest
  | [] => []

/-- `/^\[([^\]]+)\]\s?(.*)$/` -/
def sectionMatch (line : Text) : Option (Text × Text) :=
  match line with
  | '[' :: inside =>
      let tag := inside.takeWhile (· ≠ ']')
      match inside.dropWhile (· ≠ ']') with
      | [] => none
      | _ :: after =>
          let rest := skipOne after
          if tag ≠ [] ∧ rest.all (!isTerminator ·) then some (tag, rest) else none
  | _ => none

/-- One alternative of `labelMatch`. -/
def labelled (label : Text) (line : Text) : Option (Text × Text × Text) :=
  let after := line.dropWhile isSpace
  if (label ++ [':']).isPrefixOf after then
    let body := skipOne (after.drop (label.length + 1))
    if body.all (!isTerminator ·) then some (line.takeWhile isSpace, label, body) else none
  else none

/-- `/^(\s*)(WARNING|ERROR):\s?(.*)$/` -/
def labelMatch (line : Text) : Option (Text × Text × Text) :=
  (labelled "WARNING".toList line).or (labelled "ERROR".toList line)

/-- `/^ok\b/i` -/
def startsOk : Text → Bool
  | o :: k :: rest => o.toUpper = 'O' && k.toUpper = 'K' && !rest.head?.any isWord
  | _ => false

/-- `_esc` -/
def esc (s : Text) : Text :=
  replaceAll '>' "&gt;".toList (replaceAll '<' "&lt;".toList (replaceAll '&' "&amp;".toList s))

def span (cls body : Text) : Text :=
  "<span class=\"".toList ++ cls ++ "\">".toList ++ body ++ "</span>".toList

/-- The classes of a section's tag and of the rest of its line. -/
def sectionClasses (tu : Text) : Text × Text :=
  if tu = "ERROR".toList then ("tl-err".toList, "tl-err-b".toList)
  else if tu = "WARNING".toList ∨ tu = "REVERTED".toList ∨ tu = "ROLLBACK".toList then
    ("tl-warn".toList, "tl-warn-b".toList)
  else ("tl-hdr".toList, "tl-msg".toList)

/-- `_fmtLogLine` -/
def fmtLogLine (line : Text) : Text :=
  let mk := line.head?
  if mk = some '\x01' ∨ mk = some '\x02' then
    span (if mk = some '\x01' then "tl-warn-b".toList else "tl-err-b".toList) (esc (line.drop 1))
  else
    match sectionMatch line with
    | some (tag, rest) =>
        let classes := sectionClasses (tag.map upperChar)
        let out := span classes.1 ('[' :: (esc tag ++ [']']))
        if rest = [] then out
        else out ++ ' ' :: span (if startsOk rest then "tl-ok".toList else classes.2) (esc rest)
    | none =>
        match labelMatch line with
        | some (lead, lbl, body) =>
            let er := lbl = "ERROR".toList
            esc lead ++ span (if er then "tl-err".toList else "tl-warn".toList) (lbl ++ [':']) ++
              (if body = [] then []
                else ' ' :: span (if er then "tl-err-b".toList else "tl-warn-b".toList) (esc body))
        | none =>
            if line.head?.any isSpace then span "tl-sub".toList (esc line)
            else span "tl-msg".toList (esc line)

/-- `_termHTML` -/
def termHTML (lines : List Text) : Text :=
  lines.flatMap fun l => "<div class=\"tl\">".toList ++ fmtLogLine l ++ "</div>".toList

/-! ## What a row shows -/

/-- Text in a span of the class, or bare. -/
structure Run where
  cls : Option Text
  text : Text

def spanTag (cls : Text) : Tag := ⟨false, "span".toList, [("class".toList, cls)]⟩

def Run.tokens (r : Run) : List Markup.Token :=
  match r.cls with
  | none => chars r.text
  | some cls => .tag (spanTag cls) :: (chars r.text ++ [.tag ⟨true, "span".toList, []⟩])

def rowTokens (row : List Run) : List Markup.Token :=
  .tag ⟨false, "div".toList, [("class".toList, "tl".toList)]⟩ ::
    (row.flatMap Run.tokens ++ [.tag ⟨true, "div".toList, []⟩])

def termClasses : List Text :=
  ["tl-hdr".toList, "tl-msg".toList, "tl-ok".toList, "tl-sub".toList, "tl-warn".toList,
    "tl-warn-b".toList, "tl-err".toList, "tl-err-b".toList]

/-- The text a row shows for a line: the line, without a severity marker, and with the white space
after a section or a label written as one space. -/
inductive Reads : Text → Text → Prop
  | asIs (line : Text) : Reads line line
  | unmarked {c : Char} (line : Text) : c = '\x01' ∨ c = '\x02' → Reads (c :: line) line
  | spaced (head gap body : Text) :
      head.getLast? = some ']' ∨ head.getLast? = some ':' → gap.length ≤ 1 → gap.all isSpace →
      body ≠ [] → Reads (head ++ (gap ++ body)) (head ++ ' ' :: body)
  | bare (head gap : Text) :
      head.getLast? = some ']' ∨ head.getLast? = some ':' → gap.length ≤ 1 → gap.all isSpace →
      Reads (head ++ gap) head

structure Shows (line : Text) (row : List Run) : Prop where
  text : Reads line (row.flatMap Run.text)
  classes : ∀ run ∈ row, ∀ cls ∈ run.cls, cls ∈ termClasses

/-! ## The HTML read back -/

theorem esc_eq (s : Text) : esc s = escape s := replaceAll_eq_escape s

theorem renderTag_spanTag (cls : Text) :
    renderTag (spanTag cls) = "<span class=\"".toList ++ cls ++ "\">".toList := by
  have before : "<span class=\"".toList =
      '<' :: ("span".toList ++ ' ' :: ("class".toList ++ ['=', '"'])) := by decide
  have after : "\">".toList = ['"', '>'] := by decide
  simp only [renderTag, spanTag, renderAttribute, before, after, List.flatMap_cons,
    List.flatMap_nil,
    List.append_assoc, List.cons_append, List.nil_append, List.append_nil, Bool.false_eq_true,
    if_false]

theorem span_def (cls body : Text) :
    span cls body = "<span class=\"".toList ++ cls ++ "\">".toList ++ body ++ "</span>".toList :=
    rfl

theorem span_eq (cls s : Text) : span cls (escape s) = render (Run.tokens ⟨some cls, s⟩) := by
  have close : render [.tag ⟨true, "span".toList, []⟩] = "</span>".toList := by decide
  have opened : ∀ ts, render (.tag (spanTag cls) :: ts) = renderTag (spanTag cls) ++ render ts :=
    fun _ => List.flatMap_cons
  simp only [Run.tokens, opened, renderTag_spanTag, render_append, render_chars, close, span_def,
    List.append_assoc]

theorem termHTML_cons (line : Text) (lines : List Text) :
    termHTML (line :: lines) =
      "<div class=\"tl\">".toList ++ fmtLogLine line ++ "</div>".toList ++ termHTML lines :=
  List.flatMap_cons

theorem render_rowTokens (row : List Run) :
    render (rowTokens row) =
      "<div class=\"tl\">".toList ++ render (row.flatMap Run.tokens) ++ "</div>".toList := by
  have opened : renderTag ⟨false, "div".toList, [("class".toList, "tl".toList)]⟩ =
      "<div class=\"tl\">".toList := by decide
  have close : render [.tag ⟨true, "div".toList, []⟩] = "</div>".toList := by decide
  rw [rowTokens, render, List.flatMap_cons, ← render, renderToken, opened, render_append, close,
    List.append_assoc]

theorem skipOne_spec (s : Text) :
    ∃ gap, s = gap ++ skipOne s ∧ gap.length ≤ 1 ∧ gap.all isSpace := by
  cases s with
  | nil => exact ⟨[], rfl, by decide, rfl⟩
  | cons c rest =>
      by_cases space : isSpace c
      · exact ⟨[c], by simp [skipOne, space], le_rfl, by simp [space]⟩
      · exact ⟨[], by simp [skipOne, space], by decide, rfl⟩

theorem eq_of_sectionMatch {line tag rest : Text} (h : sectionMatch line = some (tag, rest)) :
    ∃ gap, line = '[' :: (tag ++ ']' :: (gap ++ rest)) ∧ gap.length ≤ 1 ∧ gap.all isSpace := by
  dsimp only [sectionMatch] at h
  split at h
  case h_2 => cases h
  case h_1 inside =>
    split at h
    case h_1 => cases h
    case h_2 close after split =>
      have closes : close = ']' := by
        have head := List.head?_dropWhile_not (· ≠ ']') inside
        rw [split] at head
        simpa using head
      subst closes
      split at h
      case isFalse => cases h
      case isTrue =>
        obtain ⟨rfl, rfl⟩ := Prod.mk.inj (Option.some.inj h)
        obtain ⟨gap, after_eq, short, space⟩ := skipOne_spec after
        refine ⟨gap, ?_, short, space⟩
        rw [← after_eq, ← split, List.takeWhile_append_dropWhile]

theorem eq_of_labelled {label line lead lbl body : Text}
    (h : labelled label line = some (lead, lbl, body)) :
    lbl = label ∧
      ∃ gap, line = lead ++ (label ++ ':' :: (gap ++ body)) ∧ gap.length ≤ 1 ∧ gap.all isSpace := by
  dsimp only [labelled] at h
  split at h
  case isFalse => cases h
  case isTrue starts =>
    split at h
    case isFalse => cases h
    case isTrue =>
      obtain ⟨rfl, rest⟩ := Prod.mk.inj (Option.some.inj h)
      obtain ⟨rfl, rfl⟩ := Prod.mk.inj rest
      obtain ⟨after, eq⟩ := List.isPrefixOf_iff_prefix.mp starts
      obtain ⟨gap, after_eq, short, space⟩ :=
        skipOne_spec ((line.dropWhile isSpace).drop (label.length + 1))
      refine ⟨rfl, gap, ?_, short, space⟩
      have dropped : (line.dropWhile isSpace).drop (label.length + 1) = after := by
        rw [← eq]
        exact List.drop_left' (by simp)
      rw [← after_eq, dropped]
      calc line = line.takeWhile isSpace ++ line.dropWhile isSpace :=
            List.takeWhile_append_dropWhile.symm
        _ = _ := by rw [← eq]; simp

theorem eq_of_labelMatch {line lead lbl body : Text}
    (h : labelMatch line = some (lead, lbl, body)) :
    lbl ∈ ["WARNING".toList, "ERROR".toList] ∧
      ∃ gap, line = lead ++ (lbl ++ ':' :: (gap ++ body)) ∧ gap.length ≤ 1 ∧ gap.all isSpace := by
  rcases Option.or_eq_some_iff.mp h with first | ⟨-, second⟩
  · obtain ⟨rfl, rest⟩ := eq_of_labelled first
    exact ⟨List.mem_cons_self, rest⟩
  · obtain ⟨rfl, rest⟩ := eq_of_labelled second
    exact ⟨List.mem_cons_of_mem _ List.mem_cons_self, rest⟩

theorem escape_brackets (tag : Text) :
    escape ('[' :: (tag ++ [']'])) = '[' :: (escape tag ++ [']']) := by
  have opened : ∀ s : Text, escape ('[' :: s) = '[' :: escape s := fun _ => rfl
  have close : escape [']'] = [']'] := rfl
  rw [opened, escape_append, close]

/-- The runs of what follows a section or a label. -/
def tailRow (cls rest : Text) : List Run :=
  if rest = [] then [] else [⟨none, [' ']⟩, ⟨some cls, rest⟩]

theorem render_tailRow (cls rest : Text) :
    render ((tailRow cls rest).flatMap Run.tokens) =
      if rest = [] then [] else ' ' :: span cls (escape rest) := by
  by_cases none : rest = []
  · rw [tailRow, if_pos none, if_pos none]
    rfl
  · rw [tailRow, if_neg none, if_neg none, List.flatMap_cons, List.flatMap_singleton, render_append,
      ← span_eq]
    rfl

theorem reads_tailRow {head gap : Text} (ends : head.getLast? = some ']' ∨ head.getLast? = some ':')
    (short : gap.length ≤ 1) (space : gap.all isSpace) (cls rest : Text) :
    Reads (head ++ (gap ++ rest)) (head ++ (tailRow cls rest).flatMap Run.text) := by
  by_cases none : rest = []
  · rw [tailRow, if_pos none, none, List.append_nil, List.flatMap_nil, List.append_nil]
    exact .bare head gap ends short space
  · rw [tailRow, if_neg none]
    simpa using Reads.spaced head gap rest ends short space none

/-- Text before a tail, the last of it in a span. -/
structure Heads (before : List Run) (head : Text) : Prop where
  text : before.flatMap Run.text = head
  ends : head.getLast? = some ']' ∨ head.getLast? = some ':'
  classes : ∀ run ∈ before, ∀ cls ∈ run.cls, cls ∈ termClasses

theorem Heads.shows {before : List Run} {head gap : Text} (h : Heads before head)
    (short : gap.length ≤ 1) (space : gap.all isSpace) {cls : Text} (known : cls ∈ termClasses)
    (rest : Text) : Shows (head ++ (gap ++ rest)) (before ++ tailRow cls rest) where
  text := by
    rw [List.flatMap_append, h.text]
    exact reads_tailRow h.ends short space cls rest
  classes run mem c hc := by
    rcases List.mem_append.mp mem with first | second
    · exact h.classes run first c hc
    · rw [tailRow] at second
      split at second
      case isTrue => cases second
      case isFalse =>
        rcases List.mem_pair.mp second with rfl | rfl
        · cases hc
        · rw [← Option.some.inj hc]
          exact known

theorem sectionClasses_mem (tu : Text) :
    (sectionClasses tu).1 ∈ termClasses ∧ (sectionClasses tu).2 ∈ termClasses := by
  have err : "tl-err".toList ∈ termClasses ∧ "tl-err-b".toList ∈ termClasses := by decide
  have warn : "tl-warn".toList ∈ termClasses ∧ "tl-warn-b".toList ∈ termClasses := by
    decide
  have plain : "tl-hdr".toList ∈ termClasses ∧ "tl-msg".toList ∈ termClasses := by decide
  delta sectionClasses
  split
  case isTrue => exact err
  case isFalse =>
    split
    case isTrue => exact warn
    case isFalse => exact plain

theorem written_marked {line : Text} (marked : line.head? = some '\x01' ∨ line.head? = some '\x02')
    {cls : Text} (known : cls ∈ termClasses) :
    ∃ row, span cls (esc (line.drop 1)) = render (row.flatMap Run.tokens) ∧ Shows line row := by
  refine ⟨[⟨some cls, line.drop 1⟩], ?_, ?_, by simpa using known⟩
  · rw [esc_eq, span_eq, List.flatMap_singleton]
  · cases line with
    | nil => simp at marked
    | cons c rest =>
        rw [List.flatMap_singleton]
        exact .unmarked rest (by simpa using marked)

theorem written_section {line tag rest : Text} (h : sectionMatch line = some (tag, rest))
    {cls bcls : Text} (known : cls ∈ termClasses) (bknown : bcls ∈ termClasses) :
    ∃ row, span cls ('[' :: (esc tag ++ [']'])) ++
        (if rest = [] then [] else ' ' :: span bcls (esc rest)) = render (row.flatMap Run.tokens) ∧
      Shows line row := by
  obtain ⟨gap, rfl, short, space⟩ := eq_of_sectionMatch h
  have heads : Heads [⟨some cls, '[' :: (tag ++ [']'])⟩] ('[' :: (tag ++ [']'])) :=
    ⟨List.flatMap_singleton .., Or.inl (by rw [← List.cons_append, List.getLast?_concat]),
      by simpa using known⟩
  refine ⟨[⟨some cls, '[' :: (tag ++ [']'])⟩] ++ tailRow bcls rest, ?_,
    by simpa using heads.shows short space bknown rest⟩
  rw [esc_eq, esc_eq, ← escape_brackets, span_eq, List.flatMap_append, List.flatMap_singleton,
    render_append, render_tailRow]

theorem written_label {line lead lbl body : Text} (h : labelMatch line = some (lead, lbl, body))
    {cls bcls : Text} (known : cls ∈ termClasses) (bknown : bcls ∈ termClasses) :
    ∃ row, esc lead ++ span cls (lbl ++ [':']) ++
        (if body = [] then [] else ' ' :: span bcls (esc body)) = render (row.flatMap Run.tokens) ∧
      Shows line row := by
  obtain ⟨word, gap, rfl, short, space⟩ := eq_of_labelMatch h
  have heads : Heads [⟨none, lead⟩, ⟨some cls, lbl ++ [':']⟩] (lead ++ (lbl ++ [':'])) :=
    ⟨by simp, Or.inr (by rw [← List.append_assoc, List.getLast?_concat]), by simpa using known⟩
  have plain : escape (lbl ++ [':']) = lbl ++ [':'] := by
    rcases List.mem_pair.mp word with rfl | rfl <;> decide
  have label : span cls (lbl ++ [':']) = render (Run.tokens ⟨some cls, lbl ++ [':']⟩) := by
    rw [← span_eq, plain]
  have bare : render (Run.tokens ⟨none, lead⟩) = escape lead := render_chars lead
  refine ⟨[⟨none, lead⟩, ⟨some cls, lbl ++ [':']⟩] ++ tailRow bcls body, ?_,
    by simpa using heads.shows short space bknown body⟩
  rw [esc_eq, esc_eq, label, List.flatMap_append, List.flatMap_cons, List.flatMap_singleton,
    render_append, render_append, render_tailRow, bare]

theorem written_plain (line : Text) {cls : Text} (known : cls ∈ termClasses) :
    ∃ row, span cls (esc line) = render (row.flatMap Run.tokens) ∧ Shows line row := by
  refine ⟨[⟨some cls, line⟩], ?_, ?_, by simpa using known⟩
  · rw [esc_eq, span_eq, List.flatMap_singleton]
  · rw [List.flatMap_singleton]
    exact .asIs line

/-- What is written for a line is a row that shows it. -/
theorem fmtLogLine_written (line : Text) :
    ∃ row, fmtLogLine line = render (row.flatMap Run.tokens) ∧ Shows line row := by
  delta fmtLogLine
  dsimp only
  split
  case isTrue marked =>
    refine written_marked marked ?_
    split <;> decide
  case isFalse =>
    split
    case h_1 tag rest found =>
      have known := sectionClasses_mem (tag.map upperChar)
      have body :
        (if startsOk rest then "tl-ok".toList else (sectionClasses (tag.map upperChar)).2) ∈
          termClasses := by
        split
        case isTrue => decide
        case isFalse => exact known.2
      obtain ⟨row, written, shows⟩ := written_section found known.1 body
      refine ⟨row, ?_, shows⟩
      rw [← written]
      split
      case isTrue => rw [List.append_nil]
      case isFalse => rfl
    case h_2 =>
      split
      case h_1 lead lbl body found =>
        refine written_label found ?_ ?_ <;> split <;> decide
      case h_2 =>
        split
        case isTrue => exact written_plain line (by decide)
        case isFalse => exact written_plain line (by decide)

theorem isName_span : IsName "span".toList := isName_of_all (by decide) (by decide)

theorem isName_div : IsName "div".toList := isName_of_all (by decide) (by decide)

theorem isName_class : IsName "class".toList := isName_of_all (by decide) (by decide)

theorem spanTag_wellFormed {cls : Text} (known : cls ∈ termClasses) : (spanTag cls).WellFormed := by
  have plain : ∀ cls ∈ termClasses, cls.all (fun c => c ≠ '"' ∧ c ≠ '&') = true := by decide
  refine ⟨isName_span, fun a mem => ?_⟩
  rw [List.mem_singleton.mp mem]
  exact ⟨isName_class, plain_of_all (plain cls known)⟩

theorem rowTokens_wellFormed {row : List Run}
    (known : ∀ run ∈ row, ∀ cls ∈ run.cls, cls ∈ termClasses) :
    ∀ t ∈ rowTokens row, t.WellFormed := by
  have text_fine : ∀ s : Text, ∀ t ∈ chars s, t.WellFormed := by
    intro s t mem
    obtain ⟨c, -, rfl⟩ := List.mem_map.mp mem
    trivial
  intro t mem
  rcases List.mem_cons.mp mem with rfl | mem
  · refine ⟨isName_div, fun a attr => ?_⟩
    rw [List.mem_singleton.mp attr]
    exact ⟨isName_class, plain_of_all (by decide)⟩
  rcases List.mem_append.mp mem with inside | last
  · obtain ⟨⟨cls, text⟩, of_row, token⟩ := List.mem_flatMap.mp inside
    cases cls with
    | none => exact text_fine text t token
    | some cls =>
        rcases List.mem_cons.mp token with rfl | token
        · exact spanTag_wellFormed (known _ of_row cls rfl)
        rcases List.mem_append.mp token with body | close
        · exact text_fine text t body
        · rw [List.mem_singleton.mp close]
          exact ⟨isName_span, fun _ none => nomatch none⟩
  · rw [List.mem_singleton.mp last]
    exact ⟨isName_div, fun _ none => nomatch none⟩

theorem termHTML_written (lines : List Text) :
    ∃ rows, termHTML lines = render (rows.flatMap rowTokens) ∧ List.Forall₂ Shows lines rows := by
  induction lines with
  | nil => exact ⟨[], rfl, .nil⟩
  | cons line lines ih =>
      obtain ⟨rows, written, shows⟩ := ih
      obtain ⟨row, here, shown⟩ := fmtLogLine_written line
      refine ⟨row :: rows, ?_, .cons shown shows⟩
      rw [termHTML_cons, here, written, List.flatMap_cons, render_append, render_rowTokens]

/-- Whatever the lines hold, the HTML of the terminal reads back as one row to a line: the tags of
the row, known classes, and the text of the line. -/
theorem termHTML_tokens (lines : List Text) :
    ∃ rows, tokenize (termHTML lines) = rows.flatMap rowTokens ∧ List.Forall₂ Shows lines rows := by
  obtain ⟨rows, written, shows⟩ := termHTML_written lines
  refine ⟨rows, ?_, shows⟩
  rw [written]
  refine tokenize_render fun t mem => ?_
  obtain ⟨row, of_rows, token⟩ := List.mem_flatMap.mp mem
  obtain ⟨i, rfl⟩ := List.mem_iff_get.mp of_rows
  obtain ⟨same, shown⟩ := List.forall₂_iff_get.mp shows
  exact rowTokens_wellFormed (shown i (same.symm ▸ i.isLt) i.isLt).classes t token

/-! ## The rewrite left out -/

/-- `sig` -/
def signature (logArr : List Text) : Text :=
  Nat.toDigits 10 logArr.length ++ '|' :: logArr.getLast?.getD []

/-- `_termSig` and the element's HTML. -/
structure Screen where
  termSig : Text
  innerHTML : Text

/-- `_renderTerm` -/
def renderTerm (t : Screen) (logArr : List Text) : Screen :=
  let sig := signature logArr
  if sig = t.termSig then t else ⟨sig, if logArr = [] then [] else termHTML logArr⟩

/-- `_update_log` -/
def updateLog (log : List Text) (line : Text) : List Text := log ++ [line]

/-- `_update_log_append` -/
def updateLogAppend (log : List Text) (text : Text) : List Text :=
  match log.getLast? with
  | some last => log.dropLast ++ [last ++ text]
  | none => log ++ [text]

/-- The log of a run, and a page that polls it. -/
structure Watched where
  log : List Text
  page : Screen

inductive Act
  | log (line : Text)
  | logAppend (text : Text)
  | poll

def step (w : Watched) : Act → Watched
  | .log line => { w with log := updateLog w.log line }
  | .logAppend text => { w with log := updateLogAppend w.log text }
  | .poll => { w with page := renderTerm w.page w.log }

/-- The lines, and what the last of them holds so far. -/
def weight (log : List Text) : ℕ ×ₗ ℕ := toLex (log.length, (log.getLast?.getD []).length)

/-- `after` is what `before` has become. -/
def Grown (before after : List Text) : Prop := after = before ∨ weight before < weight after

theorem Grown.trans {a b c : List Text} (ab : Grown a b) (bc : Grown b c) : Grown a c := by
  rcases ab with rfl | ab
  · exact bc
  · rcases bc with rfl | bc
    · exact Or.inr ab
    · exact Or.inr (ab.trans bc)

theorem grown_updateLog (log : List Text) (line : Text) : Grown log (updateLog log line) :=
  Or.inr (Prod.Lex.toLex_lt_toLex.mpr (Or.inl (by simp [updateLog])))

theorem grown_updateLogAppend (log : List Text) (text : Text) :
    Grown log (updateLogAppend log text) := by
  rcases List.eq_nil_or_concat log with rfl | ⟨before, last, rfl⟩
  · exact grown_updateLog [] text
  · have appended : updateLogAppend (before ++ [last]) text = before ++ [last ++ text] := by
      simp [updateLogAppend]
    rw [List.concat_eq_append, appended]
    cases text with
    | nil => exact Or.inl (by rw [List.append_nil])
    | cons c text =>
        refine Or.inr (Prod.Lex.toLex_lt_toLex.mpr (Or.inr ⟨?_, ?_⟩)) <;> simp

/-- The signature tells the number of lines and the last line. -/
theorem weight_eq_of_signature {a b : List Text} (h : signature a = signature b) :
    weight a = weight b := by
  have digits : ∀ log, (signature log).takeWhile Char.isDigit = Nat.toDigits 10 log.length := by
    intro log
    rw [signature, List.takeWhile_append_of_pos fun c mem =>
      Nat.isDigit_of_mem_toDigits (by decide) (by decide) mem]
    simp
  have same : Nat.toDigits 10 a.length = Nat.toDigits 10 b.length := by
    rw [← digits, ← digits, h]
  have length : a.length = b.length := by
    rw [← Nat.ofDigitChars_ten_toDigits (n := a.length), same, Nat.ofDigitChars_ten_toDigits]
  have last : a.getLast?.getD [] = b.getLast?.getD [] := by
    rw [signature, signature, same] at h
    exact (List.cons.inj (List.append_cancel_left h)).2
  rw [weight, weight, length, last]

theorem signature_ne_nil (log : List Text) : signature log ≠ [] := by
  rw [signature]
  exact List.append_ne_nil_of_right_ne_nil _ (List.cons_ne_nil _ _)

/-- The page has rendered nothing of this run, or a log that has become the present one. -/
def Synced (w : Watched) : Prop :=
  w.page.termSig = [] ∨
    ∃ before, Grown before w.log ∧ w.page = ⟨signature before, termHTML before⟩

theorem Synced.rendered {w : Watched} (h : Synced w) :
    renderTerm w.page w.log = ⟨signature w.log, termHTML w.log⟩ := by
  have shown : (if w.log = [] then [] else termHTML w.log) = termHTML w.log := by
    split
    case isTrue empty => rw [empty]; rfl
    case isFalse => rfl
  rw [renderTerm, shown]
  rcases h with fresh | ⟨before, grown, page⟩
  · rw [if_neg (by rw [fresh]; exact signature_ne_nil w.log)]
  · split
    case isFalse => rfl
    case isTrue same =>
      rw [page] at same ⊢
      rcases grown with equal | less
      · rw [equal]
      · exact absurd (weight_eq_of_signature same) less.ne'

theorem Synced.step {w : Watched} (h : Synced w) (a : Act) : Synced (step w a) := by
  have grows : ∀ log, Grown w.log log → Synced { w with log := log } := fun log grown =>
    h.imp_right fun ⟨before, before_grown, page⟩ => ⟨before, before_grown.trans grown, page⟩
  cases a with
  | log line => exact grows _ (grown_updateLog w.log line)
  | logAppend text => exact grows _ (grown_updateLogAppend w.log text)
  | poll => exact Or.inr ⟨w.log, Or.inl rfl, h.rendered⟩

theorem synced_foldl {w : Watched} (h : Synced w) (acts : List Act) :
    Synced (acts.foldl step w) := by
  induction acts generalizing w with
  | nil => exact h
  | cons a acts ih => exact ih (h.step a)

/-- However the server logs and the page polls in a run, each poll leaves the terminal showing the
whole log it brought. -/
theorem polled_shown (html : Text) (acts : List Act) :
    let w := acts.foldl step ⟨[], [], html⟩
    (step w .poll).page.innerHTML = termHTML w.log := by
  intro w
  have synced : Synced w := synced_foldl (Or.inl rfl) acts
  exact congrArg Screen.innerHTML synced.rendered

end GeneratorPi.Terminal
