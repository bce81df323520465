import GeneratorPi.Lib.PyText

/-!
# The short changelog

`tools/changelog.py` writes `CHANGELOG-RECENT.md`, the file the updater shows, from the first
releases of the full changelog.  The short file splits back into exactly the releases it was
written from (`splitSections_render`), so making it again from itself changes nothing, unless its
last release ends in one more rule (`render_again_iff`).
-/

namespace GeneratorPi.Changelog

open PyText

/-! ## Splitting and rendering (changelog.py) -/

/-- `## \d`, the start of a release. -/
def heading : Text → Bool
  | a :: b :: c :: d :: _ => a = '#' && b = '#' && c = ' ' && isDecimal d
  | _ => false

/-- The text before the first heading at the start of a line, and the text from each such heading up
to the next. -/
def sectionsFrom (lineStart : Bool) : Text → Text × List Text
  | [] => ([], [])
  | c :: rest =>
      let (before, sections) := sectionsFrom (c = '\n') rest
      if lineStart && heading (c :: rest) then ([], (c :: before) :: sections)
      else (c :: before, sections)

/-- `split_sections` -/
def splitSections (text : Text) : Text × List Text :=
  let (header, sections) := sectionsFrom true text
  if sections = [] then (text, []) else (header, sections.map fun s => rstrip s ++ ['\n'])

def isRule (line : Text) : Bool := strip line = ['-', '-', '-']

/-- A section without the rule after it. -/
def cleanSection (s : Text) : Text :=
  let body := (rstrip s).splitOn '\n'
  let body := if body.getLast?.any isRule then body.dropLast else body
  rstrip (['\n'].intercalate body)

/-- `sections[:keep]` -/
def firstOf {α : Type} (keep : ℤ) (sections : List α) : List α :=
  sections.take (if 0 ≤ keep then keep else sections.length + keep).toNat

def separator : Text := "\n\n---\n\n".toList

/-- The releases that `render` writes. -/
def cleaned (text : Text) (keep : ℤ) : List Text :=
  (firstOf keep (splitSections text).2).map cleanSection

/-- `render` -/
def render (text : Text) (keep : ℤ) : Text :=
  separator.intercalate (cleaned text keep) ++ ['\n']

/-! ## Headings and sections -/

theorem exists_of_heading {t : Text} (h : heading t = true) :
    ∃ d more, t = '#' :: '#' :: ' ' :: d :: more ∧ isDecimal d = true := by
  match t with
  | a :: b :: c :: d :: more =>
      simp only [heading, Bool.and_eq_true, decide_eq_true_eq] at h
      obtain ⟨⟨⟨rfl, rfl⟩, rfl⟩, digit⟩ := h
      exact ⟨d, more, rfl, digit⟩

theorem heading_append {t : Text} (h : heading t = true) (rest : Text) :
    heading (t ++ rest) = true := by
  obtain ⟨d, more, rfl, digit⟩ := exists_of_heading h
  exact digit

/-- A heading ends before its line does. -/
theorem heading_append_newline (t rest : Text) : heading (t ++ '\n' :: rest) = heading t := by
  have newline : isDecimal '\n' = false := by decide
  match t with
  | [] => rcases rest with _ | ⟨b, _ | ⟨c, _ | ⟨d, rest⟩⟩⟩ <;> simp [heading]
  | [a] => rcases rest with _ | ⟨b, _ | ⟨c, rest⟩⟩ <;> simp [heading]
  | [a, b] => rcases rest with _ | ⟨c, rest⟩ <;> simp [heading]
  | [a, b, c] => simp [heading, newline]
  | a :: b :: c :: d :: more => rfl

/-- A text that starts with a heading and has no other. -/
structure IsSection (t : Text) : Prop where
  starts : heading t = true
  alone : ∀ a b, t = a ++ '\n' :: b → heading b = false

theorem IsSection.of_prefix {s t : Text} (h : IsSection t) (initial : s <+: t)
    (starts : heading s = true) :
    IsSection s where
  starts := starts
  alone a b split := by
    obtain ⟨rest, rfl⟩ := initial
    have later := h.alone a (b ++ rest) (by rw [split]; simp)
    exact eq_false_of_ne_true fun also => by
      rw [heading_append also rest] at later
      cases later

theorem sectionsFrom_cons (lineStart : Bool) (c : Char) (rest : Text) :
    sectionsFrom lineStart (c :: rest) =
      if lineStart && heading (c :: rest) then
        ([], (c :: (sectionsFrom (c = '\n') rest).1) :: (sectionsFrom (c = '\n') rest).2)
      else (c :: (sectionsFrom (c = '\n') rest).1, (sectionsFrom (c = '\n') rest).2) := rfl

theorem sectionsFrom_flatten (lineStart : Bool) (t : Text) :
    (sectionsFrom lineStart t).1 ++ (sectionsFrom lineStart t).2.flatten = t := by
  induction t generalizing lineStart with
  | nil => rfl
  | cons c rest ih =>
      rw [sectionsFrom_cons]
      split
      case isTrue => rw [List.nil_append, List.flatten_cons, List.cons_append, ih]
      case isFalse => rw [List.cons_append, ih]

/-- No heading begins a line of the text, its first one apart. -/
def Headless (t : Text) : Prop := ∀ a b, t = a ++ '\n' :: b → heading b = false

theorem Headless.cons {c : Char} {t : Text} (h : Headless t)
    (first : c = '\n' → heading t = false) :
    Headless (c :: t) := by
  intro a b split
  cases a with
  | nil =>
      obtain ⟨newline, rfl⟩ := List.cons.inj split
      exact first newline
  | cons x a => exact h a b (List.cons.inj split).2

theorem Headless.tail {c : Char} {t : Text} (h : Headless (c :: t)) : Headless t := fun a b split =>
  h (c :: a) b (by rw [split]; rfl)

/-- Every section starts with its one heading, and what comes before has none. -/
theorem sectionsFrom_spec (lineStart : Bool) (t : Text) :
    (∀ s ∈ (sectionsFrom lineStart t).2, IsSection s) ∧ Headless (sectionsFrom lineStart t).1 ∧
      (lineStart = true → heading (sectionsFrom lineStart t).1 = false) := by
  induction t generalizing lineStart with
  | nil => exact ⟨fun _ none => (nomatch none), fun a b split => by simp [sectionsFrom] at split,
      fun _ => rfl⟩
  | cons c rest ih =>
      obtain ⟨sections, headless, first⟩ := ih (c = '\n')
      have inner : Headless (c :: (sectionsFrom (c = '\n') rest).1) :=
        headless.cons fun newline => first (decide_eq_true newline)
      rw [sectionsFrom_cons]
      split
      case isTrue cut =>
        obtain ⟨d, more, eq, digit⟩ := exists_of_heading (Bool.and_eq_true_iff.mp cut).2
        obtain ⟨rfl, rfl⟩ := List.cons.inj eq
        refine ⟨List.forall_mem_cons.mpr ⟨⟨?_, inner⟩, sections⟩,
          fun a b split => by simp at split, fun _ => rfl⟩
        simp [sectionsFrom_cons, heading, digit]
      case isFalse whole =>
        refine ⟨sections, inner, fun start => ?_⟩
        refine eq_false_of_ne_true fun also => whole ?_
        have longer := heading_append also (sectionsFrom (c = '\n') rest).2.flatten
        rw [List.cons_append, sectionsFrom_flatten] at longer
        rw [start, longer]
        rfl

/-! ## Joined sections -/

/-- A text without headings before further sections. -/
theorem sectionsFrom_headless (lineStart : Bool) {y rest : Text} {ss : List Text}
    (headless : Headless y) (later : sectionsFrom true rest = ([], ss))
    (first : lineStart = true → heading y = false) :
    sectionsFrom lineStart (y ++ '\n' :: rest) = (y ++ ['\n'], ss) := by
  induction y generalizing lineStart with
  | nil =>
      have plain : heading ('\n' :: rest) = false := heading_append_newline [] rest
      rw [List.nil_append, sectionsFrom_cons, plain, Bool.and_false, if_neg Bool.false_ne_true,
        decide_eq_true rfl, later]
      rfl
  | cons c y ih =>
      have inner := ih (decide (c = '\n')) headless.tail fun newline =>
        headless [] y (by rw [of_decide_eq_true newline]; rfl)
      have uncut : (lineStart && heading (c :: (y ++ '\n' :: rest))) = false := by
        rw [← List.cons_append, heading_append_newline]
        cases lineStart with
        | false => rfl
        | true => exact first rfl
      rw [List.cons_append, sectionsFrom_cons, uncut, if_neg Bool.false_ne_true, inner]
      rfl

theorem sectionsFrom_section {y rest : Text} {ss : List Text} (h : IsSection y)
    (later : sectionsFrom true rest = ([], ss)) :
    sectionsFrom true (y ++ '\n' :: rest) = ([], (y ++ ['\n']) :: ss) := by
  obtain ⟨d, more, rfl, -⟩ := exists_of_heading h.starts
  have inner := sectionsFrom_headless false (Headless.tail h.alone) later fun no => nomatch no
  have cut : (true && heading ('#' :: ('#' :: ' ' :: d :: more ++ '\n' :: rest))) = true := by
    rw [Bool.true_and]
    exact heading_append h.starts _
  rw [List.cons_append, sectionsFrom_cons, cut, if_pos rfl]
  have other : decide ('#' = '\n') = false := by decide
  rw [other, inner]
  rfl

theorem sectionsFrom_join {ys : List Text} (h : ∀ y ∈ ys, IsSection y) :
    sectionsFrom true (endLines ys) = ([], ys.map (· ++ ['\n'])) := by
  induction ys with
  | nil => rfl
  | cons y ys ih =>
      have later := ih fun z mem => h z (List.mem_cons_of_mem _ mem)
      have split : endLines (y :: ys) = y ++ '\n' :: endLines ys := by simp [endLines]
      rw [split, sectionsFrom_section (h y List.mem_cons_self) later, List.map_cons]

/-! ## Cleaned sections -/

theorem IsSection.rstrip {t : Text} (h : IsSection t) : IsSection (rstrip t) := by
  refine h.of_prefix (List.rdropWhile_prefix isSpace t) ?_
  obtain ⟨d, more, rfl, digit⟩ := exists_of_heading h.starts
  have solid : PyText.rstrip ['#', '#', ' ', d] = ['#', '#', ' ', d] :=
    rstrip_eq_self fun c last => by
      rw [← Option.some.inj last]
      exact isSpace_of_isDecimal digit
  have kept : PyText.rstrip ('#' :: '#' :: ' ' :: d :: more) =
      '#' :: '#' :: ' ' :: d :: PyText.rstrip more := by
    have split := rstrip_append ['#', '#', ' ', d] more
    split at split
    case isTrue blank =>
      rw [solid] at split
      rw [blank]
      exact split
    case isFalse => exact split
  rw [kept]
  exact digit

/-- The last line of the text is a rule. -/
def EndsInRule (t : Text) : Prop := (t.splitOn '\n').getLast?.any isRule = true

instance decidableEndsInRule (t : Text) : Decidable (EndsInRule t) :=
  inferInstanceAs (Decidable (_ = true))

/-- What is left of a text whose last line is dropped. -/
def dropLastLine (t : Text) : Text := PyText.rstrip (['\n'].intercalate (t.splitOn '\n').dropLast)

theorem cleanSection_eq (s : Text) :
    cleanSection s =
      if EndsInRule (PyText.rstrip s) then dropLastLine (PyText.rstrip s) else PyText.rstrip s := by
  have joined : ['\n'].intercalate ((PyText.rstrip s).splitOn '\n') = PyText.rstrip s :=
    List.intercalate_splitOn '\n'
  rw [cleanSection]
  by_cases ends : EndsInRule (PyText.rstrip s)
  · have rule : ((PyText.rstrip s).splitOn '\n').getLast?.any isRule = true := ends
    rw [if_pos ends, if_pos rule, dropLastLine]
  · have other : ¬ ((PyText.rstrip s).splitOn '\n').getLast?.any isRule = true := ends
    rw [if_neg ends, if_neg other, joined, rstrip_rstrip]

/-- A section that is written: it starts with its one heading and ends without white space. -/
structure IsRelease (t : Text) : Prop where
  isSection : IsSection t
  stripped : PyText.rstrip t = t

theorem intercalate_concat {sep last : Text} {front : List Text} (more : front ≠ []) :
    sep.intercalate (front ++ [last]) = sep.intercalate front ++ (sep ++ last) := by
  induction front with
  | nil => exact absurd rfl more
  | cons a front ih =>
      cases front with
      | nil => simp
      | cons b front =>
          rw [List.cons_append, List.cons_append, List.intercalate_cons_cons, ← List.cons_append,
            ih (List.cons_ne_nil _ _), List.intercalate_cons_cons]
          simp only [List.append_assoc]

/-- A section is no rule: its heading stands before a rule at its end. -/
theorem IsSection.split_rule {t : Text} (h : IsSection t) (ends : EndsInRule t) :
    ∃ front last, t = front ++ '\n' :: last ∧ dropLastLine t = PyText.rstrip front := by
  rcases List.eq_nil_or_concat' (t.splitOn '\n') with none | ⟨front, last, lines⟩
  · exact absurd none (List.splitOn_ne_nil _ _)
  have rule : isRule last = true := by
    rw [EndsInRule, lines, List.getLast?_concat] at ends
    simpa using ends
  have joined : ['\n'].intercalate (t.splitOn '\n') = t := List.intercalate_splitOn '\n'
  have more : front ≠ [] := by
    rintro rfl
    rw [lines, List.nil_append, List.intercalate_singleton] at joined
    rw [joined, isRule, decide_eq_true_eq] at rule
    obtain ⟨d, rest, eq, -⟩ := exists_of_heading h.starts
    have left : lstrip t = t := lstrip_eq_self fun c first => by
      rw [eq] at first
      rw [← Option.some.inj first]
      decide
    rw [strip, left] at rule
    have kept := h.rstrip.starts
    rw [rule] at kept
    cases kept
  rw [lines, intercalate_concat more] at joined
  exact ⟨_, last, joined.symm, by rw [dropLastLine, lines, List.dropLast_concat]⟩

theorem IsSection.dropLastLine {t : Text} (h : IsSection t) (ends : EndsInRule t) :
    IsRelease (dropLastLine t) := by
  obtain ⟨front, last, split, dropped⟩ := h.split_rule ends
  have initial : front <+: t := ⟨_, split.symm⟩
  have starts : heading front = true := by
    rw [← heading_append_newline _ last, ← split]
    exact h.starts
  rw [dropped]
  exact ⟨(h.of_prefix initial starts).rstrip, rstrip_rstrip _⟩

theorem IsRelease.dropLastLine_ne {t : Text} (h : IsRelease t) (ends : EndsInRule t) :
    Changelog.dropLastLine t ≠ t := by
  obtain ⟨front, last, split, dropped⟩ := h.isSection.split_rule ends
  intro same
  have shorter := (List.rdropWhile_prefix isSpace front).length_le
  have lengths := congrArg List.length split
  rw [dropped] at same
  have whole := congrArg List.length same
  rw [List.length_append, List.length_cons] at lengths
  change (PyText.rstrip front).length ≤ front.length at shorter
  omega

theorem IsSection.cleanSection {t : Text} (h : IsSection t) :
    IsRelease (cleanSection (PyText.rstrip t ++ ['\n'])) := by
  have stripped : PyText.rstrip (PyText.rstrip t ++ ['\n']) = PyText.rstrip t := by
    rw [rstrip_append, if_pos (by decide), rstrip_rstrip]
  rw [cleanSection_eq, stripped]
  split
  case isTrue ends => exact h.rstrip.dropLastLine ends
  case isFalse => exact ⟨h.rstrip, rstrip_rstrip t⟩

theorem isRelease_of_mem_cleaned {text : Text} {keep : ℤ} {c : Text} (mem : c ∈ cleaned text keep) :
    IsRelease c := by
  obtain ⟨s, first, rfl⟩ := List.mem_map.mp mem
  have listed : s ∈ (splitSections text).2 := List.mem_of_mem_take first
  rw [splitSections] at listed
  dsimp only at listed
  split at listed
  case isTrue => cases listed
  case isFalse =>
    obtain ⟨raw, of_sections, rfl⟩ := List.mem_map.mp listed
    exact ((sectionsFrom_spec true text).1 raw of_sections).cleanSection

/-! ## The short file read back -/

/-- What `split_sections` leaves of a rule between two releases. -/
def rule : Text := "\n\n---\n".toList

/-- The releases with the rules between them, each up to its last newline. -/
def padded : List Text → List Text
  | [] => []
  | [c] => [c]
  | c :: d :: rest => (c ++ rule) :: padded (d :: rest)

/-- The releases as the short file has them. -/
def released : List Text → List Text
  | [] => []
  | [c] => [c ++ ['\n']]
  | c :: d :: rest => (c ++ rule) :: released (d :: rest)

theorem rule_eq : rule = ['\n', '\n', '-', '-', '-', '\n'] := by decide

theorem endLines_padded {cs : List Text} (some_release : cs ≠ []) :
    separator.intercalate cs ++ ['\n'] = endLines (padded cs) := by
  have split : separator = rule ++ ['\n'] := by decide
  induction cs using padded.induct with
  | case1 => exact absurd rfl some_release
  | case2 c => simp [padded, endLines]
  | case3 c d rest ih =>
      have later := ih (List.cons_ne_nil _ _)
      rw [endLines] at later
      rw [List.intercalate_cons_cons, List.append_assoc, later, padded, endLines, List.flatMap_cons,
        split]
      simp only [List.append_assoc]

theorem Headless.append_newline {t rest : Text} (h : Headless t) (more : Headless ('\n' :: rest)) :
    Headless (t ++ '\n' :: rest) := by
  induction t with
  | nil => exact more
  | cons c t ih =>
      refine (ih h.tail).cons fun newline => ?_
      rw [heading_append_newline]
      exact h [] t (by rw [newline]; rfl)

theorem headless_rule : Headless ['\n', '\n', '-', '-', '-', '\n'] := by
  have none : Headless [] := fun a b split => by simp at split
  exact (((((none.cons fun _ => rfl).cons fun _ => rfl).cons fun _ => rfl).cons fun _ => rfl).cons
    fun _ => rfl).cons fun _ => rfl

theorem IsSection.append_rule {t : Text} (h : IsSection t) : IsSection (t ++ rule) where
  starts := heading_append h.starts rule
  alone := by
    rw [rule_eq]
    exact Headless.append_newline h.alone headless_rule

theorem isSection_of_mem_padded {cs : List Text} (h : ∀ c ∈ cs, IsRelease c) :
    ∀ y ∈ padded cs, IsSection y := by
  induction cs using padded.induct with
  | case1 => exact fun _ none => (nomatch none)
  | case2 c => simpa [padded] using (h c List.mem_cons_self).isSection
  | case3 c d rest ih =>
      exact List.forall_mem_cons.mpr ⟨(h c List.mem_cons_self).isSection.append_rule,
        ih fun e mem => h e (List.mem_cons_of_mem _ mem)⟩

theorem rstrip_append_rule (c : Text) :
    PyText.rstrip (c ++ rule) = c ++ ['\n', '\n', '-', '-', '-'] := by
  have stripped : PyText.rstrip rule = ['\n', '\n', '-', '-', '-'] := by decide
  rw [rstrip_append, stripped, if_neg (List.cons_ne_nil _ _)]

theorem rstrip_append_newline (c : Text) : PyText.rstrip (c ++ ['\n']) = PyText.rstrip c := by
  rw [rstrip_append, if_pos (by decide)]

theorem released_eq {cs : List Text} (h : ∀ c ∈ cs, IsRelease c) :
    ((padded cs).map (· ++ ['\n'])).map (fun s => PyText.rstrip s ++ ['\n']) = released cs := by
  induction cs using padded.induct with
  | case1 => rfl
  | case2 c =>
      have stripped := (h c List.mem_cons_self).stripped
      simp only [padded, released, List.map_cons, List.map_nil, rstrip_append_newline, stripped]
  | case3 c d rest ih =>
      have later := ih fun e mem => h e (List.mem_cons_of_mem _ mem)
      rw [padded, released, List.map_cons, List.map_cons, later, rstrip_append_newline,
        rstrip_append_rule, rule_eq, List.append_assoc]
      rfl

theorem splitSections_render {text : Text} {keep : ℤ} (some_release : cleaned text keep ≠ []) :
    splitSections (render text keep) = ([], released (cleaned text keep)) := by
  have releases : ∀ c ∈ cleaned text keep, IsRelease c := fun c => isRelease_of_mem_cleaned
  have sections := sectionsFrom_join (isSection_of_mem_padded releases)
  have some_section : (padded (cleaned text keep)).map (· ++ ['\n']) ≠ [] := by
    intro none
    rw [List.map_eq_nil_iff] at none
    cases kept : cleaned text keep with
    | nil => exact some_release kept
    | cons c rest => cases rest <;> simp [kept, padded] at none
  rw [render, endLines_padded some_release, splitSections, sections]
  dsimp only
  rw [if_neg some_section, released_eq releases]

/-! ## The short file made from itself -/

/-- The releases cleaned once more. -/
def again : List Text → List Text
  | [] => []
  | [c] => [if EndsInRule c then dropLastLine c else c]
  | c :: d :: rest => c :: again (d :: rest)

theorem cleanSection_append_rule {c : Text} (h : IsRelease c) : cleanSection (c ++ rule) = c := by
  have lines : (c ++ ['\n', '\n', '-', '-', '-']).splitOn '\n' =
      c.splitOn '\n' ++ [[], ['-', '-', '-']] := by
    rw [List.splitOn_append_cons_self]
    congr 1
  have ends : EndsInRule (c ++ ['\n', '\n', '-', '-', '-']) := by
    have last : [[], ['-', '-', '-']].getLast? = some ['-', '-', '-'] := rfl
    rw [EndsInRule, lines, List.getLast?_append, last, Option.some_or, Option.any_some]
    decide
  have front : (c.splitOn '\n' ++ [[], ['-', '-', '-']]).dropLast = c.splitOn '\n' ++ [[]] := by
    rw [List.dropLast_append_of_ne_nil (List.cons_ne_nil _ _)]
    rfl
  have joined : ['\n'].intercalate (c.splitOn '\n') = c := List.intercalate_splitOn '\n'
  rw [cleanSection_eq, rstrip_append_rule, if_pos ends, dropLastLine, lines, front,
    intercalate_concat (List.splitOn_ne_nil _ _), joined, List.append_nil, rstrip_append_newline,
    h.stripped]

theorem cleanSection_append_newline {c : Text} (h : IsRelease c) :
    cleanSection (c ++ ['\n']) = if EndsInRule c then dropLastLine c else c := by
  rw [cleanSection_eq, rstrip_append_newline, h.stripped]

theorem map_cleanSection_released {cs : List Text} (h : ∀ c ∈ cs, IsRelease c) :
    (released cs).map cleanSection = again cs := by
  induction cs using released.induct with
  | case1 => rfl
  | case2 c =>
      rw [released, List.map_cons, cleanSection_append_newline (h c List.mem_cons_self)]
      rfl
  | case3 c d rest ih =>
      rw [released, List.map_cons, cleanSection_append_rule (h c List.mem_cons_self),
        ih fun e mem => h e (List.mem_cons_of_mem _ mem), again]

theorem length_released (cs : List Text) : (released cs).length = cs.length := by
  induction cs using released.induct with
  | case1 => rfl
  | case2 c => rfl
  | case3 c d rest ih => rw [released, List.length_cons, ih, List.length_cons, List.length_cons,
      List.length_cons]

theorem length_cleaned_le {text : Text} {keep : ℤ} (natural : 0 ≤ keep) :
    (cleaned text keep).length ≤ keep.toNat := by
  rw [cleaned, List.length_map, firstOf, if_pos natural]
  exact List.length_take_le _ _

theorem cleaned_render {text : Text} {keep : ℤ} (natural : 0 ≤ keep)
    (some_release : cleaned text keep ≠ []) :
    cleaned (render text keep) keep = again (cleaned text keep) := by
  have all : firstOf keep (released (cleaned text keep)) = released (cleaned text keep) := by
    rw [firstOf, if_pos natural]
    refine List.take_of_length_le ?_
    rw [length_released]
    exact length_cleaned_le natural
  rw [cleaned, splitSections_render some_release, all,
    map_cleanSection_released fun c => isRelease_of_mem_cleaned]

theorem intercalate_again_iff {cs : List Text} (h : ∀ c ∈ cs, IsRelease c) :
    separator.intercalate (again cs) = separator.intercalate cs ↔
      ∀ c ∈ cs.getLast?, ¬ EndsInRule c := by
  induction cs using again.induct with
  | case1 => simp [again]
  | case2 c =>
      have release := h c List.mem_cons_self
      rw [again, List.intercalate_singleton, List.intercalate_singleton]
      by_cases ends : EndsInRule c
      · simp [ends, release.dropLastLine_ne ends]
      · simp [ends]
  | case3 c d rest ih =>
      have later := ih fun e mem => h e (List.mem_cons_of_mem _ mem)
      have more : again (d :: rest) ≠ [] := by cases rest <;> simp [again]
      rw [again, List.intercalate_cons_of_ne_nil more, List.intercalate_cons_cons,
        List.append_cancel_left_eq, later, List.getLast?_cons_cons]

/-- The short file splits into exactly the releases it was written from, with nothing before them;
and making it from itself gives it back exactly if its last release does not end in one more
rule. -/
theorem recent_reads_back {text : Text} {keep : ℤ} (natural : 0 ≤ keep)
    (some_release : cleaned text keep ≠ []) :
    splitSections (render text keep) = ([], released (cleaned text keep)) ∧
      (render (render text keep) keep = render text keep ↔
        ∀ c ∈ (cleaned text keep).getLast?, ¬ EndsInRule c) := by
  refine ⟨splitSections_render some_release, ?_⟩
  rw [render, cleaned_render natural some_release, render, List.append_cancel_right_eq,
    intercalate_again_iff fun c => isRelease_of_mem_cleaned]

def twoReleases : Text := "Intro\n\n## 1.1\n- b\n\n---\n\n## 1.0\n- a\n".toList

theorem twoReleases_read_back :
    splitSections (render twoReleases 5) = ([], released (cleaned twoReleases 5)) ∧
      (render (render twoReleases 5) 5 = render twoReleases 5 ↔
        ∀ c ∈ (cleaned twoReleases 5).getLast?, ¬ EndsInRule c) :=
  recent_reads_back (by decide) (by decide)

end GeneratorPi.Changelog
