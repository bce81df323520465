import GeneratorPi.Lib.FileTree
import GeneratorPi.Secrets

/-!
# Rewriting the settings file

What a start of the process changes in the settings file (`parse_env_file`, `genpi/config.py`), line
by line: it hashes plaintext passwords and drops lines for a second API key (`LineEdits`), puts
generated secrets on their first line or behind all lines (`Fills`), and then replaces the file in
one step by a temporary one that has the new lines (`persist`).
-/

namespace GeneratorPi

open PyText NamedLines FileTree

variable {rt : Runtime} {p : Startup} {verifies : Text → Text → Bool}

/-! ## The pass over the lines -/

/-- A user's line whose value is no hash. -/
def PlaintextUser (line name password : Text) : Prop :=
  keyValue? line = some (userKey name, password) ∧ name ≠ [] ∧ isHash password = false

/-- A line for the API key behind one that gives a key. -/
def LaterApiKey (before : List Text) (line : Text) : Prop :=
  (∃ value, keyValue? line = some (apiKeyName, value)) ∧
    ∃ value ∈ reading.values apiKeyName before, value ≠ []

/-- What becomes of the lines behind `before`, and whether any is not kept. -/
inductive LineEdits (verifies : Text → Text → Bool) :
    List Text → List Text → List Text → Bool → Prop
  | nil {before : List Text} : LineEdits verifies before [] [] false
  | keep {before lines kept : List Text} {line : Text} {edited : Bool} :
    (∀ name password, ¬ PlaintextUser line name password) → ¬ LaterApiKey before line →
    LineEdits verifies (before ++ [line]) lines kept edited →
    LineEdits verifies before (line :: lines) (line :: kept) edited
  | hash {before lines kept : List Text} {line name password hash : Text} {edited : Bool} :
    PlaintextUser line name password → isHash hash = true → verifies hash password = true →
    LineEdits verifies (before ++ [line]) lines kept edited →
    LineEdits verifies before (line :: lines) (settingLine (userKey name) hash :: kept) true
  | drop {before lines kept : List Text} {line : Text} {edited : Bool} :
    LaterApiKey before line → LineEdits verifies (before ++ [line]) lines kept edited →
    LineEdits verifies before (line :: lines) kept true

theorem LineEdits.eq_of_unedited {before lines kept : List Text}
    (h : LineEdits verifies before lines kept false) : kept = lines := by
  induction lines generalizing before kept with
  | nil =>
      cases h
      rfl
  | cons line lines ih =>
      cases h with
      | keep _ _ rest => rw [ih rest]

/-- The first line is not dropped. -/
theorem LineEdits.ne_nil {before lines kept : List Text}
    (h : LineEdits verifies before lines kept true)
    (fresh : reading.values apiKeyName before = []) : kept ≠ [] := by
  cases h with
  | keep | hash => exact List.cons_ne_nil _ _
  | drop later _ =>
      obtain ⟨-, value, given, -⟩ := later
      rw [fresh] at given
      cases given

/-- An API key is in use once a line has given one. -/
theorem foldl_absorb_nonempty (values : List Text) :
    Setting.asText (values.foldl (absorb rt apiKeyName) (some (.text []))) ≠ [] ↔
      ∃ value ∈ values, value ≠ [] := by
  induction values with
  | nil =>
      have none : ¬ ∃ value ∈ ([] : List Text), value ≠ [] := fun ⟨_, mem, _⟩ => (nomatch mem)
      exact iff_of_false (not_not.mpr rfl) none
  | cons value rest ih =>
      have taken : absorb rt apiKeyName (some (.text [])) value = some (.text value) := by
        rw [absorb, if_neg (by decide), if_pos rfl]
        rfl
      rw [List.foldl_cons, taken]
      by_cases blank : value = []
      · subst blank
        rw [ih]
        simp
      · rw [foldl_absorb_apiKey blank]
        exact iff_of_true blank ⟨value, List.mem_cons_self, blank⟩

theorem scan_apiKey (rt : Runtime) (p : Startup) (before : List Text) :
    Setting.asText ((scan rt p before).config apiKeyName) ≠ [] ↔
      ∃ value ∈ reading.values apiKeyName before, value ≠ [] := by
  rw [(scan_reads rt p before).config]
  exact foldl_absorb_nonempty _

theorem scan_concat (before : List Text) (line : Text) :
    scan rt p (before ++ [line]) = (scan rt p before).line rt p line := by
  rw [scan, List.foldl_append]
  rfl

/-- What one line adds to the new file. -/
inductive LineStep (p : Startup) (s s' : Scan) (line : Text) : Prop
  | keep : (∀ name password, ¬ PlaintextUser line name password) →
    (∀ value, keyValue? line = some (apiKeyName, value) →
      Setting.asText (s.config apiKeyName) = []) →
    s'.newLines = s.newLines ++ [line] → s'.needsRewrite = s.needsRewrite → LineStep p s s' line
  | hash (name password : Text) : PlaintextUser line name password →
    s'.newLines = s.newLines ++ [settingLine (userKey name) (p.hash s.hashed password).text] →
    s'.needsRewrite = true → LineStep p s s' line
  | drop (value : Text) : keyValue? line = some (apiKeyName, value) →
    Setting.asText (s.config apiKeyName) ≠ [] →
    s'.newLines = s.newLines → s'.needsRewrite = true → LineStep p s s' line

/-- A line under another key is kept. -/
theorem lineStep_other {s s' : Scan} {line key value : Text}
    (entry : keyValue? line = some (key, value)) (notUser : ¬ userPrefix.isPrefixOf key)
    (notKnown : key = apiKeyName → Setting.asText (s.config apiKeyName) = [])
    (newLines : s'.newLines = s.newLines ++ [line])
    (unchanged : s'.needsRewrite = s.needsRewrite) : LineStep p s s' line := by
  refine .keep (fun name password plaintext => ?_) (fun v api => ?_) newLines unchanged
  · have same := plaintext.1.symm.trans entry
    cases same
    exact notUser (isPrefixOf_userKey name)
  · have same := api.symm.trans entry
    cases same
    exact notKnown rfl

theorem lineStep_user {s : Scan} {line name value : Text}
    (entry : keyValue? line = some (userKey name, value)) :
    LineStep p s (s.userLine p line name value) line := by
  have notApi : ∀ v, keyValue? line = some (apiKeyName, v) →
      Setting.asText (s.config apiKeyName) = [] := fun v api => by
    have same := congrArg Prod.fst (Option.some.inj (entry.symm.trans api))
    have user := isPrefixOf_userKey name
    rw [show userKey name = apiKeyName from same] at user
    exact absurd user (by decide)
  have isUser {other password : Text} (plaintext : PlaintextUser line other password) :
      other = name ∧ password = value := by
    have same := Option.some.inj (plaintext.1.symm.trans entry)
    exact ⟨List.append_cancel_left (congrArg Prod.fst same), congrArg Prod.snd same⟩
  rw [Scan.userLine]
  by_cases unnamed : name = []
  · rw [if_pos unnamed]
    refine .keep (fun other password plaintext => ?_) notApi rfl rfl
    exact plaintext.2.1 ((isUser plaintext).1.trans unnamed)
  rw [if_neg unnamed]
  by_cases hashed : isHash value
  · rw [if_pos hashed]
    refine .keep (fun other password plaintext => ?_) notApi rfl rfl
    have no := plaintext.2.2
    rw [(isUser plaintext).2, hashed] at no
    cases no
  · rw [if_neg hashed]
    exact .hash name value ⟨entry, unnamed, eq_false_of_ne_true hashed⟩ rfl rfl

theorem lineStep (rt : Runtime) (p : Startup) (s : Scan) (line : Text) :
    LineStep p s (s.line rt p line) line := by
  rw [Scan.line]
  cases entry : keyValue? line with
  | none =>
      refine .keep (fun _ _ plaintext => ?_) (fun _ api => ?_) rfl rfl
      · cases entry.symm.trans plaintext.1
      · cases entry.symm.trans api
  | some e =>
      obtain ⟨key, value⟩ := e
      dsimp only
      by_cases user : userPrefix.isPrefixOf key
      · rw [if_pos user]
        obtain ⟨name, rfl⟩ := List.isPrefixOf_iff_prefix.mp user
        exact lineStep_user entry
      rw [if_neg user]
      by_cases api : key = apiKeyName
      · rw [if_pos api]
        subst api
        by_cases known : Setting.asText (s.config apiKeyName) ≠ []
        · rw [if_pos known]
          exact .drop value entry known rfl rfl
        · rw [if_neg known]
          exact lineStep_other entry user (fun _ => not_not.mp known) rfl rfl
      · rw [if_neg api]
        cases s.config key with
        | none => exact lineStep_other entry user (fun same => absurd same api) rfl rfl
        | some default => exact lineStep_other entry user (fun same => absurd same api) rfl rfl

/-- The pass over any lines. -/
theorem lineEdits_of_scan (rt : Runtime)
    (correct : ∀ n password, verifies (p.hash n password).text password = true)
    (before lines : List Text) :
    ∃ kept edited, LineEdits verifies before lines kept edited ∧
      (scan rt p (before ++ lines)).newLines = (scan rt p before).newLines ++ kept ∧
      (scan rt p (before ++ lines)).needsRewrite =
        ((scan rt p before).needsRewrite || edited) := by
  induction lines generalizing before with
  | nil =>
      refine ⟨[], false, .nil, ?_, ?_⟩
      · rw [List.append_nil, List.append_nil]
      · rw [List.append_nil, Bool.or_false]
  | cons line lines ih =>
      obtain ⟨kept, edited, edits, newLines, needsRewrite⟩ := ih (before ++ [line])
      rw [List.append_assoc, List.singleton_append, scan_concat] at newLines needsRewrite
      have known := scan_apiKey rt p before
      cases lineStep rt p (scan rt p before) line with
      | keep noUser notLater here unchanged =>
          refine ⟨line :: kept, edited, .keep noUser (fun later => ?_) edits, ?_, ?_⟩
          · obtain ⟨⟨value, entry⟩, given⟩ := later
            exact known.mpr given (notLater value entry)
          · rw [newLines, here, List.append_assoc, List.singleton_append]
          · rw [needsRewrite, unchanged]
      | hash name password plaintext here rewrites =>
          let n := (scan rt p before).hashed
          refine ⟨_ :: kept, true, .hash plaintext (p.hash n password).method
            (correct n password) edits, ?_, ?_⟩
          · rw [newLines, here, List.append_assoc, List.singleton_append]
          · rw [needsRewrite, rewrites, Bool.true_or, Bool.or_true]
      | drop value entry given here rewrites =>
          refine ⟨kept, true, .drop ⟨⟨value, entry⟩, known.mp given⟩ edits, ?_, ?_⟩
          · rw [newLines, here]
          · rw [needsRewrite, rewrites, Bool.true_or, Bool.or_true]

/-! ## Generated secrets -/

/-- The secrets that are generated, in the order in which they are put into the lines. -/
def generatedSecrets (rt : Runtime) (p : Startup) (s : Scan) : List (Text × Text) :=
  (if s.lacksApiKey then [(apiKeyName, p.token.text)] else []) ++
    (if s.lacksVapid rt then
      p.keys.elim [] fun pair => [(vapidPublicName, pair.publicKey.text),
        (vapidPrivateName, pair.privateKey.text)]
    else [])

/-- A secret on the first line of its name, or behind all lines, perhaps after a comment. -/
inductive Fill (key value : Text) : List Text → List Text → Prop
  | first {a b : List Text} {old : Text} : (∀ l ∈ a, lineName l ≠ key) → lineName old = key →
    Fill key value (a ++ old :: b) (a ++ settingLine key value :: b)
  | append {lines comment : List Text} : (∀ l ∈ lines, lineName l ≠ key) →
    (∀ l ∈ comment, l = [] ∨ l.head? = some '#') →
    Fill key value lines (lines ++ (comment ++ [settingLine key value]))

inductive Fills : List (Text × Text) → List Text → List Text → Prop
  | nil {lines : List Text} : Fills [] lines lines
  | cons {key value : Text} {secrets : List (Text × Text)} {lines m lines' : List Text} :
    Fill key value lines m → Fills secrets m lines' → Fills ((key, value) :: secrets) lines lines'

theorem Fills.single {key value : Text} {lines lines' : List Text}
    (fill : Fill key value lines lines') : Fills [(key, value)] lines lines' := .cons fill .nil

theorem Fills.append {as bs : List (Text × Text)} {lines m lines' : List Text}
    (first : Fills as lines m) (second : Fills bs m lines') : Fills (as ++ bs) lines lines' := by
  induction first with
  | nil => exact second
  | cons fill _ ih => exact .cons fill (ih second)

theorem Fills.ne_nil {secrets : List (Text × Text)} {lines lines' : List Text}
    (h : Fills secrets lines lines') (nonempty : secrets ≠ [] ∨ lines ≠ []) : lines' ≠ [] := by
  induction h with
  | nil => exact nonempty.resolve_left fun no => no rfl
  | cons fill _ ih =>
      refine ih (Or.inr ?_)
      cases fill <;> simp

theorem fill_fillFirst (key value : Text) {comment : List Text}
    (isComment : ∀ l ∈ comment, l = [] ∨ l.head? = some '#') (lines : List Text) :
    Fill key value lines
      (fillFirst (lineName · = key) comment (settingLine key value) lines) := by
  have other {l : Text} (h : decide (lineName l = key) = false) : lineName l ≠ key :=
    of_decide_eq_false h
  rcases fillFirst_cases (lineName · = key) comment (settingLine key value) lines with
    ⟨a, old, b, rfl, bears, none, filled⟩ | ⟨none, filled⟩
  · rw [filled]
    exact .first (fun l mem => other (none l mem)) (of_decide_eq_true bears)
  · rw [filled]
    exact .append (fun l mem => other (none l mem)) isComment

theorem fills_withKeyPair (pair : KeyPair) (lines : List Text) :
    Fills [(vapidPublicName, pair.publicKey.text), (vapidPrivateName, pair.privateKey.text)] lines
      (withKeyPair pair lines) := by
  have noComment : ∀ l ∈ ([] : List Text), l = [] ∨ l.head? = some '#' := fun _ mem => (nomatch mem)
  rw [withKeyPair]
  split
  case isTrue =>
    exact .cons (fill_fillFirst _ _ noComment lines) (.single (fill_fillFirst _ _ noComment _))
  case isFalse absent =>
    simp only [List.any_eq_true, Bool.or_eq_true, decide_eq_true_eq, not_exists, not_and,
      not_or] at absent
    have comments : ∀ l ∈ vapidBlock, l = [] ∨ l.head? = some '#' :=
      fun l mem => (block_lines l (List.mem_append_right _ mem)).2.2
    have clear : Clear vapidPrivateName := ⟨by decide, by decide⟩
    have noPrivate : ∀ l ∈ lines ++ (vapidBlock ++
        [settingLine vapidPublicName pair.publicKey.text]), lineName l ≠ vapidPrivateName := by
      simp only [List.forall_mem_append, List.forall_mem_singleton]
      refine ⟨fun l mem => (absent l mem).1, ?_, ?_⟩
      · exact marks_eq_nil_iff.mp (clear.marks_block (List.subset_append_right ..))
      · rw [lineName_settingLine plainKey_vapidPublic]
        decide
    have behind : Fill vapidPrivateName pair.privateKey.text _ _ :=
      .append noPrivate noComment
    rw [List.nil_append, List.append_assoc, List.append_assoc, List.singleton_append] at behind
    exact .cons (.append (fun l mem => (absent l mem).2) comments) (.single behind)

/-- A generation fills these secrets in, and the file is rewritten if there is one. -/
structure Generates (s s' : Scan) (secrets : List (Text × Text)) : Prop where
  fills : Fills secrets s.newLines s'.newLines
  rewrites : s'.needsRewrite = (s.needsRewrite || !secrets.isEmpty)

theorem Generates.refl (s : Scan) : Generates s s [] := ⟨.nil, (Bool.or_false _).symm⟩

theorem Generates.trans {s m s' : Scan} {as bs : List (Text × Text)} (first : Generates s m as)
    (second : Generates m s' bs) : Generates s s' (as ++ bs) where
  fills := first.fills.append second.fills
  rewrites := by
    rw [second.rewrites, first.rewrites, Bool.or_assoc]
    cases as with
    | nil => rfl
    | cons => rfl

theorem generates_apiKey (s : Scan) :
    Generates s (s.provisionApiKey p)
      (if s.lacksApiKey then [(apiKeyName, p.token.text)] else []) := by
  rw [Scan.provisionApiKey]
  split
  case isTrue =>
    refine ⟨.single (fill_fillFirst apiKeyName p.token.text ?_ s.newLines), (Bool.or_true _).symm⟩
    exact fun l mem => (block_lines l (List.mem_append_left _ mem)).2.2
  case isFalse => exact .refl s

theorem generates_vapid (rt : Runtime) (p : Startup) (s : Scan) :
    Generates s (s.provisionVapid rt p)
      (if s.lacksVapid rt then
        p.keys.elim [] fun pair => [(vapidPublicName, pair.publicKey.text),
          (vapidPrivateName, pair.privateKey.text)]
      else []) := by
  rw [Scan.provisionVapid]
  split
  case isTrue =>
    cases p.keys with
    | none => exact .refl s
    | some pair => exact ⟨fills_withKeyPair pair s.newLines, (Bool.or_true _).symm⟩
  case isFalse => exact .refl s

theorem generates_provisioned (rt : Runtime) (p : Startup) (lines : List Text) :
    Generates (scan rt p lines) (provisioned rt p lines)
      (generatedSecrets rt p (scan rt p lines)) := by
  have vapid := generates_vapid rt p ((scan rt p lines).provisionApiKey p)
  rw [lacksVapid_provisionApiKey] at vapid
  exact (generates_apiKey _).trans vapid

/-! ## Replacing the file -/

inductive StepEnd where
  | done
  | osError
  /-- An exception of another kind. -/
  | raised
  deriving DecidableEq

/-- What the steps of the write meet. -/
structure WriteSteps where
  mkstemp : Bool
  /-- How `fdopen`, `write` and the close end, and what they leave in the temporary file if they do
  not end well. -/
  write : StepEnd
  part : Text
  rename : Bool
  /-- Removing the temporary file after an `OSError`. -/
  unlink : Bool

def WriteSteps.succeed (steps : WriteSteps) : Bool :=
  steps.mkstemp && steps.write = .done && steps.rename

inductive RewriteEnd where
  | untouched
  | written
  /-- `sys.exit(1)` -/
  | exited
  /-- The exception is not caught. -/
  | raised
  deriving DecidableEq

section Files

variable {κ : Type} (env tmp : κ) (steps : WriteSteps)

/-- A file is replaced by its new content or left as it is. -/
structure Persists (content : Text) (t : Tree κ Text) (result : Tree κ Text × RewriteEnd) :
    Prop where
  touched : result.2 ≠ .untouched
  written : result.2 = .written ↔ steps.succeed = true
  replaced : result.2 = .written → result.1 env = some content
  kept : result.2 ≠ .written → result.1 env = t env
  others : AgreeOff {env, tmp} t result.1

/-- A write that does not come to its end. -/
theorem Persists.of_fails {env tmp : κ} {steps : WriteSteps} {t : Tree κ Text} {content : Text}
    {result : Tree κ Text × RewriteEnd}
    (fails : steps.succeed = false) (ended : result.2 = .exited ∨ result.2 = .raised)
    (kept : result.1 env = t env) (others : AgreeOff {env, tmp} t result.1) :
    Persists env tmp steps content t result where
  touched same := by rcases ended with eq | eq <;> cases eq.symm.trans same
  written := by
    rw [fails]
    refine iff_of_false (fun same => ?_) Bool.false_ne_true
    rcases ended with eq | eq <;> cases eq.symm.trans same
  replaced same := by rcases ended with eq | eq <;> cases eq.symm.trans same
  kept _ := kept
  others := others

variable [DecidableEq κ]

/-- The handler of an `OSError`. -/
def discard (t : Tree κ Text) : Tree κ Text × RewriteEnd :=
  if steps.unlink then (unlink t tmp, .exited) else (t, .raised)

/-- The new content by way of a temporary file.  (The `chmod` that follows changes no content, and
its failure is ignored.) -/
def persist (content : Text) (t : Tree κ Text) : Tree κ Text × RewriteEnd :=
  if steps.mkstemp then
    match steps.write with
    | .raised => (write t tmp steps.part, .raised)
    | .osError => discard tmp steps (write t tmp steps.part)
    | .done =>
        match steps.rename, rename (write t tmp content) tmp env with
        | true, some t => (t, .written)
        | _, _ => discard tmp steps (write t tmp content)
  else (t, .raised)

/-- What `parse_env_file` does with the settings file. -/
def rewriteSettings (rt : Runtime) (p : Startup) (t : Tree κ Text) : Tree κ Text × RewriteEnd :=
  match t env with
  | none => (t, .untouched)
  | some content =>
      let s := provisioned rt p (splitlines content)
      if s.needsRewrite then persist env tmp steps (joinLines s.newLines) t else (t, .untouched)

variable {env tmp steps}

theorem discard_persists (apart : env ≠ tmp) (content part : Text) (t : Tree κ Text)
    (fails : steps.succeed = false) :
    Persists env tmp steps content t (discard tmp steps (write t tmp part)) := by
  have begun : AgreeOff {env, tmp} t (write t tmp part) :=
    (AgreeOff.refl _ t).write (Or.inr rfl) part
  rw [discard]
  split
  case isTrue =>
    refine .of_fails fails (Or.inl rfl) ?_ (begun.unlink (Or.inr rfl))
    exact (unlink_of_ne _ apart).trans (write_of_ne _ _ apart)
  case isFalse => exact .of_fails fails (Or.inr rfl) (write_of_ne _ _ apart) begun

/-- Only a write all of whose steps succeed changes the file. -/
theorem persist_persists (steps : WriteSteps) (apart : env ≠ tmp) (content : Text)
    (t : Tree κ Text) :
    Persists env tmp steps content t (persist env tmp steps content t) := by
  have begun (part : Text) : AgreeOff {env, tmp} t (write t tmp part) :=
    (AgreeOff.refl _ t).write (Or.inr rfl) part
  rw [persist]
  split
  case isFalse fails =>
    refine .of_fails ?_ (Or.inr rfl) rfl (.refl _ t)
    rw [WriteSteps.succeed, eq_false_of_ne_true fails]
    rfl
  case isTrue created =>
    cases ended : steps.write with
    | raised =>
        refine .of_fails ?_ (Or.inr rfl) (write_of_ne _ _ apart) (begun _)
        rw [WriteSteps.succeed, ended]
        simp
    | osError =>
        refine discard_persists apart content _ t ?_
        rw [WriteSteps.succeed, ended]
        simp
    | done =>
        have found : rename (write t tmp content) tmp env =
            some (write (unlink (write t tmp content) tmp) env content) := by
          rw [rename, write_same]
          rfl
        have succeed : steps.succeed = steps.rename := by
          rw [WriteSteps.succeed, created, ended]
          simp
        rw [found]
        cases renamed : steps.rename with
        | false => exact discard_persists apart content content t (succeed.trans renamed)
        | true =>
            refine ⟨(nomatch ·), iff_of_true rfl (succeed.trans renamed), fun _ => ?_,
              fun no => absurd rfl no, ?_⟩
            · exact write_same _ _ _
            · exact ((begun content).unlink (Or.inr rfl)).write (Or.inl rfl) content

/-! ## The rewrite -/

/-- What a start does with a settings file of this content: `edited` tells whether a password was
hashed or a line dropped. -/
structure Rewrites (env tmp : κ) (steps : WriteSteps) (rt : Runtime) (p : Startup)
    (verifies : Text → Text → Bool) (content : Text) (t : Tree κ Text)
    (result : Tree κ Text × RewriteEnd) (kept newLines : List Text) (edited : Bool) : Prop where
  edits : LineEdits verifies [] (splitlines content) kept edited
  fills : Fills (generatedSecrets rt p (scan rt p (splitlines content))) kept newLines
  untouched : result.2 = .untouched ↔
    edited = false ∧ generatedSecrets rt p (scan rt p (splitlines content)) = []
  unwritten : result.2 = .untouched → result.1 = t ∧ newLines = splitlines content
  written : result.2 ≠ .untouched → steps.succeed = true →
    ∃ file, result = (result.1, .written) ∧ result.1 env = some file ∧ splitlines file = newLines
  failed : steps.succeed = false → result.1 env = some content ∧ result.2 ≠ .written
  others : AgreeOff {env, tmp} t result.1

/-- A new file that is not empty has the lines it is made of. -/
theorem splitlines_provisioned (rt : Runtime) (p : Startup) (content : Text)
    (nonempty : (provisioned rt p (splitlines content)).newLines ≠ []) :
    splitlines (joinLines (provisioned rt p (splitlines content)).newLines) =
      (provisioned rt p (splitlines content)).newLines := by
  have reads := scan_reads rt p (splitlines content)
  have oneLine := (frame_provisioned rt p (splitlines content)).oneLine
    (reads.oneLine fun _ => oneLine_of_mem_splitlines)
  rw [splitlines_joinLines oneLine, if_neg nonempty]

theorem rewriteSettings_rewrites
    (correct : ∀ n password, verifies (p.hash n password).text password = true)
    (apart : env ≠ tmp) (content : Text) (t : Tree κ Text) (here : t env = some content) :
    ∃ kept newLines edited, Rewrites env tmp steps rt p verifies content t
      (rewriteSettings env tmp steps rt p t) kept newLines edited := by
  obtain ⟨kept, edited, edits, keptLines, scanned⟩ :=
    lineEdits_of_scan rt correct [] (splitlines content)
  have all : (scan rt p (splitlines content)).newLines = kept := keptLines
  have generates := generates_provisioned rt p (splitlines content)
  have needs : (provisioned rt p (splitlines content)).needsRewrite =
      (edited || !(generatedSecrets rt p (scan rt p (splitlines content))).isEmpty) := by
    rw [generates.rewrites]
    exact congrArg (· || _) scanned
  have fills := generates.fills
  rw [all] at fills
  refine ⟨kept, (provisioned rt p (splitlines content)).newLines, edited, ?_⟩
  rw [rewriteSettings, here]
  dsimp only
  cases rewrite : (provisioned rt p (splitlines content)).needsRewrite with
  | false =>
      rw [rewrite, eq_comm, Bool.or_eq_false_iff, Bool.not_eq_false', List.isEmpty_iff] at needs
      obtain ⟨unedited, none⟩ := needs
      refine ⟨edits, fills, iff_of_true rfl ⟨unedited, none⟩, fun _ => ⟨rfl, ?_⟩,
        fun touched => absurd rfl touched, fun _ => ⟨here, (nomatch ·)⟩, .refl _ t⟩
      rw [unedited] at edits
      rw [none] at fills
      cases fills
      exact edits.eq_of_unedited
  | true =>
      have persists := persist_persists steps apart
        (joinLines (provisioned rt p (splitlines content)).newLines) t
      refine ⟨edits, fills, iff_of_false persists.touched ?_, fun same => ?_, fun _ succeeds => ?_,
        fun fails => ?_, persists.others⟩
      · rintro ⟨unedited, none⟩
        rw [rewrite, unedited, none] at needs
        cases needs
      · exact absurd same persists.touched
      · have written := persists.written.mpr succeeds
        refine ⟨_, Prod.ext rfl written, persists.replaced written, ?_⟩
        refine splitlines_provisioned rt p content (fills.ne_nil ?_)
        rw [rewrite, eq_comm, Bool.or_eq_true, Bool.not_eq_true', ← Bool.not_eq_true,
          List.isEmpty_iff] at needs
        rcases needs with wasEdited | generated
        · rw [wasEdited] at edits
          exact Or.inr (edits.ne_nil rfl)
        · exact Or.inl generated
      · have unwritten := mt persists.written.mp (Bool.eq_false_iff.mp fails)
        exact ⟨(persists.kept unwritten).trans here, unwritten⟩

/-- `parseEnvFile` leaves the file that the steps leave. -/
theorem parseEnvFile_file (apart : env ≠ tmp) (writable : p.writable = steps.succeed)
    (t : Tree κ Text) :
    (parseEnvFile rt p (t env)).map Parsed.file =
      if (rewriteSettings env tmp steps rt p t).2 = .untouched ∨
          (rewriteSettings env tmp steps rt p t).2 = .written then
        some ((rewriteSettings env tmp steps rt p t).1 env)
      else none := by
  rw [rewriteSettings]
  cases here : t env with
  | none => exact congrArg some here.symm
  | some content =>
      rw [parseEnvFile]
      dsimp only
      split
      case isTrue =>
        have persists := persist_persists steps apart
          (joinLines (provisioned rt p (splitlines content)).newLines) t
        rw [writable]
        by_cases succeeds : steps.succeed = true
        · have written := persists.written.mpr succeeds
          rw [if_pos succeeds, if_pos (Or.inr written), persists.replaced written]
          rfl
        · have ended := not_or.mpr ⟨persists.touched, mt persists.written.mp succeeds⟩
          rw [if_neg succeeds, if_neg ended]
          rfl
      case isFalse => exact congrArg some here.symm

end Files

/-! ## A file with lines of every kind -/

/-- A hash that spells the password. -/
def spelledHash (password : Text) : PasswordHash where
  text := "scrypt:".toList ++ password.flatMap fun c => '$' :: Nat.toDigits 10 c.toNat
  method := by
    rw [isHash, List.any_cons, Bool.or_eq_true]
    exact Or.inl (List.isPrefixOf_iff_prefix.mpr (List.prefix_append _ _))
  printable c mem := by
    rcases List.mem_append.mp mem with name | spelled
    · exact any_eq_false_iff.mp (by decide) c name
    · obtain ⟨d, -, inside⟩ := List.mem_flatMap.mp spelled
      rcases List.mem_cons.mp inside with rfl | digit
      · decide
      · exact isSpace_of_isDigit (Nat.isDigit_of_mem_toDigits (by decide) (by decide) digit)

def spellingStart : Startup := { firstStart with hash := fun _ => spelledHash }

def everyStep : WriteSteps where
  mkstemp := true
  write := .done
  part := []
  rename := true
  unlink := true

/-- A comment, a password, a hash, three lines for the API key, an override and an unknown key. -/
def mixedFile : Text :=
  ("# mine\nUSER_bob=x\nUSER_amy=scrypt:1\nAPI_KEY=\n\n API_KEY = k\nAPI_KEY=z\n" ++
    "PORT=80\nCOLOR=red\nVAPID_PUBLIC_KEY=").toList

def mixedLines : List Text :=
  ["# mine".toList, "USER_bob=scrypt:$120".toList, "USER_amy=scrypt:1".toList,
    "API_KEY=".toList, [], " API_KEY = k".toList, "PORT=80".toList, "COLOR=red".toList,
    "VAPID_PUBLIC_KEY=A".toList, "VAPID_PRIVATE_KEY=A".toList]

theorem rewrites_mixedFile :
    (rewriteSettings false true everyStep withPush spellingStart
        fun q => if q then none else some mixedFile).1 false = some (joinLines mixedLines) ∧
      ∃ kept newLines edited, Rewrites false true everyStep withPush spellingStart
        (fun hash password => hash = (spelledHash password).text) mixedFile
        (fun q => if q then none else some mixedFile)
        (rewriteSettings false true everyStep withPush spellingStart
          fun q => if q then none else some mixedFile) kept newLines edited :=
  ⟨by decide +kernel,
    rewriteSettings_rewrites (fun _ _ => decide_eq_true rfl) (by decide) mixedFile _ rfl⟩

end GeneratorPi
