import GeneratorPi.Settings

/-!
# Restarts and secrets

A start of the process that finds no API key or no VAPID key pair generates one and writes it to the
settings file (`parse_env_file`, `genpi/config.py`).  Of the lines named `API_KEY` the first that is
not empty counts, and a generated key is put on the first line of that name.  The VAPID keys are put
there too, but of their lines the last counts: `keepsSecrets_iff` says for which files all later
starts read the settings of the first again.
-/

namespace GeneratorPi

open PyText NamedLines Trace

variable {rt : Runtime} {p : Startup}

/-! ## The names of the generated lines -/

theorem plainKey_apiKey : PlainKey apiKeyName where
  trimmed := .of_all (any_eq_false_iff.mp (by decide))
  nonempty := by decide
  uncommented := by decide
  noEquals := by decide

theorem plainKey_vapidPublic : PlainKey vapidPublicName where
  trimmed := .of_all (any_eq_false_iff.mp (by decide))
  nonempty := by decide
  uncommented := by decide
  noEquals := by decide

theorem plainKey_vapidPrivate : PlainKey vapidPrivateName where
  trimmed := .of_all (any_eq_false_iff.mp (by decide))
  nonempty := by decide
  uncommented := by decide
  noEquals := by decide

/-- A name that neither an empty line nor a comment bears. -/
structure Clear (k : Text) : Prop where
  nonempty : k ≠ []
  uncommented : k.head? ≠ some '#'

theorem clear_of_default {k : Text} (h : (defaults k).isSome) :
    Clear k ∧ userPrefix.isPrefixOf k = false := by
  have all : ∀ k ∈ defaultSettings.map Prod.fst,
      k ≠ [] ∧ k.head? ≠ some '#' ∧ userPrefix.isPrefixOf k = false := by
    decide
  obtain ⟨setting, mem, same⟩ := List.lookup_isSome_iff.mp h
  obtain ⟨nonempty, uncommented, notUser⟩ := all _ (List.mem_map_of_mem mem)
  rw [eq_of_beq same]
  exact ⟨⟨nonempty, uncommented⟩, notUser⟩

theorem clear_userKey (name : Text) : Clear (userKey name) where
  nonempty := List.append_ne_nil_of_left_ne_nil (by decide) _
  uncommented same := absurd (Option.some.inj same) (by decide)

/-- The generated comments. -/
theorem block_lines : ∀ l ∈ apiKeyBlock ++ vapidBlock,
    OneLine l ∧ (lineName l = [] ∨ (lineName l).head? = some '#') ∧
      (l = [] ∨ l.head? = some '#') := by
  simp only [apiKeyBlock, vapidBlock, List.forall_mem_append, List.forall_mem_cons]
  repeat' apply And.intro
  -- The literals are taken apart by rewriting: the kernel is slow to decode them.
  all_goals first
    | rw [String.toList_ofList]
      decide
    | simp

theorem Clear.marks_block {k : Text} (h : Clear k) {block : List Text}
    (generated : block ⊆ apiKeyBlock ++ vapidBlock) : reading.marks k block = [] := by
  refine marks_eq_nil_iff.mpr fun l hl same => ?_
  rcases (block_lines l (generated hl)).2.1 with empty | comment
  · exact h.nonempty (same.symm.trans empty)
  · exact h.uncommented (same ▸ comment)

theorem mark_settingLine {key value : Text} (hk : PlainKey key) (hv : Trimmed value) :
    reading.value (settingLine key value) = some value := by
  simp [reading, keyValue?_settingLine hk hv]

/-- An empty line more at the end of no lines is all that is not found again. -/
theorem marks_reread {k : Text} {lines : List Text} (named : k ≠ [])
    (oneLine : ∀ l ∈ lines, OneLine l) :
    reading.marks k (splitlines (joinLines lines)) = reading.marks k lines := by
  rw [splitlines_joinLines oneLine]
  split
  case isFalse => rfl
  case isTrue empty =>
    rw [empty, marks_nil]
    exact marks_singleton_of_ne (Ne.symm named)

/-! ## What the generation leaves of the lines -/

variable {s : Scan} {k : Text}

theorem name_settingLine {key : Text} (hk : PlainKey key) (value : Text) :
    reading.name (settingLine key value) = key := lineName_settingLine hk value

theorem token_trimmed (t : Token) : Trimmed t.text := .of_all t.urlSafe

theorem marks_provisionApiKey (lacks : s.lacksApiKey) :
    reading.marks apiKeyName (s.provisionApiKey p).newLines =
      some p.token.text :: (reading.marks apiKeyName s.newLines).tail := by
  have clear : Clear apiKeyName := ⟨by decide, by decide⟩
  rw [Scan.provisionApiKey, if_pos lacks]
  rw [← mark_settingLine plainKey_apiKey (token_trimmed p.token)]
  exact marks_fillFirst (clear.marks_block (List.subset_append_left ..))
    (name_settingLine plainKey_apiKey p.token.text) _

theorem marks_provisionApiKey_of_ne (clear : Clear k) (ne : k ≠ apiKeyName) :
    reading.marks k (s.provisionApiKey p).newLines = reading.marks k s.newLines := by
  rw [Scan.provisionApiKey]
  split
  case isFalse => rfl
  case isTrue =>
    have other : reading.name (settingLine apiKeyName p.token.text) ≠ k :=
      (name_settingLine plainKey_apiKey _).trans_ne ne.symm
    exact marks_fillFirst_of_ne (clear.marks_block (List.subset_append_left ..)) other ne.symm _

theorem marks_upsert {key value : Text} (hk : PlainKey key) (hv : Trimmed value)
    (lines : List Text) :
    reading.marks key (upsert key value lines) = some value :: (reading.marks key lines).tail := by
  rw [← mark_settingLine hk hv]
  exact marks_fillFirst marks_nil (name_settingLine hk value) lines

theorem marks_upsert_of_ne {key : Text} (hk : PlainKey key) (value : Text) (ne : k ≠ key)
    (lines : List Text) : reading.marks k (upsert key value lines) = reading.marks k lines := by
  have other : reading.name (settingLine key value) ≠ k :=
    (name_settingLine hk value).trans_ne ne.symm
  exact marks_fillFirst_of_ne marks_nil other ne.symm lines

/-- Without a line of either name, the pair is appended. -/
theorem marks_appendKeyPair (clear : Clear k) (pair : KeyPair) {lines : List Text}
    (noPublic : reading.marks vapidPublicName lines = [])
    (noPrivate : reading.marks vapidPrivateName lines = []) :
    reading.marks k (lines ++ (vapidBlock ++ [settingLine vapidPublicName pair.publicKey.text,
        settingLine vapidPrivateName pair.privateKey.text])) =
      if k = vapidPublicName then
        some pair.publicKey.text :: (reading.marks k lines).tail
      else if k = vapidPrivateName then
        some pair.privateKey.text :: (reading.marks k lines).tail
      else reading.marks k lines := by
  have namePublic := name_settingLine plainKey_vapidPublic pair.publicKey.text
  have namePrivate := name_settingLine plainKey_vapidPrivate pair.privateKey.text
  rw [marks_append, marks_append, clear.marks_block (List.subset_append_right ..), List.nil_append,
    marks_cons]
  by_cases isPublic : k = vapidPublicName
  · rw [if_pos isPublic, isPublic, noPublic, marks_singleton namePublic,
      marks_singleton_of_ne (namePrivate.trans_ne (by decide)),
      mark_settingLine plainKey_vapidPublic (token_trimmed pair.publicKey)]
    rfl
  rw [marks_singleton_of_ne (namePublic.trans_ne (Ne.symm isPublic)), if_neg isPublic]
  by_cases isPrivate : k = vapidPrivateName
  · rw [if_pos isPrivate, isPrivate, noPrivate, marks_singleton namePrivate,
      mark_settingLine plainKey_vapidPrivate (token_trimmed pair.privateKey)]
    rfl
  · rw [if_neg isPrivate, marks_singleton_of_ne (namePrivate.trans_ne (Ne.symm isPrivate)),
      List.nil_append, List.append_nil]

/-- With or without a line of either name before, each name's first line has the new key. -/
theorem marks_withKeyPair (clear : Clear k) (pair : KeyPair) (lines : List Text) :
    reading.marks k (withKeyPair pair lines) =
      if k = vapidPublicName then
        some pair.publicKey.text :: (reading.marks k lines).tail
      else if k = vapidPrivateName then
        some pair.privateKey.text :: (reading.marks k lines).tail
      else reading.marks k lines := by
  have publicTrimmed := token_trimmed pair.publicKey
  have privateTrimmed := token_trimmed pair.privateKey
  rw [withKeyPair]
  split
  case isTrue =>
    by_cases isPublic : k = vapidPublicName
    · rw [if_pos isPublic, isPublic, marks_upsert_of_ne plainKey_vapidPrivate _ (by decide),
        marks_upsert plainKey_vapidPublic publicTrimmed]
    by_cases isPrivate : k = vapidPrivateName
    · rw [if_neg isPublic, if_pos isPrivate, isPrivate,
        marks_upsert plainKey_vapidPrivate privateTrimmed,
        marks_upsert_of_ne plainKey_vapidPublic _ (by decide)]
    · rw [if_neg isPublic, if_neg isPrivate, marks_upsert_of_ne plainKey_vapidPrivate _ isPrivate,
        marks_upsert_of_ne plainKey_vapidPublic _ isPublic]
  case isFalse absent =>
    simp only [List.any_eq_true, Bool.or_eq_true, decide_eq_true_eq, not_exists, not_and,
      not_or] at absent
    exact marks_appendKeyPair clear pair (marks_eq_nil_iff.mpr fun l hl => (absent l hl).2)
      (marks_eq_nil_iff.mpr fun l hl => (absent l hl).1)

theorem marks_provisionVapid_of_ne (clear : Clear k) (notPublic : k ≠ vapidPublicName)
    (notPrivate : k ≠ vapidPrivateName) :
    reading.marks k (s.provisionVapid rt p).newLines = reading.marks k s.newLines := by
  rw [Scan.provisionVapid]
  split
  case isFalse => rfl
  case isTrue =>
    cases p.keys with
    | none => rfl
    | some pair =>
        exact (marks_withKeyPair clear pair s.newLines).trans
          ((if_neg notPublic).trans (if_neg notPrivate))

/-! ## What the generation makes of the settings -/

theorem config_provisionApiKey (lacks : s.lacksApiKey) :
    (s.provisionApiKey p).config apiKeyName = some (.text p.token.text) := by
  rw [Scan.provisionApiKey, if_pos lacks]
  exact Function.update_self apiKeyName _ s.config

theorem config_provisionApiKey_of_ne (ne : k ≠ apiKeyName) :
    (s.provisionApiKey p).config k = s.config k := by
  rw [Scan.provisionApiKey]
  split
  · exact Function.update_of_ne ne _ _
  · rfl

theorem config_provisionVapid_of_ne (notPublic : k ≠ vapidPublicName)
    (notPrivate : k ≠ vapidPrivateName) : (s.provisionVapid rt p).config k = s.config k := by
  rw [Scan.provisionVapid]
  split
  case isFalse => rfl
  case isTrue =>
    cases p.keys with
    | none => rfl
    | some pair =>
        exact (Function.update_of_ne notPublic _ _).trans (Function.update_of_ne notPrivate _ _)

theorem provisionVapid_of_pair {pair : KeyPair} (lacks : s.lacksVapid rt)
    (keys : p.keys = some pair) :
    (s.provisionVapid rt p).config vapidPublicName = some (.text pair.publicKey.text) ∧
      (s.provisionVapid rt p).config vapidPrivateName = some (.text pair.privateKey.text) ∧
      (s.provisionVapid rt p).newLines = withKeyPair pair s.newLines := by
  have ne : vapidPrivateName ≠ vapidPublicName := by decide
  rw [Scan.provisionVapid, if_pos lacks, keys]
  dsimp only
  refine ⟨Function.update_self vapidPublicName _ _, ?_, rfl⟩
  exact (Function.update_of_ne ne _ _).trans (Function.update_self vapidPrivateName _ s.config)

theorem provisionVapid_of_not (not : s.lacksVapid rt → p.keys = none) :
    s.provisionVapid rt p = s := by
  rw [Scan.provisionVapid]
  split
  case isFalse => rfl
  case isTrue lacks => rw [not lacks]

theorem lacksVapid_provisionApiKey : (s.provisionApiKey p).lacksVapid rt = s.lacksVapid rt := by
  rw [Scan.lacksVapid, config_provisionApiKey_of_ne (by decide), Scan.lacksVapid]

/-- What a generation does not touch: the users, and everything if it does not rewrite. -/
structure Frame (s s' : Scan) : Prop where
  users : s'.users = s.users
  unchanged : s'.needsRewrite = false → s' = s
  oneLine : (∀ l ∈ s.newLines, OneLine l) → ∀ l ∈ s'.newLines, OneLine l

theorem Frame.refl (s : Scan) : Frame s s := ⟨rfl, fun _ => rfl, id⟩

theorem oneLine_settingLine {key : Text} (hk : OneLine key) (t : Token) :
    OneLine (settingLine key t.text) := by
  have equals : OneLine ['='] := by decide
  exact hk.append (equals.append (.of_no_space t.urlSafe))

theorem oneLine_fillFirst (bears : Text → Bool) {block lines : List Text} {line : Text}
    (generated : block ⊆ apiKeyBlock ++ vapidBlock) (oneLine : OneLine line)
    (plain : ∀ l ∈ lines, OneLine l) : ∀ l ∈ fillFirst bears block line lines, OneLine l := by
  intro l hl
  rcases mem_fillFirst hl with inBlock | rfl | old
  · exact (block_lines l (generated inBlock)).1
  · exact oneLine
  · exact plain l old

theorem oneLine_withKeyPair {pair : KeyPair} {lines : List Text} (plain : ∀ l ∈ lines, OneLine l) :
    ∀ l ∈ withKeyPair pair lines, OneLine l := by
  have publicLine : OneLine (settingLine vapidPublicName pair.publicKey.text) :=
    oneLine_settingLine (by decide) pair.publicKey
  have privateLine : OneLine (settingLine vapidPrivateName pair.privateKey.text) :=
    oneLine_settingLine (by decide) pair.privateKey
  rw [withKeyPair]
  split
  case isTrue =>
    have filled := oneLine_fillFirst (lineName · = vapidPublicName) (List.nil_subset _)
      publicLine plain
    exact oneLine_fillFirst _ (List.nil_subset _) privateLine filled
  case isFalse =>
    intro l hl
    simp only [List.mem_append, List.mem_cons, List.not_mem_nil, or_false] at hl
    rcases hl with old | inBlock | rfl | rfl
    · exact plain l old
    · exact (block_lines l (List.mem_append_right _ inBlock)).1
    · exact publicLine
    · exact privateLine

theorem frame_provisionApiKey (s : Scan) : Frame s (s.provisionApiKey p) := by
  rw [Scan.provisionApiKey]
  split
  case isTrue =>
    refine ⟨rfl, (fun still => nomatch still), fun plain => ?_⟩
    exact oneLine_fillFirst _ (List.subset_append_left ..) (oneLine_settingLine (by decide) _) plain
  case isFalse => exact .refl s

theorem frame_provisionVapid (s : Scan) : Frame s (s.provisionVapid rt p) := by
  rw [Scan.provisionVapid]
  split
  case isTrue =>
    cases p.keys with
    | none => exact .refl s
    | some pair => exact ⟨rfl, (fun still => nomatch still), oneLine_withKeyPair⟩
  case isFalse => exact .refl s

theorem Frame.trans {s m s' : Scan} (first : Frame s m) (second : Frame m s') : Frame s s' where
  users := second.users.trans first.users
  unchanged still := by
    have same := second.unchanged still
    rw [same] at still
    exact same.trans (first.unchanged still)
  oneLine plain := second.oneLine (first.oneLine plain)

theorem frame_provisioned (rt : Runtime) (p : Startup) (lines : List Text) :
    Frame (scan rt p lines) (provisioned rt p lines) :=
  (frame_provisionApiKey _).trans (frame_provisionVapid _)

/-! ## What the settings are -/

theorem scan_reads (rt : Runtime) (p : Startup) (lines : List Text) :
    Reads rt lines {} (scan rt p lines) (scan rt p lines).newLines := by
  obtain ⟨kept, reads⟩ := reads_lines rt p {} lines
  have all : (scan rt p lines).newLines = kept := reads.newLines
  rw [all]
  exact reads

theorem foldl_absorb_none (ne : k ≠ apiKeyName) (values : List Text) :
    values.foldl (absorb rt k) none = none := by
  induction values with
  | nil => rfl
  | cons v rest ih =>
      have unknown : absorb rt k none v = none := by
        rw [absorb, if_neg ne]
        split <;> rfl
      rw [List.foldl_cons, unknown, ih]

/-- An API key is not replaced. -/
theorem foldl_absorb_apiKey {key : Text} (nonempty : key ≠ []) (values : List Text) :
    values.foldl (absorb rt apiKeyName) (some (.text key)) = some (.text key) := by
  induction values with
  | nil => rfl
  | cons v rest ih =>
      have kept : absorb rt apiKeyName (some (.text key)) v = some (.text key) := by
        rw [absorb, if_neg (by decide), if_pos rfl]
        exact if_pos nonempty
      rw [List.foldl_cons, kept, ih]

/-- Of any other text the last value counts. -/
theorem foldl_absorb_text (notUser : userPrefix.isPrefixOf k = false) (ne : k ≠ apiKeyName)
    (default : Text) (values : List Text) :
    values.foldl (absorb rt k) (some (.text default)) =
      some (.text (values.getLast?.getD default)) := by
  induction values generalizing default with
  | nil => rfl
  | cons v rest ih =>
      have taken : absorb rt k (some (.text default)) v = some (.text v) := by
        rw [absorb, if_neg (by simp [notUser]), if_neg ne]
        rfl
      rw [List.foldl_cons, taken, ih, List.getLast?_cons, Option.getD_some]

theorem scan_config_vapid {lines : List Text} {name : Text}
    (isKey : name = vapidPublicName ∨ name = vapidPrivateName) :
    (scan rt p lines).config name =
      some (.text ((reading.values name lines).getLast?.getD [])) := by
  rw [(scan_reads _ _ lines).config]
  rcases isKey with rfl | rfl
  · exact foldl_absorb_text (by decide) (by decide) [] _
  · exact foldl_absorb_text (by decide) (by decide) [] _

/-- Whether a key pair is generated. -/
theorem lacksVapid_scan (lines : List Text) :
    (scan rt p lines).lacksVapid rt =
      (rt.push && (reading.values vapidPrivateName lines).getLast?.getD [] = []) := by
  rw [Scan.lacksVapid, scan_config_vapid (Or.inr rfl)]
  rfl

/-! ## Reading the new file -/

/-- Where a key pair is generated, for the last private key in the file is empty: the generation
succeeds, no line behind the first named `VAPID_PRIVATE_KEY` gives that key, and the last one behind
the first named `VAPID_PUBLIC_KEY` gives none but the generated one. -/
def KeyPairKept (rt : Runtime) (p : Startup) (lines : List Text) : Prop :=
  rt.push → (reading.values vapidPrivateName lines).getLast?.getD [] = [] →
    ∃ pair, p.keys = some pair ∧ reading.later vapidPrivateName lines = [] ∧
      ∀ v ∈ (reading.later vapidPublicName lines).getLast?, v = pair.publicKey.text

/-- The lines of a name in the new file, if neither generation put one there. -/
theorem marks_provisioned_of_ne {lines : List Text} (clear : Clear k)
    (notUser : userPrefix.isPrefixOf k = false) (notApi : k ≠ apiKeyName)
    (notPublic : k ≠ vapidPublicName) (notPrivate : k ≠ vapidPrivateName) :
    reading.marks k (provisioned rt p lines).newLines = reading.marks k lines := by
  rw [provisioned, marks_provisionVapid_of_ne clear notPublic notPrivate,
    marks_provisionApiKey_of_ne clear notApi]
  exact (scan_reads _ _ lines).marks k notUser notApi

theorem config_provisioned_of_ne {lines : List Text} (notApi : k ≠ apiKeyName)
    (notPublic : k ≠ vapidPublicName) (notPrivate : k ≠ vapidPrivateName) :
    (provisioned rt p lines).config k = (scan rt p lines).config k := by
  rw [provisioned, config_provisionVapid_of_ne notPublic notPrivate,
    config_provisionApiKey_of_ne notApi]

/-- The API key that the new file gives is the one in use. -/
theorem apiKey_reread {lines : List Text} :
    (reading.values apiKeyName (provisioned rt p lines).newLines).foldl (absorb rt apiKeyName)
      (some (.text [])) = (provisioned rt p lines).config apiKeyName := by
  have clear : Clear apiKeyName := ⟨by decide, by decide⟩
  have notPublic : apiKeyName ≠ vapidPublicName := by decide
  have notPrivate : apiKeyName ≠ vapidPrivateName := by decide
  rw [Reading.values, provisioned, marks_provisionVapid_of_ne clear notPublic notPrivate,
    config_provisionVapid_of_ne notPublic notPrivate]
  by_cases lacks : (scan rt p lines).lacksApiKey
  · rw [marks_provisionApiKey lacks, config_provisionApiKey lacks, List.reduceOption_cons_of_some,
      List.foldl_cons]
    have taken : absorb rt apiKeyName (some (.text [])) p.token.text =
        some (.text p.token.text) := by
      rw [absorb, if_neg (by decide), if_pos rfl]
      rfl
    rw [taken, foldl_absorb_apiKey p.token.nonempty]
  · rw [Scan.provisionApiKey, if_neg lacks]
    exact ((scan_reads _ _ lines).again apiKeyName).symm

/-- The key of the pair that is stored under the name. -/
def KeyPair.keyOf (pair : KeyPair) (name : Text) : Text :=
  if name = vapidPublicName then pair.publicKey.text else pair.privateKey.text

theorem keyOf_public (pair : KeyPair) : pair.keyOf vapidPublicName = pair.publicKey.text :=
  if_pos rfl

theorem keyOf_private (pair : KeyPair) : pair.keyOf vapidPrivateName = pair.privateKey.text :=
  if_neg (by decide)

/-- The VAPID keys that the new file gives. -/
theorem values_vapid_provisioned {lines : List Text} {name : Text}
    (isKey : name = vapidPublicName ∨ name = vapidPrivateName) :
    reading.values name (provisioned rt p lines).newLines =
      if (scan rt p lines).lacksVapid rt then
        match p.keys with
        | none => reading.values name lines
        | some pair => pair.keyOf name :: reading.later name lines
      else reading.values name lines := by
  have clear : Clear name := by rcases isKey with rfl | rfl <;> exact ⟨by decide, by decide⟩
  have notUser : userPrefix.isPrefixOf name = false := by rcases isKey with rfl | rfl <;> decide
  have notApi : name ≠ apiKeyName := by rcases isKey with rfl | rfl <;> decide
  have before : reading.marks name ((scan rt p lines).provisionApiKey p).newLines =
      reading.marks name lines :=
    (marks_provisionApiKey_of_ne clear notApi).trans
      ((scan_reads _ _ lines).marks name notUser notApi)
  rw [Reading.values, provisioned]
  split
  case isTrue lacks =>
    rw [← lacksVapid_provisionApiKey (p := p)] at lacks
    cases keys : p.keys with
    | none => rw [provisionVapid_of_not fun _ => keys, before]; rfl
    | some pair =>
        rw [(provisionVapid_of_pair lacks keys).2.2, marks_withKeyPair clear, before]
        dsimp only
        rcases isKey with rfl | rfl
        · rw [if_pos rfl, keyOf_public]
          rfl
        · rw [if_neg (by decide), if_pos rfl, keyOf_private]
          rfl
  case isFalse has =>
    rw [provisionVapid_of_not fun lacks => absurd (lacksVapid_provisionApiKey ▸ lacks) has, before]
    rfl

/-- The VAPID keys in use after the parse. -/
theorem config_vapid_provisioned {lines : List Text} {name : Text}
    (isKey : name = vapidPublicName ∨ name = vapidPrivateName) :
    (provisioned rt p lines).config name =
      if (scan rt p lines).lacksVapid rt then
        match p.keys with
        | none => (scan rt p lines).config name
        | some pair => some (.text (pair.keyOf name))
      else (scan rt p lines).config name := by
  have notApi : name ≠ apiKeyName := by rcases isKey with rfl | rfl <;> decide
  have before : ((scan rt p lines).provisionApiKey p).config name = (scan rt p lines).config name :=
    config_provisionApiKey_of_ne notApi
  rw [provisioned]
  split
  case isTrue lacks =>
    rw [← lacksVapid_provisionApiKey (p := p)] at lacks
    cases keys : p.keys with
    | none => rw [provisionVapid_of_not fun _ => keys, before]
    | some pair =>
        obtain ⟨publicKey, privateKey, -⟩ := provisionVapid_of_pair lacks keys
        rcases isKey with rfl | rfl
        · rw [publicKey, ← keyOf_public]
        · rw [privateKey, ← keyOf_private]
  case isFalse has =>
    rw [provisionVapid_of_not fun lacks => absurd (lacksVapid_provisionApiKey ▸ lacks) has, before]

/-- After the parse the process has an API key, or needs none. -/
theorem lacksApiKey_provisioned (lines : List Text) :
    (provisioned rt p lines).lacksApiKey = false := by
  have enabled : (provisioned rt p lines).config apiKeyEnabledName =
      (scan rt p lines).config apiKeyEnabledName :=
    config_provisioned_of_ne (by decide) (by decide) (by decide)
  have apiKey : (provisioned rt p lines).config apiKeyName =
      ((scan rt p lines).provisionApiKey p).config apiKeyName :=
    config_provisionVapid_of_ne (by decide) (by decide)
  by_cases lacks : (scan rt p lines).lacksApiKey
  · rw [config_provisionApiKey lacks] at apiKey
    rw [Scan.lacksApiKey, apiKey]
    simp [Setting.asText, p.token.nonempty]
  · rw [Scan.provisionApiKey, if_neg lacks] at apiKey
    rw [Scan.lacksApiKey, enabled, apiKey]
    exact eq_false_of_ne_true lacks

theorem lacksVapid_provisioned {lines : List Text}
    (made : (scan rt p lines).lacksVapid rt → p.keys.isSome) :
    (provisioned rt p lines).lacksVapid rt = false := by
  rw [Scan.lacksVapid, config_vapid_provisioned (Or.inr rfl)]
  by_cases lacks : (scan rt p lines).lacksVapid rt
  · obtain ⟨pair, keys⟩ := Option.isSome_iff_exists.mp (made lacks)
    rw [if_pos lacks, keys]
    simp [Setting.asText, keyOf_private, pair.privateKey.nonempty]
  · rw [if_neg lacks]
    exact eq_false_of_ne_true lacks

/-- Lines that name for name are those of the new file. -/
def SameMarks (rt : Runtime) (p : Startup) (lines again : List Text) : Prop :=
  ∀ k, k ≠ [] → reading.marks k again = reading.marks k (provisioned rt p lines).newLines

theorem SameMarks.values {lines again : List Text} (same : SameMarks rt p lines again)
    (named : k ≠ []) :
    reading.values k again = reading.values k (provisioned rt p lines).newLines := by
  rw [Reading.values, same k named]
  rfl

theorem config_reread {lines again : List Text} (same : SameMarks rt p lines again)
    (kept : KeyPairKept rt p lines) (q : Startup) :
    (scan rt q again).config = (provisioned rt p lines).config := by
  funext k
  have read : (scan rt q again).config k =
      (reading.values k again).foldl (absorb rt k) (defaults k) := (scan_reads _ _ again).config k
  have first : (scan rt p lines).config k =
      (reading.values k lines).foldl (absorb rt k) (defaults k) := (scan_reads _ _ lines).config k
  by_cases isApi : k = apiKeyName
  · subst isApi
    rw [read, same.values (by decide)]
    exact apiKey_reread
  by_cases isKey : k = vapidPublicName ∨ k = vapidPrivateName
  · have named : k ≠ [] := by rcases isKey with rfl | rfl <;> decide
    rw [scan_config_vapid isKey, same.values named, values_vapid_provisioned isKey,
      config_vapid_provisioned isKey]
    by_cases lacks : (scan rt p lines).lacksVapid rt
    · have generated := lacks
      rw [lacksVapid_scan, Bool.and_eq_true, decide_eq_true_eq] at generated
      obtain ⟨pair, keys, noPrivate, samePublic⟩ := kept generated.1 generated.2
      rw [if_pos lacks, if_pos lacks, keys]
      dsimp only
      rw [List.getLast?_cons, Option.getD_some]
      rcases isKey with rfl | rfl
      · rw [keyOf_public]
        cases last : (reading.later vapidPublicName lines).getLast? with
        | none => rfl
        | some v => rw [Option.getD_some, samePublic v last]
      · rw [noPrivate]
        rfl
    · rw [if_neg lacks, if_neg lacks, scan_config_vapid isKey]
  rw [not_or] at isKey
  rw [config_provisioned_of_ne isApi isKey.1 isKey.2, read, first]
  by_cases known : (defaults k).isSome
  · obtain ⟨clear, notUser⟩ := clear_of_default known
    rw [same.values clear.nonempty, Reading.values,
      marks_provisioned_of_ne clear notUser isApi isKey.1 isKey.2]
    rfl
  · rw [Option.not_isSome_iff_eq_none.mp known, foldl_absorb_none isApi, foldl_absorb_none isApi]

theorem users_reread {lines again : List Text} (same : SameMarks rt p lines again) (q : Startup) :
    (scan rt q again).users = (provisioned rt p lines).users := by
  rw [(frame_provisioned rt p lines).users]
  have first := scan_reads rt p lines
  have second := scan_reads rt q again
  funext name
  by_cases named : name = []
  · subst named
    exact second.nameless.trans first.nameless.symm
  have clear := clear_userKey name
  have ne {key : Text} (h : key.head? ≠ some 'U') : userKey name ≠ key := fun same => h (same ▸ rfl)
  have unchanged : reading.values (userKey name) again =
      reading.values (userKey name) (scan rt p lines).newLines := by
    rw [same.values clear.nonempty, Reading.values, provisioned,
      marks_provisionVapid_of_ne clear (ne (by decide)) (ne (by decide)),
      marks_provisionApiKey_of_ne clear (ne (by decide))]
    rfl
  have stays := second.usersAgain name named fun v hv => first.hashed name named v (unchanged ▸ hv)
  rw [second.users name named, stays, unchanged]
  exact (first.users name named).symm

/-! ## Restarts -/

/-- A fresh process parses the file that the last one left. -/
def restart (rt : Runtime) (s : Parsed) (q : Startup) : Option Parsed := parseEnvFile rt q s.file

/-- The later process has the settings and users of the first, and generated nothing. -/
structure KeepsSecrets (first later : Parsed) : Prop where
  config : later.config = first.config
  users : later.users = first.users
  noApiKey : later.newApiKey = false
  noVapid : later.newVapid = false

theorem parse_eq_some {content : Text} {first : Parsed}
    (h : parseEnvFile rt p (some content) = some first) :
    first.config = (provisioned rt p (splitlines content)).config ∧
      first.users = (provisioned rt p (splitlines content)).users ∧
      first.newApiKey = (scan rt p (splitlines content)).lacksApiKey ∧
      first.newVapid = ((scan rt p (splitlines content)).lacksVapid rt && p.keys.isSome) ∧
      ∃ file, first.file = some file ∧ SameMarks rt p (splitlines content) (splitlines file) := by
  have reads := scan_reads rt p (splitlines content)
  have frame := frame_provisioned rt p (splitlines content)
  simp only [parseEnvFile] at h
  split at h
  case isTrue =>
    obtain ⟨-, rfl⟩ := Option.ite_none_right_eq_some.mp h |>.imp_right Option.some.inj
    refine ⟨rfl, rfl, rfl, rfl, _, rfl, fun k named => marks_reread named ?_⟩
    exact frame.oneLine (reads.oneLine fun _ => oneLine_of_mem_splitlines)
  case isFalse unchanged =>
    cases h
    refine ⟨rfl, rfl, rfl, rfl, content, rfl, fun k _ => ?_⟩
    have same := frame.unchanged (eq_false_of_ne_true unchanged)
    rw [same] at unchanged ⊢
    rw [(reads.whole (eq_false_of_ne_true unchanged)).2]

/-- A process that lacks nothing leaves what it has read. -/
theorem provisioned_of_lacks_not {lines : List Text}
    (apiKey : (scan rt p lines).lacksApiKey = false)
    (vapid : (scan rt p lines).lacksVapid rt = false) :
    provisioned rt p lines = scan rt p lines := by
  rw [provisioned, Scan.provisionApiKey, apiKey, if_neg Bool.false_ne_true, Scan.provisionVapid,
    vapid, if_neg Bool.false_ne_true]

theorem KeyPairKept.made {lines : List Text} (kept : KeyPairKept rt p lines)
    (lacks : (scan rt p lines).lacksVapid rt) : p.keys.isSome := by
  rw [lacksVapid_scan, Bool.and_eq_true, decide_eq_true_eq] at lacks
  obtain ⟨pair, keys, -⟩ := kept lacks.1 lacks.2
  rw [keys]
  rfl

/-- One restart keeps the secrets, and leaves a file that the next restart keeps. -/
theorem keepsSecrets_restart {q : Startup} {content : Text} {first second : Parsed}
    (h : parseEnvFile rt p (some content) = some first)
    (kept : KeyPairKept rt p (splitlines content)) (again : restart rt first q = some second) :
    KeepsSecrets first second ∧
      ∃ file, parseEnvFile rt q (some file) = some second ∧ KeyPairKept rt q (splitlines file) := by
  obtain ⟨config, users, -, -, file, left, same⟩ := parse_eq_some h
  rw [restart, left] at again
  obtain ⟨config', users', newApiKey, newVapid, -⟩ := parse_eq_some again
  have sameConfig := config_reread same kept q
  have apiKey : (scan rt q (splitlines file)).lacksApiKey = false := by
    rw [Scan.lacksApiKey, sameConfig]
    exact lacksApiKey_provisioned _
  have vapid : (scan rt q (splitlines file)).lacksVapid rt = false := by
    rw [Scan.lacksVapid, sameConfig]
    exact lacksVapid_provisioned kept.made
  rw [provisioned_of_lacks_not apiKey vapid] at config' users'
  refine ⟨⟨?_, ?_, newApiKey.trans apiKey, ?_⟩, file, again, fun push unset => ?_⟩
  · rw [config', sameConfig, config]
  · rw [users', users_reread same q, users]
  · rw [newVapid, vapid, Bool.false_and]
  · rw [lacksVapid_scan, push, unset] at vapid
    cases vapid

theorem KeepsSecrets.trans {a b c : Parsed} (hab : KeepsSecrets a b) (hbc : KeepsSecrets b c) :
    KeepsSecrets a c where
  config := hbc.config.trans hab.config
  users := hbc.users.trans hab.users
  noApiKey := hbc.noApiKey
  noVapid := hbc.noVapid

theorem keepsSecrets_of_run {q : Startup} {later : List Startup} {content : Text}
    {first last : Parsed} (h : parseEnvFile rt p (some content) = some first)
    (kept : KeyPairKept rt p (splitlines content))
    (again : run (restart rt) first (q :: later) = some last) : KeepsSecrets first last := by
  obtain ⟨second, restarted, rest⟩ := run_cons_eq_some.mp again
  have start := keepsSecrets_restart h kept restarted
  have keep (s : Parsed) (a : Startup) (s' : Parsed)
      (inv : KeepsSecrets first s ∧ ∃ p file, parseEnvFile rt p (some file) = some s ∧
        KeyPairKept rt p (splitlines file)) (step : restart rt s a = some s') :
      KeepsSecrets first s' ∧ ∃ p file, parseEnvFile rt p (some file) = some s' ∧
        KeyPairKept rt p (splitlines file) := by
    obtain ⟨before, p, file, parsed, keptThen⟩ := inv
    obtain ⟨now, file', parsed', kept'⟩ := keepsSecrets_restart parsed keptThen step
    exact ⟨before.trans now, a, file', parsed', kept'⟩
  exact (run_invariant keep ⟨start.1, q, start.2⟩ rest).1

theorem parse_of_writable (rt : Runtime) {q : Startup} (writable : q.writable) (content : Text) :
    ∃ parsed, parseEnvFile rt q (some content) = some parsed := by
  simp only [parseEnvFile, writable, if_true]
  split <;> exact ⟨_, rfl⟩

def letterA : Token where
  text := ['A']
  nonempty := by decide
  urlSafe := any_eq_false_iff.mp (by decide)

/-- If every run of restarts keeps the secrets, the pair was kept: one restart of a process that can
write and generate tells. -/
theorem keyPairKept_of_keeps {content : Text} {first : Parsed}
    (h : parseEnvFile rt p (some content) = some first)
    (keeps : ∀ q second, restart rt first q = some second → KeepsSecrets first second) :
    KeyPairKept rt p (splitlines content) := by
  obtain ⟨config, -, -, -, file, left, same⟩ := parse_eq_some h
  let q : Startup := { p with writable := true, keys := some ⟨letterA, letterA⟩ }
  obtain ⟨second, again⟩ := parse_of_writable rt (show q.writable from rfl) file
  have kept := keeps q second (by rw [restart, left, again])
  obtain ⟨config', -, -, newVapid, -⟩ := parse_eq_some again
  have ungenerated : (scan rt q (splitlines file)).lacksVapid rt = false := by
    have none := newVapid.symm.trans kept.noVapid
    rwa [show q.keys.isSome = true from rfl, Bool.and_true] at none
  intro push unset
  have lacks : (scan rt p (splitlines content)).lacksVapid rt := by
    rw [lacksVapid_scan, push, unset]
    rfl
  have privateRead := ungenerated
  rw [lacksVapid_scan, push, Bool.true_and, decide_eq_false_iff_not,
    same.values (by decide), values_vapid_provisioned (Or.inr rfl), if_pos lacks] at privateRead
  cases keys : p.keys with
  | none =>
      rw [keys] at privateRead
      exact absurd unset privateRead
  | some pair =>
      rw [keys] at privateRead
      refine ⟨pair, rfl, ?_, fun v last => ?_⟩
      · by_contra given
        refine privateRead ?_
        rw [List.getLast?_cons, getLast?_later given, Option.getD_some]
        cases value : (reading.values vapidPrivateName (splitlines content)).getLast? with
        | none =>
            rw [← getLast?_later given, List.getLast?_eq_none_iff] at value
            exact absurd value given
        | some v =>
            rw [value] at unset
            exact unset
      · have publicKey := congrFun kept.config vapidPublicName
        rw [config', config, config_vapid_provisioned (Or.inl rfl), ungenerated,
          if_neg Bool.false_ne_true, scan_config_vapid (Or.inl rfl), same.values (by decide),
          values_vapid_provisioned (Or.inl rfl), config_vapid_provisioned (Or.inl rfl),
          if_pos lacks, if_pos lacks, keys] at publicKey
        rw [List.getLast?_cons, last, keyOf_public] at publicKey
        cases publicKey
        rfl

/-- All later starts of the process keep the settings, the users and the secrets of the first,
exactly if its key pair is kept. -/
theorem keepsSecrets_iff {content : Text} {first : Parsed}
    (h : parseEnvFile rt p (some content) = some first) :
    (∀ q later last, run (restart rt) first (q :: later) = some last → KeepsSecrets first last) ↔
      KeyPairKept rt p (splitlines content) := by
  constructor
  · intro keeps
    refine keyPairKept_of_keeps h fun q second again => keeps q [] second ?_
    rw [run_cons, again]
    rfl
  · intro kept q later last ran
    exact keepsSecrets_of_run h kept ran

/-! ## Two lines without a key -/

def withPush : Runtime where
  float? _ := none
  push := true

def firstStart : Startup where
  hash _ _ :=
    { text := "scrypt:1".toList, method := by decide, printable := any_eq_false_iff.mp (by decide) }
  token := letterA
  keys := some ⟨letterA, letterA⟩
  writable := true

def letterB : Token where
  text := ['B']
  nonempty := by decide
  urlSafe := any_eq_false_iff.mp (by decide)

def secondStart : Startup :=
  { firstStart with token := letterB, keys := some ⟨letterB, letterB⟩ }

/-- One empty line for each secret, and a password. -/
def freshFile : Text := "USER_bob=secret\nAPI_KEY=\nVAPID_PRIVATE_KEY=\n".toList

theorem keepsSecrets_freshFile :
    ∃ first, parseEnvFile withPush firstStart (some freshFile) = some first ∧
      first.newApiKey ∧ first.newVapid ∧
      ∀ q later last, run (restart withPush) first (q :: later) = some last →
        KeepsSecrets first last := by
  have seen : (parseEnvFile withPush firstStart (some freshFile)).any
      fun first => first.newApiKey && first.newVapid := by
    decide
  obtain ⟨first, parsed, generated⟩ := (Option.any_eq_true _ _).mp seen
  rw [Bool.and_eq_true] at generated
  have kept : KeyPairKept withPush firstStart (splitlines freshFile) :=
    fun _ _ => ⟨_, rfl, by decide, by decide⟩
  exact ⟨first, parsed, generated.1, generated.2, (keepsSecrets_iff parsed).mpr kept⟩

def twoLineFile : Text := "API_KEY=k\nVAPID_PRIVATE_KEY=\nVAPID_PRIVATE_KEY=\n".toList

/-- With two lines for the private key, each start generates a new pair. -/
theorem keyPair_rotates :
    ∃ first second,
      parseEnvFile withPush firstStart (some twoLineFile) = some first ∧
      restart withPush first secondStart = some second ∧ second.newVapid ∧
      Setting.asText (first.config vapidPrivateName) = ['A'] ∧
      Setting.asText (second.config vapidPrivateName) = ['B'] := by
  have seen : (parseEnvFile withPush firstStart (some twoLineFile)).any fun first =>
      (restart withPush first secondStart).any fun second =>
        second.newVapid ∧ Setting.asText (first.config vapidPrivateName) = ['A'] ∧
          Setting.asText (second.config vapidPrivateName) = ['B'] := by
    decide
  obtain ⟨first, parsed, seen⟩ := (Option.any_eq_true _ _).mp seen
  obtain ⟨second, restarted, shown⟩ := (Option.any_eq_true _ _).mp seen
  exact ⟨first, second, parsed, restarted, of_decide_eq_true shown⟩

end GeneratorPi
