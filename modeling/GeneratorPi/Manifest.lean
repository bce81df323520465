import GeneratorPi.Lib.PyText

/-!
# Release manifests and the paths they list

The file list of `manifest.json`, as `_validate_manifest_paths` (`genpi/updater.py`) admits it, and
what `pathlib` and `os.path` make of its relative paths.
-/

namespace GeneratorPi

open PyText

/-! ## Paths -/

/-- A path below the install root, by its components. -/
abbrev Path := List Text

/-- `Path(p).parts` of a relative path. -/
def pathParts (p : Text) : Path :=
  (p.splitOn '/').filter fun c => c ≠ [] ∧ c ≠ ['.']

/-- `os.path.normpath` of a relative path without `..`. -/
def normpath (p : Text) : Text :=
  match pathParts p with
  | [] => ['.']
  | parts => ['/'].intercalate parts

/-- Both spellings lead to the same file. -/
@[simp] theorem pathParts_normpath (p : Text) : pathParts (normpath p) = pathParts p := by
  have noSlash : ∀ c ∈ pathParts p, '/' ∉ c := fun c hc =>
    not_mem_of_mem_splitOn (List.mem_of_mem_filter hc)
  have proper : ∀ c ∈ pathParts p, c ≠ [] ∧ c ≠ ['.'] := fun c hc => by
    simpa using List.of_mem_filter hc
  rw [normpath]
  split
  case h_1 empty =>
    rw [empty]
    decide
  case h_2 some_part =>
    rw [pathParts, List.splitOn_intercalate '/' noSlash some_part, List.filter_eq_self]
    simpa using proper

def tempSuffix : Text := ".gpnew".toList

/-- `live.with_name(live.name + ".gpnew")`, the sibling a new file is copied to first. -/
def temp : Path → Path
  | [] => [tempSuffix]
  | [name] => [name ++ tempSuffix]
  | dir :: name :: rest => dir :: temp (name :: rest)

theorem temp_ne_nil (p : Path) : temp p ≠ [] := by
  cases p using temp.fun_cases <;> simp [temp]

theorem temp_ne_self (p : Path) : temp p ≠ p := by
  induction p using temp.induct with
  | case1 => simp [temp]
  | case2 name => simp [temp, tempSuffix]
  | case3 dir name rest ih =>
      rw [temp]
      exact fun same => ih (List.cons.inj same).2

theorem temp_injective {p q : Path} (hp : p ≠ []) (hq : q ≠ []) (same : temp p = temp q) :
    p = q := by
  induction p using temp.induct generalizing q with
  | case1 => exact absurd rfl hp
  | case2 name =>
      match q, hq with
      | [other], _ => simpa [temp] using same
      | dir :: other :: rest, _ =>
          exact absurd (List.cons.inj same).2.symm (temp_ne_nil _)
  | case3 dir name rest ih =>
      match q, hq with
      | [other], _ => exact absurd (List.cons.inj same).2 (temp_ne_nil _)
      | dir' :: other :: rest', _ =>
          obtain ⟨rfl, tails⟩ := List.cons.inj same
          rw [ih (by simp) (by simp) tails]

/-- A temporary's name ends in the suffix. -/
theorem suffix_of_temp_eq {p : Path} {name : Text} (h : temp p = [name]) :
    tempSuffix <:+ name := by
  match p with
  | [] => exact ⟨[], (List.cons.inj h).1⟩
  | [first] => exact ⟨first, (List.cons.inj h).1⟩
  | dir :: first :: rest => exact absurd (List.cons.inj h).2 (temp_ne_nil _)

/-! ## The file list -/

structure ManifestFile where
  path : Text
  sha256 : Text
  deriving DecidableEq

/-- `_MANIFEST_DENY_SUFFIXES`, and the settings file. -/
def manifestDenySuffixes : List Text :=
  [".env".toList, ".pem".toList, ".key".toList, "generator_control.env".toList]

/-- `str.lower` of one character, as far as the result has ASCII letters: besides the ASCII capitals
these are the Kelvin sign and the dotted capital I. -/
def lowerChar (c : Char) : Text :=
  if c = '\u212a' then ['k']
  else if c = '\u0130' then ['i', '\u0307']
  else [c.toLower]

def lower (s : Text) : Text := s.flatMap lowerChar

/-- Why `_validate_manifest_paths` rejects a manifest. -/
inductive PathError where
  /-- `unsafe manifest path: …` -/
  | unsafePath (p : Text)
  /-- `manifest may not overwrite a secret/cert file: …` -/
  | secret (p : Text)
  deriving DecidableEq

def pathError? (p : Text) : Option PathError :=
  if p = [] ∨ p.head? = some '/' ∨ p.head? = some '\\' ∨ ['.', '.'] ∈ pathParts p then
    some (.unsafePath p)
  else if manifestDenySuffixes.any (·.isSuffixOf (lower p)) then some (.secret p)
  else none

/-- `_validate_manifest_paths`: the first entry it raises on. -/
def validateManifestPaths (files : List ManifestFile) : Option PathError :=
  files.findSome? (pathError? ·.path)

/-- The file list of a manifest that passed the validation. -/
structure Manifest where
  files : List ManifestFile
  valid : validateManifestPaths files = none

def Manifest.paths (m : Manifest) : List Text := m.files.map (·.path)

/-- The live files the manifest names, in its order. -/
def Manifest.targets (m : Manifest) : List Path := m.paths.map pathParts

/-! ## Where the entries lead -/

/-- `root / p`: an absolute path replaces the root. -/
def joinPath (root : Path) (p : Text) : Path :=
  if p.head? = some '/' then pathParts p else root ++ pathParts p

/-- A name that ends in a denied suffix, in whatever case. -/
def denied (name : Text) : Bool := manifestDenySuffixes.any (·.isSuffixOf (lower name))

/-- The entry's target lies strictly inside the root, under a name that is not denied. -/
structure SafeTarget (root : Path) (p : Text) : Prop where
  inside : ∃ inner, joinPath root p = root ++ inner ∧ inner ≠ [] ∧ ['.', '.'] ∉ inner
  name : ∀ name, (joinPath root p).getLast? = some name → denied name = false

/-- The spelling goes on after the last name, with a slash or with dots. -/
def trailing (p : Text) : Bool := (p.splitOn '/').getLast?.any fun c => c = [] || c = ['.']

/-- The entry names a file, and one that is not denied if its spelling goes on after the name. -/
structure PlainEntry (p : Text) : Prop where
  named : pathParts p ≠ []
  plain : trailing p → ∀ name, (pathParts p).getLast? = some name → denied name = false

theorem lower_append (a b : Text) : lower (a ++ b) = lower a ++ lower b := List.flatMap_append

/-- What ends in a denied name is denied. -/
theorem denied_of_suffix {name p : Text} (suffix : name <:+ p) (h : denied name) : denied p := by
  rcases suffix with ⟨front, rfl⟩
  rcases List.any_eq_true.mp h with ⟨d, listed, ends⟩
  refine List.any_eq_true.mpr ⟨d, listed, ?_⟩
  rw [List.isSuffixOf_iff_suffix] at ends ⊢
  rw [lower_append]
  exact ends.trans (List.suffix_append _ _)

/-- A spelling that ends with the name ends with the last component. -/
theorem suffix_of_not_trailing {p name : Text} (ends : trailing p = false)
    (last : (pathParts p).getLast? = some name) : name <:+ p := by
  rcases List.eq_nil_or_concat' (p.splitOn '/') with empty | ⟨front, piece, eq⟩
  · exact absurd empty (List.splitOn_ne_nil _ _)
  have final : (p.splitOn '/').getLast? = some piece := by
    rw [eq, List.getLast?_concat]
  have proper : piece ≠ [] ∧ piece ≠ ['.'] := by
    unfold trailing at ends
    rw [final] at ends
    simpa using ends
  have same : name = piece := by
    unfold pathParts at last
    rw [eq, List.filter_append, List.filter_cons_of_pos (by simpa using proper), List.filter_nil,
      List.getLast?_concat, Option.some.injEq] at last
    exact last.symm
  rw [same]
  exact suffix_of_getLast?_splitOn final

/-- What the validator finds nothing wrong with. -/
theorem pathError?_eq_none {p : Text} :
    pathError? p = none ↔ p ≠ [] ∧ p.head? ≠ some '/' ∧ p.head? ≠ some '\\' ∧
      ['.', '.'] ∉ pathParts p ∧ denied p = false := by
  unfold pathError? denied
  split
  next bad => simp; tauto
  next good =>
    split
    next bad => simp [bad]
    next clean => simp_all

theorem validateManifestPaths_eq_none {files : List ManifestFile} :
    validateManifestPaths files = none ↔ ∀ f ∈ files, pathError? f.path = none := by
  unfold validateManifestPaths
  rw [List.findSome?_eq_none_iff]

theorem safeTarget_iff {p : Text} (valid : pathError? p = none) (root : Path) :
    SafeTarget root p ↔ PlainEntry p := by
  rcases pathError?_eq_none.mp valid with ⟨-, relative, -, upward, clean⟩
  have target : joinPath root p = root ++ pathParts p := if_neg relative
  constructor
  · intro safe
    rcases safe.inside with ⟨inner, eq, some_inner, -⟩
    have parts : pathParts p = inner := List.append_cancel_left (target.symm.trans eq)
    refine ⟨parts ▸ some_inner, fun _ name last => safe.name name ?_⟩
    rw [target, List.getLast?_append, last]
    rfl
  · intro entry
    refine ⟨⟨pathParts p, target, entry.named, upward⟩, fun name last => ?_⟩
    have inner : (pathParts p).getLast? = some name := by
      rcases List.eq_nil_or_concat' (pathParts p) with empty | ⟨front, piece, eq⟩
      · exact absurd empty entry.named
      · rw [target, List.getLast?_append, eq, List.getLast?_concat] at last
        rw [eq, List.getLast?_concat]
        exact last
    by_cases more : trailing p
    · exact entry.plain more name inner
    · have suffix := suffix_of_not_trailing (eq_false_of_ne_true more) inner
      by_contra bad
      have also := denied_of_suffix suffix (eq_true_of_ne_false bad)
      rw [clean] at also
      cases also

/-- The targets of a validated list are safe exactly if every entry names a file, and none that is
spelled on after its name names a denied one. -/
theorem safeTargets_iff {files : List ManifestFile} (valid : validateManifestPaths files = none)
    (root : Path) :
    (∀ f ∈ files, SafeTarget root f.path) ↔ ∀ f ∈ files, PlainEntry f.path :=
  forall₂_congr fun f mem => safeTarget_iff (validateManifestPaths_eq_none.mp valid f mem) root

theorem safeTargets_ofOneModule :
    (∀ f ∈ [⟨"genpi//app.py/".toList, []⟩, ⟨"NEW".toList, []⟩],
      SafeTarget ["opt".toList] (ManifestFile.path f)) ↔
    ∀ f ∈ [⟨"genpi//app.py/".toList, []⟩, ⟨"NEW".toList, []⟩],
      PlainEntry (ManifestFile.path f) :=
  safeTargets_iff (by decide) ["opt".toList]

/-- The settings file spelled with a slash at the end passes. -/
theorem secret_accepted :
    ¬∀ (files : List ManifestFile) (root : Path), validateManifestPaths files = none →
      ∀ f ∈ files, SafeTarget root f.path := by
  intro all
  have safe := all [⟨"generator_control.env/".toList, []⟩] ["opt".toList] (by decide) _
    List.mem_cons_self
  have clean := safe.name "generator_control.env".toList (by decide)
  exact absurd clean (by decide)

end GeneratorPi
