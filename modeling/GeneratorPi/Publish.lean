import GeneratorPi.Gate
import GeneratorPi.Staging

/-!
# Publishing a release

`tools/gen-manifest.py` lists the files of a checkout with their hashes and sizes; the updater of a
running instance downloads what is listed, checks it and swaps it in.  A manifest that was built
from a checkout, served with the checkout's files, is installed whole (`release_installs`), and no
gate of a manifest that was built is one the updater cannot read (`built_gate_blocks`).
-/

namespace GeneratorPi.Publish

open PyText FileTree Utf8 Staging

/-! ## The manifest of a checkout (gen-manifest.py) -/

/-- `_PKG_EXTS` -/
def pkgExts : List Text := [".py".toList, ".css".toList, ".js".toList, ".html".toList]

/-- `PurePath.suffix` of the last component. -/
def suffix (name : Text) : Text :=
  let ext := (name.reverse.takeWhile (· ≠ '.')).reverse
  if '.' ∈ name ∧ ext ≠ [] ∧ ext.length + 1 < name.length then '.' :: ext else []

/-- The name of a file in a directory. -/
def IsFileName (c : Text) : Prop := c ≠ [] ∧ c ≠ ['.'] ∧ c ≠ ['.', '.'] ∧ '/' ∉ c

instance decidableIsFileName (c : Text) : Decidable (IsFileName c) :=
  inferInstanceAs (Decidable (_ ∧ _))

def pycache : Text := "__pycache__".toList

def versionFile : Text := "VERSION".toList

/-- What the tool finds below the repository's root. -/
structure Checkout where
  /-- The components of `ROOT`. -/
  root : Path
  /-- What reading a file gives, by its path below the root. -/
  files : Tree Path Bytes
  /-- The text of `VERSION`, if it can be read. -/
  version : Option Text
  /-- The files that `rglob` finds in the package, in the order of the file system. -/
  listing : List Path
  package : ∀ p ∈ listing, ∃ rest, rest ≠ [] ∧ p = "genpi".toList :: rest
  names : ∀ p ∈ listing, ∀ c ∈ p, IsFileName c
  found : ∀ p ∈ listing, (files p).isSome
  versioned : version.isSome → (files (pathParts versionFile)).isSome

/-- `str` of a path below the root. -/
def relPath (p : Path) : Text := ['/'].intercalate p

def packaged (c : Checkout) (p : Path) : Prop :=
  suffix (p.getLastD []) ∈ pkgExts ∧ pycache ∉ c.root ++ p

instance decidablePackaged (c : Checkout) (p : Path) : Decidable (packaged c p) :=
  inferInstanceAs (Decidable (_ ∧ _))

/-- `_PACKAGE_FILES` -/
def packageFiles (c : Checkout) : List Text :=
  ((c.listing.filter (packaged c ·)).map relPath).mergeSort (fun a b => decide (a ≤ b))

/-- The other files of a release. -/
def otherFiles : List Text :=
  ["requirements.txt".toList, "setup.sh".toList, "update.sh".toList, versionFile,
    "CHANGELOG-RECENT.md".toList, "tools/gp-monitor.py".toList, "tools/gp-monitor.md".toList]

/-- `SHIPPED_FILES` -/
def shippedFiles (c : Checkout) : List Text := packageFiles c ++ otherFiles

/-- What `$` leaves: a final newline may follow. -/
def beforeEnd (v : Text) : Text := if v.getLast? = some '\n' then v.dropLast else v

/-- `_GATE_VERSION_RE.match` -/
def gateVersion (v : Text) : Bool :=
  let parts := (beforeEnd v).splitOn '.'
  parts.length = 3 && parts.all fun p => p ≠ [] && p.all isDecimal

structure ReleaseFile where
  path : Text
  sha256 : Text
  bytes : ℕ

structure Release where
  version : Text
  files : List ReleaseFile
  /-- `INCOMPATIBLE_VERSIONS`: the gates with their reasons. -/
  incompatible : List (Text × Text)

inductive BuildError where
  | version
  /-- `INCOMPATIBLE_VERSIONS has malformed version keys …` -/
  | malformed (bad : List Text)

/-- The entry of a file; one that is not there is skipped. -/
def releaseFile (sha256 : Bytes → Text) (c : Checkout) (rel : Text) : Option ReleaseFile :=
  (c.files (pathParts rel)).map fun data => ⟨rel, sha256 data, data.length⟩

/-- `build_manifest` -/
def buildManifest (sha256 : Bytes → Text) (c : Checkout) (incompatible : List (Text × Text)) :
    Except BuildError Release :=
  match c.version with
  | none => .error .version
  | some text =>
      let bad := (incompatible.map Prod.fst).filter fun v => !gateVersion v
      if bad ≠ [] then .error (.malformed bad)
      else
        .ok { version := strip text, files := (shippedFiles c).filterMap (releaseFile sha256 c),
              incompatible := incompatible }

/-! ## What a manifest lists -/

/-- The path of a file that the updater takes as it is. -/
structure Shippable (rel : Text) : Prop where
  valid : pathError? rel = none
  named : pathParts rel ≠ []
  source : pycache ∉ pathParts rel
  /-- It is not named like the temporary of a swap. -/
  live : ∀ name, (pathParts rel).getLast? = some name → ¬ tempSuffix <:+ name

theorem suffix_suffix (name : Text) : suffix name <:+ name := by
  rw [suffix]
  split
  case isFalse => exact List.nil_suffix
  case isTrue dotted =>
    have rest : name.reverse.dropWhile (· ≠ '.') ≠ [] := by
      rw [Ne, List.dropWhile_eq_nil_iff]
      exact fun all => by simpa using all '.' (List.mem_reverse.mpr dotted.1)
    obtain ⟨dot, before, split⟩ := List.exists_cons_of_ne_nil rest
    have head := List.head?_dropWhile_not (· ≠ '.') name.reverse
    rw [split] at head
    have isDot : dot = '.' := by simpa using head
    refine ⟨before.reverse, ?_⟩
    have whole : name.reverse.takeWhile (· ≠ '.') ++ name.reverse.dropWhile (· ≠ '.') =
        name.reverse :=
      List.takeWhile_append_dropWhile
    rw [split, isDot] at whole
    have turned := congrArg List.reverse whole
    simpa using turned

/-- Two endings of one text, neither of which ends the other. -/
theorem not_suffix_of_suffix {a b s : Text} (h : a <:+ s) (ab : ¬ a <:+ b) (ba : ¬ b <:+ a) :
    ¬ b <:+ s := fun other => (List.suffix_or_suffix_of_suffix h other).elim ab ba

theorem denied_of_ext {ext rel : Text} (known : ext ∈ pkgExts) (h : ext <:+ rel) :
    denied rel = false := by
  have lowered : lower ext <:+ lower rel := by
    obtain ⟨before, rfl⟩ := h
    rw [lower_append]
    exact List.suffix_append _ _
  have apart : ∀ ext ∈ pkgExts, ∀ d ∈ manifestDenySuffixes, ¬ lower ext <:+ d ∧
      ¬ d <:+ lower ext := by
    decide
  refine eq_false_of_ne_true fun bad => ?_
  obtain ⟨d, listed, ends⟩ := List.any_eq_true.mp bad
  obtain ⟨ab, ba⟩ := apart ext known d listed
  exact not_suffix_of_suffix lowered ab ba (List.isSuffixOf_iff_suffix.mp ends)

theorem pathParts_relPath {p : Path} (some_part : p ≠ []) (names : ∀ c ∈ p, IsFileName c) :
    pathParts (relPath p) = p := by
  rw [pathParts, relPath, List.splitOn_intercalate '/' (fun c mem => (names c mem).2.2.2) some_part,
    List.filter_eq_self]
  exact fun c mem => by simpa using ⟨(names c mem).1, (names c mem).2.1⟩

theorem suffix_relPath {p : Path} {name : Text} (last : p.getLast? = some name) :
    name <:+ relPath p := by
  induction p with
  | nil => cases last
  | cons dir p ih =>
      cases p with
      | nil =>
          rw [← Option.some.inj last, relPath, List.intercalate_singleton]
          exact List.suffix_refl _
      | cons next rest =>
          have later := ih (by rwa [List.getLast?_cons_cons] at last)
          rw [relPath, List.intercalate_cons_cons]
          exact later.trans (List.suffix_append _ _)

theorem shippable_package {c : Checkout} {p : Path} (mem : p ∈ c.listing) (kept : packaged c p) :
    Shippable (relPath p) := by
  obtain ⟨rest, some_rest, below⟩ := c.package p mem
  have names := c.names p mem
  have parts : pathParts (relPath p) = p := pathParts_relPath (by rw [below]; simp) names
  obtain ⟨name, last⟩ : ∃ name, p.getLast? = some name :=
    ⟨_, List.getLast?_eq_getLast_of_ne_nil (by rw [below]; simp)⟩
  have ends : suffix name <:+ name := suffix_suffix name
  have known : suffix name ∈ pkgExts := by
    have ext := kept.1
    rwa [List.getLastD_eq_getLast?, last] at ext
  have head : (relPath p).head? = some 'g' := by
    obtain ⟨next, more, rfl⟩ := List.exists_cons_of_ne_nil some_rest
    rw [below, relPath, List.intercalate_cons_cons]
    rfl
  constructor
  · refine pathError?_eq_none.mpr ⟨?_, ?_, ?_, ?_, ?_⟩
    · rintro empty
      rw [empty] at head
      cases head
    · rw [head]
      decide
    · rw [head]
      decide
    · rw [parts]
      exact fun up => (names _ up).2.2.1 rfl
    · exact denied_of_ext known (ends.trans (suffix_relPath last))
  · rw [parts, below]
    exact List.cons_ne_nil _ _
  · rw [parts]
    exact fun cached => kept.2 (List.mem_append_right _ cached)
  · have apart : ∀ ext ∈ pkgExts, ¬ ext <:+ tempSuffix ∧ ¬ tempSuffix <:+ ext := by decide
    rw [parts]
    intro other also
    rw [Option.some.inj (also.symm.trans last)]
    exact not_suffix_of_suffix ends (apart _ known).1 (apart _ known).2

theorem shippable_other {rel : Text} (mem : rel ∈ otherFiles) : Shippable rel := by
  have valid : ∀ rel ∈ otherFiles, pathError? rel = none := by decide
  have named : ∀ rel ∈ otherFiles, pathParts rel ≠ [] ∧ pycache ∉ pathParts rel := by
    decide
  have live : ∀ rel ∈ otherFiles,
      (pathParts rel).getLast?.all (fun name => ! tempSuffix.isSuffixOf name) = true := by
    decide
  refine ⟨valid rel mem, (named rel mem).1, (named rel mem).2, fun name last ends => ?_⟩
  have plain := live rel mem
  rw [last, Option.all_some, List.isSuffixOf_iff_suffix.mpr ends] at plain
  cases plain

theorem mem_packageFiles {c : Checkout} {rel : Text} :
    rel ∈ packageFiles c ↔ ∃ p ∈ c.listing, packaged c p ∧ relPath p = rel := by
  simp [packageFiles, and_assoc]

theorem shippable_of_mem {c : Checkout} {rel : Text} (mem : rel ∈ shippedFiles c) :
    Shippable rel := by
  rcases List.mem_append.mp mem with package | other
  · obtain ⟨p, listed, kept, rfl⟩ := mem_packageFiles.mp package
    exact shippable_package listed kept
  · exact shippable_other other

/-- What is known of a manifest that was built. -/
structure Built (sha256 : Bytes → Text) (c : Checkout) (incompatible : List (Text × Text))
    (release : Release) : Prop where
  files : release.files = (shippedFiles c).filterMap (releaseFile sha256 c)
  gates : release.incompatible = incompatible
  legible : ∀ gate ∈ incompatible, gateVersion gate.1 = true
  versioned : (c.files (pathParts versionFile)).isSome

theorem built_of_ok {sha256 : Bytes → Text} {c : Checkout} {incompatible : List (Text × Text)}
    {release : Release} (h : buildManifest sha256 c incompatible = .ok release) :
    Built sha256 c incompatible release := by
  dsimp only [buildManifest] at h
  split at h
  case h_1 => cases h
  case h_2 text read =>
    split at h
    case isTrue => cases h
    case isFalse good =>
      obtain rfl := Except.ok.inj h
      refine ⟨rfl, rfl, fun gate mem => ?_, c.versioned (by rw [read]; rfl)⟩
      by_contra bad
      refine good fun none => ?_
      have listed : gate.1 ∈ (incompatible.map Prod.fst).filter fun v => !gateVersion v :=
        List.mem_filter.mpr ⟨List.mem_map_of_mem mem, by simpa using bad⟩
      rw [none] at listed
      cases listed

/-! ## The release served and installed -/

def ReleaseFile.entry (f : ReleaseFile) : Entry := ⟨f.path, some f.sha256, some f.bytes⟩

/-- What the updater reads of the manifest's files. -/
def Release.entries (release : Release) : List Entry := release.files.map ReleaseFile.entry

def Release.targets (release : Release) : List Path := release.files.map (pathParts ·.path)

/-- The server answers with the files of the checkout, and no step of the updater raises. -/
structure Honest (c : Checkout) (release : Release) (w : World) : Prop where
  response : ∀ i (h : i < release.files.length),
    w.response i = c.files (pathParts release.files[i].path)
  makeStaging : w.makeStaging = true
  makeParents : ∀ i, w.makeParents i = true
  write : ∀ i, w.write i = .done
  read : ∀ i, w.read i = true
  compile : ∀ i, ∃ code, w.compile i = .done code

section Stages

variable {site : Staging.Site} {w : World}

theorem le_maxBytes (n : ℕ) : n ≤ maxBytes n := by
  rw [maxBytes]
  omega

theorem httpGetBytes_of_le {data : Bytes} {limit : ℕ} (fits : data.length ≤ limit) :
    httpGetBytes (some data) limit = .ok data := by
  have whole : data.take (limit + 1) = data := List.take_of_length_le (Nat.le_succ_of_le fits)
  dsimp only [httpGetBytes]
  rw [whole, if_neg (Nat.not_lt.mpr fits)]

theorem download_cons {f : Entry} {size : ℤ} {data : Bytes} {i : ℕ} (bytes : f.bytes = some size)
    (got : httpGetBytes (w.response i) (maxBytes size) = .ok data)
    (parents : w.makeParents i = true)
    (written : w.write i = .done) (rest : List Entry) (t : Tree Path Bytes) :
    download site w i (f :: rest) t =
      download site w (i + 1) rest (write t (site.dest f.path) data) := by
  rw [download, bytes]
  dsimp only
  rw [got]
  dsimp only
  rw [if_pos parents, written]

/-- What is served as listed is downloaded. -/
theorem download_served (site : Staging.Site) {body : Text → Bytes} {entries : List Entry} {i : ℕ}
    (served : ∀ k (h : k < entries.length), w.response (i + k) = some (body entries[k].path))
    (sized : ∀ f ∈ entries, f.bytes = some ((body f.path).length : ℤ))
    (makeParents : ∀ i, w.makeParents i = true) (written : ∀ i, w.write i = .done)
    (t : Tree Path Bytes) :
    download site w i entries t =
      (writeAll t (entries.map fun f => (site.dest f.path, body f.path)), none) := by
  induction entries generalizing i t with
  | nil => rfl
  | cons f rest ih =>
      have here : w.response i = some (body f.path) := served 0 (Nat.zero_lt_succ _)
      have later := ih (i := i + 1) (fun k h => by
          have next := served (k + 1) (Nat.succ_lt_succ h)
          rwa [← Nat.add_assoc, Nat.add_right_comm] at next)
        (fun g mem => sized g (List.mem_cons_of_mem _ mem))
        (write t (site.dest f.path) (body f.path))
      have got : httpGetBytes (w.response i) (maxBytes (body f.path).length) =
          .ok (body f.path) := by
        rw [here, httpGetBytes_of_le (le_maxBytes _)]
      rw [download_cons (sized f List.mem_cons_self) got (makeParents i) (written i), later]
      rfl

/-- What is staged with the hashes listed is verified. -/
theorem verify_staged {entries : List Entry} {t : Tree Path Bytes} {i : ℕ}
    (staged : ∀ f ∈ entries, Staged site t f) (read : ∀ i, w.read i = true) :
    verify site w i entries t = none := by
  induction entries generalizing i with
  | nil => rfl
  | cons f rest ih =>
      obtain ⟨data, found, listed⟩ := staged f List.mem_cons_self
      rw [verify, listed, read i, found]
      dsimp only
      rw [if_neg (not_not_intro rfl)]
      exact ih fun g mem => staged g (List.mem_cons_of_mem _ mem)

theorem compile_done {paths : List Text} {i : ℕ} (done : ∀ i, ∃ code, w.compile i = .done code)
    (t : Tree Path Bytes) : (compile site w i paths t).2 = none := by
  induction paths generalizing i t with
  | nil => rfl
  | cons rel rest ih =>
      obtain ⟨code, compiled⟩ := done i
      rw [compile, compiled]
      exact ih _

/-- The byte code goes where no file without `__pycache__` in its path is staged. -/
theorem cachePath_ne_dest {rel other : Text} (valid : pathError? rel = none)
    (named : pathParts rel ≠ []) (validOther : pathError? other = none)
    (source : pycache ∉ pathParts other) : site.cachePath rel ≠ site.dest other := by
  intro same
  rw [Staging.Site.cachePath, dest_eq valid, dest_eq validOther,
    List.dropLast_append_of_ne_nil named,
    List.append_assoc] at same
  refine source ?_
  rw [← List.append_cancel_left same]
  exact List.mem_append_right _ List.mem_cons_self

theorem mem_codeWrites {i : ℕ} {paths : List Text} {e : Path × Bytes}
    (mem : e ∈ codeWrites site w i paths) : ∃ rel ∈ paths, e.1 = site.cachePath rel := by
  induction paths generalizing i with
  | nil => cases mem
  | cons rel rest ih =>
      rw [codeWrites] at mem
      split at mem
      case h_2 => exact (ih mem).imp fun other found => ⟨List.mem_cons_of_mem _ found.1, found.2⟩
      case h_1 =>
        rcases List.mem_cons.mp mem with rfl | later
        · exact ⟨rel, List.mem_cons_self, rfl⟩
        · exact (ih later).imp fun other found => ⟨List.mem_cons_of_mem _ found.1, found.2⟩

/-- The compile check leaves what was staged. -/
theorem compile_keeps {entries : List Entry} (shippable : ∀ f ∈ entries, Shippable f.path)
    {t u : Tree Path Bytes} (compiled : compile site w 0 (pyFiles entries) t = (u, none))
    {f : Entry} (mem : f ∈ entries) : u (site.dest f.path) = t (site.dest f.path) := by
  rw [writeAll_of_compile compiled]
  refine writeAll_of_not_mem t fun e wrote => ?_
  obtain ⟨rel, isModule, place⟩ := mem_codeWrites wrote
  obtain ⟨g, of_entries, rfl⟩ := List.mem_map.mp (List.mem_of_mem_filter isModule)
  have module := shippable g of_entries
  rw [place]
  exact cachePath_ne_dest module.valid module.named (shippable f mem).valid (shippable f mem).source

/-- A release that is served as listed is staged. -/
theorem downloadAndVerify_served (body : Text → Bytes) {entries : List Entry}
    (some_file : entries ≠ [])
    (listed : ∀ f ∈ entries, f = ⟨f.path, some (site.sha256 (body f.path)),
      some ((body f.path).length : ℤ)⟩)
    (shippable : ∀ f ∈ entries, Shippable f.path)
    (one : ∀ f ∈ entries, ∀ g ∈ entries, pathParts f.path = pathParts g.path →
      body f.path = body g.path)
    (served : ∀ k (h : k < entries.length), w.response k = some (body entries[k].path))
    (makeStaging : w.makeStaging = true) (makeParents : ∀ i, w.makeParents i = true)
    (written : ∀ i, w.write i = .done) (read : ∀ i, w.read i = true)
    (done : ∀ i, ∃ code, w.compile i = .done code) (t : Tree Path Bytes) :
    ∃ u, downloadAndVerify site w entries t = (u, none) ∧
      ∀ f ∈ entries, u (site.dir ++ pathParts f.path) = some (body f.path) := by
  have dest : ∀ f ∈ entries, site.dest f.path = site.dir ++ pathParts f.path := fun f mem =>
    dest_eq (shippable f mem).valid
  have accepted : validateManifestPaths (entries.map Entry.listed) = none := by
    refine validateManifestPaths_eq_none.mpr fun g mem => ?_
    obtain ⟨f, of_entries, rfl⟩ := List.mem_map.mp mem
    exact (shippable f of_entries).valid
  have downloaded := download_served site (i := 0)
    (by simpa using served) (fun f mem => by rw [listed f mem]) makeParents written (clear site w t)
  have places : ∀ f ∈ entries,
      writeAll (clear site w t) (entries.map fun f => (site.dest f.path, body f.path))
        (site.dest f.path) = some (body f.path) := by
    intro f mem
    refine writeAll_of_mem _ (List.mem_map.mpr ⟨f, mem, rfl⟩) fun e wrote same => ?_
    obtain ⟨g, of_entries, rfl⟩ := List.mem_map.mp wrote
    refine one g of_entries f mem ?_
    dsimp only at same
    rw [dest f mem, dest g of_entries] at same
    exact List.append_cancel_left same
  have verified : verify site w 0 entries (writeAll (clear site w t)
      (entries.map fun f => (site.dest f.path, body f.path))) = none :=
    verify_staged (fun f mem => ⟨body f.path, places f mem, by rw [listed f mem]⟩) read
  obtain ⟨u, compiled⟩ : ∃ u, compile site w 0 (pyFiles entries) (writeAll (clear site w t)
      (entries.map fun f => (site.dest f.path, body f.path))) = (u, none) :=
    ⟨_, Prod.ext rfl (compile_done done _)⟩
  refine ⟨u, ?_, fun f mem => ?_⟩
  · rw [downloadAndVerify, if_neg some_file, accepted]
    dsimp only
    rw [if_pos makeStaging, downloaded]
    dsimp only
    rw [verified]
    exact compiled
  · rw [← dest f mem, compile_keeps shippable compiled mem, places f mem]

end Stages

/-! ## The whole way -/

/-- The staged files as the swap reads them, by their paths in the release. -/
def stagedTree (site : Staging.Site) (mode : Path → ℕ) (u : Tree Path Bytes) :
  LiveTree Bytes := fun p =>
  (u (site.dir ++ p)).map fun data => ⟨data, mode p⟩

theorem swapFile_isSome {β : Type} {staged : LiveTree β} {p : Path} (named : p ≠ [])
    (there : (staged p).isSome) (t : LiveTree β) : ∃ u, swapFile staged t p = some u := by
  obtain ⟨f, found⟩ := Option.isSome_iff_exists.mp there
  have copied : copyTemp staged t p = some (write t (temp p) f) := by
    rw [copyTemp, readStaged, if_neg named, found, Option.map_some]
  have atTemp : (contents (chmodTemp (write t (temp p) f) p) (temp p)).isSome := by
    rw [contents_chmodTemp, contents_write, write_same]
    rfl
  obtain ⟨g, new⟩ := Option.isSome_iff_exists.mp (by rwa [contents, Option.isSome_map] at atTemp)
  rw [swapFile, copied, Option.bind_some, replaceLive, rename, new]
  exact ⟨_, rfl⟩

/-- A swap of staged files does not fail by itself. -/
theorem swap_isSome {β : Type} {staged : LiveTree β} {targets : List Path}
    (there : ∀ p ∈ targets, p ≠ [] ∧ (staged p).isSome) (t : LiveTree β) :
    ∃ u, swap staged t targets = some u := by
  induction targets generalizing t with
  | nil => exact ⟨t, rfl⟩
  | cons p rest ih =>
      obtain ⟨named, here⟩ := there p List.mem_cons_self
      obtain ⟨v, first⟩ := swapFile_isSome named here t
      obtain ⟨u, later⟩ := ih (fun q mem => there q (List.mem_cons_of_mem _ mem)) v
      exact ⟨u, swap_cons_eq_some.mpr ⟨v, first, later⟩⟩

theorem getLast?_temp {p : Path} {name : Text} (last : p.getLast? = some name) :
    (temp p).getLast? = some (name ++ tempSuffix) := by
  induction p using temp.induct with
  | case1 => cases last
  | case2 only =>
      cases last
      rfl
  | case3 dir next rest ih =>
      obtain ⟨head, tail, eq⟩ := List.exists_cons_of_ne_nil (temp_ne_nil (next :: rest))
      have later := ih (by rwa [List.getLast?_cons_cons] at last)
      rw [temp, eq, List.getLast?_cons_cons, ← eq, later]

/-- No file of a release is the temporary of another. -/
theorem not_mem_temps {rels : List Text} (shippable : ∀ rel ∈ rels, Shippable rel) {rel : Text}
    (mem : rel ∈ rels) : pathParts rel ∉ (rels.map pathParts).map temp := by
  intro among
  obtain ⟨q, target, same⟩ := List.mem_map.mp among
  obtain ⟨other, listed, rfl⟩ := List.mem_map.mp target
  have named := (shippable other listed).named
  have last := List.getLast?_eq_getLast_of_ne_nil named
  refine (shippable rel mem).live _ ?_ (List.suffix_append ((pathParts other).getLast named) _)
  rw [← same]
  exact getLast?_temp last

/-- The live tree after the update: the files of the release as the checkout has them, no
temporary, and everything else as it was. -/
structure Installed (c : Checkout) (release : Release) (before after : LiveTree Bytes) : Prop where
  shipped : ∀ rel ∈ shippedFiles c, (c.files (pathParts rel)).isSome →
    contents after (pathParts rel) = c.files (pathParts rel)
  rest : ∀ q, q ∉ release.targets →
    contents after q = if q ∈ release.targets.map temp then none else contents before q

/-- A manifest built from a checkout and served with its files passes every check of the updater,
and the swap installs the checkout's files and touches nothing else. -/
theorem release_installs {c : Checkout} {incompatible : List (Text × Text)} {release : Release}
    {site : Staging.Site} (built : buildManifest site.sha256 c incompatible = .ok release)
    {w : World}
    (honest : Honest c release w) (mode : Path → ℕ) (t : Tree Path Bytes) (live : LiveTree Bytes) :
    ∃ u after, downloadAndVerify site w release.entries t = (u, none) ∧
      swap (stagedTree site mode u) live release.targets = some after ∧
      Installed c release live after := by
  obtain ⟨files, -, -, versioned⟩ := built_of_ok built
  let body : Text → Bytes := fun rel => (c.files (pathParts rel)).getD []
  have listed : ∀ f ∈ release.files, f.path ∈ shippedFiles c ∧
      c.files (pathParts f.path) = some (body f.path) ∧
      f = ⟨f.path, site.sha256 (body f.path), (body f.path).length⟩ := by
    intro f mem
    rw [files] at mem
    obtain ⟨rel, shipped, found⟩ := List.mem_filterMap.mp mem
    obtain ⟨data, there, rfl⟩ := Option.map_eq_some_iff.mp found
    have same : body rel = data := by
      dsimp only [body]
      rw [there, Option.getD_some]
    exact ⟨shipped, by rw [there, same], by rw [same]⟩
  have shippable : ∀ f ∈ release.files, Shippable f.path := fun f mem =>
    shippable_of_mem (listed f mem).1
  have complete : ∀ rel ∈ shippedFiles c, (c.files (pathParts rel)).isSome →
      ∃ f ∈ release.files, f.path = rel := by
    intro rel shipped there
    obtain ⟨data, found⟩ := Option.isSome_iff_exists.mp there
    refine ⟨⟨rel, site.sha256 data, data.length⟩, ?_, rfl⟩
    rw [files]
    exact List.mem_filterMap.mpr ⟨rel, shipped, by rw [releaseFile, found, Option.map_some]⟩
  have some_file : release.entries ≠ [] := by
    have other : versionFile ∈ otherFiles := by decide
    obtain ⟨f, mem, -⟩ := complete versionFile (List.mem_append_right _ other) versioned
    exact fun none => List.ne_nil_of_mem mem (List.map_eq_nil_iff.mp none)
  have of_entries : ∀ {P : Entry → Prop}, (∀ f ∈ release.files, P f.entry) →
      ∀ e ∈ release.entries, P e := fun all e mem => by
    obtain ⟨f, of_files, rfl⟩ := List.mem_map.mp mem
    exact all f of_files
  have served : ∀ k (h : k < release.entries.length),
      w.response k = some (body release.entries[k].path) := by
    intro k h
    have bound : k < release.files.length := by simpa [Release.entries] using h
    have path : release.entries[k].path = release.files[k].path := by
      simp [Release.entries, ReleaseFile.entry]
    rw [honest.response k bound, path, (listed _ (List.getElem_mem bound)).2.1]
  obtain ⟨u, staged, places⟩ := downloadAndVerify_served body some_file
    (of_entries fun f mem => by
      rw [(listed f mem).2.2]
      rfl)
    (of_entries shippable)
    (of_entries fun f _ => of_entries fun g _ same => by
      dsimp only [body] at same ⊢
      rw [same])
    served honest.makeStaging honest.makeParents honest.write honest.read honest.compile t
  have held : ∀ f ∈ release.files,
      stagedTree site mode u (pathParts f.path) = some ⟨body f.path, mode (pathParts f.path)⟩ := by
    intro f mem
    have place := places f.entry (List.mem_map_of_mem mem)
    rw [stagedTree, show u (site.dir ++ pathParts f.path) = some (body f.path) from place,
      Option.map_some]
  have targets : release.targets = (release.files.map ReleaseFile.path).map pathParts := by
    rw [Release.targets, List.map_map]
    rfl
  have there : ∀ p ∈ release.targets, p ≠ [] ∧ (stagedTree site mode u p).isSome := fun p mem => by
    obtain ⟨f, of_files, rfl⟩ := List.mem_map.mp mem
    exact ⟨(shippable f of_files).named, by rw [held f of_files]; rfl⟩
  obtain ⟨after, swapped⟩ := swap_isSome there live
  refine ⟨u, after, staged, swapped, fun rel shipped there => ?_, fun q off =>
    swap_contents swapped off⟩
  obtain ⟨f, mem, rfl⟩ := complete rel shipped there
  have paths : ∀ rel ∈ release.files.map ReleaseFile.path, Shippable rel := fun rel of_files => by
    obtain ⟨g, of_release, rfl⟩ := List.mem_map.mp of_files
    exact shippable g of_release
  have plain := not_mem_temps paths (List.mem_map_of_mem mem)
  rw [← targets] at plain
  rw [swap_contents_of_mem swapped (List.mem_map_of_mem mem) plain, contents, held f mem,
    Option.map_some, (listed f mem).2.1]

/-! ## A small release -/

/-- A checkout with one module, its byte code, and the version. -/
def smallFiles : Tree Path Bytes := fun p =>
  if p = ["genpi".toList, "app.py".toList] then some [120, 61, 49]
  else if p = ["genpi".toList, pycache, "app.cpython-311.pyc".toList] then some [0]
  else if p = [versionFile] then some [49]
  else none

def smallCheckout : Checkout where
  root := ["home".toList, "generatorpi".toList]
  files := smallFiles
  version := some "1.6.0\n".toList
  listing := [["genpi".toList, pycache, "app.cpython-311.pyc".toList],
    ["genpi".toList, "app.py".toList]]
  package p mem := by
    rcases List.mem_pair.mp mem with rfl | rfl <;> exact ⟨_, List.cons_ne_nil _ _, rfl⟩
  names := by decide
  found := by decide
  versioned := by decide

def smallRelease : Release where
  version := strip "1.6.0\n".toList
  files := (shippedFiles smallCheckout).filterMap (releaseFile plainSite.sha256 smallCheckout)
  incompatible := [("1.5.0".toList, [])]

def smallServer : World where
  stuck _ := false
  makeStaging := true
  response i := (smallRelease.files[i]?).bind fun f => smallFiles (pathParts f.path)
  makeParents _ := true
  write _ := .done
  read _ := true
  compile _ := .done [110, 101, 119]

theorem build_smallCheckout :
    buildManifest plainSite.sha256 smallCheckout [("1.5.0".toList, [])] = .ok smallRelease := by
  have legible : ([("1.5.0".toList, ([] : Text))].map Prod.fst).filter (fun v => !gateVersion v) =
      [] := by
    decide
  dsimp only [buildManifest, smallCheckout]
  rw [legible, if_neg (not_not_intro rfl)]
  rfl

theorem honest_smallServer : Honest smallCheckout smallRelease smallServer where
  response i h := by
    dsimp only [smallServer]
    rw [List.getElem?_eq_getElem h]
    rfl
  makeStaging := rfl
  makeParents _ := rfl
  write _ := rfl
  read _ := rfl
  compile _ := ⟨_, rfl⟩

theorem smallRelease_installs :
    ∃ u after, downloadAndVerify plainSite smallServer smallRelease.entries (fun _ => none) =
      (u, none) ∧
      swap (stagedTree plainSite (fun _ => 0o644) u) (fun _ => none) smallRelease.targets =
        some after ∧
      Installed smallCheckout smallRelease (fun _ => none) after :=
  release_installs build_smallCheckout honest_smallServer (fun _ => 0o644) (fun _ => none)
    fun _ => none

/-! ## The gates of a manifest -/

/-- The three numbers of a gate. -/
def gateNumbers (g : Text) : List ℤ :=
  ((beforeEnd g).splitOn '.').map fun p => (Nat.ofDigitChars 10 (p.map asciiDecimal) 0 : ℤ)

theorem gateVersion_eq_true {g : Text} :
    gateVersion g = true ↔ ((beforeEnd g).splitOn '.').length = 3 ∧
      ∀ p ∈ (beforeEnd g).splitOn '.', p ≠ [] ∧ ∀ c ∈ p, isDecimal c := by
  simp [gateVersion]

/-- The characters of a gate that the tool accepts. -/
theorem mem_beforeEnd {g : Text} (h : gateVersion g = true) {c : Char} (mem : c ∈ beforeEnd g) :
    c = '.' ∨ isDecimal c := by
  obtain ⟨-, parts⟩ := gateVersion_eq_true.mp h
  have whole : ['.'].intercalate ((beforeEnd g).splitOn '.') = beforeEnd g :=
    List.intercalate_splitOn '.'
  rw [← whole] at mem
  rcases DottedVersion.mem_intercalate_dot mem with dot | ⟨p, part, inside⟩
  · exact Or.inl dot
  · exact Or.inr ((parts p part).2 c inside)

theorem strip_append_newline {body : Text} (solid : ∀ c ∈ body, isSpace c = false) :
    strip (body ++ ['\n']) = body := by
  cases body with
  | nil => decide
  | cons c rest =>
      have left : lstrip (c :: rest ++ ['\n']) = c :: rest ++ ['\n'] :=
        lstrip_eq_self fun d first => by
          obtain rfl := Option.some.inj first
          exact solid c List.mem_cons_self
      have right : rstrip (c :: rest ++ ['\n']) = rstrip (c :: rest) := by
        rw [rstrip, List.reverse_append, List.reverse_singleton, List.singleton_append,
          List.dropWhile_cons_of_pos (by decide), rstrip]
      rw [strip, left, right]
      exact rstrip_eq_self (Trimmed.of_all solid).last

theorem gateVer_eq_beforeEnd {g : Text} (h : gateVersion g = true) : gateVer g = beforeEnd g := by
  have solid : ∀ c ∈ beforeEnd g, isSpace c = false := by
    intro c mem
    rcases mem_beforeEnd h mem with rfl | decimal
    · decide
    · exact isSpace_of_isDecimal decimal
  have untagged : ∀ c ∈ beforeEnd g, ¬ (c = 'v' ∨ c = 'V') := by
    rintro c mem (rfl | rfl)
    · exact absurd (mem_beforeEnd h mem) (by decide)
    · exact absurd (mem_beforeEnd h mem) (by decide)
  have stripped : strip g = beforeEnd g := by
    rw [beforeEnd] at solid ⊢
    split at solid
    case isFalse plain => rw [if_neg plain, strip_eq_self solid]
    case isTrue ended =>
      obtain ⟨body, rfl⟩ := List.getLast?_eq_some_iff.mp ended
      rw [if_pos ended]
      rw [List.dropLast_concat] at solid ⊢
      exact strip_append_newline solid
  rw [gateVer, stripped]
  split
  case h_1 c rest eq =>
    rw [if_neg (untagged c (by rw [eq]; exact List.mem_cons_self)), eq]
  case h_2 eq => exact eq.symm

theorem versionTuple_gateVer {g : Text} (h : gateVersion g = true)
    (short : ∀ p ∈ (beforeEnd g).splitOn '.', p.length ≤ intMaxStrDigits) :
    versionTuple (gateVer g) = gateNumbers g := by
  obtain ⟨-, parts⟩ := gateVersion_eq_true.mp h
  rw [gateVer_eq_beforeEnd h, versionTuple, gateNumbers]
  refine List.map_congr_left fun p mem => ?_
  rw [int?_of_decimals (parts p mem).1 (parts p mem).2, if_pos (short p mem), Option.getD_some]

/-- A gate of a manifest that could be built is no inert one: it has three numbers, and it blocks
exactly the updates from below it to it or beyond. -/
theorem built_gate_blocks {sha256 : Bytes → Text} {c : Checkout}
    {incompatible : List (Text × Text)} {release : Release}
    (built : buildManifest sha256 c incompatible = .ok release) {gate : Text × Text}
    (mem : gate ∈ release.incompatible)
    (short : ∀ p ∈ (beforeEnd gate.1).splitOn '.', p.length ≤ intMaxStrDigits)
    (installed version : Text) :
    (gateNumbers gate.1).length = 3 ∧
      (blocks installed version gate.1 ↔
        versionTuple installed < gateNumbers gate.1 ∧
        gateNumbers gate.1 ≤ versionTuple version) := by
  obtain ⟨-, gates, legible, -⟩ := built_of_ok built
  have accepted := legible gate (gates ▸ mem)
  have three := (gateVersion_eq_true.mp accepted).1
  have named : gateVer gate.1 ≠ [] := by
    rw [gateVer_eq_beforeEnd accepted]
    intro empty
    rw [empty] at three
    cases three
  rw [blocks, versionTuple_gateVer accepted short]
  exact ⟨by rw [gateNumbers, List.length_map, three], and_iff_right named⟩

theorem smallRelease_gate_blocks :
    (gateNumbers "1.5.0".toList).length = 3 ∧
      (blocks "1.4.9".toList "1.6.0".toList "1.5.0".toList ↔
        versionTuple "1.4.9".toList < gateNumbers "1.5.0".toList ∧
          gateNumbers "1.5.0".toList ≤ versionTuple "1.6.0".toList) :=
  built_gate_blocks build_smallCheckout
    (List.mem_cons_self : ("1.5.0".toList, []) ∈ smallRelease.incompatible) (by decide) _ _

end GeneratorPi.Publish
