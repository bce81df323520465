import GeneratorPi.Lib.Utf8
import GeneratorPi.Swap

/-!
# Staging a release

`_download_and_verify` (`genpi/updater.py`) on the files of the whole tree: it clears the staging
directory, downloads every entry of the manifest into it, compares the staged files with the hashes
listed, and compiles the staged modules.  Any response may be wrong, too long or an error, and any
step may raise.

Only files under the staging directory change (`downloadAndVerify_agreeOff`).  The compile check
comes after the hashes and writes byte code into the staging directory, so an entry at such a
place is staged with the byte code instead of what was verified (`staged_iff`).
-/

namespace GeneratorPi

namespace Staging

open PyText FileTree Utf8

/-! ## Where an entry is staged -/

/-- An entry of the manifest as it is read. -/
structure Entry where
  path : Text
  /-- `f["sha256"]`, if it is there and a text: nothing else equals a digest. -/
  sha256 : Option Text
  /-- `int(f.get("bytes", 0))`, if that does not raise. -/
  bytes : Option ℤ
  deriving DecidableEq

def Entry.listed (e : Entry) : ManifestFile := ⟨e.path, e.sha256.getD []⟩

structure Site where
  /-- The staging directory. -/
  dir : Path
  proper : ['.', '.'] ∉ dir
  /-- The hexadecimal digest. -/
  sha256 : Bytes → Text
  /-- The name of a module's byte code: `importlib.util.cache_from_source`. -/
  cacheName : Text → Text

/-- Where a path leads. -/
def resolve (p : Path) : Path :=
  p.foldl (fun dir name => if name = ['.', '.'] then dir.dropLast else dir ++ [name]) []

/-- `staging / rel`. -/
def Site.dest (site : Site) (rel : Text) : Path := resolve (joinPath site.dir rel)

/-- The byte code of the module staged there. -/
def Site.cachePath (site : Site) (rel : Text) : Path :=
  (site.dest rel).dropLast ++
    ["__pycache__".toList, site.cacheName ((site.dest rel).getLastD [])]

def Site.Inside (site : Site) : Set Path := {p | site.dir <+: p}

/-! ## The steps -/

inductive WriteEnd where
  | done
  /-- It raises, perhaps with a part of the file written. -/
  | raised (part : Option Bytes)
  deriving DecidableEq

inductive CompileEnd where
  | done (code : Bytes)
  /-- It raises, perhaps leaving the temporary file that the byte code is written to first. -/
  | raised (left : Option (Text × Bytes))
  deriving DecidableEq

/-- What the server, the file system and the compiler do. -/
structure World where
  /-- The files that `rmtree` does not get rid of. -/
  stuck : Path → Bool
  makeStaging : Bool
  /-- The body of each response; `none` is an error. -/
  response : ℕ → Option Bytes
  makeParents : ℕ → Bool
  write : ℕ → WriteEnd
  read : ℕ → Bool
  compile : ℕ → CompileEnd

inductive StageError where
  /-- `manifest lists no files` -/
  | noFiles
  | path (e : PathError)
  /-- The entry's size or hash is missing or of the wrong type. -/
  | entry
  | http
  /-- `response exceeds … bytes` -/
  | tooLong (maxBytes : ℕ)
  | os
  /-- `hash mismatch for …: expected …, got …` -/
  | mismatch (rel got : Text)
  /-- `staged … failed to compile: …` -/
  | compile (rel : Text)
  deriving DecidableEq

/-- `_http_get_bytes`. -/
def httpGetBytes (response : Option Bytes) (maxBytes : ℕ) : Except StageError Bytes :=
  match response with
  | none => .error .http
  | some body =>
      let data := body.take (maxBytes + 1)
      if maxBytes < data.length then .error (.tooLong maxBytes) else .ok data

/-- `max(size + 4096, 8192)`. -/
def maxBytes (size : ℤ) : ℕ := (max (size + 4096) 8192).toNat

abbrev Outcome := Tree Path Bytes × Option StageError

section Steps

variable (site : Site) (w : World)

/-- The download loop, from the `i`-th entry on. -/
def download : ℕ → List Entry → Tree Path Bytes → Outcome
  | _, [], t => (t, none)
  | i, f :: rest, t =>
      match f.bytes with
      | none => (t, some .entry)
      | some size =>
          match httpGetBytes (w.response i) (maxBytes size) with
          | .error e => (t, some e)
          | .ok data =>
              if w.makeParents i then
                match w.write i with
                | .done => download (i + 1) rest (write t (site.dest f.path) data)
                | .raised part =>
                    (part.elim t (write t (site.dest f.path)), some .os)
              else (t, some .os)

/-- The hashes of the staged files, from the `i`-th entry on. -/
def verify : ℕ → List Entry → Tree Path Bytes → Option StageError
  | _, [], _ => none
  | i, f :: rest, t =>
      match f.sha256, w.read i, t (site.dest f.path) with
      | none, _, _ => some .entry
      | some want, true, some data =>
          let got := site.sha256 data
          if got ≠ want then some (.mismatch f.path got) else verify (i + 1) rest t
      | some _, _, _ => some .os

/-- The compile check, from the `i`-th module on. -/
def compile : ℕ → List Text → Tree Path Bytes → Outcome
  | _, [], t => (t, none)
  | i, rel :: rest, t =>
      match w.compile i with
      | .done code => compile (i + 1) rest (write t (site.cachePath rel) code)
      | .raised left =>
          (left.elim t fun (name, part) => write t ((site.cachePath rel).dropLast ++ [name]) part,
            some (.compile rel))

/-- `shutil.rmtree(staging, ignore_errors=True)`. -/
def clear (t : Tree Path Bytes) : Tree Path Bytes := fun p =>
  if site.dir.isPrefixOf p && !w.stuck p then none else t p

/-- The paths that end in `.py`, in the manifest's order. -/
def pyFiles (files : List Entry) : List Text :=
  (files.map Entry.path).filter (".py".toList.isSuffixOf ·)

/-- `_download_and_verify`; `none` for its normal return. -/
def downloadAndVerify (files : List Entry) (t : Tree Path Bytes) : Outcome :=
  if files = [] then (t, some .noFiles)
  else
    match validateManifestPaths (files.map Entry.listed) with
    | some e => (t, some (.path e))
    | none =>
        if w.makeStaging then
          match download site w 0 files (clear site w t) with
          | (t, some e) => (t, some e)
          | (t, none) =>
              match verify site w 0 files t with
              | some e => (t, some e)
              | none => compile site w 0 (pyFiles files) t
        else (clear site w t, some .os)

end Steps

/-! ## Inside the staging directory -/

variable {site : Site} {w : World} {files : List Entry} {t u : Tree Path Bytes}

theorem resolve_eq_self {p : Path} (proper : ['.', '.'] ∉ p) : resolve p = p := by
  have onto (dir : Path) : p.foldl
      (fun dir name => if name = ['.', '.'] then dir.dropLast else dir ++ [name]) dir =
        dir ++ p := by
    induction p generalizing dir with
    | nil => exact (List.append_nil dir).symm
    | cons name p ih =>
        rw [List.mem_cons, not_or] at proper
        rw [List.foldl_cons, if_neg (Ne.symm proper.1), ih proper.2, List.append_assoc,
          List.singleton_append]
  exact onto []

theorem dest_eq {rel : Text} (valid : pathError? rel = none) :
    site.dest rel = site.dir ++ pathParts rel := by
  obtain ⟨-, relative, -, upward, -⟩ := pathError?_eq_none.mp valid
  rw [Site.dest, joinPath, if_neg relative, resolve_eq_self]
  rw [List.mem_append, not_or]
  exact ⟨site.proper, upward⟩

theorem dest_mem_inside (site : Site) {rel : Text} (valid : pathError? rel = none) :
    site.dest rel ∈ site.Inside := by
  rw [dest_eq valid]
  exact List.prefix_append _ _

/-- A module's path has a name. -/
theorem pathParts_ne_nil {rel : Text} (isModule : ".py".toList.isSuffixOf rel = true) :
    pathParts rel ≠ [] := by
  obtain ⟨front, rfl⟩ := List.isSuffixOf_iff_suffix.mp isModule
  obtain ⟨names, piece, split⟩ : ∃ names piece, front.splitOn '/' = names ++ [piece] :=
    (List.eq_nil_or_concat' _).resolve_left (List.splitOn_ne_nil _ _)
  have last := splitOn_append_of_not_mem split (show '/' ∉ ".py".toList by decide)
  have proper : piece ++ ".py".toList ≠ [] ∧ piece ++ ".py".toList ≠ ['.'] := by
    constructor <;> intro same <;> have long := congrArg List.length same <;>
      rw [List.length_append] at long <;> simp at long
  rw [pathParts, last, List.filter_append, List.filter_cons_of_pos (by simpa using proper)]
  simp

theorem cachePath_inside {rel : Text} (valid : pathError? rel = none)
    (isModule : ".py".toList.isSuffixOf rel = true) :
    ∃ inner last, site.cachePath rel = site.dir ++ inner ++ [last] := by
  have named := pathParts_ne_nil isModule
  have parent : (site.dest rel).dropLast = site.dir ++ (pathParts rel).dropLast := by
    rw [dest_eq valid, List.dropLast_append_of_ne_nil named]
  refine ⟨(pathParts rel).dropLast ++ ["__pycache__".toList],
    site.cacheName ((site.dest rel).getLastD []), ?_⟩
  rw [Site.cachePath, parent, List.append_assoc, List.append_assoc, List.append_assoc]
  rfl

theorem download_agreeOff {i : ℕ} (valid : ∀ f ∈ files, pathError? f.path = none)
    (h : AgreeOff site.Inside t u) : AgreeOff site.Inside t (download site w i files u).1 := by
  induction files generalizing i u with
  | nil => exact h
  | cons f rest ih =>
      have inside := dest_mem_inside site (valid f List.mem_cons_self)
      have later := fun f mem => valid f (List.mem_cons_of_mem _ mem)
      rw [download]
      split
      · exact h
      split
      · exact h
      split
      · split
        · exact ih later (h.write inside _)
        case h_2 part _ =>
          cases part with
          | none => exact h
          | some part => exact h.write inside part
      · exact h

theorem compile_agreeOff {i : ℕ} {paths : List Text}
    (inside : ∀ rel ∈ paths, ∃ inner last, site.cachePath rel = site.dir ++ inner ++ [last])
    (h : AgreeOff site.Inside t u) : AgreeOff site.Inside t (compile site w i paths u).1 := by
  induction paths generalizing i u with
  | nil => exact h
  | cons rel rest ih =>
      obtain ⟨inner, last, place⟩ := inside rel List.mem_cons_self
      rw [compile]
      split
      case h_1 code _ =>
        refine ih (fun rel mem => inside rel (List.mem_cons_of_mem _ mem)) (h.write ?_ code)
        rw [place, List.append_assoc]
        exact List.prefix_append _ _
      case h_2 left _ =>
        cases left with
        | none => exact h
        | some temporary =>
            refine h.write ?_ temporary.2
            rw [place, List.dropLast_concat, List.append_assoc]
            exact List.prefix_append _ _

theorem clear_agreeOff (site : Site) (w : World) (t : Tree Path Bytes) :
    AgreeOff site.Inside t (clear site w t) := by
  intro p off
  have outside : site.dir.isPrefixOf p = false := by
    rw [Bool.eq_false_iff, ne_eq, List.isPrefixOf_iff_prefix]
    exact off
  rw [clear, outside, Bool.false_and, if_neg Bool.false_ne_true]

theorem valid_of_listed (valid : validateManifestPaths (files.map Entry.listed) = none) :
    ∀ f ∈ files, pathError? f.path = none := fun f mem =>
  validateManifestPaths_eq_none.mp valid f.listed (List.mem_map_of_mem mem)

theorem mem_pyFiles {rel : Text} (mem : rel ∈ pyFiles files) :
    (∃ f ∈ files, f.path = rel) ∧ ".py".toList.isSuffixOf rel = true := by
  obtain ⟨listed, isModule⟩ := List.mem_filter.mp mem
  exact ⟨List.mem_map.mp listed, isModule⟩

/-- Whatever happens, no file outside the staging directory changes. -/
theorem downloadAndVerify_agreeOff (site : Site) (w : World) (files : List Entry)
    (t : Tree Path Bytes) : AgreeOff site.Inside t (downloadAndVerify site w files t).1 := by
  rw [downloadAndVerify]
  split
  · exact .refl _ t
  split
  case h_1 => exact .refl _ t
  case h_2 accepted =>
    have valid := valid_of_listed accepted
    have cleared := clear_agreeOff site w t
    split
    case isFalse => exact cleared
    case isTrue =>
      have downloaded := download_agreeOff (w := w) (i := 0) valid cleared
      split
      case h_1 u e eq => rwa [eq] at downloaded
      case h_2 u eq =>
        rw [eq] at downloaded
        split
        case h_1 => exact downloaded
        case h_2 =>
          refine compile_agreeOff (fun rel mem => ?_) downloaded
          obtain ⟨⟨f, listed, rfl⟩, isModule⟩ := mem_pyFiles mem
          exact cachePath_inside (valid f listed) isModule

/-! ## What is staged -/

/-- The staged file has the hash that the entry lists. -/
def Staged (site : Site) (t : Tree Path Bytes) (f : Entry) : Prop :=
  ∃ data, t (site.dest f.path) = some data ∧ f.sha256 = some (site.sha256 data)

theorem staged_of_verify {i : ℕ} (passed : verify site w i files t = none) :
    ∀ f ∈ files, Staged site t f := by
  induction files generalizing i with
  | nil => exact fun _ mem => (nomatch mem)
  | cons f rest ih =>
      rw [verify] at passed
      split at passed
      · cases passed
      case h_2 want data listed _ found =>
        dsimp only at passed
        split at passed
        case isTrue => cases passed
        case isFalse same =>
          have here : Staged site t f := ⟨data, found, by rw [listed, not_not.mp same]⟩
          exact List.forall_mem_cons.mpr ⟨here, ih passed⟩
      · cases passed

/-- The byte code that the compiler puts in place of the modules, from the `i`-th on. -/
def codeWrites (site : Site) (w : World) : ℕ → List Text → List (Path × Bytes)
  | _, [] => []
  | i, rel :: rest =>
      match w.compile i with
      | .done code => (site.cachePath rel, code) :: codeWrites site w (i + 1) rest
      | .raised _ => codeWrites site w (i + 1) rest

/-- The byte code of the manifest's modules, by its place. -/
def byteCode (site : Site) (w : World) (files : List Entry) : Tree Path Bytes :=
  writeAll (fun _ => none) (codeWrites site w 0 (pyFiles files))

theorem writeAll_of_compile {i : ℕ} {paths : List Text}
    (compiled : compile site w i paths t = (u, none)) :
    u = writeAll t (codeWrites site w i paths) := by
  induction paths generalizing i t with
  | nil =>
      cases compiled
      rfl
  | cons rel rest ih =>
      rw [compile] at compiled
      rw [codeWrites]
      split at compiled
      case h_1 => exact ih compiled
      case h_2 => cases compiled

/-- The compiler puts no byte code at an entry's place, or only such as has the entry's hash. -/
def ByteCodeFits (site : Site) (w : World) (files : List Entry) : Prop :=
  ∀ f ∈ files, ∀ code, byteCode site w files (site.dest f.path) = some code →
    f.sha256 = some (site.sha256 code)

/-- No entry stands where the byte code of a module is put. -/
theorem byteCodeFits_of_apart
    (apart : ∀ f ∈ files, ∀ rel ∈ pyFiles files, site.cachePath rel ≠ site.dest f.path) :
    ByteCodeFits site w files := by
  have places (i : ℕ) (paths : List Text) :
      ∀ e ∈ codeWrites site w i paths, ∃ rel ∈ paths, e.1 = site.cachePath rel := by
    induction paths generalizing i with
    | nil => exact fun _ mem => (nomatch mem)
    | cons rel rest ih =>
        intro e mem
        rw [codeWrites] at mem
        split at mem
        case h_1 =>
          rcases List.mem_cons.mp mem with rfl | later
          · exact ⟨rel, List.mem_cons_self, rfl⟩
          · obtain ⟨other, listed, place⟩ := ih _ e later
            exact ⟨other, List.mem_cons_of_mem _ listed, place⟩
        case h_2 =>
          obtain ⟨other, listed, place⟩ := ih _ e mem
          exact ⟨other, List.mem_cons_of_mem _ listed, place⟩
  intro f mem code found
  rw [byteCode, writeAll_of_not_mem] at found
  · cases found
  · intro e written
    obtain ⟨rel, listed, place⟩ := places _ _ e written
    rw [place]
    exact apart f mem rel listed

/-- A normal return: the entries were verified, and then the modules compiled. -/
theorem returned_eq (returned : (downloadAndVerify site w files t).2 = none) :
    ∃ verified, (∀ f ∈ files, Staged site verified f) ∧
      ∀ p, (downloadAndVerify site w files t).1 p = (byteCode site w files p).or (verified p) := by
  rw [downloadAndVerify] at returned ⊢
  split at returned
  case isTrue => cases returned
  case isFalse nonempty =>
    rw [if_neg nonempty]
    split at returned
    case h_1 => cases returned
    case h_2 accepted =>
      split at returned
      case isFalse => cases returned
      case isTrue made =>
        rw [if_pos made]
        split at returned
        case h_1 => cases returned
        case h_2 verified downloaded =>
          split at returned
          case h_1 => cases returned
          case h_2 passed =>
            refine ⟨verified, staged_of_verify passed, fun p => ?_⟩
            have compiled : (compile site w 0 (pyFiles files) verified).1 =
                writeAll verified (codeWrites site w 0 (pyFiles files)) :=
              writeAll_of_compile (Prod.ext rfl returned)
            rw [compiled, writeAll_eq_or, byteCode]

/-- No file outside the staging directory changes; and where the function returns, every entry is
staged with the hash it lists exactly if no byte code of another hash is put in its place. -/
theorem staged_iff (site : Site) (w : World) (files : List Entry) (t : Tree Path Bytes) :
    AgreeOff site.Inside t (downloadAndVerify site w files t).1 ∧
      ((downloadAndVerify site w files t).2 = none →
        ((∀ f ∈ files, Staged site (downloadAndVerify site w files t).1 f) ↔
          ByteCodeFits site w files)) := by
  refine ⟨downloadAndVerify_agreeOff site w files t, fun returned => ?_⟩
  obtain ⟨verified, staged, result⟩ := returned_eq returned
  refine forall₂_congr fun f mem => ?_
  rw [Staged, result]
  cases byteCode site w files (site.dest f.path) with
  | none =>
      rw [Option.none_or]
      exact iff_of_true (staged f mem) fun _ no => (nomatch no)
  | some code =>
      rw [Option.some_or]
      constructor
      · intro staged code' there
        obtain ⟨data, same, listed⟩ := staged
        rw [listed, Option.some.inj (same.symm.trans there)]
      · exact fun fits => ⟨code, rfl, fits code rfl⟩

/-! ## An entry where byte code is put -/

/-- A site whose digest spells the bytes. -/
def plainSite : Site where
  dir := [".update_staging".toList]
  proper := by decide
  sha256 data := data.map fun b => Char.ofNat b.toNat
  cacheName name := (name.take (name.length - 3)) ++ ".cpython-311.pyc".toList

/-- A module, and a file with the name of its byte code. -/
def moduleAndCache : List Entry :=
  [⟨"a.py".toList, some "x=1".toList, some 3⟩,
    ⟨"__pycache__/a.cpython-311.pyc".toList, some "old".toList, some 3⟩]

/-- The server sends what is listed, and no step raises. -/
def goodServer : World where
  stuck _ := false
  makeStaging := true
  response i := if i = 0 then some [120, 61, 49] else some [111, 108, 100]
  makeParents _ := true
  write _ := .done
  read _ := true
  compile _ := .done [110, 101, 119]

/-- The byte code replaces the file that was verified. -/
theorem byteCode_unverified :
    ¬ ∀ (site : Site) (w : World) (files : List Entry) (t : Tree Path Bytes),
      validateManifestPaths (files.map Entry.listed) = none →
        AgreeOff site.Inside t (downloadAndVerify site w files t).1 ∧
          ((downloadAndVerify site w files t).2 = none →
            ∀ f ∈ files, Staged site (downloadAndVerify site w files t).1 f) := by
  intro all
  have returned : (downloadAndVerify plainSite goodServer moduleAndCache fun _ => none).2 =
      none := by
    decide
  have left : (downloadAndVerify plainSite goodServer moduleAndCache fun _ => none).1
      (plainSite.dest "__pycache__/a.cpython-311.pyc".toList) = some [110, 101, 119] := by
    decide
  obtain ⟨data, found, listed⟩ := (all plainSite goodServer moduleAndCache (fun _ => none)
    (by decide)).2 returned _ (List.mem_cons_of_mem _ List.mem_cons_self)
  rw [left] at found
  cases found
  exact absurd listed (by decide)

end Staging

end GeneratorPi
