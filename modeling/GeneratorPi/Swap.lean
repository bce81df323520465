import GeneratorPi.Lib.FileTree
import GeneratorPi.Manifest

/-!
# Backup, swap and rollback of the live tree

`_make_backup`'s snapshot, `_swap` and `_rollback` (`genpi/updater.py`) on the regular files of the
install tree.  A swap copies each staged file to a temporary next to the live one, gives it the live
file's mode and renames it into place; it can stop at any of these steps.  The rollback knows the
files of the manifest, not the temporaries, and an exception ends it (`Mishaps`):
`rollback_exact_iff` says when it leaves exactly the files and contents the tree had.
-/

namespace GeneratorPi

open PyText FileTree

structure File (β : Type) where
  content : β
  mode : ℕ
  deriving DecidableEq, Repr

abbrev LiveTree (β : Type) := Tree Path (File β)

variable {β δ : Type}

def contents (t : LiveTree β) : Tree Path β := fun p => (t p).map File.content

/-! ## `_swap` -/

/-- The staged file at a path; the root itself is no file. -/
def readStaged (staged : LiveTree β) (p : Path) : Option (File β) :=
  if p = [] then none else staged p

/-- `shutil.copy2(staging / path, tmp)`. -/
def copyTemp (staged t : LiveTree β) (p : Path) : Option (LiveTree β) :=
  (readStaged staged p).map (write t (temp p))

/-- `os.chmod(tmp, orig_mode)`, if the live file exists. -/
def chmodTemp (t : LiveTree β) (p : Path) : LiveTree β :=
  match t p, t (temp p) with
  | some live, some new => write t (temp p) { new with mode := live.mode }
  | _, _ => t

/-- `os.replace(tmp, live)`. -/
def replaceLive (t : LiveTree β) (p : Path) : Option (LiveTree β) := rename t (temp p) p

def swapFile (staged t : LiveTree β) (p : Path) : Option (LiveTree β) :=
  (copyTemp staged t p).bind fun u => replaceLive (chmodTemp u p) p

/-- `_swap`: every file in the manifest's order. -/
def swap (staged t : LiveTree β) (targets : List Path) : Option (LiveTree β) :=
  targets.foldlM (swapFile staged) t

/-- How far the swap of one file has come when it fails. -/
inductive Partway (β : Type) where
  /-- Before its copy is begun. -/
  | untouched
  /-- Inside the copy, with this much at the temporary. -/
  | torn (written : File β)
  /-- Before `chmod`. -/
  | copied
  /-- Before `replace`. -/
  | chmodded
  deriving DecidableEq

def swapPartway (staged t : LiveTree β) (p : Path) : Partway β → Option (LiveTree β)
  | .untouched => some t
  | .torn written => (readStaged staged p).map fun _ => write t (temp p) written
  | .copied => copyTemp staged t p
  | .chmodded => (copyTemp staged t p).map (chmodTemp · p)

/-- A point at which the swap of the targets may fail: after the files `done`, and partway through
the next one if there is one. -/
structure StopPoint (β : Type) (targets : List Path) where
  done : List Path
  rest : List Path
  split : targets = done ++ rest := by rfl
  partway : Partway β := .untouched
  deriving DecidableEq

/-- The tree that a failing `_swap` leaves. -/
def swapUntil {targets : List Path} (staged t : LiveTree β) (stop : StopPoint β targets) :
    Option (LiveTree β) :=
  (swap staged t stop.done).bind fun u =>
    match stop.rest with
    | [] => some u
    | p :: _ => swapPartway staged u p stop.partway

/-- The temporary that a stop leaves behind, by the file it was meant for, with its content. -/
def StopPoint.leftover {targets : List Path} (stop : StopPoint β targets) (staged : LiveTree β) :
    Option (Path × β) :=
  match stop.rest, stop.partway with
  | [], _ => none
  | _ :: _, .untouched => none
  | p :: _, .torn written => some (p, written.content)
  | p :: _, _ => (staged p).map fun f => (p, f.content)

/-! ## The backup archive -/

/-- What the updater uses of `hashlib` and `json`. -/
structure Encoding (β δ : Type) where
  sha256 : β → δ
  dumps : List Text → β
  loads : β → Option (List Text)
  loads_dumps : ∀ names, loads (dumps names) = some names

/-- The members of a zip file, in the order they were written. -/
abbrev Archive (β : Type) := List (Text × β)

/-- `ZipFile.read`: of two members with one name the later counts. -/
def Archive.read (a : Archive β) (name : Text) : Option β :=
  ((a.filter (·.1 = name)).getLast?).map Prod.snd

def addedName : Text := "__added__.json".toList

/-- The manifest files that do not exist yet. -/
def addedPaths (t : LiveTree β) (paths : List Text) : List Text :=
  paths.filter fun p => (t (pathParts p)).isNone

/-- The archive `_make_backup` writes. -/
def backupMembers (enc : Encoding β δ) (t : LiveTree β) (paths : List Text) : Archive β :=
  (paths.filterMap fun p => (t (pathParts p)).map fun f => (normpath p, f.content)) ++
    [(addedName, enc.dumps (addedPaths t paths))]

/-- `_make_backup` up to the pruning: the archive, if every file reads back from it. -/
def snapshot [DecidableEq δ] (enc : Encoding β δ) (t : LiveTree β) (paths : List Text) :
    Option (Archive β) :=
  let members := backupMembers enc t paths
  let readsBack (p : Text) : Bool :=
    match t (pathParts p) with
    | none => true
    | some f => (members.read p).any fun c => enc.sha256 c = enc.sha256 f.content
  if paths.all readsBack then some members else none

/-! ## `_rollback` -/

def defaultMode : ℕ := 0o644

/-- `ZipFile.extract`: the content is written over what stands at the path, or as a new file. -/
def extract (t : LiveTree β) (p : Path) (c : β) : LiveTree β :=
  write t p { content := c, mode := ((t p).map File.mode).getD defaultMode }

def addedNames (enc : Encoding β δ) (a : Archive β) : List Text :=
  ((a.read addedName).bind enc.loads).getD []

/-- The members that `_rollback` extracts. -/
def Archive.extracted (a : Archive β) : List (Path × β) :=
  (a.filter (·.1 ≠ addedName)).map fun m => (pathParts m.1, m.2)

def extractAll (t : LiveTree β) (entries : List (Path × β)) : LiveTree β :=
  entries.foldl (fun t m => extract t m.1 m.2) t

/-- The whole of a rollback: all added files are removed and all members extracted. -/
def restoreAll (enc : Encoding β δ) (a : Archive β) (t : LiveTree β) : LiveTree β :=
  extractAll (unlinkAll t ((addedNames enc a).map pathParts)) a.extracted

/-- A name with a NUL character reaches no system call. -/
def hasNul (s : Text) : Bool := s.contains '\x00'

/-- How a rollback ends; whatever is raised, its outer handler takes it. -/
inductive RollbackEnd (β : Type) where
  | whole
  /-- The archive cannot be opened. -/
  | unopened
  /-- Behind so many members the extraction of one raises, with what it has put at the path by then,
  if it could open the file at all. -/
  | extracting (done : ℕ) (torn : Option β)

/-- What goes wrong in a rollback. -/
structure Mishaps (β : Type) where
  /-- The files whose `unlink` raises an `OSError`, which is passed over. -/
  stuck : Path → Bool := fun _ => false
  ending : RollbackEnd β := .whole

/-- The added files that are removed.  The `ValueError` of a name with a NUL character is no
`OSError`: it ends the rollback. -/
def Mishaps.removed (w : Mishaps β) (added : List Text) : List Path :=
  match w.ending with
  | .unopened => []
  | _ => ((added.takeWhile (!hasNul ·)).map pathParts).filter (!w.stuck ·)

/-- What an extraction that raises has written. -/
def Mishaps.torn (w : Mishaps β) (entries : List (Path × β)) : Option (Path × β) :=
  match w.ending with
  | .extracting done torn => do
      let (p, _) ← entries[done]?
      let c ← torn
      some (p, c)
  | _ => none

/-- The members that are extracted whole. -/
def Mishaps.extracted (w : Mishaps β) (entries : List (Path × β)) : List (Path × β) :=
  match w.ending with
  | .whole => entries
  | .unopened => []
  | .extracting done _ => entries.take done

/-- What the extraction writes, if it is reached. -/
def Mishaps.written (w : Mishaps β) (added : List Text) (entries : List (Path × β)) :
    List (Path × β) :=
  if added.any hasNul then [] else w.extracted entries ++ (w.torn entries).toList

def rollback (enc : Encoding β δ) (a : Archive β) (w : Mishaps β) (t : LiveTree β) :
    LiveTree β :=
  let added := addedNames enc a
  extractAll (unlinkAll t (w.removed added)) (w.written added a.extracted)

/-! ## The contents of the tree -/

theorem contents_write (t : LiveTree β) (p : Path) (f : File β) :
    contents (write t p f) = write (contents t) p f.content := by
  funext q
  by_cases same : q = p
  · rw [same, contents, write_same, write_same, Option.map_some]
  · rw [contents, write_of_ne _ _ same, write_of_ne _ _ same, contents]

theorem contents_unlinkAll (t : LiveTree β) (ps : List Path) :
    contents (unlinkAll t ps) = unlinkAll (contents t) ps := by
  funext q
  by_cases mem : q ∈ ps
  · rw [contents, unlinkAll_of_mem _ mem, unlinkAll_of_mem _ mem, Option.map_none]
  · rw [contents, unlinkAll_of_not_mem _ mem, unlinkAll_of_not_mem _ mem, contents]

theorem contents_chmodTemp (t : LiveTree β) (p : Path) :
    contents (chmodTemp t p) = contents t := by
  rw [chmodTemp]
  split
  case h_2 => rfl
  case h_1 live new _ atTemp =>
    rw [contents_write]
    funext q
    by_cases same : q = temp p
    · rw [same, write_same, contents, atTemp, Option.map_some]
    · rw [write_of_ne _ _ same]

theorem contents_extractAll (t : LiveTree β) (entries : List (Path × β)) :
    contents (extractAll t entries) = writeAll (contents t) entries := by
  induction entries generalizing t with
  | nil => rfl
  | cons m rest ih =>
      rw [extractAll, List.foldl_cons, ← extractAll.eq_def, ih, extract, contents_write]
      rfl

theorem contents_restoreAll (enc : Encoding β δ) (a : Archive β) (t : LiveTree β) :
    contents (restoreAll enc a t) =
      writeAll (unlinkAll (contents t) ((addedNames enc a).map pathParts)) a.extracted := by
  rw [restoreAll, contents_extractAll, contents_unlinkAll]

theorem contents_rollback (enc : Encoding β δ) (a : Archive β) (w : Mishaps β)
    (t : LiveTree β) :
    contents (rollback enc a w t) =
      writeAll (unlinkAll (contents t) (w.removed (addedNames enc a)))
        (w.written (addedNames enc a) a.extracted) := by
  rw [rollback, contents_extractAll, contents_unlinkAll]

/-! ## What the rollback restores -/

theorem addedNames_backup (enc : Encoding β δ) (t : LiveTree β) (paths : List Text) :
    addedNames enc (backupMembers enc t paths) = addedPaths t paths := by
  simp [addedNames, Archive.read, backupMembers, List.filter_append, enc.loads_dumps]

/-- The members but the last, as they are extracted. -/
theorem extracted_backup (enc : Encoding β δ) (t : LiveTree β) (paths : List Text) :
    (backupMembers enc t paths).extracted =
      ((paths.filterMap fun p => (t (pathParts p)).map fun f => (normpath p, f.content)).filter
        (·.1 ≠ addedName)).map fun m => (pathParts m.1, m.2) := by
  simp [Archive.extracted, backupMembers, List.filter_append]

theorem mem_extracted_backup {enc : Encoding β δ} {t : LiveTree β} {paths : List Text} {q : Path}
    {c : β} :
    (q, c) ∈ (backupMembers enc t paths).extracted ↔
      contents t q = some c ∧ ∃ p ∈ paths, pathParts p = q ∧ normpath p ≠ addedName := by
  rw [extracted_backup, List.mem_map]
  simp only [List.mem_filter, List.mem_filterMap, decide_eq_true_eq]
  constructor
  · rintro ⟨⟨name, _⟩, ⟨⟨p, mem, found⟩, other⟩, same⟩
    obtain ⟨f, live, eq⟩ := Option.map_eq_some_iff.mp found
    cases eq
    rw [Prod.mk.injEq, pathParts_normpath] at same
    obtain ⟨rfl, rfl⟩ := same
    exact ⟨by rw [contents, live, Option.map_some], p, mem, rfl, other⟩
  · rintro ⟨live, p, mem, rfl, other⟩
    obtain ⟨f, found, rfl⟩ := Option.map_eq_some_iff.mp live
    exact ⟨(normpath p, f.content), ⟨⟨p, mem, by rw [found, Option.map_some]⟩, other⟩,
      by rw [pathParts_normpath]⟩

theorem mem_added_backup {t : LiveTree β} {paths : List Text} {q : Path} :
    q ∈ (addedPaths t paths).map pathParts ↔ t q = none ∧ q ∈ paths.map pathParts := by
  simp only [addedPaths, List.mem_map, List.mem_filter, Option.isNone_iff_eq_none]
  constructor
  · rintro ⟨p, ⟨mem, absent⟩, rfl⟩
    exact ⟨absent, p, mem, rfl⟩
  · rintro ⟨absent, p, mem, rfl⟩
    exact ⟨p, ⟨mem, absent⟩, rfl⟩

theorem contents_eq_none {t : LiveTree β} {q : Path} : contents t q = none ↔ t q = none :=
  Option.map_eq_none_iff

/-- Only the name of the list of added files leads to its path in normal form. -/
theorem normpath_of_pathParts_addedName {p : Text} (h : pathParts p = [addedName]) :
    normpath p = addedName := by
  rw [normpath, h]
  simp

/-- Off the manifest's targets a rollback changes nothing. -/
theorem restoreAll_of_not_target {enc : Encoding β δ} {t : LiveTree β} {m : Manifest} {q : Path}
    (u : LiveTree β) (off : q ∉ m.targets) :
    contents (restoreAll enc (backupMembers enc t m.paths) u) q = contents u q := by
  rw [contents_restoreAll, writeAll_of_not_mem, unlinkAll_of_not_mem]
  · rw [addedNames_backup, mem_added_backup]
    exact fun added => off added.2
  · rintro ⟨p, c⟩ extracted rfl
    obtain ⟨-, name, mem, eq, -⟩ := mem_extracted_backup.mp extracted
    exact off (List.mem_map.mpr ⟨name, mem, eq⟩)

/-- Every target gets its content back, or is removed if it had none. -/
theorem restoreAll_of_target {enc : Encoding β δ} {t : LiveTree β} {m : Manifest} {q : Path}
    (u : LiveTree β) (target : q ∈ m.targets) (other : q ≠ [addedName] ∨ t q = none) :
    contents (restoreAll enc (backupMembers enc t m.paths) u) q = contents t q := by
  rw [contents_restoreAll]
  cases live : contents t q with
  | none =>
      rw [writeAll_of_not_mem, unlinkAll_of_mem]
      · rw [addedNames_backup, mem_added_backup]
        exact ⟨contents_eq_none.mp live, target⟩
      · rintro ⟨p, c⟩ extracted rfl
        obtain ⟨found, -⟩ := mem_extracted_backup.mp extracted
        rw [live] at found
        cases found
  | some c =>
      apply writeAll_of_mem
      · obtain ⟨p, mem, rfl⟩ := List.mem_map.mp target
        refine mem_extracted_backup.mpr ⟨live, p, mem, rfl, fun same => ?_⟩
        have here : pathParts p = [addedName] := by
          rw [← pathParts_normpath, same]
          decide
        rcases other with elsewhere | absent
        · exact elsewhere here
        · rw [contents_eq_none.mpr absent] at live
          cases live
      · rintro ⟨p, c'⟩ extracted rfl
        obtain ⟨found, -⟩ := mem_extracted_backup.mp extracted
        rw [live] at found
        exact (Option.some.inj found).symm

/-- A live file that bears the name of the archive's list of added files is not extracted. -/
theorem restoreAll_of_addedName {enc : Encoding β δ} {t : LiveTree β} {m : Manifest}
    (u : LiveTree β) (live : (t [addedName]).isSome) :
    contents (restoreAll enc (backupMembers enc t m.paths) u) [addedName] =
      contents u [addedName] := by
  rw [contents_restoreAll, writeAll_of_not_mem, unlinkAll_of_not_mem]
  · rw [addedNames_backup, mem_added_backup]
    rintro ⟨absent, -⟩
    rw [absent] at live
    cases live
  · rintro ⟨p, c⟩ extracted rfl
    obtain ⟨-, name, -, eq, other⟩ := mem_extracted_backup.mp extracted
    exact other (normpath_of_pathParts_addedName eq)

/-! ## What a stopped swap leaves -/

theorem copyTemp_eq_some {staged t u : LiveTree β} {p : Path} (h : copyTemp staged t p = some u) :
    p ≠ [] ∧ ∃ f, staged p = some f ∧ u = write t (temp p) f := by
  obtain ⟨f, found, rfl⟩ := Option.map_eq_some_iff.mp h
  obtain ⟨notRoot, found⟩ := Option.ite_none_left_eq_some.mp found
  exact ⟨notRoot, f, found, rfl⟩

theorem contents_replaceLive {t u : LiveTree β} {p : Path} (h : replaceLive t p = some u) :
    contents u p = contents t (temp p) ∧ contents u (temp p) = none ∧
      ∀ q, q ≠ p → q ≠ temp p → contents u q = contents t q := by
  obtain ⟨moved, gone, rest⟩ := rename_eq_some h (temp_ne_self p)
  refine ⟨?_, contents_eq_none.mpr gone, fun q hp ht => ?_⟩
  · rw [contents, moved, contents]
  · rw [contents, rest q ht hp, contents]

theorem swapFile_contents {staged t u : LiveTree β} {p : Path}
    (h : swapFile staged t p = some u) :
    p ≠ [] ∧ contents u p = contents staged p ∧ contents u (temp p) = none ∧
      ∀ q, q ≠ p → q ≠ temp p → contents u q = contents t q := by
  obtain ⟨v, copied, replaced⟩ := Option.bind_eq_some_iff.mp h
  obtain ⟨notRoot, f, found, rfl⟩ := copyTemp_eq_some copied
  obtain ⟨moved, gone, rest⟩ := contents_replaceLive replaced
  rw [contents_chmodTemp, contents_write] at moved
  refine ⟨notRoot, ?_, gone, fun q hp ht => ?_⟩
  · rw [moved, write_same, contents, found, Option.map_some]
  · rw [rest q hp ht, contents_chmodTemp, contents_write, write_of_ne _ _ ht]

theorem swap_cons_eq_some {staged t u : LiveTree β} {p : Path} {rest : List Path} :
    swap staged t (p :: rest) = some u ↔
      ∃ v, swapFile staged t p = some v ∧ swap staged v rest = some u := by
  rw [swap, List.foldlM_cons]
  exact Option.bind_eq_some_iff

/-- Off the swapped files only their temporaries change: they are gone. -/
theorem swap_contents {staged t u : LiveTree β} {done : List Path} {q : Path}
    (h : swap staged t done = some u) (off : q ∉ done) :
    contents u q = if q ∈ done.map temp then none else contents t q := by
  induction done generalizing t with
  | nil =>
      cases h
      rfl
  | cons p rest ih =>
      obtain ⟨v, first, later⟩ := swap_cons_eq_some.mp h
      obtain ⟨-, -, gone, kept⟩ := swapFile_contents first
      rw [ih later fun mem => off (List.mem_cons_of_mem _ mem), List.map_cons]
      by_cases isTemp : q = temp p
      · rw [isTemp, gone, if_pos List.mem_cons_self, ite_self]
      · rw [kept q (fun eq => off (eq ▸ List.mem_cons_self)) isTemp]
        simp only [List.mem_cons, isTemp, false_or]

/-- A swapped file that is no temporary holds what was staged. -/
theorem swap_contents_of_mem {staged t u : LiveTree β} {done : List Path} {q : Path}
    (h : swap staged t done = some u) (mem : q ∈ done) (plain : q ∉ done.map temp) :
    contents u q = contents staged q := by
  induction done generalizing t with
  | nil => cases mem
  | cons p rest ih =>
      obtain ⟨v, first, later⟩ := swap_cons_eq_some.mp h
      have plainRest : q ∉ rest.map temp := fun mem => plain (List.mem_cons_of_mem _ mem)
      by_cases again : q ∈ rest
      · exact ih later again plainRest
      · have here : q = p := (List.mem_cons.mp mem).resolve_right again
        rw [swap_contents later again, if_neg plainRest, here]
        exact (swapFile_contents first).2.1

theorem swap_ne_root {staged t u : LiveTree β} {done : List Path} {p : Path}
    (h : swap staged t done = some u) (mem : p ∈ done) : p ≠ [] := by
  induction done generalizing t with
  | nil => cases mem
  | cons first rest ih =>
      obtain ⟨v, swapped, later⟩ := swap_cons_eq_some.mp h
      rcases List.mem_cons.mp mem with rfl | mem
      · exact (swapFile_contents swapped).1
      · exact ih later mem

theorem swapPartway_torn {staged t u : LiveTree β} {p : Path} {written : File β}
    (h : swapPartway staged t p (.torn written) = some u) :
    p ≠ [] ∧ contents u = write (contents t) (temp p) written.content := by
  obtain ⟨f, found, rfl⟩ := Option.map_eq_some_iff.mp h
  exact ⟨(Option.ite_none_left_eq_some.mp found).1, contents_write ..⟩

/-- Either the stop leaves no temporary, or just the one. -/
theorem swapUntil_cases {targets : List Path} {staged t u : LiveTree β}
    {stop : StopPoint β targets} (h : swapUntil staged t stop = some u) :
    ∃ v, swap staged t stop.done = some v ∧
      ((stop.leftover staged = none ∧ contents u = contents v) ∨
        ∃ p c, stop.leftover staged = some (p, c) ∧ p ≠ [] ∧
          contents u = write (contents v) (temp p) c) := by
  obtain ⟨v, swapped, partway⟩ := Option.bind_eq_some_iff.mp h
  refine ⟨v, swapped, ?_⟩
  rcases stop with ⟨done, _ | ⟨p, rest⟩, split, point⟩
  · cases partway
    exact Or.inl ⟨rfl, rfl⟩
  cases point with
  | untouched =>
      cases partway
      exact Or.inl ⟨rfl, rfl⟩
  | torn written =>
      obtain ⟨notRoot, eq⟩ := swapPartway_torn partway
      exact Or.inr ⟨p, written.content, rfl, notRoot, eq⟩
  | copied =>
      obtain ⟨notRoot, f, found, rfl⟩ := copyTemp_eq_some partway
      exact Or.inr ⟨p, f.content, by simp [StopPoint.leftover, found], notRoot, contents_write ..⟩
  | chmodded =>
      obtain ⟨w, copied, rfl⟩ := Option.map_eq_some_iff.mp partway
      obtain ⟨notRoot, f, found, rfl⟩ := copyTemp_eq_some copied
      refine Or.inr ⟨p, f.content, by simp [StopPoint.leftover, found], notRoot, ?_⟩
      rw [contents_chmodTemp, contents_write]

/-! ## Exactness -/

/-- The stops after which the backup restores the tree exactly. -/
structure Restorable (m : Manifest) (staged t : LiveTree β) (stop : StopPoint β m.targets) :
    Prop where
  /-- A temporary left behind is a file of the manifest, or held the same content before. -/
  leftover : ∀ p c, stop.leftover staged = some (p, c) → temp p ∉ m.targets →
    contents t (temp p) = some c
  /-- No file that is not the manifest's stood where a swapped file's temporary was. -/
  swept : ∀ p ∈ stop.done, temp p ∉ m.targets → (∀ c, stop.leftover staged ≠ some (p, c)) →
    t (temp p) = none
  /-- A live file named as the archive's list of added files was not given another content. -/
  listed : [addedName] ∈ stop.done → (t [addedName]).isSome →
    contents staged [addedName] = contents t [addedName]

theorem temp_ne_addedName (p : Path) : temp p ≠ [addedName] := by
  intro same
  have suffix := suffix_of_temp_eq same
  exact absurd suffix (by decide)

theorem addedName_not_mem_temps (done : List Path) : [addedName] ∉ done.map temp := by
  intro mem
  obtain ⟨p, -, same⟩ := List.mem_map.mp mem
  exact temp_ne_addedName p same

theorem StopPoint.done_subset {targets : List Path} (stop : StopPoint β targets) {p : Path}
    (h : p ∈ stop.done) : p ∈ targets := by
  rw [stop.split]
  exact List.mem_append_left _ h

/-- The stopped swap's contents off the targets. -/
theorem swapUntil_contents {targets : List Path} {staged t u : LiveTree β}
    {stop : StopPoint β targets} (h : swapUntil staged t stop = some u) {q : Path}
    (off : q ∉ stop.done) :
    (∃ p c, stop.leftover staged = some (p, c) ∧ temp p = q ∧ contents u q = some c) ∨
      (∀ p c, stop.leftover staged = some (p, c) → temp p ≠ q) ∧
        contents u q = if q ∈ stop.done.map temp then none else contents t q := by
  obtain ⟨v, swapped, ⟨clean, same⟩ | ⟨p, c, left, -, eq⟩⟩ := swapUntil_cases h
  · refine Or.inr ⟨fun p c left => ?_, ?_⟩
    · rw [clean] at left
      cases left
    · rw [same, swap_contents swapped off]
  · by_cases here : temp p = q
    · refine Or.inl ⟨p, c, left, here, ?_⟩
      rw [eq, ← here, write_same]
    · refine Or.inr ⟨fun p' c' left' => ?_, ?_⟩
      · rw [left] at left'
        cases left'
        exact here
      · rw [eq, write_of_ne _ _ (Ne.symm here), swap_contents swapped off]

theorem swapUntil_addedName {targets : List Path} {staged t u : LiveTree β}
    {stop : StopPoint β targets} (h : swapUntil staged t stop = some u)
    (done : [addedName] ∈ stop.done) :
    contents u [addedName] = contents staged [addedName] := by
  obtain ⟨v, swapped, ⟨-, same⟩ | ⟨p, c, -, -, eq⟩⟩ := swapUntil_cases h
  · rw [same, swap_contents_of_mem swapped done (addedName_not_mem_temps _)]
  · rw [eq, write_of_ne _ _ (temp_ne_addedName p).symm,
      swap_contents_of_mem swapped done (addedName_not_mem_temps _)]

/-- Of two files with one temporary, one of them left partway and one swapped, both are the same. -/
theorem leftover_eq_of_temp_eq {targets : List Path} {staged t u : LiveTree β}
    {stop : StopPoint β targets} (h : swapUntil staged t stop = some u) {p q : Path} {c : β}
    (left : stop.leftover staged = some (p, c)) (done : q ∈ stop.done) (same : temp p = temp q) :
    p = q := by
  obtain ⟨v, swapped, ⟨clean, -⟩ | ⟨p', c', left', notRoot, -⟩⟩ := swapUntil_cases h
  · rw [clean] at left
    cases left
  · rw [left] at left'
    cases left'
    exact temp_injective notRoot (swap_ne_root swapped done) same

/-- A whole rollback is exact after these stops of the swap and no others. -/
theorem restoreAll_exact_iff {enc : Encoding β δ} {m : Manifest} {staged t u : LiveTree β}
    {stop : StopPoint β m.targets} (failed : swapUntil staged t stop = some u) :
    contents (restoreAll enc (backupMembers enc t m.paths) u) = contents t ↔
      Restorable m staged t stop := by
  constructor
  · intro exact_
    have at_ (q : Path) : contents (restoreAll enc (backupMembers enc t m.paths) u) q =
        contents t q := congrFun exact_ q
    refine ⟨fun p c left off => ?_, fun p done off unleft => ?_, fun done live => ?_⟩
    · have kept := at_ (temp p)
      rw [restoreAll_of_not_target u off] at kept
      rcases swapUntil_contents failed fun mem => off (stop.done_subset mem) with
        ⟨p', c', left', -, content⟩ | ⟨none, -⟩
      · rw [left] at left'
        cases left'
        rw [← kept, content]
      · exact absurd rfl (none p c left)
    · have kept := at_ (temp p)
      rw [restoreAll_of_not_target u off] at kept
      rcases swapUntil_contents failed fun mem => off (stop.done_subset mem) with
        ⟨p', c', left', same, -⟩ | ⟨-, content⟩
      · rw [leftover_eq_of_temp_eq failed left' done same] at left'
        exact absurd left' (unleft c')
      · rw [if_pos (List.mem_map_of_mem done), kept] at content
        exact contents_eq_none.mp content
    · have kept := at_ [addedName]
      rw [restoreAll_of_addedName u live] at kept
      rw [← kept, swapUntil_addedName failed done]
  · rintro ⟨leftover, swept, listed⟩
    funext q
    by_cases target : q ∈ m.targets
    · by_cases other : q ≠ [addedName] ∨ t q = none
      · exact restoreAll_of_target u target other
      · obtain ⟨rfl, live⟩ : q = [addedName] ∧ t q ≠ none := by simpa using other
        have isLive : (t [addedName]).isSome := Option.isSome_iff_ne_none.mpr live
        rw [restoreAll_of_addedName u isLive]
        by_cases done : [addedName] ∈ stop.done
        · rw [swapUntil_addedName failed done]
          exact listed done isLive
        · rcases swapUntil_contents failed done with ⟨p, c, -, same, -⟩ | ⟨-, content⟩
          · exact absurd same (temp_ne_addedName p)
          · rw [content, if_neg (addedName_not_mem_temps _)]
    · rw [restoreAll_of_not_target u target]
      rcases swapUntil_contents failed fun mem => target (stop.done_subset mem) with
        ⟨p, c, left, rfl, content⟩ | ⟨unleft, content⟩
      · rw [content, leftover p c left target]
      · rw [content]
        split
        case isFalse => rfl
        case isTrue mem =>
          obtain ⟨p, done, rfl⟩ := List.mem_map.mp mem
          have none := swept p done target fun c left => unleft p c left rfl
          rw [contents_eq_none.mpr none]

/-! ## A rollback that does not run through -/

/-- Nothing goes wrong in a rollback that has these files to remove. -/
def Mishaps.Smooth (w : Mishaps β) (added : List Text) : Prop :=
  w.ending = .whole ∧ ∀ p ∈ added, hasNul p = false ∧ w.stuck (pathParts p) = false

theorem Mishaps.removed_default (added : List Text) :
    ({} : Mishaps β).removed added = (added.takeWhile (!hasNul ·)).map pathParts :=
  List.filter_eq_self.mpr fun _ _ => rfl

theorem Mishaps.written_default (added : List Text) (entries : List (Path × β)) :
    ({} : Mishaps β).written added entries = if added.any hasNul then [] else entries := by
  rw [Mishaps.written, Mishaps.extracted, Mishaps.torn, Option.toList_none, List.append_nil]

theorem Mishaps.smooth_default {added : List Text} (named : ∀ p ∈ added, hasNul p = false) :
    ({} : Mishaps β).Smooth added :=
  ⟨rfl, fun p mem => ⟨named p mem, rfl⟩⟩

theorem rollback_of_smooth {enc : Encoding β δ} {a : Archive β} {w : Mishaps β}
    (smooth : w.Smooth (addedNames enc a)) (t : LiveTree β) :
    rollback enc a w t = restoreAll enc a t := by
  obtain ⟨whole, each⟩ := smooth
  have removed : w.removed (addedNames enc a) = (addedNames enc a).map pathParts := by
    have noNul : (addedNames enc a).takeWhile (!hasNul ·) = addedNames enc a :=
      List.takeWhile_eq_self_iff.mpr fun p mem => by rw [(each p mem).1, Bool.not_false]
    rw [Mishaps.removed, whole, noNul]
    refine List.filter_eq_self.mpr fun q mem => ?_
    obtain ⟨p, added, rfl⟩ := List.mem_map.mp mem
    rw [(each p added).2, Bool.not_false]
  have written : w.written (addedNames enc a) a.extracted = a.extracted := by
    have noNul : (addedNames enc a).any hasNul = false :=
      List.any_eq_false.mpr fun p mem => by rw [(each p mem).1]; decide
    rw [Mishaps.written, noNul, Mishaps.extracted, Mishaps.torn, whole]
    simp
  rw [rollback, restoreAll, removed, written]

/-- What a rollback does not reach the swap has not changed. -/
structure LeftAlone (enc : Encoding β δ) (a : Archive β) (w : Mishaps β) (t u : LiveTree β) :
    Prop where
  unreached : ∀ q, q ∉ w.removed (addedNames enc a) →
    q ∉ (w.written (addedNames enc a) a.extracted).map Prod.fst → contents u q = contents t q
  /-- What an extraction that raises has written is all of the old content. -/
  torn : (addedNames enc a).any hasNul = false → ∀ p c, w.torn a.extracted = some (p, c) →
    contents t p = some c

theorem mem_extracted {w : Mishaps β} {entries : List (Path × β)} {e : Path × β}
    (h : e ∈ w.extracted entries) : e ∈ entries := by
  rw [Mishaps.extracted] at h
  split at h
  · exact h
  · cases h
  · exact List.mem_of_mem_take h

theorem mem_removed {w : Mishaps β} {added : List Text} {q : Path} (h : q ∈ w.removed added) :
    q ∈ added.map pathParts := by
  rw [Mishaps.removed] at h
  split at h
  · cases h
  · exact ((List.takeWhile_sublist _).map _).mem (List.mem_filter.mp h).1

/-- Whatever ends it, a rollback is exact if what it does not reach was left alone, and only
then. -/
theorem rollback_exact_iff_leftAlone {enc : Encoding β δ} {m : Manifest} {w : Mishaps β}
    {t u : LiveTree β} :
    contents (rollback enc (backupMembers enc t m.paths) w u) = contents t ↔
      LeftAlone enc (backupMembers enc t m.paths) w t u := by
  rw [contents_rollback]
  constructor
  · intro exact_
    refine ⟨fun q unremoved unwritten => ?_, fun noNul p c torn => ?_⟩
    · have kept := congrFun exact_ q
      rwa [writeAll_of_not_mem _ fun e mem same => unwritten (List.mem_map.mpr ⟨e, mem, same⟩),
        unlinkAll_of_not_mem _ unremoved] at kept
    · have last := congrFun exact_ p
      rw [Mishaps.written, noNul, torn] at last
      rw [← last]
      simp [writeAll]
  · rintro ⟨unreached, torn⟩
    have written (p : Path) (c : β) (mem : (p, c) ∈ w.written
        (addedNames enc (backupMembers enc t m.paths)) (backupMembers enc t m.paths).extracted) :
        contents t p = some c := by
      rw [Mishaps.written] at mem
      split at mem
      · cases mem
      · rename_i noNul
        rcases List.mem_append.mp mem with whole | last
        · exact (mem_extracted_backup.mp (mem_extracted whole)).1
        · exact torn (Bool.eq_false_of_not_eq_true noNul) p c (Option.mem_toList.mp last)
    funext q
    by_cases reached : q ∈ (w.written (addedNames enc (backupMembers enc t m.paths))
        (backupMembers enc t m.paths).extracted).map Prod.fst
    · obtain ⟨⟨_, c⟩, mem, rfl⟩ := List.mem_map.mp reached
      rw [written _ c mem]
      refine writeAll_of_mem _ mem fun e other same => ?_
      exact Option.some.inj ((written e.1 e.2 other).symm.trans (same ▸ written _ c mem))
    · rw [writeAll_of_not_mem _ fun e mem same => reached (List.mem_map.mpr ⟨e, mem, same⟩)]
      by_cases removed : q ∈ w.removed (addedNames enc (backupMembers enc t m.paths))
      · have added := mem_removed removed
        rw [addedNames_backup, mem_added_backup] at added
        rw [unlinkAll_of_mem _ removed, contents_eq_none.mpr added.1]
      · rw [unlinkAll_of_not_mem _ removed, unreached q removed reached]

/-- When the rollback from an archive is exact, with the tree `u` that the swap has left. -/
structure Recoverable (enc : Encoding β δ) (m : Manifest) (staged t u : LiveTree β)
    (stop : StopPoint β m.targets) (a : Archive β) (w : Mishaps β) : Prop where
  smooth : w.Smooth (addedNames enc a) → Restorable m staged t stop
  disturbed : ¬ w.Smooth (addedNames enc a) → LeftAlone enc a w t u

/-- Contents are lists of names, encoded as themselves. -/
def plainEncoding : Encoding (List Text) (List Text) where
  sha256 := id
  dumps := id
  loads := some
  loads_dumps _ := rfl

/-- A release of two files, the second of them new. -/
def smallRelease : Manifest where
  files := [{ path := "genpi/app.py".toList, sha256 := [] }, { path := "NEW".toList, sha256 := [] }]
  valid := by decide

def appFile : Path := ["genpi".toList, "app.py".toList]

def smallTree : LiveTree (List Text) := fun p =>
  if p = appFile then some { content := ["old".toList], mode := 0o755 } else none

def smallStaged : LiveTree (List Text) := fun p =>
  if p = appFile ∨ p = ["NEW".toList] then some { content := ["new".toList], mode := 0o644 }
  else none

/-- The first file swapped, the second not begun. -/
def betweenFiles : StopPoint (List Text) smallRelease.targets where
  done := [appFile]
  rest := [["NEW".toList]]
  split := by decide

/-- The second file's copy torn. -/
def insideCopy : StopPoint (List Text) smallRelease.targets :=
  { betweenFiles with partway := .torn { content := [], mode := 0o644 } }

theorem restorable_betweenFiles :
    Restorable smallRelease smallStaged smallTree betweenFiles where
  leftover _ _ left := nomatch left
  swept p done _ _ := by
    rw [List.mem_singleton.mp done]
    decide
  listed done := absurd done (by decide)

end GeneratorPi
