import GeneratorPi.Lib.DirTree
import GeneratorPi.Swap

/-!
# The two ways an update is applied

`_swap` replaces the files in the process; the script that `_write_bootstrap_script` generates does
it by a line of commands for each file (`genpi/updater.py`). Here both work on trees with
directories, and on the paths as they are spelled.

In the script a line that fails does not stop the others: `set -e` has no effect in a subshell to
the left of `||`, and the last line decides.

Where no directory is in its way, `_swap` does to the regular files what it does in
`GeneratorPi.Swap` (`filesOf_swapFile`).
-/

namespace GeneratorPi.ApplyPaths

open PyText DirTree

variable {β : Type}

abbrev Tree (β : Type) := DirTree.Tree Text β

abbrev Command (β : Type) := DirTree.Command Text β

/-- `dirname` of a relative path. -/
def dirnameOf (p : Text) : Text :=
  let slash (c : Char) : Bool := c = '/'
  let front := (((p.rdropWhile slash).rdropWhile (!slash ·)).rdropWhile slash)
  if front = [] then ['.'] else front

/-- The machine the update is applied on. -/
structure Host (β : Type) where
  kernel : Kernel Text β
  umask : ℕ
  /-- What the app makes it can use, so `mkdir -p` has no bits to add. -/
  owner : umask &&& 0o300 = 0
  /-- What `dirname` prints; it takes a text that begins with `-` for an option. -/
  dirname : Text → Text
  dirname_plain : ∀ p, p.head? ≠ some '-' → dirname p = dirnameOf p

/-- The permissions of `mode` without those in the umask. -/
def Host.masked (host : Host β) (mode : ℕ) : ℕ :=
  let permissions := mode &&& 0o777
  permissions - (permissions &&& host.umask)

def fileName (p : Text) : Text := (pathParts p).getLastD []

/-- A directory below the root, with those on the way to it. -/
def makeDir (host : Host β) (p : Path) : Command β := mkdirs (host.masked 0o777) [] p

/-! ## `_swap` -/

/-- `live.parent.mkdir(parents=True, exist_ok=True)`. -/
def mkdirParent (host : Host β) (p : Text) : Command β :=
  let parent := (pathParts p).dropLast
  if parent.any hasNul then fun t => (false, t) else makeDir host parent

/-- `staging / path`, if it is a file. -/
def stagedFile (staged : LiveTree β) (p : Text) : Option (β × ℕ) :=
  if hasNul p then none
  else (readStaged staged (pathParts p)).map fun f => (f.content, f.mode)

/-- `shutil.copy2`: with the mode of the source. -/
def copy2 (staged : LiveTree β) (p : Text) : Command β :=
  copy (fun mode _ => mode) (stagedFile staged p) (fileName p) (temp (pathParts p))

/-- `os.chmod(tmp, orig_mode)`, if there was something at the live path. -/
def chmodTemp (orig : Option (Node β)) (p : Text) : Command β :=
  match orig with
  | none => succeed
  | some n => chmod n.mode (temp (pathParts p))

/-- The steps for one file from the look at the live path on. -/
def replaceLive (host : Host β) (staged : LiveTree β) (p : Text) : Command β := fun t =>
  (copy2 staged p).andThen
    ((chmodTemp (t (pathParts p)) p).andThen
      (rename host.kernel (temp (pathParts p)) (pathParts p))) t

def swapFile (host : Host β) (staged : LiveTree β) (p : Text) : Command β :=
  (mkdirParent host p).andThen (replaceLive host staged p)

def swap (host : Host β) (staged : LiveTree β) (paths : List Text) : Command β :=
  allOf (paths.map (swapFile host staged))

/-! ## The script -/

/-- What is left of a path in the script: `bash` drops NUL characters. -/
def scripted (p : Text) : Text := p.filter (· ≠ '\x00')

/-- `$(…)`. -/
def substituted (s : Text) : Text := s.rdropWhile (· = '\n')

/-- The source of `cp`: with a slash or a dot at the end it is no file. -/
def cpSource (staged : LiveTree β) (p : Text) : Option (β × ℕ) :=
  if trailing p then none
  else (readStaged staged (pathParts p)).map fun f => (f.content, f.mode)

/-- `cp` makes a file with the masked mode, and writes into one that is there. -/
def cpMode (host : Host β) (mode : ℕ) : Option ℕ → ℕ
  | none => host.masked mode
  | some own => own

/-- `( [ -e live ] && chmod --reference=live tmp; true )`. -/
def chmodReference (live tmp : Path) : Command β := fun t =>
  match t live with
  | none => (true, t)
  | some n => (true, (chmod n.mode tmp t).2)

/-- `cp`, `chmod` and `mv`. -/
def copyOver (host : Host β) (staged : LiveTree β) (p : Text) : Command β :=
  let tmp := pathParts (p ++ tempSuffix)
  (copy (cpMode host) (cpSource staged p) (fileName p) tmp).andThen
    ((chmodReference (pathParts p) tmp).andThen
      (mv host.kernel tmp (pathParts p) (fileName (p ++ tempSuffix))))

/-- The line of one file. -/
def copyLine (host : Host β) (staged : LiveTree β) (path : Text) : Command β :=
  let p := scripted path
  (makeDir host (pathParts (substituted (host.dirname p)))).andThen (copyOver host staged p)

/-- The subshell with the lines. -/
def copies (host : Host β) (staged : LiveTree β) (paths : List Text) : Command β :=
  lastOf (paths.map (copyLine host staged))

/-! ## Rolling back -/

/-- What the archive of `_make_backup` holds: the paths in `__added__.json`, which come from a
validated manifest, and the other members. -/
structure Snapshot (β : Type) where
  added : List Text
  members : List (Text × β)
  valid : ∀ p ∈ added, pathError? p = none

/-- `(dest_root / p).unlink()`; an `OSError` passes, a name with a NUL character ends it all. -/
def unlinkAdded (p : Text) : Command β := fun t =>
  if hasNul p then (false, t) else (true, (unlink (pathParts p) t).2)

/-- `os.remove(os.path.join(root, p))`: with a slash or a dot at the end the path is no file. -/
def removeAdded (p : Text) : Command β := fun t =>
  if hasNul p then (false, t)
  else if trailing p then (true, t)
  else (true, (unlink (pathParts p) t).2)

/-- `ZipFile.extract`; a name with a slash at its end is a directory's. -/
def extractMember (host : Host β) (member : Text × β) : Command β :=
  let p := pathParts member.1
  if member.1.getLast? = some '/' then makeDir host p
  else (makeDir host p.dropLast).andThen fun t =>
    if isDir t p then (false, t)
    else (true, put t p (.file member.2 (cpMode host 0o666 ((t p).map Node.mode))))

/-- `_rollback`. -/
def rollback (host : Host β) (s : Snapshot β) : Command β :=
  allOf (s.added.map unlinkAdded ++ s.members.map (extractMember host))

/-- The program in the script. -/
def pyRollback (host : Host β) (s : Snapshot β) : Command β :=
  allOf (s.added.map removeAdded ++ s.members.map (extractMember host))

/-! ## One file -/

/-- The script reads the path as it is. -/
structure Spelled (host : Host β) (p : Text) : Prop where
  plain : trailing p = false
  noNul : hasNul p = false
  parent : pathParts (substituted (host.dirname p)) = (pathParts p).dropLast

/-- The file `f` is staged, and can be copied to its temporary, or into a directory there. -/
structure Copied (staged : LiveTree β) (t : Tree β) (p : Text) (f : File β) : Prop where
  staged : readStaged staged (pathParts p) = some f
  parents : ∀ q, q ≠ [] → q <+: (pathParts p).dropLast → ∀ c m, t q ≠ some (.file c m)
  free : isDir t (into t (temp (pathParts p)) (fileName p)) = false

/-- `mv` of the temporary into a directory at the live path is refused: the temporary is a file
and there is a directory of its name, or it is a directory and there is a file or a directory that
is not empty. -/
def Refused (u : Tree β) (p : Text) : Prop :=
  let inside := pathParts p ++ [fileName (p ++ tempSuffix)]
  (isDir u (temp (pathParts p)) = false → isDir u inside = true) ∧
    (isDir u (temp (pathParts p)) = true →
      u inside ≠ none ∧ (isDir u inside = true → ∃ x, u (inside ++ [x]) ≠ none))

/-- Where the file can be copied, nothing is at the live path and what `cp` leaves has the mode of
the staged file, or there is a file, or a directory that both refuse to replace. -/
structure Alike (host : Host β) (staged : LiveTree β) (t : Tree β) (p : Text) : Prop where
  dir : ∀ f, Copied staged t p f → isDir t (pathParts p) = true → Refused t p
  mode : ∀ f, Copied staged t p f → t (pathParts p) = none →
    cpMode host f.mode ((t (into t (temp (pathParts p)) (fileName p))).map Node.mode) = f.mode

theorem temp_concat (parent : Path) (name : Text) :
    temp (parent ++ [name]) = parent ++ [name ++ tempSuffix] := by
  induction parent with
  | nil => rfl
  | cons dir rest ih =>
      obtain ⟨first, later, split⟩ := List.exists_cons_of_ne_nil
        (List.append_ne_nil_of_right_ne_nil rest (List.cons_ne_nil name []))
      rw [List.cons_append, split, temp, ← split, ih, List.cons_append]

theorem dropLast_temp (live : Path) : (temp live).dropLast = live.dropLast := by
  rcases List.eq_nil_or_concat' live with rfl | ⟨parent, name, rfl⟩
  · rfl
  · rw [temp_concat, List.dropLast_concat, List.dropLast_concat]

theorem filter_concat {front : Path} {piece : Text} (proper : piece ≠ [] ∧ piece ≠ ['.']) :
    (front ++ [piece]).filter (fun c => c ≠ [] ∧ c ≠ ['.']) =
      front.filter (fun c => c ≠ [] ∧ c ≠ ['.']) ++ [piece] := by
  rw [List.filter_append]
  simp [proper]

theorem length_temp {live : Path} (some_name : live ≠ []) : (temp live).length = live.length := by
  obtain ⟨parent, name, rfl⟩ := (List.eq_nil_or_concat' live).resolve_left some_name
  rw [temp_concat, List.length_append, List.length_append]
  rfl

/-- A plain spelling ends with the last name, and the suffix comes behind it. -/
theorem pathParts_plain {p : Text} (plain : trailing p = false) :
    ∃ parent name, pathParts p = parent ++ [name] ∧
      pathParts (p ++ tempSuffix) = parent ++ [name ++ tempSuffix] := by
  rcases List.eq_nil_or_concat' (p.splitOn '/') with empty | ⟨front, piece, eq⟩
  · exact absurd empty (List.splitOn_ne_nil _ _)
  have proper : piece ≠ [] ∧ piece ≠ ['.'] := by
    rw [trailing, eq, List.getLast?_concat] at plain
    simpa using plain
  have suffixed : piece ++ tempSuffix ≠ [] ∧ piece ++ tempSuffix ≠ ['.'] := by
    constructor
    · exact List.append_ne_nil_of_right_ne_nil _ (by decide)
    · intro same
      have long := congrArg List.length same
      rw [List.length_append] at long
      exact absurd (Nat.le_add_left tempSuffix.length piece.length) (long ▸ by decide)
  have behind := splitOn_append_of_not_mem eq (t := tempSuffix) (by decide)
  refine ⟨front.filter fun c => c ≠ [] ∧ c ≠ ['.'], piece, ?_, ?_⟩
  · rw [pathParts, eq, filter_concat proper]
  · rw [pathParts, behind, filter_concat suffixed]

/-- Neither name of the parent has a NUL character. -/
theorem hasNul_of_mem_pathParts {p name : Text} (noNul : hasNul p = false)
    (mem : name ∈ pathParts p) : hasNul name = false := by
  rw [hasNul, List.contains_eq_mem, decide_eq_false_iff_not] at noNul ⊢
  exact fun nul => noNul (subset_of_mem_splitOn (List.mem_of_mem_filter mem) nul)

variable {host : Host β} {staged : LiveTree β} {t u : Tree β} {p : Text}

theorem scripted_eq (noNul : hasNul p = false) : scripted p = p := by
  rw [hasNul, List.contains_eq_mem, decide_eq_false_iff_not] at noNul
  refine List.filter_eq_self.mpr fun c mem => decide_eq_true ?_
  rintro rfl
  exact noNul mem

/-- Both make the same directories. -/
theorem mkdirParent_eq (spelled : Spelled host p) :
    mkdirParent host p = makeDir host (pathParts (substituted (host.dirname p))) := by
  have clean : (pathParts p).dropLast.any hasNul = false := by
    rw [List.any_eq_false]
    intro name mem
    rw [hasNul_of_mem_pathParts spelled.noNul ((List.dropLast_sublist _).subset mem)]
    exact Bool.false_ne_true
  rw [mkdirParent, clean, spelled.parent]
  rfl

theorem chmodTemp_andThen {n x : Node β} (c : Command β)
    (atTemp : u (temp (pathParts p)) = some x) :
    (chmodTemp (some n) p).andThen c u = c (put u (temp (pathParts p)) (x.chmod n.mode)) := by
  have done := chmod_of_some n.mode atTemp
  have ok : (chmodTemp (some n) p u).1 = true := congrArg Prod.fst done
  rw [andThen_of_ok ok]
  exact congrArg (fun r => c r.2) done

theorem chmodReference_andThen {n x : Node β} {live tmp : Path} (c : Command β)
    (atLive : u live = some n) (atTemp : u tmp = some x) :
    (chmodReference live tmp).andThen c u = c (put u tmp (x.chmod n.mode)) := by
  have done : chmodReference live tmp u = (true, put u tmp (x.chmod n.mode)) := by
    rw [chmodReference, atLive]
    exact congrArg (fun r => (true, r.2)) (chmod_of_some n.mode atTemp)
  rw [andThen_of_ok (congrArg Prod.fst done), done]

theorem chmodReference_andThen_of_none {live tmp : Path} (c : Command β) (atLive : u live = none) :
    (chmodReference live tmp).andThen c u = c u := by
  have done : chmodReference live tmp u = (true, u) := by rw [chmodReference, atLive]
  rw [andThen_of_ok (congrArg Prod.fst done), done]

theorem live_ne_into (some_name : pathParts p ≠ []) :
    pathParts p ≠ into u (temp (pathParts p)) (fileName p) := by
  rw [into]
  split
  · intro same
    have long := congrArg List.length same
    rw [List.length_append, length_temp some_name] at long
    simp at long
  · exact (temp_ne_self _).symm

/-- With no directory at the temporary, what was copied gets the live mode. -/
theorem chmod_copied_file {n : Node β} {content : β} (c : Command β)
    (atLive : u (pathParts p) = some n) (noDir : isDir u (temp (pathParts p)) = false) (m : ℕ) :
    (chmodTemp (some n) p).andThen c
        (put u (into u (temp (pathParts p)) (fileName p)) (.file content m)) =
      c (put u (temp (pathParts p)) (.file content n.mode)) ∧
    (chmodReference (pathParts p) (temp (pathParts p))).andThen c
        (put u (into u (temp (pathParts p)) (fileName p)) (.file content m)) =
      c (put u (temp (pathParts p)) (.file content n.mode)) := by
  have stays : put u (temp (pathParts p)) (.file content m) (pathParts p) = some n :=
    (put_of_ne _ _ (temp_ne_self _).symm).trans atLive
  rw [into_of_not_dir _ noDir, chmodTemp_andThen _ (put_same ..),
    chmodReference_andThen _ stays (put_same ..), put_put]
  exact ⟨rfl, rfl⟩

/-- With a directory there, that gets it. -/
theorem chmod_copied_dir {n : Node β} {content : β} (c : Command β) (some_name : pathParts p ≠ [])
    (atLive : u (pathParts p) = some n) (dir : isDir u (temp (pathParts p)) = true) (m : ℕ) :
    (chmodTemp (some n) p).andThen c
        (put u (into u (temp (pathParts p)) (fileName p)) (.file content m)) =
      c (put (put u (temp (pathParts p) ++ [fileName p]) (.file content m)) (temp (pathParts p))
        (.dir n.mode)) ∧
    (chmodReference (pathParts p) (temp (pathParts p))).andThen c
        (put u (into u (temp (pathParts p)) (fileName p)) (.file content m)) =
      c (put (put u (temp (pathParts p) ++ [fileName p]) (.file content m)) (temp (pathParts p))
        (.dir n.mode)) := by
  obtain ⟨d, atTemp⟩ := (isDir_iff (temp_ne_nil _)).mp dir
  have other := live_ne_into (u := u) some_name
  rw [into_of_dir _ dir] at other ⊢
  have stays : put u (temp (pathParts p) ++ [fileName p]) (.file content m) (pathParts p) =
      some n :=
    (put_of_ne _ _ other).trans atLive
  have under : put u (temp (pathParts p) ++ [fileName p]) (.file content m) (temp (pathParts p)) =
      some (.dir d) := (put_of_ne _ _ (by simp)).trans atTemp
  rw [chmodTemp_andThen _ under, chmodReference_andThen _ stays under]
  exact ⟨rfl, rfl⟩

theorem exists_temp_copied (x : Node β) :
    ∃ n, put u (into u (temp (pathParts p)) (fileName p)) x (temp (pathParts p)) = some n := by
  rw [into]
  split
  case isTrue dir =>
    obtain ⟨d, atTemp⟩ := (isDir_iff (temp_ne_nil _)).mp dir
    exact ⟨_, (put_of_ne _ _ (by simp)).trans atTemp⟩
  case isFalse => exact ⟨x, put_same ..⟩

theorem behind_ne_temp (some_name : pathParts p ≠ []) (x : Text) (r : Path) :
    pathParts p ++ x :: r ≠ temp (pathParts p) := by
  intro same
  have longer := congrArg List.length same
  rw [List.length_append, length_temp some_name] at longer
  simp at longer

/-- What is copied into the directory at the temporary leaves the live path and what is under it. -/
theorem copied_dir_behind (some_name : pathParts p ≠ []) (n : Node β) (d : ℕ) (r : Path) :
    put (put u (temp (pathParts p) ++ [fileName p]) n) (temp (pathParts p)) (.dir d)
      (pathParts p ++ r) = u (pathParts p ++ r) := by
  have notWithin : pathParts p ++ r ≠ temp (pathParts p) ++ [fileName p] := fun same =>
    temp_ne_self _ (List.append_inj_left same (length_temp some_name).symm).symm
  have notTemp : pathParts p ++ r ≠ temp (pathParts p) := by
    cases r with
    | nil =>
        rw [List.append_nil]
        exact (temp_ne_self _).symm
    | cons x r => exact behind_ne_temp some_name x r
  rw [put_of_ne _ _ notTemp, put_of_ne _ _ notWithin]

/-- Nothing at the live path. -/
theorem agree_finish_missing {content : β} {m m' : ℕ} (atLive : u (pathParts p) = none)
    (some_name : pathParts p ≠ []) :
    Agree
      (rename host.kernel (temp (pathParts p)) (pathParts p)
        (put u (into u (temp (pathParts p)) (fileName p)) (.file content m)))
      (rename host.kernel (temp (pathParts p)) (pathParts p)
        (put u (into u (temp (pathParts p)) (fileName p)) (.file content m'))) ↔ m = m' := by
  obtain ⟨r, place⟩ : ∃ r, into u (temp (pathParts p)) (fileName p) = temp (pathParts p) ++ r := by
    rw [into]
    split
    · exact ⟨_, rfl⟩
    · exact ⟨[], (List.append_nil _).symm⟩
  have stays (x : Node β) :
      put u (into u (temp (pathParts p)) (fileName p)) x (pathParts p) = none :=
    (put_of_ne _ _ (live_ne_into some_name)).trans atLive
  constructor
  · intro agree
    obtain ⟨n, atTemp⟩ := exists_temp_copied (u := u) (p := p) (.file content m)
    obtain ⟨n', atTemp'⟩ := exists_temp_copied (u := u) (p := p) (.file content m')
    rw [rename_missing atTemp (stays _), rename_missing atTemp' (stays _)] at agree
    have same := congrFun (agree.tree rfl) (pathParts p ++ r)
    dsimp only at same
    rw [moved_under, moved_under, ← place, put_same, put_same] at same
    cases same
    rfl
  · rintro rfl
    exact .refl _

/-- A file at the live path. -/
theorem agree_finish_file {content c : β} {m m' m₀ : ℕ} (some_name : pathParts p ≠ [])
    (atLive : u (pathParts p) = some (.file c m₀)) :
    Agree
      ((chmodTemp (some (.file c m₀)) p).andThen
        (rename host.kernel (temp (pathParts p)) (pathParts p))
        (put u (into u (temp (pathParts p)) (fileName p)) (.file content m)))
      ((chmodReference (pathParts p) (temp (pathParts p))).andThen
        (mv host.kernel (temp (pathParts p)) (pathParts p) (fileName (p ++ tempSuffix)))
        (put u (into u (temp (pathParts p)) (fileName p)) (.file content m'))) := by
  have noDir (v : Tree β) (same : v (pathParts p) = some (.file c m₀)) :
      into v (pathParts p) (fileName (p ++ tempSuffix)) = pathParts p :=
    into_of_not_dir _ (isDir_eq_false some_name (by simp [same]))
  cases dir : isDir u (temp (pathParts p)) with
  | true =>
      rw [(chmod_copied_dir _ some_name atLive dir m).1,
        (chmod_copied_dir _ some_name atLive dir m').2]
      have stays (x : Node β) : put (put u (temp (pathParts p) ++ [fileName p]) x)
          (temp (pathParts p)) (.dir (Node.file c m₀).mode) (pathParts p) = some (.file c m₀) := by
        have same := copied_dir_behind (u := u) some_name x (Node.file c m₀).mode []
        rw [List.append_nil] at same
        exact same.trans atLive
      have refused (x : Node β) := rename_dir_file (k := host.kernel) (put_same ..) (stays x)
      rw [mv, noDir _ (stays _)]
      exact .of_fail (congrArg Prod.fst (refused _)) (congrArg Prod.fst (refused _))
  | false =>
      rw [(chmod_copied_file _ atLive dir m).1,
        (chmod_copied_file _ atLive dir m').2, mv, noDir]
      · exact .refl _
      · exact (put_of_ne _ _ (temp_ne_self _).symm).trans atLive

/-- A directory at the live path. -/
theorem agree_finish_dir {content : β} {m m' d : ℕ} (some_name : pathParts p ≠ [])
    (suffixed : fileName (p ++ tempSuffix) ≠ fileName p)
    (atLive : u (pathParts p) = some (.dir d)) :
    Agree
      ((chmodTemp (some (.dir d)) p).andThen
        (rename host.kernel (temp (pathParts p)) (pathParts p))
        (put u (into u (temp (pathParts p)) (fileName p)) (.file content m)))
      ((chmodReference (pathParts p) (temp (pathParts p))).andThen
        (mv host.kernel (temp (pathParts p)) (pathParts p) (fileName (p ++ tempSuffix)))
        (put u (into u (temp (pathParts p)) (fileName p)) (.file content m'))) ↔
      Refused u p := by
  cases dir : isDir u (temp (pathParts p)) with
  | true =>
      have behind (m : ℕ) (r : Path) := copied_dir_behind (u := u) some_name (.file content m) d r
      have atNew (m : ℕ) :
          put (put u (temp (pathParts p) ++ [fileName p]) (.file content m)) (temp (pathParts p))
            (.dir d) (pathParts p) = some (.dir d) := by
        have same := behind m []
        rw [List.append_nil] at same
        exact same.trans atLive
      have off (r : Path) (other : r ≠ temp (pathParts p) ++ [fileName p]) :
          put (put u (temp (pathParts p) ++ [fileName p]) (.file content m)) (temp (pathParts p))
            (.dir d) r =
          put (put u (temp (pathParts p) ++ [fileName p]) (.file content m')) (temp (pathParts p))
            (.dir d) r := by
        by_cases atTemp : r = temp (pathParts p)
        · rw [atTemp, put_same, put_same]
        · rw [put_of_ne _ _ atTemp, put_of_ne _ _ atTemp, put_of_ne _ _ other, put_of_ne _ _ other]
      have copied : put (put u (temp (pathParts p) ++ [fileName p]) (.file content m))
          (temp (pathParts p)) (.dir d) (temp (pathParts p) ++ [fileName p]) ≠ none := by
        rw [put_of_ne _ _ (by simp), put_same]
        exact Option.some_ne_none _
      rw [(chmod_copied_dir _ some_name atLive dir m).1,
        (chmod_copied_dir _ some_name atLive dir m').2]
      refine (agree_mv_dir some_name (temp_ne_self _) (length_temp some_name)
        (put_same ..) (atNew m)
        off copied suffixed).trans ?_
      simp only [Refused, dir, List.append_assoc, List.singleton_append, behind,
        isDir_congr (behind m' [fileName (p ++ tempSuffix)]), true_imp_iff, reduceCtorEq,
        false_imp_iff, true_and]
  | false =>
      have stays (x : Node β) : put u (temp (pathParts p)) x (pathParts p) = some (.dir d) :=
        (put_of_ne _ _ (temp_ne_self _).symm).trans atLive
      have inside (x : Node β) :
          isDir (put u (temp (pathParts p)) x) (pathParts p ++ [fileName (p ++ tempSuffix)]) =
            isDir u (pathParts p ++ [fileName (p ++ tempSuffix)]) :=
        isDir_congr (put_of_ne _ _ (behind_ne_temp some_name _ []))
      rw [(chmod_copied_file _ atLive dir m).1,
        (chmod_copied_file _ atLive dir m').2,
        agree_mv_file some_name (put_same ..) (put_same ..) (stays _) (stays _), inside]
      simp [Refused, dir]

/-- What the copy leaves is put in place alike: with one mode, if nothing was there, and in no
directory. -/
theorem agree_finish_iff {content : β} {m m' : ℕ} (some_name : pathParts p ≠ [])
    (suffixed : fileName (p ++ tempSuffix) ≠ fileName p) :
    Agree
      ((chmodTemp (u (pathParts p)) p).andThen
        (rename host.kernel (temp (pathParts p)) (pathParts p))
        (put u (into u (temp (pathParts p)) (fileName p)) (.file content m)))
      ((chmodReference (pathParts p) (temp (pathParts p))).andThen
        (mv host.kernel (temp (pathParts p)) (pathParts p) (fileName (p ++ tempSuffix)))
        (put u (into u (temp (pathParts p)) (fileName p)) (.file content m'))) ↔
      (u (pathParts p) = none → m = m') ∧ (isDir u (pathParts p) = true → Refused u p) := by
  cases atLive : u (pathParts p) with
  | none =>
      have stays : put u (into u (temp (pathParts p)) (fileName p)) (.file content m')
          (pathParts p) = none := (put_of_ne _ _ (live_ne_into some_name)).trans atLive
      have noDir (v : Tree β) (missing : v (pathParts p) = none) :
          isDir v (pathParts p) = false := isDir_eq_false some_name (by simp [missing])
      rw [chmodReference_andThen_of_none _ stays, mv, into_of_not_dir _ (noDir _ stays),
        noDir u atLive]
      refine (agree_finish_missing atLive some_name).trans ?_
      simp
  | some n =>
      cases n with
      | file c m₀ =>
          have noDir : isDir u (pathParts p) = false := isDir_eq_false some_name (by simp [atLive])
          exact iff_of_true (agree_finish_file some_name atLive) (by simp [noDir])
      | dir d =>
          rw [agree_finish_dir some_name suffixed atLive, isDir_of_dir some_name atLive]
          simp

/-- Behind the directories. -/
theorem agree_replace_iff (spelled : Spelled host p)
    (parent : isDir u (pathParts p).dropLast = true) :
    Agree (replaceLive host staged p u) (copyOver host staged p u) ↔
      ∀ f, readStaged staged (pathParts p) = some f →
        isDir u (into u (temp (pathParts p)) (fileName p)) = false →
        (u (pathParts p) = none → f.mode = cpMode host f.mode
          ((u (into u (temp (pathParts p)) (fileName p))).map Node.mode)) ∧
        (isDir u (pathParts p) = true → Refused u p) := by
  obtain ⟨front, name, live, behind⟩ := pathParts_plain spelled.plain
  have some_name : pathParts p ≠ [] := by simp [live]
  have tmp : pathParts (p ++ tempSuffix) = temp (pathParts p) := by
    rw [live, temp_concat, behind]
  have suffixed : fileName (p ++ tempSuffix) ≠ fileName p := by
    rw [fileName, fileName, behind, live]
    simp [tempSuffix]
  have sources : cpSource staged p = stagedFile staged p := by
    rw [cpSource, spelled.plain, stagedFile, spelled.noNul]
  have tempParent : isDir u (temp (pathParts p)).dropLast = true := by
    rw [dropLast_temp, parent]
  have found : stagedFile staged p =
      (readStaged staged (pathParts p)).map fun f => (f.content, f.mode) := by
    rw [stagedFile, spelled.noNul, if_neg Bool.false_ne_true]
  rw [replaceLive, copyOver, tmp, sources, copy2, found]
  cases readable : readStaged staged (pathParts p) with
  | none => exact iff_of_true (.refl _) (by simp)
  | some f =>
      rw [Option.map_some, copy_andThen, copy_andThen, tempParent, Bool.true_and]
      cases dir : isDir u (into u (temp (pathParts p)) (fileName p)) with
      | true =>
          refine iff_of_true (.refl _) fun _ _ free => ?_
          exact absurd free.symm Bool.false_ne_true
      | false =>
          refine (agree_finish_iff some_name suffixed).trans ?_
          simp

/-- The parent is made of what is on the way to it. -/
theorem madeParent (host : Host β) (t : Tree β) {front : Path} {name : Text}
    (live : pathParts p = front ++ [name]) (q : Path) (long : front.length < q.length) :
    (makeDir host (pathParts p).dropLast t).2 q = t q := by
  refine mkdirs_of_longer t ?_
  rw [live, List.dropLast_concat, List.length_nil, Nat.zero_add]
  exact long

theorem place_congr {front : Path} {name : Text} (live : pathParts p = front ++ [name])
    (same : ∀ q : Path, front.length < q.length → u q = t q) :
    into u (temp (pathParts p)) (fileName p) = into t (temp (pathParts p)) (fileName p) ∧
      u (into t (temp (pathParts p)) (fileName p)) =
        t (into t (temp (pathParts p)) (fileName p)) := by
  have atTemp := same (temp (pathParts p)) (by simp [live, temp_concat])
  have within := same (temp (pathParts p) ++ [fileName p]) (by simp [live, temp_concat])
  constructor
  · rw [into, into, isDir_congr atTemp]
  · rw [into]
    split
    · exact within
    · exact atTemp

theorem refused_congr {front : Path} {name : Text} (live : pathParts p = front ++ [name])
    (same : ∀ q : Path, front.length < q.length → u q = t q) : Refused u p ↔ Refused t p := by
  have some_name : pathParts p ≠ [] := by simp [live]
  have atTemp : isDir u (temp (pathParts p)) = isDir t (temp (pathParts p)) :=
    isDir_congr (same _ (by rw [length_temp some_name, live]; simp))
  have inside := same (pathParts p ++ [fileName (p ++ tempSuffix)]) (by simp [live])
  have within (x : Text) :
      u (pathParts p ++ [fileName (p ++ tempSuffix)] ++ [x]) =
        t (pathParts p ++ [fileName (p ++ tempSuffix)] ++ [x]) := same _ (by simp [live])
  simp only [Refused, atTemp, isDir_congr inside, inside, within]

/-- A file whose path is spelled plainly. -/
theorem agree_file_iff (spelled : Spelled host p) :
    Agree (swapFile host staged p t) (copyLine host staged p t) ↔ Alike host staged t p := by
  obtain ⟨front, name, live, -⟩ := pathParts_plain spelled.plain
  rw [swapFile, mkdirParent_eq spelled, copyLine, scripted_eq spelled.noNul, spelled.parent]
  cases made : (makeDir host (pathParts p).dropLast t).1 with
  | false =>
      rw [andThen_of_fail made, andThen_of_fail made]
      have notCopied (f : File β) (copied : Copied staged t p f) : False :=
        absurd (mkdirs_iff.mpr copied.parents) (by rw [← makeDir, made]; exact Bool.false_ne_true)
      exact iff_of_true (.refl _) ⟨fun f h => (notCopied f h).elim, fun f h => (notCopied f h).elim⟩
  | true =>
      rw [andThen_of_ok made, andThen_of_ok made]
      have same := madeParent host t live
      have parent : isDir (makeDir host (pathParts p).dropLast t).2 (pathParts p).dropLast = true :=
        isDir_mkdirs made rfl
      have atLive := same (pathParts p) (by simp [live])
      obtain ⟨place, atPlace⟩ := place_congr live same
      rw [agree_replace_iff spelled parent, place, atPlace, isDir_congr atPlace, atLive,
        isDir_congr atLive, refused_congr live same]
      constructor
      · intro h
        exact ⟨fun f copied => (h f copied.staged copied.free).2,
          fun f copied missing => ((h f copied.staged copied.free).1 missing).symm⟩
      · intro alike f readable free
        have copied : Copied staged t p f := ⟨readable, mkdirs_iff.mp made, free⟩
        exact ⟨fun missing => (alike.mode f copied missing).symm, alike.dir f copied⟩

/-- What `_swap` needs to replace a file. -/
structure Swappable (staged : LiveTree β) (t : Tree β) (p : Text) : Prop where
  copied : ∃ f, Copied staged t p f
  overFile : ∀ c m, t (pathParts p) = some (.file c m) → isDir t (temp (pathParts p)) = false
  overDir : isDir t (pathParts p) = true →
    isDir t (temp (pathParts p)) = true ∧ ∀ x, t (pathParts p ++ [x]) = none

/-- Whether what was copied can be renamed. -/
theorem rename_copied_iff {content : β} {m : ℕ} (some_name : pathParts p ≠ []) :
    ((chmodTemp (u (pathParts p)) p).andThen
        (rename host.kernel (temp (pathParts p)) (pathParts p))
        (put u (into u (temp (pathParts p)) (fileName p)) (.file content m))).1 = true ↔
      (∀ c m, u (pathParts p) = some (.file c m) → isDir u (temp (pathParts p)) = false) ∧
        (isDir u (pathParts p) = true →
          isDir u (temp (pathParts p)) = true ∧ ∀ x, u (pathParts p ++ [x]) = none) := by
  cases atLive : u (pathParts p) with
  | none =>
      have stays : put u (into u (temp (pathParts p)) (fileName p)) (.file content m)
          (pathParts p) = none := (put_of_ne _ _ (live_ne_into some_name)).trans atLive
      obtain ⟨n, atTemp⟩ := exists_temp_copied (u := u) (p := p) (.file content m)
      have noDir : isDir u (pathParts p) = false := isDir_eq_false some_name (by simp [atLive])
      exact iff_of_true (congrArg Prod.fst (rename_missing atTemp stays)) (by simp [noDir])
  | some n =>
      cases dir : isDir u (temp (pathParts p)) with
      | true =>
          rw [(chmod_copied_dir _ some_name atLive dir m).1]
          have stays := copied_dir_behind (u := u) some_name (.file content m) n.mode
          have same := stays []
          rw [List.append_nil, atLive] at same
          cases n with
          | file c m₀ =>
              rw [rename_dir_file (put_same ..) same]
              exact iff_of_false Bool.false_ne_true fun free =>
                absurd (free.1 c m₀ rfl) (by simp)
          | dir d =>
              rw [rename_dir_dir (put_same ..) same]
              have empty := host.kernel.emptyDir_iff
                (put (put u (temp (pathParts p) ++ [fileName p]) (.file content m))
                  (temp (pathParts p)) (.dir (Node.dir d : Node β).mode)) (pathParts p)
              simp only [stays] at empty
              have isDirLive := isDir_of_dir some_name atLive
              split
              case isTrue yes => exact iff_of_true rfl ⟨by simp, fun _ => ⟨rfl, empty.mp yes⟩⟩
              case isFalse no =>
                exact iff_of_false Bool.false_ne_true fun free =>
                  no (empty.mpr (free.2 isDirLive).2)
      | false =>
          rw [(chmod_copied_file _ atLive dir m).1]
          have same : put u (temp (pathParts p)) (.file content n.mode) (pathParts p) = some n :=
            (put_of_ne _ _ (temp_ne_self _).symm).trans atLive
          cases n with
          | file c m₀ =>
              rw [rename_file_file (put_same ..) same]
              have noDir : isDir u (pathParts p) = false :=
                isDir_eq_false some_name (by simp [atLive])
              exact iff_of_true rfl ⟨fun _ _ _ => rfl, by simp [noDir]⟩
          | dir d =>
              rw [rename_file_dir (put_same ..) same]
              refine iff_of_false Bool.false_ne_true fun free => ?_
              exact absurd (free.2 (isDir_of_dir some_name atLive)).1 (by simp)

theorem swapFile_iff (spelled : Spelled host p) :
    (swapFile host staged p t).1 = true ↔ Swappable staged t p := by
  obtain ⟨front, name, live, -⟩ := pathParts_plain spelled.plain
  have some_name : pathParts p ≠ [] := by simp [live]
  rw [swapFile, mkdirParent_eq spelled, spelled.parent]
  cases made : (makeDir host (pathParts p).dropLast t).1 with
  | false =>
      rw [andThen_of_fail made, made]
      refine iff_of_false Bool.false_ne_true fun swappable => ?_
      obtain ⟨f, copied⟩ := swappable.copied
      exact absurd ((mkdirs_iff.mpr copied.parents).symm.trans made) (by simp)
  | true =>
      have same := madeParent host t live
      have parent : isDir (makeDir host (pathParts p).dropLast t).2 (pathParts p).dropLast = true :=
        isDir_mkdirs made rfl
      have atLive := same (pathParts p) (by simp [live])
      obtain ⟨place, atPlace⟩ := place_congr live same
      rw [andThen_of_ok made, replaceLive, copy2, stagedFile, spelled.noNul,
        if_neg Bool.false_ne_true]
      cases readable : readStaged staged (pathParts p) with
      | none =>
          refine iff_of_false Bool.false_ne_true fun swappable => ?_
          obtain ⟨f, copied⟩ := swappable.copied
          exact absurd (readable.symm.trans copied.staged) (by simp)
      | some f =>
          have free : isDir (makeDir host (pathParts p).dropLast t).2
              (into (makeDir host (pathParts p).dropLast t).2 (temp (pathParts p)) (fileName p)) =
              isDir t (into t (temp (pathParts p)) (fileName p)) := by
            rw [place, isDir_congr atPlace]
          have tempParent : isDir (makeDir host (pathParts p).dropLast t).2
              (temp (pathParts p)).dropLast = true := by
            rw [dropLast_temp, parent]
          rw [Option.map_some, copy_andThen, tempParent, Bool.true_and, free]
          cases dir : isDir t (into t (temp (pathParts p)) (fileName p)) with
          | true =>
              refine iff_of_false Bool.false_ne_true fun swappable => ?_
              obtain ⟨g, copied⟩ := swappable.copied
              exact absurd (dir.symm.trans copied.free) (by simp)
          | false =>
              have copied : Copied staged t p f := ⟨readable, mkdirs_iff.mp made, dir⟩
              have under (x : Text) := same (pathParts p ++ [x]) (by simp [live])
              have atTemp := same (temp (pathParts p)) (by simp [live, temp_concat])
              refine (rename_copied_iff some_name).trans ?_
              simp only [atLive, isDir_congr atLive, isDir_congr atTemp, under]
              exact ⟨fun ⟨overFile, overDir⟩ => ⟨⟨f, copied⟩, overFile, overDir⟩,
                fun swappable => ⟨swappable.overFile, swappable.overDir⟩⟩

/-! ## The regular files -/

/-- The regular files of a tree. -/
def filesOf (t : Tree β) : LiveTree β := fun q =>
  match t q with
  | some (.file content mode) => some { content, mode }
  | _ => none

/-- Nothing stands below what is no directory. -/
def Closed (t : Tree β) : Prop := ∀ q r, r ≠ [] → t (q ++ r) ≠ none → isDir t q = true

theorem filesOf_congr {q : Path} (same : u q = t q) : filesOf u q = filesOf t q := by
  rw [filesOf, filesOf, same]

theorem filesOf_put_dir {q : Path} (free : t q = none) (mode : ℕ) :
    filesOf (put t q (.dir mode)) = filesOf t := by
  funext r
  by_cases here : r = q
  · rw [here, filesOf, filesOf, put_same, free]
  · exact filesOf_congr (put_of_ne _ _ here)

theorem filesOf_put_file (t : Tree β) (q : Path) (content : β) (mode : ℕ) :
    filesOf (put t q (.file content mode)) = FileTree.write (filesOf t) q { content, mode } := by
  funext r
  by_cases here : r = q
  · rw [here, FileTree.write_same, filesOf, put_same]
  · rw [FileTree.write_of_ne _ _ here, filesOf_congr (put_of_ne _ _ here)]

theorem filesOf_mkdirs {mode : ℕ} {base names : Path} (t : Tree β) :
    filesOf (mkdirs mode base names t).2 = filesOf t := by
  induction names generalizing base t with
  | nil => rfl
  | cons name rest ih =>
      rw [mkdirs]
      split
      case h_1 free => exact (ih _).trans (filesOf_put_dir free mode)
      case h_2 => exact ih _
      case h_3 => rfl

theorem filesOf_of_none {q : Path} (free : t q = none) : filesOf t q = none := by
  rw [filesOf, free]

/-- Moving a file moves it among the files, where nothing is below either path. -/
theorem filesOf_moved {q r : Path} {content : β} {mode : ℕ}
    (file : t q = some (.file content mode)) (below : ∀ s, s ≠ [] → t (q ++ s) = none)
    (free : ∀ s, s ≠ [] → t (r ++ s) = none) :
    filesOf (moved t q r) = FileTree.write (FileTree.unlink (filesOf t) q) r { content, mode } := by
  funext x
  by_cases underNew : r <+: x
  · obtain ⟨s, rfl⟩ := underNew
    by_cases here : s = []
    · have atNew : moved t q r r = t q := by simpa using moved_under t q r []
      rw [here, List.append_nil, FileTree.write_same, filesOf, atNew, file]
    · have notOld : r ++ s ≠ q := by
        rintro rfl
        cases file.symm.trans (free s here)
      rw [FileTree.write_of_ne _ _ (by simpa using here), FileTree.unlink_of_ne _ notOld,
        filesOf_of_none (free s here), filesOf, moved_under, below s here]
  · have notNew : x ≠ r := by
      rintro rfl
      exact underNew (List.prefix_refl _)
    rw [FileTree.write_of_ne _ _ notNew]
    by_cases underOld : q <+: x
    · have gone : moved t q r x = none := by
        rw [moved, if_neg (by simpa using underNew), if_pos (by simpa using underOld)]
      rw [filesOf_of_none gone]
      obtain ⟨s, rfl⟩ := underOld
      by_cases here : s = []
      · rw [here, List.append_nil, FileTree.unlink_same]
      · rw [FileTree.unlink_of_ne _ (by simpa using here), filesOf_of_none (below s here)]
    · have notOld : x ≠ q := by
        rintro rfl
        exact underOld (List.prefix_refl _)
      rw [FileTree.unlink_of_ne _ notOld, filesOf_congr (moved_of_not_under t underOld underNew)]

theorem nothing_under {q : Path} (closed : Closed t) (noDir : isDir t q = false) {r : Path}
    (some_name : r ≠ []) : t (q ++ r) = none := by
  by_contra there
  rw [closed q r some_name there] at noDir
  cases noDir

/-- What the swap of a file does, with no directory at its temporary: behind the directories, the
copy with the mode of the file that is there takes its place. -/
theorem swapFile_eq_moved (spelled : Spelled host p) (noDir : isDir t (temp (pathParts p)) = false)
    (swapped : swapFile host staged p t = (true, u)) :
    ∃ f v, readStaged staged (pathParts p) = some f ∧ filesOf v = filesOf t ∧
      (∀ q, (pathParts p).length ≤ q.length → v q = t q) ∧ isDir t (pathParts p) = false ∧
      u = moved (put v (temp (pathParts p)) (.file f.content
        (((filesOf t (pathParts p)).map File.mode).getD f.mode))) (temp (pathParts p))
        (pathParts p) := by
  obtain ⟨front, name, live, -⟩ := pathParts_plain spelled.plain
  have some_name : pathParts p ≠ [] := by simp [live]
  have same := madeParent host t live
  rw [swapFile, mkdirParent_eq spelled, spelled.parent] at swapped
  cases made : (makeDir host (pathParts p).dropLast t).1 with
  | false =>
      rw [andThen_of_fail made] at swapped
      rw [swapped] at made
      cases made
  | true =>
      rw [andThen_of_ok made, replaceLive, copy2, stagedFile, spelled.noNul,
        if_neg Bool.false_ne_true] at swapped
      have files : filesOf (makeDir host (pathParts p).dropLast t).2 = filesOf t := filesOf_mkdirs t
      generalize (makeDir host (pathParts p).dropLast t).2 = v at same swapped files
      have stays (q : Path) (long : (pathParts p).length ≤ q.length) : v q = t q :=
        same q (by rw [live, List.length_append, List.length_singleton] at long; omega)
      have atLive := stays (pathParts p) le_rfl
      have noDirThere : isDir v (temp (pathParts p)) = false :=
        (isDir_congr (stays _ (length_temp some_name).ge)).trans noDir
      cases readable : readStaged staged (pathParts p) with
      | none =>
          rw [readable] at swapped
          cases congrArg Prod.fst swapped
      | some f =>
          rw [readable, Option.map_some, copy_andThen] at swapped
          split at swapped
          case isFalse => cases congrArg Prod.fst swapped
          case isTrue =>
            refine ⟨f, v, rfl, files, stays, ?_⟩
            cases found : t (pathParts p) with
            | none =>
                have missing : put v (temp (pathParts p)) (.file f.content f.mode) (pathParts p) =
                    none := (put_of_ne _ _ (temp_ne_self _).symm).trans (atLive.trans found)
                rw [atLive, found, into_of_not_dir _ noDirThere] at swapped
                have renamed := rename_missing (k := host.kernel) (put_same ..) missing
                refine ⟨isDir_eq_false some_name (by simp [found]), ?_⟩
                rw [filesOf_of_none found]
                exact (Prod.mk.inj (swapped.symm.trans renamed)).2
            | some n =>
                rw [atLive, found, (chmod_copied_file _ (atLive.trans found) noDirThere _).1]
                  at swapped
                have there (x : Node β) : put v (temp (pathParts p)) x (pathParts p) = some n :=
                  (put_of_ne _ _ (temp_ne_self _).symm).trans (atLive.trans found)
                cases n with
                | dir d =>
                    rw [rename_file_dir (put_same ..) (there _)] at swapped
                    cases congrArg Prod.fst swapped
                | file c m =>
                    rw [rename_file_file (put_same ..) (there _)] at swapped
                    refine ⟨isDir_eq_false some_name (by simp [found]), ?_⟩
                    rw [filesOf, found]
                    exact (Prod.mk.inj swapped).2.symm

/-- The copy is given the mode of the live file. -/
theorem chmodTemp_write (files : LiveTree β) (q : Path) (f : File β) :
    GeneratorPi.chmodTemp (FileTree.write files (temp q) f) q =
      FileTree.write files (temp q)
        { content := f.content, mode := ((files q).map File.mode).getD f.mode } := by
  have stays : FileTree.write files (temp q) f q = files q :=
    FileTree.write_of_ne _ _ (temp_ne_self q).symm
  rw [GeneratorPi.chmodTemp, stays, FileTree.write_same]
  cases files q with
  | none => rfl
  | some live => exact Function.update_idem ..

/-- On its files alone the swap of one file is the one of a tree that has no directories. -/
theorem filesOf_swapFile (spelled : Spelled host p) (closed : Closed t)
    (noDir : isDir t (temp (pathParts p)) = false)
    (swapped : swapFile host staged p t = (true, u)) :
    GeneratorPi.swapFile staged (filesOf t) (pathParts p) = some (filesOf u) := by
  obtain ⟨f, v, readable, files, stays, noDirLive, rfl⟩ := swapFile_eq_moved spelled noDir swapped
  have some_name : pathParts p ≠ [] := by
    intro empty
    rw [empty] at noDirLive
    cases noDirLive
  have chmodded := chmodTemp_write (filesOf t) (pathParts p) f
  set mode := ((filesOf t (pathParts p)).map File.mode).getD f.mode
  have copied : copyTemp staged (filesOf t) (pathParts p) =
      some (FileTree.write (filesOf t) (temp (pathParts p)) f) := by
    rw [copyTemp, readable, Option.map_some]
  have below (s : Path) (named : s ≠ []) : put v (temp (pathParts p)) (.file f.content mode)
      (temp (pathParts p) ++ s) = none := by
    have long : (pathParts p).length ≤ (temp (pathParts p) ++ s).length := by
      rw [List.length_append, length_temp some_name]
      exact Nat.le_add_right ..
    rw [put_of_ne _ _ (by simpa using named), stays _ long]
    exact nothing_under closed noDir named
  have free (s : Path) (named : s ≠ []) : put v (temp (pathParts p)) (.file f.content mode)
      (pathParts p ++ s) = none := by
    obtain ⟨x, s, rfl⟩ := List.exists_cons_of_ne_nil named
    rw [put_of_ne _ _ (behind_ne_temp some_name x s), stays _ (by simp)]
    exact nothing_under closed noDirLive named
  rw [GeneratorPi.swapFile, copied, Option.bind_some, chmodded, GeneratorPi.replaceLive,
    FileTree.rename, FileTree.write_same, Option.map_some, filesOf_moved (put_same ..) below free,
    filesOf_put_file, files]

/-! ## A whole update -/

/-- Both roll back alike, if no added file that is there is spelled with a slash or a dot at the
end. -/
theorem rollback_eq {s : Snapshot β}
    (plain : ∀ done p rest, s.added = done ++ p :: rest →
      ∀ u, allOf (done.map unlinkAdded) t = (true, u) →
        trailing p = true → ∀ c m, u (pathParts p) ≠ some (.file c m)) :
    rollback host s t = pyRollback host s t := by
  refine allOf_congr _ _ _ fun done p rest split u before => ?_
  rw [unlinkAdded, removeAdded]
  split
  case isTrue => rfl
  case isFalse =>
    cases ends : trailing p with
    | false => rfl
    | true =>
        have missing := unlink_of_not_file (plain done p rest split u before ends)
        rw [missing]
        rfl

/-- Both apply an update alike, if at every file's turn its path is spelled plainly and its file
put in place alike, and no file but the last is one that cannot be replaced; both roll back alike,
if at its turn no added path that goes on behind its name leads to a file. -/
theorem applied_alike (m : Manifest) (staged : LiveTree β) (t : Tree β) (s : Snapshot β)
    (r : Tree β)
    (files : ∀ done p rest, m.paths = done ++ p :: rest → ∀ u, swap host staged done t = (true, u) →
      Spelled host p ∧ Alike host staged u p ∧ (rest ≠ [] → Swappable staged u p))
    (added : ∀ done p rest, s.added = done ++ p :: rest →
      ∀ u, allOf (done.map unlinkAdded) r = (true, u) →
        trailing p = true → ∀ c mode, u (pathParts p) ≠ some (.file c mode)) :
    Agree (swap host staged m.paths t) (copies host staged m.paths t) ∧
      rollback host s r = pyRollback host s r := by
  refine ⟨agree_allOf_lastOf _ _ fun done p rest split u before => ?_, rollback_eq added⟩
  obtain ⟨spelled, alike, swappable⟩ := files done p rest split u before
  exact ⟨(agree_file_iff spelled).mpr alike, fun more =>
    (swapFile_iff spelled).mpr (swappable more)⟩

noncomputable def linux : Kernel Text Text where
  emptyDir t p := @decide (∀ name, t (p ++ [name]) = none) (Classical.propDecidable _)
  emptyDir_iff _ _ := @decide_eq_true_iff _ (Classical.propDecidable _)

noncomputable def pi : Host Text where
  kernel := linux
  umask := 0o022
  owner := rfl
  dirname := dirnameOf
  dirname_plain _ _ := rfl

/-- A script that is there, and a module that is not. -/
def twoFiles : Manifest where
  files := [⟨"setup.sh".toList, []⟩, ⟨"genpi/new.py".toList, []⟩]
  valid := by decide

def before : Tree Text := fun p =>
  if p = ["setup.sh".toList] then some (.file "old".toList 0o755) else none

def release : LiveTree Text := fun p =>
  if p = ["setup.sh".toList] ∨ p = ["genpi".toList, "new.py".toList] then
    some { content := "new".toList, mode := 0o644 }
  else none

def taken : Snapshot Text where
  added := ["genpi/new.py".toList]
  members := [("setup.sh".toList, "old".toList)]
  valid := by decide

theorem applied_twoFiles :
    Agree (swap pi release twoFiles.paths before) (copies pi release twoFiles.paths before) ∧
      rollback pi taken (swap pi release twoFiles.paths before).2 =
        pyRollback pi taken (swap pi release twoFiles.paths before).2 := by
  refine applied_alike twoFiles release before taken _ (fun done p rest split u made => ?_)
    (fun done p rest split u _ ends => ?_)
  · rcases done with _ | ⟨first, _ | ⟨second, more⟩⟩
    · obtain ⟨rfl, rfl⟩ := List.cons.inj split
      obtain rfl : before = u := congrArg Prod.snd made
      have onWay (q : Path) (some_name : q ≠ []) (on : q <+: []) (c m) :
          before q ≠ some (.file c m) := absurd (List.prefix_nil.mp on) some_name
      have copied : Copied release before "setup.sh".toList ⟨"new".toList, 0o644⟩ :=
        ⟨by decide, onWay, by decide⟩
      have noDir : isDir before (pathParts "setup.sh".toList) ≠ true := by decide
      have there : before (pathParts "setup.sh".toList) ≠ none := by decide
      exact ⟨⟨by decide, by decide, by decide⟩,
        ⟨fun _ _ dir => absurd dir noDir, fun _ _ missing => absurd missing there⟩,
        fun _ => ⟨⟨_, copied⟩, fun _ _ _ => by decide, fun dir => absurd dir noDir⟩⟩
    · obtain ⟨rfl, behind⟩ := List.cons.inj split
      obtain ⟨rfl, rfl⟩ := List.cons.inj behind
      obtain rfl : (swap pi release ["setup.sh".toList] before).2 = u := congrArg Prod.snd made
      have noDir : isDir (swap pi release ["setup.sh".toList] before).2
          (pathParts "genpi/new.py".toList) ≠ true := by decide
      refine ⟨⟨by decide, by decide, by decide⟩,
        ⟨fun _ _ dir => absurd dir noDir, fun f copied _ => ?_⟩, fun more => absurd rfl more⟩
      have staged : some ⟨"new".toList, 0o644⟩ = some f := copied.staged
      obtain rfl := Option.some.inj staged
      decide
    · have long := congrArg List.length (List.cons.inj (List.cons.inj split).2).2
      simp at long
  · rcases done with _ | ⟨first, more⟩
    · obtain ⟨rfl, -⟩ := List.cons.inj split
      exact absurd ends (by decide)
    · have long := congrArg List.length (List.cons.inj split).2
      simp at long

def overDirectory : Manifest where
  files := [⟨"docs".toList, []⟩]
  valid := by decide

def withDirectory : Tree Text := fun p => if p = ["docs".toList] then some (.dir 0o755) else none

def docsFile : LiveTree Text := fun p =>
  if p = ["docs".toList] then some { content := "text".toList, mode := 0o644 } else none

/-- Where the release has a file in the place of a directory, the process fails and the script puts
the file into the directory under the name of the temporary. -/
theorem directory_not_alike :
    (swap pi docsFile overDirectory.paths withDirectory).1 = false ∧
      (copies pi docsFile overDirectory.paths withDirectory).1 = true ∧
      (copies pi docsFile overDirectory.paths withDirectory).2
        ["docs".toList, "docs.gpnew".toList] = some (.file "text".toList 0o755) ∧
      ¬ Agree (swap pi docsFile overDirectory.paths withDirectory)
        (copies pi docsFile overDirectory.paths withDirectory) := by
  have fails : (swap pi docsFile overDirectory.paths withDirectory).1 = false := by
    decide
  have completes : (copies pi docsFile overDirectory.paths withDirectory).1 = true := by
    decide
  refine ⟨fails, completes, by decide, fun agree => ?_⟩
  exact absurd (fails.symm.trans (agree.status.trans completes)) Bool.false_ne_true

end GeneratorPi.ApplyPaths
