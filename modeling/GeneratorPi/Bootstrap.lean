import GeneratorPi.Lib.Trace
import GeneratorPi.Swap

/-!
# The stage-two bootstrap script

The script that `_write_bootstrap_script` (`genpi/updater.py`) generates, as three flows over one
tree: the main flow (swap, restart, health check, bookkeeping of a success), its EXIT trap, which
rolls back after a failure, and the watchdog in the background, which rolls back after ten minutes
unless the done flag is set and then kills the group.  Their steps interleave in any way.

Two things of the shell matter.  `set -e` has no effect in a subshell to the left of `||`, so only
the last file's commands decide whether the swap failed.  Killing the watchdog's subshell leaves
the command it was waiting for to run on.  And `cp` and `mv` put a file into a directory that stands
at their target (`Job.into`).

The trap leaves the watchdog running, so ten minutes after a failure it rolls back as well, whatever
tree it finds (`watchdog_undoes`).  `final_of_run` says in which runs the outcome is final.
-/

namespace GeneratorPi

open PyText FileTree Trace

variable {β δ : Type}

/-! ## Restoring -/

/-- One step of the embedded rollback program. -/
inductive RestoreOp (β : Type) where
  | remove (p : Path)
  | extract (p : Path) (c : β)

def RestoreOp.apply (t : LiveTree β) : RestoreOp β → LiveTree β
  | .remove p => unlink t p
  | .extract p c => GeneratorPi.extract t p c

/-- A name with a NUL character ends the program by a `ValueError`. -/
def restoreOps (enc : Encoding β δ) (a : Archive β) : List (RestoreOp β) :=
  let added := addedNames enc a
  (added.takeWhile (!hasNul ·)).map (fun p => .remove (pathParts p)) ++
    if added.any hasNul then [] else a.extracted.map fun m => .extract m.1 m.2

/-- Run to its end, the embedded program does what `_rollback` does. -/
theorem foldl_restoreOps (enc : Encoding β δ) (a : Archive β) (t : LiveTree β) :
    (restoreOps enc a).foldl RestoreOp.apply t = rollback enc a {} t := by
  rw [rollback, Mishaps.removed_default, Mishaps.written_default, restoreOps, List.foldl_append,
    List.foldl_map, extractAll, unlinkAll, List.foldl_map]
  split
  · rfl
  · rw [List.foldl_map]
    rfl

/-! ## The script -/

/-- What the script is generated for. -/
structure Job (β δ : Type) where
  enc : Encoding β δ
  manifest : Manifest
  /-- The tree before the swap, of which the backup was taken. -/
  start : LiveTree β
  staged : LiveTree β
  /-- Where a directory stands while the script runs: those of the install tree and those that
  `mkdir -p` makes. -/
  dirs : Path → Bool

def Job.backup (job : Job β δ) : Archive β := backupMembers job.enc job.start job.manifest.paths

/-- The contents of the new version. -/
def Job.newContents (job : Job β δ) : Tree Path β := fun q =>
  if q ∈ job.manifest.targets then contents job.staged q else contents job.start q

/-- The source of `cp`, by its text: a trailing `/` or `/.` asks for a directory. -/
def Job.source (job : Job β δ) (p : Text) : Option (File β) :=
  match (p.splitOn '/').getLast? with
  | none | some [] | some ['.'] => none
  | _ => readStaged job.staged (pathParts p)

/-- Where `cp` or `mv` puts a file: a directory at the target takes it in under its name. -/
def Job.into (job : Job β δ) (target : Path) (name : Text) : Path :=
  if job.dirs target then target ++ [name] else target

/-- `cp -f`, to the temporary. -/
def Job.copy (job : Job β δ) (t : LiveTree β) (p : Path) (f : File β) : LiveTree β :=
  write t (job.into (temp p) (p.getLastD [])) f

/-- `chmod --reference` and `mv -f` of the temporary.  A directory in its place is not moved. -/
def Job.move (job : Job β δ) (t : LiveTree β) (p : Path) : Option (LiveTree β) :=
  rename (chmodTemp t p) (temp p) (job.into p ((temp p).getLastD []))

/-- Where the shell function `rollback` stands. -/
inductive RestorePoint (β : Type) where
  /-- In the embedded program, with what it still has to do. -/
  | restoring (ops : List (RestoreOp β))
  | restartingOld
  | probingOld

/-- Where the main flow stands. -/
inductive ScriptPoint (β : Type) where
  | sleeping
  /-- Before `cp` of the first of the files still to be swapped. -/
  | copying (p : Text) (rest : List Text)
  /-- Before its `mv`. -/
  | replacing (p : Text) (rest : List Text)
  | restarting
  | probing
  /-- Before `SUCCEEDED=1`. -/
  | declaring
  /-- Before `touch "$DONE_FLAG"`. -/
  | flagging
  /-- Before `kill "$WATCHDOG"`. -/
  | killing
  /-- Before `write_result success`. -/
  | recording
  /-- Before `rm -f "$DONE_FLAG"`. -/
  | cleaning
  /-- In the EXIT trap. -/
  | rollingBack (r : RestorePoint β)
  | exited

inductive WatchdogPoint (β : Type) where
  | sleeping
  | rollingBack (r : RestorePoint β)
  /-- Before `kill -9 -$$`. -/
  | killing
  | gone

/-- `last_update.json`. -/
inductive UpdateResult where
  | success
  | failed (healthy : Bool)
  deriving DecidableEq, Repr

structure Bootstrap (β : Type) where
  main : ScriptPoint β := .sleeping
  watchdog : WatchdogPoint β := .sleeping
  /-- What the command of a killed watchdog still has to do. -/
  orphan : List (RestoreOp β) := []
  live : LiveTree β
  succeeded : Bool := false
  flag : Bool := false
  record : Option UpdateResult := none
  /-- How many rollbacks were begun. -/
  rollbacks : ℕ := 0
  /-- The tree was written or the service restarted after the main flow had exited. -/
  late : Bool := false

def ScriptPoint.isExited : ScriptPoint β → Bool
  | .exited => true
  | _ => false

/-- The next step writes a file of the tree or restarts the service. -/
def RestorePoint.acts : RestorePoint β → Bool
  | .restoring (_ :: _) | .restartingOld => true
  | _ => false

/-- The main flow before the given files. -/
def ScriptPoint.next : List Text → ScriptPoint β
  | [] => .restarting
  | p :: rest => .copying p rest

/-- `exit 1` without success: the EXIT trap begins its rollback. -/
def Bootstrap.failExit (job : Job β δ) (s : Bootstrap β) : Bootstrap β :=
  { s with
    main := .rollingBack (.restoring (restoreOps job.enc job.backup))
    rollbacks := s.rollbacks + 1 }

/-- One file's commands failed: only the last file's status is that of the subshell. -/
def Bootstrap.chainFailed (job : Job β δ) (s : Bootstrap β) (rest : List Text) : Bootstrap β :=
  match rest with
  | [] => s.failExit job
  | _ => { s with main := .next rest }

/-- One step of the shell function `rollback`; `none` when it returns. -/
def RestorePoint.step (s : Bootstrap β) (healthy : Bool) :
    RestorePoint β → Bootstrap β × Option (RestorePoint β)
  | .restoring [] => (s, some .restartingOld)
  | .restoring (op :: ops) => ({ s with live := op.apply s.live }, some (.restoring ops))
  | .restartingOld => (s, some .probingOld)
  | .probingOld => ({ s with record := some (.failed healthy) }, none)

/-- What a killed subshell leaves running. -/
def WatchdogPoint.orphan : WatchdogPoint β → List (RestoreOp β)
  | .rollingBack (.restoring ops) => ops
  | _ => []

inductive BootstrapOp (β : Type) where
  /-- The main flow's command succeeds or fails, a failing copy perhaps with a torn file. -/
  | main (ok : Bool) (torn : Option (File β))
  | watchdog (healthy : Bool)
  | orphan

def Bootstrap.mainStep (job : Job β δ) (s : Bootstrap β) (ok : Bool) (torn : Option (File β)) :
    Option (Bootstrap β) :=
  match s.main with
  | .sleeping => some { s with main := .next job.manifest.paths }
  | .copying p rest =>
      if ok then
        (job.source p).map fun f =>
          { s with live := job.copy s.live (pathParts p) f, main := .replacing p rest }
      else
        let live := torn.elim s.live (job.copy s.live (pathParts p))
        some ({ s with live }.chainFailed job rest)
  | .replacing p rest =>
      if ok then
        (job.move s.live (pathParts p)).map fun live =>
          { s with live, main := .next rest }
      else some (s.chainFailed job rest)
  | .restarting => some (if ok then { s with main := .probing } else s.failExit job)
  | .probing => some (if ok then { s with main := .declaring } else s.failExit job)
  | .declaring => some { s with succeeded := true, main := .flagging }
  | .flagging => some { s with flag := ok, main := .killing }
  | .killing => some
      { s with orphan := s.watchdog.orphan, watchdog := .gone, main := .recording }
  | .recording => some
      { s with record := if ok then some .success else s.record, main := .cleaning }
  | .cleaning => some { s with flag := false, main := .exited }
  | .rollingBack r =>
      let (s, after) := r.step s ok
      some { s with main := after.elim .exited .rollingBack }
  | .exited => none

def Bootstrap.watchdogStep (job : Job β δ) (s : Bootstrap β) (healthy : Bool) :
    Option (Bootstrap β) :=
  match s.watchdog with
  | .sleeping => some
      (if s.flag then { s with watchdog := .gone }
      else
        { s with
          watchdog := .rollingBack (.restoring (restoreOps job.enc job.backup))
          rollbacks := s.rollbacks + 1 })
  | .rollingBack r =>
      let (s, after) := r.step s healthy
      some
        { s with
          late := s.late || s.main.isExited && r.acts
          watchdog := after.elim .killing .rollingBack }
  | .killing => some { s with main := .exited, watchdog := .gone, orphan := [] }
  | .gone => none

def Bootstrap.step (job : Job β δ) (s : Bootstrap β) : BootstrapOp β → Option (Bootstrap β)
  | .main ok torn => s.mainStep job ok torn
  | .watchdog healthy => s.watchdogStep job healthy
  | .orphan =>
      match s.orphan with
      | [] => none
      | op :: ops => some
          { s with live := op.apply s.live, orphan := ops, late := s.late || s.main.isExited }

/-! ## Finality -/

structure Final (job : Job β δ) (s : Bootstrap β) : Prop where
  /-- Nothing the script started acts after the main flow has exited. -/
  settled : s.late = false
  once : s.rollbacks ≤ 1
  success : s.record = some .success → contents s.live = job.newContents
  failed : ∀ healthy, s.record = some (.failed healthy) → contents s.live = contents job.start

/-- A release whose temporaries get in no file's way, and that meets no directory. -/
structure Job.Plain (job : Job β δ) : Prop where
  /-- No directory stands where a file or its temporary will be. -/
  undisturbed : ∀ p ∈ job.manifest.targets, job.dirs p = false ∧ job.dirs (temp p) = false
  /-- No name has a NUL character; no such file can be staged. -/
  named : ∀ p ∈ job.manifest.paths, hasNul p = false
  /-- Where a file's temporary will be, nothing stands but a file that is swapped later. -/
  temps : ∀ done p rest, job.manifest.targets = done ++ p :: rest → temp p ∉ rest →
    temp p ∉ done ∧ job.start (temp p) = none
  /-- A live file named as the archive's list of added files is not given another content. -/
  listed : [addedName] ∈ job.manifest.targets → job.start [addedName] ≠ none →
    contents job.staged [addedName] = contents job.start [addedName]

/-- The main flow is not inside the replacement of one file, and its outcome is open. -/
def ScriptPoint.steady : ScriptPoint β → Bool
  | .sleeping | .copying _ _ | .restarting | .probing | .declaring | .flagging | .killing => true
  | _ => false

/-- The main flow's step touches no file, begins no rollback and kills nothing. -/
def ScriptPoint.harmless (ok : Bool) : ScriptPoint β → Bool
  | .sleeping | .declaring | .flagging => true
  | .restarting | .probing => ok
  | _ => false

/-- A failing command of this point leaves nothing half done, and the script exits for it. -/
def ScriptPoint.failsCleanly (torn : Option (File β)) : ScriptPoint β → Bool
  | .copying _ rest => rest.isEmpty && torn.isNone
  | .replacing _ _ => false
  | _ => true

def WatchdogPoint.idle : WatchdogPoint β → Bool
  | .sleeping | .gone => true
  | _ => false

def WatchdogPoint.isSleeping : WatchdogPoint β → Bool
  | .sleeping => true
  | _ => false

/-- While the watchdog rolls back the main flow does nothing that counts; no file fails to be
swapped but the last, and that before its copy; and the watchdog's time runs out without the flag
only while the main flow is steady. -/
def Calm (s : Bootstrap β) : BootstrapOp β → Prop
  | .main ok torn =>
      (s.watchdog.idle ∨ s.main.harmless ok) ∧ (ok = false → s.main.failsCleanly torn)
  | .watchdog _ => s.watchdog.isSleeping → s.flag = false → s.main.steady
  | .orphan => True

instance (s : Bootstrap β) : DecidablePred (Calm s)
  | .main _ _ => inferInstanceAs (Decidable (_ ∧ _))
  | .watchdog _ => inferInstanceAs (Decidable (_ → _))
  | .orphan => isTrue trivial

/-! ## The tree at each point -/

variable {job : Job β δ}

/-- The contents after the given files have been swapped. -/
def Job.swapped (job : Job β δ) (done : List Text) : Tree Path β := fun q =>
  if q ∈ done.map pathParts then contents job.staged q else contents job.start q

/-- The files `done` have been swapped, and `rest` are left.  A file of `rest` may be gone already,
if its name was a temporary's. -/
def AfterSwap (job : Job β δ) (t : LiveTree β) (done rest : List Text) : Prop :=
  ∀ q, (q ∈ (done.map pathParts).map temp → q ∉ rest.map pathParts) →
    contents t q = job.swapped done q

theorem AfterSwap.old_or_new {t : LiveTree β} {done rest : List Text}
    (split : job.manifest.paths = done ++ rest) (after : AfterSwap job t done rest) {q : Path}
    (apart : q ∉ job.manifest.targets ∨ q ∉ job.manifest.targets.map temp) :
    contents t q = contents job.start q ∨
      q ∈ job.manifest.targets ∧ contents t q = contents job.staged q := by
  have targets : job.manifest.targets = done.map pathParts ++ rest.map pathParts := by
    rw [Manifest.targets, split, List.map_append]
  rw [targets, List.map_append, List.mem_append, List.mem_append, not_or, not_or] at apart
  have clear : q ∈ (done.map pathParts).map temp → q ∉ rest.map pathParts :=
    fun isTemp => apart.elim And.right fun noTemp => absurd isTemp noTemp.1
  rw [after q clear, Job.swapped]
  split
  case isTrue mem => exact Or.inr ⟨targets ▸ List.mem_append_left _ mem, rfl⟩
  case isFalse => exact Or.inl rfl

/-- A tree that has only old and new contents, but for the temporaries, is restored. -/
theorem rollback_restores (plain : job.Plain) {t : LiveTree β}
    (oldOrNew : ∀ q, (q ∉ job.manifest.targets ∨ q ∉ job.manifest.targets.map temp) →
      contents t q = contents job.start q ∨
        q ∈ job.manifest.targets ∧ contents t q = contents job.staged q) :
    contents ((restoreOps job.enc job.backup).foldl RestoreOp.apply t) = contents job.start := by
  have smooth : ({} : Mishaps β).Smooth (addedNames job.enc job.backup) := by
    refine Mishaps.smooth_default fun p mem => plain.named p ?_
    rw [Job.backup, addedNames_backup] at mem
    exact (List.mem_filter.mp mem).1
  rw [foldl_restoreOps, rollback_of_smooth smooth]
  funext q
  by_cases target : q ∈ job.manifest.targets
  · by_cases other : q ≠ [addedName] ∨ job.start q = none
    · exact restoreAll_of_target t target other
    · obtain ⟨rfl, live⟩ : q = [addedName] ∧ job.start q ≠ none := by simpa using other
      refine (restoreAll_of_addedName t (Option.isSome_iff_ne_none.mpr live)).trans ?_
      rcases oldOrNew _ (Or.inr (addedName_not_mem_temps _)) with old | ⟨-, new⟩
      · exact old
      · exact new.trans (plain.listed target live)
  · refine (restoreAll_of_not_target t target).trans ?_
    exact (oldOrNew q (Or.inl target)).resolve_right fun new => target new.1

theorem target_of_split {p : Text} {done rest : List Text}
    (split : job.manifest.paths = done ++ p :: rest) : pathParts p ∈ job.manifest.targets := by
  rw [Manifest.targets, split]
  exact List.mem_map_of_mem (List.mem_append_right _ List.mem_cons_self)

theorem Job.Plain.copy_eq (plain : job.Plain) {p : Path} (target : p ∈ job.manifest.targets)
    (t : LiveTree β) (f : File β) : job.copy t p f = write t (temp p) f := by
  rw [Job.copy, Job.into, (plain.undisturbed p target).2]
  rfl

theorem Job.Plain.move_eq (plain : job.Plain) {p : Path} (target : p ∈ job.manifest.targets)
    (t : LiveTree β) : job.move t p = replaceLive (chmodTemp t p) p := by
  rw [Job.move, Job.into, (plain.undisturbed p target).1]
  rfl

theorem staged_of_source {p : Text} {f : File β} (h : job.source p = some f) :
    job.staged (pathParts p) = some f := by
  rw [Job.source] at h
  split at h
  case h_4 => exact (Option.ite_none_left_eq_some.mp h).2
  all_goals cases h

/-- Where the copy of the next file's staged content is renamed into place, that file is swapped. -/
theorem afterSwap_renamed (plain : job.Plain) {t u : LiveTree β} {p : Text}
    {done rest : List Text} {f : File β} (split : job.manifest.paths = done ++ p :: rest)
    (found : job.staged (pathParts p) = some f)
    (copied : contents t (temp (pathParts p)) = some f.content)
    (before : ∀ q, q ≠ temp (pathParts p) →
      (q ∈ (done.map pathParts).map temp → q ∉ (p :: rest).map pathParts) →
        contents t q = job.swapped done q)
    (moved : replaceLive (chmodTemp t (pathParts p)) (pathParts p) = some u) :
    AfterSwap job u (done ++ [p]) rest := by
  have targets : job.manifest.targets =
      done.map pathParts ++ pathParts p :: rest.map pathParts := by
    rw [Manifest.targets, split, List.map_append, List.map_cons]
  obtain ⟨here, gone, kept⟩ := contents_replaceLive moved
  rw [contents_chmodTemp] at here kept
  intro q clear
  simp only [List.map_append, List.map_cons, List.map_nil, List.mem_append,
    List.mem_singleton] at clear
  rw [Job.swapped]
  simp only [List.map_append, List.map_cons, List.map_nil, List.mem_append, List.mem_singleton]
  by_cases isFile : q = pathParts p
  · rw [isFile, here, copied, if_pos (Or.inr rfl), contents, found, Option.map_some]
  by_cases isTemp : q = temp (pathParts p)
  · obtain ⟨fresh, absent⟩ := plain.temps _ _ _ targets (isTemp ▸ clear (Or.inr isTemp))
    rw [isTemp, gone, if_neg fun mem => mem.elim fresh (temp_ne_self _),
      contents_eq_none.mpr absent]
  · have clearBefore : q ∈ (done.map pathParts).map temp → q ∉ (p :: rest).map pathParts := by
      intro wasTemp
      rw [List.map_cons, List.mem_cons, not_or]
      exact ⟨isFile, clear (Or.inl wasTemp)⟩
    rw [kept q isFile isTemp, before q isTemp clearBefore, Job.swapped]
    simp only [isFile, or_false]

/-- The tree while the update goes on. -/
def Progress (job : Job β δ) (t : LiveTree β) : ScriptPoint β → Prop
  | .sleeping => AfterSwap job t [] job.manifest.paths
  | .copying p rest =>
      ∃ done, job.manifest.paths = done ++ p :: rest ∧ AfterSwap job t done (p :: rest)
  | .replacing p rest =>
      ∃ done f, job.manifest.paths = done ++ p :: rest ∧ job.staged (pathParts p) = some f ∧
        contents t (temp (pathParts p)) = some f.content ∧
        ∀ q, q ≠ temp (pathParts p) →
          (q ∈ (done.map pathParts).map temp → q ∉ (p :: rest).map pathParts) →
            contents t q = job.swapped done q
  | .restarting | .probing | .declaring | .flagging | .killing | .recording =>
      contents t = job.newContents
  | .cleaning | .rollingBack _ | .exited => False

theorem progress_next {t : LiveTree β} {done rest : List Text}
    (split : job.manifest.paths = done ++ rest) (after : AfterSwap job t done rest) :
    Progress job t (.next rest) := by
  cases rest with
  | nil =>
      rw [List.append_nil] at split
      rw [← split] at after
      exact funext fun q => after q fun _ => List.not_mem_nil
  | cons p rest => exact ⟨done, split, after⟩

theorem Progress.old_or_new {t : LiveTree β} {point : ScriptPoint β}
    (progress : Progress job t point) (steady : point.steady) (q : Path)
    (apart : q ∉ job.manifest.targets ∨ q ∉ job.manifest.targets.map temp) :
    contents t q = contents job.start q ∨
      q ∈ job.manifest.targets ∧ contents t q = contents job.staged q := by
  cases point with
  | sleeping => exact AfterSwap.old_or_new (List.nil_append _).symm progress apart
  | copying p rest =>
      obtain ⟨done, split, after⟩ := progress
      exact after.old_or_new split apart
  | restarting | probing | declaring | flagging | killing =>
      have whole : AfterSwap job t job.manifest.paths [] := fun q _ => congrFun progress q
      exact whole.old_or_new (List.append_nil _).symm apart
  | replacing | recording | cleaning | rollingBack | exited => cases steady

/-- What the rest of a rollback makes of the tree. -/
def Restores (job : Job β δ) (t : LiveTree β) : RestorePoint β → Prop
  | .restoring ops => contents (ops.foldl RestoreOp.apply t) = contents job.start
  | .restartingOld | .probingOld => contents t = contents job.start

theorem restore_step_cases {s : Bootstrap β} {r : RestorePoint β} (healthy : Bool)
    (restores : Restores job s.live r) :
    (∃ live r', r.step s healthy = ({ s with live }, some r') ∧ Restores job live r') ∨
      r.step s healthy = ({ s with record := some (.failed healthy) }, none) ∧
        contents s.live = contents job.start := by
  cases r with
  | restoring ops =>
      cases ops with
      | nil => exact Or.inl ⟨s.live, .restartingOld, rfl, restores⟩
      | cons op ops => exact Or.inl ⟨op.apply s.live, .restoring ops, rfl, restores⟩
  | restartingOld => exact Or.inl ⟨s.live, .probingOld, rfl, restores⟩
  | probingOld => exact Or.inr ⟨rfl, restores⟩

/-! ## The phases of a run -/

/-- How far a calm run has come. -/
inductive ScriptPhase (job : Job β δ) (s : Bootstrap β) : Prop where
  | updating (idle : s.watchdog.idle) (unbegun : s.rollbacks = 0) (unrecorded : s.record = none)
      (progress : Progress job s.live s.main)
  /-- The EXIT trap rolls back. -/
  | trapped (r : RestorePoint β) (main : s.main = .rollingBack r) (idle : s.watchdog.idle)
      (begun : s.rollbacks = 1) (unrecorded : s.record = none) (restores : Restores job s.live r)
  /-- The watchdog rolls back. -/
  | forced (r : RestorePoint β) (watchdog : s.watchdog = .rollingBack r) (steady : s.main.steady)
      (begun : s.rollbacks = 1) (unrecorded : s.record = none) (restores : Restores job s.live r)
  /-- The watchdog has rolled back. -/
  | tearing (healthy : Bool) (watchdog : s.watchdog = .killing) (steady : s.main.steady)
      (begun : s.rollbacks = 1) (recorded : s.record = some (.failed healthy))
      (old : contents s.live = contents job.start)
  | closing (main : s.main = .cleaning ∨ s.main = .exited) (idle : s.watchdog.idle)
      (once : s.rollbacks ≤ 1) (success : s.record = some .success →
        contents s.live = job.newContents)
      (failed : ∀ healthy, s.record = some (.failed healthy) → contents s.live = contents job.start)

structure Sound (job : Job β δ) (s : Bootstrap β) : Prop where
  settled : s.late = false
  unorphaned : s.orphan = []
  phase : ScriptPhase job s

theorem phase_failExit {s : Bootstrap β} (plain : job.Plain) (idle : s.watchdog.idle)
    (unbegun : s.rollbacks = 0) (unrecorded : s.record = none) (steady : s.main.steady)
    (progress : Progress job s.live s.main) : ScriptPhase job (s.failExit job) :=
  .trapped (.restoring (restoreOps job.enc job.backup)) rfl idle (congrArg (· + 1) unbegun)
    unrecorded (rollback_restores plain (progress.old_or_new steady))

/-- A step of the main flow while the update goes on. -/
theorem phase_mainStep {s s' : Bootstrap β} {ok : Bool} {torn : Option (File β)}
    (plain : job.Plain) (calm : Calm s (.main ok torn)) (idle : s.watchdog.idle)
    (unbegun : s.rollbacks = 0) (unrecorded : s.record = none)
    (progress : Progress job s.live s.main) (h : s.mainStep job ok torn = some s') :
    ScriptPhase job s' := by
  obtain ⟨-, failing⟩ := calm
  have failed (steady : s.main.steady) :=
    phase_failExit plain idle unbegun unrecorded steady progress
  cases main : s.main with
  | sleeping =>
      rw [main] at progress
      simp only [Bootstrap.mainStep, main, Option.some.injEq] at h
      subst h
      exact .updating idle unbegun unrecorded (progress_next (List.nil_append _).symm progress)
  | copying p rest =>
      simp only [Bootstrap.mainStep, main] at h
      cases ok with
      | true =>
          rw [main] at progress
          obtain ⟨done, split, after⟩ := progress
          obtain ⟨f, source, rfl⟩ := Option.map_eq_some_iff.mp h
          rw [plain.copy_eq (target_of_split split)]
          refine .updating idle unbegun unrecorded
            ⟨done, f, split, staged_of_source source, ?_, fun q apart clear => ?_⟩
          · rw [contents_write, write_same]
          · rw [contents_write, write_of_ne _ _ apart, after q clear]
      | false =>
          obtain ⟨rfl, rfl⟩ : rest = [] ∧ torn = none := by
            simpa [main, ScriptPoint.failsCleanly] using failing
          cases h
          exact failed (by rw [main]; rfl)
  | replacing p rest =>
      simp only [Bootstrap.mainStep, main] at h
      cases ok with
      | true =>
          rw [main] at progress
          obtain ⟨done, f, split, found, copied, before⟩ := progress
          obtain ⟨live, moved, rfl⟩ := Option.map_eq_some_iff.mp h
          rw [plain.move_eq (target_of_split split)] at moved
          have split' : job.manifest.paths = (done ++ [p]) ++ rest := by
            rw [split, List.append_assoc, List.singleton_append]
          have after := afterSwap_renamed plain split found copied before moved
          exact .updating idle unbegun unrecorded (progress_next split' after)
      | false =>
          rw [main] at failing
          cases failing rfl
  | restarting | probing =>
      simp only [Bootstrap.mainStep, main, Option.some.injEq] at h
      cases ok with
      | true =>
          rw [main] at progress
          subst h
          exact .updating idle unbegun unrecorded progress
      | false =>
          subst h
          exact failed (by rw [main]; rfl)
  | declaring | flagging =>
      rw [main] at progress
      simp only [Bootstrap.mainStep, main, Option.some.injEq] at h
      subst h
      exact .updating idle unbegun unrecorded progress
  | killing =>
      rw [main] at progress
      simp only [Bootstrap.mainStep, main, Option.some.injEq] at h
      subst h
      exact .updating rfl unbegun unrecorded progress
  | recording =>
      rw [main] at progress
      simp only [Bootstrap.mainStep, main, Option.some.injEq] at h
      subst h
      refine .closing (Or.inl rfl) idle (unbegun.trans_le (Nat.zero_le 1)) (fun _ => progress) ?_
      intro healthy recorded
      cases ok with
      | true => cases recorded
      | false =>
          rw [unrecorded] at recorded
          cases recorded
  | cleaning | rollingBack | exited =>
      rw [main] at progress
      exact progress.elim

/-- The step of a rollback, in the EXIT trap. -/
theorem phase_trapStep {s s' : Bootstrap β} {ok : Bool} {torn : Option (File β)}
    {r : RestorePoint β} (main : s.main = .rollingBack r) (idle : s.watchdog.idle)
    (begun : s.rollbacks = 1) (unrecorded : s.record = none) (restores : Restores job s.live r)
    (h : s.mainStep job ok torn = some s') : ScriptPhase job s' := by
  simp only [Bootstrap.mainStep, main, Option.some.injEq] at h
  subst h
  rcases restore_step_cases ok restores with ⟨live, r', step, restores'⟩ | ⟨step, old⟩
  · rw [step]
    exact .trapped r' rfl idle begun unrecorded restores'
  · rw [step]
    exact .closing (Or.inr rfl) idle begun.le nofun (fun _ _ => old)

/-- A harmless step of the main flow moves on and leaves the rest alone. -/
theorem harmless_mainStep {s s' : Bootstrap β} {ok : Bool} {torn : Option (File β)}
    (harmless : s.main.harmless ok) (h : s.mainStep job ok torn = some s') :
    s'.main.steady ∧ s'.watchdog = s.watchdog ∧ s'.rollbacks = s.rollbacks ∧
      s'.record = s.record ∧ s'.live = s.live := by
  cases main : s.main with
  | sleeping =>
      simp only [Bootstrap.mainStep, main, Option.some.injEq] at h
      subst h
      refine ⟨?_, rfl, rfl, rfl, rfl⟩
      cases job.manifest.paths <;> rfl
  | restarting | probing =>
      rw [main] at harmless
      cases ok with
      | true =>
          simp only [Bootstrap.mainStep, main, Option.some.injEq] at h
          subst h
          exact ⟨rfl, rfl, rfl, rfl, rfl⟩
      | false => cases harmless
  | declaring | flagging =>
      simp only [Bootstrap.mainStep, main, Option.some.injEq] at h
      subst h
      exact ⟨rfl, rfl, rfl, rfl, rfl⟩
  | copying | replacing | killing | recording | cleaning | rollingBack | exited =>
      rw [main] at harmless
      cases harmless

theorem phase_step_main {s s' : Bootstrap β} {ok : Bool} {torn : Option (File β)}
    (plain : job.Plain) (calm : Calm s (.main ok torn)) (phase : ScriptPhase job s)
    (h : s.mainStep job ok torn = some s') : ScriptPhase job s' := by
  cases phase with
  | updating idle unbegun unrecorded progress =>
      exact phase_mainStep plain calm idle unbegun unrecorded progress h
  | trapped r main idle begun unrecorded restores =>
      exact phase_trapStep main idle begun unrecorded restores h
  | forced r watchdog steady begun unrecorded restores =>
      have harmless : s.main.harmless ok := by simpa [watchdog, WatchdogPoint.idle] using calm.1
      obtain ⟨steady', sameWatchdog, sameCount, sameRecord, sameLive⟩ :=
        harmless_mainStep harmless h
      refine .forced r (sameWatchdog.trans watchdog) steady' (sameCount.trans begun)
        (sameRecord.trans unrecorded) ?_
      rw [sameLive]
      exact restores
  | tearing healthy watchdog steady begun recorded old =>
      have harmless : s.main.harmless ok := by simpa [watchdog, WatchdogPoint.idle] using calm.1
      obtain ⟨steady', sameWatchdog, sameCount, sameRecord, sameLive⟩ :=
        harmless_mainStep harmless h
      refine .tearing healthy (sameWatchdog.trans watchdog) steady' (sameCount.trans begun)
        (sameRecord.trans recorded) ?_
      rw [sameLive]
      exact old
  | closing main idle once success failed =>
      rcases main with main | main
      · simp only [Bootstrap.mainStep, main, Option.some.injEq] at h
        subst h
        exact .closing (Or.inr rfl) idle once success failed
      · simp only [Bootstrap.mainStep, main] at h
        cases h

/-- The watchdog's time runs out. -/
theorem phase_alarm {s s' : Bootstrap β} {healthy : Bool} (plain : job.Plain)
    (calm : Calm s (.watchdog healthy)) (phase : ScriptPhase job s)
    (sleeping : s.watchdog = .sleeping)
    (h : s.watchdogStep job healthy = some s') : ScriptPhase job s' := by
  simp only [Bootstrap.watchdogStep, sleeping, Option.some.injEq] at h
  by_cases flag : s.flag
  · rw [if_pos flag] at h
    subst h
    cases phase with
    | updating idle unbegun unrecorded progress => exact .updating rfl unbegun unrecorded progress
    | trapped r main idle begun unrecorded restores =>
        exact .trapped r main rfl begun unrecorded restores
    | forced r watchdog => rw [sleeping] at watchdog; cases watchdog
    | tearing healthy watchdog => rw [sleeping] at watchdog; cases watchdog
    | closing main idle once success failed => exact .closing main rfl once success failed
  · rw [if_neg flag] at h
    subst h
    have steady : s.main.steady :=
      calm (by rw [sleeping]; rfl) (Bool.eq_false_of_not_eq_true flag)
    cases phase with
    | updating idle unbegun unrecorded progress =>
        exact .forced (.restoring (restoreOps job.enc job.backup)) rfl steady
          (congrArg (· + 1) unbegun) unrecorded
          (rollback_restores plain (progress.old_or_new steady))
    | trapped r main => rw [main] at steady; cases steady
    | forced r watchdog => rw [sleeping] at watchdog; cases watchdog
    | tearing healthy watchdog => rw [sleeping] at watchdog; cases watchdog
    | closing main =>
        rcases main with main | main
        all_goals
          rw [main] at steady
          cases steady

theorem phase_watchdogStep {s s' : Bootstrap β} {healthy : Bool} (plain : job.Plain)
    (calm : Calm s (.watchdog healthy)) (phase : ScriptPhase job s)
    (h : s.watchdogStep job healthy = some s') : ScriptPhase job s' := by
  cases watchdog : s.watchdog with
  | sleeping => exact phase_alarm plain calm phase watchdog h
  | rollingBack r =>
      simp only [Bootstrap.watchdogStep, watchdog, Option.some.injEq] at h
      subst h
      cases phase with
      | forced r' same steady begun unrecorded restores =>
          rw [watchdog] at same
          cases same
          rcases restore_step_cases healthy restores with ⟨live, r', step, restores'⟩ | ⟨step, old⟩
          · rw [step]
            exact .forced r' rfl steady begun unrecorded restores'
          · rw [step]
            exact .tearing healthy rfl steady begun rfl old
      | updating idle | trapped _ _ idle | closing _ idle =>
          rw [watchdog] at idle
          cases idle
      | tearing _ other =>
          rw [watchdog] at other
          cases other
  | killing =>
      simp only [Bootstrap.watchdogStep, watchdog, Option.some.injEq] at h
      subst h
      cases phase with
      | tearing healthy' _ steady begun recorded old =>
          refine .closing (Or.inr rfl) rfl begun.le (fun success => ?_) (fun _ _ => old)
          rw [recorded] at success
          cases success
      | updating idle | trapped _ _ idle | closing _ idle =>
          rw [watchdog] at idle
          cases idle
      | forced _ other =>
          rw [watchdog] at other
          cases other
  | gone =>
      simp only [Bootstrap.watchdogStep, watchdog] at h
      cases h

/-- While the watchdog rolls back the main flow has not exited. -/
theorem ScriptPhase.not_exited {s : Bootstrap β} {r : RestorePoint β} (phase : ScriptPhase job s)
    (watchdog : s.watchdog = .rollingBack r) : s.main.isExited = false := by
  cases phase with
  | forced _ _ steady =>
      cases main : s.main with
      | exited =>
          rw [main] at steady
          cases steady
      | _ => rfl
  | updating idle | trapped _ _ idle | closing _ idle =>
      rw [watchdog] at idle
      cases idle
  | tearing _ other =>
      rw [watchdog] at other
      cases other

theorem chainFailed_frame (s : Bootstrap β) (rest : List Text) :
    (s.chainFailed job rest).orphan = s.orphan ∧ (s.chainFailed job rest).late = s.late := by
  cases rest <;> exact ⟨rfl, rfl⟩

theorem restore_step_frame (s : Bootstrap β) (r : RestorePoint β) (healthy : Bool) :
    (r.step s healthy).1.orphan = s.orphan ∧ (r.step s healthy).1.late = s.late := by
  cases r using RestorePoint.step.fun_cases <;> exact ⟨rfl, rfl⟩

/-- The main flow kills the watchdog only while it sleeps, so no command of it is left running. -/
theorem unorphaned_mainStep {s s' : Bootstrap β} {ok : Bool} {torn : Option (File β)}
    (calm : Calm s (.main ok torn)) (unorphaned : s.orphan = [])
    (h : s.mainStep job ok torn = some s') : s'.orphan = [] ∧ s'.late = s.late := by
  rw [← unorphaned]
  cases main : s.main with
  | sleeping | declaring | flagging | recording | cleaning =>
      simp only [Bootstrap.mainStep, main, Option.some.injEq] at h
      subst h
      exact ⟨rfl, rfl⟩
  | copying p rest =>
      simp only [Bootstrap.mainStep, main] at h
      cases ok with
      | true =>
          obtain ⟨f, -, rfl⟩ := Option.map_eq_some_iff.mp h
          exact ⟨rfl, rfl⟩
      | false =>
          cases h
          exact chainFailed_frame _ rest
  | replacing p rest =>
      simp only [Bootstrap.mainStep, main] at h
      cases ok with
      | true =>
          obtain ⟨live, -, rfl⟩ := Option.map_eq_some_iff.mp h
          exact ⟨rfl, rfl⟩
      | false =>
          cases h
          exact chainFailed_frame s rest
  | restarting | probing =>
      simp only [Bootstrap.mainStep, main, Option.some.injEq] at h
      subst h
      cases ok <;> exact ⟨rfl, rfl⟩
  | killing =>
      have idle : s.watchdog.idle := by simpa [main, ScriptPoint.harmless] using calm.1
      simp only [Bootstrap.mainStep, main, Option.some.injEq] at h
      subst h
      refine ⟨?_, rfl⟩
      cases watchdog : s.watchdog with
      | sleeping | gone => exact unorphaned.symm
      | rollingBack | killing =>
          rw [watchdog] at idle
          cases idle
  | rollingBack r =>
      simp only [Bootstrap.mainStep, main, Option.some.injEq] at h
      subst h
      exact restore_step_frame s r ok
  | exited =>
      simp only [Bootstrap.mainStep, main] at h
      cases h

/-- The watchdog acts only while the main flow has not exited. -/
theorem settled_watchdogStep {s s' : Bootstrap β} {healthy : Bool} (phase : ScriptPhase job s)
    (unorphaned : s.orphan = []) (h : s.watchdogStep job healthy = some s') :
    s'.orphan = [] ∧ s'.late = s.late := by
  rw [← unorphaned]
  cases watchdog : s.watchdog with
  | sleeping =>
      simp only [Bootstrap.watchdogStep, watchdog, Option.some.injEq] at h
      subst h
      by_cases flag : s.flag
      · rw [if_pos flag]
        exact ⟨rfl, rfl⟩
      · rw [if_neg flag]
        exact ⟨rfl, rfl⟩
  | rollingBack r =>
      obtain ⟨sameOrphan, sameLate⟩ := restore_step_frame s r healthy
      simp only [Bootstrap.watchdogStep, watchdog, Option.some.injEq] at h
      subst h
      refine ⟨sameOrphan, ?_⟩
      have inside : (r.step s healthy).1.main = s.main := by
        cases r using RestorePoint.step.fun_cases <;> rfl
      rw [sameLate, inside, phase.not_exited watchdog, Bool.false_and, Bool.or_false]
  | killing =>
      simp only [Bootstrap.watchdogStep, watchdog, Option.some.injEq] at h
      subst h
      exact ⟨unorphaned.symm, rfl⟩
  | gone =>
      simp only [Bootstrap.watchdogStep, watchdog] at h
      cases h

theorem sound_step {s s' : Bootstrap β} {op : BootstrapOp β} (plain : job.Plain)
    (sound : Sound job s) (calm : Calm s op) (h : s.step job op = some s') : Sound job s' := by
  obtain ⟨settled, unorphaned, phase⟩ := sound
  cases op with
  | main ok torn =>
      obtain ⟨unorphaned', sameLate⟩ := unorphaned_mainStep calm unorphaned h
      exact ⟨sameLate.trans settled, unorphaned', phase_step_main plain calm phase h⟩
  | watchdog healthy =>
      obtain ⟨unorphaned', sameLate⟩ := settled_watchdogStep phase unorphaned h
      exact ⟨sameLate.trans settled, unorphaned', phase_watchdogStep plain calm phase h⟩
  | orphan =>
      simp only [Bootstrap.step, unorphaned] at h
      cases h

theorem Sound.final {s : Bootstrap β} (sound : Sound job s) : Final job s := by
  obtain ⟨settled, -, phase⟩ := sound
  cases phase with
  | updating _ unbegun unrecorded =>
      refine ⟨settled, unbegun.trans_le (Nat.zero_le 1), fun success => ?_, fun _ failed => ?_⟩
      · rw [unrecorded] at success
        cases success
      · rw [unrecorded] at failed
        cases failed
  | trapped _ _ _ begun unrecorded | forced _ _ _ begun unrecorded =>
      refine ⟨settled, begun.le, fun success => ?_, fun _ failed => ?_⟩
      · rw [unrecorded] at success
        cases success
      · rw [unrecorded] at failed
        cases failed
  | tearing _ _ _ begun recorded old =>
      refine ⟨settled, begun.le, fun success => ?_, fun _ _ => old⟩
      rw [recorded] at success
      cases success
  | closing _ _ once success failed => exact ⟨settled, once, success, failed⟩

/-- The script as it is started. -/
def Bootstrap.begin (job : Job β δ) : Bootstrap β := { live := job.start }

theorem sound_begin (job : Job β δ) : Sound job (Bootstrap.begin job) :=
  ⟨rfl, rfl, .updating rfl rfl rfl fun _ _ => rfl⟩

theorem run_restoring {s : Bootstrap β} {ops : List (RestoreOp β)}
    (watchdog : s.watchdog = .rollingBack (.restoring ops)) :
    ∃ s', run (Bootstrap.step job) s (List.replicate ops.length (.watchdog true)) = some s' ∧
      s'.live = ops.foldl RestoreOp.apply s.live ∧ s'.main = s.main ∧
      s'.watchdog = .rollingBack (.restoring []) := by
  induction ops generalizing s with
  | nil => exact ⟨s, rfl, rfl, rfl, watchdog⟩
  | cons op ops ih =>
      obtain ⟨m, first, live, main, next⟩ :
          ∃ m, s.step job (.watchdog true) = some m ∧ m.live = op.apply s.live ∧
            m.main = s.main ∧ m.watchdog = .rollingBack (.restoring ops) := by
        simp only [Bootstrap.step, Bootstrap.watchdogStep, watchdog]
        exact ⟨_, rfl, rfl, rfl, rfl⟩
      obtain ⟨s', ran, live', main', last⟩ := ih next
      refine ⟨s', run_cons_eq_some.mpr ⟨m, first, ran⟩, ?_, main'.trans main, last⟩
      rw [live', live, List.foldl_cons]

/-- A watchdog that outlives the main flow rolls back whatever tree it finds, also one that a later
update has left. -/
theorem watchdog_undoes {s : Bootstrap β} (exited : s.main = .exited)
    (sleeping : s.watchdog = .sleeping) (unset : s.flag = false) :
    ∃ ops s', run (Bootstrap.step job) s ops = some s' ∧
      s'.live = rollback job.enc job.backup {} s.live ∧ s'.late := by
  obtain ⟨alarmed, woke, live, main, begun⟩ :
      ∃ m, s.step job (.watchdog true) = some m ∧ m.live = s.live ∧ m.main = s.main ∧
        m.watchdog = .rollingBack (.restoring (restoreOps job.enc job.backup)) := by
    simp only [Bootstrap.step, Bootstrap.watchdogStep, sleeping, unset]
    exact ⟨_, rfl, rfl, rfl, rfl⟩
  obtain ⟨restored, ran, live', main', last⟩ := run_restoring begun
  obtain ⟨s', restarted, live'', late⟩ :
      ∃ s', run (Bootstrap.step job) restored [.watchdog true, .watchdog true] = some s' ∧
        s'.live = restored.live ∧ s'.late := by
    simp only [run_cons, run_nil, Bootstrap.step, Bootstrap.watchdogStep, last, Option.bind_some]
    refine ⟨_, rfl, rfl, ?_⟩
    simp [RestorePoint.step, main', main, exited, ScriptPoint.isExited, RestorePoint.acts]
  refine ⟨_, s', run_cons_eq_some.mpr ⟨alarmed, woke, run_append_eq_some.mpr ⟨restored, ran,
    restarted⟩⟩, ?_, late⟩
  rw [live'', live', live, foldl_restoreOps]

def smallJob : Job (List Text) (List Text) where
  enc := plainEncoding
  manifest := smallRelease
  start := smallTree
  staged := smallStaged
  dirs p := p = ["genpi".toList]

theorem smallJob_plain : smallJob.Plain where
  undisturbed := by decide
  named := by decide
  temps := by
    intro done p rest split _
    have apart : ∀ p ∈ smallRelease.targets,
        temp p ∉ smallRelease.targets ∧ smallTree (temp p) = none := by
      intro p target
      rcases List.mem_pair.mp target with rfl | rfl <;> decide
    have target : p ∈ smallJob.manifest.targets := by
      rw [split]
      exact List.mem_append_right _ List.mem_cons_self
    obtain ⟨fresh, absent⟩ := apart p target
    refine ⟨fun mem => fresh ?_, absent⟩
    have targets : smallRelease.targets = done ++ p :: rest := split
    rw [targets]
    exact List.mem_append_left _ mem
  listed target := absurd target (by decide)

/-- Both files are swapped, the new version does not answer, and the trap rolls back. -/
def trappedRun : List (BootstrapOp (List Text)) :=
  List.replicate 6 (.main true none) ++ .main false none :: List.replicate 5 (.main true none)

/-- A first file that is not copied does not keep the script from recording a success. -/
theorem success_of_mixedTree :
    ∃ ops s, run (Bootstrap.step smallJob) (.begin smallJob) ops = some s ∧
      s.record = some .success ∧ contents s.live appFile = some ["old".toList] ∧
      ¬ Final smallJob s := by
  have seen : (run (Bootstrap.step smallJob) (.begin smallJob)
      (.main true none :: .main false none :: List.replicate 9 (.main true none))).any
        fun s => s.record = some .success ∧ contents s.live appFile = some ["old".toList] := by
    decide
  obtain ⟨s, ran, shown⟩ := (Option.any_eq_true _ _).mp seen
  obtain ⟨recorded, kept⟩ := of_decide_eq_true shown
  refine ⟨_, s, ran, recorded, kept, fun final => ?_⟩
  rw [final.success recorded] at kept
  exact absurd kept (by decide)

end GeneratorPi
