import GeneratorPi.Gate
import GeneratorPi.Lib.Trace
import GeneratorPi.Swap

/-!
# A run of the updater

`_run_update` (`genpi/updater.py`) step by step on the live tree: the checks of stage 1, the
download into `.update_staging`, the backup into `backups`, the go/no-go prompt, and stage 2, which
hands over to the bootstrap script or swaps in process.  Every step may raise, and the run then
parks on the error handler's prompt.

Wherever the run is parked the tree outside those two directories is the one it started from, unless
an in-process swap was begun: then proceed is refused, only the manifest's files and their
temporaries may differ, and the rollback comes next (`parked_of_run`).
-/

namespace GeneratorPi

open PyText FileTree Trace

/-! ## Places in the tree -/

/-- `_UPDATE_STAGING`. -/
def stagingDir : Path := [".update_staging".toList]

/-- `_BACKUP_DIR`. -/
def backupDir : Path := ["backups".toList]

/-- The staging and the backups directory. -/
def reserved : Set Path := {p | stagingDir <+: p ∨ backupDir <+: p}

/-- The live files of the manifest and their temporaries. -/
def swapRange (m : Manifest) : Set Path := {p | p ∈ m.targets ∨ p ∈ m.targets.map temp}

theorem staging_mem_reserved (p : Path) : stagingDir ++ p ∈ reserved :=
  Or.inl (List.prefix_append _ _)

theorem backup_mem_reserved (p : Path) : backupDir ++ p ∈ reserved :=
  Or.inr (List.prefix_append _ _)

variable {β : Type}

/-- The staged files, by their paths below the staging directory. -/
def stagedTree (t : LiveTree β) : LiveTree β := fun p => t (stagingDir ++ p)

/-- `shutil.rmtree(dir, ignore_errors=True)`, which may leave files it is stuck on. -/
def rmtree (t : LiveTree β) (dir : Path) (stuck : Path → Bool) : LiveTree β := fun p =>
  if dir.isPrefixOf p && !stuck p then none else t p

theorem agreeOff_rmtree {t u : LiveTree β} (h : AgreeOff reserved t u) (stuck : Path → Bool) :
    AgreeOff reserved t (rmtree u stagingDir stuck) := by
  intro p off
  have outside : stagingDir.isPrefixOf p = false := by
    rw [Bool.eq_false_iff, ne_eq, List.isPrefixOf_iff_prefix]
    exact fun inside => off (Or.inl inside)
  rw [rmtree, outside, Bool.false_and, if_neg Bool.false_ne_true]
  exact h p off

/-! ## Stages -/

/-- What the manifest says, before it is validated. -/
structure Release where
  version : Text
  incompatible : Incompatible Text
  files : List ManifestFile

/-- How far the swap of the file in hand has come. -/
inductive SwapStep where
  | copy
  | chmod
  | replace
  deriving DecidableEq

inductive Stage (β : Type) where
  | contacting
  | validating (r : Release)
  | gate
  | checkingSystem (m : Manifest)
  | checkingDependencies (m : Manifest)
  | clearing (m : Manifest)
  | downloading (m : Manifest) (rest : List Path)
  | verifying (m : Manifest)
  | compiling (m : Manifest) (rest : List Path)
  | backingUp (m : Manifest)
  | pruning (m : Manifest) (backup : Archive β)
  | staged (m : Manifest) (backup : Archive β)
  | seedingLog
  | launching
  | swapping (m : Manifest) (backup : Archive β) (rest : List Path) (at_ : SwapStep)
  | verifyingSwap (m : Manifest) (backup : Archive β)
  | recording (m : Manifest) (backup : Archive β)
  | restarting (m : Manifest) (backup : Archive β)
  /-- The error handler's prompt, with what the handler will roll back. -/
  | failed (cause : String) (armed : Option (Manifest × Archive β))
  | rollingBack (backup : Archive β)
  | discarding
  | finished

/-- `swapped and zpath is not None`, with the manifest being swapped. -/
def Stage.armed : Stage β → Option (Manifest × Archive β)
  | .swapping m a _ _ | .verifyingSwap m a | .recording m a | .restarting m a => some (m, a)
  | .failed _ armed => armed
  | _ => none

/-- The archive in hand. -/
def Stage.backup : Stage β → Option (Manifest × Archive β)
  | .pruning m a | .staged m a => some (m, a)
  | s => s.armed

/-- The run has left its last prompt. -/
def Stage.Over : Stage β → Prop
  | .rollingBack _ | .discarding | .finished => True
  | _ => False

/-- The stage may raise into the error handler. -/
def Stage.raises : Stage β → Bool
  | .gate | .staged _ _ | .recording _ _ | .failed _ _ => false
  | .rollingBack _ | .discarding | .finished => false
  | _ => true

/-- What a run is given. -/
structure RunConfig (β : Type) where
  enc : Encoding β Text
  installed : Text
  /-- `_service_skip_reason()` is `None`. -/
  systemd : Bool
  backupName : Text
  /-- The name of the byte code file of a module file. -/
  cacheName : Text → Text
  /-- What goes wrong in the rollback, if there is one. -/
  mishaps : Mishaps β := {}

structure RunState (β : Type) where
  stage : Stage β := .contacting
  version : Text := []
  live : LiveTree β

/-- `__pycache__` next to a staged module. -/
def cachePath (cfg : RunConfig β) (p : Path) : Path :=
  stagingDir ++ (p.dropLast ++ ["__pycache__".toList, cfg.cacheName (p.getLastD [])])

/-- The file that the step in hand writes. -/
def Stage.writing (cfg : RunConfig β) : Stage β → Option Path
  | .checkingSystem _ => some (backupDir ++ [".write_probe".toList])
  | .downloading _ (p :: _) => some (stagingDir ++ p)
  | .compiling _ (p :: _) => some (cachePath cfg p)
  | .backingUp _ => some (backupDir ++ [cfg.backupName])
  | .seedingLog => some (backupDir ++ ["last_update.log".toList])
  | .swapping _ _ (p :: _) .copy => some (temp p)
  | .recording _ _ => some (backupDir ++ ["last_update.json".toList])
  | _ => none

/-- The prompt the run is parked on. -/
def RunState.prompt? (s : RunState β) : Option Prompt :=
  match s.stage with
  | .gate => some (gatePrompt s.version)
  | .staged _ _ => some
      { message := "Ready to apply v" ++ String.ofList s.version ++ "."
        allowProceed := true
        proceedLabel := "UPDATE" }
  | .failed cause _ => some (failedPrompt cause)
  | _ => none

/-! ## Steps -/

inductive RunEvent (β : Type) where
  | fetched (r : Release)
  /-- The step in hand succeeds. -/
  | ok
  /-- It succeeds, having written its file. -/
  | wrote (f : File β)
  | cleared (stuck : Path → Bool)
  | pruned (names : List Text)
  /-- It raises, perhaps with a torn file. -/
  | raised (cause : String) (torn : Option (File β))
  | decided (choice : Choice)

def RunState.fail (s : RunState β) (cause : String) : RunState β :=
  { s with stage := .failed cause s.stage.armed }

/-- Every file of the manifest has the hash it lists. -/
def hashesMatch (cfg : RunConfig β) (m : Manifest) (t : LiveTree β) : Bool :=
  m.files.all fun f => (t (pathParts f.path)).any fun file => cfg.enc.sha256 file.content = f.sha256

def pyTargets (m : Manifest) : List Path :=
  (m.paths.filter (".py".toList.isSuffixOf ·)).map pathParts

/-- `[VALIDATING RELEASE]` and the CLI-only gate. -/
def RunState.validate (cfg : RunConfig β) (s : RunState β) (r : Release) : RunState β :=
  if valid : validateManifestPaths r.files = none then
    if ¬ validVersion (releaseVersion r.version) then s.fail "unsafe manifest version"
    else if blocking cfg.installed (releaseVersion r.version) r.incompatible ≠ [] then
      { s with stage := .gate, version := releaseVersion r.version }
    else
      { s with
        stage := .checkingSystem ⟨r.files, valid⟩
        version := releaseVersion r.version }
  else s.fail "unsafe manifest path"

/-- One step of the swap of the file in hand. -/
def swapStep (t : LiveTree β) (p : Path) : SwapStep → Option (LiveTree β)
  | .copy => copyTemp (stagedTree t) t p
  | .chmod => some (chmodTemp t p)
  | .replace => replaceLive t p

/-- What follows a step of the swap. -/
def afterSwapStep (m : Manifest) (a : Archive β) (p : Path) (rest : List Path) :
    SwapStep → Stage β
  | .copy => .swapping m a (p :: rest) .chmod
  | .chmod => .swapping m a (p :: rest) .replace
  | .replace => .swapping m a rest .copy

/-- Steps that write no file of their own, or only in the swap's range. -/
def RunState.ok (cfg : RunConfig β) (s : RunState β) : Option (RunState β) :=
  match s.stage with
  | .validating r => some (s.validate cfg r)
  | .checkingSystem m => some
      { s with
        stage := .checkingDependencies m
        live := unlink s.live (backupDir ++ [".write_probe".toList]) }
  | .checkingDependencies m => some
      (if m.files = [] then s.fail "manifest lists no files" else { s with stage := .clearing m })
  | .downloading m [] => some { s with stage := .verifying m }
  | .verifying m => some
      (if hashesMatch cfg m (stagedTree s.live) then { s with stage := .compiling m (pyTargets m) }
      else s.fail "hash mismatch")
  | .compiling m [] => some { s with stage := .backingUp m }
  -- The log and the result marker are best effort.
  | .seedingLog => some { s with stage := .launching }
  | .recording m a => some { s with stage := .restarting m a }
  | .launching => some { s with stage := .finished }
  | .swapping m a [] _ => some { s with stage := .verifyingSwap m a }
  | .swapping m a (p :: rest) at_ => some
      (match swapStep s.live p at_ with
      | some live => { s with stage := afterSwapStep m a p rest at_, live }
      | none => s.fail "swap failed")
  | .verifyingSwap m a => some
      (if hashesMatch cfg m s.live then { s with stage := .recording m a }
      else s.fail "post-swap hash mismatch")
  | .restarting _ _ => some { s with stage := .finished }
  | .rollingBack a => some
      { s with stage := .discarding, live := rollback cfg.enc a cfg.mishaps s.live }
  | _ => none

/-- What follows once the stage has written its file. -/
def Stage.afterWrite (cfg : RunConfig β) (live : LiveTree β) : Stage β → Option (Stage β)
  | .downloading m (_ :: rest) => some (.downloading m rest)
  | .compiling m (_ :: rest) => some (.compiling m rest)
  | .backingUp m =>
      match snapshot cfg.enc live m.paths with
      | some a => some (.pruning m a)
      | none => some (.failed "backup archive failed integrity check" none)
  | .seedingLog => some .launching
  | .recording m a => some (.restarting m a)
  | _ => none

/-- What follows a decision. -/
def Stage.decide (systemd : Bool) (choice : Choice) : Stage β → Option (Stage β)
  | .gate => some .finished
  | .staged m a =>
      match choice with
      | .revert => some .discarding
      | .proceed => some (if systemd then .seedingLog else .swapping m a m.targets .copy)
  | .failed _ (some (_, a)) => some (.rollingBack a)
  | .failed _ none => some .discarding
  | _ => none

/-- The file the step in hand was writing when it raised. -/
def RunState.tear (cfg : RunConfig β) (s : RunState β) (torn : Option (File β)) : LiveTree β :=
  match s.stage.writing cfg, torn with
  | some p, some f => write s.live p f
  | _, _ => s.live

def RunState.step (cfg : RunConfig β) (s : RunState β) : RunEvent β → Option (RunState β)
  | .fetched r =>
      match s.stage with
      | .contacting => some { s with stage := .validating r }
      | _ => none
  | .ok => s.ok cfg
  | .wrote f =>
      (s.stage.afterWrite cfg s.live).bind fun stage =>
        (s.stage.writing cfg).map fun p => { s with stage, live := write s.live p f }
  | .cleared stuck =>
      match s.stage with
      | .clearing m => some
          { s with stage := .downloading m m.targets, live := rmtree s.live stagingDir stuck }
      | .discarding => some
          { s with stage := .finished, live := rmtree s.live stagingDir stuck }
      | _ => none
  | .pruned names =>
      match s.stage with
      | .pruning m a => some
          { s with
            stage := .staged m a
            live := unlinkAll s.live (names.map fun name => backupDir ++ [name]) }
      | _ => none
  | .raised cause torn =>
      if s.stage.raises then some { s with live := s.tear cfg torn, stage := (s.fail cause).stage }
      else none
  | .decided choice => (s.stage.decide cfg.systemd choice).map fun stage => { s with stage }

/-! ## Where the tree may differ -/

/-- The archive was taken of the tree the run started from, but for the two directories. -/
def TakenFrom (cfg : RunConfig β) (start : LiveTree β) (m : Manifest) (a : Archive β) : Prop :=
  ∃ t, AgreeOff reserved start t ∧ snapshot cfg.enc t m.paths = some a

structure RunInvariant (cfg : RunConfig β) (start : LiveTree β) (s : RunState β) : Prop where
  untouched : s.stage.armed = none → ¬ s.stage.Over → AgreeOff reserved start s.live
  confined : ∀ m a, s.stage.armed = some (m, a) →
    AgreeOff (reserved ∪ swapRange m) start s.live
  taken : ∀ m a, s.stage.backup = some (m, a) → TakenFrom cfg start m a
  remaining : ∀ m a rest at_, s.stage = .swapping m a rest at_ → ∀ p ∈ rest, p ∈ m.targets

variable {cfg : RunConfig β} {start : LiveTree β} {s s' : RunState β}

theorem RunInvariant.initial (cfg : RunConfig β) (start : LiveTree β) :
    RunInvariant cfg start { live := start } where
  untouched _ _ := AgreeOff.refl _ _
  confined _ _ h := nomatch h
  taken _ _ h := nomatch h
  remaining _ _ _ _ h := nomatch h

theorem armed_of_backup_none {s : Stage β} (h : s.backup = none) : s.armed = none := by
  cases s <;> first | exact h | rfl

/-- A step to an unarmed stage that leaves the tree alone off the two directories. -/
theorem RunInvariant.of_unarmed {stage : Stage β} {live : LiveTree β} {version : Text}
    (kept : AgreeOff reserved start live) (none : stage.backup = none) :
    RunInvariant cfg start { stage, version, live } where
  untouched _ _ := kept
  confined _ _ h := by
    rw [armed_of_backup_none none] at h
    cases h
  taken _ _ h := by
    rw [none] at h
    cases h
  remaining _ _ _ _ h := by
    have isSwap : stage = _ := h
    rw [isSwap] at none
    cases none

/-- A step to an unarmed stage with the archive in hand. -/
theorem RunInvariant.of_backup {stage : Stage β} {live : LiveTree β} {version : Text}
    {m : Manifest} {a : Archive β} (kept : AgreeOff reserved start live)
    (taken : TakenFrom cfg start m a) (unarmed : stage.armed = none)
    (backup : stage.backup = some (m, a)) :
    RunInvariant cfg start { stage, version, live } where
  untouched _ _ := kept
  confined _ _ h := by
    rw [unarmed] at h
    cases h
  taken _ _ h := by
    rw [backup] at h
    cases h
    exact taken
  remaining _ _ _ _ h := by
    have isSwap : stage = _ := h
    rw [isSwap] at unarmed
    cases unarmed

theorem RunInvariant.of_armed {stage : Stage β} {live : LiveTree β} {version : Text}
    {m : Manifest} {a : Archive β} (armed : stage.armed = some (m, a))
    (kept : AgreeOff (reserved ∪ swapRange m) start live) (taken : TakenFrom cfg start m a)
    (remaining : ∀ rest at_, stage = .swapping m a rest at_ → ∀ p ∈ rest, p ∈ m.targets) :
    RunInvariant cfg start { stage, version, live } where
  untouched h := by
    rw [armed] at h
    cases h
  confined _ _ h := by
    rw [armed] at h
    cases h
    exact kept
  taken _ _ h := by
    have backup : stage.backup = stage.armed := by
      cases stage <;> first | rfl | cases armed
    rw [backup, armed] at h
    cases h
    exact taken
  remaining _ _ _ _ h := by
    have isSwap : stage = _ := h
    rw [isSwap] at armed
    cases armed
    exact remaining _ _ h

theorem backup_of_over {s : Stage β} (ended : s.Over) : s.backup = none := by
  cases s <;> first | exact ended.elim | rfl

theorem RunInvariant.of_over {stage : Stage β} (live : LiveTree β) (version : Text)
    (ended : stage.Over) : RunInvariant cfg start { stage, version, live } where
  untouched _ h := absurd ended h
  confined _ _ h := by
    rw [armed_of_backup_none (backup_of_over ended)] at h
    cases h
  taken _ _ h := by
    rw [backup_of_over ended] at h
    cases h
  remaining _ _ _ _ h := by
    have isSwap : stage = _ := h
    rw [isSwap] at ended
    cases ended

/-- The error handler's prompt is as good as the stage it came from. -/
theorem RunInvariant.fail (held : RunInvariant cfg start s) (cause : String)
    (open_ : ¬ s.stage.Over) : RunInvariant cfg start (s.fail cause) := by
  rw [RunState.fail]
  cases armed : s.stage.armed with
  | none => exact RunInvariant.of_unarmed (held.untouched armed open_) rfl
  | some pair =>
      obtain ⟨m, a⟩ := pair
      have backup : s.stage.backup = some (m, a) := by
        cases stage : s.stage <;> rw [stage] at armed <;> first | exact armed | cases armed
      exact RunInvariant.of_armed rfl (held.confined m a armed) (held.taken m a backup)
        fun _ _ h => nomatch h

/-! ### The steps keep to their places -/

theorem target_mem_range {m : Manifest} {p : Path} (h : p ∈ m.targets) :
    p ∈ reserved ∪ swapRange m := Or.inr (Or.inl h)

theorem temp_mem_range {m : Manifest} {p : Path} (h : p ∈ m.targets) :
    temp p ∈ reserved ∪ swapRange m := Or.inr (Or.inr (List.mem_map_of_mem h))

theorem agreeOff_swapStep {m : Manifest} {t u v : LiveTree β} {p : Path} {at_ : SwapStep}
    (h : AgreeOff (reserved ∪ swapRange m) t u) (target : p ∈ m.targets)
    (stepped : swapStep u p at_ = some v) : AgreeOff (reserved ∪ swapRange m) t v := by
  have temp_in := temp_mem_range target
  cases at_ with
  | copy =>
      obtain ⟨-, f, -, rfl⟩ := copyTemp_eq_some stepped
      exact h.write temp_in f
  | chmod =>
      rw [swapStep, Option.some.injEq, chmodTemp] at stepped
      rw [← stepped]
      split
      · exact h.write temp_in _
      · exact h
  | replace => exact h.rename temp_in (target_mem_range target) stepped

/-- A stage writes below the two directories, or a temporary of the swap. -/
theorem writing_range (held : RunInvariant cfg start s) {p : Path}
    (h : s.stage.writing cfg = some p) :
    p ∈ reserved ∨ ∃ m a, s.stage.armed = some (m, a) ∧ p ∈ reserved ∪ swapRange m := by
  cases stage : s.stage with
  | swapping m a rest at_ =>
      refine Or.inr ⟨m, a, rfl, ?_⟩
      rw [stage] at h
      match rest, at_, h with
      | q :: rest, .copy, rfl =>
          exact temp_mem_range (held.remaining _ _ _ _ stage q List.mem_cons_self)
  | downloading m rest =>
      rw [stage] at h
      match rest, h with
      | q :: rest, rfl => exact Or.inl (staging_mem_reserved q)
  | compiling m rest =>
      rw [stage] at h
      match rest, h with
      | q :: rest, rfl => exact Or.inl (staging_mem_reserved _)
  | checkingSystem m | backingUp m | seedingLog | recording m a =>
      rw [stage] at h
      cases h
      exact Or.inl (backup_mem_reserved _)
  | contacting | validating | gate | checkingDependencies | clearing | verifying | pruning
  | staged | launching | verifyingSwap | restarting | failed | rollingBack | discarding
  | finished =>
      rw [stage] at h
      cases h

theorem RunInvariant.tear (held : RunInvariant cfg start s) (raises : s.stage.raises)
    (cause : String) (torn : Option (File β)) :
    RunInvariant cfg start { s with live := s.tear cfg torn, stage := (s.fail cause).stage } := by
  have open_ : ¬ s.stage.Over := by
    cases stage : s.stage <;> rw [stage] at raises <;> first | exact id | cases raises
  have failed := held.fail cause open_
  cases writes : s.stage.writing cfg with
  | none =>
      simp only [RunState.tear, writes]
      exact failed
  | some p =>
      cases torn with
      | none =>
          simp only [RunState.tear, writes]
          exact failed
      | some f =>
          simp only [RunState.tear, writes]
          have inRange := writing_range held writes
          cases armed : s.stage.armed with
          | none =>
              have within : p ∈ reserved := inRange.resolve_right fun ⟨m, a, armed', _⟩ => by
                rw [armed] at armed'
                cases armed'
              have unbacked : (s.fail cause).stage.backup = none := armed
              exact RunInvariant.of_unarmed ((held.untouched armed open_).write within f) unbacked
          | some pair =>
              obtain ⟨m, a⟩ := pair
              have within : p ∈ reserved ∪ swapRange m := by
                rcases inRange with res | ⟨m', a', armed', within⟩
                · exact Or.inl res
                · rw [armed] at armed'
                  cases armed'
                  exact within
              have failedArmed : (s.fail cause).stage.armed = some (m, a) := armed
              exact RunInvariant.of_armed failedArmed
                ((held.confined m a armed).write within f) (failed.taken m a failedArmed)
                fun _ _ h => nomatch h

theorem RunInvariant.validate (held : RunInvariant cfg start s) (r : Release)
    (stage : s.stage = .validating r) : RunInvariant cfg start (s.validate cfg r) := by
  have open_ : ¬ s.stage.Over := by
    rw [stage]
    exact id
  have kept := held.untouched (by rw [stage]; rfl) open_
  rw [RunState.validate]
  split
  case isFalse => exact held.fail _ open_
  case isTrue valid =>
    split
    · exact held.fail _ open_
    split
    · exact RunInvariant.of_unarmed kept rfl
    · exact RunInvariant.of_unarmed kept rfl

theorem RunInvariant.ok (held : RunInvariant cfg start s) (h : s.ok cfg = some s') :
    RunInvariant cfg start s' := by
  rcases s with ⟨stage, version, live⟩
  cases stage with
  | validating r =>
      cases h
      exact held.validate r rfl
  | checkingSystem m =>
      cases h
      exact RunInvariant.of_unarmed
        ((held.untouched rfl id).unlink (backup_mem_reserved _)) rfl
  | checkingDependencies m =>
      rw [RunState.ok, Option.some.injEq] at h
      rw [← h]
      split
      · exact held.fail _ id
      · exact RunInvariant.of_unarmed (held.untouched rfl id) rfl
  | downloading m rest | compiling m rest =>
      cases rest with
      | nil =>
          cases h
          exact RunInvariant.of_unarmed (held.untouched rfl id) rfl
      | cons => cases h
  | verifying m =>
      rw [RunState.ok, Option.some.injEq] at h
      rw [← h]
      split
      · exact RunInvariant.of_unarmed (held.untouched rfl id) rfl
      · exact held.fail _ id
  | seedingLog =>
      cases h
      exact RunInvariant.of_unarmed (held.untouched rfl id) rfl
  | launching | restarting | rollingBack =>
      cases h
      exact RunInvariant.of_over _ _ trivial
  | swapping m a rest at_ =>
      have kept := held.confined m a rfl
      have taken := held.taken m a rfl
      have remaining := held.remaining m a rest at_ rfl
      cases rest with
      | nil =>
          cases h
          exact RunInvariant.of_armed rfl kept taken fun _ _ h => nomatch h
      | cons p rest =>
          rw [RunState.ok, Option.some.injEq] at h
          rw [← h]
          split
          case h_1 u stepped =>
            refine RunInvariant.of_armed (by cases at_ <;> rfl)
              (agreeOff_swapStep kept (remaining p List.mem_cons_self) stepped) taken ?_
            intro rest' at' same q mem
            cases at_ with
            | copy | chmod =>
                cases same
                exact remaining q mem
            | replace =>
                cases same
                exact remaining q (List.mem_cons_of_mem _ mem)
          case h_2 => exact held.fail _ id
  | verifyingSwap m a =>
      rw [RunState.ok, Option.some.injEq] at h
      rw [← h]
      split
      · exact RunInvariant.of_armed rfl (held.confined m a rfl) (held.taken m a rfl)
          fun _ _ h => nomatch h
      · exact held.fail _ id
  | recording m a =>
      cases h
      exact RunInvariant.of_armed rfl (held.confined m a rfl) (held.taken m a rfl)
        fun _ _ h => nomatch h
  | contacting | gate | clearing | backingUp | pruning | staged | failed | discarding
  | finished => cases h

theorem RunInvariant.wrote (held : RunInvariant cfg start s) {stage : Stage β} {p : Path}
    (after : s.stage.afterWrite cfg s.live = some stage)
    (writes : s.stage.writing cfg = some p) (f : File β) :
    RunInvariant cfg start { s with stage, live := write s.live p f } := by
  have inRange := writing_range held writes
  rcases s with ⟨before, version, live⟩
  cases before with
  | downloading m rest =>
      have kept := held.untouched rfl id
      cases rest with
      | nil => cases after
      | cons q rest =>
          cases after
          cases writes
          exact RunInvariant.of_unarmed (kept.write (staging_mem_reserved q) f) rfl
  | compiling m rest =>
      have kept := held.untouched rfl id
      cases rest with
      | nil => cases after
      | cons q rest =>
          cases after
          cases writes
          exact RunInvariant.of_unarmed (kept.write (staging_mem_reserved _) f) rfl
  | backingUp m =>
      have kept := held.untouched rfl id
      cases writes
      have written := kept.write (backup_mem_reserved [cfg.backupName]) f
      simp only [Stage.afterWrite] at after
      split at after
      case h_1 a took =>
        cases after
        exact RunInvariant.of_backup written ⟨live, kept, took⟩ rfl rfl
      case h_2 =>
        cases after
        exact RunInvariant.of_unarmed written rfl
  | seedingLog =>
      cases after
      cases writes
      exact RunInvariant.of_unarmed ((held.untouched rfl id).write (backup_mem_reserved _) f) rfl
  | recording m a =>
      cases after
      cases writes
      exact RunInvariant.of_armed rfl
        ((held.confined m a rfl).write (Or.inl (backup_mem_reserved _)) f) (held.taken m a rfl)
        fun _ _ h => by cases h
  | contacting | validating | gate | checkingSystem | checkingDependencies | clearing | verifying
  | pruning | staged | launching | swapping | verifyingSwap | restarting | failed | rollingBack
  | discarding | finished => cases after

theorem RunInvariant.decided (held : RunInvariant cfg start s) {choice : Choice} {stage : Stage β}
    (h : s.stage.decide cfg.systemd choice = some stage) :
    RunInvariant cfg start { s with stage } := by
  rcases s with ⟨before, version, live⟩
  cases before with
  | gate =>
      cases h
      exact RunInvariant.of_over _ _ trivial
  | staged m a =>
      have kept := held.untouched rfl id
      cases choice with
      | revert =>
          cases h
          exact RunInvariant.of_over _ _ trivial
      | proceed =>
          rw [Stage.decide, Option.some.injEq] at h
          rw [← h]
          split
          · exact RunInvariant.of_unarmed kept rfl
          · refine RunInvariant.of_armed rfl (fun p off => kept p fun res => off (Or.inl res))
              (held.taken m a rfl) ?_
            intro rest at_ same p mem
            cases same
            exact mem
  | failed cause armed =>
      cases armed <;> cases h <;> exact RunInvariant.of_over _ _ trivial
  | contacting | validating | checkingSystem | checkingDependencies | clearing | downloading
  | verifying | compiling | backingUp | pruning | seedingLog | launching | swapping
  | verifyingSwap | recording | restarting | rollingBack | discarding | finished => cases h

theorem RunInvariant.step (held : RunInvariant cfg start s) {e : RunEvent β}
    (h : s.step cfg e = some s') : RunInvariant cfg start s' := by
  cases e with
  | fetched r =>
      rcases s with ⟨stage, version, live⟩
      cases stage <;> cases h
      exact RunInvariant.of_unarmed (held.untouched rfl id) rfl
  | ok => exact held.ok h
  | wrote f =>
      obtain ⟨stage, after, rest⟩ := Option.bind_eq_some_iff.mp h
      obtain ⟨p, writes, rfl⟩ := Option.map_eq_some_iff.mp rest
      exact held.wrote after writes f
  | cleared stuck =>
      rcases s with ⟨stage, version, live⟩
      cases stage <;> cases h
      · exact RunInvariant.of_unarmed (agreeOff_rmtree (held.untouched rfl id) stuck) rfl
      · exact RunInvariant.of_over _ _ trivial
  | pruned names =>
      rcases s with ⟨stage, version, live⟩
      cases stage <;> cases h
      next m a =>
        refine RunInvariant.of_backup ((held.untouched rfl id).unlinkAll ?_) (held.taken m a rfl)
          rfl rfl
        intro p mem
        obtain ⟨name, -, rfl⟩ := List.mem_map.mp mem
        exact backup_mem_reserved [name]
  | raised cause torn =>
      obtain ⟨raises, rfl⟩ := enabled_eq_some.mp h
      exact held.tear raises cause torn
  | decided choice =>
      obtain ⟨stage, decided, rfl⟩ := Option.map_eq_some_iff.mp h
      exact held.decided decided

/-! ## Parked runs -/

/-- Wherever a run is parked, the tree outside the staging and backups directories is the one it
started from, or the prompt is the error handler's after an in-process swap was begun: it refuses
proceed, the tree differs at most at the manifest's files and their temporaries, and whatever is
decided the next step is the rollback from the archive taken of the tree it started from. -/
theorem parked_of_run {events : List (RunEvent β)}
    (h : run (RunState.step cfg) { live := start } events = some s) {prompt : Prompt}
    (parked : s.prompt? = some prompt) :
    AgreeOff reserved start s.live ∨
      ∃ cause m a, s.stage = .failed cause (some (m, a)) ∧ prompt.allowProceed = false ∧
        AgreeOff (reserved ∪ swapRange m) start s.live ∧ TakenFrom cfg start m a ∧
        ∀ choice, s.step cfg (.decided choice) = some { s with stage := .rollingBack a } := by
  have held : RunInvariant cfg start s :=
    run_invariant (fun _ _ _ held h => RunInvariant.step held h) (RunInvariant.initial cfg start) h
  rcases s with ⟨stage, version, live⟩
  cases stage with
  | gate => exact Or.inl (held.untouched rfl id)
  | staged m a => exact Or.inl (held.untouched rfl id)
  | failed cause armed =>
      cases armed with
      | none => exact Or.inl (held.untouched rfl id)
      | some pair =>
          obtain ⟨m, a⟩ := pair
          cases parked
          exact Or.inr ⟨cause, m, a, rfl, rfl, held.confined m a rfl, held.taken m a rfl,
            fun _ => rfl⟩
  | contacting | validating | checkingSystem | checkingDependencies | clearing | downloading
  | verifying | compiling | backingUp | pruning | seedingLog | launching | swapping
  | verifyingSwap | recording | restarting | rollingBack | discarding | finished => cases parked

/-! ## A swap that fails halfway -/

def flatEncoding : Encoding (List Text) Text where
  sha256 := List.flatten
  dumps := id
  loads := some
  loads_dumps := plainEncoding.loads_dumps

def devConfig : RunConfig (List Text) where
  enc := flatEncoding
  installed := "1.5.3".toList
  systemd := false
  backupName := "backup-20260101-000000-v1.5.3.zip".toList
  cacheName name := name ++ "c".toList

def smallUpdate : Release where
  version := "1.6.0".toList
  incompatible := .other
  files :=
    [{ path := "genpi/app.py".toList, sha256 := "new".toList },
      { path := "NEW".toList, sha256 := "new".toList }]

def newFile : File (List Text) := { content := ["new".toList], mode := 0o644 }

/-- Up to the go/no-go prompt. -/
def stageOne : List (RunEvent (List Text)) :=
  [.fetched smallUpdate, .ok, .ok, .ok, .cleared fun _ => false, .wrote newFile, .wrote newFile,
    .ok, .ok, .wrote newFile, .ok, .wrote newFile, .pruned []]

/-- The first file is swapped and the copy of the second fails. -/
def midSwapFailure : List (RunEvent (List Text)) :=
  stageOne ++ [.decided .proceed, .ok, .ok, .ok, .raised "No space left on device" none]

theorem parked_stageOne :
    ∃ s, run (RunState.step devConfig) { live := smallTree } stageOne = some s ∧
      s.prompt?.any Prompt.allowProceed ∧ AgreeOff reserved smallTree s.live := by
  have seen : (run (RunState.step devConfig) { live := smallTree } stageOne).any
      fun s => s.prompt?.any Prompt.allowProceed := by decide
  obtain ⟨s, ran, proceeds⟩ := (Option.any_eq_true _ _).mp seen
  obtain ⟨prompt, parked, allows⟩ := (Option.any_eq_true _ _).mp proceeds
  refine ⟨s, ran, proceeds, ?_⟩
  rcases parked_of_run ran parked with untouched | ⟨-, -, -, -, refuses, -⟩
  · exact untouched
  · rw [refuses] at allows
    cases allows

/-- The run is parked for a decision with one file new and the other still missing. -/
theorem parked_midSwap :
    ∃ s prompt, run (RunState.step devConfig) { live := smallTree } midSwapFailure = some s ∧
      s.prompt? = some prompt ∧ ¬ AgreeOff reserved smallTree s.live := by
  have seen : (run (RunState.step devConfig) { live := smallTree } midSwapFailure).any
      fun s => s.prompt?.isSome && s.live appFile != smallTree appFile := by decide
  obtain ⟨s, ran, parked⟩ := (Option.any_eq_true _ _).mp seen
  obtain ⟨isParked, mixed⟩ := Bool.and_eq_true_iff.mp parked
  obtain ⟨prompt, parked⟩ := Option.isSome_iff_exists.mp isParked
  refine ⟨s, prompt, ran, parked, fun same => ?_⟩
  have live : appFile ∉ reserved := by
    rintro (inside | inside) <;> exact absurd inside (by decide)
  rw [← same appFile live] at mixed
  simp at mixed

end GeneratorPi
