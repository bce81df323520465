import GeneratorPi.Decision
import GeneratorPi.UpdateRun

/-!
# Consent to an update

Any number of start requests, decide requests and update workers over the state they share
(`genpi/updater.py`, `genpi/routes/update.py`).  A start request takes the phase under
`_update_lock` and creates its thread afterwards; each thread runs `_run_update` on the one live
tree, setting the phase of each stage and parking in `_await_decision` where its run does.

In every interleaving at most one worker is active, a prompt that refuses proceed returns revert,
and a run that is past its go/no-go prompt was consented to while it was parked there
(`applying_consented`). Where no run was, none has touched the live tree
(`untouched_without_consent`).
-/

namespace GeneratorPi

open PyText FileTree Trace

variable {β : Type}

/-! ## Workers -/

/-- A thread in `_run_update`. -/
structure Worker (β : Type) where
  cfg : RunConfig β
  stage : Stage β := .contacting
  version : Text := []
  point : WaitPoint := .outside
  /-- The stage has set its phase. -/
  shown : Bool := false
  /-- The run launched the bootstrap script or scheduled the restart of the process. -/
  handedOver : Bool := false

/-- The run on the live tree. -/
def Worker.run (w : Worker β) (live : LiveTree β) : RunState β :=
  { stage := w.stage, version := w.version, live }

/-- The phase that the stage in hand sets first. -/
def Worker.phase (w : Worker β) : Option Phase :=
  match w.stage with
  | .contacting | .checkingSystem _ | .checkingDependencies _ => some .checking
  | .gate | .staged _ _ => some .staged
  | .clearing _ | .downloading _ (_ :: _) => some .downloading
  | .verifying _ => some .verifying
  | .backingUp _ => some .backingUp
  | .seedingLog | .restarting _ _ => some .restarting
  -- Set once, before the first file.
  | .swapping m _ rest at_ => if rest = m.targets ∧ at_ = .copy then some .swapping else none
  -- A run that handed over leaves the phase at `restarting`.
  | .finished => if w.handedOver then none else some .failed
  | .validating _ | .downloading _ [] | .compiling _ _ | .pruning _ _ | .launching
  | .verifyingSwap _ _ | .recording _ _ | .failed _ _ | .rollingBack _ | .discarding => none

/-- The thread has not returned. -/
def Worker.active (w : Worker β) : Bool :=
  match w.stage with
  | .finished => !w.shown
  | _ => true

/-- The last step of a run that applies its update. -/
def Stage.handsOver : Stage β → Stage β → Bool
  | .launching, .finished | .restarting _ _, .finished => true
  | _, _ => false

/-- The worker once its run has come to another stage. -/
def Worker.next (w : Worker β) (s : RunState β) : Worker β :=
  { w with
    stage := s.stage
    version := s.version
    point := .outside
    shown := false
    handedOver := w.stage.handsOver s.stage || w.handedOver }

/-! ## The updater -/

/-- The phases in which a start request is accepted. -/
def Phase.free : Phase → Bool
  | .idle | .done | .failed => true
  | _ => false

/-- The locked section of `api_update_start`, and whether it accepts. -/
def apiUpdateStart (s : Handshake) : Bool × Handshake :=
  if s.phase.free then (true, { s with phase := .checking, prompt := none }) else (false, s)

/-- The state of the process.  `shared.point` is not used: each worker stands at a point of its
own. -/
structure Updater (β : Type) where
  shared : Handshake := { phase := .idle }
  live : LiveTree β
  /-- Accepted start requests that have not created their thread. -/
  starting : ℕ := 0
  workers : List (Worker β) := []

/-- A decision is what a prompt returns, not a step of the run's own. -/
def RunEvent.own : RunEvent β → Bool
  | .decided _ => false
  | _ => true

inductive WorkerOp (β : Type) where
  /-- The stage in hand sets its phase. -/
  | enter
  | run (e : RunEvent β)
  | publish
  | clear
  | wake
  | timeout
  | withdraw

inductive UpdaterOp (β : Type) where
  | start
  | spawn (cfg : RunConfig β)
  /-- The thread cannot be created. -/
  | spawnFailed
  | work (n : ℕ) (op : WorkerOp β)
  | decide (choice : Option Choice)
  | signal

/-- A step of worker `n`, which stands as `w`. -/
def Updater.work (x : Updater β) (n : ℕ) (w : Worker β) : WorkerOp β → Option (Updater β)
  | .enter =>
      if w.shown = false then
        some { x with
          shared := { x.shared with phase := w.phase.getD x.shared.phase }
          workers := x.workers.set n { w with shown := true } }
      else none
  | .run e =>
      if w.shown = true ∧ w.point = .outside ∧ e.own = true then
        ((w.run x.live).step w.cfg e).map fun s =>
          { x with live := s.live, workers := x.workers.set n (w.next s) }
      else none
  | .publish =>
      if w.shown = true ∧ w.point = .outside then
        (w.run x.live).prompt?.map fun prompt =>
          { x with
            shared := { x.shared with phase := .awaiting, prompt := some prompt, choice := none }
            workers := x.workers.set n { w with point := .published } }
      else none
  | .clear =>
      if w.point = .published then
        some { x with
          shared := { x.shared with event := false }
          workers := x.workers.set n { w with point := .waiting } }
      else none
  | .wake =>
      if w.point = .waiting ∧ x.shared.event = true then
        some { x with workers := x.workers.set n { w with point := .woken true } }
      else none
  -- A wait that has timed out reports it also when the Event is set at that moment.
  | .timeout =>
      if w.point = .waiting then
        some { x with workers := x.workers.set n { w with point := .woken false } }
      else none
  | .withdraw =>
      match w.point with
      | .woken got =>
          ((w.run x.live).step w.cfg (.decided (decided got x.shared.choice))).map fun s =>
            { x with
              shared := { x.shared with prompt := none }
              workers := x.workers.set n (w.next s) }
      | _ => none

def Updater.step (x : Updater β) : UpdaterOp β → Option (Updater β)
  | .start =>
      match apiUpdateStart x.shared with
      | (true, shared) => some { x with shared, starting := x.starting + 1 }
      | (false, shared) => some { x with shared }
  | .spawn cfg =>
      if 0 < x.starting then
        some { x with starting := x.starting - 1, workers := x.workers ++ [{ cfg }] }
      else none
  | .spawnFailed =>
      if 0 < x.starting then some { x with starting := x.starting - 1 } else none
  | .work n op =>
      match x.workers[n]? with
      | some w => if w.active = true then x.work n w op else none
      | none => none
  | .decide choice => some { x with shared := (apiUpdateDecide choice x.shared).2 }
  | .signal =>
      if 0 < x.shared.unsignalled then
        some { x with
          shared := { x.shared with event := true, unsignalled := x.shared.unsignalled - 1 } }
      else none

/-! ## Past the go/no-go prompt -/

/-- A run past its go/no-go prompt, until its swap is rolled back or it has handed over. -/
def Stage.applying : Stage β → Bool
  | .seedingLog | .launching | .swapping _ _ _ _ | .verifyingSwap _ _ | .recording _ _
  | .restarting _ _ | .failed _ (some _) | .rollingBack _ => true
  | _ => false

variable {s s' : RunState β} {cfg : RunConfig β}

theorem applying_of_armed {stage : Stage β} (armed : stage.armed.isSome) :
    stage.applying = true := by
  cases stage with
  | failed cause pair =>
      cases pair with
      | none => cases armed
      | some pair => rfl
  | swapping | verifyingSwap | recording | restarting => rfl
  | contacting | validating | gate | checkingSystem | checkingDependencies | clearing
  | downloading | verifying | compiling | backingUp | pruning | staged | seedingLog | launching
  | rollingBack | discarding | finished => cases armed

theorem RunState.applying_of_fail {cause : String} (h : (s.fail cause).stage.applying = true) :
    s.stage.applying = true := by
  refine applying_of_armed ?_
  have isFailed : (Stage.failed cause s.stage.armed).applying = true := h
  cases armed : s.stage.armed with
  | none =>
      rw [armed] at isFailed
      cases isFailed
  | some pair => rfl

theorem RunState.applying_of_ok (h : s.ok cfg = some s') (past : s'.stage.applying = true) :
    s.stage.applying = true := by
  rcases s with ⟨stage, version, live⟩
  cases stage with
  | seedingLog | launching | swapping | verifyingSwap | recording | restarting | rollingBack => rfl
  | validating r =>
      cases h
      rw [RunState.validate] at past
      split at past
      case isFalse => exact RunState.applying_of_fail past
      case isTrue =>
        split at past
        · exact RunState.applying_of_fail past
        split at past <;> cases past
  | checkingDependencies m =>
      cases h
      split at past
      · exact RunState.applying_of_fail past
      · cases past
  | verifying m =>
      cases h
      split at past
      · cases past
      · exact RunState.applying_of_fail past
  | downloading m rest | compiling m rest =>
      cases rest <;> cases h
      cases past
  | checkingSystem m =>
      cases h
      cases past
  | contacting | gate | clearing | backingUp | pruning | staged | failed | discarding
  | finished => cases h

theorem Stage.applying_of_afterWrite {stage after : Stage β} {live : LiveTree β}
    (h : stage.afterWrite cfg live = some after) (past : after.applying = true) :
    stage.applying = true := by
  cases stage with
  | seedingLog | recording => rfl
  | downloading m rest | compiling m rest =>
      cases rest <;> cases h
      cases past
  | backingUp m =>
      rw [Stage.afterWrite] at h
      split at h <;> cases h <;> cases past
  | contacting | validating | gate | checkingSystem | checkingDependencies | clearing
  | verifying | pruning | staged | launching | swapping | verifyingSwap | restarting | failed
  | rollingBack | discarding | finished => cases h

/-- No step of a run's own takes it past its prompt. -/
theorem RunState.applying_of_step {e : RunEvent β} (h : s.step cfg e = some s')
    (own : e.own = true) (past : s'.stage.applying = true) : s.stage.applying = true := by
  cases e with
  | decided choice => cases own
  | ok => exact RunState.applying_of_ok h past
  | raised cause torn =>
      obtain ⟨-, rfl⟩ := enabled_eq_some.mp h
      exact RunState.applying_of_fail past
  | fetched r =>
      rcases s with ⟨stage, version, live⟩
      cases stage <;> cases h
      cases past
  | cleared stuck =>
      rcases s with ⟨stage, version, live⟩
      cases stage <;> cases h <;> cases past
  | pruned names =>
      rcases s with ⟨stage, version, live⟩
      cases stage <;> cases h
      cases past
  | wrote f =>
      obtain ⟨stage, after, rest⟩ := Option.bind_eq_some_iff.mp h
      obtain ⟨p, writes, rfl⟩ := Option.map_eq_some_iff.mp rest
      exact Stage.applying_of_afterWrite after past

/-- A decision takes a run past its prompt only where that is the go/no-go prompt and the choice
is to proceed. -/
theorem Stage.applying_of_decide {stage after : Stage β} {systemd : Bool} {choice : Choice}
    (h : stage.decide systemd choice = some after) (past : after.applying = true) :
    stage.applying = true ∨ (∃ m a, stage = .staged m a) ∧ choice = .proceed := by
  cases stage with
  | staged m a =>
      cases choice with
      | proceed => exact Or.inr ⟨⟨m, a, rfl⟩, rfl⟩
      | revert =>
          cases h
          cases past
  | failed cause armed =>
      cases armed with
      | some pair => exact Or.inl rfl
      | none =>
          cases h
          cases past
  | gate =>
      cases h
      cases past
  | contacting | validating | checkingSystem | checkingDependencies | clearing | downloading
  | verifying | compiling | backingUp | pruning | seedingLog | launching | swapping
  | verifyingSwap | recording | restarting | rollingBack | discarding | finished => cases h

/-! ### Before it the live tree is left alone -/

variable {start : LiveTree β}

theorem writing_mem_reserved {stage : Stage β} {p : Path} (early : stage.applying = false)
    (writes : stage.writing cfg = some p) : p ∈ reserved := by
  cases stage with
  | checkingSystem | backingUp =>
      cases writes
      exact backup_mem_reserved _
  | downloading m rest | compiling m rest =>
      cases rest <;> cases writes
      exact staging_mem_reserved _
  | seedingLog | swapping | recording => cases early
  | contacting | validating | gate | checkingDependencies | clearing | verifying | pruning | staged
  | launching | verifyingSwap | restarting | failed | rollingBack | discarding
  | finished => cases writes

theorem RunState.agreeOff_ok (kept : AgreeOff reserved start s.live)
    (early : s.stage.applying = false) (h : s.ok cfg = some s') :
    AgreeOff reserved start s'.live := by
  rcases s with ⟨stage, version, live⟩
  cases stage with
  | validating r =>
      cases h
      rw [RunState.validate]
      split
      case isFalse => exact kept
      case isTrue =>
        split
        · exact kept
        split <;> exact kept
  | checkingSystem m =>
      cases h
      exact kept.unlink (backup_mem_reserved _)
  | checkingDependencies m | verifying m =>
      cases h
      split <;> exact kept
  | downloading m rest | compiling m rest =>
      cases rest <;> cases h
      exact kept
  | seedingLog | launching | swapping | verifyingSwap | recording | restarting
  | rollingBack => cases early
  | contacting | gate | clearing | backingUp | pruning | staged | failed | discarding
  | finished => cases h

/-- Until it is past its prompt a run changes nothing outside the staging and the backups
directory. -/
theorem RunState.agreeOff_step {e : RunEvent β} (kept : AgreeOff reserved start s.live)
    (early : s.stage.applying = false) (h : s.step cfg e = some s') :
    AgreeOff reserved start s'.live := by
  cases e with
  | ok => exact RunState.agreeOff_ok kept early h
  | wrote f =>
      obtain ⟨stage, -, rest⟩ := Option.bind_eq_some_iff.mp h
      obtain ⟨p, writes, rfl⟩ := Option.map_eq_some_iff.mp rest
      exact kept.write (writing_mem_reserved early writes) f
  | raised cause torn =>
      obtain ⟨-, rfl⟩ := enabled_eq_some.mp h
      show AgreeOff reserved start (s.tear cfg torn)
      unfold RunState.tear
      split
      case h_1 p f writes => exact kept.write (writing_mem_reserved early writes) f
      case h_2 => exact kept
  | decided choice =>
      obtain ⟨stage, -, rfl⟩ := Option.map_eq_some_iff.mp h
      exact kept
  | fetched r =>
      rcases s with ⟨stage, version, live⟩
      cases stage <;> cases h
      exact kept
  | cleared stuck =>
      rcases s with ⟨stage, version, live⟩
      cases stage <;> cases h <;> exact agreeOff_rmtree kept stuck
  | pruned names =>
      rcases s with ⟨stage, version, live⟩
      cases stage <;> cases h
      refine kept.unlinkAll ?_
      intro p mem
      obtain ⟨name, -, rfl⟩ := List.mem_map.mp mem
      exact backup_mem_reserved [name]

/-! ## At most one worker -/

/-- Worker `n`, which stands as `w`, is the one thread there is. -/
structure Updater.Alone (x : Updater β) (n : ℕ) (w : Worker β) : Prop where
  here : x.workers[n]? = some w
  others : ∀ m v, x.workers[m]? = some v → v.active = true → m = n
  starting : x.starting = 0

/-- The open prompt is the one the worker is parked on, and no proceed is held that it forbids. -/
structure Attends (s : Handshake) (w : Worker β) (live : LiveTree β) : Prop where
  closed : w.point = .outside → s.prompt = none
  parked : w.point ≠ .outside → ∃ prompt, (w.run live).prompt? = some prompt ∧
    s.prompt = some prompt ∧ (s.choice = some .proceed → prompt.allowProceed = true)

/-- There is no thread, or one to be created, or one worker. The phase keeps start requests out of
the last two. -/
inductive Coherent (x : Updater β) : Prop
  | idle (returned : ∀ w ∈ x.workers, w.active = false) (unasked : x.starting = 0)
    (closed : x.shared.prompt = none)
  | starting (returned : ∀ w ∈ x.workers, w.active = false) (one : x.starting = 1)
    (busy : x.shared.phase.free = false) (closed : x.shared.prompt = none)
  | running (n : ℕ) (w : Worker β) (alone : x.Alone n w) (active : w.active = true)
    (busy : x.shared.phase.free = false) (attends : Attends x.shared w x.live)

variable {x y : Updater β} {n : ℕ} {w : Worker β}

theorem Updater.Alone.set (alone : x.Alone n w) (w' : Worker β) (shared : Handshake)
    (live : LiveTree β) :
    Updater.Alone { x with shared, live, workers := x.workers.set n w' } n w' where
  here := List.getElem?_set_self (List.getElem?_eq_some_iff.mp alone.here).1
  others m v at_ active := by
    by_contra ne
    rw [List.getElem?_set_ne (Ne.symm ne)] at at_
    exact ne (alone.others m v at_ active)
  starting := alone.starting

/-- An active worker is the one there is. -/
theorem Coherent.of_active (held : Coherent x) (here : x.workers[n]? = some w)
    (active : w.active = true) :
    x.Alone n w ∧ x.shared.phase.free = false ∧ Attends x.shared w x.live := by
  cases held with
  | idle returned | starting returned =>
      rw [returned w (List.mem_of_getElem? here)] at active
      cases active
  | running m v alone _ busy attends =>
      obtain rfl := alone.others n w here active
      obtain rfl : v = w := Option.some.inj (alone.here.symm.trans here)
      exact ⟨alone, busy, attends⟩

theorem finished_of_phase_free {phase : Phase} (sets : w.phase = some phase)
    (free : phase.free = true) : w.stage = .finished := by
  rcases w with ⟨cfg, stage, version, point, shown, handedOver⟩
  cases stage with
  | finished => rfl
  | downloading m rest =>
      cases rest <;> cases sets
      cases free
  | swapping m a rest at_ =>
      simp only [Worker.phase] at sets
      split at sets <;> cases sets
      cases free
  | contacting | gate | checkingSystem | checkingDependencies | clearing | verifying | backingUp
  | staged | seedingLog | restarting =>
      cases sets
      cases free
  | validating | compiling | pruning | launching | verifyingSwap | recording | failed | rollingBack
  | discarding => cases sets

theorem finished_of_returned (returned : w.active = false) : w.stage = .finished := by
  rcases w with ⟨cfg, stage, version, point, shown, handedOver⟩
  cases stage <;> first | rfl | cases returned

theorem active_next (w : Worker β) (s : RunState β) : (w.next s).active = true := by
  rcases s with ⟨stage, version, live⟩
  cases stage <;> rfl

/-- A worker whose run has come to another stage is parked on no prompt. -/
theorem Attends.next {handshake : Handshake} (closed : handshake.prompt = none)
    (live : LiveTree β) (s : RunState β) : Attends handshake (w.next s) live where
  closed _ := closed
  parked inside := absurd rfl inside

/-- A stage sets its phase: the last one releases it. -/
theorem Coherent.enter (alone : x.Alone n w) (busy : x.shared.phase.free = false)
    (attends : Attends x.shared w x.live) :
    Coherent { x with
      shared := { x.shared with phase := w.phase.getD x.shared.phase }
      workers := x.workers.set n { w with shown := true } } := by
  have alone' := alone.set { w with shown := true }
    { x.shared with phase := w.phase.getD x.shared.phase } x.live
  cases active : Worker.active { w with shown := true } with
  | false =>
      have finished : Worker.stage { w with shown := true } = .finished :=
        finished_of_returned active
      refine Coherent.idle ?_ alone.starting ?_
      · intro v mem
        obtain ⟨m, at_⟩ := List.mem_iff_getElem?.mp mem
        by_contra isActive
        obtain rfl := alone'.others m v at_ (Bool.eq_true_of_not_eq_false isActive)
        obtain rfl := Option.some.inj (alone'.here.symm.trans at_)
        exact isActive active
      · refine attends.closed ?_
        by_contra inside
        obtain ⟨prompt, parked, -, -⟩ := attends.parked inside
        rw [RunState.prompt?, Worker.run, finished] at parked
        cases parked
  | true =>
      refine Coherent.running n _ alone' active ?_ ⟨attends.closed, attends.parked⟩
      show (w.phase.getD x.shared.phase).free = false
      cases sets : w.phase with
      | none => exact busy
      | some phase =>
          refine Bool.eq_false_of_not_eq_true fun free => ?_
          have returned : Worker.active { w with shown := true } = false := by
            rw [Worker.active, finished_of_phase_free sets free]
            rfl
          rw [returned] at active
          cases active

theorem Coherent.work (held : Coherent x) (here : x.workers[n]? = some w)
    (active : w.active = true) {op : WorkerOp β} (h : x.work n w op = some y) : Coherent y := by
  obtain ⟨alone, busy, attends⟩ := held.of_active here active
  cases op with
  | enter =>
      obtain ⟨-, rfl⟩ := enabled_eq_some.mp h
      exact Coherent.enter alone busy attends
  | run e =>
      obtain ⟨⟨-, outside, -⟩, h⟩ := Option.ite_none_right_eq_some.mp h
      obtain ⟨s, -, rfl⟩ := Option.map_eq_some_iff.mp h
      exact Coherent.running n _ (alone.set _ _ _) (active_next w s) busy
        (Attends.next (attends.closed outside) _ s)
  | publish =>
      obtain ⟨-, h⟩ := Option.ite_none_right_eq_some.mp h
      obtain ⟨prompt, parked, rfl⟩ := Option.map_eq_some_iff.mp h
      exact Coherent.running n _ (alone.set _ _ _) active rfl
        ⟨nofun, fun _ => ⟨prompt, parked, rfl, nofun⟩⟩
  | clear =>
      obtain ⟨point, rfl⟩ := enabled_eq_some.mp h
      exact Coherent.running n _ (alone.set _ _ _) active busy
        ⟨nofun, fun _ => attends.parked (by simp [point])⟩
  | wake =>
      obtain ⟨⟨point, -⟩, rfl⟩ := enabled_eq_some.mp h
      exact Coherent.running n _ (alone.set _ _ _) active busy
        ⟨nofun, fun _ => attends.parked (by simp [point])⟩
  | timeout =>
      obtain ⟨point, rfl⟩ := enabled_eq_some.mp h
      exact Coherent.running n _ (alone.set _ _ _) active busy
        ⟨nofun, fun _ => attends.parked (by simp [point])⟩
  | withdraw =>
      cases point : w.point with
      | woken got =>
          simp only [Updater.work, point] at h
          obtain ⟨s, -, rfl⟩ := Option.map_eq_some_iff.mp h
          exact Coherent.running n _ (alone.set _ _ _) (active_next w s) busy
            (Attends.next rfl _ s)
      | outside | published | waiting => simp [Updater.work, point] at h

/-- A request that leaves the phase and the prompt alone and lets no forbidden proceed in. -/
theorem Coherent.of_shared (held : Coherent x) {shared : Handshake}
    (phase : shared.phase = x.shared.phase) (prompt : shared.prompt = x.shared.prompt)
    (choice : ∀ prompt, x.shared.prompt = some prompt → shared.choice = some .proceed →
      x.shared.choice = some .proceed ∨ prompt.allowProceed = true) :
    Coherent { x with shared } := by
  cases held with
  | idle returned unasked closed => exact Coherent.idle returned unasked (prompt.trans closed)
  | starting returned one busy closed =>
      exact Coherent.starting returned one (by rw [← busy, ← phase]) (prompt.trans closed)
  | running n w alone active busy attends =>
      refine Coherent.running n w ⟨alone.here, alone.others, alone.starting⟩ active
        (by rw [← busy, ← phase]) ⟨fun outside => prompt.trans (attends.closed outside), ?_⟩
      intro inside
      obtain ⟨p, parked, opened, allows⟩ := attends.parked inside
      refine ⟨p, parked, prompt.trans opened, fun proceeds => ?_⟩
      rcases choice p opened proceeds with before | allowed
      · exact allows before
      · exact allowed

/-- A start request is refused, or takes the phase. -/
theorem Updater.step_start (h : x.step .start = some y) :
    y = x ∨ x.shared.phase.free = true ∧ y = { x with
      shared := { x.shared with phase := .checking, prompt := none }
      starting := x.starting + 1 } := by
  cases free : x.shared.phase.free with
  | false =>
      simp only [Updater.step, apiUpdateStart, free, Bool.false_eq_true, if_false] at h
      exact Or.inl (Option.some.inj h).symm
  | true =>
      simp only [Updater.step, apiUpdateStart, free, if_true] at h
      exact Or.inr ⟨rfl, (Option.some.inj h).symm⟩

/-- Only a worker that has not returned takes steps. -/
theorem Updater.step_work {op : WorkerOp β} (h : x.step (.work n op) = some y) :
    ∃ w, x.workers[n]? = some w ∧ w.active = true ∧ x.work n w op = some y := by
  cases here : x.workers[n]? with
  | none => simp [Updater.step, here] at h
  | some w =>
      simp only [Updater.step, here] at h
      obtain ⟨active, worked⟩ := Option.ite_none_right_eq_some.mp h
      exact ⟨w, rfl, active, worked⟩

theorem allowProceed_of_effective {prompt : Prompt} {c : Choice}
    (h : prompt.effective c = .proceed) : c = .proceed ∧ prompt.allowProceed = true := by
  cases c with
  | revert => cases h
  | proceed =>
      rw [Prompt.effective] at h
      split at h
      · exact ⟨rfl, ‹_›⟩
      · cases h

theorem Coherent.step (held : Coherent x) {op : UpdaterOp β} (h : x.step op = some y) :
    Coherent y := by
  cases op with
  | start =>
      rcases Updater.step_start h with rfl | ⟨free, rfl⟩
      · exact held
      · cases held with
        | idle returned unasked closed =>
            exact Coherent.starting returned (congrArg (· + 1) unasked) rfl rfl
        | starting _ _ busy _ | running _ _ _ _ busy _ =>
            rw [free] at busy
            cases busy
  | spawn cfg =>
      obtain ⟨some_, rfl⟩ := enabled_eq_some.mp h
      cases held with
      | idle _ unasked _ => exact absurd some_ (by omega)
      | running _ _ alone _ _ _ =>
          rw [alone.starting] at some_
          exact absurd some_ (Nat.lt_irrefl 0)
      | starting returned one busy closed =>
          refine Coherent.running x.workers.length { cfg } ⟨?_, ?_, by simp [one]⟩ rfl busy
            ⟨fun _ => closed, fun inside => absurd rfl inside⟩
          · exact List.getElem?_concat_length
          · intro m v at_ active
            rcases Nat.lt_or_ge m x.workers.length with old | new
            · rw [List.getElem?_append_left old] at at_
              rw [returned v (List.mem_of_getElem? at_)] at active
              cases active
            · have bound := (List.getElem?_eq_some_iff.mp at_).1
              rw [List.length_append, List.length_singleton] at bound
              omega
  | spawnFailed =>
      obtain ⟨some_, rfl⟩ := enabled_eq_some.mp h
      cases held with
      | idle _ unasked _ => exact absurd some_ (by omega)
      | starting returned one _ closed => exact Coherent.idle returned (by simp [one]) closed
      | running _ _ alone _ _ _ =>
          rw [alone.starting] at some_
          exact absurd some_ (Nat.lt_irrefl 0)
  | work n op =>
      obtain ⟨w, here, active, worked⟩ := Updater.step_work h
      exact held.work here active worked
  | decide choice =>
      cases h
      rcases apiUpdateDecide_cases choice x.shared with
        ⟨refusal, -, eq⟩ | ⟨c, prompt, rfl, opened, awaiting, eq⟩
      · rw [eq]
        exact held
      · rw [eq]
        refine held.of_shared rfl rfl fun p open_ proceeds => Or.inr ?_
        obtain rfl := Option.some.inj (opened.symm.trans open_)
        exact (allowProceed_of_effective (Option.some.inj proceeds)).2
  | signal =>
      obtain ⟨-, rfl⟩ := enabled_eq_some.mp h
      exact held.of_shared rfl rfl fun _ _ proceeds => Or.inl proceeds

/-! ## No application without consent -/

/-- The worker is parked on the go/no-go prompt of its run. -/
def Worker.ParkedStaged (w : Worker β) : Prop :=
  (∃ m a, w.stage = .staged m a) ∧ w.point ≠ .outside

/-- A proceed was accepted while run `n` was parked on its own go/no-go prompt, which was the open
one. -/
def Consented (start : LiveTree β) (ops : List (UpdaterOp β)) (n : ℕ) : Prop :=
  ∃ before after x w, ops = before ++ .decide (some .proceed) :: after ∧
    run Updater.step { live := start } before = some x ∧ x.workers[n]? = some w ∧
    w.ParkedStaged ∧ x.shared.prompt = (w.run x.live).prompt? ∧
    (apiUpdateDecide (some .proceed) x.shared).1 = .accepted .proceed

variable {ops : List (UpdaterOp β)}

theorem Consented.later (consented : Consented start ops n) (op : UpdaterOp β) :
    Consented start (ops ++ [op]) n := by
  obtain ⟨before, after, x, w, rfl, rest⟩ := consented
  exact ⟨before, after ++ [op], x, w, by simp, rest⟩

/-- What a step of a worker does to it: its run stays at its stage, and it comes to a prompt only
with the holder emptied; or the run takes a step, of its own or by what its prompt returned. -/
theorem Updater.work_cases {op : WorkerOp β} (h : x.work n w op = some y) :
    (∃ w', y.workers = x.workers.set n w' ∧ y.live = x.live ∧ w'.stage = w.stage ∧
        w'.handedOver = w.handedOver ∧ (w'.point ≠ .outside → y.shared.choice = some .proceed →
          w.point ≠ .outside ∧ x.shared.choice = some .proceed)) ∨
      ∃ e s, y.workers = x.workers.set n (w.next s) ∧ y.live = s.live ∧
        (w.run x.live).step w.cfg e = some s ∧ (e.own = true ∨
          ∃ got, w.point = .woken got ∧ e = .decided (decided got x.shared.choice)) := by
  cases op with
  | enter =>
      obtain ⟨-, rfl⟩ := enabled_eq_some.mp h
      exact Or.inl ⟨_, rfl, rfl, rfl, rfl, And.intro⟩
  | run e =>
      obtain ⟨⟨-, -, own⟩, h⟩ := Option.ite_none_right_eq_some.mp h
      obtain ⟨s, stepped, rfl⟩ := Option.map_eq_some_iff.mp h
      exact Or.inr ⟨e, s, rfl, rfl, stepped, Or.inl own⟩
  | publish =>
      obtain ⟨-, h⟩ := Option.ite_none_right_eq_some.mp h
      obtain ⟨prompt, -, rfl⟩ := Option.map_eq_some_iff.mp h
      exact Or.inl ⟨_, rfl, rfl, rfl, rfl, nofun⟩
  | clear =>
      obtain ⟨point, rfl⟩ := enabled_eq_some.mp h
      exact Or.inl ⟨_, rfl, rfl, rfl, rfl, fun _ holds => ⟨by simp [point], holds⟩⟩
  | wake =>
      obtain ⟨⟨point, -⟩, rfl⟩ := enabled_eq_some.mp h
      exact Or.inl ⟨_, rfl, rfl, rfl, rfl, fun _ holds => ⟨by simp [point], holds⟩⟩
  | timeout =>
      obtain ⟨point, rfl⟩ := enabled_eq_some.mp h
      exact Or.inl ⟨_, rfl, rfl, rfl, rfl, fun _ holds => ⟨by simp [point], holds⟩⟩
  | withdraw =>
      cases point : w.point with
      | woken got =>
          simp only [Updater.work, point] at h
          obtain ⟨s, stepped, rfl⟩ := Option.map_eq_some_iff.mp h
          have still : s.live = x.live := by
            obtain ⟨stage, -, rfl⟩ := Option.map_eq_some_iff.mp stepped
            rfl
          exact Or.inr ⟨_, s, rfl, still.symm, stepped, Or.inr ⟨got, rfl, rfl⟩⟩
      | outside | published | waiting => simp [Updater.work, point] at h

/-- The worker of index `m` was there and took no step, or was just created, or took the step. -/
theorem Updater.step_worker {op : UpdaterOp β} (h : x.step op = some y) {m : ℕ} {v : Worker β}
    (at_ : y.workers[m]? = some v) :
    (x.workers[m]? = some v ∧ ∀ o, op ≠ .work m o) ∨ (∃ cfg, v = { cfg }) ∨
      ∃ w o, op = .work m o ∧ x.workers[m]? = some w ∧ x.work m w o = some y := by
  cases op with
  | start =>
      rcases Updater.step_start h with rfl | ⟨-, rfl⟩
      · exact Or.inl ⟨at_, nofun⟩
      · exact Or.inl ⟨at_, nofun⟩
  | spawn cfg =>
      obtain ⟨-, rfl⟩ := enabled_eq_some.mp h
      rcases Nat.lt_or_ge m x.workers.length with old | new
      · exact Or.inl ⟨(List.getElem?_append_left old).symm.trans at_, nofun⟩
      · rw [List.getElem?_append_right new] at at_
        obtain rfl := List.mem_singleton.mp (List.mem_of_getElem? at_)
        exact Or.inr (Or.inl ⟨cfg, rfl⟩)
  | spawnFailed =>
      obtain ⟨-, rfl⟩ := enabled_eq_some.mp h
      exact Or.inl ⟨at_, nofun⟩
  | work n op =>
      obtain ⟨w, here, -, worked⟩ := Updater.step_work h
      by_cases same : n = m
      · subst same
        exact Or.inr (Or.inr ⟨w, op, rfl, here, worked⟩)
      · refine Or.inl ⟨?_, fun o eq => same (UpdaterOp.work.inj eq).1⟩
        rcases Updater.work_cases worked with ⟨w', set, -⟩ | ⟨e, s, set, -⟩ <;>
        · rw [set, List.getElem?_set_ne same] at at_
          exact at_
  | decide choice =>
      cases h
      exact Or.inl ⟨at_, nofun⟩
  | signal =>
      obtain ⟨-, rfl⟩ := enabled_eq_some.mp h
      exact Or.inl ⟨at_, nofun⟩

/-- What every step keeps of the run so far. -/
structure Accounted (start : LiveTree β) (ops : List (UpdaterOp β)) (x : Updater β) : Prop where
  coherent : Coherent x
  held : ∀ n w, x.workers[n]? = some w → w.ParkedStaged → x.shared.choice = some .proceed →
    Consented start ops n
  applying : ∀ n w, x.workers[n]? = some w → w.stage.applying = true ∨ w.handedOver = true →
    Consented start ops n
  untouched : (∀ n, ¬ Consented start ops n) → AgreeOff reserved start x.live

theorem Accounted.initial (start : LiveTree β) : Accounted start [] { live := start } where
  coherent := Coherent.idle (by simp) rfl rfl
  held _ _ at_ := by simp at at_
  applying _ _ at_ := by simp at at_
  untouched _ := AgreeOff.refl _ _

theorem eq_of_getElem?_set {l : List (Worker β)} {v : Worker β} (here : l[n]? = some w)
    {w' : Worker β} (at_ : (l.set n w')[n]? = some v) : v = w' := by
  rw [List.getElem?_set_self (List.getElem?_eq_some_iff.mp here).1] at at_
  exact (Option.some.inj at_).symm

theorem active_of_parkedStaged (parked : w.ParkedStaged) : w.active = true := by
  obtain ⟨⟨m, a, staged⟩, -⟩ := parked
  rw [Worker.active, staged]

/-- A proceed accepted while a run is parked on its go/no-go prompt is a consent to that run. -/
theorem Accounted.accept (held : Accounted start ops x)
    (reached : run Updater.step { live := start } ops = some x) (here : x.workers[n]? = some w)
    (parked : w.ParkedStaged) {c : Choice} {prompt : Prompt}
    (accepted : apiUpdateDecide (some c) x.shared = (.accepted (prompt.effective c), y.shared))
    (proceeds : prompt.effective c = .proceed) :
    Consented start (ops ++ [.decide (some c)]) n := by
  obtain ⟨rfl, -⟩ := allowProceed_of_effective proceeds
  obtain ⟨-, -, attends⟩ := held.coherent.of_active here (active_of_parkedStaged parked)
  obtain ⟨p, own, opened, -⟩ := attends.parked parked.2
  exact ⟨ops, [], x, w, rfl, reached, here, parked, opened.trans own.symm, by
    rw [accepted, proceeds]⟩

theorem Accounted.held_step (held : Accounted start ops x)
    (reached : run Updater.step { live := start } ops = some x) {op : UpdaterOp β}
    (h : x.step op = some y) {m : ℕ} {v : Worker β} (at_ : y.workers[m]? = some v)
    (parked : v.ParkedStaged) (holds : y.shared.choice = some .proceed) :
    Consented start (ops ++ [op]) m := by
  rcases Updater.step_worker h at_ with ⟨old, idle⟩ | ⟨cfg, rfl⟩ | ⟨w, o, rfl, here, worked⟩
  · cases op with
    | start =>
        rcases Updater.step_start h with rfl | ⟨-, rfl⟩
        · exact (held.held m v old parked holds).later _
        · exact (held.held m v old parked holds).later _
    | spawn | spawnFailed | signal =>
        obtain ⟨-, rfl⟩ := enabled_eq_some.mp h
        exact (held.held m v old parked holds).later _
    | work n o =>
        -- The worker at its prompt is the one there is, so the step was its own.
        obtain ⟨w, here, active, -⟩ := Updater.step_work h
        obtain ⟨alone, -, -⟩ := held.coherent.of_active old (active_of_parkedStaged parked)
        obtain rfl := alone.others n w here active
        exact absurd rfl (idle o)
    | decide choice =>
        cases h
        rcases apiUpdateDecide_cases choice x.shared with
          ⟨refusal, -, eq⟩ | ⟨c, prompt, rfl, -, -, eq⟩
        · rw [eq] at holds
          exact (held.held m v old parked holds).later _
        · rw [eq] at holds
          exact held.accept (y := { x with shared := _ }) reached old parked eq
            (Option.some.inj holds)
  · exact absurd rfl parked.2
  · rcases Updater.work_cases worked with ⟨w', set, -, stage, -, keeps⟩ | ⟨e, s, set, -⟩
    · rw [set] at at_
      obtain rfl := eq_of_getElem?_set here at_
      obtain ⟨inside, held'⟩ := keeps parked.2 holds
      exact (held.held m w here ⟨stage ▸ parked.1, inside⟩ held').later _
    · rw [set] at at_
      obtain rfl := eq_of_getElem?_set here at_
      exact absurd rfl parked.2

theorem proceed_of_decided {got : Bool} {choice : Option Choice}
    (h : decided got choice = .proceed) : choice = some .proceed := by
  cases got with
  | false => cases h
  | true =>
      cases choice with
      | none => cases h
      | some c => exact congrArg some h

theorem applying_of_handedOver {s : RunState β} (handed : (w.next s).handedOver = true) :
    w.stage.applying = true ∨ w.handedOver = true := by
  rcases Bool.or_eq_true_iff.mp handed with hands | before
  · refine Or.inl ?_
    cases stage : w.stage <;> rw [stage] at hands <;> first | rfl | cases hands
  · exact Or.inr before

/-- Only a proceed that its own prompt returned takes a run past it. -/
theorem Accounted.applying_step (held : Accounted start ops x) {op : UpdaterOp β}
    (h : x.step op = some y) {m : ℕ} {v : Worker β} (at_ : y.workers[m]? = some v)
    (past : v.stage.applying = true ∨ v.handedOver = true) :
    Consented start (ops ++ [op]) m := by
  refine Consented.later ?_ op
  rcases Updater.step_worker h at_ with ⟨old, -⟩ | ⟨cfg, rfl⟩ | ⟨w, o, rfl, here, worked⟩
  · exact held.applying m v old past
  · rcases past with past | past <;> cases past
  rcases Updater.work_cases worked with
    ⟨w', set, -, stage, handed, -⟩ | ⟨e, s, set, -, stepped, own | ⟨got, point, rfl⟩⟩
  · rw [set] at at_
    obtain rfl := eq_of_getElem?_set here at_
    rw [stage, handed] at past
    exact held.applying m w here past
  · rw [set] at at_
    obtain rfl := eq_of_getElem?_set here at_
    refine held.applying m w here ?_
    rcases past with past | past
    · exact Or.inl (RunState.applying_of_step stepped own past)
    · exact applying_of_handedOver past
  · rw [set] at at_
    obtain rfl := eq_of_getElem?_set here at_
    rcases past with past | past
    · obtain ⟨stage, decided_, rfl⟩ := Option.map_eq_some_iff.mp stepped
      rcases Stage.applying_of_decide decided_ past with before | ⟨staged, proceeds⟩
      · exact held.applying m w here (Or.inl before)
      · exact held.held m w here ⟨staged, by simp [point]⟩ (proceed_of_decided proceeds)
    · exact held.applying m w here (applying_of_handedOver past)

theorem Accounted.untouched_step (held : Accounted start ops x) {op : UpdaterOp β}
    (h : x.step op = some y) (unasked : ∀ n, ¬ Consented start ops n) :
    AgreeOff reserved start y.live := by
  have kept := held.untouched unasked
  cases op with
  | start =>
      rcases Updater.step_start h with rfl | ⟨-, rfl⟩
      · exact kept
      · exact kept
  | spawn | spawnFailed | signal =>
      obtain ⟨-, rfl⟩ := enabled_eq_some.mp h
      exact kept
  | decide choice =>
      cases h
      exact kept
  | work n o =>
      obtain ⟨w, here, -, worked⟩ := Updater.step_work h
      rcases Updater.work_cases worked with ⟨w', -, live, -⟩ | ⟨e, s, -, live, stepped, -⟩
      · rw [live]
        exact kept
      · have early : w.stage.applying = false := Bool.eq_false_of_not_eq_true fun past =>
          unasked n (held.applying n w here (Or.inl past))
        rw [live]
        exact RunState.agreeOff_step (s := w.run x.live) kept early stepped

theorem Accounted.step (held : Accounted start ops x)
    (reached : run Updater.step { live := start } ops = some x) {op : UpdaterOp β}
    (h : x.step op = some y) : Accounted start (ops ++ [op]) y where
  coherent := held.coherent.step h
  held _ _ := held.held_step reached h
  applying _ _ := held.applying_step h
  untouched unasked := held.untouched_step h fun n consented => unasked n (consented.later op)

theorem accounted_of_run (h : run Updater.step { live := start } ops = some x) :
    Accounted start ops x :=
  run_induction (fun _ _ _ _ reached held h => held.step reached h) (Accounted.initial start) h

/-! ### The guarantees -/

theorem countP_le_one {α : Type*} {p : α → Bool} {l : List α} {n : ℕ}
    (only : ∀ m a, l[m]? = some a → p a = true → m = n) : l.countP p ≤ 1 := by
  induction l generalizing n with
  | nil => exact Nat.zero_le _
  | cons a l ih =>
      rw [List.countP_cons]
      split
      case isFalse =>
        refine ih (n := n - 1) fun m b at_ holds => ?_
        have := only (m + 1) b at_ holds
        omega
      case isTrue holds =>
        -- The head is the one, so the tail has none.
        have head := only 0 a rfl holds
        have tail : l.countP p = 0 := by
          refine List.countP_eq_zero.mpr fun b mem isOne => ?_
          obtain ⟨m, at_⟩ := List.mem_iff_getElem?.mp mem
          have := only (m + 1) b at_ isOne
          omega
        omega

theorem Coherent.at_most_one (held : Coherent x) :
    x.workers.countP Worker.active + x.starting ≤ 1 := by
  cases held with
  | idle returned unasked =>
      have none : x.workers.countP Worker.active = 0 :=
        List.countP_eq_zero.mpr fun w mem active => by simp [returned w mem] at active
      omega
  | starting returned one =>
      have none : x.workers.countP Worker.active = 0 :=
        List.countP_eq_zero.mpr fun w mem active => by simp [returned w mem] at active
      omega
  | running n w alone =>
      have := countP_le_one alone.others
      have := alone.starting
      omega

/-- A prompt that forbids to proceed returns revert, whatever the holder was given. -/
theorem Coherent.decided_revert (held : Coherent x) (here : x.workers[n]? = some w)
    {got : Bool} (point : w.point = .woken got) {prompt : Prompt}
    (parked : (w.run x.live).prompt? = some prompt) (forbids : prompt.allowProceed = false) :
    decided got x.shared.choice = .revert := by
  have active : w.active = true := by
    refine Bool.eq_true_of_not_eq_false fun returned => ?_
    rw [RunState.prompt?, Worker.run, finished_of_returned returned] at parked
    cases parked
  obtain ⟨-, -, attends⟩ := held.of_active here active
  obtain ⟨p, own, -, allows⟩ := attends.parked (by simp [point])
  obtain rfl := Option.some.inj (own.symm.trans parked)
  cases result : decided got x.shared.choice with
  | revert => rfl
  | proceed =>
      rw [allows (proceed_of_decided result)] at forbids
      cases forbids

/-- As long as nobody has consented to any run, no run has changed the live tree outside the
staging and the backups directory. -/
theorem untouched_without_consent (h : run Updater.step { live := start } ops = some x)
    (unasked : ∀ n, ¬ Consented start ops n) : AgreeOff reserved start x.live :=
  (accounted_of_run h).untouched unasked

/-- In every interleaving at most one worker is active or about to be created; a run that is past
its go/no-go prompt, where it swaps or launches the bootstrap script, or that has handed over, was
consented to while it was parked there; and a prompt that forbids to proceed returns revert. -/
theorem applying_consented (h : run Updater.step { live := start } ops = some x) :
    x.workers.countP Worker.active + x.starting ≤ 1 ∧
      (∀ n w, x.workers[n]? = some w → w.stage.applying = true ∨ w.handedOver = true →
        Consented start ops n) ∧
      ∀ (n : ℕ) (w : Worker β) got prompt, x.workers[n]? = some w → w.point = .woken got →
        (w.run x.live).prompt? = some prompt → prompt.allowProceed = false →
        decided got x.shared.choice = .revert :=
  have held := accounted_of_run h
  ⟨held.coherent.at_most_one, held.applying,
    fun _ _ _ _ here point parked forbids => held.coherent.decided_revert here point parked forbids⟩

/-- The first worker takes the steps of its run, each stage setting its phase. -/
def firstWorker : List (RunEvent β) → List (UpdaterOp β)
  | [] => []
  | e :: events => .work 0 .enter :: .work 0 (.run e) :: firstWorker events

/-- The first worker comes to its prompt, is told to proceed and takes the first step after it. -/
def proceedAtPrompt : List (UpdaterOp β) :=
  [.work 0 .enter, .work 0 .publish, .work 0 .clear, .decide (some .proceed), .signal,
    .work 0 .wake, .work 0 .withdraw, .work 0 .enter, .work 0 (.run .ok)]

/-- Two start requests, of which the second is refused, and the run of the first up to its swap. -/
def consentedUpdate : List (UpdaterOp (List Text)) :=
  .start :: .start :: .spawn devConfig :: (firstWorker stageOne ++ proceedAtPrompt)

theorem consented_consentedUpdate :
    ∃ x, run Updater.step { live := smallTree } consentedUpdate = some x ∧
      x.shared.phase = .swapping ∧ Consented smallTree consentedUpdate 0 := by
  have seen : (run Updater.step { live := smallTree } consentedUpdate).any fun x =>
      x.shared.phase = .swapping && x.workers[0]?.any fun w => w.stage.applying := by
    decide
  obtain ⟨x, ran, seen⟩ := (Option.any_eq_true _ _).mp seen
  obtain ⟨phase, past⟩ := Bool.and_eq_true_iff.mp seen
  obtain ⟨w, here, past⟩ := (Option.any_eq_true _ _).mp past
  exact ⟨x, ran, of_decide_eq_true phase, (applying_consented ran).2.1 0 w here (Or.inl past)⟩

end GeneratorPi
