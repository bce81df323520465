import GeneratorPi.SelfUpdate

/-!
# How a run of the update worker ends

`_run_update` returns whatever the manifest is and whatever its steps raise (`runUpdate_ends`).  A
prompt is closed when its decision is returned, so nothing has to be known of what comes before
one; behind it, the rules follow what a run shows to the requests.  The error handler opens a
prompt of its own and does not raise, so what the body left does not matter to it.
-/

namespace GeneratorPi

namespace SelfUpdate

open PyText PyJson Handled Noninterference

/-! ## What the requests see -/

/-- The state that a run shares with the requests satisfies `S`. -/
def Shows (S : Handshake → Prop) (m : Machine) : Prop := S m.update.shared

/-- No prompt is open. -/
def Closed (s : Handshake) : Prop := s.prompt = none

/-- The run is past its last prompt and no request can start another. -/
def Restarting (s : Handshake) : Prop := s.prompt = none ∧ s.phase = .restarting

def Failed (s : Handshake) : Prop := s.prompt = none ∧ s.phase = .failed

/-- The run failed, or it handed over to the process that restarts. -/
def Ended (m : Machine) : Prop :=
  m.update.shared.prompt = none ∧
    (m.update.shared.phase = .failed ∨
      m.update.shared.phase = .restarting ∧ m.handedOver = true)

section Rules

variable {α : Type} {S S' : Handshake → Prop} {E : PyError → Machine → Prop}

theorem ask_shows {answer : World → ℕ → α} : Keeps (Shows S) (ask answer) := by
  intro m hm
  unfold ask
  cases m.world.raises m.calls with
  | none => exact hm
  | some e => exact hm

theorem perform_shows : Keeps (Shows S) perform := ask_shows

theorem yes_shows : Keeps (Shows S) yes := ask_shows

theorem observe_shows {answer : World → ℕ → α} :
    Triple (Shows S) (observe answer) (fun _ => Shows S) E := fun _ hm => hm

theorem modifyState_shows {f : UpdateState → UpdateState} (h : ∀ u, S u.shared → S' (f u).shared) :
    Triple (Shows S) (modifyState f) (fun _ => Shows S') E :=
  Triple.modify fun m hm => h m.update hm

theorem fields_shows {f : UpdateState → UpdateState} (h : ∀ u, (f u).shared = u.shared) :
    Triple (Shows S) (modifyState f) (fun _ => Shows S) E :=
  modifyState_shows fun u hu => (h u).symm ▸ hu

theorem locals_shows {f : Machine → Machine} (h : ∀ m, (f m).update = m.update) :
    Triple (Shows S) (modify f : Run Unit) (fun _ => Shows S) E :=
  Triple.modify fun m hm => show S (f m).update.shared from (h m).symm ▸ hm

theorem updateLog_shows {line : String} :
    Triple (Shows S) (updateLog line) (fun _ => Shows S) E :=
  modifyState_shows fun _ hu => hu

theorem updatePhase_shows {phase : Phase} {message : String} {error : Option String}
    (h : ∀ s, S s → S' { s with phase }) :
    Triple (Shows S) (updatePhase phase message error) (fun _ => Shows S') E :=
  modifyState_shows fun u hu => h u.shared hu

theorem ignoringOSError_shows {p : Run Unit} (h : Keeps (Shows S) p) :
    Keeps (Shows S) (ignoringOSError p) :=
  Keeps.attempt h fun _ => Keeps.ite (Keeps.pure ()) (Triple.throw fun _ hm => hm)

/-- Whatever stood before, the prompt is closed when the decision is returned. -/
theorem awaitDecision_closed {prompt : Prompt} {P : Machine → Prop} :
    Triple P (awaitDecision prompt) (fun _ => Shows Closed) E := fun _ _ => rfl

theorem stageSummary_shows {stage : ℕ} : Keeps (Shows S) (stageSummary stage) := by
  unfold stageSummary
  refine Keeps.bind (Triple.get fun _ hm => hm) fun m => ?_
  refine Keeps.ite (Keeps.bind updateLog_shows fun _ => ?_) ?_ <;>
    exact Keeps.ite updateLog_shows (Keeps.pure ())

theorem discardStaging_shows : Triple (Shows S) discardStaging (fun _ => Shows S) E :=
  Triple.swallow (Keeps.bind yes_shows fun _ => Keeps.ite perform_shows (Keeps.pure ()))

theorem rollback_shows : Triple (Shows S) rollback (fun _ => Shows S) E := by
  refine Triple.swallow (Keeps.bind perform_shows fun _ => ?_)
  refine Keeps.bind (Keeps.attempt ask_shows fun _ => Keeps.pure _) fun added => ?_
  refine Keeps.bind (Keeps.forIn fun _ _ => ?_) fun _ => ?_
  · exact Keeps.bind (ignoringOSError_shows perform_shows) fun _ => Keeps.pure _
  · refine Keeps.bind ask_shows fun names => ?_
    refine Keeps.bind (Keeps.forIn fun _ _ => ?_) fun _ => Keeps.pure _
    exact Keeps.ite (Keeps.bind perform_shows fun _ => Keeps.pure _) (Keeps.pure _)

theorem undoSwap_shows : Triple (Shows S) undoSwap (fun _ => Shows S) E := by
  unfold undoSwap
  refine Triple.bind (Triple.get fun _ hm => hm) fun m => Triple.ite (fun _ => ?_) fun _ => ?_
  · exact Triple.bind updateLog_shows fun _ => rollback_shows
  · exact Triple.pure fun _ hm => hm

theorem reportElapsed_shows : Triple (Shows S) reportElapsed (fun _ => Shows S) E := by
  unfold reportElapsed
  refine Triple.bind (Triple.get fun _ hm => hm) fun m => ?_
  cases m.tApply with
  | none => exact Triple.pure fun _ hm => hm
  | some started => exact Triple.bind observe_shows fun now => updateLog_shows

theorem writeUpdateResult_shows : Triple (Shows S) writeUpdateResult (fun _ => Shows S) E :=
  Triple.swallow (Keeps.bind perform_shows fun _ => Keeps.bind perform_shows fun _ => perform_shows)

end Rules

/-! ## The handler -/

theorem updatePhase_failed {message : String} {error : Option String}
    {E : PyError → Machine → Prop} :
    Triple (Shows Closed) (updatePhase .failed message error) (fun _ => Ended) E := by
  have failed : Triple (Shows Closed) (updatePhase .failed message error)
      (fun _ => Shows Failed) E := updatePhase_shows fun _ closed => ⟨closed, rfl⟩
  exact failed.mono (fun _ hm => hm) (fun _ _ hm => ⟨hm.1, .inl hm.2⟩) fun _ _ he => he

/-- The error handler returns from every state, with the run failed. -/
theorem recover_ends {S : Handshake → Prop} (host : Host) (e : PyError) :
    Triple (Shows S) (recover host e) (fun _ => Ended) fun _ _ => False :=
  Triple.bind updateLog_shows fun _ =>
  Triple.bind awaitDecision_closed fun _ =>
  Triple.bind undoSwap_shows fun _ =>
  Triple.bind discardStaging_shows fun _ =>
  Triple.bind reportElapsed_shows fun _ =>
  Triple.bind updateLog_shows fun _ => updatePhase_failed

/-! ## The exits of the body -/

theorem refuseRelease_ends (host : Host) (version : Text) (gates : List Text) :
    Triple (fun _ => True) (refuseRelease host version gates) (fun _ => Ended) fun _ _ => True := by
  unfold refuseRelease
  refine Triple.bind Triple.any fun _ => ?_
  refine Triple.bind Triple.any fun _ => ?_
  refine Triple.bind Triple.any fun _ => ?_
  refine Triple.bind Triple.any fun _ => ?_
  refine Triple.bind awaitDecision_closed fun _ => ?_
  exact Triple.bind updateLog_shows fun _ => updatePhase_failed

theorem cancelUpdate_ends {E : PyError → Machine → Prop} (host : Host) :
    Triple (Shows Closed) (cancelUpdate host) (fun _ => Ended) E :=
  Triple.bind discardStaging_shows fun _ => Triple.bind updateLog_shows fun _ => updatePhase_failed

/-! ### Stage 2 -/

theorem writeBootstrapScript_shows {S : Handshake → Prop} (manifest version : Json) :
    Keeps (Shows S) (writeBootstrapScript manifest version) := by
  unfold writeBootstrapScript
  refine Keeps.bind (Keeps.lift _) fun files => Keeps.bind (Keeps.lift _) fun items => ?_
  refine Keeps.bind (Keeps.forIn fun f paths => ?_) fun paths => ?_
  · exact Keeps.bind (Keeps.lift _) fun path => Keeps.pure _
  refine Keeps.bind (Keeps.forIn fun p _ => ?_) fun _ => ?_
  · exact Keeps.bind (Keeps.lift _) fun _ => Keeps.pure _
  refine Keeps.bind (Keeps.lift _) fun _ => ?_
  exact Keeps.bind perform_shows fun _ => Keeps.bind perform_shows fun _ =>
    Keeps.bind perform_shows fun _ => perform_shows

theorem swapFile_shows {S : Handshake → Prop} (host : Host) (f : Json) :
    Keeps (Shows S) (swapFile host f) := by
  have call (b : Bool) : Keeps (Shows S) (performIf b) := Keeps.ite perform_shows (Keeps.pure ())
  have size (b : Bool) : Keeps (Shows S) (sizeIf b) := Keeps.ite ask_shows (Keeps.pure 0)
  unfold swapFile
  refine Keeps.bind (Keeps.lift _) fun rel => Keeps.bind (Keeps.lift _) fun _ => ?_
  refine Keeps.bind perform_shows fun _ => Keeps.bind yes_shows fun existed => ?_
  refine Keeps.bind (size existed) fun oldBytes => Keeps.bind (call existed) fun _ => ?_
  refine Keeps.bind perform_shows fun _ => Keeps.bind (call existed) fun _ => ?_
  exact Keeps.bind perform_shows fun _ => Keeps.bind ask_shows fun newBytes => updateLog_shows

theorem swap_shows {S : Handshake → Prop} (host : Host) (manifest : Json) :
    Keeps (Shows S) (swap host manifest) := by
  unfold swap
  refine Keeps.bind (Keeps.lift _) fun files => Keeps.bind (Keeps.lift _) fun items => ?_
  refine Keeps.bind (Keeps.forIn fun f _ => ?_) fun _ => Keeps.pure _
  exact Keeps.bind (swapFile_shows host f) fun _ => Keeps.pure _

theorem verifySwapped_shows {S : Handshake → Prop} (host : Host) (f : Json) :
    Keeps (Shows S) (verifySwapped host f) := by
  unfold verifySwapped
  refine Keeps.bind (Keeps.lift _) fun rel => Keeps.bind (Keeps.lift _) fun want => ?_
  refine Keeps.bind (Keeps.lift _) fun _ => Keeps.bind ask_shows fun got => ?_
  refine Keeps.ite (Keeps.bind (Triple.throw fun _ hm => hm) fun _ => ?_) updateLog_shows
  exact updateLog_shows

theorem verifySwap_shows {S : Handshake → Prop} (host : Host) (manifest : Json) :
    Keeps (Shows S) (verifySwap host manifest) := by
  unfold verifySwap
  refine Keeps.bind updateLog_shows fun _ => ?_
  refine Keeps.bind (Keeps.lift _) fun files => Keeps.bind (Keeps.lift _) fun items => ?_
  refine Keeps.bind (Keeps.forIn fun f _ => ?_) fun _ => Keeps.pure _
  exact Keeps.bind (verifySwapped_shows host f) fun _ => Keeps.pure _

/-- The run hands over as its last step. -/
theorem handOver_ends {E : PyError → Machine → Prop} :
    Triple (Shows Restarting) (modify fun m => { m with handedOver := true } : Run Unit)
      (fun _ => Ended) E :=
  Triple.modify fun _ hm => ⟨hm.1, .inr ⟨hm.2, rfl⟩⟩

theorem closed_of_closed {phase : Phase} (s : Handshake) (closed : Closed s) :
    Closed { s with phase } := closed

theorem restarting_of_closed (s : Handshake) (closed : Closed s) :
    Restarting { s with phase := .restarting } := ⟨closed, rfl⟩

theorem launchBootstrap_ends (host : Host) (manifest version : Json) :
    Triple (Shows Closed) (launchBootstrap host manifest version) (fun _ => Ended)
      fun _ _ => True := by
  unfold launchBootstrap
  refine Triple.bind (fields_shows fun _ => rfl) fun _ => ?_
  refine Triple.bind updateLog_shows fun _ => ?_
  refine Triple.bind (updatePhase_shows restarting_of_closed) fun _ => ?_
  have seed : Keeps (Shows Restarting) (perform >>= fun _ => perform) :=
    Keeps.bind perform_shows fun _ => perform_shows
  refine Triple.bind (ignoringOSError_shows seed).returned fun _ => ?_
  refine Triple.bind (writeBootstrapScript_shows manifest version).returned fun _ => ?_
  exact Triple.bind perform_shows.returned fun _ => handOver_ends

theorem swapInProcess_ends (host : Host) (manifest version : Json) (zpath : String) (number : ℕ) :
    Triple (Shows Closed) (swapInProcess host manifest version zpath number) (fun _ => Ended)
      fun _ _ => True := by
  unfold swapInProcess
  refine Triple.bind (fields_shows fun _ => rfl) fun _ => ?_
  refine Triple.bind (updatePhase_shows closed_of_closed) fun _ => ?_
  refine Triple.bind (locals_shows fun _ => rfl) fun _ => ?_
  refine Triple.bind updateLog_shows fun _ => Triple.bind updateLog_shows fun _ => ?_
  refine Triple.bind (swap_shows host manifest).returned fun _ => ?_
  refine Triple.bind (verifySwap_shows host manifest).returned fun _ => ?_
  refine Triple.bind stageSummary_shows.returned fun _ => ?_
  refine Triple.bind updateLog_shows fun _ => Triple.bind updateLog_shows fun _ => ?_
  refine Triple.bind writeUpdateResult_shows fun _ => ?_
  refine Triple.bind (updatePhase_shows restarting_of_closed) fun _ => ?_
  exact Triple.bind perform_shows.returned fun _ => handOver_ends

theorem applyRelease_ends (host : Host) (manifest version : Json) (service : Bool)
    (zpath : String) (number : ℕ) :
    Triple (Shows Closed) (applyRelease host manifest version service zpath number)
      (fun _ => Ended) fun _ _ => True := by
  unfold applyRelease
  refine Triple.bind updateLog_shows fun _ => ?_
  refine Triple.bind (fields_shows fun _ => rfl) fun _ => ?_
  refine Triple.bind observe_shows fun now => Triple.bind (locals_shows fun _ => rfl) fun _ => ?_
  refine Triple.ite (fun _ => ?_) fun _ => ?_
  · exact launchBootstrap_ends host manifest version
  · exact swapInProcess_ends host manifest version zpath number

/-! ## The run -/

theorem runBody_ends {P : Machine → Prop} (host : Host) :
    Triple P (runBody host) (fun _ => Ended) fun _ _ => True := by
  unfold runBody
  refine Triple.bind Triple.any fun manifest => ?_
  refine Triple.bind Triple.any fun version => ?_
  refine Triple.bind Triple.any fun files => ?_
  refine Triple.bind Triple.any fun number => ?_
  refine Triple.bind Triple.any fun _ => Triple.bind Triple.any fun _ => ?_
  refine Triple.bind Triple.any fun gates => Triple.ite (fun _ => ?_) fun _ => ?_
  · refine Triple.bind Triple.any fun service => Triple.bind Triple.any fun zpath => ?_
    refine Triple.bind awaitDecision_closed fun choice => ?_
    cases choice with
    | revert => exact cancelUpdate_ends host
    | proceed => exact applyRelease_ends host manifest _ service zpath number
  · exact refuseRelease_ends host _ gates

/-- Whatever the manifest is and whatever the steps raise, the run returns: it handed over to a
process that restarts, or it failed, no prompt is open and the next start request is accepted. -/
theorem runUpdate_ends (host : Host) (m : Machine) :
    ∃ m', runUpdate host m = .ok () m' ∧ m'.update.shared.prompt = none ∧
      (m'.handedOver = true ∧ m'.update.shared.phase = .restarting ∨
        m'.update.shared.phase = .failed ∧ ∀ systemd, (m'.update.start systemd).1 = true) := by
  have run : Triple (Shows fun _ => True) (runUpdate host) (fun _ => Ended) fun _ _ => False := by
    unfold runUpdate
    refine Triple.bind (locals_shows fun _ => rfl) fun _ => ?_
    refine Triple.bind (fields_shows fun _ => rfl) fun _ => ?_
    exact Triple.attempt (runBody_ends host) fun e =>
      recover_ends (S := fun _ => True) host e
  obtain ⟨_, m', returns, closed, out⟩ := run.returns (s := m) trivial
  refine ⟨m', returns, closed, ?_⟩
  rcases out with failed | ⟨restarting, handedOver⟩
  · refine .inr ⟨failed, fun systemd => ?_⟩
    have free : m'.update.shared.phase.free = true := by rw [failed]; rfl
    simp only [UpdateState.start, apiUpdateStart, free, if_true]
  · exact .inl ⟨handedOver, restarting⟩

end SelfUpdate

end GeneratorPi
