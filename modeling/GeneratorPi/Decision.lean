import GeneratorPi.Lib.Trace

/-!
# The decision handshake of the updater

`_await_decision` (`genpi/updater.py`) parks the update worker on a prompt; `api_update_decide`
(`genpi/routes/update.py`) answers it.  They share the phase, the open prompt and the choice holder
under `_update_lock`, and an Event outside it.  The worker's sections are `publish`, `clear`, the
wait ending by `wake` or `timeout`, and `withdraw`; a request's are its locked section and, if it
was accepted, the later `signal` that sets the Event.

A `Dialogue` adds the history of what was promised to the requests and what the prompts returned.
Every promise is kept (`Honoured`) in every run in which no wait times out over a held proceed, no
proceed is accepted by a prompt that has timed out, and no accepted decision is contradicted by a
later one (`Undisturbed`).
-/

namespace GeneratorPi

open Trace

/-! ## The shared state -/

/-- `_update_state["phase"]`. -/
inductive Phase where
  | idle
  | checking
  | downloading
  | verifying
  | backingUp
  | swapping
  | staged
  | awaiting
  | restarting
  | done
  | failed
  deriving DecidableEq, Repr

inductive Choice where
  | proceed
  | revert
  deriving DecidableEq, Repr

/-- `_update_state["decide"]` with the message it is shown under. -/
structure Prompt where
  message : String
  allowProceed : Bool
  proceedLabel : String := "PROCEED"
  proceedDisabled : Bool := false
  deriving DecidableEq, Repr

/-- What a prompt makes of a requested choice: a proceed it forbids falls back to revert. -/
def Prompt.effective (p : Prompt) : Choice → Choice
  | .proceed => if p.allowProceed then .proceed else .revert
  | .revert => .revert

/-- Where the worker stands in `_await_decision`. -/
inductive WaitPoint where
  | outside
  | published
  | waiting
  | woken (got : Bool)
  deriving DecidableEq, Repr

/-- The state the worker and the requests share. -/
structure Handshake where
  point : WaitPoint := .outside
  phase : Phase := .checking
  prompt : Option Prompt := none
  choice : Option Choice := none
  event : Bool := false
  /-- Accepted requests that have not reached `_update_decision_event.set()`. -/
  unsignalled : ℕ := 0
  deriving DecidableEq, Repr

/-- The answer of `/api/update/decide`. -/
inductive DecideResponse where
  | invalidChoice
  | nothingPending
  | accepted (choice : Choice)
  deriving DecidableEq, Repr

/-- The locked section of `api_update_decide`; a body without a valid choice is `none`. -/
def apiUpdateDecide (choice : Option Choice) (s : Handshake) : DecideResponse × Handshake :=
  match choice with
  | none => (.invalidChoice, s)
  | some choice =>
      match s.prompt with
      | none => (.nothingPending, s)
      | some prompt =>
          if s.phase = .awaiting then
            let choice := prompt.effective choice
            (.accepted choice,
              { s with choice := some choice, unsignalled := s.unsignalled + 1 })
          else (.nothingPending, s)

/-- The choice `_await_decision` reads after its wait: the holder's, or the safe default. -/
def decided (got : Bool) (choice : Option Choice) : Choice :=
  if got then choice.getD .revert else .revert

/-! ## Interleavings -/

/-- The handshake with its history: the number of the latest prompt, the choice promised to each
accepted request, and the choice each prompt returned. -/
structure Dialogue where
  state : Handshake := {}
  latest : ℕ := 0
  promised : List (ℕ × Choice) := []
  returned : List (ℕ × Choice) := []
  deriving DecidableEq, Repr

inductive DecisionOp where
  | publish (prompt : Prompt)
  | clear
  | wake
  | timeout
  | withdraw
  /-- The worker moves to another phase outside every prompt. -/
  | enter (phase : Phase)
  | decide (choice : Option Choice)
  | signal
  deriving DecidableEq, Repr

def Dialogue.step (x : Dialogue) : DecisionOp → Option Dialogue
  | .publish prompt =>
      if x.state.point = .outside then
        some { x with
          state := { x.state with
            point := .published, phase := .awaiting, prompt := some prompt, choice := none }
          latest := x.latest + 1 }
      else none
  | .clear =>
      if x.state.point = .published then
        some { x with state := { x.state with point := .waiting, event := false } }
      else none
  | .wake =>
      if x.state.point = .waiting ∧ x.state.event = true then
        some { x with state := { x.state with point := .woken true } }
      else none
  | .timeout =>
      if x.state.point = .waiting ∧ x.state.event = false then
        some { x with state := { x.state with point := .woken false } }
      else none
  | .withdraw =>
      match x.state.point with
      | .woken got =>
          some { x with
            state := { x.state with point := .outside, prompt := none }
            returned := (x.latest, decided got x.state.choice) :: x.returned }
      | _ => none
  | .enter phase =>
      if x.state.point = .outside ∧ phase ≠ .awaiting then
        some { x with state := { x.state with phase := phase } }
      else none
  | .decide choice =>
      match apiUpdateDecide choice x.state with
      | (.accepted c, s) => some { x with state := s, promised := (x.latest, c) :: x.promised }
      | (_, s) => some { x with state := s }
  | .signal =>
      if 0 < x.state.unsignalled then
        some { x with
          state := { x.state with event := true, unsignalled := x.state.unsignalled - 1 } }
      else none

/-- Every choice promised for a prompt is the one that prompt returned. -/
def Honoured (x : Dialogue) : Prop :=
  ∀ n promise result, (n, promise) ∈ x.promised → (n, result) ∈ x.returned → promise = result

/-- The steps that break no promise: the wait does not time out over a held proceed, and a request
for the open prompt agrees with the decision already held and, once the wait has timed out, with
the default. -/
def Undisturbed (x : Dialogue) : DecisionOp → Prop
  | .timeout => x.state.choice ≠ some .proceed
  | .decide (some choice) => ∀ prompt, x.state.prompt = some prompt → x.state.phase = .awaiting →
      (x.state.choice = none ∨ x.state.choice = some (prompt.effective choice)) ∧
      (x.state.point = .woken false → prompt.effective choice = .revert)
  | _ => True

instance (x : Dialogue) (op : DecisionOp) : Decidable (Undisturbed x op) :=
  match op with
  | .timeout => inferInstanceAs (Decidable (_ ≠ _))
  | .decide (some choice) =>
      match h : x.state.prompt with
      | none => isTrue (by simp [Undisturbed, h])
      | some prompt =>
          decidable_of_iff (x.state.phase = .awaiting →
            (x.state.choice = none ∨ x.state.choice = some (prompt.effective choice)) ∧
            (x.state.point = .woken false → prompt.effective choice = .revert))
            (by simp [Undisturbed, h])
  | .decide none | .publish _ | .clear | .wake | .withdraw | .enter _ | .signal => isTrue trivial

/-- What an undisturbed run keeps: the holder has what was promised for the open prompt, and the
closed prompts returned what was promised for them. -/
structure PromisesHeld (x : Dialogue) : Prop where
  open_iff : x.state.prompt.isSome ↔ x.state.point ≠ .outside
  held : x.state.prompt.isSome → ∀ c, (x.latest, c) ∈ x.promised → x.state.choice = some c
  timedOut : x.state.point = .woken false → x.state.choice ≠ some .proceed
  honoured : Honoured x
  unreturned : x.state.prompt.isSome → ∀ c, (x.latest, c) ∉ x.returned
  promised_le : ∀ n c, (n, c) ∈ x.promised → n ≤ x.latest
  returned_le : ∀ n c, (n, c) ∈ x.returned → n ≤ x.latest

theorem PromisesHeld.initial : PromisesHeld {} where
  open_iff := by simp
  held open_ := by simp at open_
  timedOut h := by cases h
  honoured _ _ _ h := by cases h
  unreturned open_ := by simp at open_
  promised_le _ _ h := by cases h
  returned_le _ _ h := by cases h

/-- A step that leaves the prompts, the holder and the history alone keeps the promises, provided
it does not time out over a held proceed. -/
theorem PromisesHeld.of_point {x y : Dialogue} (held : PromisesHeld x)
    (latest : y.latest = x.latest) (promised : y.promised = x.promised)
    (returned : y.returned = x.returned) (prompt : y.state.prompt = x.state.prompt)
    (choice : y.state.choice = x.state.choice)
    (inside : y.state.point = .outside ↔ x.state.point = .outside)
    (late : y.state.point = .woken false → y.state.choice ≠ some .proceed) :
    PromisesHeld y where
  open_iff := by rw [prompt, held.open_iff, ne_eq, ne_eq, inside]
  held := by rw [prompt, latest, promised, choice]; exact held.held
  timedOut := late
  honoured := by unfold Honoured; rw [promised, returned]; exact held.honoured
  unreturned := by rw [prompt, latest, returned]; exact held.unreturned
  promised_le := by rw [promised, latest]; exact held.promised_le
  returned_le := by rw [returned, latest]; exact held.returned_le

theorem PromisesHeld.publish {x : Dialogue} (held : PromisesHeld x) (prompt : Prompt) :
    PromisesHeld { x with
      state := { x.state with
        point := .published, phase := .awaiting, prompt := some prompt, choice := none }
      latest := x.latest + 1 } where
  open_iff := by simp
  -- Nothing was promised or returned yet for a prompt with a new number.
  held _ c h := absurd (held.promised_le _ c h) (Nat.not_succ_le_self _)
  timedOut h := by cases h
  honoured := held.honoured
  unreturned _ c h := absurd (held.returned_le _ c h) (Nat.not_succ_le_self _)
  promised_le n c h := Nat.le_trans (held.promised_le n c h) (Nat.le_succ _)
  returned_le n c h := Nat.le_trans (held.returned_le n c h) (Nat.le_succ _)

theorem PromisesHeld.withdraw {x : Dialogue} (held : PromisesHeld x) {got : Bool}
    (point : x.state.point = .woken got) :
    PromisesHeld { x with
      state := { x.state with point := .outside, prompt := none }
      returned := (x.latest, decided got x.state.choice) :: x.returned } := by
  have opened : x.state.prompt.isSome := held.open_iff.mpr (by simp [point])
  -- What was promised for this prompt is what the holder gives it.
  have kept : ∀ c, (x.latest, c) ∈ x.promised → c = decided got x.state.choice := by
    intro c h
    have holder := held.held opened c h
    cases got with
    | true => simp [decided, holder]
    | false =>
        have late := held.timedOut point
        rw [holder] at late
        cases c with
        | proceed => exact absurd rfl late
        | revert => rfl
  refine ⟨by simp, by simp, by simp, ?_, by simp, held.promised_le, ?_⟩
  · intro n promise result hp hr
    rcases List.mem_cons.mp hr with eq | old
    · cases eq
      exact kept promise hp
    · exact held.honoured n promise result hp old
  · intro n c h
    rcases List.mem_cons.mp h with eq | old
    · cases eq
      exact Nat.le_refl _
    · exact held.returned_le n c old

/-- A request either leaves the shared state alone or is promised its effective choice. -/
theorem apiUpdateDecide_cases (choice : Option Choice) (s : Handshake) :
    (∃ refusal, (∀ c, refusal ≠ .accepted c) ∧ apiUpdateDecide choice s = (refusal, s)) ∨
    ∃ c prompt, choice = some c ∧ s.prompt = some prompt ∧ s.phase = .awaiting ∧
      apiUpdateDecide choice s = (.accepted (prompt.effective c),
        { s with choice := some (prompt.effective c), unsignalled := s.unsignalled + 1 }) := by
  cases choice with
  | none => exact Or.inl ⟨.invalidChoice, by simp, rfl⟩
  | some c =>
      cases hp : s.prompt with
      | none => exact Or.inl ⟨.nothingPending, by simp, by simp [apiUpdateDecide, hp]⟩
      | some prompt =>
          by_cases awaiting : s.phase = .awaiting
          · exact Or.inr ⟨c, prompt, rfl, rfl, awaiting, by simp [apiUpdateDecide, hp, awaiting]⟩
          · exact Or.inl ⟨.nothingPending, by simp, by simp [apiUpdateDecide, hp, awaiting]⟩

theorem PromisesHeld.accept {x : Dialogue} (held : PromisesHeld x) {prompt : Prompt}
    (opened : x.state.prompt = some prompt) {c : Choice}
    (agrees : x.state.choice = none ∨ x.state.choice = some c)
    (late : x.state.point = .woken false → c = .revert) :
    PromisesHeld { x with
      state := { x.state with choice := some c, unsignalled := x.state.unsignalled + 1 }
      promised := (x.latest, c) :: x.promised } := by
  have isOpen : x.state.prompt.isSome := by simp [opened]
  refine ⟨held.open_iff, ?_, ?_, ?_, held.unreturned, ?_, held.returned_le⟩
  · intro _ c' h
    rcases List.mem_cons.mp h with eq | old
    · cases eq
      rfl
    · have holder := held.held isOpen c' old
      rcases agrees with none | same
      · rw [none] at holder
        cases holder
      · exact same.symm.trans holder
  · intro point
    simp [late point]
  · intro n promise result hp hr
    rcases List.mem_cons.mp hp with eq | old
    · cases eq
      exact absurd hr (held.unreturned isOpen result)
    · exact held.honoured n promise result old hr
  · intro n c' h
    rcases List.mem_cons.mp h with eq | old
    · cases eq
      exact Nat.le_refl _
    · exact held.promised_le n c' old

theorem PromisesHeld.step {x y : Dialogue} (held : PromisesHeld x) {op : DecisionOp}
    (calm : Undisturbed x op) (h : x.step op = some y) : PromisesHeld y := by
  cases op with
  | publish prompt =>
      obtain ⟨-, rfl⟩ := enabled_eq_some.mp h
      exact held.publish prompt
  | clear =>
      obtain ⟨point, rfl⟩ := enabled_eq_some.mp h
      exact held.of_point rfl rfl rfl rfl rfl (by simp [point]) (by simp)
  | wake =>
      obtain ⟨⟨point, -⟩, rfl⟩ := enabled_eq_some.mp h
      exact held.of_point rfl rfl rfl rfl rfl (by simp [point]) (by simp)
  | timeout =>
      obtain ⟨⟨point, -⟩, rfl⟩ := enabled_eq_some.mp h
      exact held.of_point rfl rfl rfl rfl rfl (by simp [point]) fun _ => calm
  | withdraw =>
      cases point : x.state.point with
      | woken got =>
          simp only [Dialogue.step, point, Option.some.injEq] at h
          rw [← h]
          exact held.withdraw point
      | outside | published | waiting => simp [Dialogue.step, point] at h
  | enter phase =>
      obtain ⟨-, rfl⟩ := enabled_eq_some.mp h
      exact held.of_point rfl rfl rfl rfl rfl Iff.rfl held.timedOut
  | decide choice =>
      rcases apiUpdateDecide_cases choice x.state with
        ⟨refusal, refused, eq⟩ | ⟨c, prompt, rfl, opened, awaiting, eq⟩
      · have same : y = x := by
          cases refusal with
          | accepted c => exact absurd rfl (refused c)
          | invalidChoice | nothingPending =>
              simp only [Dialogue.step, eq, Option.some.injEq] at h
              exact h.symm
        rw [same]
        exact held
      · simp only [Dialogue.step, eq, Option.some.injEq] at h
        rw [← h]
        obtain ⟨agrees, late⟩ := calm prompt opened awaiting
        exact held.accept opened agrees late
  | signal =>
      obtain ⟨-, rfl⟩ := enabled_eq_some.mp h
      exact held.of_point rfl rfl rfl rfl rfl Iff.rfl held.timedOut

/-- In every undisturbed run, over any number of prompts and requests, no promise is broken. -/
theorem honoured_of_run {ops : List DecisionOp} {x : Dialogue}
    (calm : Meets Dialogue.step Undisturbed {} ops) (h : run Dialogue.step {} ops = some x) :
    Honoured x :=
  (run_invariant_of_meets (fun _ _ _ held calm h => PromisesHeld.step held calm h)
    PromisesHeld.initial calm h).honoured

/-- The go/no-go prompt at the end of stage 1. -/
def stagedPrompt : Prompt :=
  { message := "Ready to apply v1.6.0.", allowProceed := true, proceedLabel := "UPDATE" }

/-- Two requests that agree, the first before the Event is cleared, then an unattended prompt. -/
def agreeingRequests : List DecisionOp :=
  [.publish stagedPrompt, .decide (some .proceed), .clear, .signal, .wake,
    .decide (some .proceed), .withdraw, .enter .restarting, .signal,
    .publish { message := "Update failed: disk full", allowProceed := false }, .clear, .timeout,
    .decide (some .proceed), .withdraw]

theorem honoured_agreeingRequests :
    ∃ x, run Dialogue.step {} agreeingRequests = some x ∧
      x.promised = [(2, .revert), (1, .proceed), (1, .proceed)] ∧ Honoured x :=
  have calm : Meets Dialogue.step Undisturbed {} agreeingRequests := by decide
  ⟨_, rfl, rfl, honoured_of_run calm rfl⟩

/-- A proceed accepted and signalled between the publication of its prompt and the clearing of the
Event is answered with success, and the prompt returns revert. -/
theorem cleared_decision_lost :
    ∃ x, run Dialogue.step {} [.publish stagedPrompt, .decide (some .proceed), .signal, .clear,
        .timeout, .withdraw] = some x ∧
      (1, .proceed) ∈ x.promised ∧ (1, .revert) ∈ x.returned ∧ ¬ Honoured x := by
  refine ⟨_, rfl, by decide, by decide, fun honoured => ?_⟩
  exact Choice.noConfusion (honoured 1 .proceed .revert (by decide) (by decide))

end GeneratorPi
