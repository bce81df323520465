import GeneratorPi.SelfUpdate

/-!
# The update modal of a page

The self-update flow of `app.js`: the buttons of the modal, the requests and timers it leaves
outstanding, and the loop that waits for the restarted server.  The answers of the server are the
states of `_update_state`, in any order; so they are also when other pages and the worker change
them in between.

In every run of clicks, answers, failures and timers, at most one request or timer of the flow is
outstanding beside the changelog requests of its openings, none of them while a prompt is shown or
once the modal can be closed (`calm_of_run`); a page sends proceed only where the last status it
was given was a prompt that allows it, and shows the all-clear only where that prompt has no
warning and no error (`proceed_of_run`); and it reloads only after two different start times of
the server (`reloaded_of_run`).
-/

namespace GeneratorPi.UpdateModal

open Trace PyText SelfUpdate

/-! ## The page (app.js) -/

/-- `dataset.role` -/
inductive Role where
  | plain
  | revert
  | proceed
  deriving DecidableEq

structure Button where
  label : String
  role : Role := .plain
  disabled : Bool := false
  loading : Bool := false
  /-- `style.display='none'` -/
  hidden : Bool := false
  deriving DecidableEq

/-- A banner of `updWarn`: its text, and whether it is red. -/
structure Warning where
  text : String
  isErr : Bool := false
  deriving DecidableEq

/-- Where a loop of `_waitBackAndReload` stands. -/
inductive WaitPoint where
  /-- A request for `/api/state` is in flight. -/
  | asked
  /-- Its `setTimeout` has not fired. -/
  | resting
  | ended
  deriving DecidableEq

structure WaitLoop where
  base : Option ℚ := none
  tries : ℕ := 1
  point : WaitPoint := .asked

structure Page where
  /-- `updModal` is shown. -/
  shown : Bool := false
  doBtn : Button := ⟨"PROCEED", .plain, false, false, false⟩
  cancel : Button := ⟨"CANCEL", .plain, false, false, false⟩
  /-- `.confirm-btns` is hidden. -/
  buttonsHidden : Bool := false
  working : Bool := false
  warn : Option Warning := none
  ok : Bool := false
  /-- The notes and the version in the IMPORTANT box, where it is shown. -/
  important : Option (List Text × Option PyJson.Json) := none
  lastPhase : Option Phase := none
  /-- `_updPoll`, also where its timer has fired. -/
  updPoll : Option ℕ := none
  updateActive : Bool := false
  waiting : Bool := false
  reverting : Bool := false
  /-- `setTimeout(_pollUpdate,refreshMs)` calls that have neither fired nor been cleared. -/
  timers : List ℕ := []
  nextTimer : ℕ := 0
  /-- Requests in flight: changelog, start, status, decide. -/
  changelogs : ℕ := 0
  starts : ℕ := 0
  polls : ℕ := 0
  decides : List Choice := []
  loops : List WaitLoop := []
  reloaded : Bool := false

/-- `_updWarn(true,text,isErr)` -/
def Page.updWarn (p : Page) (text : String) (isErr : Bool) : Page :=
  { p with warn := some ⟨text, isErr⟩, ok := false }

/-- `_updOk(true)` -/
def Page.updOk (p : Page) : Page := { p with ok := true, warn := none }

/-- `_updWarn(false);_updOk(false)` -/
def Page.noBanner (p : Page) : Page := { p with warn := none, ok := false }

def counted (n : ℕ) (noun : String) : String :=
  toString n ++ " " ++ noun ++ if n = 1 then "" else "s"

/-- `_updStaged` -/
def Page.updStaged (p : Page) (s : UpdateState) : Page :=
  let err := s.stage1.err + s.stage2.err
  let warn := s.stage1.warn + s.stage2.warn
  if err + warn = 0 then p.updOk
  else
    let parts := (if err ≠ 0 then [counted err "error"] else []) ++
      if warn ≠ 0 then [counted warn "warning"] else []
    p.updWarn ("Staged and verified — " ++ " and ".intercalate parts ++
      " occurred. Nothing has changed yet.") (0 < err)

/-- `_showImportant` -/
def Page.showImportant (p : Page) (notes : Option (List Text)) (version : Option PyJson.Json) :
    Page :=
  { p with important := notes.map fun notes => (notes, version) }

/-- `setTimeout(_pollUpdate,refreshMs)`, kept in `_updPoll`. -/
def Page.arm (p : Page) : Page :=
  { p with
    updPoll := some p.nextTimer
    timers := p.timers ++ [p.nextTimer]
    nextTimer := p.nextTimer + 1 }

/-- `if(_updPoll)clearTimeout(_updPoll)` -/
def Page.clearTimer (p : Page) : Page :=
  match p.updPoll with
  | some t => { p with timers := p.timers.erase t }
  | none => p

/-- `_pollUpdate` up to its request. -/
def Page.pollUpdate (p : Page) : Page :=
  let p := p.clearTimer
  { p with polls := p.polls + 1 }

/-- `openUpdateModal` -/
def Page.openUpdateModal (p : Page) : Page :=
  { p with
    waiting := false
    reverting := false
    buttonsHidden := false
    doBtn := ⟨"PROCEED", .plain, false, false, false⟩
    cancel := ⟨"CANCEL", .plain, false, false, false⟩
    working := false
    warn := none
    ok := false
    important := none
    lastPhase := none
    shown := true
    changelogs := p.changelogs + 1 }

/-- `_waitBackAndReload` up to its first request. -/
def Page.waitBackAndReload (p : Page) : Page :=
  if p.waiting then p
  else
    { p with
      waiting := true
      warn := none
      ok := false
      buttonsHidden := true
      working := false
      loops := p.loops ++ [{}] }

/-- `_decide` up to its request. -/
def Page.decide (p : Page) (choice : Choice) : Page :=
  let p :=
    { p with
      doBtn := { p.doBtn with hidden := true, role := .plain }
      cancel := { p.cancel with role := .plain, label := "CLOSE", disabled := true }
      working := true
      warn := none
      ok := false
      important := none
      decides := p.decides ++ [choice] }
  match choice with
  | .proceed =>
      match p.updPoll with
      | some t => { p with timers := p.timers.erase t, updPoll := none }
      | none => p
  | .revert => { p with reverting := true }

def troubled : String :=
  "A warning or error occurred during the update — review the log above before proceeding."

/-- `_showDecision` -/
def Page.showDecision (p : Page) (s : UpdateState) : Page :=
  let allow := s.shared.prompt.any Prompt.allowProceed
  let blocked := s.shared.prompt.any Prompt.proceedDisabled
  let label := s.shared.prompt.map Prompt.proceedLabel
  let cancel : Button :=
    { label := if blocked then "CLOSE" else "REVERT", role := .revert, disabled := false,
      loading := p.cancel.loading, hidden := false }
  let doBtn : Button :=
    if allow then
      { label := (label.filter (· ≠ "")).getD "PROCEED", role := .proceed }
    else if blocked then
      { label := (label.filter (· ≠ "")).getD "UPDATE", role := .plain, disabled := true }
    else { p.doBtn with hidden := true }
  let p :=
    { p with cancel, doBtn, working := false }.showImportant
      (if blocked then some s.importantNotes else none) s.version
  if allow then p.updStaged s
  else if blocked then p.noBanner
  else p.updWarn troubled false

/-- `working` -/
def showsWork : Phase → Bool
  | .checking | .downloading | .verifying | .backingUp | .swapping | .restarting => true
  | _ => false

/-- What `_pollUpdate` makes of an answer. -/
def Page.status (p : Page) : Option UpdateState → Page
  | none => p.arm
  | some s =>
      let phase := s.shared.phase
      let p := { p with lastPhase := some phase, working := showsWork phase }
      let p := if showsWork phase then { p.noBanner with important := none } else p
      match phase with
      | .awaiting =>
          if p.reverting then { p.noBanner with reverting := false, working := true }.arm
          else { p.showDecision s with updPoll := none }
      | .failed =>
          let p := { p with updateActive := false, working := false, ok := false }
          let p := p.updWarn (if s.error.isSome then troubled else "Update aborted by user.") false
          { p with
            cancel := { p.cancel with label := "CLOSE", role := .plain, disabled := false }
            doBtn := { p.doBtn with hidden := true }
            updPoll := none }
      | .restarting => { p with updPoll := none }.waitBackAndReload
      | _ => p.arm

/-- A click on `updDoBtn`. -/
def Page.clickDo (p : Page) : Page :=
  if p.doBtn.role = .proceed then p.decide .proceed
  else if p.doBtn.loading then p
  else
    { p with
      doBtn := { p.doBtn with loading := true }
      cancel := { p.cancel with disabled := true }
      starts := p.starts + 1 }

/-- A click on `updCancelBtn`. -/
def Page.clickCancel (p : Page) : Page :=
  if p.cancel.role = .revert then p.decide .revert
  else if p.updPoll.isSome || p.updateActive then p
  else { p with shown := false }

/-- The answer to a start request; a refusal is an answer as well. -/
def Page.started (p : Page) : Page :=
  { p.noBanner with
    updateActive := true
    working := true
    doBtn := { p.doBtn with loading := false, hidden := true }
    cancel := { p.cancel with label := "CLOSE", disabled := true } }.pollUpdate

def Page.startFailed (p : Page) : Page :=
  { p with
    doBtn := { p.doBtn with loading := false }
    cancel := { p.cancel with disabled := false } }

/-- The answer to a decide request, or its failure. -/
def Page.decided (p : Page) : Choice → Page
  | .proceed => p.waitBackAndReload
  | .revert => p.pollUpdate

/-- `if(tries<330)setTimeout(poll,2000)` -/
def WaitLoop.rest (l : WaitLoop) : WaitLoop :=
  { l with point := if l.tries < 330 then .resting else .ended }

/-- The answer to a request for `/api/state`, with its `started_at`: the loop, or none where it
reloads the page. -/
def WaitLoop.answered (l : WaitLoop) : Option ℚ → Option WaitLoop
  | none => some l.rest
  | some t =>
      match l.base with
      | none => some { l with base := some t }.rest
      | some base => if t ≠ base then none else some l.rest

inductive Act where
  /-- `Update now` or `Force update` in the footer, which is inert behind the modal. -/
  | openModal
  /-- The answer to a changelog request, or its failure: either is a text in the terminal. -/
  | changelogSettled
  | clickDo
  | clickCancel
  | startSettled (answered : Bool)
  /-- The answer of a status request, or none where it failed. -/
  | statusSettled (answer : Option (Option UpdateState))
  | decideSettled (n : ℕ)
  | timer (t : ℕ)
  /-- The answer of a loop's request, or none where it failed. -/
  | waitSettled (n : ℕ) (answer : Option (Option ℚ))
  | waitTimer (n : ℕ)

/-- A button that takes clicks. -/
def Page.takes (p : Page) (b : Button) : Bool :=
  p.shown && !p.buttonsHidden && !b.hidden && !b.disabled

def Page.act (p : Page) : Act → Option Page
  | .openModal => if p.shown then none else some p.openUpdateModal
  | .changelogSettled =>
      if 0 < p.changelogs then some { p with changelogs := p.changelogs - 1 } else none
  | .clickDo => if p.takes p.doBtn then some p.clickDo else none
  | .clickCancel => if p.takes p.cancel then some p.clickCancel else none
  | .startSettled answered =>
      if 0 < p.starts then
        let p := { p with starts := p.starts - 1 }
        some (if answered then p.started else p.startFailed)
      else none
  | .statusSettled answer =>
      if 0 < p.polls then
        let p := { p with polls := p.polls - 1 }
        some (answer.elim p.arm p.status)
      else none
  | .decideSettled n =>
      p.decides[n]?.map fun choice => { p with decides := p.decides.eraseIdx n }.decided choice
  | .timer t =>
      if t ∈ p.timers then some { p with timers := p.timers.erase t }.pollUpdate else none
  | .waitSettled n answer =>
      match p.loops[n]? with
      | some l =>
          if l.point = .asked then
            match answer.elim (some l.rest) l.answered with
            | some l => some { p with loops := p.loops.set n l }
            | none =>
                some { p with loops := p.loops.set n { l with point := .ended }, reloaded := true }
          else none
      | none => none
  | .waitTimer n =>
      match p.loops[n]? with
      | some l =>
          if l.point = .resting then
            some { p with loops := p.loops.set n { l with point := .asked, tries := l.tries + 1 } }
          else none
      | none => none

/-- A page that is replaced does nothing more. -/
def Page.step (p : Page) (act : Act) : Option Page := if p.reloaded then none else p.act act

/-! ## What the page is about -/

/-- The prompt of a status allows proceed, and its stages had no warning and no error. -/
def Clean (s : UpdateState) : Prop :=
  s.shared.prompt.any Prompt.allowProceed = true ∧
    s.stage1.err + s.stage2.err + (s.stage1.warn + s.stage2.warn) = 0

inductive Mode where
  | closed
  /-- The changelog is shown. -/
  | ready
  | starting
  | following
  /-- An answer is being handled: nothing is outstanding, and the next poll is not yet armed. -/
  | answering
  | parked (s : UpdateState)
  | deciding (choice : Choice)
  /-- The run has failed or was reverted. -/
  | finished
  | waiting

def Mode.starts : Mode → ℕ
  | .starting => 1
  | _ => 0

def Mode.polls : Mode → ℕ
  | .following => 1
  | _ => 0

def Mode.decides : Mode → List Choice
  | .deciding choice => [choice]
  | _ => []

def Mode.loops : Mode → ℕ
  | .waiting => 1
  | _ => 0

/-- Whether the run goes on. -/
def Mode.active : Mode → Bool
  | .closed | .ready | .starting | .finished => false
  | _ => true

/-- What the buttons of the page are. -/
def Mode.Buttons (p : Page) : Mode → Prop
  | .closed => p.shown = false
  | .ready => p.doBtn.role = .plain ∧ p.doBtn.loading = false ∧ p.cancel.role = .plain
  | .starting =>
      p.doBtn.role = .plain ∧ p.doBtn.loading = true ∧ p.cancel.role = .plain ∧
        p.cancel.disabled = true
  | .following | .answering | .deciding _ => p.doBtn.hidden = true ∧ p.cancel.disabled = true
  | .parked s =>
      p.cancel.role = .revert ∧
        (p.doBtn.hidden = true ∨ p.doBtn.disabled = true ∨
          p.doBtn.role = .proceed ∧ s.shared.prompt.any Prompt.allowProceed = true)
  | .finished => p.doBtn.hidden = true ∧ p.cancel.role = .plain
  | .waiting => p.buttonsHidden = true

/-- The all-clear. -/
def Mode.clear : Mode → Prop
  | .parked s => Clean s
  | _ => False

structure Fits (m : Mode) (p : Page) : Prop where
  starts : p.starts = m.starts
  polled : p.polls + p.timers.length = m.polls
  timer : ∀ t ∈ p.timers, p.updPoll = some t
  poll : p.updPoll.isSome = true → m = .following ∨ m = .answering
  decides : p.decides = m.decides
  loops : p.loops.length = m.loops
  active : p.updateActive = m.active
  waiting : p.waiting = true → m = .waiting
  hidden : p.shown = false → m = .closed
  buttons : m.Buttons p
  banner : p.ok = true → p.warn = none ∧ m.clear

variable {p q : Page} {m : Mode}

theorem Fits.initial : Fits .closed {} where
  starts := rfl
  polled := rfl
  timer _ mem := by cases mem
  poll h := by cases h
  decides := rfl
  loops := rfl
  active := rfl
  waiting h := by cases h
  hidden _ := rfl
  buttons := rfl
  banner h := by cases h

theorem Fits.openModal (fits : Fits .closed p) : Fits .ready p.openUpdateModal where
  starts := fits.starts
  polled := fits.polled
  timer := fits.timer
  poll h := by rcases fits.poll h with h | h <;> cases h
  decides := fits.decides
  loops := fits.loops
  active := fits.active
  waiting h := by cases h
  hidden h := by cases h
  buttons := ⟨rfl, rfl, rfl⟩
  banner h := by cases h

theorem Fits.no_timer (fits : Fits m p) (none : m.polls = 0) : p.timers = [] := by
  have polled := fits.polled
  rw [none, Nat.add_eq_zero_iff] at polled
  exact List.eq_nil_of_length_eq_zero polled.2

theorem Fits.no_poll (fits : Fits m p) (none : m.polls = 0) : p.polls = 0 := by
  have polled := fits.polled
  rw [none, Nat.add_eq_zero_iff] at polled
  exact polled.1

/-- The next status request, from a page whose timer has fired or that has none. -/
theorem Fits.pollUpdate (fits : Fits .answering p) : Fits .following p.pollUpdate := by
  have cleared : p.clearTimer = p := by
    rw [Page.clearTimer]
    split
    case h_1 t here =>
      have gone := fits.no_timer rfl
      cases p
      simp_all
    case h_2 => rfl
  rw [Page.pollUpdate, cleared]
  exact
    { starts := fits.starts
      polled := by
        change p.polls + 1 + p.timers.length = 1
        rw [fits.no_poll rfl, fits.no_timer rfl]
        rfl
      timer := fits.timer
      poll := fun _ => Or.inl rfl
      decides := fits.decides
      loops := fits.loops
      active := fits.active
      waiting := fun h => by cases fits.waiting h
      hidden := fun h => by cases fits.hidden h
      buttons := fits.buttons
      banner := fun h => (fits.banner h).2.elim }

theorem Fits.arm (fits : Fits .answering p) : Fits .following p.arm where
  starts := fits.starts
  polled := by
    change p.polls + (p.timers ++ [p.nextTimer]).length = 1
    rw [fits.no_poll rfl, fits.no_timer rfl]
    rfl
  timer t mem := by
    have only : t ∈ p.timers ++ [p.nextTimer] := mem
    rw [fits.no_timer rfl] at only
    rw [List.mem_singleton.mp only]
    rfl
  poll _ := Or.inl rfl
  decides := fits.decides
  loops := fits.loops
  active := fits.active
  waiting h := by cases fits.waiting h
  hidden h := by cases fits.hidden h
  buttons := fits.buttons
  banner h := (fits.banner h).2.elim

/-- The texts and marks that an answer shows. -/
theorem Fits.display (fits : Fits .answering p) (lastPhase : Option Phase) (working : Bool)
    (important : Option (List Text × Option PyJson.Json)) (warn : Option Warning) {ok : Bool}
    (unclear : ok = true → p.ok = true) (reverting : Bool) :
    Fits .answering { p with lastPhase, working, important, warn, ok, reverting } where
  starts := fits.starts
  polled := fits.polled
  timer := fits.timer
  poll := fits.poll
  decides := fits.decides
  loops := fits.loops
  active := fits.active
  waiting := fits.waiting
  hidden := fits.hidden
  buttons := fits.buttons
  banner h := (fits.banner (unclear h)).2.elim

theorem Fits.waitBackAndReload (fits : Fits .answering p) (idle : p.updPoll = none) :
    Fits .waiting p.waitBackAndReload := by
  have fresh : p.waiting = false := eq_false_of_ne_true fun h => by cases fits.waiting h
  rw [Page.waitBackAndReload, fresh, if_neg Bool.false_ne_true]
  exact
    { starts := fits.starts
      polled := fits.polled
      timer := fits.timer
      poll := fun h => by
        have armed : p.updPoll.isSome = true := h
        rw [idle] at armed
        cases armed
      decides := fits.decides
      loops := by
        change (p.loops ++ [({} : WaitLoop)]).length = 1
        rw [List.length_append, fits.loops]
        rfl
      active := fits.active
      waiting := fun _ => rfl
      hidden := fun h => by cases fits.hidden h
      buttons := rfl
      banner := fun h => by cases h }

theorem Fits.showDecision (fits : Fits .answering p) (s : UpdateState) :
    Fits (.parked s) { p.showDecision s with updPoll := none } := by
  have parked : ∀ doBtn cancel important warn ok,
      doBtn.hidden = true ∨ doBtn.disabled = true ∨
        doBtn.role = .proceed ∧ s.shared.prompt.any Prompt.allowProceed = true →
      cancel.role = .revert → (ok = true → warn = none ∧ Clean s) →
      Fits (.parked s)
        { p with doBtn, cancel, important, warn, ok, working := false, updPoll := none } :=
    fun doBtn cancel important warn ok buttons role banner =>
      { starts := fits.starts
        polled := fits.polled
        timer := fun t mem => by
          have old : t ∈ p.timers := mem
          rw [fits.no_timer rfl] at old
          cases old
        poll := fun h => by cases h
        decides := fits.decides
        loops := fits.loops
        active := fits.active
        waiting := fun h => by cases fits.waiting h
        hidden := fun h => by cases fits.hidden h
        buttons := ⟨role, buttons⟩
        banner := banner }
  rw [Page.showDecision]
  dsimp only
  cases allow : s.shared.prompt.any Prompt.allowProceed with
  | true =>
      have buttons : Role.proceed = .proceed ∧ s.shared.prompt.any Prompt.allowProceed = true :=
        ⟨rfl, allow⟩
      rw [if_pos rfl, if_pos rfl, Page.updStaged]
      dsimp only
      split
      case isTrue none =>
        exact parked _ _ _ _ _ (Or.inr (Or.inr buttons)) rfl fun _ => ⟨rfl, allow, none⟩
      case isFalse => exact parked _ _ _ _ _ (Or.inr (Or.inr buttons)) rfl nofun
  | false =>
      rw [if_neg Bool.false_ne_true, if_neg Bool.false_ne_true]
      cases blocked : s.shared.prompt.any Prompt.proceedDisabled with
      | true =>
          rw [if_pos rfl, if_pos rfl]
          exact parked _ _ _ _ _ (Or.inr (Or.inl rfl)) rfl nofun
      | false =>
          rw [if_neg Bool.false_ne_true, if_neg Bool.false_ne_true]
          exact parked _ _ _ _ _ (Or.inl rfl) rfl nofun

/-- The run that has failed. -/
theorem Fits.failed (fits : Fits .answering p) (lastPhase : Option Phase)
    (important : Option (List Text × Option PyJson.Json)) (warn : Option Warning) :
    Fits .finished
      { p with
        lastPhase, important, warn
        working := false
        ok := false
        updateActive := false
        cancel := { p.cancel with label := "CLOSE", role := .plain, disabled := false }
        doBtn := { p.doBtn with hidden := true }
        updPoll := none } where
  starts := fits.starts
  polled := fits.polled
  timer t mem := by
    have old : t ∈ p.timers := mem
    rw [fits.no_timer rfl] at old
    cases old
  poll h := by cases h
  decides := fits.decides
  loops := fits.loops
  active := rfl
  waiting h := by cases fits.waiting h
  hidden h := by cases fits.hidden h
  buttons := ⟨rfl, rfl⟩
  banner h := by cases h

theorem Fits.unpolled (fits : Fits .answering p) : Fits .answering { p with updPoll := none } where
  starts := fits.starts
  polled := fits.polled
  timer t mem := by
    have old : t ∈ p.timers := mem
    rw [fits.no_timer rfl] at old
    cases old
  poll h := by cases h
  decides := fits.decides
  loops := fits.loops
  active := fits.active
  waiting := fits.waiting
  hidden := fits.hidden
  buttons := fits.buttons
  banner := fits.banner

theorem Page.status_awaiting {s : UpdateState} (phase : s.shared.phase = .awaiting) :
    p.status (some s) =
      if p.reverting then
        Page.arm { p with lastPhase := some .awaiting, working := true, warn := none, ok := false,
                          reverting := false }
      else
        { Page.showDecision { p with lastPhase := some .awaiting, working := false } s with
          updPoll := none } := by
  rw [Page.status, phase]
  rfl

/-- The modes that an answered status leads to. -/
theorem Fits.status (fits : Fits .answering p) (answer : Option UpdateState) :
    ∃ m, Fits m (p.status answer) ∧
      (∀ s, m = .parked s → answer = some s ∧ s.shared.phase = .awaiting) ∧
      m ≠ .deciding .proceed := by
  cases answer with
  | none => exact ⟨.following, fits.arm, fun _ same => (nomatch same), nofun⟩
  | some s =>
      have idle : ∀ phase, Fits .answering { p with lastPhase := some phase, working := false } :=
        fun phase => fits.display _ _ _ _ id _
      have busy : ∀ phase, Fits .answering
          { p with lastPhase := some phase, working := true, warn := none, ok := false,
                   important := none } :=
        fun phase => fits.display _ _ _ _ Bool.false_ne_true.elim _
      cases phase : s.shared.phase with
      | awaiting =>
          rw [Page.status_awaiting phase]
          split
          case isTrue => exact ⟨.following, Fits.arm
              (fits.display _ _ _ _ Bool.false_ne_true.elim _), fun _ same => (nomatch same), nofun⟩
          case isFalse =>
            refine ⟨.parked s, (idle .awaiting).showDecision s, fun t same => ?_, nofun⟩
            cases same
            exact ⟨rfl, phase⟩
      | failed =>
          rw [Page.status, phase]
          exact ⟨.finished, fits.failed _ _ _, fun _ same => (nomatch same), nofun⟩
      | restarting =>
          rw [Page.status, phase]
          exact ⟨.waiting, (busy .restarting).unpolled.waitBackAndReload rfl,
            fun _ same => (nomatch same), nofun⟩
      | idle =>
          rw [Page.status, phase]
          exact ⟨.following, (idle .idle).arm, fun _ same => (nomatch same), nofun⟩
      | done =>
          rw [Page.status, phase]
          exact ⟨.following, (idle .done).arm, fun _ same => (nomatch same), nofun⟩
      | staged =>
          rw [Page.status, phase]
          exact ⟨.following, (idle .staged).arm, fun _ same => (nomatch same), nofun⟩
      | checking =>
          rw [Page.status, phase]
          exact ⟨.following, (busy .checking).arm, fun _ same => (nomatch same), nofun⟩
      | downloading =>
          rw [Page.status, phase]
          exact ⟨.following, (busy .downloading).arm, fun _ same => (nomatch same), nofun⟩
      | verifying =>
          rw [Page.status, phase]
          exact ⟨.following, (busy .verifying).arm, fun _ same => (nomatch same), nofun⟩
      | backingUp =>
          rw [Page.status, phase]
          exact ⟨.following, (busy .backingUp).arm, fun _ same => (nomatch same), nofun⟩
      | swapping =>
          rw [Page.status, phase]
          exact ⟨.following, (busy .swapping).arm, fun _ same => (nomatch same), nofun⟩

/-! ## Every action -/

/-- Modes with nothing outstanding. -/
def Mode.still : Mode → Bool
  | .closed | .ready | .parked _ | .finished => true
  | _ => false

/-- Modes in which the page keeps a timer, or has one answered. -/
def Mode.followed : Mode → Bool
  | .following | .answering => true
  | _ => false

theorem Fits.idle (fits : Fits m p) (unfollowed : m.followed = false) : p.updPoll = none := by
  cases armed : p.updPoll with
  | none => rfl
  | some t =>
      rcases fits.poll (by rw [armed]; rfl) with rfl | rfl
      · cases unfollowed
      · cases unfollowed

theorem Fits.decide (fits : Fits m p) (still : m.still = true) (active : m.active = true)
    (choice : Choice) : Fits (.deciding choice) (p.decide choice) := by
  have idle : p.updPoll = none := fits.idle (by cases m <;> first | rfl | cases still)
  have none_starts : m.starts = 0 := by cases m <;> first | rfl | cases still
  have none_polls : m.polls = 0 := by cases m <;> first | rfl | cases still
  have none_decides : m.decides = [] := by cases m <;> first | rfl | cases still
  have none_loops : m.loops = 0 := by cases m <;> first | rfl | cases still
  have resolved : ∀ q : Page, q.starts = p.starts → q.polls = p.polls → q.timers = p.timers →
      q.updPoll = none → q.decides = p.decides ++ [choice] → q.loops = p.loops →
      q.updateActive = p.updateActive → q.waiting = p.waiting → q.shown = p.shown →
      q.doBtn.hidden = true →
      q.cancel.disabled = true → q.ok = false → Fits (.deciding choice) q :=
    fun q starts polls timers updPoll decides loops updateActive waiting shown hidden disabled ok =>
      { starts := starts.trans (fits.starts.trans none_starts)
        polled := by rw [polls, timers, fits.polled, none_polls]; rfl
        timer := fun t mem => by
          rw [timers, fits.no_timer none_polls] at mem
          cases mem
        poll := fun h => by
          rw [updPoll] at h
          cases h
        decides := by rw [decides, fits.decides, none_decides]; rfl
        loops := by rw [loops, fits.loops, none_loops]; rfl
        active := updateActive.trans (fits.active.trans active)
        waiting := fun h => by
          rw [waiting] at h
          have here := fits.waiting h
          rw [here] at still
          cases still
        hidden := fun h => by
          rw [shown] at h
          have here := fits.hidden h
          rw [here] at active
          cases active
        buttons := ⟨hidden, disabled⟩
        banner := fun h => by
          rw [ok] at h
          cases h }
  cases choice with
  | proceed =>
      rw [Page.decide]
      dsimp only
      rw [idle]
      exact resolved _ rfl rfl rfl rfl rfl rfl rfl rfl rfl rfl rfl rfl
  | revert => exact resolved _ rfl rfl rfl idle rfl rfl rfl rfl rfl rfl rfl rfl

/-- How a mode is come to: a prompt by the status that has it, and a proceed by a click where a
prompt that allows it is shown.  A changelog that comes late leaves the mode. -/
structure Leads (m : Mode) (act : Act) (m' : Mode) : Prop where
  parked : ∀ s, m' = .parked s →
    act = .changelogSettled ∧ m = .parked s ∨
      act = .statusSettled (some (some s)) ∧ s.shared.phase = .awaiting
  proceed : m' = .deciding .proceed →
    m = .deciding .proceed ∨
      act = .clickDo ∧ ∃ s, m = .parked s ∧ s.shared.prompt.any Prompt.allowProceed = true

/-- Modes with neither a prompt nor an answer to one. -/
def Mode.plain : Mode → Bool
  | .parked _ | .deciding _ => false
  | _ => true

theorem Leads.plain {m m' : Mode} {act : Act} (plain : m'.plain = true) : Leads m act m' where
  parked s same := by
    rw [same] at plain
    cases plain
  proceed same := by
    rw [same] at plain
    cases plain

/-- A settled start request: the run is followed, or the buttons are as they were. -/
theorem Fits.startSettled (fits : Fits .starting p) (answered : Bool) :
    ∃ m, Fits m (if answered then { p with starts := p.starts - 1 }.started
        else { p with starts := p.starts - 1 }.startFailed) ∧ m.plain = true := by
  have none : p.starts - 1 = 0 := by rw [fits.starts]; rfl
  have no_timer : ∀ t ∈ p.timers, (Option.none : Option ℕ) = some t := fun t mem => by
    rw [fits.no_timer rfl] at mem
    cases mem
  have idle := fits.idle rfl
  cases answered with
  | true =>
      refine ⟨.following, Fits.pollUpdate ?_, rfl⟩
      exact
        { starts := none
          polled := fits.polled
          timer := by
            change ∀ t ∈ p.timers, p.updPoll = some t
            rw [idle]
            exact no_timer
          poll := fun _ => Or.inr rfl
          decides := fits.decides
          loops := fits.loops
          active := rfl
          waiting := fun h => by cases fits.waiting h
          hidden := fun h => by cases fits.hidden h
          buttons := ⟨rfl, rfl⟩
          banner := fun h => by cases h }
  | false =>
      refine ⟨.ready, ?_, rfl⟩
      exact
        { starts := none
          polled := fits.polled
          timer := by
            change ∀ t ∈ p.timers, p.updPoll = some t
            rw [idle]
            exact no_timer
          poll := fun h => by
            have armed : p.updPoll.isSome = true := h
            rw [idle] at armed
            cases armed
          decides := fits.decides
          loops := fits.loops
          active := fits.active
          waiting := fun h => by cases fits.waiting h
          hidden := fun h => by cases fits.hidden h
          buttons := ⟨fits.buttons.1, rfl, fits.buttons.2.2.1⟩
          banner := fun h => (fits.banner h).2.elim }

/-- A settled decide request. -/
theorem Fits.decided {choice : Choice} (fits : Fits (.deciding choice) p) :
    ∃ m, Fits m ({ p with decides := [] }.decided choice) ∧ m.plain = true := by
  have idle := fits.idle rfl
  have answering : Fits .answering { p with decides := [] } :=
    { starts := fits.starts
      polled := fits.polled
      timer := fits.timer
      poll := fun _ => Or.inr rfl
      decides := rfl
      loops := fits.loops
      active := fits.active
      waiting := fun h => by cases fits.waiting h
      hidden := fun h => by cases fits.hidden h
      buttons := fits.buttons
      banner := fun h => (fits.banner h).2.elim }
  cases choice with
  | proceed => exact ⟨.waiting, answering.waitBackAndReload idle, rfl⟩
  | revert => exact ⟨.following, answering.pollUpdate, rfl⟩

/-- Mode in which a status request is in flight or its timer is armed. -/
theorem Fits.of_polled (fits : Fits m p) (some_poll : 0 < p.polls + p.timers.length) :
    m = .following := by
  rw [fits.polled] at some_poll
  cases m <;> first | rfl | cases some_poll

theorem Fits.answering (fits : Fits .following p) (some_poll : 0 < p.polls) :
    Fits .answering { p with polls := p.polls - 1 } where
  starts := fits.starts
  polled := by
    have one : p.polls + p.timers.length = 1 := fits.polled
    change p.polls - 1 + p.timers.length = 0
    omega
  timer := fits.timer
  poll _ := Or.inr rfl
  decides := fits.decides
  loops := fits.loops
  active := fits.active
  waiting h := by cases fits.waiting h
  hidden h := by cases fits.hidden h
  buttons := fits.buttons
  banner h := (fits.banner h).2.elim

theorem Fits.fired (fits : Fits .following p) {t : ℕ} (mem : t ∈ p.timers) :
    Fits .answering { p with timers := p.timers.erase t } where
  starts := fits.starts
  polled := by
    have one : p.polls + p.timers.length = 1 := fits.polled
    have some_timer := List.length_pos_of_mem mem
    change p.polls + (p.timers.erase t).length = 0
    rw [List.length_erase_of_mem mem]
    omega
  timer u later := fits.timer u (List.mem_of_mem_erase later)
  poll _ := Or.inr rfl
  decides := fits.decides
  loops := fits.loops
  active := fits.active
  waiting h := by cases fits.waiting h
  hidden h := by cases fits.hidden h
  buttons := fits.buttons
  banner h := (fits.banner h).2.elim

theorem Fits.of_loop (fits : Fits m p) {n : ℕ} {l : WaitLoop} (found : p.loops[n]? = some l) :
    m = .waiting := by
  have some_loop := List.length_pos_of_mem (List.mem_of_getElem? found)
  rw [fits.loops] at some_loop
  cases m <;> first | rfl | cases some_loop

/-- The loop that waits for the server. -/
theorem Fits.loop (fits : Fits m p) (n : ℕ) (l : WaitLoop) (reloaded : Bool) :
    Fits m { p with loops := p.loops.set n l, reloaded } where
  starts := fits.starts
  polled := fits.polled
  timer := fits.timer
  poll := fits.poll
  decides := fits.decides
  loops := by
    change (p.loops.set n l).length = m.loops
    rw [List.length_set]
    exact fits.loops
  active := fits.active
  waiting := fits.waiting
  hidden := fits.hidden
  buttons := by
    have old := fits.buttons
    cases m <;> exact old
  banner := fits.banner

/-- The changelog request has no part in the modes. -/
theorem Fits.changelog (fits : Fits m p) (changelogs : ℕ) : Fits m { p with changelogs } where
  starts := fits.starts
  polled := fits.polled
  timer := fits.timer
  poll := fits.poll
  decides := fits.decides
  loops := fits.loops
  active := fits.active
  waiting := fits.waiting
  hidden := fits.hidden
  buttons := by
    have old := fits.buttons
    cases m <;> exact old
  banner := fits.banner

theorem Page.takes_iff {b : Button} :
    p.takes b = true ↔
      p.shown = true ∧ p.buttonsHidden = false ∧ b.hidden = false ∧ b.disabled = false := by
  simp [Page.takes, and_assoc]

theorem Fits.clickDo (fits : Fits m p) (takes : p.takes p.doBtn = true) :
    ∃ m', Fits m' p.clickDo ∧ Leads m .clickDo m' := by
  obtain ⟨shown, buttons, visible, enabled⟩ := Page.takes_iff.mp takes
  have old := fits.buttons
  cases m with
  | closed => exact absurd shown (ne_true_of_eq_false old)
  | ready =>
      refine ⟨.starting, ?_, .plain rfl⟩
      rw [Page.clickDo, if_neg (by rw [old.1]; decide), old.2.1, if_neg Bool.false_ne_true]
      exact
        { starts := by
            change p.starts + 1 = 1
            rw [fits.starts]
            rfl
          polled := fits.polled
          timer := fits.timer
          poll := fun h => by rcases fits.poll h with h | h <;> cases h
          decides := fits.decides
          loops := fits.loops
          active := fits.active
          waiting := fun h => by cases fits.waiting h
          hidden := fun h => by cases fits.hidden h
          buttons := ⟨old.1, rfl, old.2.2, rfl⟩
          banner := fun h => (fits.banner h).2.elim }
  | starting =>
      refine ⟨.starting, ?_, .plain rfl⟩
      rw [Page.clickDo, if_neg (by rw [old.1]; decide), if_pos old.2.1]
      exact fits
  | parked s =>
      rcases old.2 with hidden | disabled | ⟨proceed, allow⟩
      · exact absurd hidden (ne_true_of_eq_false visible)
      · exact absurd disabled (ne_true_of_eq_false enabled)
      · rw [Page.clickDo, if_pos proceed]
        exact ⟨.deciding .proceed, fits.decide rfl rfl .proceed,
          fun _ same => (nomatch same), fun _ => Or.inr ⟨rfl, s, rfl, allow⟩⟩
  | following | answering | deciding choice | finished =>
      exact absurd old.1 (ne_true_of_eq_false visible)
  | waiting => exact absurd old (ne_true_of_eq_false buttons)

theorem Fits.close (fits : Fits m p) (still : m.still = true) (inactive : m.active = false) :
    Fits .closed { p with shown := false } where
  starts := fits.starts.trans (by cases m <;> first | rfl | cases still)
  polled := fits.polled.trans (by cases m <;> first | rfl | cases still)
  timer := fits.timer
  poll h := by
    have idle := fits.idle (by cases m <;> first | rfl | cases still)
    have armed : p.updPoll.isSome = true := h
    rw [idle] at armed
    cases armed
  decides := fits.decides.trans (by cases m <;> first | rfl | cases still)
  loops := fits.loops.trans (by cases m <;> first | rfl | cases still)
  active := fits.active.trans inactive
  waiting h := by
    have here := fits.waiting h
    rw [here] at still
    cases still
  hidden _ := rfl
  buttons := rfl
  banner h := by
    have clear := (fits.banner h).2
    cases m <;> first | exact clear.elim | cases inactive

theorem Fits.clickCancel (fits : Fits m p) (takes : p.takes p.cancel = true) :
    ∃ m', Fits m' p.clickCancel ∧ Leads m .clickCancel m' := by
  obtain ⟨shown, buttons, visible, enabled⟩ := Page.takes_iff.mp takes
  have old := fits.buttons
  have closes : m.still = true → m.active = false → p.cancel.role = .plain →
      ∃ m', Fits m' p.clickCancel ∧ Leads m .clickCancel m' := fun still inactive plain => by
    have idle := fits.idle (by cases m <;> first | rfl | cases still)
    have quiet : (p.updPoll.isSome || p.updateActive) = false := by
      rw [idle, fits.active, inactive]
      rfl
    refine ⟨.closed, ?_, .plain rfl⟩
    rw [Page.clickCancel, if_neg (by rw [plain]; decide), quiet, if_neg Bool.false_ne_true]
    exact fits.close still inactive
  cases m with
  | closed => exact absurd shown (ne_true_of_eq_false old)
  | ready => exact closes rfl rfl old.2.2
  | finished => exact closes rfl rfl old.2
  | parked s =>
      rw [Page.clickCancel, if_pos old.1]
      exact ⟨.deciding .revert, fits.decide rfl rfl .revert,
        fun _ same => (nomatch same), fun same => (nomatch same)⟩
  | starting => exact absurd old.2.2.2 (ne_true_of_eq_false enabled)
  | following | answering | deciding choice => exact absurd old.2 (ne_true_of_eq_false enabled)
  | waiting => exact absurd old (ne_true_of_eq_false buttons)

/-- Every action leads from one mode to another. -/
theorem Fits.step (fits : Fits m p) {act : Act} (h : p.step act = some q) :
    ∃ m', Fits m' q ∧ Leads m act m' := by
  obtain ⟨-, h⟩ := Option.ite_none_left_eq_some.mp h
  have elsewhere : (∃ m', Fits m' q ∧ m'.plain = true) → ∃ m', Fits m' q ∧ Leads m act m' :=
    fun ⟨m', fits', plain⟩ => ⟨m', fits', .plain plain⟩
  cases act with
  | openModal =>
      obtain ⟨hidden, h⟩ := Option.ite_none_left_eq_some.mp h
      cases h
      obtain rfl := fits.hidden (eq_false_of_ne_true hidden)
      exact elsewhere ⟨.ready, fits.openModal, rfl⟩
  | changelogSettled =>
      obtain ⟨-, rfl⟩ := enabled_eq_some.mp h
      exact ⟨m, fits.changelog _, fun s same => Or.inl ⟨rfl, same⟩, Or.inl⟩
  | clickDo =>
      obtain ⟨takes, rfl⟩ := enabled_eq_some.mp h
      exact fits.clickDo takes
  | clickCancel =>
      obtain ⟨takes, rfl⟩ := enabled_eq_some.mp h
      exact fits.clickCancel takes
  | startSettled answered =>
      obtain ⟨some_start, rfl⟩ := enabled_eq_some.mp h
      have here : m = .starting := by
        rw [fits.starts] at some_start
        cases m <;> first | rfl | cases some_start
      subst here
      exact elsewhere (fits.startSettled answered)
  | statusSettled answer =>
      obtain ⟨some_poll, rfl⟩ := enabled_eq_some.mp h
      obtain rfl := fits.of_polled (by omega)
      have answering := fits.answering some_poll
      cases answer with
      | none => exact elsewhere ⟨.following, answering.arm, rfl⟩
      | some answer =>
          obtain ⟨m', fits', from_status, undecided⟩ := answering.status answer
          refine ⟨m', fits', fun s same => ?_, fun same => (undecided same).elim⟩
          obtain ⟨rfl, phase⟩ := from_status s same
          exact Or.inr ⟨rfl, phase⟩
  | decideSettled n =>
      obtain ⟨choice, sent, rfl⟩ := Option.map_eq_some_iff.mp h
      have one := fits.decides
      rw [one] at sent
      cases m with
      | deciding other =>
          cases n with
          | zero =>
              cases sent
              have none : p.decides.eraseIdx 0 = [] := by rw [one]; rfl
              refine elsewhere ?_
              rw [none]
              exact fits.decided
          | succ n => cases sent
      | _ => cases sent
  | timer t =>
      obtain ⟨mem, rfl⟩ := enabled_eq_some.mp h
      obtain rfl := fits.of_polled (Nat.add_pos_right _ (List.length_pos_of_mem mem))
      exact elsewhere ⟨.following, (fits.fired mem).pollUpdate, rfl⟩
  | waitSettled n answer =>
      rw [Page.act] at h
      split at h
      case h_1 l found =>
        obtain rfl := fits.of_loop found
        split at h
        case isTrue =>
          split at h
          case h_1 l' _ =>
            cases h
            exact elsewhere ⟨.waiting, fits.loop n l' p.reloaded, rfl⟩
          case h_2 =>
            cases h
            exact elsewhere ⟨.waiting, fits.loop n _ true, rfl⟩
        case isFalse => cases h
      case h_2 => cases h
  | waitTimer n =>
      rw [Page.act] at h
      split at h
      case h_1 l found =>
        obtain rfl := fits.of_loop found
        split at h
        case isTrue =>
          cases h
          exact elsewhere ⟨.waiting, fits.loop n _ p.reloaded, rfl⟩
        case isFalse => cases h
      case h_2 => cases h

def Act.isChangelog : Act → Bool
  | .changelogSettled => true
  | _ => false

/-- The last thing done, but for the answers to changelog requests. -/
def lastAct (acts : List Act) : Option Act := (acts.filter fun act => !act.isChangelog).getLast?

theorem lastAct_changelog (acts : List Act) :
    lastAct (acts ++ [.changelogSettled]) = lastAct acts := by
  rw [lastAct, List.filter_append]
  exact congrArg List.getLast? (List.append_nil _)

theorem lastAct_concat (acts : List Act) {act : Act} (other : act.isChangelog = false) :
    lastAct (acts ++ [act]) = some act := by
  have kept : [act].filter (fun act => !act.isChangelog) = [act] := by
    rw [List.filter_cons_of_pos (by rw [other]; rfl), List.filter_nil]
  rw [lastAct, List.filter_append, kept]
  exact List.getLast?_concat

/-- A page that shows a prompt was given it last. -/
def Prompted (acts : List Act) (m : Mode) : Prop :=
  ∀ s, m = .parked s →
    lastAct acts = some (.statusSettled (some (some s))) ∧ s.shared.phase = .awaiting

theorem Prompted.step {acts : List Act} {act : Act} {m m' : Mode} (prompted : Prompted acts m)
    (leads : Leads m act m') : Prompted (acts ++ [act]) m' := by
  intro s same
  rcases leads.parked s same with ⟨rfl, before⟩ | ⟨rfl, phase⟩
  · rw [lastAct_changelog]
    exact prompted s before
  · exact ⟨lastAct_concat acts rfl, phase⟩

theorem fits_of_run {acts : List Act} (h : run Page.step {} acts = some p) :
    ∃ m, Fits m p ∧ Prompted acts m := by
  refine run_induction (P := fun acts p => ∃ m, Fits m p ∧ Prompted acts m) ?_ ?_ h
  · rintro as act p q - ⟨m, fits, prompted⟩ stepped
    obtain ⟨m', fits', leads⟩ := fits.step stepped
    exact ⟨m', fits', prompted.step leads⟩
  · exact ⟨.closed, Fits.initial, fun _ same => (nomatch same)⟩

/-! ## What a step leaves -/

/-- The start time of the server in an answer. -/
def Act.startedAt : Act → Option ℚ
  | .waitSettled _ (some (some t)) => some t
  | _ => none

/-- How often the modal was opened. -/
def openings (acts : List Act) : ℕ := (acts.filter fun act => act matches .openModal).length

/-- The loops are as they were, or a first request was sent; no changelog is asked for. -/
structure LoopsFrom (p q : Page) : Prop where
  loops : q.loops = p.loops ∨ q.loops = p.loops ++ [({} : WaitLoop)]
  reloaded : q.reloaded = p.reloaded
  changelogs : q.changelogs = p.changelogs

theorem LoopsFrom.same (loops : q.loops = p.loops) (reloaded : q.reloaded = p.reloaded)
    (changelogs : q.changelogs = p.changelogs) : LoopsFrom p q :=
  ⟨Or.inl loops, reloaded, changelogs⟩

theorem LoopsFrom.of_same {r : Page} (h : LoopsFrom r q) (loops : r.loops = p.loops)
    (reloaded : r.reloaded = p.reloaded) (changelogs : r.changelogs = p.changelogs) :
    LoopsFrom p q := by
  refine ⟨?_, h.reloaded.trans reloaded, h.changelogs.trans changelogs⟩
  rw [← loops]
  exact h.loops

theorem Page.loops_clearTimer (p : Page) : LoopsFrom p p.clearTimer := by
  rw [Page.clearTimer]
  split <;> exact .same rfl rfl rfl

theorem Page.loops_pollUpdate (p : Page) : LoopsFrom p p.pollUpdate :=
  ⟨p.loops_clearTimer.loops, p.loops_clearTimer.reloaded, p.loops_clearTimer.changelogs⟩

theorem Page.loops_waitBackAndReload (p : Page) : LoopsFrom p p.waitBackAndReload := by
  rw [Page.waitBackAndReload]
  split
  case isTrue => exact .same rfl rfl rfl
  case isFalse => exact ⟨Or.inr rfl, rfl, rfl⟩

theorem Page.loops_decide (p : Page) (choice : Choice) : LoopsFrom p (p.decide choice) := by
  cases choice with
  | proceed =>
      rw [Page.decide]
      dsimp only
      split <;> exact .same rfl rfl rfl
  | revert => exact .same rfl rfl rfl

theorem Page.loops_showDecision (p : Page) (s : UpdateState) :
    LoopsFrom p { p.showDecision s with updPoll := none } := by
  rw [Page.showDecision]
  dsimp only
  split
  case isTrue =>
    rw [Page.updStaged]
    dsimp only
    split <;> exact .same rfl rfl rfl
  case isFalse => split <;> exact .same rfl rfl rfl

theorem Page.loops_status (p : Page) (answer : Option UpdateState) :
    LoopsFrom p (p.status answer) := by
  cases answer with
  | none => exact .same rfl rfl rfl
  | some s =>
      cases phase : s.shared.phase with
      | awaiting =>
          rw [Page.status_awaiting phase]
          split
          case isTrue => exact .same rfl rfl rfl
          case isFalse => exact (loops_showDecision _ s).of_same rfl rfl rfl
      | restarting =>
          rw [Page.status, phase]
          exact (loops_waitBackAndReload _).of_same rfl rfl rfl
      | idle | done | staged | checking | downloading | verifying | backingUp | swapping | failed =>
          rw [Page.status, phase]
          exact .same rfl rfl rfl

/-- Only the answers of a loop and its timer touch a loop, and only an opening asks for a
changelog. -/
theorem Page.loops_step {act : Act} (h : p.step act = some q) :
    (∃ changelogs ≤ p.changelogs + openings [act],
        LoopsFrom { p with changelogs } q ∧ act.startedAt = none) ∨
      (∃ n l answer, act = .waitSettled n answer ∧ p.loops[n]? = some l ∧ l.point = .asked ∧
        q = match answer.elim (some l.rest) l.answered with
          | some l => { p with loops := p.loops.set n l }
          | none =>
              { p with loops := p.loops.set n { l with point := .ended }, reloaded := true }) ∨
      ∃ n l, act = .waitTimer n ∧ p.loops[n]? = some l ∧ l.point = .resting ∧
        q = { p with loops := p.loops.set n { l with point := .asked, tries := l.tries + 1 } } := by
  obtain ⟨-, h⟩ := Option.ite_none_left_eq_some.mp h
  have unasked : LoopsFrom p q → act.startedAt = none →
      ∃ changelogs ≤ p.changelogs + openings [act],
        LoopsFrom { p with changelogs } q ∧ act.startedAt = none :=
    fun frame none => ⟨p.changelogs, Nat.le_add_right _ _, frame, none⟩
  cases act with
  | openModal =>
      obtain ⟨-, h⟩ := Option.ite_none_left_eq_some.mp h
      cases h
      exact Or.inl ⟨p.changelogs + 1, Nat.le_refl _, .same rfl rfl rfl, rfl⟩
  | changelogSettled =>
      obtain ⟨-, rfl⟩ := enabled_eq_some.mp h
      exact Or.inl ⟨p.changelogs - 1, (Nat.sub_le _ _).trans (Nat.le_add_right _ _),
        .same rfl rfl rfl, rfl⟩
  | clickDo =>
      obtain ⟨-, rfl⟩ := enabled_eq_some.mp h
      refine Or.inl (unasked ?_ rfl)
      rw [Page.clickDo]
      split
      case isTrue => exact p.loops_decide .proceed
      case isFalse => split <;> exact .same rfl rfl rfl
  | clickCancel =>
      obtain ⟨-, rfl⟩ := enabled_eq_some.mp h
      refine Or.inl (unasked ?_ rfl)
      rw [Page.clickCancel]
      split
      case isTrue => exact p.loops_decide .revert
      case isFalse => split <;> exact .same rfl rfl rfl
  | startSettled answered =>
      obtain ⟨-, rfl⟩ := enabled_eq_some.mp h
      refine Or.inl (unasked ?_ rfl)
      cases answered with
      | true =>
          rw [if_pos rfl]
          exact (Page.loops_pollUpdate _).of_same rfl rfl rfl
      | false => exact .same rfl rfl rfl
  | statusSettled answer =>
      obtain ⟨-, rfl⟩ := enabled_eq_some.mp h
      refine Or.inl (unasked ?_ rfl)
      cases answer with
      | none => exact .same rfl rfl rfl
      | some answer =>
          exact (Page.loops_status { p with polls := p.polls - 1 } answer).of_same rfl rfl rfl
  | decideSettled n =>
      obtain ⟨choice, -, rfl⟩ := Option.map_eq_some_iff.mp h
      refine Or.inl (unasked ?_ rfl)
      cases choice with
      | proceed => exact (Page.loops_waitBackAndReload _).of_same rfl rfl rfl
      | revert => exact (Page.loops_pollUpdate _).of_same rfl rfl rfl
  | timer t =>
      obtain ⟨-, rfl⟩ := enabled_eq_some.mp h
      exact Or.inl (unasked ((Page.loops_pollUpdate _).of_same rfl rfl rfl) rfl)
  | waitSettled n answer =>
      rw [Page.act] at h
      split at h
      case h_1 l found =>
        obtain ⟨asked, h⟩ := Option.ite_none_right_eq_some.mp h
        refine Or.inr (Or.inl ⟨n, l, answer, rfl, found, asked, ?_⟩)
        split at h
        case h_1 => exact (Option.some.inj h).symm
        case h_2 => exact (Option.some.inj h).symm
      case h_2 => cases h
  | waitTimer n =>
      rw [Page.act] at h
      split at h
      case h_1 l found =>
        obtain ⟨resting, rfl⟩ := enabled_eq_some.mp h
        exact Or.inr (Or.inr ⟨n, l, rfl, found, resting, rfl⟩)
      case h_2 => cases h

theorem Page.changelogs_step {act : Act} (h : p.step act = some q) :
    q.changelogs ≤ p.changelogs + openings [act] := by
  rcases Page.loops_step h with ⟨n, le, frame, -⟩ | ⟨n, l, answer, rfl, -, -, rfl⟩ |
    ⟨n, l, rfl, -, -, rfl⟩
  · exact frame.changelogs.trans_le le
  · split <;> exact Nat.le_add_right _ _
  · exact Nat.le_add_right _ _

theorem changelogs_of_run {acts : List Act} (h : run Page.step {} acts = some p) :
    p.changelogs ≤ openings acts := by
  refine run_induction (P := fun acts p => p.changelogs ≤ openings acts) ?_ (Nat.le_refl 0) h
  intro acts act p q _ few stepped
  calc q.changelogs
      ≤ p.changelogs + openings [act] := Page.changelogs_step stepped
    _ ≤ openings acts + openings [act] := Nat.add_le_add_right few _
    _ = openings (acts ++ [act]) := by
        rw [openings, openings, openings, List.filter_append, List.length_append]

/-! ## Requests and timers -/

/-- Requests in flight but for the changelog's, timers that have not fired and loops that wait for
the server. -/
def Page.outstanding (p : Page) : ℕ :=
  p.starts + p.polls + p.timers.length + p.decides.length + p.loops.length

/-- A prompt is shown. -/
def Page.prompting (p : Page) : Bool := p.takes p.cancel && p.cancel.role = .revert

/-- The guard of `pollFetch`, where the result modal is closed. -/
def Page.holdsPoll (p : Page) (key : String) : Bool := (p.updateActive || p.shown) && key ≠ "state"

theorem Fits.outstanding (fits : Fits m p) :
    p.outstanding ≤ 1 ∧ (m.still = true → p.outstanding = 0) := by
  have polled := fits.polled
  have total : p.outstanding = m.starts + m.polls + m.decides.length + m.loops := by
    rw [Page.outstanding, fits.starts, fits.decides, fits.loops]
    omega
  rw [total]
  cases m <;> simp [Mode.starts, Mode.polls, Mode.decides, Mode.loops, Mode.still]

theorem Fits.of_prompting (fits : Fits m p) (prompting : p.prompting = true) :
    ∃ s, m = .parked s := by
  obtain ⟨takes, role⟩ := Bool.and_eq_true_iff.mp prompting
  obtain ⟨shown, buttons, visible, enabled⟩ := Page.takes_iff.mp takes
  have reverts : p.cancel.role = .revert := of_decide_eq_true role
  have old := fits.buttons
  cases m with
  | parked s => exact ⟨s, rfl⟩
  | closed => exact absurd shown (ne_true_of_eq_false old)
  | ready => exact absurd (old.2.2.symm.trans reverts) (by decide)
  | starting => exact absurd old.2.2.2 (ne_true_of_eq_false enabled)
  | finished => exact absurd (old.2.symm.trans reverts) (by decide)
  | following | answering | deciding choice => exact absurd old.2 (ne_true_of_eq_false enabled)
  | waiting => exact absurd old (ne_true_of_eq_false buttons)

/-- A closed modal holds no poll back. -/
theorem Fits.holdsPoll_of_hidden (fits : Fits m p) (hidden : p.shown = false) (key : String) :
    p.holdsPoll key = false := by
  obtain rfl := fits.hidden hidden
  rw [Page.holdsPoll, fits.active, hidden]
  rfl

theorem Fits.of_closing (fits : Fits m p) (h : p.step .clickCancel = some q)
    (hidden : q.shown = false) :
    m.still = true ∧ m.active = false := by
  obtain ⟨-, h⟩ := Option.ite_none_left_eq_some.mp h
  obtain ⟨takes, rfl⟩ := enabled_eq_some.mp h
  obtain ⟨shown, buttons, visible, enabled⟩ := Page.takes_iff.mp takes
  have old := fits.buttons
  cases m with
  | closed => exact ⟨rfl, rfl⟩
  | ready => exact ⟨rfl, rfl⟩
  | finished => exact ⟨rfl, rfl⟩
  | parked s =>
      rw [Page.clickCancel, if_pos old.1] at hidden
      exact absurd shown (ne_true_of_eq_false hidden)
  | starting => exact absurd old.2.2.2 (ne_true_of_eq_false enabled)
  | following | answering | deciding choice => exact absurd old.2 (ne_true_of_eq_false enabled)
  | waiting => exact absurd old (ne_true_of_eq_false buttons)

/-- Modes with something outstanding are those of an open modal. -/
theorem Fits.shown_of_outstanding (fits : Fits m p) (some_request : 0 < p.outstanding) :
    p.shown = true := by
  by_contra hidden
  obtain rfl := fits.hidden (eq_false_of_ne_true hidden)
  exact absurd (fits.outstanding.2 rfl) (Nat.ne_of_gt some_request)

/-- At most one request, timer or loop is outstanding, and none while a prompt is shown, while the
modal is closed or where a click would close it; beside them, at most one changelog request for each
opening.  The routine polls other than the state's are held back while anything is outstanding, and
none is once the modal is closed. -/
theorem calm_of_run {acts : List Act} (h : run Page.step {} acts = some p) :
    p.outstanding ≤ 1 ∧
      p.changelogs ≤ openings acts ∧
      (p.prompting = true → p.outstanding = 0) ∧
      (p.shown = false → p.outstanding = 0 ∧ ∀ key, p.holdsPoll key = false) ∧
      (∀ q, p.step .clickCancel = some q → q.shown = false →
        p.outstanding = 0 ∧ ∀ key, q.holdsPoll key = false) ∧
      (0 < p.outstanding → ∀ key, p.holdsPoll key = true ↔ key ≠ "state") := by
  obtain ⟨m, fits, -⟩ := fits_of_run h
  obtain ⟨one, none_of_still⟩ := fits.outstanding
  refine ⟨one, changelogs_of_run h, fun prompting => ?_, fun hidden => ?_,
    fun q stepped hidden => ?_, fun some_request key => ?_⟩
  · obtain ⟨s, rfl⟩ := fits.of_prompting prompting
    exact none_of_still rfl
  · obtain rfl := fits.hidden hidden
    exact ⟨none_of_still rfl, fits.holdsPoll_of_hidden hidden⟩
  · obtain ⟨still, -⟩ := fits.of_closing stepped hidden
    obtain ⟨m', fits', -⟩ := fits.step stepped
    exact ⟨none_of_still still, fits'.holdsPoll_of_hidden hidden⟩
  · rw [Page.holdsPoll, fits.shown_of_outstanding some_request, Bool.or_true, Bool.true_and,
      decide_eq_true_iff]

def cleanPrompt : UpdateState :=
  { shared := { phase := .awaiting, prompt := some ⟨"Ready to apply", true, "UPDATE", false⟩ } }

def applied : List Act :=
  [.openModal, .clickDo, .startSettled true, .statusSettled (some (some {})), .timer 0,
    .statusSettled (some (some cleanPrompt)), .changelogSettled]

theorem applied_calm :
    ∃ p, run Page.step {} applied = some p ∧ p.outstanding ≤ 1 ∧
      p.changelogs ≤ openings applied ∧
      (p.prompting = true → p.outstanding = 0) ∧
      (p.shown = false → p.outstanding = 0 ∧ ∀ key, p.holdsPoll key = false) ∧
      (∀ q, p.step .clickCancel = some q → q.shown = false →
        p.outstanding = 0 ∧ ∀ key, q.holdsPoll key = false) ∧
      (0 < p.outstanding → ∀ key, p.holdsPoll key = true ↔ key ≠ "state") := by
  have ran : (run Page.step {} applied).isSome := by decide
  obtain ⟨p, h⟩ := Option.isSome_iff_exists.mp ran
  exact ⟨p, h, calm_of_run h⟩

/-! ## Decisions -/

/-- The page sends proceed only on a click, where the last thing done but for a late changelog was
to give it a prompt that allows it; it shows the all-clear only where that prompt's stages had no
warning and no error, and never beside another banner. -/
theorem proceed_of_run {acts : List Act} (h : run Page.step {} acts = some p) :
    (∀ act q, p.step act = some q → q.decides = p.decides ++ [.proceed] →
      act = .clickDo ∧ ∃ s, lastAct acts = some (.statusSettled (some (some s))) ∧
        s.shared.phase = .awaiting ∧ s.shared.prompt.any Prompt.allowProceed = true) ∧
      (p.ok = true → p.warn = none ∧
        ∃ s, lastAct acts = some (.statusSettled (some (some s))) ∧
          s.shared.phase = .awaiting ∧ Clean s) := by
  obtain ⟨m, fits, last⟩ := fits_of_run h
  refine ⟨fun act q stepped sent => ?_, fun ok => ?_⟩
  · obtain ⟨m', fits', leads⟩ := fits.step stepped
    have deciding : m' = .deciding .proceed := by
      have decides := fits'.decides
      rw [sent] at decides
      cases m' with
      | deciding choice =>
          have decides : p.decides ++ [Choice.proceed] = [] ++ [choice] := decides
          rw [List.singleton_inj.mp (List.append_inj_right' decides rfl)]
      | _ => exact absurd decides (List.append_ne_nil_of_right_ne_nil _ (List.cons_ne_nil _ _))
    rcases leads.proceed deciding with rfl | ⟨click, s, rfl, allow⟩
    · have twice : p.decides ++ [Choice.proceed] = [] ++ [Choice.proceed] := by
        rw [← sent, fits'.decides, deciding]
        rfl
      rw [fits.decides] at twice
      cases twice
    · exact ⟨click, s, (last s rfl).1, (last s rfl).2, allow⟩
  · obtain ⟨alone, clear⟩ := fits.banner ok
    cases m with
    | parked s => exact ⟨alone, s, (last s rfl).1, (last s rfl).2, clear⟩
    | _ => exact clear.elim

theorem applied_proceeds :
    ∃ p, run Page.step {} applied = some p ∧
      (∀ act q, p.step act = some q → q.decides = p.decides ++ [.proceed] →
        act = .clickDo ∧ ∃ s, lastAct applied = some (.statusSettled (some (some s))) ∧
          s.shared.phase = .awaiting ∧ s.shared.prompt.any Prompt.allowProceed = true) ∧
      (p.ok = true → p.warn = none ∧
        ∃ s, lastAct applied = some (.statusSettled (some (some s))) ∧
          s.shared.phase = .awaiting ∧ Clean s) := by
  have ran : (run Page.step {} applied).isSome := by decide
  obtain ⟨p, h⟩ := Option.isSome_iff_exists.mp ran
  exact ⟨p, h, proceed_of_run h⟩

/-! ## The reload -/

/-- The start times that the page was given, in order. -/
def startTimes (acts : List Act) : List ℚ := acts.filterMap Act.startedAt

/-- What the loop knows of the start times so far. -/
structure Waits (acts : List Act) (p : Page) : Prop where
  unasked : p.loops = [] → startTimes acts = []
  base : ∀ l ∈ p.loops, l.base = (startTimes acts).head?
  same : p.reloaded = false → ∀ t ∈ startTimes acts, (startTimes acts).head? = some t
  reloaded : p.reloaded = true → ∃ t ∈ startTimes acts, (startTimes acts).head? ≠ some t
  tries : ∀ l ∈ p.loops, l.tries ≤ 330 ∧ (l.point = .resting → l.tries < 330)

theorem Waits.initial : Waits [] {} where
  unasked _ := rfl
  base l mem := by cases mem
  same _ t mem := by cases mem
  reloaded h := by cases h
  tries l mem := by cases mem

theorem startTimes_append (acts : List Act) (act : Act) :
    startTimes (acts ++ [act]) = startTimes acts ++ act.startedAt.toList := by
  rw [startTimes, List.filterMap_append]
  cases given : act.startedAt <;> simp [startTimes, given]

variable {acts : List Act}

/-- A loop that was given no start time. -/
theorem Waits.unchanged (waits : Waits acts p) {act : Act} (given : act.startedAt = none)
    {l l' : WaitLoop} (alone : p.loops = [l]) (base : l'.base = l.base)
    (tries : l'.tries ≤ 330 ∧ (l'.point = .resting → l'.tries < 330)) :
    Waits (acts ++ [act]) { p with loops := [l'] } := by
  have times : startTimes (acts ++ [act]) = startTimes acts := by
    rw [startTimes_append, given, Option.toList_none, List.append_nil]
  have known := waits.base l (by rw [alone]; exact List.mem_singleton_self _)
  refine ⟨fun h => (nomatch h), fun k mem => ?_, ?_, ?_, fun k mem => ?_⟩
  · rw [List.mem_singleton.mp mem, times, base, known]
  · rw [times]
    exact waits.same
  · rw [times]
    exact waits.reloaded
  · rw [List.mem_singleton.mp mem]
    exact tries

theorem WaitLoop.rest_tries {l : WaitLoop} (few : l.tries ≤ 330) :
    l.rest.tries ≤ 330 ∧ (l.rest.point = .resting → l.rest.tries < 330) := by
  refine ⟨few, fun resting => ?_⟩
  rw [WaitLoop.rest] at resting
  split at resting
  case isTrue more => exact more
  case isFalse => cases resting

/-- A loop that is given a start time. -/
theorem Waits.given (waits : Waits acts p) (going : p.reloaded = false) {n : ℕ} {t : ℚ}
    {l : WaitLoop}
    (alone : p.loops = [l]) :
    Waits (acts ++ [.waitSettled n (some (some t))])
      (match l.answered (some t) with
        | some l => { p with loops := [l] }
        | none => { p with loops := [{ l with point := .ended }], reloaded := true }) := by
  have here : l ∈ p.loops := by rw [alone]; exact List.mem_singleton_self _
  have times : startTimes (acts ++ [.waitSettled n (some (some t))]) = startTimes acts ++ [t] :=
    startTimes_append acts _
  have known := waits.base l here
  have few := (waits.tries l here).1
  cases base : l.base with
  | none =>
      have first : startTimes acts = [] := List.head?_eq_none_iff.mp (known.symm.trans base)
      have answered : l.answered (some t) = some { l with base := some t }.rest := by
        rw [WaitLoop.answered, base]
      rw [answered]
      refine ⟨fun h => (nomatch h), fun k mem => ?_, fun _ u mem => ?_, fun h => ?_,
        fun k mem => ?_⟩
      · rw [List.mem_singleton.mp mem, times, first]
        rfl
      · rw [times, first] at mem ⊢
        rw [List.mem_singleton.mp mem]
        rfl
      · exact absurd (show p.reloaded = true from h) (ne_true_of_eq_false going)
      · rw [List.mem_singleton.mp mem]
        exact WaitLoop.rest_tries few
  | some b =>
      have head : (startTimes acts).head? = some b := known.symm.trans base
      have heads : (startTimes acts ++ [t]).head? = some b := by
        rw [List.head?_append, head, Option.some_or]
      by_cases changed : t = b
      · have answered : l.answered (some t) = some l.rest := by
          rw [WaitLoop.answered, base]
          exact if_neg (not_not.mpr changed)
        rw [answered]
        refine ⟨fun h => (nomatch h), fun k mem => ?_, fun _ u mem => ?_, fun h => ?_,
          fun k mem => ?_⟩
        · rw [List.mem_singleton.mp mem, times, heads]
          exact base
        · rw [times] at mem ⊢
          rcases List.mem_append.mp mem with old | new
          · rw [heads, ← head]
            exact waits.same going u old
          · rw [heads, List.mem_singleton.mp new, changed]
        · exact absurd (show p.reloaded = true from h) (ne_true_of_eq_false going)
        · rw [List.mem_singleton.mp mem]
          exact WaitLoop.rest_tries few
      · have answered : l.answered (some t) = none := by
          rw [WaitLoop.answered, base]
          exact if_pos changed
        rw [answered]
        refine ⟨fun h => (nomatch h), fun k mem => ?_, fun h => (nomatch h), fun _ => ?_,
          fun k mem => ?_⟩
        · rw [List.mem_singleton.mp mem, times, heads]
        · refine ⟨t, ?_, ?_⟩
          · rw [times]
            exact List.mem_append_right _ (List.mem_singleton_self _)
          · rw [times, heads]
            exact fun same => changed (Option.some.inj same).symm
        · rw [List.mem_singleton.mp mem]
          exact ⟨few, nofun⟩

theorem eq_singleton_of_getElem? {l : WaitLoop} {n : ℕ} (one : p.loops.length ≤ 1)
    (found : p.loops[n]? = some l) : p.loops = [l] ∧ n = 0 := by
  match loops : p.loops with
  | [] =>
      rw [loops] at found
      cases found
  | [k] =>
      rw [loops] at found
      cases n with
      | zero =>
          cases found
          exact ⟨rfl, rfl⟩
      | succ n => cases found
  | a :: b :: rest =>
      rw [loops] at one
      simp at one

theorem Waits.step (waits : Waits acts p) {act : Act} (one : p.loops.length ≤ 1)
    (still_one : q.loops.length ≤ 1) (h : p.step act = some q) : Waits (acts ++ [act]) q := by
  have going : p.reloaded = false := by
    obtain ⟨going, -⟩ := Option.ite_none_left_eq_some.mp h
    exact eq_false_of_ne_true going
  rcases Page.loops_step h with ⟨_, -, frame, given⟩ |
    ⟨n, l, answer, rfl, found, asked, rfl⟩ | ⟨n, l, rfl, found, resting, rfl⟩
  · have loops : q.loops = p.loops ∨ q.loops = p.loops ++ [({} : WaitLoop)] := frame.loops
    have reloaded : q.reloaded = p.reloaded := frame.reloaded
    have times : startTimes (acts ++ [act]) = startTimes acts := by
      rw [startTimes_append, given, Option.toList_none, List.append_nil]
    rcases loops with same | opened
    · refine ⟨?_, ?_, ?_, ?_, ?_⟩
      · rw [same, times]
        exact waits.unasked
      · rw [same, times]
        exact waits.base
      · rw [reloaded, times]
        exact waits.same
      · rw [reloaded, times]
        exact waits.reloaded
      · rw [same]
        exact waits.tries
    · have none : p.loops = [] := by
        rw [opened, List.length_append] at still_one
        exact List.eq_nil_of_length_eq_zero (by simpa using still_one)
      have unasked := waits.unasked none
      rw [none, List.nil_append] at opened
      refine ⟨?_, fun l mem => ?_, fun _ t mem => ?_, fun h => ?_, fun l mem => ?_⟩
      · rw [opened]
        exact fun h => by cases h
      · rw [opened] at mem
        rw [List.mem_singleton.mp mem, times, unasked]
        rfl
      · rw [times, unasked] at mem
        cases mem
      · rw [reloaded, going] at h
        cases h
      · rw [opened] at mem
        rw [List.mem_singleton.mp mem]
        exact ⟨by decide, nofun⟩
  · obtain ⟨alone, rfl⟩ := eq_singleton_of_getElem? one found
    have few := (waits.tries l (by rw [alone]; exact List.mem_singleton_self _)).1
    match answer with
    | none =>
        rw [Option.elim_none, alone]
        exact waits.unchanged rfl alone rfl (WaitLoop.rest_tries few)
    | some none =>
        rw [Option.elim_some, alone]
        exact waits.unchanged rfl alone rfl (WaitLoop.rest_tries few)
    | some (some t) =>
        rw [Option.elim_some, alone]
        exact waits.given going alone
  · obtain ⟨alone, rfl⟩ := eq_singleton_of_getElem? one found
    have more := (waits.tries l (by rw [alone]; exact List.mem_singleton_self _)).2 resting
    rw [alone]
    exact waits.unchanged rfl alone rfl ⟨more, nofun⟩

theorem Fits.loops_le (fits : Fits m p) : p.loops.length ≤ 1 := by
  rw [fits.loops]
  cases m <;> simp [Mode.loops]

theorem waits_of_run (h : run Page.step {} acts = some p) : Waits acts p := by
  refine run_induction (P := Waits) ?_ Waits.initial h
  intro acts act p q ran waits stepped
  obtain ⟨m, fits, -⟩ := fits_of_run ran
  obtain ⟨m', fits', -⟩ := fits.step stepped
  exact waits.step fits.loops_le fits'.loops_le stepped

/-- The page reloads exactly when it was given another start time than the first one it was given;
and it asks for one at most 330 times. -/
theorem reloaded_of_run (h : run Page.step {} acts = some p) :
    (p.reloaded = true ↔ ∃ t ∈ startTimes acts, (startTimes acts).head? ≠ some t) ∧
      ∀ l ∈ p.loops, l.tries ≤ 330 := by
  have waits := waits_of_run h
  refine ⟨⟨waits.reloaded, fun ⟨t, mem, other⟩ => ?_⟩, fun l mem => (waits.tries l mem).1⟩
  by_contra still
  exact other (waits.same (eq_false_of_ne_true still) t mem)

def restarted : List Act :=
  applied ++ [.clickDo, .decideSettled 0, .waitSettled 0 (some (some 100)), .waitTimer 0,
    .waitSettled 0 none, .waitTimer 0, .waitSettled 0 (some (some 160))]

theorem restarted_reloads :
    ∃ p, run Page.step {} restarted = some p ∧
      (p.reloaded = true ↔
        ∃ t ∈ startTimes restarted, (startTimes restarted).head? ≠ some t) ∧
      ∀ l ∈ p.loops, l.tries ≤ 330 := by
  have ran : (run Page.step {} restarted).isSome := by decide
  obtain ⟨p, h⟩ := Option.isSome_iff_exists.mp ran
  exact ⟨p, h, reloaded_of_run h⟩

end GeneratorPi.UpdateModal
