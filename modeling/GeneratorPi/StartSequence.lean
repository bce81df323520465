import GeneratorPi.Sequences
import GeneratorPi.Settings
import GeneratorPi.Lib.FailurePoints

/-!
# What a start sequence reports

`start_generator` (`genpi/control.py`) with `press_button` (`genpi/relay.py`), every call that may
raise a numbered point of failure: the two writes to the relay, the sleeps, and the start of the
push thread.  Every section under `state_lock` works on the state it finds there, whatever other
threads have left; `finally` frees the relay lock on every exit.

The retry count is any integer the settings file gives.  A count below one makes the sequence
report a start without a press, and an exception of the push thread comes after the generator is
marked as running; apart from these the sequence does what it reports (`startSound_iff`).
-/

namespace GeneratorPi

open FailurePoints Noninterference

/-- What a start sequence meets. -/
structure StartWorld where
  /-- `relay_lock` can be taken. -/
  lockFree : Bool
  /-- Whether the n-th call that may raise does. -/
  raises : ℕ → Bool
  /-- The tracked state the n-th section finds. -/
  found : ℕ → App
  /-- The clock in the n-th section. -/
  clock : ℕ → ℚ

/-- What a start sequence leaves behind. -/
inductive StartEvent where
  /-- A press was completed. -/
  | pressed (button : Button)
  /-- A section left the tracked state so. -/
  | wrote (before after : App)
  /-- `record_event`. -/
  | recorded (type message : String)

/-- The result of `start_generator`. -/
structure StartResponse where
  success : Bool
  message : String
  deriving DecidableEq, Repr

variable (w : StartWorld) (maxRetries : ℤ)

/-- `press_button`. -/
def pressButton (button : Button) : Prog StartEvent Unit := do
  call w.raises
  -- The relay is switched off on every way out of the hold.
  protect (call w.raises) (call w.raises)
  call w.raises
  emit (.pressed button)

/-- A section under `state_lock`. -/
def locked (f : ℚ → App → App) : Prog StartEvent Unit :=
  enterSection fun k => .wrote (w.found k) (f (w.clock k) (w.found k))

/-- One turn of the loop over the attempts. -/
def startTurn (attempt : ℕ) : Prog StartEvent Unit := do
  locked w fun _ => startAttempt maxRetries attempt
  pressButton w (.prime attempt)
  call w.raises
  pressButton w (.crank attempt)
  locked w startStamp
  if (attempt : ℤ) < maxRetries then call w.raises else pure ()

/-- `range(1, max_retries + 1)`. -/
def startAttempts : List ℕ := List.range' 1 maxRetries.toNat

/-- `start_generator`, from the acquisition of `relay_lock` on. -/
def startGenerator : Prog StartEvent StartResponse := do
  if !w.lockFree then
    emit (.recorded "start_rejected" "relay sequence already in progress")
    return ⟨false, "A relay sequence is already in progress"⟩
  if (w.found 0).gen.running then
    emit (.recorded "start_rejected" "generator already marked as running")
    return ⟨false, "Generator already marked as running"⟩
  locked w fun _ s => (startCheck s).getD s
  emit (.recorded "start" "Start sequence initiated")
  for attempt in startAttempts maxRetries do
    startTurn w maxRetries attempt
  locked w fun now => startFinish now maxRetries
  emit (.recorded "start_complete" s!"Start sequence completed ({maxRetries} attempt(s))")
  -- The push thread.
  call w.raises
  return ⟨true, s!"Start sequence completed ({maxRetries} attempt(s)). " ++
    "Please verify generator is running."⟩

/-! ## What is asked of it -/

/-- The presses among the events. -/
def presses (events : List StartEvent) : List Button :=
  events.filterMap fun
    | .pressed button => some button
    | _ => none

/-- A prime press and a start press for every attempt. -/
def pressPairs : List Button := (startAttempts maxRetries).flatMap fun n => [.prime n, .crank n]

/-- Running, the start of the run and the total are the same. -/
structure SameRun (s t : App) : Prop where
  running : t.gen.running = s.gen.running
  started : t.gen.currentRunStartedAt = s.gen.currentRunStartedAt
  total : t.gen.totalRunHours = s.gen.totalRunHours

/-- A run does what it reports. -/
structure StartSound : Prop where
  /-- A success has made at least one pair of presses, and exactly as many as configured. -/
  success_pairs : ∀ r m, startGenerator w maxRetries {} = .ok r m → r.success = true →
    1 ≤ maxRetries ∧ presses m.events = pressPairs maxRetries
  /-- The sequence moves the run-state behind its last press only. -/
  marks_last : ∀ before s t after,
    (stateAfter (startGenerator w maxRetries {})).events = before ++ .wrote s t :: after →
    ¬ SameRun s t → presses before = pressPairs maxRetries ∧ presses after = []
  /-- A run that is refused or aborted has not moved it. -/
  unchanged : (∀ r m, startGenerator w maxRetries {} = .ok r m → r.success = false) →
    ∀ s t, .wrote s t ∈ (stateAfter (startGenerator w maxRetries {})).events → SameRun s t

/-- The number of the call that starts the push thread. -/
def pushCall : ℕ := 10 * maxRetries.toNat - 1

/-- The number of the section that marks the generator as running. -/
def markSection : ℕ := 1 + maxRetries.toNat * 2

/-! ## Presses and attempts -/

variable {w maxRetries}

theorem spends_pressButton (button : Button) :
    Spends w.raises (pressButton w button) 4 0 fun _ => [StartEvent.pressed button] :=
  Spends.call.bind ((Spends.call.protect Spends.call).bind
    (Spends.call.bind (Spends.emit (StartEvent.pressed button))))

theorem spends_locked (f : ℚ → App → App) :
    Spends w.raises (locked w f) 0 1
      fun k => [StartEvent.wrote (w.found k) (f (w.clock k) (w.found k))] :=
  Spends.enterSection _

/-- The events of an attempt whose first section is the `k`th. -/
def turnEvents (w : StartWorld) (maxRetries : ℤ) (attempt k : ℕ) : List StartEvent :=
  [.wrote (w.found k) (startAttempt maxRetries attempt (w.found k)), .pressed (.prime attempt),
    .pressed (.crank attempt),
    .wrote (w.found (k + 1)) (startStamp (w.clock (k + 1)) (w.found (k + 1)))]

/-- The calls of an attempt, a retry delay behind all but the last. -/
def turnCalls (maxRetries : ℤ) (attempt : ℕ) : ℕ :=
  9 + if (attempt : ℤ) < maxRetries then 1 else 0

theorem spends_startTurn (attempt : ℕ) :
    Spends w.raises (startTurn w maxRetries attempt) (turnCalls maxRetries attempt) 2
      (turnEvents w maxRetries attempt) := by
  have delay : Spends (ν := StartEvent) w.raises
      (if (attempt : ℤ) < maxRetries then call w.raises else pure ())
      (if (attempt : ℤ) < maxRetries then 1 else 0) 0 fun _ => [] := by
    split
    · exact Spends.call
    · exact Spends.pure
  have whole := (spends_locked (w := w) fun _ => startAttempt maxRetries attempt).bind
    ((spends_pressButton (.prime attempt)).bind (Spends.call.bind
      ((spends_pressButton (.crank attempt)).bind ((spends_locked startStamp).bind delay))))
  have calls : 0 + (4 + (1 + (4 + (0 + if (attempt : ℤ) < maxRetries then 1 else 0)))) =
      turnCalls maxRetries attempt := by
    unfold turnCalls
    omega
  rw [calls] at whole
  exact whole

/-- Ten calls for an attempt, but for the last. -/
theorem sum_turnCalls (maxRetries : ℤ) :
    ((startAttempts maxRetries).map (turnCalls maxRetries)).sum = pushCall maxRetries := by
  have upTo : ∀ n : ℕ, ((List.range' 1 n).map (turnCalls maxRetries)).sum =
      9 * n + min n (maxRetries.toNat - 1) := by
    intro n
    induction n with
    | zero => rfl
    | succ n ih =>
        rw [List.range'_concat, List.map_append, List.sum_append, ih]
        simp only [turnCalls, List.map_cons, List.map_nil, List.sum_cons, List.sum_nil]
        split <;> omega
  rw [startAttempts, upTo, pushCall]
  omega

/-! ## The sequence up to its mark -/

/-- The sections and presses before the generator is marked. -/
def beforeMark (w : StartWorld) (maxRetries : ℤ) : List StartEvent :=
  .wrote (w.found 0) ((startCheck (w.found 0)).getD (w.found 0)) ::
    .recorded "start" "Start sequence initiated" ::
      loopEvents (turnEvents w maxRetries) 2 (startAttempts maxRetries) 1

/-- The mark and what is recorded of it. -/
def markEvents (w : StartWorld) (maxRetries : ℤ) : List StartEvent :=
  [.wrote (w.found (markSection maxRetries)) (startFinish (w.clock (markSection maxRetries))
      maxRetries (w.found (markSection maxRetries))),
    .recorded "start_complete" s!"Start sequence completed ({maxRetries} attempt(s))"]

/-- Some call before the mark raises. -/
def RaisesEarly (w : StartWorld) (maxRetries : ℤ) : Prop :=
  ∃ k, k < pushCall maxRetries ∧ w.raises k = true

def startUpToMark (w : StartWorld) (maxRetries : ℤ) : Prog StartEvent Unit := do
  locked w fun _ s => (startCheck s).getD s
  emit (.recorded "start" "Start sequence initiated")
  for attempt in startAttempts maxRetries do
    startTurn w maxRetries attempt

def startFromMark (w : StartWorld) (maxRetries : ℤ) : Prog StartEvent StartResponse := do
  locked w fun now => startFinish now maxRetries
  emit (.recorded "start_complete" s!"Start sequence completed ({maxRetries} attempt(s))")
  call w.raises
  return ⟨true, s!"Start sequence completed ({maxRetries} attempt(s)). " ++
    "Please verify generator is running."⟩

theorem spends_startUpToMark (w : StartWorld) (maxRetries : ℤ) :
    Spends w.raises (startUpToMark w maxRetries) (pushCall maxRetries) (markSection maxRetries)
      fun k => .wrote (w.found k) ((startCheck (w.found k)).getD (w.found k)) ::
        .recorded "start" "Start sequence initiated" ::
          loopEvents (turnEvents w maxRetries) 2 (startAttempts maxRetries) (k + 1) := by
  have turns : ∀ attempt ∈ startAttempts maxRetries,
    Spends w.raises (startTurn w maxRetries attempt)
      (turnCalls maxRetries attempt) 2 (turnEvents w maxRetries attempt) :=
    fun attempt _ => spends_startTurn attempt
  have loop := Spends.forIn turns
  have whole := (spends_locked (w := w) fun _ s => (startCheck s).getD s).bind
    ((Spends.emit (StartEvent.recorded "start" "Start sequence initiated")).bind loop)
  have calls : 0 + (0 + ((startAttempts maxRetries).map (turnCalls maxRetries)).sum) =
      pushCall maxRetries := by
    rw [sum_turnCalls]
    omega
  have sections : 1 + (0 + (startAttempts maxRetries).length * 2) = markSection maxRetries := by
    rw [startAttempts, List.length_range', markSection]
    omega
  rw [calls, sections] at whole
  exact whole

theorem startGenerator_busy (busy : w.lockFree = false) :
    startGenerator w maxRetries {} = .ok ⟨false, "A relay sequence is already in progress"⟩
      ⟨0, 0, [.recorded "start_rejected" "relay sequence already in progress"]⟩ := by
  unfold startGenerator
  rw [busy]
  rfl

theorem startGenerator_marked (free : w.lockFree = true)
    (running : (w.found 0).gen.running = true) :
    startGenerator w maxRetries {} = .ok ⟨false, "Generator already marked as running"⟩
      ⟨0, 0, [.recorded "start_rejected" "generator already marked as running"]⟩ := by
  unfold startGenerator
  rw [free, running]
  rfl

/-- The sequence of a generator that is not marked as running, with the lock free. -/
theorem startGenerator_begun (free : w.lockFree = true)
    (stopped : (w.found 0).gen.running = false) :
    startGenerator w maxRetries = startUpToMark w maxRetries >>= fun _ =>
    startFromMark w maxRetries := by
  funext m
  unfold startGenerator startUpToMark startFromMark
  rw [free, stopped]
  simp only [Bool.not_true, Bool.false_eq_true, if_false, Bind.bind, EStateM.bind, locked, emit,
    enterSection]
  split <;> rfl

/-- From the mark on only the push thread may raise, and the mark is left either way. -/
theorem startFromMark_run (w : StartWorld) (maxRetries : ℤ) (before : List StartEvent) :
    ∃ m : Ledger StartEvent, m.events = before ++ markEvents w maxRetries ∧
      startFromMark w maxRetries ⟨pushCall maxRetries, markSection maxRetries, before⟩ =
        if w.raises (pushCall maxRetries) then .error () m
        else .ok ⟨true, s!"Start sequence completed ({maxRetries} attempt(s)). " ++
          "Please verify generator is running."⟩ m := by
  refine ⟨⟨pushCall maxRetries + 1, markSection maxRetries + 1,
    before ++ markEvents w maxRetries⟩, rfl, ?_⟩
  simp only [startFromMark, Bind.bind, EStateM.bind, locked, enterSection, emit, call, markEvents,
    List.append_assoc, List.cons_append, List.nil_append]
  cases w.raises (pushCall maxRetries) <;> rfl

/-- How a run ends: refused; raised in before the mark; or past it, with the push thread raising or
not. -/
theorem startGenerator_cases (w : StartWorld) (maxRetries : ℤ) :
    ((w.lockFree = false ∨ (w.found 0).gen.running = true) ∧ ∃ message type reason,
        startGenerator w maxRetries {} = .ok ⟨false, message⟩ ⟨0, 0, [.recorded type reason]⟩) ∨
    (w.lockFree = true ∧ (w.found 0).gen.running = false ∧
      ((RaisesEarly w maxRetries ∧ ∃ m : Ledger StartEvent,
          startGenerator w maxRetries {} = .error () m ∧ m.events <+: beforeMark w maxRetries) ∨
        (¬ RaisesEarly w maxRetries ∧ ∃ m : Ledger StartEvent,
          m.events = beforeMark w maxRetries ++ markEvents w maxRetries ∧
          startGenerator w maxRetries {} =
            if w.raises (pushCall maxRetries) then .error () m
            else .ok ⟨true, s!"Start sequence completed ({maxRetries} attempt(s)). " ++
              "Please verify generator is running."⟩ m))) := by
  cases free : w.lockFree with
  | false => exact Or.inl ⟨Or.inl rfl, _, _, _, startGenerator_busy free⟩
  | true =>
      cases running : (w.found 0).gen.running with
      | true => exact Or.inl ⟨Or.inr rfl, _, _, _, startGenerator_marked free running⟩
      | false =>
          refine Or.inr ⟨rfl, rfl, ?_⟩
          have spends := spends_startUpToMark w maxRetries
          rw [startGenerator_begun free running]
          by_cases early : RaisesEarly w maxRetries
          · obtain ⟨k, before, raised⟩ := early
            obtain ⟨m, left, raises, eq, part⟩ :=
              spends.raised {} ⟨k, Nat.zero_le _, by simpa, raised⟩
            refine Or.inl ⟨⟨k, before, raised⟩, m, bind_raised raises, ?_⟩
            rw [eq]
            exact part
          · have quiet := spends.returns {} fun k _ before =>
              Bool.eq_false_iff.mpr fun raised => early ⟨k, by simpa using before, raised⟩
            obtain ⟨m, events, eq⟩ := startFromMark_run w maxRetries (beforeMark w maxRetries)
            refine Or.inr ⟨early, m, events, (bind_run quiet).trans ?_⟩
            rw [← eq]
            simp only [Nat.zero_add, List.nil_append]
            rfl

/-! ## The events -/

theorem SameRun.of_accounts {s t : App} (same : SameAccounts s t) : SameRun s t :=
  ⟨same.running, same.started, same.total⟩

/-- The events of some turns hold their presses in order, and move no run-state. -/
theorem loopEvents_turns (w : StartWorld) (maxRetries : ℤ) (attempts : List ℕ) (k : ℕ) :
    presses (loopEvents (turnEvents w maxRetries) 2 attempts k) =
        attempts.flatMap (fun n => [.prime n, .crank n]) ∧
      ∀ s t, .wrote s t ∈ loopEvents (turnEvents w maxRetries) 2 attempts k → SameRun s t := by
  induction attempts generalizing k with
  | nil => exact ⟨rfl, fun s t mem => (nomatch mem)⟩
  | cons n attempts ih =>
      obtain ⟨pressed, same⟩ := ih (k + 2)
      constructor
      · rw [List.flatMap_cons, ← pressed]
        rfl
      · intro s t mem
        rcases List.mem_append.mp mem with here | later
        · simp only [turnEvents, List.mem_cons, StartEvent.wrote.injEq, reduceCtorEq, false_or,
            List.not_mem_nil, or_false] at here
          rcases here with ⟨rfl, rfl⟩ | ⟨rfl, rfl⟩
          · exact .of_accounts (startAttempt_sameAccounts maxRetries n _)
          · exact .of_accounts (startStamp_sameAccounts _ _)
        · exact same s t later

theorem presses_beforeMark : presses (beforeMark w maxRetries) = pressPairs maxRetries :=
  (loopEvents_turns w maxRetries (startAttempts maxRetries) 1).1

theorem sameRun_beforeMark {s t : App} (mem : .wrote s t ∈ beforeMark w maxRetries) :
    SameRun s t := by
  rcases List.mem_cons.mp mem with first | later
  · obtain ⟨rfl, rfl⟩ := StartEvent.wrote.inj first
    cases checked : startCheck (w.found 0) with
    | none => exact ⟨rfl, rfl, rfl⟩
    | some t => exact .of_accounts (startCheck_sameAccounts checked)
  · rcases List.mem_cons.mp later with recorded | turns
    · cases recorded
    · exact (loopEvents_turns w maxRetries (startAttempts maxRetries) 1).2 s t turns

/-- The mark moves the run-state unless it finds the generator marked. -/
theorem sameRun_mark_iff (maxRetries : ℤ) (now : ℚ) (s : App) :
    SameRun s (startFinish now maxRetries s) ↔ s.gen.running = true := by
  have finished := startFinish_sameAccounts now maxRetries s
  constructor
  · intro same
    rw [← same.running, finished.running, applyRunningTransition_running]
  · intro running
    have kept := applyRunningTransition_same running now
    rw [kept] at finished
    exact .of_accounts finished

/-! ## When a run does what it reports -/

/-- The start is refused; or a call raises before the mark; or the count is positive and the push
thread starts; or it does not, and the mark finds the generator marked as running by another
thread. -/
def StartHolds (w : StartWorld) (maxRetries : ℤ) : Prop :=
  w.lockFree = false ∨ (w.found 0).gen.running = true ∨ RaisesEarly w maxRetries ∨
    (1 ≤ maxRetries ∧ w.raises (pushCall maxRetries) = false) ∨
    (w.raises (pushCall maxRetries) = true ∧
      (w.found (markSection maxRetries)).gen.running = true)

theorem presses_append (a b : List StartEvent) : presses (a ++ b) = presses a ++ presses b :=
  List.filterMap_append

/-- What moves the run-state stands behind every press. -/
theorem marks_last_of_events {before after : List StartEvent} {s t : App}
    (whole : before ++ .wrote s t :: after <+: beforeMark w maxRetries ++ markEvents w maxRetries)
    (moved : ¬ SameRun s t) : presses before = pressPairs maxRetries ∧ presses after = [] := by
  obtain ⟨rest, eq⟩ := whole
  rw [List.append_assoc, List.cons_append] at eq
  have marked : before = beforeMark w maxRetries ∧
      .wrote s t :: (after ++ rest) = markEvents w maxRetries := by
    rcases List.append_eq_append_iff.mp eq with ⟨front, split, tail⟩ | ⟨front, split, tail⟩
    · cases front with
      | nil => exact ⟨by simpa using split.symm, by simpa using tail⟩
      | cons first front =>
          obtain ⟨rfl, -⟩ := List.cons.inj tail
          have early : .wrote s t ∈ beforeMark w maxRetries := by
            rw [split]
            exact List.mem_append_right _ List.mem_cons_self
          exact absurd (sameRun_beforeMark early) moved
    · cases front with
      | nil => exact ⟨by simpa using split, by simpa using tail.symm⟩
      | cons first front =>
          have behind := (List.cons.inj tail).2
          cases front with
          | nil => simp at behind
          | cons second front => simp at behind
  obtain ⟨rfl, tail⟩ := marked
  refine ⟨presses_beforeMark, ?_⟩
  have quiet : presses (after ++ rest) = [] := by
    rw [(List.cons.inj tail).2]
    rfl
  rw [presses_append] at quiet
  exact (List.append_eq_nil_iff.mp quiet).1

theorem sameRun_of_mark {s t : App}
    (mem : .wrote s t ∈ beforeMark w maxRetries ++ markEvents w maxRetries)
    (marked : (w.found (markSection maxRetries)).gen.running = true) : SameRun s t := by
  rcases List.mem_append.mp mem with early | mark
  · exact sameRun_beforeMark early
  · rcases List.mem_cons.mp mark with here | recorded
    · obtain ⟨rfl, rfl⟩ := StartEvent.wrote.inj here
      exact (sameRun_mark_iff _ _ _).mpr marked
    · simp at recorded

theorem StartSound.holds (sound : StartSound w maxRetries) : StartHolds w maxRetries := by
  rcases startGenerator_cases w maxRetries with
    ⟨refusal, -⟩ | ⟨-, -, ⟨early, -⟩ | ⟨-, m, events, ends⟩⟩
  · exact refusal.elim Or.inl fun running => Or.inr (Or.inl running)
  · exact Or.inr (Or.inr (Or.inl early))
  · cases push : w.raises (pushCall maxRetries) with
    | false =>
        rw [push, if_neg Bool.false_ne_true] at ends
        have positive := (sound.success_pairs _ m ends rfl).1
        exact Or.inr (Or.inr (Or.inr (Or.inl ⟨positive, push⟩)))
    | true =>
        rw [push, if_pos rfl] at ends
        have aborted : ∀ r m', startGenerator w maxRetries {} = .ok r m' → r.success = false :=
          fun r m' returned => by cases ends.symm.trans returned
        have same := sound.unchanged aborted _ _ <| by
          rw [ends]
          change _ ∈ m.events
          rw [events]
          exact List.mem_append_right _ List.mem_cons_self
        have marked := (sameRun_mark_iff maxRetries (w.clock (markSection maxRetries)) _).mp same
        exact Or.inr (Or.inr (Or.inr (Or.inr ⟨push, marked⟩)))

/-- A refusal leaves the record of itself and nothing else. -/
theorem StartSound.of_refused {message type reason : String}
    (refused : startGenerator w maxRetries {} =
      .ok ⟨false, message⟩ ⟨0, 0, [.recorded type reason]⟩) : StartSound w maxRetries := by
  refine ⟨?_, ?_, ?_⟩
  · intro r m returned success
    rw [refused] at returned
    cases returned
    cases success
  · intro before s t after split _
    rw [refused] at split
    cases before with
    | nil => cases split
    | cons first before => simp [stateAfter] at split
  · intro _ s t mem
    rw [refused] at mem
    simp [stateAfter] at mem

/-- A run that raises before the mark moves no run-state. -/
theorem StartSound.of_raised {m : Ledger StartEvent}
    (raised : startGenerator w maxRetries {} = .error () m)
    (part : m.events <+: beforeMark w maxRetries) : StartSound w maxRetries := by
  have within := part.trans (List.prefix_append _ (markEvents w maxRetries))
  refine ⟨?_, ?_, ?_⟩
  · intro r m' returned _
    rw [raised] at returned
    cases returned
  · intro before s t after split moved
    rw [raised] at split
    have eq : m.events = before ++ .wrote s t :: after := split
    exact marks_last_of_events (eq ▸ within) moved
  · intro _ s t mem
    rw [raised] at mem
    exact sameRun_beforeMark (part.subset mem)

/-- One that returns past the mark has made a pair of presses for each attempt. -/
theorem StartSound.of_completed {m : Ledger StartEvent} {message : String}
    (events : m.events = beforeMark w maxRetries ++ markEvents w maxRetries)
    (completed : startGenerator w maxRetries {} = .ok ⟨true, message⟩ m)
    (positive : 1 ≤ maxRetries) : StartSound w maxRetries := by
  refine ⟨?_, ?_, ?_⟩
  · intro r m' returned _
    rw [completed] at returned
    cases returned
    refine ⟨positive, ?_⟩
    rw [events, presses_append, presses_beforeMark]
    exact List.append_nil _
  · intro before s t after split moved
    rw [completed] at split
    have whole : before ++ .wrote s t :: after =
        beforeMark w maxRetries ++ markEvents w maxRetries :=
      Eq.trans split.symm events
    exact marks_last_of_events ⟨[], (List.append_nil _).trans whole⟩ moved
  · intro failed
    cases failed _ _ completed

/-- One that raises past it has moved no run-state where the generator was marked. -/
theorem StartSound.of_pushRaised {m : Ledger StartEvent}
    (events : m.events = beforeMark w maxRetries ++ markEvents w maxRetries)
    (raised : startGenerator w maxRetries {} = .error () m)
    (marked : (w.found (markSection maxRetries)).gen.running = true) :
    StartSound w maxRetries := by
  refine ⟨?_, ?_, ?_⟩
  · intro r m' returned _
    rw [raised] at returned
    cases returned
  · intro before s t after split moved
    rw [raised] at split
    have whole : before ++ .wrote s t :: after =
        beforeMark w maxRetries ++ markEvents w maxRetries :=
      Eq.trans split.symm events
    exact marks_last_of_events ⟨[], (List.append_nil _).trans whole⟩ moved
  · intro _ s t mem
    rw [raised] at mem
    have listed : .wrote s t ∈ m.events := mem
    rw [events] at listed
    exact sameRun_of_mark listed marked

theorem StartHolds.sound (holds : StartHolds w maxRetries) : StartSound w maxRetries := by
  rcases startGenerator_cases w maxRetries with
    ⟨-, message, type, reason, refused⟩ | ⟨free, stopped, ⟨-, m, raised, part⟩ |
      ⟨late, m, events, ends⟩⟩
  · exact .of_refused refused
  · exact .of_raised raised part
  · have past : (1 ≤ maxRetries ∧ w.raises (pushCall maxRetries) = false) ∨
        (w.raises (pushCall maxRetries) = true ∧
          (w.found (markSection maxRetries)).gen.running = true) := by
      simpa [StartHolds, free, stopped, late] using holds
    rcases past with ⟨positive, quiet⟩ | ⟨raises, marked⟩
    · rw [quiet, if_neg Bool.false_ne_true] at ends
      exact .of_completed events ends positive
    · rw [raises, if_pos rfl] at ends
      exact .of_pushRaised events ends marked

/-- A run does what it reports exactly under `StartHolds`, for every integer retry count, every
choice of the calls that raise, and whatever other threads do in between. -/
theorem startSound_iff (w : StartWorld) (maxRetries : ℤ) :
    StartSound w maxRetries ↔ StartHolds w maxRetries :=
  ⟨StartSound.holds, StartHolds.sound⟩

/-- A stopped generator nobody else touches. -/
def undisturbedStart (raises : ℕ → Bool) : StartWorld where
  lockFree := true
  raises := raises
  found := fun _ => {}
  clock := fun _ => 0

/-- The settings file may say `MAX_START_RETRIES=0`: the sequence then reports a success without a
press.  With one attempt, a push thread that cannot be started, the tenth call, aborts the run after
it has marked the generator as running. -/
theorem started_without_press :
    castSetting { float? := fun _ => none, push := false } (.int 1) "0".toList = some (.int 0) ∧
      ¬ StartSound (undisturbedStart fun _ => false) 0 ∧
      ¬ StartSound (undisturbedStart fun k => k = 9) 1 := by
  refine ⟨by rfl, fun sound => ?_, fun sound => ?_⟩
  · rcases sound.holds with h | h | ⟨k, before, -⟩ | ⟨h, -⟩ | ⟨h, -⟩
    · cases h
    · cases h
    · exact absurd before (Nat.not_lt_zero k)
    · exact absurd h (by decide)
    · cases h
  · rcases sound.holds with h | h | ⟨k, before, raised⟩ | ⟨-, h⟩ | ⟨-, h⟩
    · cases h
    · cases h
    · have ninth : k = 9 := of_decide_eq_true raised
      have last : pushCall 1 = 9 := by decide
      omega
    · exact absurd h (by decide)
    · cases h

end GeneratorPi
