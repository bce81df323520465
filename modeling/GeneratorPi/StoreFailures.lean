import GeneratorPi.EventStore
import GeneratorPi.Lib.Noninterference
import GeneratorPi.ResetRace

/-!
# The control path over a failing database

The operations of `genpi/control.py`, `genpi/fuel.py`, `genpi/state.py` and the manual override with
every database call they make, `execute` by `execute`.  The store fails at will: `Store.fails` says
which calls raise, and the connection may not be open at all.

`record_event` and `kv_set` swallow what the database raises, so nothing of it reaches the
operations that call them, some with locks held (`reports_eq_healthy`).
-/

namespace GeneratorPi

open Noninterference PyText Rounding

/-! ## The board -/

/-- What the operations act on: the globals (their kv rows are those of the store), the levels
written to the relay, the notifications handed to `send_push_async`, and how often each lock is
held. -/
structure ControlState where
  app : App := {}
  relay : List Bool := []
  notices : List (String × String) := []
  relayLock : ℕ := 0
  stateLock : ℕ := 0
  eventLock : ℕ := 0

/-- The database behind `_event_conn`: the tables as the connection sees them, the ones committed,
the clock that stamps the events, and which of its calls raise. -/
structure Store where
  opened : Bool := true
  events : EventStore := {}
  rows : Kv := {}
  savedEvents : EventStore := {}
  savedRows : Kv := {}
  ticks : ℕ → ℚ := fun _ => 0
  calls : ℕ := 0
  fails : ℕ → Bool := fun _ => false

/-- The same database, open and with no call that raises. -/
def Store.healthy (s : Store) : Store := { s with opened := true, fails := fun _ => false }

structure Board where
  control : ControlState := {}
  store : Store := {}

/-- How often each lock is held. -/
def Board.locks (b : Board) : ℕ × ℕ × ℕ :=
  (b.control.relayLock, b.control.stateLock, b.control.eventLock)

abbrev Proc (α : Type) := EStateM String Board α

/-! ## Settings and results -/

/-- The settings the operations read. -/
structure ControlConfig where
  maxRetries : ℤ := 1
  eventLogMax : ℕ := 1000

/-- The result of a start, a stop or the manual override. -/
structure Reply where
  success : Bool
  message : String
  deriving DecidableEq, Repr

/-- What an operation returns. -/
inductive Value where
  | reply (r : Reply)
  | rate (rate : ℚ)
  | hours (old new : ℚ)
  | fuel (fuel : FuelState)
  | alerts (alerts : AlertsState)
  | action (action : LowFuelAction)
  | done
  deriving DecidableEq, Repr

namespace Proc

/-! ## Database calls -/

/-- One `execute` or `commit`. -/
def execute (effect : Store → Store) : Proc Unit := fun r =>
  let store := { r.store with calls := r.store.calls + 1 }
  if r.store.fails r.store.calls then .error "sqlite3.Error" { r with store := store }
  else .ok () { r with store := effect store }

def commit : Proc Unit :=
  execute fun s => { s with savedEvents := s.events, savedRows := s.rows }

/-- `_event_conn is not None`. -/
def isOpen : Proc Bool := fun r => .ok r.store.opened r

def withEventLock {α : Type} : Proc α → Proc α :=
  bracket (fun r => { r with control.eventLock := r.control.eventLock + 1 })
    (fun r => { r with control.eventLock := r.control.eventLock - 1 })

/-- The body of `kv_set`. -/
def upsertRow (row : KvRow) : Proc Unit :=
  withEventLock do
    if ← isOpen then
      execute fun s => { s with rows := GeneratorPi.kvSet s.rows row }
      commit
    else pure ()

/-- `kv_set`. -/
def kvSet (row : KvRow) : Proc Unit := swallow (upsertRow row)

/-- The body of `record_event`. -/
def insertEvent (maxRows : ℕ) (type : String) (message : Text) (actor : Option Text) :
    Proc Unit :=
  withEventLock do
    if ← isOpen then
      execute fun s =>
        { s with events := s.events.insert (s.ticks s.calls) type (attributed message actor) }
      execute fun s => { s with events := s.events.evict maxRows }
      commit
    else pure ()

/-- `record_event`, for a cap of `maxRows`. -/
def recordEvent (maxRows : ℕ) (type : String) (message : Text) (actor : Option Text) :
    Proc Unit :=
  swallow (insertEvent maxRows type message actor)

/-! ## The other effects -/

def withStateLock {α : Type} : Proc α → Proc α :=
  bracket (fun r => { r with control.stateLock := r.control.stateLock + 1 })
    (fun r => { r with control.stateLock := r.control.stateLock - 1 })

def withRelayLock {α : Type} : Proc α → Proc α :=
  bracket (fun r => { r with control.relayLock := r.control.relayLock + 1 })
    (fun r => { r with control.relayLock := r.control.relayLock - 1 })

/-- Whether `relay_lock.acquire(blocking=False)` is refused. -/
def relayBusy : Proc Bool := fun r => .ok (0 < r.control.relayLock) r

def getApp : Proc App := fun r => .ok r.control.app r

/-- Move the memory; the rows are written by `kvSet` alone. -/
def modifyApp (f : App → App) : Proc Unit :=
  modify fun r => { r with control.app := { f r.control.app with kv := r.control.app.kv } }

/-- `press_button`. -/
def press : Proc Unit := modify fun r =>
  { r with control.relay := r.control.relay ++ [true, false] }

/-- `send_push_async`: the sending thread is started, or not, without the database. -/
def sendPushAsync (title body : String) : Proc Unit :=
  modify fun r => { r with control.notices := r.control.notices ++ [(title, body)] }

/-! ## The operations -/

/-- The first half of `_apply_running_transition_locked`. -/
def account (now : ℚ) (newRunning : Bool) : Proc Unit := do
  let app ← getApp
  if newRunning && !app.gen.running then
    modifyApp fun app => { app with gen := { app.gen with currentRunStartedAt := some now } }
  else if !newRunning && app.gen.running then
    modifyApp fun app => { app with gen := { app.gen with
      totalRunHours := liveTotalRunHours now app
      currentRunStartedAt := none } }
    let app ← getApp
    kvSet (.totalRunHours app.gen.totalRunHours)
  else pure ()

/-- `_apply_running_transition_locked`. -/
def transition (now : ℚ) (newRunning : Bool) : Proc Unit := do
  account now newRunning
  modifyApp fun app => { app with gen := { app.gen with running := newRunning } }

def alreadyInProgress : Value :=
  .reply ⟨false, "A relay sequence is already in progress"⟩

/-- The section of `stop_generator` under `state_lock`. -/
def stopSection (now : ℚ) : Proc Unit := do
  modifyApp fun app => { app with gen := { app.gen with lastCommand := some "stop" } }
  transition now false
  modifyApp fun app => { app with gen := { app.gen with
    lastStopTime := some now
    message := "Stop command sent" } }

/-- `stop_generator`. -/
def stopGenerator (c : ControlConfig) (now : ℚ) (actor : Option Text) : Proc Value := do
  if ← relayBusy then pure alreadyInProgress
  else withRelayLock do
    press
    withStateLock (stopSection now)
    recordEvent c.eventLogMax "stop" "Stop command sent".toList actor
    sendPushAsync "Generator stopped" "Stop command sent."
    pure (.reply ⟨true, "Stop button pressed. Generator should be stopping."⟩)

/-- The first section of `start_generator` under `state_lock`: whether the start is accepted. -/
def startHead (c : ControlConfig) (actor : Option Text) : Proc Bool := do
  match startCheck (← getApp) with
  | none =>
      recordEvent c.eventLogMax "start_rejected" "generator already marked as running".toList actor
      pure false
  | some app =>
      modifyApp fun _ => app
      pure true

/-- One attempt: the prime press and the start press. -/
def attempt (c : ControlConfig) (clock : ℕ → ℚ) (k : ℕ) : Proc Unit := do
  withStateLock (modifyApp (startAttempt c.maxRetries k))
  press
  press
  withStateLock (modifyApp (startStamp (clock k)))

/-- The last section of `start_generator` under `state_lock`. -/
def startEnd (c : ControlConfig) (now : ℚ) : Proc Unit := do
  transition now true
  modifyApp fun app => { app with gen := { app.gen with
    message := s!"Start sequence completed ({c.maxRetries} attempt(s)). " ++
      "Verify generator manually." } }

/-- What `start_generator` does once it is accepted; `clock` reads the time of every attempt and, at
zero, of the end. -/
def startSequence (c : ControlConfig) (clock : ℕ → ℚ) (actor : Option Text) : Proc Value := do
  recordEvent c.eventLogMax "start" "Start sequence initiated".toList actor
  for k in List.range' 1 c.maxRetries.toNat do
    attempt c clock k
  withStateLock (startEnd c (clock 0))
  recordEvent c.eventLogMax "start_complete"
    s!"Start sequence completed ({c.maxRetries} attempt(s))".toList actor
  sendPushAsync "Generator started" "Start sequence completed. Verify the unit is running."
  pure (.reply ⟨true, s!"Start sequence completed ({c.maxRetries} attempt(s)). " ++
    "Please verify generator is running."⟩)

/-- `start_generator`. -/
def startGenerator (c : ControlConfig) (clock : ℕ → ℚ) (actor : Option Text) : Proc Value := do
  if ← relayBusy then
    recordEvent c.eventLogMax "start_rejected" "relay sequence already in progress".toList actor
    pure alreadyInProgress
  else withRelayLock do
    if ← withStateLock (startHead c actor) then startSequence c clock actor
    else pure (.reply ⟨false, "Generator already marked as running"⟩)

/-- The section of `api_set_running` under `state_lock`. -/
def overrideSection (now : ℚ) (running : Bool) : Proc Unit := do
  transition now running
  modifyApp fun app => { app with gen := { app.gen with
    lastCommand := some (if running then "mark_run" else "mark_stop")
    lastStartTime := if running then some now else app.gen.lastStartTime
    lastStopTime := if running then app.gen.lastStopTime else some now
    message := if running then "Manually set to RUNNING" else "Manually set to STOPPED" } }

/-- `api_set_running`. -/
def setRunning (c : ControlConfig) (now : ℚ) (running : Bool) (actor : Option Text) :
    Proc Value := do
  withStateLock (overrideSection now running)
  recordEvent c.eventLogMax "set_running"
    ("State manually set to " ++ if running then "RUNNING" else "STOPPED").toList actor
  sendPushAsync (if running then "Marked as running" else "Marked as stopped")
    "Tracked state was set manually (no relay action)."
  pure (.reply ⟨true, ""⟩)

/-- What the mutators of `genpi/state.py` and `genpi/fuel.py` return. -/
def mutatorValue (app : App) : Mutator → Value
  | .setTotalRunHours now restamp hours =>
      let (old, new) := (GeneratorPi.setTotalRunHours now restamp hours app).1
      .hours old new
  | .recordFuelReading now level => .rate (GeneratorPi.recordFuelReading now level app).1
  | .setFuelRate rate => .rate (GeneratorPi.setFuelRate rate app).1
  | .resetFuelRate => .rate (GeneratorPi.resetFuelRate app).1
  | .setFuelFill now level => .fuel (GeneratorPi.setFuelFill now level app).1
  | .setAlerts enabled threshold fuelEnabled =>
      .alerts (GeneratorPi.setAlerts enabled threshold fuelEnabled app).1
  | .startFinish _ _ | .stop _ | .setRunning _ _ => .done

/-- A mutator: under one hold of `state_lock` it moves the memory, then writes its rows. -/
def mutate (m : Mutator) : Proc Value :=
  withStateLock do
    let app ← getApp
    modifyApp m.apply
    for row in m.kvSets app do
      kvSet row
    pure (mutatorValue app m)

/-- A mutator called by a request, which records an event of its own after it. -/
def audited (c : ControlConfig) (m : Mutator) (type : String) (message : Value → Text)
    (actor : Option Text) : Proc Value := do
  let value ← mutate m
  recordEvent c.eventLogMax type (message value) actor
  pure value

/-- The section of `evaluate_low_fuel` under `state_lock`: the action and the level it shows. -/
def evaluateSection (now : ℚ) : Proc (LowFuelAction × ℤ) := do
  let app ← getApp
  modifyApp fun app => (evaluateLowFuel now app).2
  pure ((evaluateLowFuel now app).1, roundHalfEven (projectedFuelLevel now app))

/-- `evaluate_low_fuel`. -/
def evaluateLowFuel (c : ControlConfig) (now : ℚ) : Proc Value := do
  let (action, level) ← withStateLock (evaluateSection now)
  if action = .push then
    recordEvent c.eventLogMax "fuel" s!"Low fuel alert: projected level ~{level}%".toList none
    sendPushAsync "Low fuel" s!"Projected level ~{level}% - refuel soon."
    pure (.action action)
  else pure (.action action)

end Proc

/-! ## Calls -/

/-- A call of one of the operations, with its readings of the clock. -/
inductive ControlCall where
  | start (clock : ℕ → ℚ) (actor : Option Text)
  | stop (now : ℚ) (actor : Option Text)
  | setRunning (now : ℚ) (running : Bool) (actor : Option Text)
  | mutate (m : Mutator)
  | audited (m : Mutator) (type : String) (message : Value → Text) (actor : Option Text)
  | evaluateLowFuel (now : ℚ)

/-- The program of a call. -/
def ControlCall.program (c : ControlConfig) : ControlCall → Proc Value
  | .start clock actor => Proc.startGenerator c clock actor
  | .stop now actor => Proc.stopGenerator c now actor
  | .setRunning now running actor => Proc.setRunning c now running actor
  | .mutate m => Proc.mutate m
  | .audited m type message actor => Proc.audited c m type message actor
  | .evaluateLowFuel now => Proc.evaluateLowFuel c now

/-! ## No database call is seen -/

namespace Proc

variable {α : Type} {c : ControlConfig}

/-- A program whose behaviour depends on the controls alone; it returns, with no lock more or less
held. -/
abbrev Unaffected (p : Proc α) : Prop := Shielded Board.control Board.locks p

/-- A program that touches the store alone. -/
abbrev StoreOnly (p : Proc α) : Prop := Confined Board.control p

theorem execute_storeOnly (effect : Store → Store) : StoreOnly (execute effect) := by
  intro r
  unfold execute
  dsimp only
  split <;> rfl

theorem isOpen_storeOnly : StoreOnly isOpen := fun _ => rfl

/-- A section under `_event_lock` gives the lock back, and touches the store alone. -/
theorem withEventLock_storeOnly {p : Proc α} (h : StoreOnly p) : StoreOnly (withEventLock p) := by
  refine Confined.bracket (fun r t kept => ?_) h
  dsimp only at kept ⊢
  rw [kept]
  rfl

theorem swallow_unaffected {p : Proc Unit} (h : StoreOnly p) : Unaffected (swallow p) :=
  Shielded.swallow h fun r => by rw [Board.locks, Board.locks, h r]

theorem upsertRow_storeOnly (row : KvRow) : StoreOnly (upsertRow row) := by
  refine withEventLock_storeOnly (Confined.bind isOpen_storeOnly fun opened => ?_)
  refine Confined.ite (Confined.bind (execute_storeOnly _) fun _ => ?_) (Confined.pure _)
  exact execute_storeOnly _

theorem insertEvent_storeOnly (maxRows : ℕ) (type : String) (message : Text)
    (actor : Option Text) : StoreOnly (insertEvent maxRows type message actor) := by
  refine withEventLock_storeOnly (Confined.bind isOpen_storeOnly fun opened => ?_)
  refine Confined.ite (Confined.bind (execute_storeOnly _) fun _ => ?_) (Confined.pure _)
  exact Confined.bind (execute_storeOnly _) fun _ => execute_storeOnly _

theorem kvSet_unaffected (row : KvRow) : Unaffected (kvSet row) :=
  swallow_unaffected (upsertRow_storeOnly row)

theorem recordEvent_unaffected (maxRows : ℕ) (type : String) (message : Text)
    (actor : Option Text) : Unaffected (recordEvent maxRows type message actor) :=
  swallow_unaffected (insertEvent_storeOnly maxRows type message actor)

theorem withStateLock_unaffected {p : Proc α} (h : Unaffected p) :
    Unaffected (withStateLock p) := by
  refine Shielded.bracket (fun r t same => ?_) (fun r t same => ?_) (fun r t kept => ?_) h
  · dsimp only
    rw [same]
  · dsimp only
    rw [same]
  · simp only [Board.locks, Prod.mk.injEq] at kept ⊢
    omega

theorem withRelayLock_unaffected {p : Proc α} (h : Unaffected p) :
    Unaffected (withRelayLock p) := by
  refine Shielded.bracket (fun r t same => ?_) (fun r t same => ?_) (fun r t kept => ?_) h
  · dsimp only
    rw [same]
  · dsimp only
    rw [same]
  · simp only [Board.locks, Prod.mk.injEq] at kept ⊢
    omega

theorem relayBusy_unaffected : Unaffected relayBusy :=
  Shielded.read fun r t same => by rw [same]

theorem getApp_unaffected : Unaffected getApp :=
  Shielded.read fun r t same => by rw [same]

theorem modifyApp_unaffected (f : App → App) : Unaffected (modifyApp f) :=
  Shielded.modify (fun r t same => by dsimp only; rw [same]) fun _ => rfl

theorem press_unaffected : Unaffected press :=
  Shielded.modify (fun r t same => by dsimp only; rw [same]) fun _ => rfl

theorem sendPushAsync_unaffected (title body : String) : Unaffected (sendPushAsync title body) :=
  Shielded.modify (fun r t same => by dsimp only; rw [same]) fun _ => rfl

theorem account_unaffected (now : ℚ) (b : Bool) : Unaffected (account now b) := by
  refine Shielded.bind getApp_unaffected fun app => ?_
  refine Shielded.ite (modifyApp_unaffected _) (Shielded.ite ?_ (Shielded.pure _))
  refine Shielded.bind (modifyApp_unaffected _) fun _ => ?_
  exact Shielded.bind getApp_unaffected fun app => kvSet_unaffected _

theorem transition_unaffected (now : ℚ) (b : Bool) : Unaffected (transition now b) :=
  Shielded.bind (account_unaffected now b) fun _ => modifyApp_unaffected _

theorem stopGenerator_unaffected (now : ℚ) (actor : Option Text) :
    Unaffected (stopGenerator c now actor) := by
  refine Shielded.bind relayBusy_unaffected fun busy => ?_
  refine Shielded.ite (Shielded.pure _) (withRelayLock_unaffected ?_)
  refine Shielded.bind press_unaffected fun _ => ?_
  refine Shielded.bind (withStateLock_unaffected ?_) fun _ => ?_
  · refine Shielded.bind (modifyApp_unaffected _) fun _ => ?_
    exact Shielded.bind (transition_unaffected now false) fun _ => modifyApp_unaffected _
  · refine Shielded.bind (recordEvent_unaffected _ _ _ _) fun _ => ?_
    exact Shielded.bind (sendPushAsync_unaffected _ _) fun _ => Shielded.pure _

theorem startHead_unaffected (actor : Option Text) : Unaffected (startHead c actor) := by
  refine Shielded.bind getApp_unaffected fun app => ?_
  cases startCheck app with
  | none => exact Shielded.bind (recordEvent_unaffected _ _ _ _) fun _ => Shielded.pure _
  | some app => exact Shielded.bind (modifyApp_unaffected _) fun _ => Shielded.pure _

theorem attempt_unaffected (clock : ℕ → ℚ) (k : ℕ) : Unaffected (attempt c clock k) := by
  refine Shielded.bind (withStateLock_unaffected (modifyApp_unaffected _)) fun _ => ?_
  refine Shielded.bind press_unaffected fun _ => ?_
  refine Shielded.bind press_unaffected fun _ => ?_
  exact withStateLock_unaffected (modifyApp_unaffected _)

theorem startSequence_unaffected (clock : ℕ → ℚ) (actor : Option Text) :
    Unaffected (startSequence c clock actor) := by
  refine Shielded.bind (recordEvent_unaffected _ _ _ _) fun _ => ?_
  refine Shielded.bind (Shielded.forIn fun k _ => ?_) fun _ => ?_
  · exact Shielded.bind (attempt_unaffected clock k) fun _ => Shielded.pure _
  refine Shielded.bind (withStateLock_unaffected ?_) fun _ => ?_
  · exact Shielded.bind (transition_unaffected _ true) fun _ => modifyApp_unaffected _
  refine Shielded.bind (recordEvent_unaffected _ _ _ _) fun _ => ?_
  exact Shielded.bind (sendPushAsync_unaffected _ _) fun _ => Shielded.pure _

theorem startGenerator_unaffected (clock : ℕ → ℚ) (actor : Option Text) :
    Unaffected (startGenerator c clock actor) := by
  refine Shielded.bind relayBusy_unaffected fun busy => ?_
  refine Shielded.ite ?_ (withRelayLock_unaffected ?_)
  · exact Shielded.bind (recordEvent_unaffected _ _ _ _) fun _ => Shielded.pure _
  refine Shielded.bind (withStateLock_unaffected (startHead_unaffected actor)) fun accepted => ?_
  exact Shielded.ite (startSequence_unaffected clock actor) (Shielded.pure _)

theorem setRunning_unaffected (now : ℚ) (running : Bool) (actor : Option Text) :
    Unaffected (setRunning c now running actor) := by
  refine Shielded.bind (withStateLock_unaffected ?_) fun _ => ?_
  · exact Shielded.bind (transition_unaffected now running) fun _ => modifyApp_unaffected _
  refine Shielded.bind (recordEvent_unaffected _ _ _ _) fun _ => ?_
  exact Shielded.bind (sendPushAsync_unaffected _ _) fun _ => Shielded.pure _

theorem mutate_unaffected (m : Mutator) : Unaffected (mutate m) := by
  refine withStateLock_unaffected (Shielded.bind getApp_unaffected fun app => ?_)
  refine Shielded.bind (modifyApp_unaffected _) fun _ => ?_
  refine Shielded.bind (Shielded.forIn fun row _ => ?_) fun _ => Shielded.pure _
  exact Shielded.bind (kvSet_unaffected row) fun _ => Shielded.pure _

theorem evaluateLowFuel_unaffected (now : ℚ) : Unaffected (evaluateLowFuel c now) := by
  refine Shielded.bind (withStateLock_unaffected ?_) fun found => ?_
  · refine Shielded.bind getApp_unaffected fun app => ?_
    exact Shielded.bind (modifyApp_unaffected _) fun _ => Shielded.pure _
  obtain ⟨action, level⟩ := found
  refine Shielded.ite ?_ (Shielded.pure _)
  refine Shielded.bind (recordEvent_unaffected _ _ _ _) fun _ => ?_
  exact Shielded.bind (sendPushAsync_unaffected _ _) fun _ => Shielded.pure _

end Proc

/-- What a call does to the relay, the locks and the memory, and what it returns, does not depend on
the store. -/
theorem ControlCall.program_unaffected (c : ControlConfig) (call : ControlCall) :
    Proc.Unaffected (call.program c) := by
  cases call with
  | start clock actor => exact Proc.startGenerator_unaffected clock actor
  | stop now actor => exact Proc.stopGenerator_unaffected now actor
  | setRunning now running actor => exact Proc.setRunning_unaffected now running actor
  | mutate m => exact Proc.mutate_unaffected m
  | audited m type message actor =>
      refine Shielded.bind (Proc.mutate_unaffected m) fun value => ?_
      exact Shielded.bind (Proc.recordEvent_unaffected _ _ _ _) fun _ => Shielded.pure _
  | evaluateLowFuel now => exact Proc.evaluateLowFuel_unaffected now

/-- Every call of a run returns the same and leaves the same relay levels, notifications, locks and
memory as over the same tables with no database call failing. -/
theorem reports_eq_healthy (c : ControlConfig) (calls : List ControlCall) (b : Board) :
    observe Board.control (calls.map (·.program c)) b =
      observe Board.control (calls.map (·.program c)) { b with store := b.store.healthy } := by
  refine observe_congr (fun p hp => ?_) rfl
  obtain ⟨call, -, rfl⟩ := List.mem_map.mp hp
  exact (call.program_unaffected c).insensitive

/-- Whatever the database does, a call returns and holds no lock afterwards that it did not find
held. -/
theorem program_returns (c : ControlConfig) (call : ControlCall) (b : Board) :
    ∃ value b', call.program c b = .ok value b' ∧ b'.locks = b.locks :=
  (call.program_unaffected c).returns b

/-! ## The sections over any store

What a section leaves in memory is what the functions of `GeneratorPi.Control` and
`GeneratorPi.Fuel` compute; the store only keeps its own record of it. -/

/-- The board with other globals and another store. -/
def Board.remember (b : Board) (app : App) (store : Store) : Board :=
  { control := { b.control with app := { app with kv := b.control.app.kv } }, store := store }

namespace Proc

variable {b : Board}

theorem kvSet_run (row : KvRow) (b : Board) :
    ∃ store, kvSet row b = .ok () { b with store := store } ∧
      (store.rows = b.store.rows ∨ store.rows = GeneratorPi.kvSet b.store.rows row) := by
  have kept := upsertRow_storeOnly row b
  refine ⟨(stateAfter (upsertRow row b)).store, ?_, ?_⟩
  · rw [← kept]
    rfl
  · -- No connection; the write raises; or it is made, and the commit raises or not.
    have written : upsertRow row b = withEventLock (if b.store.opened then do
        execute fun s => { s with rows := GeneratorPi.kvSet s.rows row }
        commit
      else pure ()) b := rfl
    rw [written]
    cases b.store.opened with
    | false => exact Or.inl rfl
    | true =>
        unfold withEventLock bracket
        simp only [if_true, Bind.bind, EStateM.bind, execute, commit]
        cases b.store.fails b.store.calls with
        | true => exact Or.inl rfl
        | false =>
            cases again : b.store.fails (b.store.calls + 1) <;> exact Or.inr
              (by simp [again, stateAfter])

/-- The rows keep what every write of the loop keeps. -/
theorem kvSets_run {P : Kv → Prop} (rows : List KvRow) (b : Board) (start : P b.store.rows)
    (kept : ∀ row ∈ rows, ∀ kv, P kv → P (GeneratorPi.kvSet kv row)) :
    ∃ store, (forIn rows PUnit.unit fun row _ => do
      kvSet row
      pure (ForInStep.yield PUnit.unit) : Proc PUnit) b = .ok ⟨⟩ { b with store := store } ∧
        P store.rows := by
  induction rows generalizing b with
  | nil => exact ⟨b.store, rfl, start⟩
  | cons row rows ih =>
      obtain ⟨written, eq, saved⟩ := kvSet_run row b
      have here : P written.rows := by
        rcases saved with same | new
        · rw [same]
          exact start
        · rw [new]
          exact kept row List.mem_cons_self _ start
      obtain ⟨store, rest, after⟩ := ih { b with store := written } here
        fun row mem => kept row (List.mem_cons_of_mem _ mem)
      have first : (do kvSet row; pure (ForInStep.yield PUnit.unit) : Proc (ForInStep PUnit)) b =
          .ok (.yield ⟨⟩) { b with store := written } := bind_run eq
      rw [List.forIn_cons]
      exact ⟨store, (bind_run first).trans rest, after⟩

/-- A transition leaves what `applyRunningTransition` computes. -/
theorem transition_run (now : ℚ) (newRunning : Bool) (b : Board) :
    ∃ store, transition now newRunning b =
      .ok () (b.remember (applyRunningTransition now newRunning b.control.app) store) := by
  rcases applyRunningTransition_cases now newRunning b.control.app with
    ⟨same, eq⟩ | ⟨rfl, stopped, eq⟩ | ⟨rfl, running, eq⟩
  · have idle : account now newRunning b = .ok () b := by
      refine (bind_run rfl).trans ?_
      refine (congrFun ((if_neg ?_).trans (if_neg ?_)) b).trans rfl <;>
        cases newRunning <;> simp [same]
    refine ⟨b.store, (bind_run idle).trans ?_⟩
    rw [eq]
    subst same
    rfl
  · have opened : account now true b = .ok () (b.remember { b.control.app with
        gen := { b.control.app.gen with currentRunStartedAt := some now } } b.store) := by
      refine (bind_run rfl).trans ?_
      exact (congrFun (if_pos (by simp [stopped])) b).trans rfl
    refine ⟨b.store, (bind_run opened).trans ?_⟩
    rw [eq]
    rfl
  · obtain ⟨store, written, -⟩ := kvSet_run (.totalRunHours (liveTotalRunHours now b.control.app))
      (b.remember { b.control.app with gen := { b.control.app.gen with
        totalRunHours := liveTotalRunHours now b.control.app
        currentRunStartedAt := none } } b.store)
    have banked : account now false b = .ok () (b.remember { b.control.app with
        gen := { b.control.app.gen with
          totalRunHours := liveTotalRunHours now b.control.app
          currentRunStartedAt := none } } store) := by
      refine (bind_run rfl).trans ?_
      refine (congrFun ((if_neg (by simp)).trans (if_pos (by simp [running]))) b).trans ?_
      exact (bind_run rfl).trans written
    refine ⟨store, (bind_run banked).trans ?_⟩
    rw [eq]
    rfl

theorem modifyApp_run (f : App → App) (b : Board) :
    modifyApp f b = .ok () (b.remember (f b.control.app) b.store) := rfl

theorem stopSection_run (now : ℚ) (b : Board) :
    ∃ store, stopSection now b = .ok () (b.remember (stopBank now b.control.app) store) := by
  obtain ⟨store, moved⟩ := transition_run now false (b.remember { b.control.app with
    gen := { b.control.app.gen with lastCommand := some "stop" } } b.store)
  exact ⟨store, (bind_run (modifyApp_run _ b)).trans ((bind_run moved).trans rfl)⟩

theorem overrideSection_run (now : ℚ) (running : Bool) (b : Board) :
    ∃ store, overrideSection now running b =
      .ok () (b.remember (GeneratorPi.setRunning now running b.control.app) store) := by
  obtain ⟨store, moved⟩ := transition_run now running b
  exact ⟨store, (bind_run moved).trans rfl⟩

theorem startEnd_run (c : ControlConfig) (now : ℚ) (b : Board) :
    ∃ store, startEnd c now b =
      .ok () (b.remember (startFinish now c.maxRetries b.control.app) store) := by
  obtain ⟨store, moved⟩ := transition_run now true b
  exact ⟨store, (bind_run moved).trans rfl⟩

/-- A mutator leaves what it computes, and the rows keep what each of its writes keeps. -/
theorem mutate_run {P : Kv → Prop} (m : Mutator) (b : Board) (start : P b.store.rows)
    (kept : ∀ row ∈ m.kvSets b.control.app, ∀ kv, P kv → P (GeneratorPi.kvSet kv row)) :
    ∃ store, mutate m b =
      .ok (mutatorValue b.control.app m) (b.remember (m.apply b.control.app) store) ∧
        P store.rows := by
  set held : Board := { b with control.stateLock := b.control.stateLock + 1 }
  obtain ⟨store, written, after⟩ := kvSets_run (m.kvSets b.control.app)
    (held.remember (m.apply b.control.app) b.store) start kept
  have body : (do
      let app ← getApp
      modifyApp m.apply
      for row in m.kvSets app do
        kvSet row
      pure (mutatorValue app m) : Proc Value) held =
      .ok (mutatorValue b.control.app m) (held.remember (m.apply b.control.app) store) :=
    (bind_run rfl).trans ((bind_run rfl).trans ((bind_run written).trans rfl))
  refine ⟨store, ?_, after⟩
  unfold mutate withStateLock
  exact (bracket_run body).trans rfl

/-- Nothing but the store is touched, and its kv rows are not. -/
abbrev RowsKept (p : Proc α) : Prop := Confined (fun b : Board => (b.control, b.store.rows)) p

theorem execute_rowsKept {effect : Store → Store} (h : ∀ s, (effect s).rows = s.rows) :
    RowsKept (execute effect) := by
  intro r
  unfold execute
  dsimp only
  split
  · rfl
  · exact Prod.ext rfl (h _)

theorem insertEvent_rowsKept (maxRows : ℕ) (type : String) (message : Text)
    (actor : Option Text) : RowsKept (insertEvent maxRows type message actor) := by
  refine Confined.bracket (fun r t kept => ?_) ?_
  · have control := congrArg Prod.fst kept
    have rows := congrArg Prod.snd kept
    dsimp only at control rows ⊢
    rw [control, rows]
    rfl
  · refine Confined.bind (fun _ => rfl) fun opened => ?_
    refine Confined.ite (Confined.bind (execute_rowsKept fun _ => rfl) fun _ => ?_)
      (Confined.pure _)
    exact Confined.bind (execute_rowsKept fun _ => rfl) fun _ => execute_rowsKept fun _ => rfl

/-- An event is recorded, or not, and the rows stay. -/
theorem recordEvent_run (maxRows : ℕ) (type : String) (message : Text) (actor : Option Text)
    (b : Board) : ∃ store, recordEvent maxRows type message actor b =
      .ok () { b with store := store } ∧
      store.rows = b.store.rows := by
  have kept := insertEvent_rowsKept maxRows type message actor b
  refine ⟨(stateAfter (insertEvent maxRows type message actor b)).store, ?_, congrArg Prod.snd kept⟩
  have control := congrArg Prod.fst kept
  dsimp only at control
  rw [← control]
  rfl

/-- A setter called by a request leaves what it computes, and the rows keep what each of its writes
keeps. -/
theorem audited_run {P : Kv → Prop} (c : ControlConfig) (m : Mutator) (type : String)
    (message : Value → Text) (actor : Option Text) (b : Board) (start : P b.store.rows)
    (kept : ∀ row ∈ m.kvSets b.control.app, ∀ kv, P kv → P (GeneratorPi.kvSet kv row)) :
    ∃ store, audited c m type message actor b =
      .ok (mutatorValue b.control.app m) (b.remember (m.apply b.control.app) store) ∧
        P store.rows := by
  obtain ⟨written, moved, saved⟩ := mutate_run m b start kept
  obtain ⟨store, recorded, rows⟩ := recordEvent_run c.eventLogMax type
    (message (mutatorValue b.control.app m)) actor (b.remember (m.apply b.control.app) written)
  exact ⟨store, (bind_run moved).trans (bind_run recorded), rows ▸ saved⟩

end Proc

end GeneratorPi
