import GeneratorPi.Sequences

/-!
# Restarting the process

`_schedule_process_restart`, `_serve` and `_do_execv` (`genpi/lifecycle.py`) next to the start and
stop sequences.  `/api/restart` and the updater each spawn a restart thread; when its delay is over
it stops the cheroot server, whose main thread then re-execs, or re-execs itself under the fallback
server.  Neither looks at `relay_lock`.

In every run in which no restart wakes while the lock is held, and no sequence takes the lock once
a restart has woken (`Quiet`), the process is replaced or exits only with the lock free and the
relay off.
-/

namespace GeneratorPi

open Trace

inductive Server where
  | cheroot
  | werkzeug
  deriving DecidableEq, Repr

/-- Where a restart thread stands. -/
inductive RestartPoint where
  | unscheduled
  /-- In `time.sleep(delay)`. -/
  | waiting
  /-- Before `srv.stop()`. -/
  | stopping
  /-- Before its own `_do_execv()`. -/
  | execing
  | ended
  deriving DecidableEq, Repr

/-- Where the main thread stands. -/
inductive MainPoint where
  | serving
  /-- The server was stopped, `serve()` has not returned. -/
  | draining
  /-- Before its `_do_execv()`. -/
  | execing
  deriving DecidableEq, Repr

inductive Status where
  | running
  /-- `os.execv` replaced the image. -/
  | replaced
  /-- `os._exit(1)`. -/
  | exited
  deriving DecidableEq, Repr

structure Process where
  relay : Relay
  /-- `_WSGI_SERVER`. -/
  server : Option Server
  /-- `_RESTART_REQUESTED`. -/
  restartRequested : Bool := false
  restarts : ℕ → RestartPoint := fun _ => .unscheduled
  main : MainPoint := .serving
  status : Status := .running

inductive ProcessOp where
  | relay (op : RelayOp)
  /-- `_schedule_process_restart`. -/
  | schedule (j : ℕ)
  /-- The delay is over. -/
  | wake (j : ℕ)
  | stopServer (j : ℕ) (fails : Bool)
  | serveReturns
  /-- `_do_execv` in the main thread or in a restart thread. -/
  | execv (thread : Option ℕ) (fails : Bool)
  deriving DecidableEq

def Process.moveRestart (p : Process) (j : ℕ) (q : RestartPoint) : Process :=
  { p with restarts := Function.update p.restarts j q }

/-- The woken restart thread: a server with a `stop` is stopped, any other leads to the exec. -/
def Process.wake (p : Process) (j : ℕ) : Process :=
  match p.server with
  | some .cheroot => { p with restartRequested := true }.moveRestart j .stopping
  | _ => { p with restartRequested := true }.moveRestart j .execing

/-- `srv.stop()` makes a serving main thread return from `serve()`. -/
def Process.stopServing (p : Process) : Process :=
  if p.main = .serving then { p with main := .draining } else p

/-- A thread is about to call `_do_execv`. -/
def Process.execReady (p : Process) : Option ℕ → Bool
  | none => p.main = .execing
  | some j => p.restarts j = .execing

def Process.act (maxRetries : ℤ) (p : Process) : ProcessOp → Option Process
  | .relay op => (p.relay.step maxRetries op).map fun relay => { p with relay }
  | .schedule j =>
      if p.restarts j = .unscheduled then some (p.moveRestart j .waiting) else none
  | .wake j => if p.restarts j = .waiting then some (p.wake j) else none
  | .stopServer j fails =>
      if p.restarts j = .stopping then
        some (if fails then p.moveRestart j .ended else p.stopServing.moveRestart j .ended)
      else none
  | .serveReturns =>
      if p.main = .draining ∧ p.restartRequested then
        some { p with server := none, main := .execing }
      else none
  | .execv thread fails =>
      if p.execReady thread then some { p with status := if fails then .exited else .replaced }
      else none

/-- Nothing runs in a process that is replaced or gone. -/
def Process.step (maxRetries : ℤ) (p : Process) (op : ProcessOp) : Option Process :=
  if p.status = .running then p.act maxRetries op else none

/-! ## Restarts and the relay -/

/-- Whenever the process is replaced or gone, no sequence held the lock and the relay was off. -/
def NoRestartUnderRelay (p : Process) : Prop :=
  p.status ≠ .running → p.relay.lock = none ∧ p.relay.on = false

/-- A restart wakes only while the lock is free, and no sequence takes the lock afterwards. -/
def Quiet (p : Process) : ProcessOp → Prop
  | .wake _ => p.relay.lock = none
  | .relay (.advance i) => (p.relay.threads i).acquiring → p.restartRequested = false
  | _ => True

instance (p : Process) (op : ProcessOp) : Decidable (Quiet p op) := by
  unfold Quiet
  split <;> infer_instance

structure RestartClear (p : Process) : Prop where
  safe : RelaySafe p.relay
  free : p.restartRequested → p.relay.lock = none
  woken : ∀ j, p.restarts j = .stopping ∨ p.restarts j = .execing → p.restartRequested
  main : p.main ≠ .serving → p.restartRequested
  gone : p.status ≠ .running → p.restartRequested

theorem RestartClear.noRestartUnderRelay {p : Process} (clear : RestartClear p) :
    NoRestartUnderRelay p :=
  fun gone => ⟨clear.free (clear.gone gone), clear.safe.off_of_free (clear.free (clear.gone gone))⟩

variable {maxRetries : ℤ} {p q : Process}

/-- A restart thread that moves on. -/
theorem RestartClear.moveRestart (clear : RestartClear p) {j : ℕ} {point : RestartPoint}
    (woken : point = .stopping ∨ point = .execing → p.restartRequested) :
    RestartClear (p.moveRestart j point) where
  safe := clear.safe
  free := clear.free
  woken k h := by
    by_cases same : k = j
    · have here : (p.moveRestart j point).restarts k = point := by
        rw [same]
        exact Function.update_self ..
      rw [here] at h
      exact woken h
    · have there : (p.moveRestart j point).restarts k = p.restarts k :=
        Function.update_of_ne same ..
      rw [there] at h
      exact clear.woken k h
  main := clear.main
  gone := clear.gone

/-- The request of a restart that finds the lock free. -/
theorem RestartClear.request (clear : RestartClear p) (free : p.relay.lock = none) :
    RestartClear { p with restartRequested := true } where
  safe := clear.safe
  free _ := free
  woken _ _ := rfl
  main _ := rfl
  gone _ := rfl

theorem RestartClear.wake (clear : RestartClear p) (free : p.relay.lock = none) (j : ℕ) :
    RestartClear (p.wake j) := by
  rw [Process.wake]
  split
  · exact (clear.request free).moveRestart fun _ => rfl
  · exact (clear.request free).moveRestart fun _ => rfl

theorem RestartClear.stopServing (clear : RestartClear p) (requested : p.restartRequested) :
    RestartClear p.stopServing := by
  rw [Process.stopServing]
  split
  · exact { clear with main := fun _ => requested }
  · exact clear

theorem RestartClear.relay (clear : RestartClear p) {op : RelayOp} {relay : Relay}
    (quiet : Quiet p (.relay op)) (h : p.relay.step maxRetries op = some relay) :
    RestartClear { p with relay } where
  safe := clear.safe.step h
  free requested := by
    rcases Relay.step_lock h with same | free | ⟨i, rfl, acquiring, -, -⟩
    · exact same.trans (clear.free requested)
    · exact free
    · have unrequested : p.restartRequested = false := quiet acquiring
      exact absurd (unrequested.symm.trans requested) (by decide)
  woken := clear.woken
  main := clear.main
  gone := clear.gone

theorem RestartClear.execReady (clear : RestartClear p) {thread : Option ℕ}
    (ready : p.execReady thread) : p.restartRequested := by
  cases thread with
  | none =>
      have execing : p.main = .execing := by simpa [Process.execReady] using ready
      exact clear.main (by rw [execing]; decide)
  | some j => exact clear.woken j (Or.inr (by simpa [Process.execReady] using ready))

theorem RestartClear.step (clear : RestartClear p) {op : ProcessOp} (quiet : Quiet p op)
    (h : p.step maxRetries op = some q) : RestartClear q := by
  obtain ⟨-, h⟩ := Option.ite_none_right_eq_some.mp h
  cases op with
  | relay op =>
      obtain ⟨relay, stepped, rfl⟩ := Option.map_eq_some_iff.mp h
      exact clear.relay quiet stepped
  | schedule j =>
      obtain ⟨-, rfl⟩ := enabled_eq_some.mp h
      exact clear.moveRestart (by simp)
  | wake j =>
      obtain ⟨-, rfl⟩ := enabled_eq_some.mp h
      exact clear.wake quiet j
  | stopServer j fails =>
      obtain ⟨stopping, rfl⟩ := enabled_eq_some.mp h
      have requested := clear.woken j (Or.inl stopping)
      split
      · exact clear.moveRestart (by simp)
      · exact (clear.stopServing requested).moveRestart (by simp)
  | serveReturns =>
      obtain ⟨⟨-, requested⟩, rfl⟩ := enabled_eq_some.mp h
      exact { clear with main := fun _ => requested }
  | execv thread fails =>
      obtain ⟨ready, rfl⟩ := enabled_eq_some.mp h
      exact { clear with gone := fun _ => clear.execReady ready }

/-- The process as it starts to serve. -/
def Process.serve (server : Option Server) (app : App) (now : ℚ) : Process :=
  { relay := { app, now }, server }

theorem RestartClear.initial (server : Option Server) (app : App) (now : ℚ) :
    RestartClear (Process.serve server app now) where
  safe := RelaySafe.initial app now
  free h := by cases h
  woken _ h := by rcases h with h | h <;> cases h
  main h := absurd rfl h
  gone h := absurd rfl h

/-- In every quiet run the process is replaced or exits only with the relay off and its lock
free. -/
theorem noRestartUnderRelay_of_run {server : Option Server} {app : App} {now : ℚ}
    {ops : List ProcessOp}
    (quiet : Meets (Process.step maxRetries) Quiet (Process.serve server app now) ops)
    (h : run (Process.step maxRetries) (Process.serve server app now) ops = some p) :
    NoRestartUnderRelay p :=
  (run_invariant_of_meets (fun _ _ _ clear quiet h => RestartClear.step clear quiet h)
    (RestartClear.initial server app now) quiet h).noRestartUnderRelay

/-- A whole stop sequence. -/
def stopSequence (i : ℕ) : List ProcessOp :=
  .relay (.spawn i true) :: List.replicate 7 (.relay (.advance i))

/-- A stop sequence, then a restart under the cheroot server. -/
def stopThenRestart : List ProcessOp :=
  .schedule 0 :: stopSequence 0 ++
    [.wake 0, .stopServer 0 false, .serveReturns, .execv none false]

theorem noRestartUnderRelay_stopThenRestart :
    ∃ p, run (Process.step 1) (Process.serve (some .cheroot) {} 0) stopThenRestart = some p ∧
      p.status = .replaced ∧ NoRestartUnderRelay p := by
  have quiet : Meets (Process.step 1) Quiet (Process.serve (some .cheroot) {} 0)
      stopThenRestart := by decide
  have seen : (run (Process.step 1) (Process.serve (some .cheroot) {} 0) stopThenRestart).any
      fun p => p.status = .replaced := by decide
  obtain ⟨p, ran, replaced⟩ := (Option.any_eq_true _ _).mp seen
  exact ⟨p, ran, by simpa using replaced, noRestartUnderRelay_of_run quiet ran⟩

/-- The process is replaced while a start sequence holds the prime button down. -/
theorem replaced_under_press :
    ∃ p, run (Process.step 1) (Process.serve (some .cheroot) {} 0)
        [.schedule 0, .relay (.spawn 0 false), .relay (.advance 0), .relay (.advance 0),
          .relay (.advance 0), .relay (.advance 0), .wake 0, .stopServer 0 false, .serveReturns,
          .execv none false] = some p ∧
      p.status = .replaced ∧ p.relay.on ∧ ¬ NoRestartUnderRelay p := by
  have seen : (run (Process.step 1) (Process.serve (some .cheroot) {} 0)
      [.schedule 0, .relay (.spawn 0 false), .relay (.advance 0), .relay (.advance 0),
        .relay (.advance 0), .relay (.advance 0), .wake 0, .stopServer 0 false, .serveReturns,
        .execv none false]).any fun p => p.status = .replaced && p.relay.on := by decide
  obtain ⟨p, ran, both⟩ := (Option.any_eq_true _ _).mp seen
  obtain ⟨replaced, on⟩ : p.status = .replaced ∧ p.relay.on = true := by simpa using both
  refine ⟨p, ran, replaced, on, fun none_ => ?_⟩
  have off := (none_ (by rw [replaced]; decide)).2
  rw [on] at off
  cases off

/-- A restart that wakes goes through whatever the relay does: it can replace the process with the
relay as it is. -/
theorem wake_reaches_exec {j : ℕ} (running : p.status = .running) (serving : p.main = .serving)
    (waiting : p.restarts j = .waiting) :
    ∃ ops q, run (Process.step maxRetries) p (.wake j :: ops) = some q ∧ q.status = .replaced ∧
      q.relay = p.relay := by
  by_cases cheroot : p.server = some .cheroot
  · refine ⟨[.stopServer j false, .serveReturns, .execv none false], ?_⟩
    simp [run_cons, Process.step, Process.act, Process.wake, Process.moveRestart,
      Process.stopServing, Process.execReady, running, serving, waiting, cheroot]
  · refine ⟨[.execv (some j) false], ?_⟩
    have woken : p.wake j = { p with restartRequested := true }.moveRestart j .execing := by
      rw [Process.wake]
      split
      · contradiction
      · rfl
    simp [run_cons, Process.step, Process.act, woken, Process.moveRestart, Process.execReady,
      running, waiting]

end GeneratorPi
