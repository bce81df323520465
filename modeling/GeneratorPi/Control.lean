import GeneratorPi.State

/-!
# Start and stop sequences: what they do to the tracked state

`genpi/control.py` and the manual override of `genpi/routes/core.py`, cut into the sections each
runs under one hold of `state_lock`.  `start_generator` passes `startCheck`, then for every attempt
`startAttempt` and `startStamp` around its two presses, then `startFinish`; between two sections
other threads may run.  Every section that moves the run-state goes through
`applyRunningTransition`; the rest only touch display registers (`SameAccounts`).
-/

namespace GeneratorPi

/-- The first section of `start_generator`; `none` is the refusal of a start that is already
marked as running. -/
def startCheck (s : App) : Option App :=
  if s.gen.running then none
  else some { s with gen := { s.gen with lastCommand := some "start", startAttempts := 0 } }

/-- The section at the head of an attempt. -/
def startAttempt (maxRetries : ℤ) (attempt : ℕ) (s : App) : App :=
  { s with gen := { s.gen with
      startAttempts := attempt
      message := s!"Start attempt {attempt}/{maxRetries}" } }

/-- The section after the start press of an attempt. -/
def startStamp (now : ℚ) (s : App) : App :=
  { s with gen := { s.gen with lastStartTime := some now } }

/-- The last section of `start_generator`: mark the generator as running. -/
def startFinish (now : ℚ) (maxRetries : ℤ) (s : App) : App :=
  let s := applyRunningTransition now true s
  { s with gen := { s.gen with
      message := s!"Start sequence completed ({maxRetries} attempt(s)). " ++
        "Verify generator manually." } }

/-- The section of `stop_generator`, taken after its press. -/
def stopBank (now : ℚ) (s : App) : App :=
  let s := { s with gen := { s.gen with lastCommand := some "stop" } }
  let s := applyRunningTransition now false s
  { s with gen := { s.gen with lastStopTime := some now, message := "Stop command sent" } }

/-- The section of `api_set_running`. -/
def setRunning (now : ℚ) (running : Bool) (s : App) : App :=
  let s := applyRunningTransition now running s
  { s with gen := { s.gen with
      lastCommand := some (if running then "mark_run" else "mark_stop")
      lastStartTime := if running then some now else s.gen.lastStartTime
      lastStopTime := if running then s.gen.lastStopTime else some now
      message := if running then "Manually set to RUNNING" else "Manually set to STOPPED" } }

/-- Two states agree on the run-state, the odometer, the fuel model and the kv rows. -/
structure SameAccounts (s t : App) : Prop where
  running : t.gen.running = s.gen.running
  started : t.gen.currentRunStartedAt = s.gen.currentRunStartedAt
  total : t.gen.totalRunHours = s.gen.totalRunHours
  fuel : t.fuel = s.fuel
  kv : t.kv = s.kv

theorem SameAccounts.refl (s : App) : SameAccounts s s := ⟨rfl, rfl, rfl, rfl, rfl⟩

theorem SameAccounts.live {s t : App} (same : SameAccounts s t) (now : ℚ) :
    liveTotalRunHours now t = liveTotalRunHours now s := by
  simp only [liveTotalRunHours, same.running, same.started, same.total]

theorem startCheck_sameAccounts {s t : App} (h : startCheck s = some t) : SameAccounts s t := by
  unfold startCheck at h
  split at h
  · cases h
  · cases h
    exact ⟨rfl, rfl, rfl, rfl, rfl⟩

theorem startAttempt_sameAccounts (maxRetries : ℤ) (attempt : ℕ) (s : App) :
    SameAccounts s (startAttempt maxRetries attempt s) := ⟨rfl, rfl, rfl, rfl, rfl⟩

theorem startStamp_sameAccounts (now : ℚ) (s : App) : SameAccounts s (startStamp now s) :=
  ⟨rfl, rfl, rfl, rfl, rfl⟩

theorem startFinish_sameAccounts (now : ℚ) (maxRetries : ℤ) (s : App) :
    SameAccounts (applyRunningTransition now true s) (startFinish now maxRetries s) :=
    ⟨rfl, rfl, rfl, rfl, rfl⟩

theorem setRunning_sameAccounts (now : ℚ) (running : Bool) (s : App) :
    SameAccounts (applyRunningTransition now running s) (setRunning now running s) :=
    ⟨rfl, rfl, rfl, rfl, rfl⟩

theorem stopBank_sameAccounts (now : ℚ) (s : App) :
    SameAccounts (applyRunningTransition now false s) (stopBank now s) := by
  rcases applyRunningTransition_cases now false s with ⟨stopped, eq⟩ | ⟨h, -, -⟩ | ⟨-, running, eq⟩
  · rw [eq, stopBank, applyRunningTransition_same (by exact stopped)]
    exact ⟨rfl, rfl, rfl, rfl, rfl⟩
  · cases h
  · rw [eq, stopBank, applyRunningTransition_stop (by exact running)]
    exact ⟨rfl, rfl, rfl, rfl, rfl⟩

end GeneratorPi
