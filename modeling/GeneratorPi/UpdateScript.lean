import Mathlib.Data.List.Basic

/-!
# The update from the command line

`update.sh` stops the service, resets the checkout to the release, runs the setup and waits for the
app to answer. If a command fails, `fail` runs `do_rollback` and exits, and the trap on the exit
starts the service if it is still marked as stopped.

What the commands do is a parameter: each may fail, and a `git reset --hard` that fails leaves any
checkout.
-/

namespace GeneratorPi.UpdateScript

/-- A checkout: the revision of `HEAD` and the tracked files. -/
structure Checkout (ρ τ : Type*) where
  head : ρ
  tree : τ

/-- How `setup.sh` ends. Of the tracked files it changes none. -/
structure SetupRun where
  ok : Bool
  /-- It has come to its `systemctl restart`. -/
  restarts : Bool

/-- What the commands of the update do. -/
structure ApplyRun (ρ τ : Type*) where
  /-- `systemctl stop` succeeds. -/
  stop : Bool
  /-- What `git reset --hard origin/main` leaves if it fails. -/
  reset : Option (Checkout ρ τ)
  /-- `git status --porcelain` prints nothing; how it exits is not looked at. -/
  clean : Bool
  setup : SetupRun
  /-- `wait_healthy` succeeds. -/
  healthy : Bool

/-- What the commands of the rollback do. -/
structure RollbackRun (ρ τ : Type*) where
  /-- `git rev-parse --verify` finds the commit. -/
  verify : Bool
  /-- What `git reset --hard` leaves if it fails. -/
  reset : Option (Checkout ρ τ)
  setup : SetupRun
  healthy : Bool

/-- The variables of the script and what it has done to the machine. -/
structure ScriptState (ρ τ : Type*) where
  /-- `none` if it is empty. -/
  prevSha : Option ρ
  stopped : Bool := false
  mutated : Bool := false
  checkout : Checkout ρ τ
  /-- The checkouts the service was to be started from, the last first. -/
  starts : List (Checkout ρ τ) := []

variable {ρ τ : Type*}

/-- `systemctl start`, or the restart in `setup.sh`; it may fail. -/
def ScriptState.start (s : ScriptState ρ τ) : ScriptState ρ τ :=
  { s with starts := s.checkout :: s.starts }

/-- `git reset --hard` to a revision with the given files. -/
def ScriptState.reset (s : ScriptState ρ τ) (files : ρ → τ) (rev : ρ)
    (left : Option (Checkout ρ τ)) :
    ScriptState ρ τ :=
  { s with checkout := left.getD ⟨rev, files rev⟩ }

def ScriptState.runSetup (s : ScriptState ρ τ) (run : SetupRun) : ScriptState ρ τ :=
  if run.restarts then s.start else s

/-- The steps from the stop of the service on; an error is a call of `fail`. -/
def applySteps (files : ρ → τ) (target : ρ) (c : ApplyRun ρ τ) (s : ScriptState ρ τ) :
    Except (ScriptState ρ τ) (ScriptState ρ τ) :=
  if !c.stop then .error s
  else
    let s := { s with stopped := true }
    let s := s.reset files target c.reset
    if c.reset.isSome then .error s
    else
      let s := { s with mutated := true }
      if !c.clean then .error s
      else
        let s := s.runSetup c.setup
        if !c.setup.ok then .error s
        else if c.healthy then .ok { s with stopped := false }
        else .error s

/-- How `do_rollback` restores the checkout, if the update has changed it. -/
def restore (files : ρ → τ) (c : RollbackRun ρ τ) (s : ScriptState ρ τ) : ScriptState ρ τ :=
  match s.prevSha with
  | some prev =>
      if s.mutated && c.verify then (s.reset files prev c.reset).runSetup c.setup else s.start
  | none => s.start

/-- How it ends, given whether the app answers. -/
def ScriptState.settle (s : ScriptState ρ τ) (healthy : Bool) : ScriptState ρ τ :=
  if healthy then { s with stopped := false } else s.start

def doRollback (files : ρ → τ) (c : RollbackRun ρ τ) (s : ScriptState ρ τ) : ScriptState ρ τ :=
  (restore files c s).settle c.healthy

/-- `_on_exit`. -/
def onExit (rc : ℕ) (s : ScriptState ρ τ) : ScriptState ρ τ :=
  if rc ≠ 0 ∧ s.stopped then s.start else s

/-- `fail`: the rollback, then the exit. -/
def fail (files : ρ → τ) (c : RollbackRun ρ τ) (s : ScriptState ρ τ) : ScriptState ρ τ :=
  onExit 1 (doRollback files c s)

/-! ## The failure path -/

/-- A checkout at the recorded revision, or as it was before the update. -/
def Checkout.At (files : ρ → τ) (c start : Checkout ρ τ) : Prop :=
  c.head = start.head ∧ (c.tree = files start.head ∨ c.tree = start.tree)

/-- From `s`, where `fail` is called, the script comes back to the recorded revision and has the
service started from it. -/
structure RolledBack (files : ρ → τ) (start : Checkout ρ τ) (s s' : ScriptState ρ τ) : Prop where
  checkout : s'.checkout.At files start
  started : ∃ later, s'.starts = later ++ s.starts ∧ ∃ c ∈ later, c.At files start

/-- The variables before the service is stopped. -/
def recorded (start : Checkout ρ τ) : ScriptState ρ τ :=
  { prevSha := some start.head, checkout := start }

variable {files : ρ → τ} {start : Checkout ρ τ} {s m s' : ScriptState ρ τ}

/-- From `s` to `s'` the service was to be started `n` times, and the checkout has stayed. -/
structure Started (n : ℕ) (s s' : ScriptState ρ τ) : Prop where
  checkout : s'.checkout = s.checkout
  starts : s'.starts = List.replicate n s.checkout ++ s.starts

theorem started_start (s : ScriptState ρ τ) : Started 1 s s.start := ⟨rfl, rfl⟩

theorem Started.trans {n k : ℕ} (first : Started n s m) (second : Started k m s') :
    Started (k + n) s s' where
  checkout := second.checkout.trans first.checkout
  starts := by
    rw [second.starts, first.starts, first.checkout, List.replicate_add, List.append_assoc]

theorem started_runSetup (s : ScriptState ρ τ) (run : SetupRun) :
    Started (if run.restarts then 1 else 0) s (s.runSetup run) := by
  rw [ScriptState.runSetup]
  split
  · exact started_start s
  · exact ⟨rfl, rfl⟩

theorem started_exit (healthy : Bool) (s : ScriptState ρ τ) :
    ∃ n, Started n s (onExit 1 (s.settle healthy)) ∧ (0 < n ↔ healthy = false) := by
  cases healthy with
  | true => exact ⟨0, ⟨rfl, rfl⟩, by simp⟩
  | false =>
      rw [ScriptState.settle, if_neg Bool.false_ne_true, onExit]
      split
      · exact ⟨2, (started_start s).trans (started_start s.start), by simp⟩
      · exact ⟨1, started_start s, by simp⟩

/-- Where the checkout is not marked as changed, it stays as it is. -/
theorem started_fail_of_not_mutated (files : ρ → τ) (c : RollbackRun ρ τ)
    (unmarked : s.mutated = false) :
    ∃ n, Started n s (fail files c s) ∧ 0 < n := by
  have restored : restore files c s = s.start := by
    rw [restore, unmarked]
    cases s.prevSha <;> rfl
  obtain ⟨n, ended, -⟩ := started_exit c.healthy s.start
  rw [fail, doRollback, restored]
  exact ⟨n + 1, (started_start s).trans ended, n.succ_pos⟩

/-- Where it is, it is reset, and the setup starts the service, or the end for want of an answer. -/
theorem started_fail_of_mutated (files : ρ → τ) {c : RollbackRun ρ τ} {prev : ρ}
    (marked : s.mutated = true)
    (known : s.prevSha = some prev) (verify : c.verify = true) (reset : c.reset = none) :
    ∃ n, Started n { s with checkout := ⟨prev, files prev⟩ } (fail files c s) ∧
      (0 < n ↔ c.setup.restarts = true ∨ c.healthy = false) := by
  have restored : restore files c s =
      ScriptState.runSetup { s with checkout := ⟨prev, files prev⟩ } c.setup := by
    simp [restore, known, marked, verify, ScriptState.reset, reset]
  obtain ⟨n, ended, started⟩ := started_exit c.healthy
    (ScriptState.runSetup { s with checkout := ⟨prev, files prev⟩ } c.setup)
  rw [fail, doRollback, restored]
  refine ⟨_, (started_runSetup _ c.setup).trans ended, ?_⟩
  rw [← started]
  cases c.setup.restarts with
  | true => simp
  | false => simp

/-- A path that starts the service `n` times from one checkout. -/
theorem rolledBack_iff_of_started {n : ℕ} {c : Checkout ρ τ}
    (path : Started n { s with checkout := c } s') :
    RolledBack files start s s' ↔ c.At files start ∧ 0 < n := by
  constructor
  · intro rolled
    have back := rolled.checkout
    rw [path.checkout] at back
    refine ⟨back, ?_⟩
    obtain ⟨later, split, c, mem, -⟩ := rolled.started
    rw [← List.append_cancel_right (path.starts.symm.trans split)] at mem
    exact Nat.pos_of_ne_zero (List.mem_replicate.mp mem).1
  · rintro ⟨back, positive⟩
    have mem : c ∈ List.replicate n c := List.mem_replicate.mpr ⟨Nat.ne_of_gt positive, rfl⟩
    exact ⟨path.checkout.symm ▸ back, _, path.starts, c, mem, back⟩

/-- Where the steps fail. -/
theorem applySteps_error {target : ρ} {c : ApplyRun ρ τ}
    (h : applySteps files target c s = .error s') :
    (c.stop = false ∧ s' = s) ∨
      (∃ left, c.stop = true ∧ c.reset = some left ∧
        s' = { s with stopped := true, checkout := left }) ∨
      (c.stop = true ∧ c.reset = none ∧ s'.mutated = true ∧ s'.prevSha = s.prevSha) := by
  rw [applySteps] at h
  cases stop : c.stop with
  | false =>
      rw [stop] at h
      exact .inl ⟨rfl, (Except.error.inj h).symm⟩
  | true =>
      cases reset : c.reset with
      | some left =>
          rw [stop, reset] at h
          exact .inr (.inl ⟨left, rfl, rfl, (Except.error.inj h).symm⟩)
      | none =>
          refine .inr (.inr ⟨rfl, rfl, ?_⟩)
          simp only [stop, reset, Bool.not_true, Option.isSome_none, Bool.false_eq_true, if_false,
            ScriptState.reset, ScriptState.runSetup, ScriptState.start] at h
          split_ifs at h <;> cases h <;> exact ⟨rfl, rfl⟩

/-- If the steps fail, the script rolls back exactly if a failing reset has left no checkout of
its own, and, behind a reset that did not fail, the setup of the rollback comes to its restart or
the app does not answer. -/
theorem rolledBack_iff {target : ρ} {c : ApplyRun ρ τ} {r : RollbackRun ρ τ}
    (failed : applySteps files target c (recorded start) = .error s) (verify : r.verify = true)
    (reset : r.reset = none) :
    RolledBack files start s (fail files r s) ↔
      (c.stop = true → ∀ left ∈ c.reset, left.At files start) ∧
        (c.stop = true → c.reset = none → r.setup.restarts = true ∨ r.healthy = false) := by
  rcases applySteps_error failed with
    ⟨stop, rfl⟩ | ⟨left, stop, reset?, rfl⟩ | ⟨stop, done, marked, known⟩
  · have own : start.At files start := ⟨rfl, .inr rfl⟩
    obtain ⟨n, path, positive⟩ := started_fail_of_not_mutated files (s := recorded start) r rfl
    rw [rolledBack_iff_of_started (c := start) path, stop]
    simp [own, positive]
  · obtain ⟨n, path, positive⟩ := started_fail_of_not_mutated files
      (s := { recorded start with stopped := true, checkout := left }) r rfl
    rw [rolledBack_iff_of_started (c := left) path, stop, reset?]
    simp [positive]
  · have back : Checkout.At files ⟨start.head, files start.head⟩ start := ⟨rfl, .inl rfl⟩
    obtain ⟨n, path, positive⟩ := started_fail_of_mutated files marked known verify reset
    rw [rolledBack_iff_of_started path, positive, stop, done]
    simp [back]

/-- Two tracked files, each changed by every revision. -/
def twoFiles (rev : ℕ) : List ℕ := [rev, rev]

def revisionOne : Checkout ℕ (List ℕ) := ⟨1, twoFiles 1⟩

def plainRollback : RollbackRun ℕ (List ℕ) where
  verify := true
  reset := none
  setup := { ok := true, restarts := true }
  healthy := true

/-- The setup of the new revision fails. -/
def failedSetup : ApplyRun ℕ (List ℕ) where
  stop := true
  reset := none
  clean := true
  setup := { ok := false, restarts := false }
  healthy := false

theorem rolledBack_failedSetup :
    ∃ s, applySteps twoFiles 2 failedSetup (recorded revisionOne) = .error s ∧
      s.checkout.tree = [2, 2] ∧ (fail twoFiles plainRollback s).checkout.tree = [1, 1] ∧
      RolledBack twoFiles revisionOne s (fail twoFiles plainRollback s) := by
  have failed : applySteps twoFiles 2 failedSetup (recorded revisionOne) = .error _ := rfl
  have left : ∀ left ∈ failedSetup.reset, left.At twoFiles revisionOne := fun _ h => nomatch h
  exact ⟨_, failed, rfl, rfl, (rolledBack_iff failed rfl rfl).mpr
    ⟨fun _ => left, fun _ _ => .inl rfl⟩⟩

/-- The reset fails when it has changed one of the files. -/
def failedReset : ApplyRun ℕ (List ℕ) where
  stop := true
  reset := some ⟨1, [2, 1]⟩
  clean := true
  setup := { ok := true, restarts := true }
  healthy := true

/-- The checkout stays half changed, and the service is started from it. -/
theorem failedReset_not_rolledBack :
    ∃ s, applySteps twoFiles 2 failedReset (recorded revisionOne) = .error s ∧
      (fail twoFiles plainRollback s).checkout = ⟨1, [2, 1]⟩ ∧
      (fail twoFiles plainRollback s).starts = [⟨1, [2, 1]⟩] ∧
      ¬ RolledBack twoFiles revisionOne s (fail twoFiles plainRollback s) := by
  have failed : applySteps twoFiles 2 failedReset (recorded revisionOne) = .error _ := rfl
  refine ⟨_, failed, rfl, rfl, fun rolled => ?_⟩
  rcases rolled.checkout.2 with same | same
  · exact absurd same (by decide)
  · exact absurd same (by decide)

end GeneratorPi.UpdateScript
