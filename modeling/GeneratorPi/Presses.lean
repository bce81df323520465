import GeneratorPi.Sequences

/-!
# What the sequences do to the relay

At most one press is in progress, the relay is energised only inside a press of the thread that
holds `relay_lock`, every exit of a sequence leaves the relay off and the lock free, and a stop
whose press raises has not touched the tracked state (`relayExclusive_of_run`).

A start sequence looks at the tracked state once, before its first press.  Until its last press only
a manual override can move that state, so at every press the generator is marked as running exactly
if the last override since that check has marked it so (`pressesAsMarked_of_run`).
-/

namespace GeneratorPi

open Trace

/-- Inside `press_button`. -/
def Point.inPress : Point → Bool
  | .pressing _ _ => true
  | _ => false

/-- An exception is on its way out of a sequence, or has left it. -/
def Point.aborted : Point → Bool
  | .pressing _ (.deEnergise true) | .releasing .aborted | .ended .aborted => true
  | _ => false

/-- Where a thread of `stop_generator` can stand. -/
def Point.stopping : Point → Bool
  | .acquireStop | .pressing .stop _ | .bank | .releasing _ | .ended _ => true
  | _ => false

/-- The thread that takes the step. -/
def RelayOp.actor : RelayOp → Option ℕ
  | .spawn i _ | .advance i | .raised i => some i
  | .setRunning _ | .tick _ => none

variable {maxRetries : ℤ} {r s t : Relay} {i j : ℕ} {op : RelayOp}

/-! ## One step -/

/-- Where a thread can go from a point by a step of its own. -/
def Point.successors : Point → List Point
  | .unborn => [.acquireStart, .acquireStop]
  | .acquireStart => [.check, .ended .refused]
  | .check => [.releasing .refused, .attempt 1]
  | .attempt n => [.pressing (.prime n) .energise, .finish]
  | .pressing button .energise => [.pressing button .hold, .releasing .aborted]
  | .pressing button .hold =>
      [.pressing button (.deEnergise false), .pressing button (.deEnergise true)]
  | .pressing _ (.deEnergise true) => [.releasing .aborted]
  | .pressing button (.deEnergise false) => [.pressing button .debounce]
  | .pressing button .debounce => [button.after, .releasing .aborted]
  | .priming n => [.pressing (.crank n) .energise, .releasing .aborted]
  | .stamp n => [.retrying n, .finish]
  | .retrying n => [.attempt (n + 1), .releasing .aborted]
  | .acquireStop => [.pressing .stop .energise, .ended .refused]
  | .finish | .bank => [.releasing .success]
  | .releasing o => [.ended o]
  | .ended _ => []

theorem Relay.advance_threads (h : r.advance maxRetries i = some s) :
    ∃ p ∈ (r.threads i).successors, s.threads = Function.update r.threads i p := by
  cases point : r.threads i with
  | unborn | ended o =>
      simp only [Relay.advance, point] at h
      cases h
  | acquireStart | acquireStop | check | attempt n =>
      simp only [Relay.advance, point, Option.some.injEq] at h
      rw [← h]
      split <;> exact ⟨_, by simp [Point.successors], rfl⟩
  | stamp n =>
      simp only [Relay.advance, point, Option.some.injEq] at h
      rw [← h]
      refine ⟨_, ?_, rfl⟩
      split <;> simp [Point.successors]
  | pressing button p =>
      cases p with
      | deEnergise raised =>
          simp only [Relay.advance, point, Option.some.injEq] at h
          rw [← h]
          cases raised <;> exact ⟨_, by simp [Point.successors], rfl⟩
      | energise | hold | debounce =>
          simp only [Relay.advance, point, Option.some.injEq] at h
          rw [← h]
          exact ⟨_, by simp [Point.successors], rfl⟩
  | priming n | retrying n | finish | bank | releasing o =>
      simp only [Relay.advance, point, Option.some.injEq] at h
      rw [← h]
      exact ⟨_, by simp [Point.successors], rfl⟩

theorem Point.mem_successors_of_raised {p q : Point} (h : p.raised = some q) :
    q ∈ p.successors := by
  cases p with
  | pressing button at_ => cases at_ <;> cases h <;> simp [Point.successors]
  | priming n | retrying n =>
      cases h
      simp [Point.successors]
  | _ => cases h

/-- A step moves the thread that takes it, along the sequence, and no other. -/
theorem Relay.step_thread (h : r.step maxRetries op = some s) (i : ℕ) :
    s.threads i = r.threads i ∨
      (op.actor = some i ∧ s.threads i ∈ (r.threads i).successors) := by
  cases op with
  | spawn j stop =>
      obtain ⟨unborn, rfl⟩ := enabled_eq_some.mp h
      by_cases mine : i = j
      · subst mine
        right
        rw [Relay.goto_self, unborn]
        cases stop <;> exact ⟨rfl, by simp [Point.successors]⟩
      · exact Or.inl (r.goto_of_ne mine _)
  | advance j =>
      rcases Relay.advance_threads h with ⟨p, next, eq⟩
      by_cases mine : i = j
      · subst mine
        right
        rw [eq, Function.update_self]
        exact ⟨rfl, next⟩
      · left
        rw [eq, Function.update_of_ne mine]
  | raised j =>
      rcases Option.map_eq_some_iff.mp h with ⟨p, raised, rfl⟩
      by_cases mine : i = j
      · subst mine
        right
        rw [Relay.goto_self]
        exact ⟨rfl, Point.mem_successors_of_raised raised⟩
      · exact Or.inl (r.goto_of_ne mine p)
  | setRunning b =>
      cases h
      exact Or.inl rfl
  | tick d =>
      obtain ⟨-, rfl⟩ := enabled_eq_some.mp h
      exact Or.inl rfl

/-- Whatever every successor of a thread's point has, the thread keeps. -/
theorem Relay.step_keeps {P : Point → Prop} (along : ∀ p q, P p → q ∈ p.successors → P q)
    (h : r.step maxRetries op = some s) (before : P (r.threads i)) : P (s.threads i) := by
  rcases Relay.step_thread h i with same | ⟨-, next⟩
  · rwa [same]
  · exact along _ _ before next

theorem Relay.run_keeps {P : Point → Prop} (along : ∀ p q, P p → q ∈ p.successors → P q)
    {ops : List RelayOp} (h : run (Relay.step maxRetries) r ops = some s)
    (before : P (r.threads i)) : P (s.threads i) := by
  induction ops generalizing r with
  | nil =>
      cases h
      exact before
  | cons op ops ih =>
      rcases run_cons_eq_some.mp h with ⟨m, stepped, rest⟩
      exact ih rest (Relay.step_keeps along stepped before)

/-! ## Exits -/

theorem Point.before_ended {p : Point} {o : Outcome} (h : .ended o ∈ p.successors) :
    p.acquiring ∨ p = .releasing o := by
  cases p with
  | pressing button at_ =>
      cases at_ with
      | deEnergise raised => cases raised <;> simp [Point.successors] at h
      | debounce => cases button <;> simp [Point.successors, Button.after] at h
      | energise | hold => simp [Point.successors] at h
  | releasing o' =>
      cases List.mem_singleton.mp h
      exact Or.inr rfl
  | acquireStart | acquireStop => exact Or.inl rfl
  | _ => simp [Point.successors] at h

/-- A thread does not sleep before it has the lock. -/
theorem Point.raised_of_acquiring {p : Point} (h : p.acquiring) : p.raised = none := by
  cases p with
  | acquireStart | acquireStop => rfl
  | _ => cases h

/-- A sequence ends where it is refused the lock, or where it releases it. -/
theorem Relay.step_ended {o : Outcome} (h : r.step maxRetries op = some s)
    (ended : s.threads i = .ended o) (before : r.threads i ≠ .ended o) :
    ((r.threads i).acquiring ∧ s.lock = r.lock ∧ s.on = r.on) ∨
      (r.threads i = .releasing o ∧ s.lock = none ∧ s.on = r.on) := by
  rcases Relay.step_thread h i with same | ⟨mine, next⟩
  · exact absurd (same.symm.trans ended) before
  rw [ended] at next
  have place := Point.before_ended next
  cases op with
  | setRunning b => cases mine
  | tick d => cases mine
  | spawn j stop =>
      cases mine
      obtain ⟨unborn, -⟩ := Option.ite_none_right_eq_some.mp h
      rw [unborn] at next
      simp [Point.successors] at next
  | raised j =>
      cases mine
      rcases Option.map_eq_some_iff.mp h with ⟨p, raised, -⟩
      rcases place with acquiring | releasing
      · rw [Point.raised_of_acquiring acquiring] at raised
        cases raised
      · rw [releasing] at raised
        cases raised
  | advance j =>
      cases mine
      have advanced : r.advance maxRetries i = some s := h
      rcases place with acquiring | releasing
      · left
        refine ⟨acquiring, ?_⟩
        cases point : r.threads i with
        | acquireStart | acquireStop =>
            simp only [Relay.advance, point, Option.some.injEq] at advanced
            rw [← advanced] at ended ⊢
            split at ended
            · rw [Relay.goto_self] at ended
              cases ended
            next held =>
              rw [if_neg held]
              exact ⟨rfl, rfl⟩
        | _ =>
            rw [point] at acquiring
            cases acquiring
      · right
        refine ⟨releasing, ?_⟩
        simp only [Relay.advance, releasing, Option.some.injEq] at advanced
        rw [← advanced]
        exact ⟨rfl, rfl⟩

/-! ## A stop whose press raises -/

/-- Past its bank a stop can only succeed. -/
def Point.banked : Point → Bool
  | .releasing .success | .ended .success => true
  | _ => false

theorem Point.stopping_successors (p q : Point) (stopping : p.stopping) (next : q ∈ p.successors) :
    q.stopping := by
  cases p with
  | pressing button at_ =>
      cases button with
      | stop =>
          cases at_ with
          | deEnergise raised =>
              cases raised <;> simp [Point.successors] at next <;> rw [next] <;> rfl
          | energise | hold | debounce =>
              simp [Point.successors, Button.after] at next
              rcases next with rfl | rfl <;> rfl
      | prime n | crank n => cases stopping
  | acquireStop =>
      simp [Point.successors] at next
      rcases next with rfl | rfl <;> rfl
  | bank | releasing o =>
      simp [Point.successors] at next
      rw [next]
      rfl
  | ended o => cases next
  | _ => cases stopping

theorem Point.banked_successors (p q : Point) (banked : p.banked) (next : q ∈ p.successors) :
    q.banked := by
  cases p with
  | releasing o =>
      cases o with
      | success =>
          simp [Point.successors] at next
          rw [next]
          rfl
      | refused | aborted => cases banked
  | ended o => cases next
  | _ => cases banked

theorem Point.not_banked_of_aborted {p : Point} (aborted : p.aborted) : ¬ p.banked := by
  cases p with
  | releasing o => cases o <;> simp_all [Point.aborted, Point.banked]
  | ended o => cases o <;> simp_all [Point.aborted, Point.banked]
  | _ => exact fun banked => by cases banked

/-- A stop touches the tracked state in its bank alone. -/
theorem Relay.step_app_of_stopping (h : r.step maxRetries op = some s) (mine : op.actor = some i)
    (stopping : (r.threads i).stopping) : s.app = r.app ∨ (s.threads i).banked := by
  cases op with
  | setRunning b => cases mine
  | tick d => cases mine
  | spawn j stop =>
      obtain ⟨-, rfl⟩ := enabled_eq_some.mp h
      exact Or.inl rfl
  | raised j =>
      rcases Option.map_eq_some_iff.mp h with ⟨p, -, rfl⟩
      exact Or.inl rfl
  | advance j =>
      cases mine
      have advanced : r.advance maxRetries i = some s := h
      cases point : r.threads i with
      | acquireStop =>
          simp only [Relay.advance, point, Option.some.injEq] at advanced
          rw [← advanced]
          split <;> exact Or.inl rfl
      | pressing button q =>
          cases q <;> simp only [Relay.advance, point, Option.some.injEq] at advanced <;>
            rw [← advanced] <;> exact Or.inl rfl
      | releasing o =>
          simp only [Relay.advance, point, Option.some.injEq] at advanced
          rw [← advanced]
          exact Or.inl rfl
      | bank =>
          simp only [Relay.advance, point, Option.some.injEq] at advanced
          rw [← advanced, Relay.goto_self]
          exact Or.inr rfl
      | unborn | ended o =>
          simp only [Relay.advance, point] at advanced
          cases advanced
      | acquireStart | check | attempt | priming | stamp | retrying | finish =>
          rw [point] at stopping
          cases stopping

/-- A thread that has been spawned is not spawned again. -/
theorem Point.born_successors (p q : Point) (_ : p ≠ .unborn) (next : q ∈ p.successors) :
    q ≠ .unborn := by
  rintro rfl
  cases p with
  | pressing button at_ =>
      cases at_ with
      | deEnergise raised => cases raised <;> simp [Point.successors] at next
      | debounce => cases button <;> simp [Point.successors, Button.after] at next
      | energise | hold => simp [Point.successors] at next
  | _ => simp [Point.successors] at next

/-- A thread that runs, or is raised in, has been spawned before. -/
theorem Relay.spawned_before {ops before after : List RelayOp} {start a b : Relay}
    (spawned : .spawn i true ∈ ops) (ran : run (Relay.step maxRetries) start ops = some r)
    (split : ops = before ++ op :: after)
    (reached : run (Relay.step maxRetries) start before = some a)
    (stepped : a.step maxRetries op = some b) (born : a.threads i ≠ .unborn) :
    .spawn i true ∈ before := by
  rw [split] at ran spawned
  rcases run_append_eq_some.mp ran with ⟨a', reached', rest⟩
  cases reached.symm.trans reached'
  rcases run_cons_eq_some.mp rest with ⟨b', stepped', finished⟩
  cases stepped.symm.trans stepped'
  rcases List.mem_append.mp spawned with early | late
  · exact early
  · rcases List.mem_cons.mp late with rfl | later
    · obtain ⟨unborn, -⟩ := Option.ite_none_right_eq_some.mp stepped
      exact absurd unborn born
    · rcases List.append_of_mem later with ⟨front, back, rfl⟩
      rcases run_append_eq_some.mp finished with ⟨c, arrived, again⟩
      rcases run_cons_eq_some.mp again with ⟨d, spawn, -⟩
      obtain ⟨unborn, -⟩ := Option.ite_none_right_eq_some.mp spawn
      have alive := Relay.run_keeps Point.born_successors arrived
        (Relay.step_keeps Point.born_successors stepped born)
      exact absurd unborn alive

/-- The steps of a stop that is aborted do not touch the tracked state. -/
theorem Relay.app_of_aborted {ops before after : List RelayOp} {start a b : Relay}
    (spawned : .spawn i true ∈ ops) (ran : run (Relay.step maxRetries) start ops = some r)
    (aborted : (r.threads i).aborted) (split : ops = before ++ op :: after)
    (reached : run (Relay.step maxRetries) start before = some a)
    (stepped : a.step maxRetries op = some b) (mine : op.actor = some i) : b.app = a.app := by
  by_cases born : a.threads i = .unborn
  · cases op with
    | setRunning x => cases mine
    | tick d => cases mine
    | spawn j stop =>
        obtain ⟨-, rfl⟩ := enabled_eq_some.mp stepped
        rfl
    | raised j =>
        rcases Option.map_eq_some_iff.mp stepped with ⟨p, -, rfl⟩
        rfl
    | advance j =>
        cases mine
        have advanced : a.advance maxRetries i = some b := stepped
        simp only [Relay.advance, born] at advanced
        cases advanced
  · have early := Relay.spawned_before spawned ran split reached stepped born
    rcases List.append_of_mem early with ⟨front, back, rfl⟩
    rcases run_append_eq_some.mp reached with ⟨c, -, onward⟩
    rcases run_cons_eq_some.mp onward with ⟨d, spawn, arrived⟩
    have stopping : (a.threads i).stopping := by
      refine Relay.run_keeps Point.stopping_successors arrived ?_
      obtain ⟨-, rfl⟩ := enabled_eq_some.mp spawn
      rw [Relay.goto_self]
      rfl
    rcases Relay.step_app_of_stopping stepped mine stopping with same | banked
    · exact same
    · rw [split] at ran
      rcases run_append_eq_some.mp ran with ⟨a', reached', rest⟩
      cases reached.symm.trans reached'
      rcases run_cons_eq_some.mp rest with ⟨b', stepped', finished⟩
      cases stepped.symm.trans stepped'
      have still := Relay.run_keeps Point.banked_successors finished banked
      exact absurd still (Point.not_banked_of_aborted aborted)

/-! ## Exclusivity and release -/

/-- What holds after the run `ops` has led from `start` to `r`. -/
structure RelayExclusive (maxRetries : ℤ) (start : Relay) (ops : List RelayOp) (r : Relay) :
    Prop where
  /-- At most one press is in progress. -/
  one_press : ∀ i j, (r.threads i).inPress → (r.threads j).inPress → i = j
  /-- The relay is energised inside a press of the lock's holder. -/
  energised_by_holder : r.on → ∃ i, r.lock = some i ∧ (r.threads i).inPress
  /-- Who has left his sequence does not hold the lock. -/
  released : ∀ i o, r.threads i = .ended o → r.lock ≠ some i
  /-- Leaving a sequence switches the relay off and frees the lock; who never had the lock leaves
  both as they are. -/
  exits_clean : ∀ op s i o, r.step maxRetries op = some s → s.threads i = .ended o →
    r.threads i ≠ .ended o →
    (r.lock = some i ∧ s.lock = none ∧ s.on = false) ∨
      (r.lock ≠ some i ∧ s.lock = r.lock ∧ s.on = r.on)
  /-- No step of a stop whose press raised has touched the tracked state. -/
  aborted_stop : ∀ i, .spawn i true ∈ ops → (r.threads i).aborted →
    ∀ before op after a b, ops = before ++ op :: after →
      run (Relay.step maxRetries) start before = some a → a.step maxRetries op = some b →
      op.actor = some i → b.app = a.app

theorem RelaySafe.critical_of_inPress {p : Point} (h : p.inPress) : p.critical := by
  cases p with
  | pressing button at_ => rfl
  | _ => cases h

theorem Point.inPress_of_energised {p : Point} (h : p.energised) : p.inPress := by
  cases p with
  | pressing button at_ => rfl
  | _ => cases h

theorem RelaySafe.exits_clean (safe : RelaySafe r) {o : Outcome}
    (h : r.step maxRetries op = some s) (ended : s.threads i = .ended o)
    (before : r.threads i ≠ .ended o) :
    (r.lock = some i ∧ s.lock = none ∧ s.on = false) ∨
      (r.lock ≠ some i ∧ s.lock = r.lock ∧ s.on = r.on) := by
  rcases Relay.step_ended h ended before with ⟨acquiring, lock, on⟩ | ⟨releasing, lock, on⟩
  · right
    refine ⟨fun mine => ?_, lock, on⟩
    have critical := safe.held i mine
    cases point : r.threads i with
    | acquireStart | acquireStop =>
        rw [point] at critical
        cases critical
    | _ =>
        rw [point] at acquiring
        cases acquiring
  · left
    have critical : (r.threads i).critical := by
      rw [releasing]
      rfl
    have quiet : (r.threads i).energised = false := by
      rw [releasing]
      rfl
    exact ⟨safe.holder i critical, lock, on.trans (safe.off critical quiet)⟩

/-- Any threads, in any order, raising in any sleep, next to overrides and the clock. -/
theorem relayExclusive_of_run {app : App} {now : ℚ} {ops : List RelayOp}
    (h : run (Relay.step maxRetries) { app, now } ops = some r) :
    RelayExclusive maxRetries { app, now } ops r := by
  have safe : RelaySafe r :=
    run_invariant (fun _ _ _ safe h => RelaySafe.step safe h) (RelaySafe.initial app now) h
  refine ⟨fun i j hi hj => ?_, fun on => ?_, fun i o ended mine => ?_,
    fun op s i o step ended before =>
    safe.exits_clean step ended before, ?_⟩
  · have first := safe.holder i (RelaySafe.critical_of_inPress hi)
    have second := safe.holder j (RelaySafe.critical_of_inPress hj)
    exact Option.some.inj (first.symm.trans second)
  · rcases safe.on_iff.mp on with ⟨i, energised⟩
    exact ⟨i, safe.holder i (Point.critical_of_energised energised),
      Point.inPress_of_energised energised⟩
  · have critical := safe.held i mine
    rw [ended] at critical
    cases critical
  · intro i spawned aborted before op after a b split reached stepped mine
    exact Relay.app_of_aborted spawned h aborted split reached stepped mine

/-- A stop that raises in its press while another one is refused, then a start that is marked as
running in between. -/
def stopRaises : List RelayOp :=
  [.setRunning true, .spawn 0 true, .advance 0, .advance 0, .spawn 1 true, .advance 1, .raised 0,
    .advance 0, .advance 0, .setRunning false, .spawn 2 false, .advance 2, .advance 2, .advance 2]

theorem relayExclusive_stopRaises :
    ∃ r, run (Relay.step 1) { app := {}, now := 0 } stopRaises = some r ∧
      RelayExclusive 1 { app := {}, now := 0 } stopRaises r := by
  have runs : (run (Relay.step 1) { app := {}, now := 0 } stopRaises).isSome := by decide
  rcases Option.isSome_iff_exists.mp runs with ⟨r, ran⟩
  exact ⟨r, ran, relayExclusive_of_run ran⟩

/-! ## Presses of a start -/

/-- Past the check of a start sequence and before its end. -/
def Point.starting : Point → Bool
  | .attempt _ | .pressing (.prime _) _ | .pressing (.crank _) _ | .priming _ | .stamp _
  | .retrying _ | .finish => true
  | _ => false

/-- Every press of a start sequence begins with the generator not marked as running. -/
def PressesStopped (r : Relay) : Prop :=
  ∀ i button, r.threads i = .pressing button .energise → (r.threads i).starting →
    r.app.gen.running = false

/-- The relay, and whether the last manual override since the last check of a start sequence has
marked the generator as running. -/
structure Marked where
  relay : Relay
  marked : Bool := false

def Marked.step (maxRetries : ℤ) (x : Marked) (op : RelayOp) : Option Marked :=
  (x.relay.step maxRetries op).map fun relay =>
    { relay
      marked :=
        match op with
        | .setRunning b => b
        | .advance i => if x.relay.threads i = .check then false else x.marked
        | _ => x.marked }

/-- At every press of a start sequence the tracked state is what the last override since its check
has set, or stopped if there was none. -/
def PressesAsMarked (x : Marked) : Prop :=
  ∀ i button, x.relay.threads i = .pressing button .energise → (x.relay.threads i).starting →
    x.relay.app.gen.running = x.marked

/-- Between its check and its end a start sequence finds the state as the overrides leave it. -/
structure StartInvariant (x : Marked) : Prop where
  safe : RelaySafe x.relay
  asMarked : ∀ i, (x.relay.threads i).starting → x.relay.app.gen.running = x.marked

theorem Point.critical_of_starting {p : Point} (h : p.starting) : p.critical := by
  cases p with
  | unborn | acquireStart | acquireStop | ended o => cases h
  | _ => rfl

theorem Point.before_starting {p q : Point} (next : q ∈ p.successors) (h : q.starting) :
    p = .check ∨ (p.starting ∧ p ≠ .finish) := by
  cases p with
  | check => exact Or.inl rfl
  | attempt n | priming n | stamp n | retrying n => exact Or.inr ⟨rfl, by simp⟩
  | pressing button at_ =>
      cases button with
      | prime n | crank n => exact Or.inr ⟨rfl, by simp⟩
      | stop =>
          cases at_ with
          | deEnergise raised =>
              cases raised <;> cases List.mem_singleton.mp next <;> cases h
          | energise | hold | debounce =>
              simp only [Point.successors, Button.after, List.mem_cons, List.not_mem_nil,
                or_false] at next
              rcases next with rfl | rfl <;> cases h
  | finish | bank | releasing o =>
      cases List.mem_singleton.mp next
      cases h
  | unborn | acquireStart | acquireStop =>
      simp only [Point.successors, List.mem_cons, List.not_mem_nil, or_false] at next
      rcases next with rfl | rfl <;> cases h
  | ended o => cases next

/-- Only the ends of the two sequences move the tracked state. -/
theorem Relay.advance_running (h : r.advance maxRetries i = some s)
    (unfinished : r.threads i ≠ .finish) (unbanked : r.threads i ≠ .bank) :
    s.app.gen.running = r.app.gen.running := by
  cases point : r.threads i with
  | unborn | ended o =>
      simp only [Relay.advance, point] at h
      cases h
  | acquireStart | acquireStop | attempt n =>
      simp only [Relay.advance, point, Option.some.injEq] at h
      rw [← h]
      split <;> rfl
  | check =>
      simp only [Relay.advance, point, Option.some.injEq] at h
      rw [← h]
      split
      · rfl
      next app checked => exact (startCheck_sameAccounts checked).running
  | pressing button p =>
      cases p <;> simp only [Relay.advance, point, Option.some.injEq] at h <;> rw [← h] <;> rfl
  | priming n | stamp n | retrying n | releasing o =>
      simp only [Relay.advance, point, Option.some.injEq] at h
      rw [← h]
      rfl
  | finish => exact absurd point unfinished
  | bank => exact absurd point unbanked

/-- The check lets a sequence go on only while the generator is marked as stopped. -/
theorem Relay.advance_check (h : r.advance maxRetries i = some s) (check : r.threads i = .check)
    (passed : (s.threads i).starting) : r.app.gen.running = false := by
  simp only [Relay.advance, check, Option.some.injEq] at h
  rw [← h] at passed
  split at passed
  · rw [Relay.goto_self] at passed
    cases passed
  next app checked =>
    unfold startCheck at checked
    split at checked
    · cases checked
    next stopped => exact Bool.eq_false_iff.mpr stopped

variable {x y : Marked}

theorem StartInvariant.step (inv : StartInvariant x) (h : x.step maxRetries op = some y) :
    StartInvariant y := by
  rcases Option.map_eq_some_iff.mp h with ⟨s, stepped, rfl⟩
  refine ⟨inv.safe.step stepped, fun i starting => ?_⟩
  dsimp only at starting ⊢
  cases op with
  | setRunning b =>
      cases stepped
      exact applyRunningTransition_running ..
  | tick d =>
      obtain ⟨-, rfl⟩ := enabled_eq_some.mp stepped
      exact inv.asMarked i starting
  | spawn j stop =>
      rcases Relay.step_thread stepped i with same | ⟨mine, next⟩
      · obtain ⟨-, rfl⟩ := enabled_eq_some.mp stepped
        exact inv.asMarked i (same ▸ starting)
      · cases mine
        obtain ⟨-, rfl⟩ := enabled_eq_some.mp stepped
        rw [Relay.goto_self] at starting
        cases stop <;> cases starting
  | raised j =>
      rcases Option.map_eq_some_iff.mp stepped with ⟨p, raised, rfl⟩
      rcases Relay.step_thread stepped i with same | ⟨mine, next⟩
      · exact inv.asMarked i (same ▸ starting)
      · cases mine
        rcases Point.before_starting next starting with check | ⟨before, -⟩
        · rw [check] at raised
          cases raised
        · exact inv.asMarked i before
  | advance j =>
      have advanced : x.relay.advance maxRetries j = some s := stepped
      dsimp only
      by_cases mine : j = i
      · subst mine
        have next : s.threads j ∈ (x.relay.threads j).successors := by
          rcases Relay.advance_threads advanced with ⟨p, next, eq⟩
          rwa [eq, Function.update_self]
        rcases Point.before_starting next starting with check | ⟨before, unfinished⟩
        · rw [if_pos check, ← Relay.advance_check advanced check starting]
          exact Relay.advance_running advanced (by rw [check]; simp) (by rw [check]; simp)
        · have elsewhere : ∀ p : Point, p.starting = false → x.relay.threads j ≠ p := by
            rintro p out rfl
            rw [out] at before
            cases before
          rw [if_neg (elsewhere .check rfl), ← inv.asMarked j before]
          exact Relay.advance_running advanced unfinished (elsewhere .bank rfl)
      · -- Another thread moves while this one is in its sequence: it is not in one.
        have same : s.threads i = x.relay.threads i :=
          (Relay.step_thread stepped i).resolve_right fun moved => mine (Option.some.inj moved.1)
        rw [same] at starting
        have idle := inv.safe.alone (Point.critical_of_starting starting) mine
        have elsewhere : ∀ p : Point, p.critical → x.relay.threads j ≠ p := by
          rintro p critical rfl
          rw [critical] at idle
          cases idle
        rw [if_neg (elsewhere .check rfl), ← inv.asMarked i starting]
        exact Relay.advance_running advanced (elsewhere .finish rfl) (elsewhere .bank rfl)

/-- At every press of every start sequence the generator is marked as running exactly if the last
override since the sequence's check has marked it so. -/
theorem pressesAsMarked_of_run {app : App} {now : ℚ} {ops : List RelayOp}
    (h : run (Marked.step maxRetries) { relay := { app, now } } ops = some x) :
    PressesAsMarked x := by
  have start : StartInvariant { relay := { app, now } } :=
    ⟨RelaySafe.initial app now, fun i starting => by cases starting⟩
  have inv : StartInvariant x :=
    run_invariant (fun _ _ _ inv h => StartInvariant.step inv h) start h
  exact fun i _ _ starting => inv.asMarked i starting

/-- Two attempts, with an override between them that is taken back. -/
def overriddenBetween : List RelayOp :=
  .spawn 0 false :: List.replicate 13 (.advance 0) ++
    [.setRunning true, .advance 0, .setRunning false, .advance 0]

theorem pressesAsMarked_overriddenBetween :
    ∃ x, run (Marked.step 2) { relay := { app := {}, now := 0 } } overriddenBetween = some x ∧
      x.relay.threads 0 = .pressing (.prime 2) .energise ∧ PressesAsMarked x := by
  have seen : (run (Marked.step 2) { relay := { app := {}, now := 0 } } overriddenBetween).any
      fun x => x.relay.threads 0 = .pressing (.prime 2) .energise := by decide
  rcases (Option.any_eq_true _ _).mp seen with ⟨x, ran, point⟩
  exact ⟨x, ran, by simpa using point, pressesAsMarked_of_run ran⟩

/-- Marked as running between the check and the first press: the start cranks all the same. -/
theorem cranks_marked_running :
    ∃ r, run (Relay.step 1) { app := {}, now := 0 }
        [.spawn 0 false, .advance 0, .advance 0, .setRunning true, .advance 0] = some r ∧
      ¬ PressesStopped r := by
  have seen : (run (Relay.step 1) { app := {}, now := 0 }
      [.spawn 0 false, .advance 0, .advance 0, .setRunning true, .advance 0]).any fun r =>
        r.threads 0 = .pressing (.prime 1) .energise && r.app.gen.running := by decide
  rcases (Option.any_eq_true _ _).mp seen with ⟨r, ran, facts⟩
  obtain ⟨point, running⟩ : r.threads 0 = .pressing (.prime 1) .energise ∧
      r.app.gen.running = true := by simpa using facts
  refine ⟨r, ran, fun stopped => ?_⟩
  have idle := stopped 0 (.prime 1) point (by rw [point]; rfl)
  rw [running] at idle
  cases idle

end GeneratorPi
