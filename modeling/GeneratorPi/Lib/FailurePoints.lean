import Mathlib.Algebra.BigOperators.Group.List.Basic
import Mathlib.Algebra.Ring.Nat
import GeneratorPi.Lib.Noninterference

/-!
# Programs with numbered points of failure

A program makes calls that may raise, `raises` saying of each by its number in the run whether it
does; it goes through sections, which are numbered as well; and it leaves events.  `Spends` says how
many calls and sections a program has and which events it leaves where no call raises.  Where one
does, the program raises, having left the first of these events.  Its rules follow the constructs of
the language.
-/

namespace FailurePoints

open Noninterference

variable {ν α : Type}

/-- The calls and the sections so far, and the events. -/
structure Ledger (ν : Type) where
  calls : ℕ := 0
  sections : ℕ := 0
  events : List ν := []

abbrev Prog (ν α : Type) := EStateM Unit (Ledger ν) α

/-- A call that may raise. -/
def call (raises : ℕ → Bool) : Prog ν Unit := fun m =>
  if raises m.calls then .error () { m with calls := m.calls + 1 }
  else .ok () { m with calls := m.calls + 1 }

/-- A section, and the event it leaves. -/
def enterSection (event : ℕ → ν) : Prog ν Unit := fun m =>
  .ok () { m with sections := m.sections + 1, events := m.events ++ [event m.sections] }

def emit (event : ν) : Prog ν Unit := fun m => .ok () { m with events := m.events ++ [event] }

/-- `try: body finally: leave`. -/
def protect (body leave : Prog ν Unit) : Prog ν Unit := fun m =>
  match body m with
  | .ok _ m => leave m
  | .error e m =>
      match leave m with
      | .ok _ m => .error e m
      | .error e m => .error e m

/-- The program makes `n` calls, goes through `s` sections, and leaves the events `events`, which
may depend on the number of its first section. -/
structure Spends (raises : ℕ → Bool) (p : Prog ν Unit) (n s : ℕ) (events : ℕ → List ν) :
    Prop where
  returns : ∀ m : Ledger ν, (∀ k, m.calls ≤ k → k < m.calls + n → raises k = false) →
    p m = .ok () ⟨m.calls + n, m.sections + s, m.events ++ events m.sections⟩
  raised : ∀ m : Ledger ν, (∃ k, m.calls ≤ k ∧ k < m.calls + n ∧ raises k = true) →
    ∃ m' left, p m = .error () m' ∧ m'.events = m.events ++ left ∧ left <+: events m.sections

variable {raises : ℕ → Bool} {p q : Prog ν Unit} {n n' s s' : ℕ} {events events' : ℕ → List ν}

theorem Spends.pure : Spends raises (pure () : Prog ν Unit) 0 0 fun _ => [] where
  returns m _ := by
    change EStateM.Result.ok () m = _
    simp
  raised m h := by
    obtain ⟨k, low, high, -⟩ := h
    omega

theorem Spends.call : Spends raises (call raises : Prog ν Unit) 1 0 fun _ => [] where
  returns m quiet := by
    have here := quiet m.calls (Nat.le_refl _) (Nat.lt_succ_self _)
    simp [FailurePoints.call, here]
  raised m h := by
    obtain ⟨k, low, high, raised⟩ := h
    obtain rfl : k = m.calls := by omega
    exact ⟨_, [], by rw [FailurePoints.call, if_pos raised], by simp, List.nil_prefix⟩

theorem Spends.enterSection (event : ℕ → ν) :
    Spends raises (enterSection event) 0 1 fun k => [event k] where
  returns _ _ := rfl
  raised m h := by
    obtain ⟨k, low, high, -⟩ := h
    omega

theorem Spends.emit (event : ν) : Spends raises (emit event) 0 0 fun _ => [event] where
  returns _ _ := rfl
  raised m h := by
    obtain ⟨k, low, high, -⟩ := h
    omega

/-- What a program that raises leaves of another. -/
theorem bind_raised {f : Unit → Prog ν α} {m m' : Ledger ν} {e : Unit} (h : p m = .error e m') :
    (p >>= f) m = .error e m' := by
  change EStateM.bind p f m = _
  rw [EStateM.bind, h]

theorem Spends.bind (first : Spends raises p n s events) (rest : Spends raises q n' s' events') :
    Spends raises (p >>= fun _ => q) (n + n') (s + s')
      fun k => events k ++ events' (k + s) where
  returns m quiet := by
    have before := first.returns m fun k low high => quiet k low (by omega)
    have after := rest.returns ⟨m.calls + n, m.sections + s, m.events ++ events m.sections⟩
      fun k low high => quiet k (Nat.le_of_add_right_le low) (by simpa [Nat.add_assoc] using high)
    rw [bind_run before, after]
    simp [Nat.add_assoc]
  raised m h := by
    by_cases early : ∃ k, m.calls ≤ k ∧ k < m.calls + n ∧ raises k = true
    · obtain ⟨m', left, raised, eq, part⟩ := first.raised m early
      exact ⟨m', left, bind_raised raised, eq, part.trans (List.prefix_append _ _)⟩
    · have quiet : ∀ k, m.calls ≤ k → k < m.calls + n → raises k = false := fun k low high =>
        Bool.eq_false_iff.mpr fun raised => early ⟨k, low, high, raised⟩
      have before := first.returns m quiet
      obtain ⟨k, low, high, at_k⟩ := h
      have late : m.calls + n ≤ k := by
        by_contra within
        exact early ⟨k, low, by omega, at_k⟩
      obtain ⟨m', left, raised, eq, part⟩ :=
        rest.raised ⟨m.calls + n, m.sections + s, m.events ++ events m.sections⟩
          ⟨k, late, by simpa [Nat.add_assoc] using high, at_k⟩
      refine ⟨m', events m.sections ++ left, (bind_run before).trans raised, ?_, ?_⟩
      · rw [eq, List.append_assoc]
      · exact (List.prefix_append_right_inj _).mpr part

/-- The last part of a program is made on every exit. -/
theorem Spends.protect (body : Spends raises p n s events)
    (leave : Spends raises q n' s' fun _ => []) :
    Spends raises (protect p q) (n + n') (s + s') events where
  returns m quiet := by
    have before := body.returns m fun k low high => quiet k low (by omega)
    have after := leave.returns ⟨m.calls + n, m.sections + s, m.events ++ events m.sections⟩
      fun k low high => quiet k (Nat.le_of_add_right_le low) (by simpa [Nat.add_assoc] using high)
    rw [FailurePoints.protect, before]
    dsimp only
    rw [after]
    simp [Nat.add_assoc]
  raised m h := by
    by_cases early : ∃ k, m.calls ≤ k ∧ k < m.calls + n ∧ raises k = true
    · obtain ⟨m', left, raised, eq, part⟩ := body.raised m early
      rw [FailurePoints.protect, raised]
      dsimp only
      by_cases again : ∃ k, m'.calls ≤ k ∧ k < m'.calls + n' ∧ raises k = true
      · obtain ⟨m'', none_left, raised', eq', part'⟩ := leave.raised m' again
        rw [raised']
        refine ⟨m'', left, rfl, ?_, part⟩
        rw [eq', List.prefix_nil.mp part', List.append_nil, eq]
      · have left_quietly := leave.returns m' fun k low high =>
          Bool.eq_false_iff.mpr fun raised => again ⟨k, low, high, raised⟩
        rw [left_quietly]
        exact ⟨_, left, rfl, by simpa using eq, part⟩
    · have quiet : ∀ k, m.calls ≤ k → k < m.calls + n → raises k = false := fun k low high =>
        Bool.eq_false_iff.mpr fun raised => early ⟨k, low, high, raised⟩
      have before := body.returns m quiet
      obtain ⟨k, low, high, at_k⟩ := h
      have late : m.calls + n ≤ k := by
        by_contra within
        exact early ⟨k, low, by omega, at_k⟩
      obtain ⟨m', left, raised, eq, part⟩ :=
        leave.raised ⟨m.calls + n, m.sections + s, m.events ++ events m.sections⟩
          ⟨k, late, by simpa [Nat.add_assoc] using high, at_k⟩
      rw [FailurePoints.protect, before]
      dsimp only
      rw [raised]
      refine ⟨m', events m.sections, rfl, ?_, List.prefix_rfl⟩
      rw [eq, List.prefix_nil.mp part, List.append_nil]

/-- The events of a loop, each turn of which has `s` sections. -/
def loopEvents (events : α → ℕ → List ν) (s : ℕ) : List α → ℕ → List ν
  | [], _ => []
  | x :: xs, k => events x k ++ loopEvents events s xs (k + s)

theorem Spends.forIn {xs : List α} {body : α → Prog ν Unit} {n : α → ℕ}
    {events : α → ℕ → List ν} (turns : ∀ x ∈ xs, Spends raises (body x) (n x) s (events x)) :
    Spends raises (do for x in xs do body x) (xs.map n).sum (xs.length * s)
      (loopEvents events s xs) := by
  induction xs with
  | nil => simpa [loopEvents] using Spends.pure
  | cons x xs ih =>
      have first := turns x List.mem_cons_self
      have rest := ih fun y mem => turns y (List.mem_cons_of_mem _ mem)
      have unrolled : (do for y in x :: xs do body y) =
          body x >>= fun _ => (do for y in xs do body y) := by
        funext m
        rw [List.forIn_cons]
        simp only [Bind.bind, EStateM.bind]
        cases body x m <;> rfl
      have turned : (x :: xs).length * s = s + xs.length * s := by
        rw [List.length_cons, Nat.succ_mul, Nat.add_comm]
      rw [unrolled, List.map_cons, List.sum_cons, turned]
      exact first.bind rest

end FailurePoints
