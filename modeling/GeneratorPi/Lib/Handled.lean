import GeneratorPi.Lib.Noninterference

/-!
# Programs that raise, and handlers that return

`Triple P p Q E`: from a state with `P` the program `p` returns with `Q` or raises with `E`.  A
program that raises under `False` returns from every such state (`Triple.returns`).  A handler that
itself never raises leaves nothing of what the body raises (`Triple.attempt`).  `Keeps` is an
invariant that holds on both ways out; its rules follow the constructs of the language.
-/

namespace Handled

open Noninterference

variable {ε σ α β γ : Type}

def Triple (P : σ → Prop) (p : EStateM ε σ α) (Q : α → σ → Prop) (E : ε → σ → Prop) : Prop :=
  ∀ s, P s →
    match p s with
    | .ok a t => Q a t
    | .error e t => E e t

/-- The program keeps `I`, whether it returns or raises. -/
abbrev Keeps (I : σ → Prop) (p : EStateM ε σ α) : Prop := Triple I p (fun _ => I) (fun _ => I)

/-- `try p except Exception as e: handler`. -/
def attempt (p : EStateM ε σ α) (handler : ε → EStateM ε σ α) : EStateM ε σ α := fun s =>
  match p s with
  | .ok a t => .ok a t
  | .error e t => handler e t

/-! ### Single runs -/

theorem bind_raised {p : EStateM ε σ α} {f : α → EStateM ε σ β} {s t : σ} {e : ε}
    (h : p s = .error e t) : (p >>= f) s = .error e t := by
  change EStateM.bind p f s = _
  rw [EStateM.bind, h]

/-- Two beginnings with one outcome. -/
theorem bind_congr_run {p q : EStateM ε σ α} (f : α → EStateM ε σ β) {s t : σ} (h : p s = q t) :
    (p >>= f) s = (q >>= f) t := by
  change EStateM.bind p f s = EStateM.bind q f t
  rw [EStateM.bind, EStateM.bind, h]

theorem attempt_of_ok {p : EStateM ε σ α} (handler : ε → EStateM ε σ α) {s t : σ} {a : α}
    (h : p s = .ok a t) : attempt p handler s = .ok a t := by
  rw [attempt, h]

theorem attempt_of_error {p : EStateM ε σ α} (handler : ε → EStateM ε σ α) {s t : σ} {e : ε}
    (h : p s = .error e t) : attempt p handler s = handler e t := by
  rw [attempt, h]

/-- A loop whose first turn returns goes on from there. -/
theorem forIn_cons_run {x : γ} {xs : List γ} {body : γ → EStateM ε σ PUnit} {s t : σ}
    (first : body x s = .ok ⟨⟩ t) :
    (do for y in x :: xs do body y : EStateM ε σ PUnit) s =
      (do for y in xs do body y : EStateM ε σ PUnit) t := by
  have turn : (do body x; return ForInStep.yield ⟨⟩ : EStateM ε σ (ForInStep PUnit)) s =
      .ok (.yield ⟨⟩) t := bind_run first
  rw [List.forIn_cons]
  exact bind_congr_run _ (bind_run turn)

/-! ### Operations without effects -/

theorem bind_eq_ok {x : Except ε α} {f : α → Except ε β} {b : β} :
    (x >>= f) = .ok b ↔ ∃ a, x = .ok a ∧ f a = .ok b := by
  cases x with
  | error e => simp only [bind, Except.bind, reduceCtorEq, false_and, exists_false]
  | ok a => simp only [bind, Except.bind, Except.ok.injEq, exists_eq_left']

/-- A loop of checks returns iff every check does. -/
theorem forIn_eq_ok {xs : List α} {check : α → Except ε Unit} :
    (do for x in xs do check x) = Except.ok () ↔ ∀ x ∈ xs, check x = .ok () := by
  induction xs with
  | nil => exact ⟨fun _ _ hx => absurd hx List.not_mem_nil, fun _ => rfl⟩
  | cons x xs ih =>
      rw [List.forIn_cons, List.forall_mem_cons, ← ih]
      cases check x with
      | error e => simp [bind, Except.bind]
      | ok a => simp [bind, Except.bind, pure, Except.pure]

/-- A loop whose body neither raises nor touches the state is a fold. -/
theorem forIn_yield {xs : List γ} {body : γ → β → EStateM ε σ (ForInStep β)}
    {g : β → γ → β} {s : σ} (pure_body : ∀ x ∈ xs, ∀ b, body x b s = .ok (.yield (g b x)) s)
    (b : β) : forIn xs b body s = .ok (xs.foldl g b) s := by
  induction xs generalizing b with
  | nil => rfl
  | cons x xs ih =>
      have first := pure_body x List.mem_cons_self b
      have rest := ih (fun y mem => pure_body y (List.mem_cons_of_mem _ mem)) (g b x)
      rw [List.forIn_cons, bind_run first]
      exact rest

/-- An operation without effects that may raise. -/
instance liftExcept : MonadLift (Except ε) (EStateM ε σ) where
  monadLift
    | .ok a => fun s => .ok a s
    | .error e => fun s => .error e s

section Rules

variable {P P' : σ → Prop} {p : EStateM ε σ α} {f : α → EStateM ε σ β} {I : σ → Prop}
  {Q Q' : α → σ → Prop} {R : β → σ → Prop} {E E' : ε → σ → Prop}

/-- Nothing is promised of what the program leaves. -/
theorem Triple.any : Triple P p (fun _ _ => True) (fun _ _ => True) := by
  intro s _
  cases p s <;> trivial

theorem Triple.mono (h : Triple P p Q E) (pre : ∀ s, P' s → P s) (post : ∀ a s, Q a s → Q' a s)
    (raised : ∀ e s, E e s → E' e s) : Triple P' p Q' E' := by
  intro s hs
  have out := h s (pre s hs)
  cases ran : p s with
  | ok a t =>
      rw [ran] at out
      exact post a t out
  | error e t =>
      rw [ran] at out
      exact raised e t out

theorem Triple.pure {a : α} (h : ∀ s, P s → Q a s) :
    Triple P (pure a : EStateM ε σ α) Q E := fun s hs => h s hs

theorem Triple.modify {g : σ → σ} {Q : PUnit → σ → Prop} (h : ∀ s, P s → Q ⟨⟩ (g s)) :
    Triple P (modify g : EStateM ε σ PUnit) Q E := fun s hs => h s hs

theorem Triple.get {Q : σ → σ → Prop} (h : ∀ s, P s → Q s s) :
    Triple P (get : EStateM ε σ σ) Q E := fun s hs => h s hs

theorem Triple.throw {e : ε} (h : ∀ s, P s → E e s) :
    Triple P (throw e : EStateM ε σ α) Q E := fun s hs => h s hs

theorem Triple.bind (first : Triple P p Q E) (rest : ∀ a, Triple (Q a) (f a) R E) :
    Triple P (p >>= f) R E := by
  intro s hs
  have out := first s hs
  change match EStateM.bind p f s with
    | .ok a t => R a t
    | .error e t => E e t
  unfold EStateM.bind
  cases ran : p s with
  | ok a t =>
      rw [ran] at out
      exact rest a t out
  | error e t =>
      rw [ran] at out
      exact out

theorem Triple.ite {c : Prop} [Decidable c] {q : EStateM ε σ α} (hp : c → Triple P p Q E)
    (hq : ¬ c → Triple P q Q E) : Triple P (if c then p else q) Q E := by
  split
  next h => exact hp h
  next h => exact hq h

/-- What a body raises is left to the handler. -/
theorem Triple.attempt {handler : ε → EStateM ε σ α} (body : Triple P p Q E')
    (caught : ∀ e, Triple (E' e) (handler e) Q E) : Triple P (attempt p handler) Q E := by
  intro s hs
  have out := body s hs
  unfold Handled.attempt
  cases ran : p s with
  | ok a t =>
      rw [ran] at out
      exact out
  | error e t =>
      rw [ran] at out
      exact caught e t out

/-- A program that cannot raise returns. -/
theorem Triple.returns (h : Triple P p Q fun _ _ => False) {s : σ} (hs : P s) :
    ∃ a t, p s = .ok a t ∧ Q a t := by
  have out := h s hs
  cases ran : p s with
  | ok a t =>
      rw [ran] at out
      exact ⟨a, t, rfl, out⟩
  | error e t =>
      rw [ran] at out
      exact out.elim

/-! ### Invariants -/

theorem Keeps.pure (a : α) : Keeps I (pure a : EStateM ε σ α) := fun _ hs => hs

theorem Keeps.lift (r : Except ε α) : Keeps I (liftM r : EStateM ε σ α) := by
  intro s hs
  cases r <;> exact hs

theorem Keeps.bind (first : Keeps I p) (rest : ∀ a, Keeps I (f a)) : Keeps I (p >>= f) :=
  Triple.bind first rest

theorem Keeps.ite {c : Prop} [Decidable c] {q : EStateM ε σ α} (hp : Keeps I p) (hq : Keeps I q) :
    Keeps I (if c then p else q) := Triple.ite (fun _ => hp) fun _ => hq

theorem Keeps.forIn {xs : List γ} {b : β} {g : γ → β → EStateM ε σ (ForInStep β)}
    (body : ∀ x b, Keeps I (g x b)) : Keeps I (forIn xs b g) := by
  induction xs generalizing b with
  | nil => exact Keeps.pure b
  | cons x xs ih =>
      rw [List.forIn_cons]
      refine Keeps.bind (body x b) fun step => ?_
      cases step with
      | done b' => exact Keeps.pure b'
      | yield b' => exact ih

theorem Keeps.attempt {handler : ε → EStateM ε σ α} (body : Keeps I p)
    (caught : ∀ e, Keeps I (handler e)) : Keeps I (attempt p handler) :=
  Triple.attempt body caught

/-- What is left on raising is forgotten. -/
theorem Keeps.returned (h : Keeps I p) : Triple I p (fun _ => I) fun _ _ => True :=
  h.mono (fun _ hs => hs) (fun _ _ hs => hs) fun _ _ _ => trivial

/-- A best-effort program does not raise, and keeps what its body keeps. -/
theorem Triple.swallow {p : EStateM ε σ Unit} (body : Keeps I p) :
    Triple I (swallow p) (fun _ => I) E := by
  intro s hs
  have out := body s hs
  unfold Noninterference.swallow
  cases ran : p s with
  | ok a t =>
      rw [ran] at out
      exact out
  | error e t =>
      rw [ran] at out
      exact out

end Rules

end Handled
