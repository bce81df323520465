import Mathlib.Logic.Basic

/-!
# Noninterference of programs over a state

A program is an `EStateM`: it returns or raises, and leaves a state.  `view` is the part of the
state an observer sees.  A program is `Insensitive` if runs from states that look the same return
or raise alike and leave states that look the same; it is `Confined` if it leaves what is seen
alone, whatever it returns or raises.  A confined program whose exceptions are all caught is
insensitive (`Confined.insensitive_swallow`).  `Returns` says that a program always returns, and
keeps what it names.  The rules of `Shielded`, both at once, follow the constructs of the
language.
-/

namespace Noninterference

variable {ε σ ω κ α β : Type}

/-- The state a program leaves. -/
def stateAfter : EStateM.Result ε σ α → σ
  | .ok _ s => s
  | .error _ s => s

/-- Two results return or raise the same, and their states look the same. -/
def Alike (view : σ → ω) : EStateM.Result ε σ α → EStateM.Result ε σ α → Prop
  | .ok a s, .ok b t => a = b ∧ view s = view t
  | .error e s, .error f t => e = f ∧ view s = view t
  | _, _ => False

/-- What the program does to the view depends on the view alone. -/
def Insensitive (view : σ → ω) (p : EStateM ε σ α) : Prop :=
  ∀ s t, view s = view t → Alike view (p s) (p t)

/-- The program does nothing to the view. -/
def Confined (view : σ → ω) (p : EStateM ε σ α) : Prop :=
  ∀ s, view (stateAfter (p s)) = view s

/-- The program returns from every state, and keeps `keep`. -/
def Returns (keep : σ → κ) (p : EStateM ε σ α) : Prop :=
  ∀ s, ∃ a t, p s = .ok a t ∧ keep t = keep s

/-- Insensitive, and it always returns. -/
structure Shielded (view : σ → ω) (keep : σ → κ) (p : EStateM ε σ α) : Prop where
  insensitive : Insensitive view p
  returns : Returns keep p

/-- `try` with every exception dropped. -/
def swallow (p : EStateM ε σ Unit) : EStateM ε σ Unit := fun s => .ok () (stateAfter (p s))

/-- `with`: the body between `enter` and `leave`, which is made on every exit. -/
def bracket (enter leave : σ → σ) (p : EStateM ε σ α) : EStateM ε σ α := fun s =>
  match p (enter s) with
  | .ok a s => .ok a (leave s)
  | .error e s => .error e (leave s)

theorem bind_run {p : EStateM ε σ α} {f : α → EStateM ε σ β} {s t : σ} {a : α}
    (h : p s = .ok a t) : (p >>= f) s = f a t := by
  change EStateM.bind p f s = _
  rw [EStateM.bind, h]

theorem bracket_run {enter leave : σ → σ} {p : EStateM ε σ α} {s t : σ} {a : α}
    (h : p (enter s) = .ok a t) : bracket enter leave p s = .ok a (leave t) := by
  rw [bracket, h]

section Rules

variable {view : σ → ω} {p : EStateM ε σ α} {f : α → EStateM ε σ β} {enter leave : σ → σ}

theorem Alike.view_eq {r r' : EStateM.Result ε σ α} (h : Alike view r r') :
    view (stateAfter r) = view (stateAfter r') := by
  cases r with
  | ok a s =>
      cases r' with
      | ok b t => exact h.2
      | error f t => exact h.elim
  | error e s =>
      cases r' with
      | ok b t => exact h.elim
      | error f t => exact h.2

/-! ### Insensitive programs -/

theorem Insensitive.pure (a : α) : Insensitive view (pure a : EStateM ε σ α) :=
  fun _ _ same => ⟨rfl, same⟩

theorem Insensitive.bind (first : Insensitive view p) (rest : ∀ a, Insensitive view (f a)) :
    Insensitive view (p >>= f) := by
  intro s t same
  have alike := first s t same
  change Alike view (EStateM.bind p f s) (EStateM.bind p f t)
  unfold EStateM.bind
  cases hs : p s with
  | ok a s' =>
      cases ht : p t with
      | ok b t' =>
          rw [hs, ht] at alike
          obtain ⟨rfl, same'⟩ := alike
          exact rest a s' t' same'
      | error e t' =>
          rw [hs, ht] at alike
          exact alike.elim
  | error e s' =>
      cases ht : p t with
      | ok b t' =>
          rw [hs, ht] at alike
          exact alike.elim
      | error e' t' =>
          rw [hs, ht] at alike
          exact alike

/-- Reading what is seen. -/
theorem Insensitive.read {g : σ → α} (seen : ∀ s t, view s = view t → g s = g t) :
    Insensitive view (fun s => .ok (g s) s : EStateM ε σ α) :=
  fun s t same => ⟨seen s t same, same⟩

/-- Changing what is seen by what is seen. -/
theorem Insensitive.modify {g : σ → σ}
    (seen : ∀ s t, view s = view t → view (g s) = view (g t)) :
    Insensitive view (modify g : EStateM ε σ PUnit) :=
  fun s t same => ⟨rfl, seen s t same⟩

theorem Insensitive.forIn {γ : Type} {xs : List γ} {b : β} {g : γ → β → EStateM ε σ (ForInStep β)}
    (body : ∀ x b, Insensitive view (g x b)) : Insensitive view (forIn xs b g) := by
  induction xs generalizing b with
  | nil => exact Insensitive.pure b
  | cons x xs ih =>
      rw [List.forIn_cons]
      refine Insensitive.bind (body x b) fun step => ?_
      cases step with
      | done b' => exact Insensitive.pure b'
      | yield b' => exact ih

theorem Insensitive.bracket (opens : ∀ s t, view s = view t → view (enter s) = view (enter t))
    (closes : ∀ s t, view s = view t → view (leave s) = view (leave t))
    (body : Insensitive view p) : Insensitive view (bracket enter leave p) := by
  intro s t same
  have alike := body (enter s) (enter t) (opens s t same)
  unfold Noninterference.bracket
  cases hs : p (enter s) with
  | ok a s' =>
      cases ht : p (enter t) with
      | ok b t' =>
          rw [hs, ht] at alike
          exact ⟨alike.1, closes s' t' alike.2⟩
      | error e t' =>
          rw [hs, ht] at alike
          exact alike.elim
  | error e s' =>
      cases ht : p (enter t) with
      | ok b t' =>
          rw [hs, ht] at alike
          exact alike.elim
      | error e' t' =>
          rw [hs, ht] at alike
          exact ⟨alike.1, closes s' t' alike.2⟩

/-! ### Confined programs -/

theorem Confined.pure (a : α) : Confined view (pure a : EStateM ε σ α) := fun _ => rfl

theorem Confined.bind (first : Confined view p) (rest : ∀ a, Confined view (f a)) :
    Confined view (p >>= f) := by
  intro s
  have kept := first s
  change view (stateAfter (EStateM.bind p f s)) = view s
  unfold EStateM.bind
  cases hs : p s with
  | ok a s' =>
      rw [hs] at kept
      exact (rest a s').trans kept
  | error e s' =>
      rw [hs] at kept
      exact kept

theorem Confined.ite {c : Prop} [Decidable c] {q : EStateM ε σ α} (hp : Confined view p)
    (hq : Confined view q) : Confined view (if c then p else q) := by
  split
  · exact hp
  · exact hq

/-- A bracket that closes what it opens, around a confined body. -/
theorem Confined.bracket (closes : ∀ s t, view t = view (enter s) → view (leave t) = view s)
    (body : Confined view p) : Confined view (bracket enter leave p) := by
  intro s
  have kept := body (enter s)
  unfold Noninterference.bracket
  cases hs : p (enter s) with
  | ok a t =>
      rw [hs] at kept
      exact closes s t kept
  | error e t =>
      rw [hs] at kept
      exact closes s t kept

/-- What a confined program raises does not matter once it is caught. -/
theorem Confined.insensitive_swallow {p : EStateM ε σ Unit} (confined : Confined view p) :
    Insensitive view (swallow p) :=
  fun s t same => ⟨rfl, (confined s).trans (same.trans (confined t).symm)⟩

/-! ### Programs that return -/

section Returns

variable {keep : σ → κ}

theorem Returns.pure (a : α) : Returns keep (pure a : EStateM ε σ α) := fun s => ⟨a, s, rfl, rfl⟩

theorem Returns.bind (first : Returns keep p) (rest : ∀ a, Returns keep (f a)) :
    Returns keep (p >>= f) := by
  intro s
  obtain ⟨a, s', hs, kept⟩ := first s
  obtain ⟨b, t, ht, kept'⟩ := rest a s'
  refine ⟨b, t, ?_, kept'.trans kept⟩
  change EStateM.bind p f s = .ok b t
  rw [EStateM.bind, hs]
  exact ht

theorem Returns.forIn {γ : Type} {xs : List γ} {b : β} {g : γ → β → EStateM ε σ (ForInStep β)}
    (body : ∀ x b, Returns keep (g x b)) : Returns keep (forIn xs b g) := by
  induction xs generalizing b with
  | nil => exact Returns.pure b
  | cons x xs ih =>
      rw [List.forIn_cons]
      refine Returns.bind (body x b) fun step => ?_
      cases step with
      | done b' => exact Returns.pure b'
      | yield b' => exact ih

theorem Returns.bracket (closes : ∀ s t, keep t = keep (enter s) → keep (leave t) = keep s)
    (body : Returns keep p) : Returns keep (bracket enter leave p) := by
  intro s
  obtain ⟨a, t, hs, kept⟩ := body (enter s)
  refine ⟨a, leave t, ?_, closes s t kept⟩
  unfold Noninterference.bracket
  rw [hs]

end Returns

/-! ### Both at once -/

section Shielded

variable {keep : σ → κ}

theorem Shielded.pure (a : α) : Shielded view keep (pure a : EStateM ε σ α) :=
  ⟨Insensitive.pure a, Returns.pure a⟩

theorem Shielded.bind (first : Shielded view keep p) (rest : ∀ a, Shielded view keep (f a)) :
    Shielded view keep (p >>= f) :=
  ⟨Insensitive.bind first.insensitive fun a => (rest a).insensitive,
    Returns.bind first.returns fun a => (rest a).returns⟩

theorem Shielded.ite {c : Prop} [Decidable c] {q : EStateM ε σ α} (hp : Shielded view keep p)
    (hq : Shielded view keep q) : Shielded view keep (if c then p else q) := by
  split
  · exact hp
  · exact hq

theorem Shielded.forIn {γ : Type} {xs : List γ} {b : β} {g : γ → β → EStateM ε σ (ForInStep β)}
    (body : ∀ x b, Shielded view keep (g x b)) : Shielded view keep (forIn xs b g) :=
  ⟨Insensitive.forIn fun x b => (body x b).insensitive,
    Returns.forIn fun x b => (body x b).returns⟩

theorem Shielded.read {g : σ → α} (seen : ∀ s t, view s = view t → g s = g t) :
    Shielded view keep (fun s => .ok (g s) s : EStateM ε σ α) :=
  ⟨Insensitive.read seen, fun s => ⟨g s, s, rfl, rfl⟩⟩

theorem Shielded.modify {g : σ → σ} (seen : ∀ s t, view s = view t → view (g s) = view (g t))
    (kept : ∀ s, keep (g s) = keep s) :
    Shielded view keep (modify g : EStateM ε σ PUnit) :=
  ⟨Insensitive.modify seen, fun s => ⟨⟨⟩, g s, rfl, kept s⟩⟩

theorem Shielded.bracket (opens : ∀ s t, view s = view t → view (enter s) = view (enter t))
    (closes : ∀ s t, view s = view t → view (leave s) = view (leave t))
    (restores : ∀ s t, keep t = keep (enter s) → keep (leave t) = keep s)
    (body : Shielded view keep p) : Shielded view keep (bracket enter leave p) :=
  ⟨Insensitive.bracket opens closes body.insensitive, Returns.bracket restores body.returns⟩

/-- A program that leaves alone what is seen and what is to be kept, its exceptions dropped. -/
theorem Shielded.swallow {p : EStateM ε σ Unit} (unseen : Confined view p)
    (kept : Confined keep p) : Shielded view keep (swallow p) :=
  ⟨unseen.insensitive_swallow, fun s => ⟨(), stateAfter (p s), rfl, kept s⟩⟩

end Shielded

end Rules

/-! ### Runs -/

/-- What a program returned or raised, and what was seen then. -/
def report (view : σ → ω) : EStateM.Result ε σ α → Except ε α × ω
  | .ok a s => (.ok a, view s)
  | .error e s => (.error e, view s)

theorem Alike.report_eq {view : σ → ω} {r r' : EStateM.Result ε σ α} (h : Alike view r r') :
    report view r = report view r' := by
  cases r with
  | ok a s =>
      cases r' with
      | ok b t => exact Prod.ext (congrArg Except.ok h.1) h.2
      | error f t => exact h.elim
  | error e s =>
      cases r' with
      | ok b t => exact h.elim
      | error f t => exact Prod.ext (congrArg Except.error h.1) h.2

/-- The programs of a run one after another, whatever they raise, and the report of each. -/
def observe (view : σ → ω) : List (EStateM ε σ α) → σ → List (Except ε α × ω)
  | [], _ => []
  | p :: ps, s => report view (p s) :: observe view ps (stateAfter (p s))

/-- Runs of insensitive programs from states that look the same are observed alike. -/
theorem observe_congr {view : σ → ω} {ps : List (EStateM ε σ α)}
    (insensitive : ∀ p ∈ ps, Insensitive view p) {s t : σ} (same : view s = view t) :
    observe view ps s = observe view ps t := by
  induction ps generalizing s t with
  | nil => rfl
  | cons p ps ih =>
      have alike := insensitive p List.mem_cons_self s t same
      rw [observe, observe, alike.report_eq,
        ih (fun q hq => insensitive q (List.mem_cons_of_mem p hq)) alike.view_eq]

end Noninterference
