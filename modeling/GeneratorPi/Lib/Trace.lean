import Mathlib.Data.List.Basic
import Mathlib.Data.List.Induction

/-!
# Runs of a labelled step function

A system is given by a partial step function `step : σ → α → Option σ`: the state after a label,
or `none` where the label is not enabled.  `run` folds it over a list of labels.  An invariant
that every step keeps holds after every run (`run_invariant`), also when it speaks of the labels
so far (`run_induction`); an invariant that only the steps meeting a condition keep holds after
every run whose steps all meet it (`run_invariant_of_meets`).
-/

namespace Trace

variable {σ α : Type*}

/-- Take the labels in order; `none` as soon as one of them is not enabled. -/
def run (step : σ → α → Option σ) : σ → List α → Option σ
  | s, [] => some s
  | s, a :: as => (step s a).bind fun s' => run step s' as

/-- Every step of the run meets the condition `ok` in the state it is taken from. -/
def Meets (step : σ → α → Option σ) (ok : σ → α → Prop) : σ → List α → Prop
  | _, [] => True
  | s, a :: as => ok s a ∧ (step s a).elim True fun s' => Meets step ok s' as

/-- A label that is enabled under a condition. -/
theorem enabled_eq_some {p : Prop} [Decidable p] {s s' : σ} :
    (if p then some s else none) = some s' ↔ p ∧ s = s' := by
  rw [Option.ite_none_right_eq_some, Option.some.injEq]

section Rules

variable {step : σ → α → Option σ} {ok : σ → α → Prop} {Inv : σ → Prop}
  {s s' : σ} {a : α} {as bs : List α}

@[simp] theorem run_nil : run step s [] = some s := rfl

theorem run_cons : run step s (a :: as) = (step s a).bind fun s' => run step s' as := rfl

theorem run_cons_eq_some :
    run step s (a :: as) = some s' ↔ ∃ m, step s a = some m ∧ run step m as = some s' := by
  simp [run_cons, Option.bind_eq_some_iff]

theorem run_append :
    run step s (as ++ bs) = (run step s as).bind fun m => run step m bs := by
  induction as generalizing s with
  | nil => rfl
  | cons a as ih =>
      simp only [List.cons_append, run_cons]
      cases step s a with
      | none => rfl
      | some m => exact ih

theorem run_append_eq_some :
    run step s (as ++ bs) = some s' ↔ ∃ m, run step s as = some m ∧ run step m bs = some s' := by
  simp [run_append, Option.bind_eq_some_iff]

@[simp] theorem meets_nil : Meets step ok s [] := trivial

theorem Meets.head (h : Meets step ok s (a :: as)) : ok s a := h.1

theorem Meets.tail (h : Meets step ok s (a :: as)) (hs : step s a = some s') :
    Meets step ok s' as := by
  have rest := h.2
  rw [hs] at rest
  exact rest

/-- A condition on the labels alone. -/
theorem meets_of_forall {ok : α → Prop} (h : ∀ a ∈ as, ok a) : Meets step (fun _ => ok) s as := by
  induction as generalizing s with
  | nil => trivial
  | cons a as ih =>
      refine ⟨h a List.mem_cons_self, ?_⟩
      cases step s a with
      | none => trivial
      | some m => exact ih fun b hb => h b (List.mem_cons_of_mem _ hb)

theorem Meets.of_prefix (h : Meets step ok s (as ++ bs)) : Meets step ok s as := by
  induction as generalizing s with
  | nil => trivial
  | cons a as ih =>
      refine ⟨h.head, ?_⟩
      cases stepped : step s a with
      | none => trivial
      | some m => exact ih (h.tail stepped)

theorem Meets.of_append {m : σ} (h : Meets step ok s (as ++ bs)) (hrun : run step s as = some m) :
    Meets step ok m bs := by
  induction as generalizing s with
  | nil =>
      cases hrun
      exact h
  | cons a as ih =>
      obtain ⟨next, stepped, rest⟩ := run_cons_eq_some.mp hrun
      exact ih (h.tail stepped) rest

/-- A run that does not meet a condition takes a step that breaks it. -/
theorem exists_of_not_meets (h : ¬ Meets step ok s as) :
    ∃ before a after m, as = before ++ a :: after ∧ run step s before = some m ∧ ¬ ok m a := by
  induction as generalizing s with
  | nil => exact absurd trivial h
  | cons a as ih =>
      by_cases here : ok s a
      · cases stepped : step s a with
        | none =>
            refine absurd ⟨here, ?_⟩ h
            rw [stepped]
            trivial
        | some m =>
            have rest : ¬ Meets step ok m as := fun met => h ⟨here, by rw [stepped]; exact met⟩
            obtain ⟨before, b, after, m', rfl, ran, broken⟩ := ih rest
            exact ⟨a :: before, b, after, m', rfl, run_cons_eq_some.mpr ⟨m, stepped, ran⟩, broken⟩
      · exact ⟨[], a, as, s, rfl, rfl, here⟩

/-- Two conditions that agree wherever an invariant holds, which the steps meeting one of them keep,
are met by the same runs. -/
theorem meets_congr {ok' : σ → α → Prop} (same : ∀ s a, Inv s → (ok s a ↔ ok' s a))
    (keep : ∀ s a s', Inv s → ok' s a → step s a = some s' → Inv s') (hs : Inv s) :
    Meets step ok s as ↔ Meets step ok' s as := by
  induction as generalizing s with
  | nil => exact Iff.rfl
  | cons a as ih =>
      unfold Meets
      rw [same s a hs]
      refine and_congr_right fun met => ?_
      cases stepped : step s a with
      | none => exact Iff.rfl
      | some m => exact ih (keep s a m hs met stepped)

/-- An invariant kept by every step meeting the condition holds after every run that meets it. -/
theorem run_invariant_of_meets
    (keep : ∀ s a s', Inv s → ok s a → step s a = some s' → Inv s')
    (hs : Inv s) (meets : Meets step ok s as) (hrun : run step s as = some s') : Inv s' := by
  induction as generalizing s with
  | nil =>
      cases hrun
      exact hs
  | cons a as ih =>
      obtain ⟨m, hm, rest⟩ := run_cons_eq_some.mp hrun
      exact ih (keep s a m hs meets.head hm) (meets.tail hm) rest

/-- An invariant kept by every step holds after every run. -/
theorem run_invariant (keep : ∀ s a s', Inv s → step s a = some s' → Inv s')
    (hs : Inv s) (hrun : run step s as = some s') : Inv s' := by
  induction as generalizing s with
  | nil =>
      cases hrun
      exact hs
  | cons a as ih =>
      obtain ⟨m, hm, rest⟩ := run_cons_eq_some.mp hrun
      exact ih (keep s a m hs hm) rest

/-- A property of the labels so far and the state they lead to, kept by every step that can be
taken after them. -/
theorem run_induction {P : List α → σ → Prop}
    (keep : ∀ as a m s', run step s as = some m → P as m → step m a = some s' → P (as ++ [a]) s')
    (hs : P [] s) (hrun : run step s as = some s') : P as s' := by
  induction as using List.reverseRecOn generalizing s' with
  | nil =>
      cases hrun
      exact hs
  | append_singleton as a ih =>
      obtain ⟨m, before, last⟩ := run_append_eq_some.mp hrun
      obtain ⟨_, stepped, ⟨⟩⟩ := run_cons_eq_some.mp last
      exact keep as a m _ before (ih before) stepped

/-- The same of runs whose steps all meet a condition. -/
theorem run_induction_of_meets {P : List α → σ → Prop}
    (keep : ∀ as a m s', run step s as = some m → P as m → ok m a → step m a = some s' →
      P (as ++ [a]) s')
    (hs : P [] s) (meets : Meets step ok s as) (hrun : run step s as = some s') : P as s' := by
  refine run_induction (P := fun as s' => Meets step ok s as → P as s') ?_ (fun _ => hs) hrun meets
  intro as a m s' before ih stepped met
  exact keep as a m s' before (ih met.of_prefix) (met.of_append before).head stepped

end Rules

instance decidableMeets (step : σ → α → Option σ) (ok : σ → α → Prop)
    [∀ s a, Decidable (ok s a)] : ∀ (s : σ) (as : List α), Decidable (Meets step ok s as)
  | _, [] => isTrue trivial
  | s, a :: as =>
      match h : step s a with
      | none => decidable_of_iff (ok s a) (by simp [Meets, h])
      | some s' =>
          have := decidableMeets step ok s' as
          decidable_of_iff (ok s a ∧ Meets step ok s' as) (by simp [Meets, h])

end Trace
