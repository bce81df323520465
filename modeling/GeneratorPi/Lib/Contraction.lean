import GeneratorPi.Lib.Trace
import Mathlib.Algebra.Order.Field.Basic
import Mathlib.Tactic.Linarith
import Mathlib.Tactic.Ring

/-!
# Measures that some steps of a run contract

`marked` says which labels are counted in which state, `markedSteps` how many of them a run takes.
A measure that every marked step draws towards `limit` by the factor `c`, and no other step
raises, is `c ^ k` times its first value after `k` of them, up to what it was drawn to
(`run_contracts`).
-/

namespace Trace

variable {σ α K : Type*} [Field K] [LinearOrder K]

/-- The marked steps of a run. -/
def markedSteps (step : σ → α → Option σ) (marked : σ → α → Bool) : σ → List α → ℕ
  | _, [] => 0
  | s, a :: as =>
      (marked s a).toNat + (step s a).elim 0 fun s' => markedSteps step marked s' as

/-- `x` is at most the value of a measure drawn `k` times from `first` towards `limit`. -/
def DrawnTo (c limit first : K) (k : ℕ) (x : K) : Prop :=
  x ≤ c ^ k * first + (1 - c ^ k) * limit

section Rules

variable {step : σ → α → Option σ} {marked : σ → α → Bool} {ok : σ → α → Prop} {Inv : σ → Prop}
  {c limit : K} {s s' : σ} {as : List α}

theorem DrawnTo.refl (first : K) : DrawnTo c limit first 0 first := by
  simp [DrawnTo]

variable [IsStrictOrderedRing K]

/-- Drawn once to the value another one is drawn from. -/
theorem DrawnTo.succ {first next x : K} {k : ℕ} (nonneg : 0 ≤ c)
    (head : next ≤ c * first + (1 - c) * limit) (tail : DrawnTo c limit next k x) :
    DrawnTo c limit first (k + 1) x := by
  have scaled : c ^ k * next ≤ c ^ k * (c * first + (1 - c) * limit) :=
    mul_le_mul_of_nonneg_left head (pow_nonneg nonneg k)
  calc x ≤ c ^ k * next + (1 - c ^ k) * limit := tail
    _ ≤ c ^ k * (c * first + (1 - c) * limit) + (1 - c ^ k) * limit := by linarith
    _ = c ^ (k + 1) * first + (1 - c ^ (k + 1)) * limit := by ring

theorem DrawnTo.mono {first next x : K} {k : ℕ} (nonneg : 0 ≤ c) (head : next ≤ first)
    (tail : DrawnTo c limit next k x) : DrawnTo c limit first k x := by
  have scaled : c ^ k * next ≤ c ^ k * first :=
    mul_le_mul_of_nonneg_left head (pow_nonneg nonneg k)
  exact tail.trans (by linarith)

/-- What is left of the first value, and at most the whole limit. -/
theorem DrawnTo.le {first x : K} {k : ℕ} (nonneg : 0 ≤ c) (limit_nonneg : 0 ≤ limit)
    (drawn : DrawnTo c limit first k x) : x ≤ c ^ k * first + limit := by
  have rest : 0 ≤ c ^ k * limit := mul_nonneg (pow_nonneg nonneg k) limit_nonneg
  have spread : x ≤ c ^ k * first + (limit - c ^ k * limit) := by
    rw [← one_sub_mul]
    exact drawn
  linarith

/-- What each marked step contracts, a run contracts as often as it takes one. -/
theorem run_contracts (measure : σ → K) (nonneg : 0 ≤ c)
    (keep : ∀ s a s', Inv s → ok s a → step s a = some s' → Inv s')
    (draws : ∀ s a s', Inv s → ok s a → step s a = some s' → marked s a = true →
      measure s' ≤ c * measure s + (1 - c) * limit)
    (rests : ∀ s a s', Inv s → ok s a → step s a = some s' → marked s a = false →
      measure s' ≤ measure s)
    (hs : Inv s) (meets : Meets step ok s as) (hrun : run step s as = some s') :
    DrawnTo c limit (measure s) (markedSteps step marked s as) (measure s') := by
  induction as generalizing s with
  | nil =>
      cases hrun
      exact DrawnTo.refl _
  | cons a as ih =>
      obtain ⟨m, hm, rest⟩ := run_cons_eq_some.mp hrun
      have tail := ih (keep s a m hs meets.head hm) (meets.tail hm) rest
      cases mark : marked s a with
      | true =>
          have counted : markedSteps step marked s (a :: as) =
              markedSteps step marked m as + 1 := by
            simp [markedSteps, mark, hm, Nat.add_comm]
          rw [counted]
          exact tail.succ nonneg (draws s a m hs meets.head hm mark)
      | false =>
          have counted : markedSteps step marked s (a :: as) = markedSteps step marked m as := by
            simp [markedSteps, mark, hm]
          rw [counted]
          exact tail.mono nonneg (rests s a m hs meets.head hm mark)

end Rules

end Trace
