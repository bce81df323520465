import Mathlib.Algebra.Order.Group.Defs
import Mathlib.Data.List.Basic
import Mathlib.Algebra.BigOperators.Group.List.Basic

/-!
# Stretches of a switch

A switch is turned on and off at times that do not go back; a turn may repeat the state the switch
is in already.  `stretches` are the maximal stretches on which it is on, in order, the one that is
still open measured to now.  They do not overlap (`stretches_pairwise`), and a time lies in one of
them exactly if the last turn at or before it was on (`mem_stretch_iff`).
-/

namespace OnOff

variable {τ : Type*}

/-- A turn of the switch: its time, and whether it is on from then. -/
abbrev Turn (τ : Type*) := τ × Bool

/-- The start of a stretch and the end it does not contain. -/
abbrev Stretch (τ : Type*) := τ × τ

/-- The stretches of a switch that is on since `opened`, or off, before its turns. -/
def stretches : Option τ → List (Turn τ) → τ → List (Stretch τ)
  | none, [], _ => []
  | some s, [], now => [(s, now)]
  | none, (u, true) :: turns, now => stretches (some u) turns now
  | none, (_, false) :: turns, now => stretches none turns now
  -- A turn that repeats the state neither ends the stretch nor begins it anew.
  | some s, (_, true) :: turns, now => stretches (some s) turns now
  | some s, (u, false) :: turns, now => (s, u) :: stretches none turns now

/-- A switch that is off is not on since any time. -/
theorem off_since {P : τ → Prop} : ∀ s, (none : Option τ) = some s → P s := fun _ h => nomatch h

/-- The time covered by stretches. -/
def total [AddGroup τ] (l : List (Stretch τ)) : τ := (l.map fun i => i.2 - i.1).sum

section Total

variable [AddGroup τ]

@[simp] theorem total_nil : total ([] : List (Stretch τ)) = 0 := rfl

@[simp] theorem total_cons (i : Stretch τ) (l : List (Stretch τ)) :
    total (i :: l) = i.2 - i.1 + total l := by
  simp [total]

end Total

variable [LinearOrder τ]

/-- The state at `t` of a switch with the given state before its turns. -/
def onAt (before : Bool) : List (Turn τ) → τ → Bool
  | [], _ => before
  | (u, b) :: turns, t => if u ≤ t then onAt b turns t else before

/-- The turns lie between `first` and `now`, in order. -/
def Ordered (first : τ) : List (Turn τ) → τ → Prop
  | [], now => first ≤ now
  | (u, _) :: turns, now => first ≤ u ∧ Ordered u turns now

/-- The state after the last turn. -/
def lastState (before : Bool) : List (Turn τ) → Bool
  | [] => before
  | (_, b) :: turns => lastState b turns

variable {first now t : τ} {turns rest : List (Turn τ)} {opened : Option τ}

theorem Ordered.le (ordered : Ordered first turns now) : first ≤ now := by
  induction turns generalizing first with
  | nil => exact ordered
  | cons turn turns ih => exact ordered.1.trans (ih ordered.2)

theorem Ordered.mono {earlier : τ} (ordered : Ordered first turns now) (h : earlier ≤ first) :
    Ordered earlier turns now := by
  cases turns with
  | nil => exact h.trans ordered
  | cons turn turns => exact ⟨h.trans ordered.1, ordered.2⟩

/-- No turn is after `now`. -/
theorem Ordered.turn_le (ordered : Ordered first turns now) {turn : Turn τ}
    (mem : turn ∈ turns) : turn.1 ≤ now := by
  induction turns generalizing first with
  | nil => cases mem
  | cons u turns ih =>
      rcases List.mem_cons.mp mem with rfl | mem
      · exact ordered.2.le
      · exact ih ordered.2 mem

/-- Before the first turn the switch is as it was. -/
theorem onAt_of_lt (ordered : Ordered first turns now) (h : t < first) (before : Bool) :
    onAt before turns t = before := by
  cases turns with
  | nil => rfl
  | cons turn turns => exact if_neg (not_le.mpr (h.trans_le ordered.1))

/-- Turns at or before `t` are seen at `t` as the state they leave. -/
theorem onAt_append (past : ∀ turn ∈ turns, turn.1 ≤ t) (before : Bool) :
    onAt before (turns ++ rest) t = onAt (lastState before turns) rest t := by
  induction turns generalizing before with
  | nil => rfl
  | cons turn turns ih =>
      have seen := past turn List.mem_cons_self
      rw [List.cons_append, onAt, if_pos seen]
      exact ih (fun u hu => past u (List.mem_cons_of_mem _ hu)) turn.2

/-! ## Where the stretches lie -/

theorem le_start (ordered : Ordered first turns now) {lo : τ} (le : lo ≤ first)
    (since : ∀ s, opened = some s → lo ≤ s) {i : Stretch τ}
    (mem : i ∈ stretches opened turns now) : lo ≤ i.1 := by
  induction turns generalizing first opened with
  | nil =>
      cases opened with
      | none => cases mem
      | some s =>
          cases List.mem_singleton.mp mem
          exact since s rfl
  | cons turn turns ih =>
      obtain ⟨u, b⟩ := turn
      have later := le.trans ordered.1
      cases opened with
      | none =>
          cases b with
          | true => exact ih ordered.2 later (fun s h => Option.some.inj h ▸ later) mem
          | false => exact ih ordered.2 later off_since mem
      | some s =>
          cases b with
          | true => exact ih ordered.2 later since mem
          | false =>
              rcases List.mem_cons.mp mem with rfl | mem
              · exact since s rfl
              · exact ih ordered.2 later off_since mem

/-- The stretch that is open before the turns runs at least to the first of them. -/
theorem open_stretch (ordered : Ordered first turns now) (s : τ) :
    ∃ e, first ≤ e ∧ (s, e) ∈ stretches (some s) turns now := by
  induction turns generalizing first with
  | nil => exact ⟨now, ordered, List.mem_singleton_self _⟩
  | cons turn turns ih =>
      obtain ⟨u, b⟩ := turn
      cases b with
      | true =>
          obtain ⟨e, later, mem⟩ := ih ordered.2
          exact ⟨e, ordered.1.trans later, mem⟩
      | false => exact ⟨u, ordered.1, List.mem_cons_self⟩

/-- Every stretch ends before the next one starts. -/
theorem stretches_pairwise (ordered : Ordered first turns now) :
    (stretches opened turns now).Pairwise fun i j => i.2 ≤ j.1 := by
  induction turns generalizing first opened with
  | nil =>
      cases opened with
      | none => exact List.Pairwise.nil
      | some s => exact List.pairwise_singleton _ _
  | cons turn turns ih =>
      obtain ⟨u, b⟩ := turn
      cases opened with
      | none =>
          cases b with
          | true => exact ih ordered.2
          | false => exact ih ordered.2
      | some s =>
          cases b with
          | true => exact ih ordered.2
          | false =>
              refine List.Pairwise.cons (fun j mem => ?_) (ih ordered.2)
              exact le_start ordered.2 le_rfl off_since mem

/-- A time lies in a stretch exactly if the switch is on at it. -/
theorem mem_stretch_iff (ordered : Ordered first turns now)
    (since : ∀ s, opened = some s → s ≤ first) (started : first ≤ t) (past : t < now) :
    (∃ i ∈ stretches opened turns now, i.1 ≤ t ∧ t < i.2) ↔
      onAt opened.isSome turns t = true := by
  induction turns generalizing first opened with
  | nil =>
      cases opened with
      | none => simp [stretches, onAt]
      | some s => simp [stretches, onAt, (since s rfl).trans started, past]
  | cons turn turns ih =>
      obtain ⟨u, b⟩ := turn
      rcases le_or_gt u t with seen | unseen
      · rw [onAt, if_pos seen]
        cases opened with
        | none =>
            cases b with
            | true => exact ih ordered.2 (fun s h => (Option.some.inj h).ge) seen
            | false => exact ih ordered.2 off_since seen
        | some s =>
            have earlier : s ≤ u := (since s rfl).trans ordered.1
            cases b with
            | true => exact ih ordered.2 (fun s' h => Option.some.inj h ▸ earlier) seen
            | false =>
                have later := ih ordered.2 off_since seen
                rw [← Option.isSome_none, ← later]
                simp [stretches, not_lt.mpr seen]
      · -- The turn is still to come: the open stretch covers `t`, and no later one does.
        rw [onAt, if_neg (not_le.mpr unseen)]
        cases opened with
        | none =>
            refine iff_of_false ?_ Bool.false_ne_true
            rintro ⟨i, mem, low, -⟩
            have high : u ≤ i.1 := by
              cases b with
              | true =>
                  exact le_start ordered.2 le_rfl (fun s h => (Option.some.inj h).le) mem
              | false => exact le_start ordered.2 le_rfl off_since mem
            exact absurd (high.trans low) (not_le.mpr unseen)
        | some s =>
            refine iff_of_true ?_ rfl
            have before : s ≤ t := (since s rfl).trans started
            cases b with
            | true =>
                obtain ⟨e, later, mem⟩ := open_stretch ordered.2 s
                exact ⟨(s, e), mem, before, unseen.trans_le later⟩
            | false => exact ⟨(s, u), List.mem_cons_self, before, unseen⟩

end OnOff
