import GeneratorPi.Lib.PyText
import GeneratorPi.Lib.Trace
import Mathlib

/-!
# The wheels of the odometer

`app.js` shows the lifetime hours on five wheels.  A wheel only rolls forward; where its digit gets
smaller it rolls on to a second zero at the end of its strip, and a timer then puts it back without
an animation, at the digit that was asked for last.

Whatever hours are shown in whatever order, and whenever the timers fire, no wheel moves backwards
except from that second zero, and a wheel without a timer shows its digit of the highest hours since
the last override (`odometer_of_run`).
-/

namespace GeneratorPi.Wheels

open PyText Trace

/-! ## The wheels (app.js) -/

/-- `ODO_CELL` -/
def odoCell : ℚ≥0 := 46

/-- One of `odoReels`. -/
structure Reel where
  pos : ℚ≥0 := 0
  wrapping : Bool := false
  pending : Option ℚ≥0 := none
  /-- The magnitude of the element's `translateY`. -/
  shown : ℚ≥0 := 0
  /-- The targets of the calls of `setReel` whose `setTimeout` has not fired. -/
  timers : List ℚ≥0 := []
  deriving DecidableEq

/-- `setReel` -/
def setReel (r : Reel) (target : ℚ≥0) : Reel :=
  if r.wrapping then { r with pending := some target }
  else if target ≥ r.pos then { r with pos := target, shown := target }
  else
    { r with
      wrapping := true
      pending := some target
      shown := 10 * odoCell
      timers := r.timers ++ [target] }

/-- The function that `setReel` gives to `setTimeout`. -/
def snap (r : Reel) (target : ℚ≥0) : Reel :=
  let t := r.pending.getD target
  { r with shown := t, pos := t, wrapping := false, pending := none }

structure Odometer where
  reels : Fin 5 → Reel := fun _ => {}
  /-- `_lastOdoHours` -/
  last : Option ℚ≥0 := none

/-- `ds` -/
def digitText (hours : ℚ≥0) : Text :=
  (List.replicate 4 '0' ++ Nat.toDigits 10 (min 9999 ⌊hours⌋₊)).rtake 4

/-- `parseInt(ds.charAt(i),10)` -/
def digit (hours : ℚ≥0) (i : ℕ) : ℕ := ((digitText hours).getD i '0').toNat - '0'.toNat

/-- What `updateOdometer` passes to `setReel`. -/
def target (hours : ℚ≥0) (i : Fin 5) : ℚ≥0 :=
  if i < 4 then digit hours i * odoCell else (hours - ⌊hours⌋₊) * 10 * odoCell

/-- `updateOdometer` -/
def updateOdometer (o : Odometer) (hours : ℚ≥0) : Odometer :=
  if o.last.any (hours ≤ ·) then o
  else { last := some hours, reels := fun i => setReel (o.reels i) (target hours i) }

inductive Call where
  | update (hours : ℚ≥0)
  /-- `_lastOdoHours=null`, once an override of the total hours was accepted. -/
  | override
  /-- The `n`th timer of a wheel fires. -/
  | timer (i : Fin 5) (n : ℕ)

def Odometer.step (o : Odometer) : Call → Option Odometer
  | .update hours => some (updateOdometer o hours)
  | .override => some { o with last := none }
  | .timer i n =>
      let r := o.reels i
      r.timers[n]?.map fun t =>
        { o with
          reels := Function.update o.reels i (snap { r with timers := r.timers.eraseIdx n } t) }

/-! ## What the wheels are to show -/

/-- The highest hours since the last override, of calls listed newest first. -/
def highest : List Call → Option ℚ≥0
  | [] => none
  | .update hours :: past => some ((highest past).elim hours (max hours))
  | .override :: _ => none
  | .timer _ _ :: past => highest past

/-- The hours that the wheels are to show after these calls, listed newest first. -/
def reading : List Call → ℚ≥0
  | [] => 0
  | .update hours :: past => (highest (.update hours :: past)).getD 0
  | .override :: past | .timer _ _ :: past => reading past

/-! ## Digits -/

theorem rtake_leftpad {k : ℕ} {t : Text} (h : t.length ≤ k) :
    (List.replicate k '0' ++ t).rtake k = List.replicate (k - t.length) '0' ++ t := by
  rw [List.rtake, List.length_append, List.length_replicate, Nat.add_sub_cancel_left,
    List.drop_append_of_le_length (by rw [List.length_replicate]; exact h), List.drop_replicate]

theorem digitText_eq (hours : ℚ≥0) :
    digitText hours =
      List.replicate (4 - (Nat.toDigits 10 (min 9999 ⌊hours⌋₊)).length) '0' ++
        Nat.toDigits 10 (min 9999 ⌊hours⌋₊) := by
  refine rtake_leftpad ?_
  rw [Nat.length_toDigits_le_iff (by decide) (by decide)]
  exact lt_of_le_of_lt (min_le_left _ _) (by decide)

theorem length_digitText (hours : ℚ≥0) : (digitText hours).length = 4 := by
  rw [digitText, List.rtake, List.length_drop, List.length_append, List.length_replicate]
  omega

theorem isDigit_of_mem_digitText {hours : ℚ≥0} {c : Char} (h : c ∈ digitText hours) :
    c.isDigit := by
  rw [digitText_eq, List.mem_append] at h
  rcases h with zero | digits
  · rw [List.eq_of_mem_replicate zero]
    decide
  · exact Nat.isDigit_of_mem_toDigits (by decide) (by decide) digits

theorem digit_lt_ten (hours : ℚ≥0) (i : ℕ) : digit hours i < 10 := by
  have decimal : ((digitText hours).getD i '0').isDigit := by
    rw [List.getD_eq_getElem?_getD]
    cases found : (digitText hours)[i]? with
    | none => decide
    | some c => exact isDigit_of_mem_digitText (List.mem_of_getElem? found)
  simp only [Char.isDigit, Bool.and_eq_true, decide_eq_true_eq] at decimal
  have upper : ((digitText hours).getD i '0').toNat ≤ 57 := decimal.2
  have zero : '0'.toNat = 48 := rfl
  rw [digit]
  omega

/-- The four digits spell the whole hours, up to 9999. -/
theorem digits_spell (hours : ℚ≥0) :
    1000 * digit hours 0 + 100 * digit hours 1 + 10 * digit hours 2 + digit hours 3 =
      min 9999 ⌊hours⌋₊ := by
  have value : Nat.ofDigitChars 10 (digitText hours) 0 = min 9999 ⌊hours⌋₊ := by
    rw [digitText_eq, Nat.ofDigitChars_append, Nat.ofDigitChars_replicate_zero, Nat.mul_zero,
      Nat.ofDigitChars_ten_toDigits]
  obtain ⟨a, b, c, d, four⟩ := List.length_eq_four.mp (length_digitText hours)
  rw [← value]
  simp only [digit, four, Nat.ofDigitChars_cons, Nat.ofDigitChars_nil, List.getD_cons_zero,
    List.getD_cons_succ]
  omega

theorem target_lt (hours : ℚ≥0) (i : Fin 5) : target hours i < 10 * odoCell := by
  rw [target]
  split
  case isTrue =>
    have short : (digit hours i : ℚ≥0) < 10 := by exact_mod_cast digit_lt_ten hours i
    exact mul_lt_mul_of_pos_right short (by norm_num [odoCell])
  case isFalse =>
    have part : hours - ⌊hours⌋₊ < 1 := by
      rw [tsub_lt_iff_left (Nat.floor_le zero_le)]
      exact Nat.lt_floor_add_one hours
    have scaled : (hours - ⌊hours⌋₊) * 10 < 1 * 10 := mul_lt_mul_of_pos_right part (by norm_num)
    rw [one_mul] at scaled
    exact mul_lt_mul_of_pos_right scaled (by norm_num [odoCell])

theorem target_zero (i : Fin 5) : target 0 i = 0 := by
  have zeros : ∀ k < 4, digit 0 k = 0 := by
    have sum := digits_spell 0
    rw [Nat.floor_zero, Nat.min_zero] at sum
    intro k inside
    match k, inside with
    | 0, _ | 1, _ | 2, _ | 3, _ => omega
  rw [target]
  split
  case isTrue inside => rw [zeros i (by exact_mod_cast inside), Nat.cast_zero, zero_mul]
  case isFalse => simp

/-! ## One wheel -/

/-- A wheel that shows its goal, or rolls to its second zero before a timer puts it there. -/
inductive Heading (goal : ℚ≥0) : Reel → Prop
  | resting : Heading goal { pos := goal, shown := goal }
  | rolling (pos t : ℚ≥0) :
      Heading goal
        { pos, wrapping := true, pending := some goal, shown := 10 * odoCell, timers := [t] }

variable {goal : ℚ≥0} {r : Reel}

theorem Heading.shown_le (h : Heading goal r) (inside : goal < 10 * odoCell) :
    r.shown ≤ 10 * odoCell := by
  cases h with
  | resting => exact inside.le
  | rolling pos t => exact le_rfl

theorem Heading.timers_length (h : Heading goal r) : r.timers.length ≤ 1 := by
  cases h with
  | resting => exact Nat.zero_le 1
  | rolling pos t => exact le_rfl

theorem Heading.eq_of_idle (h : Heading goal r) (idle : r.timers = []) : r.shown = goal := by
  cases h with
  | resting => rfl
  | rolling pos t => cases idle

theorem Heading.setReel (h : Heading goal r) (t : ℚ≥0) : Heading t (setReel r t) := by
  cases h with
  | resting =>
      rw [Wheels.setReel, if_neg Bool.false_ne_true]
      split
      case isTrue => exact .resting
      case isFalse => exact .rolling goal t
  | rolling pos first => exact .rolling pos first

theorem Heading.forward_setReel (h : Heading goal r) (inside : goal < 10 * odoCell) (t : ℚ≥0) :
    (Wheels.setReel r t).shown < r.shown → False := by
  cases h with
  | resting =>
      rw [Wheels.setReel, if_neg Bool.false_ne_true]
      split
      case isTrue ahead => exact not_lt_of_ge ahead
      case isFalse => exact not_lt_of_ge inside.le
  | rolling pos first => exact lt_irrefl _

theorem Heading.snap (h : Heading goal r) {n : ℕ} {t : ℚ≥0} (due : r.timers[n]? = some t) :
    Heading goal (snap { r with timers := r.timers.eraseIdx n } t) ∧ r.shown = 10 * odoCell := by
  cases h with
  | resting => cases due
  | rolling pos first =>
      cases n with
      | zero => exact ⟨.resting, rfl⟩
      | succ n => cases due

/-! ## The odometer -/

/-- Every wheel heads for its digit of the hours to be shown; the last hours that were accepted are
the highest since the last override. -/
structure Tracks (past : List Call) (o : Odometer) : Prop where
  last : o.last = highest past
  heading : ∀ i, Heading (target (reading past) i) (o.reels i)

theorem Tracks.initial : Tracks [] {} where
  last := rfl
  heading i := by
    rw [reading, target_zero]
    exact .resting

variable {past : List Call} {o o' : Odometer}

/-- Hours that are not above the last ones change nothing. -/
theorem Tracks.ignored (held : Tracks past o) {hours last : ℚ≥0} (seen : o.last = some last)
    (low : hours ≤ last) : Tracks (.update hours :: past) o := by
  have best : highest past = some last := held.last ▸ seen
  have same : highest (.update hours :: past) = some last := by
    rw [highest, best, Option.elim_some, max_eq_right low]
  have shown : reading past = last := by
    clear held seen same low
    induction past with
    | nil => cases best
    | cons call past ih =>
        cases call with
        | update more => rw [reading, best, Option.getD_some]
        | override => cases best
        | timer i n => exact ih best
  refine ⟨seen.trans same.symm, ?_⟩
  rw [reading, same, Option.getD_some, ← shown]
  exact held.heading

theorem Tracks.accepted (held : Tracks past o) {hours : ℚ≥0}
    (high : ∀ last ∈ o.last, last < hours) :
    Tracks (.update hours :: past)
      { last := some hours, reels := fun i => setReel (o.reels i) (target hours i) } := by
  have best : highest (.update hours :: past) = some hours := by
    rw [highest, ← held.last]
    cases seen : o.last with
    | none => rfl
    | some last => rw [Option.elim_some, max_eq_left (high last seen).le]
  refine ⟨best.symm, fun i => ?_⟩
  rw [reading, best, Option.getD_some]
  exact (held.heading i).setReel _

theorem Tracks.step (held : Tracks past o) {call : Call} (h : o.step call = some o') :
    Tracks (call :: past) o' := by
  cases call with
  | update hours =>
      cases h
      rw [updateOdometer]
      split
      case isTrue low =>
        obtain ⟨last, seen, le⟩ := (Option.any_eq_true _ _).mp low
        exact held.ignored seen (of_decide_eq_true le)
      case isFalse high =>
        refine held.accepted fun last seen => lt_of_not_ge fun le => high ?_
        exact (Option.any_eq_true _ _).mpr ⟨last, seen, decide_eq_true le⟩
  | override =>
      cases h
      exact ⟨rfl, held.heading⟩
  | timer i n =>
      obtain ⟨t, due, rfl⟩ := Option.map_eq_some_iff.mp h
      refine ⟨held.last, fun j => ?_⟩
      dsimp only
      by_cases same : j = i
      · subst same
        rw [Function.update_self]
        exact ((held.heading j).snap due).1
      · rw [Function.update_of_ne same]
        exact held.heading j

theorem tracks_of_run {calls : List Call} (h : run Odometer.step {} calls = some o) :
    Tracks calls.reverse o := by
  refine run_induction (P := fun calls o => Tracks calls.reverse o) ?_ Tracks.initial h
  intro as a m s' _ held stepped
  rw [List.reverse_append]
  exact held.step stepped

theorem Tracks.forward (held : Tracks past o) {call : Call} (h : o.step call = some o') (i : Fin 5)
    (back : (o'.reels i).shown < (o.reels i).shown) :
    (o.reels i).shown = 10 * odoCell ∧ ∃ n, call = .timer i n := by
  cases call with
  | update hours =>
      cases h
      rw [updateOdometer] at back
      split at back
      case isTrue => exact absurd back (lt_irrefl _)
      case isFalse =>
        exact ((held.heading i).forward_setReel (target_lt _ i) _ back).elim
  | override =>
      cases h
      exact absurd back (lt_irrefl _)
  | timer j n =>
      obtain ⟨t, due, rfl⟩ := Option.map_eq_some_iff.mp h
      by_cases same : i = j
      · subst same
        exact ⟨((held.heading i).snap due).2, n, rfl⟩
      · dsimp only at back
        rw [Function.update_of_ne same] at back
        exact absurd back (lt_irrefl _)

/-- The wheels show these hours, up to 9999 whole ones. -/
def Shows (reels : Fin 5 → Reel) (hours : ℚ≥0) : Prop :=
  ∃ d : ℕ → ℕ, (∀ i, d i < 10) ∧
    1000 * d 0 + 100 * d 1 + 10 * d 2 + d 3 = min 9999 ⌊hours⌋₊ ∧
    (∀ i : Fin 4, (reels i.castSucc).shown = d i * odoCell) ∧
    (reels 4).shown = (hours - ⌊hours⌋₊) * (10 * odoCell)

/-- Whatever is shown in whatever order and whenever the timers fire: no wheel leaves its strip or
has two timers, a wheel is put back only from its second zero, by its timer, and once no timer is
outstanding the wheels show the highest hours since the last override. -/
theorem odometer_of_run {calls : List Call} (h : run Odometer.step {} calls = some o) :
    (∀ i, (o.reels i).shown ≤ 10 * odoCell ∧ (o.reels i).timers.length ≤ 1) ∧
      (∀ call o' i, o.step call = some o' → (o'.reels i).shown < (o.reels i).shown →
        (o.reels i).shown = 10 * odoCell ∧ ∃ n, call = .timer i n) ∧
      ((∀ i, (o.reels i).timers = []) → Shows o.reels (reading calls.reverse)) := by
  have held := tracks_of_run h
  refine ⟨fun i => ⟨(held.heading i).shown_le (target_lt _ i), (held.heading i).timers_length⟩,
    fun call o' i stepped => held.forward stepped i, fun idle => ?_⟩
  have settled : ∀ i, (o.reels i).shown = target (reading calls.reverse) i := fun i =>
    (held.heading i).eq_of_idle (idle i)
  refine ⟨fun i => digit (reading calls.reverse) i, fun i => digit_lt_ten _ _, digits_spell _,
    fun i => ?_, ?_⟩
  · have whole : i.castSucc < (4 : Fin 5) := Fin.castSucc_lt_last i
    rw [settled, target, if_pos whole, Fin.val_castSucc]
  · rw [settled, target, if_neg (by decide), mul_assoc]

/-- Past ten hours, with one wheel's timer before the next hours and the other's after them. -/
def pastTen : List Call :=
  [.update (99 / 10), .update 10, .timer 3 0, .update 11, .timer 4 0]

theorem pastTen_shown :
    ∃ o, run Odometer.step {} pastTen = some o ∧
      ((∀ i, (o.reels i).shown ≤ 10 * odoCell ∧ (o.reels i).timers.length ≤ 1) ∧
        (∀ call o' i, o.step call = some o' → (o'.reels i).shown < (o.reels i).shown →
          (o.reels i).shown = 10 * odoCell ∧ ∃ n, call = .timer i n) ∧
        ((∀ i, (o.reels i).timers = []) → Shows o.reels (reading pastTen.reverse))) := by
  have ran : (run Odometer.step {} pastTen).isSome := by decide +kernel
  obtain ⟨o, h⟩ := Option.isSome_iff_exists.mp ran
  exact ⟨o, h, odometer_of_run h⟩

end GeneratorPi.Wheels
