import GeneratorPi.Lib.Trace
import Mathlib

/-!
# The power switch of a page

The switch that cranks the engine, the dialog that asks before it does, and the loop that waits for
the server to report the new state (`app.js`).  The dialog also asks before a restart and a factory
reset, so what a page has confirmed can settle over another question.  The update windows are here
for what they do to the rest of the page: shown they make it inert, put away they make it live.

In every run of clicks, keys, answers and timers, in which no update window is put away over an open
dialog: a page sends a start, a restart or a factory reset only on a confirmation of the question
last put, with no cancel since (`confirmed_of_run`); and at most one start or stop is going on, the
switch is disabled just as long as it is, and it ends (`operation_of_run`).
-/

namespace GeneratorPi.PowerSwitch

open Trace

/-! ## The page (app.js) -/

/-- What the dialog asks for. -/
inductive Ask where
  | start
  | restart
  | factoryReset
  deriving DecidableEq

/-- What a request comes to. -/
inductive Answer where
  /-- `success===false` -/
  | refused
  | accepted
  | failed

/-- A call of `settle`; `asked` where its request for the state is out, and not its timer. -/
structure Loop where
  target : Bool
  n : ℕ := 0
  asked : Bool := false

structure Panel where
  busy : Bool := false
  confirmOpen : Bool := false
  /-- `sw.checked` -/
  checked : Bool
  /-- `sw.disabled` -/
  disabled : Bool := false
  /-- The dialog is shown. -/
  shown : Bool := false
  /-- The regions behind it are inert. -/
  inert : Bool := false
  /-- Its button shows the spinner. -/
  loading : Bool := false
  cancelDisabled : Bool := false
  cfConfirm : Option Ask := none
  /-- `_cfCancel` puts the switch back. -/
  cfCancel : Bool := false
  /-- Confirmed requests in flight. -/
  asking : Ask → ℕ := fun _ => 0
  stops : ℕ := 0
  loops : List Loop := []

/-- `showConfirm` -/
def Panel.showConfirm (p : Panel) (a : Ask) (reverts : Bool) : Panel :=
  { p with
    confirmOpen := true
    loading := false
    cancelDisabled := false
    cfConfirm := some a
    cfCancel := reverts
    shown := true
    inert := true }

/-- `closeConfirm` -/
def Panel.closeConfirm (p : Panel) (runCancel : Bool) : Panel :=
  { p with
    confirmOpen := false
    shown := false
    inert := false
    cfConfirm := none
    cfCancel := false
    checked := if runCancel && p.cfCancel then false else p.checked }

/-- What `applyState` does to the switch; an object without `running` leaves it off. -/
def Panel.applyState (p : Panel) (running : Option Bool) : Panel :=
  if !p.busy && !p.confirmOpen then { p with checked := running.getD false } else p

/-- `settle` -/
def Panel.settle (p : Panel) (target : Bool) : Panel :=
  { p with loops := p.loops ++ [{ target }] }

def Panel.ask (p : Panel) (a : Ask) : Panel :=
  { p with asking := Function.update p.asking a (p.asking a + 1) }

/-- The button's spinner, while the promise of a confirmation is pending. -/
def Panel.hold (p : Panel) : Panel := { p with loading := true, cancelDisabled := true }

def Panel.release (p : Panel) : Panel := { p with loading := false, cancelDisabled := false }

/-- `doStart` -/
def Panel.doStart (p : Panel) : Panel := { p.ask .start with busy := true, disabled := true }

/-- `doStop` -/
def Panel.doStop (p : Panel) : Panel :=
  { p with busy := true, disabled := true, checked := false, stops := p.stops + 1 }

inductive Act where
  /-- The switch is flipped. -/
  | flip
  | restartClick
  | factoryClick
  | confirmClick
  | cancelClick
  | escape
  | backdrop
  /-- A confirmed request settles, and with it the button's promise. -/
  | asked (a : Ask) (answer : Answer)
  | stopped (answer : Answer)
  | timer (i : ℕ)
  /-- `fetchState` calls back with `null`, or with a state and its `running`. -/
  | answered (i : ℕ) (s : Option (Option Bool))
  /-- A routine poll. -/
  | polled (running : Option Bool)
  | windowShown
  | windowHidden

/-- What a request for a start does when it settles, before the dialog is closed. -/
def Panel.started (p : Panel) : Answer → Panel
  | .accepted => p.settle true
  | .refused | .failed => { p with busy := false, disabled := false, checked := false }

def Panel.step (p : Panel) : Act → Option Panel
  | .flip =>
      if p.disabled || p.inert then none
      else if p.checked then some { p with checked := false }.doStop
      else some ({ p with checked := true }.showConfirm .start true)
  | .restartClick => if p.inert then none else some (p.showConfirm .restart false)
  | .factoryClick => if p.inert then none else some (p.showConfirm .factoryReset false)
  | .confirmClick =>
      if !p.shown then none
      else if p.loading then some p
      else
        match p.cfConfirm with
        | none => some (p.hold.release.closeConfirm false)
        | some .start => some p.hold.doStart
        | some a => some (p.hold.ask a)
  | .cancelClick => if p.shown && !p.cancelDisabled then some (p.closeConfirm true) else none
  | .escape => if p.confirmOpen then some (p.closeConfirm true) else none
  | .backdrop => if p.shown then some (p.closeConfirm true) else none
  | .asked a answer =>
      if p.asking a = 0 then none
      else
        let p := { p with asking := Function.update p.asking a (p.asking a - 1) }
        let p := if a = .start then p.started answer else p
        some (p.release.closeConfirm false)
  | .stopped answer =>
      if p.stops = 0 then none
      else
        let p := { p with stops := p.stops - 1 }
        match answer with
        | .accepted => some (p.settle false)
        | .refused | .failed => some { p with busy := false, disabled := false }
  | .timer i => do
      let l ← p.loops[i]?
      if l.asked then none else some { p with loops := p.loops.set i { l with asked := true } }
  | .answered i s => do
      let l ← p.loops[i]?
      if !l.asked then none
      else
        let p := s.elim p p.applyState
        if s = some (some l.target) ∨ 20 < l.n + 1 then
          let p := { p with busy := false, disabled := false, loops := p.loops.eraseIdx i }
          some (s.elim p p.applyState)
        else some { p with loops := p.loops.set i { l with n := l.n + 1, asked := false } }
  | .polled running => some (p.applyState running)
  | .windowShown => some { p with inert := true }
  | .windowHidden => some { p with inert := false }

/-- No update window is put away over the dialog. -/
def Undisturbed (p : Panel) : Act → Prop
  | .windowHidden => p.confirmOpen = false
  | _ => True

instance Undisturbed.decidable (p : Panel) : ∀ act, Decidable (Undisturbed p act)
  | .windowHidden => inferInstanceAs (Decidable (p.confirmOpen = false))
  | .flip | .restartClick | .factoryClick | .confirmClick | .cancelClick | .escape | .backdrop
  | .asked _ _ | .stopped _ | .timer _ | .answered _ _ | .polled _ | .windowShown => isTrue trivial

/-! ## The operation -/

/-- Starts and stops that are going on: requested, or waiting for the state. -/
def Panel.operations (p : Panel) : ℕ := p.asking .start + p.stops + p.loops.length

structure Panel.Sound (p : Panel) : Prop where
  shown : p.shown = p.confirmOpen
  asks : p.cfConfirm.isSome = p.confirmOpen
  inert : p.confirmOpen = true → p.inert = true
  busy : p.busy = p.disabled
  operations : p.operations = p.disabled.toNat
  /-- A start is not asked for while one is going on. -/
  idle : p.cfConfirm = some .start → p.loading = false → p.disabled = false
  tries : ∀ l ∈ p.loops, l.n ≤ 20

variable {p q : Panel} {act : Act} {a : Ask}

theorem Panel.applyState_eq (p : Panel) (running : Option Bool) :
    ∃ checked, p.applyState running = { p with checked } := by
  unfold Panel.applyState
  split
  · exact ⟨_, rfl⟩
  · exact ⟨p.checked, rfl⟩

theorem Panel.Sound.initial (checked : Bool) : Panel.Sound { checked } :=
  ⟨rfl, rfl, fun open_ => (nomatch open_), rfl, rfl, fun same => (nomatch same),
    fun _ mem => absurd mem List.not_mem_nil⟩

theorem Panel.Sound.showConfirm (sound : p.Sound) (reverts : Bool)
    (free : a = .start → p.disabled = false) : (p.showConfirm a reverts).Sound :=
  ⟨rfl, rfl, fun _ => rfl, sound.busy, sound.operations,
    fun same _ => free (Option.some.inj same), sound.tries⟩

/-- Closing the dialog settles every question about it. -/
theorem Panel.Sound.of_closed (busy : p.busy = p.disabled)
    (operations : p.operations = p.disabled.toNat) (tries : ∀ l ∈ p.loops, l.n ≤ 20)
    (runCancel : Bool) : (p.closeConfirm runCancel).Sound :=
  ⟨rfl, rfl, fun open_ => (nomatch open_), busy, operations, fun same => (nomatch same), tries⟩

theorem Panel.Sound.closeConfirm (sound : p.Sound) (runCancel : Bool) :
    (p.closeConfirm runCancel).Sound :=
  Panel.Sound.of_closed sound.busy sound.operations sound.tries runCancel

theorem Panel.Sound.with_checked (sound : p.Sound) (checked : Bool) :
    Panel.Sound { p with checked } :=
  ⟨sound.shown, sound.asks, sound.inert, sound.busy, sound.operations, sound.idle, sound.tries⟩

theorem Panel.Sound.applyState (sound : p.Sound) (running : Option Bool) :
    (p.applyState running).Sound := by
  obtain ⟨checked, same⟩ := p.applyState_eq running
  rw [same]
  exact sound.with_checked checked

/-- The switch takes a flip only with no dialog open and no operation going on. -/
theorem Panel.Sound.closed_of_live (sound : p.Sound) (live : p.inert = false) :
    p.confirmOpen = false := by
  by_contra open_
  rw [sound.inert (eq_true_of_ne_false open_)] at live
  exact (nomatch live)

theorem Panel.Sound.not_asking_of_closed (sound : p.Sound) (closed : p.confirmOpen = false) :
    p.cfConfirm = none := by
  rw [← Option.isNone_iff_eq_none, ← Option.not_isSome, sound.asks, closed]
  rfl

theorem Panel.Sound.flip (sound : p.Sound) (stepped : p.step .flip = some q) :
    p.confirmOpen = false ∧ p.disabled = false ∧
      (p.checked = true ∧ q = { p with checked := false }.doStop ∨
        p.checked = false ∧ q = { p with checked := true }.showConfirm .start true) := by
  simp only [Panel.step] at stepped
  split at stepped
  · exact (nomatch stepped)
  next takes =>
    obtain ⟨enabled, live⟩ := Bool.or_eq_false_iff.1 (eq_false_of_ne_true takes)
    refine ⟨sound.closed_of_live live, enabled, ?_⟩
    split at stepped
    next on => exact Or.inl ⟨on, (Option.some.inj stepped).symm⟩
    next off => exact Or.inr ⟨eq_false_of_ne_true off, (Option.some.inj stepped).symm⟩

/-- A click on the dialog's button, where it is not held, sends what was asked for. -/
theorem Panel.Sound.confirm (sound : p.Sound) (stepped : p.step .confirmClick = some q) :
    p.loading = true ∧ q = p ∨
      ∃ a, p.cfConfirm = some a ∧ p.loading = false ∧
        (a = .start ∧ q = p.hold.doStart ∨ a ≠ .start ∧ q = p.hold.ask a) := by
  simp only [Panel.step] at stepped
  split at stepped
  · exact (nomatch stepped)
  next takes =>
    have shown : p.shown = true := by simpa using takes
    split at stepped
    next loading => exact Or.inl ⟨loading, (Option.some.inj stepped).symm⟩
    next ready =>
      have asks := sound.asks
      rw [← sound.shown, shown] at asks
      obtain ⟨a, asked⟩ := Option.isSome_iff_exists.1 asks
      refine Or.inr ⟨a, asked, eq_false_of_ne_true ready, ?_⟩
      rw [asked] at stepped
      cases a with
      | start => exact Or.inl ⟨rfl, (Option.some.inj stepped).symm⟩
      | restart => exact Or.inr ⟨fun same => (nomatch same), (Option.some.inj stepped).symm⟩
      | factoryReset => exact Or.inr ⟨fun same => (nomatch same), (Option.some.inj stepped).symm⟩

theorem Panel.Sound.asked {answer : Answer} (stepped : p.step (.asked a answer) = some q) :
    0 < p.asking a ∧ ∃ p' : Panel, q = p'.closeConfirm false ∧
      p'.asking = Function.update p.asking a (p.asking a - 1) ∧ p'.stops = p.stops ∧
      (p'.busy = p.busy ∧ p'.disabled = p.disabled ∧
          (a ≠ .start ∧ p'.loops = p.loops ∨ a = .start ∧
            p'.loops = p.loops ++ [⟨true, 0, false⟩]) ∨
        a = .start ∧ p'.busy = false ∧ p'.disabled = false ∧ p'.loops = p.loops) := by
  simp only [Panel.step] at stepped
  split at stepped
  · exact (nomatch stepped)
  next some_asked =>
    refine ⟨Nat.pos_of_ne_zero some_asked, _, (Option.some.inj stepped).symm, ?_⟩
    by_cases start : a = .start
    · subst start
      cases answer <;> simp [Panel.release, Panel.started, Panel.settle]
    · simp [Panel.release, start]

theorem Panel.step_stopped {answer : Answer} (stepped : p.step (.stopped answer) = some q) :
    0 < p.stops ∧
      (q = { p with stops := p.stops - 1 }.settle false ∨
        q = { p with stops := p.stops - 1, busy := false, disabled := false }) := by
  simp only [Panel.step] at stepped
  split at stepped
  · exact (nomatch stepped)
  next some_stop =>
    refine ⟨Nat.pos_of_ne_zero some_stop, ?_⟩
    cases answer with
    | accepted => exact Or.inl (Option.some.inj stepped).symm
    | refused | failed => exact Or.inr (Option.some.inj stepped).symm

theorem Panel.step_timer {i : ℕ} (stepped : p.step (.timer i) = some q) :
    ∃ l, p.loops[i]? = some l ∧ l.asked = false ∧
      q = { p with loops := p.loops.set i { l with asked := true } } := by
  simp only [Panel.step] at stepped
  obtain ⟨l, at_i, stepped⟩ := Option.bind_eq_some_iff.1 stepped
  split at stepped
  · exact (nomatch stepped)
  next resting => exact ⟨l, at_i, eq_false_of_ne_true resting, (Option.some.inj stepped).symm⟩

/-- A state for a waiting loop: the loop ends and the switch is live again, or it goes on with
another try, at most 20 times. -/
theorem Panel.step_answered {i : ℕ} {s : Option (Option Bool)}
    (stepped : p.step (.answered i s) = some q) :
    ∃ l, p.loops[i]? = some l ∧ l.asked = true ∧ ∃ checked,
      (q = { p with checked, busy := false, disabled := false, loops := p.loops.eraseIdx i } ∨
        l.n < 20 ∧
          q =
            { p with
              checked
              loops := p.loops.set i { l with n := l.n + 1, asked := false } }) := by
  simp only [Panel.step] at stepped
  obtain ⟨l, at_i, stepped⟩ := Option.bind_eq_some_iff.1 stepped
  have applied (p : Panel) : ∃ checked, s.elim p p.applyState = { p with checked } := by
    cases s with
    | none => exact ⟨p.checked, rfl⟩
    | some running => exact p.applyState_eq running
  obtain ⟨checked, here⟩ := applied p
  split at stepped
  · exact (nomatch stepped)
  next waiting =>
    refine ⟨l, at_i, by simpa using waiting, ?_⟩
    simp only [here] at stepped
    split at stepped
    · obtain ⟨checked', last⟩ := applied
        { p with checked, busy := false, disabled := false, loops := p.loops.eraseIdx i }
      rw [last] at stepped
      exact ⟨checked', Or.inl (Option.some.inj stepped).symm⟩
    next goes_on =>
      refine ⟨checked, Or.inr ⟨?_, (Option.some.inj stepped).symm⟩⟩
      have := not_or.1 goes_on
      omega

theorem Panel.operations_ask_of_ne (p : Panel) (other : a ≠ .start) :
    (p.ask a).operations = p.operations := by
  simp [Panel.operations, Panel.ask, Function.update_of_ne other.symm]

theorem mem_set_tries {loops : List Loop} {i : ℕ} {l' : Loop} (tries : ∀ l ∈ loops, l.n ≤ 20)
    (few : l'.n ≤ 20) : ∀ l ∈ loops.set i l', l.n ≤ 20 := by
  intro l mem
  rcases List.mem_or_eq_of_mem_set mem with old | rfl
  · exact tries l old
  · exact few

theorem Panel.Sound.step (sound : p.Sound) (calm : Undisturbed p act)
    (stepped : p.step act = some q) : q.Sound := by
  have total := sound.operations
  cases act with
  | flip =>
      obtain ⟨closed, enabled, ⟨-, rfl⟩ | ⟨-, rfl⟩⟩ := sound.flip stepped
      · refine ⟨sound.shown, sound.asks, sound.inert, rfl, ?_, fun same => ?_, sound.tries⟩
        · rw [enabled] at total
          simp only [Panel.operations, Panel.doStop, Bool.toNat_true, Bool.toNat_false] at total ⊢
          omega
        · rw [show p.cfConfirm = none from sound.not_asking_of_closed closed] at same
          exact (nomatch same)
      · exact (sound.with_checked true).showConfirm true fun _ => enabled
  | restartClick =>
      simp only [Panel.step, Option.ite_none_left_eq_some, Option.some.injEq] at stepped
      obtain ⟨-, rfl⟩ := stepped
      exact sound.showConfirm false fun same => (nomatch same)
  | factoryClick =>
      simp only [Panel.step, Option.ite_none_left_eq_some, Option.some.injEq] at stepped
      obtain ⟨-, rfl⟩ := stepped
      exact sound.showConfirm false fun same => (nomatch same)
  | confirmClick =>
      obtain ⟨-, rfl⟩ | ⟨a, asked, ready, ⟨rfl, rfl⟩ | ⟨other, rfl⟩⟩ := sound.confirm stepped
      · exact sound
      · have idle := sound.idle asked ready
        refine ⟨sound.shown, sound.asks, sound.inert, rfl, ?_, fun _ ready => (nomatch ready),
          sound.tries⟩
        rw [idle] at total
        simp only [Panel.operations, Panel.doStart, Panel.hold, Panel.ask, Function.update_self,
          Bool.toNat_true, Bool.toNat_false] at total ⊢
        omega
      · refine ⟨sound.shown, sound.asks, sound.inert, sound.busy, ?_,
          fun _ ready => (nomatch ready),
          sound.tries⟩
        rw [Panel.operations_ask_of_ne _ other]
        exact total
  | cancelClick =>
      simp only [Panel.step, Option.ite_none_right_eq_some, Option.some.injEq] at stepped
      obtain ⟨-, rfl⟩ := stepped
      exact sound.closeConfirm true
  | escape =>
      simp only [Panel.step, Option.ite_none_right_eq_some, Option.some.injEq] at stepped
      obtain ⟨-, rfl⟩ := stepped
      exact sound.closeConfirm true
  | backdrop =>
      simp only [Panel.step, Option.ite_none_right_eq_some, Option.some.injEq] at stepped
      obtain ⟨-, rfl⟩ := stepped
      exact sound.closeConfirm true
  | asked a answer =>
      obtain ⟨some_asked, p', rfl, asking, stops, ended⟩ := Panel.Sound.asked stepped
      unfold Panel.operations at total
      obtain ⟨busy, disabled, ⟨other, loops⟩ | ⟨rfl, loops⟩⟩ | ⟨rfl, busy, disabled, loops⟩ := ended
      · refine Panel.Sound.of_closed (by rw [busy, disabled, sound.busy]) ?_
          (by rw [loops]; exact sound.tries) false
        rw [Panel.operations, asking, stops, loops, disabled,
          Function.update_of_ne other.symm, total]
      · refine Panel.Sound.of_closed (by rw [busy, disabled, sound.busy]) ?_ ?_ false
        · rw [Panel.operations, asking, stops, loops, disabled, Function.update_self,
            List.length_append, List.length_singleton]
          omega
        · rw [loops]
          intro l mem
          rcases List.mem_append.1 mem with old | new
          · exact sound.tries l old
          · rw [List.mem_singleton.1 new]
            exact Nat.zero_le _
      · refine Panel.Sound.of_closed (by rw [busy, disabled]) ?_ (by rw [loops]; exact sound.tries)
          false
        rw [Panel.operations, asking, stops, loops, disabled, Function.update_self]
        have := Bool.toNat_le p.disabled
        simp only [Bool.toNat_false]
        omega
  | stopped answer =>
      unfold Panel.operations at total
      have one := Bool.toNat_le p.disabled
      obtain ⟨some_stop, rfl | rfl⟩ := Panel.step_stopped stepped
      · refine ⟨sound.shown, sound.asks, sound.inert, sound.busy, ?_, sound.idle, ?_⟩
        · simp only [Panel.operations, Panel.settle, List.length_append, List.length_singleton]
          omega
        · intro l mem
          rcases List.mem_append.1 mem with old | new
          · exact sound.tries l old
          · rw [List.mem_singleton.1 new]
            exact Nat.zero_le _
      · refine ⟨sound.shown, sound.asks, sound.inert, rfl, ?_, fun _ _ => rfl, sound.tries⟩
        simp only [Panel.operations, Bool.toNat_false]
        omega
  | timer i =>
      obtain ⟨l, at_i, -, rfl⟩ := Panel.step_timer stepped
      refine ⟨sound.shown, sound.asks, sound.inert, sound.busy, ?_, sound.idle,
        mem_set_tries sound.tries (sound.tries l (List.mem_of_getElem? at_i))⟩
      simpa only [Panel.operations, List.length_set] using total
  | answered i s =>
      obtain ⟨l, at_i, -, checked, rfl | ⟨few, rfl⟩⟩ := Panel.step_answered stepped
      · refine ⟨sound.shown, sound.asks, sound.inert, rfl, ?_, fun _ _ => rfl,
          fun l mem => sound.tries l (List.mem_of_mem_eraseIdx mem)⟩
        have i_lt := (List.getElem?_eq_some_iff.1 at_i).1
        have one := Bool.toNat_le p.disabled
        unfold Panel.operations at total
        simp only [Panel.operations, Bool.toNat_false, List.length_eraseIdx_of_lt i_lt]
        omega
      · refine ⟨sound.shown, sound.asks, sound.inert, sound.busy, ?_, sound.idle,
          mem_set_tries sound.tries few⟩
        simpa only [Panel.operations, List.length_set] using total
  | polled running =>
      cases stepped
      exact sound.applyState running
  | windowShown =>
      cases stepped
      exact ⟨sound.shown, sound.asks, fun _ => rfl, sound.busy, total, sound.idle, sound.tries⟩
  | windowHidden =>
      cases stepped
      have closed : p.confirmOpen = false := calm
      refine ⟨sound.shown, sound.asks, fun open_ => ?_, sound.busy, total, sound.idle, sound.tries⟩
      rw [show p.confirmOpen = true from open_] at closed
      exact (nomatch closed)

/-! ## Confirmations -/

/-- The click that puts the question. -/
def Ask.opener : Ask → Act
  | .start => .flip
  | .restart => .restartClick
  | .factoryReset => .factoryClick

/-- Not a click or a key, and not the end of a confirmed request, which closes the dialog. -/
def Act.quiet : Act → Bool
  | .stopped _ | .timer _ | .answered _ _ | .polled _ | .windowShown | .windowHidden => true
  | _ => false

/-- `acts` put the question `a`, from a switch that was off where it is for a start, and nothing
since was a click or a key. -/
def Put (checked : Bool) (acts : List Act) (a : Ask) : Prop :=
  ∃ before between p₀, acts = before ++ a.opener :: between ∧ (∀ b ∈ between, b.quiet = true) ∧
    run Panel.step { checked } before = some p₀ ∧ (a = .start → p₀.checked = false)

theorem Panel.quiet_keeps (quiet : act.quiet = true) (stepped : p.step act = some q) :
    q.cfConfirm = p.cfConfirm ∧ q.loading = p.loading ∧ q.asking = p.asking ∧
    q.stops ≤ p.stops := by
  cases act with
  | stopped answer =>
      obtain ⟨-, rfl | rfl⟩ := Panel.step_stopped stepped
      · exact ⟨rfl, rfl, rfl, Nat.sub_le _ _⟩
      · exact ⟨rfl, rfl, rfl, Nat.sub_le _ _⟩
  | timer i =>
      obtain ⟨l, -, -, rfl⟩ := Panel.step_timer stepped
      exact ⟨rfl, rfl, rfl, Nat.le_refl _⟩
  | answered i s =>
      obtain ⟨l, -, -, checked, rfl | ⟨-, rfl⟩⟩ := Panel.step_answered stepped
      · exact ⟨rfl, rfl, rfl, Nat.le_refl _⟩
      · exact ⟨rfl, rfl, rfl, Nat.le_refl _⟩
  | polled running =>
      cases stepped
      obtain ⟨checked, same⟩ := p.applyState_eq running
      rw [same]
      exact ⟨rfl, rfl, rfl, Nat.le_refl _⟩
  | windowShown | windowHidden =>
      cases stepped
      exact ⟨rfl, rfl, rfl, Nat.le_refl _⟩
  | _ => exact (nomatch quiet)

/-- A question that stands open after a click or a key, and is not confirmed, was put by it. -/
theorem Panel.Sound.opened (sound : p.Sound) (loud : act.quiet = false)
    (stepped : p.step act = some q) (asks : q.cfConfirm = some a) (ready : q.loading = false) :
    act = a.opener ∧ (a = .start → p.checked = false) := by
  cases act with
  | flip =>
      obtain ⟨closed, -, ⟨-, rfl⟩ | ⟨off, rfl⟩⟩ := sound.flip stepped
      · have none_asked := sound.not_asking_of_closed closed
        rw [show p.cfConfirm = some a from asks] at none_asked
        exact (nomatch none_asked)
      · cases asks
        exact ⟨rfl, fun _ => off⟩
  | restartClick =>
      simp only [Panel.step, Option.ite_none_left_eq_some, Option.some.injEq] at stepped
      obtain ⟨-, rfl⟩ := stepped
      cases asks
      exact ⟨rfl, fun same => (nomatch same)⟩
  | factoryClick =>
      simp only [Panel.step, Option.ite_none_left_eq_some, Option.some.injEq] at stepped
      obtain ⟨-, rfl⟩ := stepped
      cases asks
      exact ⟨rfl, fun same => (nomatch same)⟩
  | confirmClick =>
      obtain ⟨loading, rfl⟩ | ⟨_, -, -, ⟨-, rfl⟩ | ⟨-, rfl⟩⟩ := sound.confirm stepped
      · rw [loading] at ready
        exact (nomatch ready)
      · exact (nomatch ready)
      · exact (nomatch ready)
  | cancelClick | escape | backdrop =>
      simp only [Panel.step, Option.ite_none_right_eq_some, Option.some.injEq] at stepped
      obtain ⟨-, rfl⟩ := stepped
      exact (nomatch asks)
  | asked b answer =>
      obtain ⟨-, p', rfl, -⟩ := Panel.Sound.asked stepped
      exact (nomatch asks)
  | _ => exact (nomatch loud)

theorem put_of_run {checked : Bool} {acts : List Act} (h : run Panel.step { checked } acts = some p)
    (calm : Meets Panel.step Undisturbed { checked } acts) :
    p.Sound ∧ (p.cfConfirm = some a → p.loading = false → Put checked acts a) := by
  refine run_induction_of_meets (P := fun acts p => p.Sound ∧
    (p.cfConfirm = some a → p.loading = false → Put checked acts a)) ?_ ?_ calm h
  · rintro as act p q before ⟨sound, put⟩ calm stepped
    refine ⟨sound.step calm stepped, fun asks ready => ?_⟩
    cases loud : act.quiet with
    | true =>
        obtain ⟨same, same', -⟩ := Panel.quiet_keeps loud stepped
        obtain ⟨front, between, p₀, rfl, quiet, ran, off⟩ :=
          put (same.symm.trans asks) (same'.symm.trans ready)
        refine ⟨front, between ++ [act], p₀, by simp, fun b mem => ?_, ran, off⟩
        rcases List.mem_append.1 mem with old | new
        · exact quiet b old
        · rw [List.mem_singleton.1 new]
          exact loud
    | false =>
        obtain ⟨rfl, off⟩ := sound.opened loud stepped asks ready
        exact ⟨as, [], p, rfl, fun b mem => absurd mem List.not_mem_nil, before, off⟩
  · exact ⟨Panel.Sound.initial checked, fun asks => (nomatch asks)⟩

theorem Panel.ask_asking {b : Ask} (more : p.asking a < (p.ask b).asking a) : a = b := by
  by_contra other
  simp only [Panel.ask, Function.update_of_ne other] at more
  exact Nat.lt_irrefl _ more

/-- A request of the dialog goes out on a click of its button, and a stop on a flip of the
switch. -/
theorem Panel.Sound.sends (sound : p.Sound) (stepped : p.step act = some q) :
    (∀ a, p.asking a < q.asking a →
      act = .confirmClick ∧ p.cfConfirm = some a ∧ p.loading = false) ∧
      (p.stops < q.stops → act = .flip ∧ p.checked = true) := by
  have nothing (asking : q.asking = p.asking) (stops : q.stops ≤ p.stops) :
      (∀ a, p.asking a < q.asking a →
        act = .confirmClick ∧ p.cfConfirm = some a ∧ p.loading = false) ∧
        (p.stops < q.stops → act = .flip ∧ p.checked = true) :=
    ⟨fun a more => absurd more (by rw [asking]; exact Nat.lt_irrefl _),
      fun more => absurd more (Nat.not_lt.2 stops)⟩
  cases quiet : act.quiet with
  | true =>
      obtain ⟨-, -, same, fewer⟩ := Panel.quiet_keeps quiet stepped
      exact nothing same fewer
  | false =>
      cases act with
      | flip =>
          obtain ⟨-, -, ⟨on, rfl⟩ | ⟨off, rfl⟩⟩ := sound.flip stepped
          · exact ⟨fun a more => absurd more (Nat.lt_irrefl _), fun _ => ⟨rfl, on⟩⟩
          · exact nothing rfl (Nat.le_refl _)
      | restartClick | factoryClick =>
          simp only [Panel.step, Option.ite_none_left_eq_some, Option.some.injEq] at stepped
          obtain ⟨-, rfl⟩ := stepped
          exact nothing rfl (Nat.le_refl _)
      | confirmClick =>
          obtain ⟨-, rfl⟩ | ⟨b, asked, ready, ⟨rfl, rfl⟩ | ⟨-, rfl⟩⟩ := sound.confirm stepped
          · exact nothing rfl (Nat.le_refl _)
          · refine ⟨fun a more => ⟨rfl, ?_, ready⟩, fun more => absurd more (Nat.lt_irrefl _)⟩
            rw [asked, Panel.ask_asking (p := p.hold) more]
          · refine ⟨fun a more => ⟨rfl, ?_, ready⟩, fun more => absurd more (Nat.lt_irrefl _)⟩
            rw [asked, Panel.ask_asking (p := p.hold) more]
      | cancelClick | escape | backdrop =>
          simp only [Panel.step, Option.ite_none_right_eq_some, Option.some.injEq] at stepped
          obtain ⟨-, rfl⟩ := stepped
          exact nothing rfl (Nat.le_refl _)
      | asked b answer =>
          obtain ⟨-, p', rfl, asking, stops, -⟩ := Panel.Sound.asked stepped
          refine ⟨fun a more => ?_, fun more => absurd more (Nat.not_lt.2 (Nat.le_of_eq stops))⟩
          rw [show (p'.closeConfirm false).asking = p'.asking from rfl, asking] at more
          by_cases same : a = b
          · rw [same, Function.update_self] at more
            omega
          · rw [Function.update_of_ne same] at more
            exact absurd more (Nat.lt_irrefl _)
      | _ => exact (nomatch quiet)

/-- A step sends a request that the dialog asks for only on a click of its button, where the last
click or key before it put that question; and a stop only on a flip of the switch that was on. -/
theorem confirmed_of_run {checked : Bool} {acts : List Act}
    (h : run Panel.step { checked } acts = some p)
    (calm : Meets Panel.step Undisturbed { checked } acts) (stepped : p.step act = some q) :
    (∀ a, p.asking a < q.asking a → act = .confirmClick ∧ Put checked acts a) ∧
      (p.stops < q.stops → act = .flip ∧ p.checked = true) := by
  have sound : p.Sound := (put_of_run (a := .start) h calm).1
  obtain ⟨sends, stops⟩ := sound.sends stepped
  refine ⟨fun a more => ?_, stops⟩
  obtain ⟨click, asks, ready⟩ := sends a more
  exact ⟨click, (put_of_run h calm).2 asks ready⟩

/-- A start is asked for and cancelled, asked for again and confirmed while the page polls. -/
def askedTwice : List Act := [.flip, .escape, .flip, .polled (some false)]

theorem askedTwice_confirmed :
    ∃ p q, run Panel.step { checked := false } askedTwice = some p ∧
      p.step .confirmClick = some q ∧ p.asking .start < q.asking .start ∧
      Put false askedTwice .start := by
  have ran : ((run Panel.step { checked := false } askedTwice).bind fun p =>
      (p.step .confirmClick).map fun q => decide (p.asking .start < q.asking .start)) =
        some true := by decide
  obtain ⟨p, h, rest⟩ := Option.bind_eq_some_iff.1 ran
  obtain ⟨q, stepped, more⟩ := Option.map_eq_some_iff.1 rest
  have sent := of_decide_eq_true more
  exact ⟨p, q, h, stepped, sent, ((confirmed_of_run h (by decide) stepped).1 _ sent).2⟩

/-! ## The end of an operation -/

/-- A step of a start or a stop that is going on. -/
def Act.ofOperation : Act → Bool
  | .asked a _ => a = .start
  | .stopped _ | .timer _ | .answered _ _ => true
  | _ => false

def Loop.left (l : Loop) : ℕ := 2 * (21 - l.n) - l.asked.toNat

/-- How many more steps the operation can take. -/
def Panel.left (p : Panel) : ℕ :=
  43 * (p.asking .start + p.stops) + (p.loops.map Loop.left).sum

theorem Panel.Sound.left_le (sound : p.Sound) : p.left ≤ 43 := by
  have total := sound.operations
  have one := Bool.toNat_le p.disabled
  unfold Panel.operations at total
  unfold Panel.left
  match loops : p.loops with
  | [] => simp only [loops, List.map_nil, List.sum_nil, List.length_nil] at total ⊢; omega
  | [l] =>
      simp only [loops, List.map_cons, List.map_nil, List.sum_cons, List.sum_nil, List.length_cons,
        List.length_nil, Loop.left] at total ⊢
      omega
  | _ :: _ :: _ => simp only [loops, List.length_cons] at total; omega

theorem Panel.Sound.single (sound : p.Sound) {i : ℕ} {l : Loop} (at_i : p.loops[i]? = some l) :
    p.loops = [l] ∧ i = 0 ∧ p.asking .start = 0 ∧ p.stops = 0 := by
  have total := sound.operations
  have one := Bool.toNat_le p.disabled
  have i_lt := (List.getElem?_eq_some_iff.1 at_i).1
  unfold Panel.operations at total
  obtain ⟨l', single⟩ := List.length_eq_one_iff.1 (show p.loops.length = 1 by omega)
  have first : i = 0 := by omega
  rw [single, first, List.getElem?_cons_zero, Option.some.injEq] at at_i
  rw [at_i] at single
  exact ⟨single, first, by omega, by omega⟩

/-- While the switch is disabled, a step of the operation ends it or brings it nearer to its end,
and no other step sets it back. -/
theorem Panel.Sound.left_step (sound : p.Sound) (disabled : p.disabled = true)
    (stepped : p.step act = some q) :
    q.disabled = false ∨ q.disabled = true ∧ q.left + act.ofOperation.toNat ≤ p.left := by
  have total := sound.operations
  rw [disabled, Bool.toNat_true, Panel.operations] at total
  have goes_on (same : q.disabled = p.disabled) (left : q.left + act.ofOperation.toNat ≤ p.left) :
      q.disabled = false ∨ q.disabled = true ∧ q.left + act.ofOperation.toNat ≤ p.left :=
    Or.inr ⟨same.trans disabled, left⟩
  cases act with
  | flip =>
      have enabled := (sound.flip stepped).2.1
      rw [disabled] at enabled
      exact (nomatch enabled)
  | restartClick | factoryClick =>
      simp only [Panel.step, Option.ite_none_left_eq_some, Option.some.injEq] at stepped
      obtain ⟨-, rfl⟩ := stepped
      exact goes_on rfl (Nat.le_refl _)
  | confirmClick =>
      obtain ⟨-, rfl⟩ | ⟨b, asked, ready, ⟨rfl, rfl⟩ | ⟨other, rfl⟩⟩ := sound.confirm stepped
      · exact goes_on rfl (Nat.le_refl _)
      · rw [sound.idle asked ready] at disabled
        exact (nomatch disabled)
      · refine goes_on rfl (Nat.le_of_eq ?_)
        simp [Panel.left, Panel.ask, Panel.hold, Function.update_of_ne other.symm, Act.ofOperation]
  | cancelClick | escape | backdrop =>
      simp only [Panel.step, Option.ite_none_right_eq_some, Option.some.injEq] at stepped
      obtain ⟨-, rfl⟩ := stepped
      exact goes_on rfl (Nat.le_refl _)
  | asked b answer =>
      obtain ⟨some_asked, p', rfl, asking, stops, ended⟩ := Panel.Sound.asked stepped
      obtain ⟨-, same, ⟨other, loops⟩ | ⟨rfl, loops⟩⟩ | ⟨rfl, -, enabled, -⟩ := ended
      · refine goes_on same (Nat.le_of_eq ?_)
        simp [Panel.left, Panel.closeConfirm, asking, stops, loops,
          Function.update_of_ne other.symm,
          Act.ofOperation, other]
      · refine goes_on same ?_
        have no_loop : p.loops = [] := List.length_eq_zero_iff.1 (by omega)
        simp only [Panel.left, Panel.closeConfirm, asking, stops, loops, no_loop,
          Function.update_self, Act.ofOperation, Loop.left, decide_true, Bool.toNat_true,
          Bool.toNat_false, List.nil_append, List.map_cons, List.map_nil, List.sum_cons,
          List.sum_nil]
        omega
      · exact Or.inl enabled
  | stopped answer =>
      obtain ⟨some_stop, rfl | rfl⟩ := Panel.step_stopped stepped
      · refine goes_on rfl ?_
        have no_loop : p.loops = [] := List.length_eq_zero_iff.1 (by omega)
        simp only [Panel.left, Panel.settle, no_loop, Act.ofOperation, Loop.left, Bool.toNat_true,
          Bool.toNat_false, List.nil_append, List.map_cons, List.map_nil, List.sum_cons,
          List.sum_nil]
        omega
      · exact Or.inl rfl
  | timer i =>
      obtain ⟨l, at_i, resting, rfl⟩ := Panel.step_timer stepped
      obtain ⟨single, rfl, -⟩ := sound.single at_i
      have few := sound.tries l (List.mem_of_getElem? at_i)
      refine goes_on rfl ?_
      simp only [Panel.left, single, List.set_cons_zero, resting, Act.ofOperation, Loop.left,
        Bool.toNat_true, Bool.toNat_false, List.map_cons, List.map_nil, List.sum_cons, List.sum_nil]
      omega
  | answered i s =>
      obtain ⟨l, at_i, waiting, checked, rfl | ⟨few, rfl⟩⟩ := Panel.step_answered stepped
      · exact Or.inl rfl
      · obtain ⟨single, rfl, -⟩ := sound.single at_i
        refine goes_on rfl ?_
        simp only [Panel.left, single, List.set_cons_zero, waiting, Act.ofOperation, Loop.left,
          Bool.toNat_true, Bool.toNat_false, List.map_cons, List.map_nil, List.sum_cons,
          List.sum_nil]
        omega
  | polled running =>
      cases stepped
      obtain ⟨checked, same⟩ := p.applyState_eq running
      rw [same] at goes_on ⊢
      exact goes_on rfl (Nat.le_refl _)
  | windowShown | windowHidden =>
      cases stepped
      exact goes_on rfl (Nat.le_refl _)

/-- A step of the operation can be taken as long as it goes on. -/
theorem Panel.Sound.exists_step (sound : p.Sound) (disabled : p.disabled = true) :
    ∃ act, act.ofOperation = true ∧ (p.step act).isSome = true := by
  have total := sound.operations
  rw [disabled, Bool.toNat_true, Panel.operations] at total
  by_cases starts : p.asking .start = 0
  · by_cases stops : p.stops = 0
    · obtain ⟨l, single⟩ := List.length_eq_one_iff.1 (show p.loops.length = 1 by omega)
      cases asked : l.asked with
      | false => exact ⟨.timer 0, rfl, by simp [Panel.step, single, asked]⟩
      | true => exact ⟨.answered 0 none, rfl, by simp [Panel.step, single, asked]; split <;> rfl⟩
    · exact ⟨.stopped .accepted, rfl, by simp [Panel.step, stops]⟩
  · exact ⟨.asked .start .accepted, rfl, by simp [Panel.step, starts]⟩

/-- From a disabled switch, as many steps of the operation as are left end it. -/
theorem Panel.Sound.enabled_of_run {acts : List Act} (sound : p.Sound)
    (calm : Meets Panel.step Undisturbed p acts) (h : run Panel.step p acts = some q)
    (many : p.left < (acts.filter Act.ofOperation).length) :
    ∃ before after m, acts = before ++ after ∧ run Panel.step p before = some m ∧
      m.disabled = false := by
  induction acts generalizing p with
  | nil => exact absurd many (Nat.not_lt_zero _)
  | cons act acts ih =>
      cases disabled : p.disabled with
      | false => exact ⟨[], act :: acts, p, rfl, rfl, disabled⟩
      | true =>
          obtain ⟨m, stepped, rest⟩ := run_cons_eq_some.1 h
          obtain enabled | ⟨-, left⟩ := sound.left_step disabled stepped
          · exact ⟨[act], acts, m, rfl, run_cons_eq_some.2 ⟨m, stepped, rfl⟩, enabled⟩
          · have fewer : m.left < (acts.filter Act.ofOperation).length := by
              cases of_op : act.ofOperation with
              | true =>
                  rw [List.filter_cons_of_pos of_op, List.length_cons] at many
                  rw [of_op, Bool.toNat_true] at left
                  omega
              | false =>
                  rw [List.filter_cons_of_neg (by rw [of_op]; exact Bool.false_ne_true)] at many
                  omega
            obtain ⟨before, after, m', rfl, ran, enabled⟩ :=
              ih (sound.step calm.head stepped) (calm.tail stepped) rest fewer
            exact ⟨act :: before, after, m', rfl, run_cons_eq_some.2 ⟨m, stepped, ran⟩, enabled⟩

/-- At most one start or stop is going on; the switch is disabled and the panel busy as long as it
is; it can always go on, and is over within 44 of its steps, whatever else happens in between. -/
theorem operation_of_run {checked : Bool} {acts : List Act}
    (h : run Panel.step { checked } acts = some p)
    (calm : Meets Panel.step Undisturbed { checked } acts) :
    p.operations = p.disabled.toNat ∧ p.busy = p.disabled ∧
      (p.disabled = true → ∃ act, act.ofOperation = true ∧ (p.step act).isSome = true) ∧
      ∀ later q, run Panel.step p later = some q → Meets Panel.step Undisturbed p later →
        44 ≤ (later.filter Act.ofOperation).length →
          ∃ before after m, later = before ++ after ∧ run Panel.step p before = some m ∧
            m.disabled = false := by
  have sound : p.Sound := (put_of_run (a := .start) h calm).1
  refine ⟨sound.operations, sound.busy, sound.exists_step, fun later q ran calm many => ?_⟩
  have left := sound.left_le
  exact sound.enabled_of_run calm ran (by omega)

/-- A start that is held up: Escape while it is requested, a restart asked for in between, and no
state for some time. -/
def heldUp : List Act :=
  [.flip, .confirmClick, .escape, .restartClick, .confirmClick, .asked .start .accepted, .timer 0,
    .answered 0 none, .asked .restart .failed, .timer 0]

theorem heldUp_ends :
    ∃ p, run Panel.step { checked := false } heldUp = some p ∧ p.disabled = true ∧
      p.operations = p.disabled.toNat ∧
      ∃ act, act.ofOperation = true ∧ (p.step act).isSome = true := by
  have ran : (run Panel.step { checked := false } heldUp).map Panel.disabled =
    some true := by decide
  obtain ⟨p, h, disabled⟩ := Option.map_eq_some_iff.1 ran
  obtain ⟨one, -, goes_on, -⟩ := operation_of_run h (by decide)
  exact ⟨p, h, disabled, one, goes_on disabled⟩

end GeneratorPi.PowerSwitch
