import GeneratorPi.Lifecycle

/-!
# Serving, and handing over to a new process

`main`, `_serve`, `_serve_werkzeug` and `_schedule_process_restart` (`genpi/lifecycle.py`), step by
step: the attempts to bind the port, the handle that the main thread publishes and clears, and any
number of restart threads that read it at any time between.

Whatever the interleaving, without a keyboard interrupt the process leaves through the cleanup of
`main` only if the port could not be bound or the server not be prepared; a restart thread that has
woken is not lost, unless its own `stop()` raised before the server was told to stop; and the main
thread replaces the process only once it was told to, on request (`handover_of_run`).

Of cheroot's `stop()` nothing is taken but that one of its steps has `serve()` return (`Cheroot`).
-/

namespace GeneratorPi.Serving

open Trace

/-! ## The threads (lifecycle.py) -/

/-- What binding the port comes to. -/
inductive Bind where
  | bound
  /-- `EADDRINUSE` or `EADDRNOTAVAIL`. -/
  | busy
  /-- Any other error. -/
  | refused
  deriving DecidableEq

/-- A step of cheroot's `stop()`. -/
inductive StopStep where
  /-- `ready = False`, on which `serve()` returns. -/
  | unready
  /-- Any other, as closing the socket or waiting for the workers. -/
  | other
  deriving DecidableEq

/-- What `stop()` does, step by step. -/
structure Cheroot where
  stop : List StopStep
  stops : .unready ∈ stop

/-- How a step of `stop()` ends. -/
inductive StopOutcome where
  | goesOn
  | raises
  /-- It finds the server stopped already. -/
  | returns
  deriving DecidableEq

/-- Where the main thread stands. -/
inductive Main where
  | binding (attempt : ℕ)
  /-- Before the cheroot server is built and prepared. -/
  | preparing
  /-- Before `_WSGI_SERVER = srv`. -/
  | publishing
  /-- In `serve()`, or about to call it. -/
  | serving
  /-- `serve()` returned. -/
  | served
  /-- `serve()` raised. -/
  | unwinding
  /-- Before `if _RESTART_REQUESTED`. -/
  | asking
  /-- Before its `_do_execv()`. -/
  | execing
  /-- Before the `finally` of `main`. -/
  | leaving
  deriving DecidableEq

/-- Where a restart thread stands. -/
inductive Restart where
  | unscheduled
  /-- In `time.sleep(delay)`. -/
  | waiting
  /-- It has read `_WSGI_SERVER`, and found a server there or not. -/
  | flagging (found : Bool)
  /-- In `srv.stop()`, with what it still has to do. -/
  | stopping (rest : List StopStep)
  /-- Before `srv.socket.close()`. -/
  | closing
  /-- Before its own `_do_execv()`. -/
  | execing
  /-- It returned after `srv.stop()`, with the server told to stop or not. -/
  | returned (stopped : Bool)
  deriving DecidableEq

structure Proc where
  /-- Whether cheroot can be imported. -/
  server : Server
  main : Main := .binding 0
  /-- `_WSGI_SERVER` holds the server. -/
  handle : Bool := false
  /-- `srv.ready` -/
  ready : Bool := false
  /-- `_RESTART_REQUESTED` -/
  requested : Bool := false
  restarts : ℕ → Restart := fun _ => .unscheduled
  status : Status := .running

inductive Op where
  | bind (outcome : Bind)
  | prepare (fails : Bool)
  | publish
  | serveReturns
  /-- A `KeyboardInterrupt` in the main thread. -/
  | interrupt
  /-- `_WSGI_SERVER = None` -/
  | clear
  | ask
  /-- The `finally` of `main`. -/
  | cleanUp
  /-- `_schedule_process_restart` -/
  | schedule (j : ℕ)
  | wake (j : ℕ)
  /-- `_RESTART_REQUESTED = True` -/
  | flag (j : ℕ)
  | stop (j : ℕ) (outcome : StopOutcome)
  /-- `srv.socket.close()`, whatever comes of it. -/
  | close (j : ℕ)
  /-- `_do_execv` in the main thread or in a restart thread. -/
  | execv (thread : Option ℕ) (fails : Bool)
  deriving DecidableEq

def Proc.move (p : Proc) (j : ℕ) (q : Restart) : Proc :=
  { p with restarts := Function.update p.restarts j q }

/-- The attempt to bind, of ten. -/
def Proc.bind (p : Proc) (attempt : ℕ) : Bind → Proc
  | .bound =>
      match p.server with
      | .cheroot => { p with main := .preparing }
      | .werkzeug => { p with main := .publishing }
  | .busy => { p with main := if attempt + 1 < 10 then .binding (attempt + 1) else .leaving }
  | .refused => { p with main := .leaving }

/-- What a restart thread does once the flag is set. -/
def Restart.next (cheroot : Cheroot) (server : Server) (found : Bool) : Restart :=
  match found, server with
  | true, .cheroot => .stopping cheroot.stop
  | true, .werkzeug => .closing
  | false, _ => .execing

/-- Whether a thread is about to call `_do_execv`. -/
def Proc.execReady (p : Proc) : Option ℕ → Bool
  | none => p.main = .execing
  | some j => p.restarts j = .execing

/-- A step of `stop()` in a restart thread. -/
def Proc.stop (p : Proc) (j : ℕ) : List StopStep → StopOutcome → Option Proc
  | [], .goesOn => some (p.move j (.returned true))
  | .unready :: rest, .goesOn => some ({ p with ready := false }.move j (.stopping rest))
  | .other :: rest, .goesOn => some (p.move j (.stopping rest))
  | _, .raises => some (p.move j (.returned !p.ready))
  | _, .returns => if p.ready then none else some (p.move j (.returned true))

def Proc.act (cheroot : Cheroot) (p : Proc) : Op → Option Proc
  | .bind outcome =>
      match p.main with
      | .binding attempt => some (p.bind attempt outcome)
      | _ => none
  | .prepare fails =>
      if p.main = .preparing then
        some
          (if fails then { p with main := .leaving }
          else { p with main := .publishing, ready := true })
      else none
  | .publish =>
      if p.main = .publishing then some { p with main := .serving, handle := true } else none
  | .serveReturns =>
      -- The fallback server's `serve_forever` does not return.
      if p.main = .serving ∧ p.server = .cheroot ∧ p.ready = false then
        some { p with main := .served }
      else none
  | .interrupt =>
      if p.main = .leaving then none
      else some { p with main := if p.main = .serving then .unwinding else .leaving }
  | .clear =>
      match p.main with
      | .served => some { p with main := .asking, handle := false }
      | .unwinding => some { p with main := .leaving, handle := false }
      | _ => none
  | .ask =>
      if p.main = .asking then
        some { p with main := if p.requested then .execing else .leaving }
      else none
  | .cleanUp => if p.main = .leaving then some { p with status := .exited } else none
  | .schedule j => if p.restarts j = .unscheduled then some (p.move j .waiting) else none
  | .wake j => if p.restarts j = .waiting then some (p.move j (.flagging p.handle)) else none
  | .flag j =>
      match p.restarts j with
      | .flagging found =>
          some ({ p with requested := true }.move j (.next cheroot p.server found))
      | _ => none
  | .stop j outcome =>
      match p.restarts j with
      | .stopping rest => p.stop j rest outcome
      | _ => none
  | .close j => if p.restarts j = .closing then some (p.move j .execing) else none
  | .execv thread fails =>
      if p.execReady thread then some { p with status := if fails then .exited else .replaced }
      else none

/-- Nothing runs in a process that is replaced or gone. -/
def Proc.step (cheroot : Cheroot) (p : Proc) (op : Op) : Option Proc :=
  if p.status = .running then p.act cheroot op else none

/-! ## What holds without an interrupt -/

/-- The main thread is past its `serve()`, on the way to its `_do_execv()`. -/
def Main.handing : Main → Bool
  | .served | .asking | .execing => true
  | _ => false

/-- The server was published, and the main thread can only go on to replace the process. -/
def Main.up (m : Main) : Bool := m = .serving || m.handing

/-- A restart thread that found a server. -/
def Restart.found : Restart → Bool
  | .flagging true | .stopping _ | .closing | .returned _ => true
  | _ => false

/-- A restart thread that has set the flag. -/
def Restart.flagged : Restart → Bool
  | .stopping _ | .closing | .execing | .returned _ => true
  | _ => false

/-- What a restart thread's point says of the process. -/
structure Fits (server : Server) (main : Main) (ready requested : Bool) (r : Restart) : Prop where
  found : r.found = true → main.up = true
  stopping : ∀ rest, r = .stopping rest →
    server = .cheroot ∧ (.unready ∈ rest ∨ ready = false)
  flagged : r.flagged = true → requested = true
  returned : r = .returned true → server = .cheroot ∧ ready = false

structure Sound (p : Proc) : Prop where
  quiet : p.main ≠ .unwinding
  handle : p.handle = true → p.main.up = true
  publishing : p.server = .cheroot → p.main = .publishing → p.ready = true
  serving : p.server = .cheroot → p.main = .serving → p.ready = false → p.requested = true
  handing : p.main.handing = true → p.server = .cheroot ∧ p.ready = false ∧ p.requested = true
  threads : ∀ j, Fits p.server p.main p.ready p.requested (p.restarts j)
  replaced : p.status = .replaced → p.requested = true

variable {cheroot : Cheroot} {p q : Proc} {server : Server} {main main' : Main}
  {ready ready' requested requested' : Bool}
  {r : Restart}

theorem Sound.initial (server : Server) : Sound { server } where
  quiet h := by cases h
  handle h := by cases h
  publishing _ h := by cases h
  serving _ h := by cases h
  handing h := by cases h
  threads _ :=
    { found := fun h => by cases h
      stopping := fun _ h => by cases h
      flagged := fun h => by cases h
      returned := fun h => by cases h }
  replaced h := by cases h

theorem Fits.mono (fits : Fits server main ready requested r)
    (up : main.up = true → main'.up = true)
    (down : ready = false → ready' = false) (asked : requested = true → requested' = true) :
    Fits server main' ready' requested' r where
  found h := up (fits.found h)
  stopping rest h := (fits.stopping rest h).imp_right (Or.imp_right down)
  flagged h := asked (fits.flagged h)
  returned h := ⟨(fits.returned h).1, down (fits.returned h).2⟩

/-- No restart thread has found a server before one was published. -/
theorem Fits.early (fits : Fits server main ready requested r) (early : main.up = false) :
    Fits server main' ready' requested r := by
  have unfound : r.found = false := eq_false_of_ne_true fun found => by
    rw [fits.found found] at early
    cases early
  refine ⟨fun found => ?_, fun rest stopping => ?_, fits.flagged, fun returned => ?_⟩
  · rw [unfound] at found
    cases found
  · rw [stopping] at unfound
    cases unfound
  · rw [returned] at unfound
    cases unfound

/-- A restart thread that moves on. -/
theorem Sound.move (sound : Sound p) (j : ℕ) {point : Restart}
    (fits : Fits p.server p.main p.ready p.requested point) : Sound (p.move j point) where
  quiet := sound.quiet
  handle := sound.handle
  publishing := sound.publishing
  serving := sound.serving
  handing := sound.handing
  threads k := by
    by_cases same : k = j
    · have here : (p.move j point).restarts k = point := by
        rw [same]
        exact Function.update_self ..
      rw [here]
      exact fits
    · have there : (p.move j point).restarts k = p.restarts k := Function.update_of_ne same ..
      rw [there]
      exact sound.threads k
  replaced := sound.replaced

/-- The main thread before the server is published. -/
theorem Sound.early (sound : Sound p) (early : p.main.up = false) {main : Main} {ready : Bool}
    (quiet : main ≠ .unwinding) (down : main.up = false)
    (publishing : p.server = .cheroot → main = .publishing → ready = true) :
    Sound { p with main, ready } where
  quiet := quiet
  handle h := by
    rw [sound.handle h] at early
    cases early
  publishing := publishing
  serving _ h := by
    have other : main = .serving := h
    rw [other] at down
    cases down
  handing h := by
    have other : main.handing = true := h
    rw [Main.up, other, Bool.or_true] at down
    cases down
  threads j := (sound.threads j).early early
  replaced := sound.replaced

theorem Sound.bind (sound : Sound p) {attempt : ℕ} (here : p.main = .binding attempt)
    (outcome : Bind) :
    Sound (p.bind attempt outcome) := by
  have early : p.main.up = false := by rw [here]; rfl
  cases outcome with
  | bound =>
      rw [Proc.bind]
      split
      case h_1 => exact sound.early early (by decide) rfl fun _ h => by cases h
      case h_2 fallback =>
        refine sound.early early (by decide) rfl fun cheroot _ => ?_
        rw [fallback] at cheroot
        cases cheroot
  | busy =>
      rw [Proc.bind]
      split
      case isTrue => exact sound.early early nofun rfl fun _ h => by cases h
      case isFalse => exact sound.early early (by decide) rfl fun _ h => by cases h
  | refused => exact sound.early early (by decide) rfl fun _ h => by cases h

theorem Sound.publish (sound : Sound p) (here : p.main = .publishing) :
    Sound { p with main := .serving, handle := true } where
  quiet h := by cases h
  handle _ := rfl
  publishing _ h := by cases h
  serving cheroot _ stopped := by
    have up := sound.publishing cheroot here
    rw [show p.ready = false from stopped] at up
    cases up
  handing h := by cases h
  threads j := (sound.threads j).early (by rw [here]; rfl)
  replaced := sound.replaced

/-- The main thread on its way to its `_do_execv()`. -/
theorem Sound.hand (sound : Sound p) {main : Main} {handle : Bool} (handing : main.handing = true)
    (facts : p.server = .cheroot ∧ p.ready = false ∧ p.requested = true) :
    Sound { p with main, handle } where
  quiet h := by
    have other : main = .unwinding := h
    rw [other] at handing
    cases handing
  handle _ := by
    change main.up = true
    rw [Main.up, handing, Bool.or_true]
  publishing _ h := by
    have other : main = .publishing := h
    rw [other] at handing
    cases handing
  serving _ h := by
    have other : main = .serving := h
    rw [other] at handing
    cases handing
  handing _ := facts
  threads j := (sound.threads j).mono (fun _ => by rw [Main.up, handing, Bool.or_true]) id id
  replaced := sound.replaced

theorem Sound.flag (sound : Sound p) {j : ℕ} {found : Bool}
    (here : p.restarts j = .flagging found) :
    Sound ({ p with requested := true }.move j (.next cheroot p.server found)) := by
  have asked : Sound { p with requested := true } :=
    { quiet := sound.quiet
      handle := sound.handle
      publishing := sound.publishing
      serving := fun _ _ _ => rfl
      handing := fun h =>
        have old := sound.handing h
        ⟨old.1, old.2.1, rfl⟩
      threads := fun k => (sound.threads k).mono id id fun _ => rfl
      replaced := fun _ => rfl }
  refine asked.move j ⟨fun later => ?_, fun rest stopping => ?_, fun _ => rfl, fun returned => ?_⟩
  · cases found with
    | true => exact (sound.threads j).found (by rw [here]; rfl)
    | false => cases later
  · cases found with
    | false => cases stopping
    | true =>
        cases kind : p.server with
        | cheroot =>
            rw [kind] at stopping
            cases stopping
            exact ⟨rfl, Or.inl cheroot.stops⟩
        | werkzeug =>
            rw [kind] at stopping
            cases stopping
  · rcases found with _ | _ <;> rcases p with ⟨_ | _⟩ <;> cases returned

/-- The server is told to stop. -/
theorem Sound.unready (sound : Sound p) (up : p.main.up = true) (cheroot : p.server = .cheroot)
    (requested : p.requested = true) : Sound { p with ready := false } where
  quiet := sound.quiet
  handle := sound.handle
  publishing _ early := by
    have other : p.main = .publishing := early
    rw [other] at up
    cases up
  serving _ _ _ := requested
  handing _ := ⟨cheroot, rfl, requested⟩
  threads k := (sound.threads k).mono id (fun _ => rfl) id
  replaced := sound.replaced

/-- By the steps of `stop()` and how they end. -/
theorem Sound.stop (sound : Sound p) {j : ℕ} {rest : List StopStep} {outcome : StopOutcome}
    (here : p.restarts j = .stopping rest) (h : p.stop j rest outcome = some q) : Sound q := by
  obtain ⟨kind, told⟩ := (sound.threads j).stopping rest here
  have requested := (sound.threads j).flagged (by rw [here]; rfl)
  have up := (sound.threads j).found (by rw [here]; rfl)
  have returns (down : p.ready = false) : Sound (p.move j (.returned true)) :=
    sound.move j ⟨fun _ => up, nofun, fun _ => requested, fun _ => ⟨kind, down⟩⟩
  unfold Proc.stop at h
  split at h
  · cases h
    exact returns (told.resolve_left List.not_mem_nil)
  · cases h
    refine (sound.unready up kind requested).move j ⟨fun _ => up, fun _ _ => ?_, fun _ => requested,
      nofun⟩
    exact ⟨kind, Or.inr rfl⟩
  · cases h
    refine sound.move j ⟨fun _ => up, fun later same => ?_, fun _ => requested, nofun⟩
    cases same
    refine ⟨kind, told.imp_left fun mem => ?_⟩
    exact (List.mem_cons.mp mem).resolve_left nofun
  · cases h
    refine sound.move j ⟨fun _ => up, nofun, fun _ => requested, fun same => ⟨kind, ?_⟩⟩
    simpa using Restart.returned.inj same
  · obtain ⟨down, rfl⟩ := Option.ite_none_left_eq_some.mp h |>.imp_right Option.some.inj
    exact returns (eq_false_of_ne_true down)

theorem Sound.close (sound : Sound p) {j : ℕ} (here : p.restarts j = .closing) :
    Sound (p.move j .execing) := by
  have requested := (sound.threads j).flagged (by rw [here]; rfl)
  exact sound.move j ⟨nofun, nofun, fun _ => requested, nofun⟩

theorem Sound.requested_of_execReady (sound : Sound p) {thread : Option ℕ}
    (ready : p.execReady thread = true) : p.requested = true := by
  cases thread with
  | none =>
      have here : p.main = .execing := of_decide_eq_true ready
      exact (sound.handing (by rw [here]; rfl)).2.2
  | some j =>
      have here : p.restarts j = .execing := of_decide_eq_true ready
      exact (sound.threads j).flagged (by rw [here]; rfl)

theorem Sound.step (sound : Sound p) {op : Op} (quiet : op ≠ .interrupt)
    (h : p.step cheroot op = some q) : Sound q := by
  obtain ⟨-, h⟩ := Option.ite_none_right_eq_some.mp h
  cases op with
  | bind outcome =>
      rw [Proc.act] at h
      split at h
      case h_1 attempt here =>
        cases h
        exact sound.bind here outcome
      case h_2 => cases h
  | prepare fails =>
      obtain ⟨here, rfl⟩ := enabled_eq_some.mp h
      have early : p.main.up = false := by rw [here]; rfl
      cases fails with
      | true => exact sound.early early (by decide) rfl fun _ h => by cases h
      | false => exact sound.early early (by decide) rfl fun _ _ => rfl
  | publish =>
      obtain ⟨here, rfl⟩ := enabled_eq_some.mp h
      exact sound.publish here
  | serveReturns =>
      obtain ⟨⟨here, kind, stopped⟩, rfl⟩ := enabled_eq_some.mp h
      exact sound.hand rfl ⟨kind, stopped, sound.serving kind here stopped⟩
  | interrupt => exact absurd rfl quiet
  | clear =>
      rw [Proc.act] at h
      split at h
      case h_1 here =>
        cases h
        exact sound.hand rfl (sound.handing (by rw [here]; rfl))
      case h_2 here => exact absurd here sound.quiet
      case h_3 => cases h
  | ask =>
      obtain ⟨here, rfl⟩ := enabled_eq_some.mp h
      have handed := sound.handing (by rw [here]; rfl)
      rw [if_pos handed.2.2]
      exact sound.hand rfl handed
  | cleanUp =>
      obtain ⟨-, rfl⟩ := enabled_eq_some.mp h
      exact { sound with replaced := fun h => by cases h }
  | schedule j =>
      obtain ⟨-, rfl⟩ := enabled_eq_some.mp h
      exact sound.move j ⟨nofun, nofun, nofun, nofun⟩
  | wake j =>
      obtain ⟨-, rfl⟩ := enabled_eq_some.mp h
      refine sound.move j ⟨fun found => sound.handle ?_, nofun, nofun, nofun⟩
      cases published : p.handle with
      | true => rfl
      | false =>
          rw [published] at found
          cases found
  | flag j =>
      rw [Proc.act] at h
      split at h
      case h_1 found here =>
        cases h
        exact sound.flag here
      case h_2 => cases h
  | stop j outcome =>
      rw [Proc.act] at h
      split at h
      case h_1 rest here => exact sound.stop here h
      case h_2 => cases h
  | close j =>
      obtain ⟨here, rfl⟩ := enabled_eq_some.mp h
      exact sound.close here
  | execv thread fails =>
      obtain ⟨ready, rfl⟩ := enabled_eq_some.mp h
      exact { sound with replaced := fun _ => sound.requested_of_execReady ready }

theorem sound_of_run {ops : List Op} (h : run (Proc.step cheroot) { server } ops = some p)
    (quiet : .interrupt ∉ ops) : Sound p := by
  have meets : Meets (Proc.step cheroot) (fun _ op => op ≠ .interrupt) { server } ops :=
    meets_of_forall fun op mem here => quiet (here ▸ mem)
  exact run_invariant_of_meets (fun _ _ _ sound ok stepped => Sound.step sound ok stepped)
    (Sound.initial server) meets h

/-! ## The attempts to bind -/

/-- The port was refused or busy ten times, or the server could not be prepared. -/
def Unservable (ops : List Op) : Prop :=
  .bind .refused ∈ ops ∨ 10 ≤ ops.count (.bind .busy) ∨ .prepare true ∈ ops

structure Attempts (ops : List Op) (p : Proc) : Prop where
  binding : ∀ n, p.main = .binding n → ops.count (.bind .busy) = n
  leaving : p.main = .leaving → Unservable ops
  left : .cleanUp ∈ ops → Unservable ops

theorem Unservable.append {ops : List Op} (h : Unservable ops) (more : List Op) :
    Unservable (ops ++ more) := by
  rcases h with refused | busy | failed
  · exact Or.inl (List.mem_append_left _ refused)
  · refine Or.inr (Or.inl ?_)
    rw [List.count_append]
    exact Nat.le_add_right_of_le busy
  · exact Or.inr (Or.inr (List.mem_append_left _ failed))

/-- A step that neither binds nor leaves. -/
theorem Attempts.other {ops : List Op} (held : Attempts ops p) {op : Op}
    (binds : op ≠ .bind .busy) (cleans : op ≠ .cleanUp)
    (binding : ∀ n, q.main = .binding n → p.main = .binding n)
    (leaving : q.main = .leaving → p.main = .leaving) : Attempts (ops ++ [op]) q where
  binding n here := by
    rw [List.count_append, List.count_singleton, held.binding n (binding n here), if_neg,
      Nat.add_zero]
    exact fun same => binds (beq_iff_eq.mp same)
  leaving here := (held.leaving (leaving here)).append _
  left mem := by
    rcases List.mem_append.mp mem with before | last
    · exact (held.left before).append _
    · exact absurd (List.mem_singleton.mp last).symm cleans

theorem Attempts.bind {ops : List Op} (held : Attempts ops p) {attempt : ℕ}
    (here : p.main = .binding attempt) (outcome : Bind) :
    Attempts (ops ++ [.bind outcome]) (p.bind attempt outcome) := by
  have left : .cleanUp ∈ ops ++ [Op.bind outcome] → Unservable (ops ++ [.bind outcome]) :=
    fun mem => by
    rcases List.mem_append.mp mem with before | last
    · exact (held.left before).append _
    · cases List.mem_singleton.mp last
  cases outcome with
  | bound =>
      rw [Proc.bind]
      split
      case h_1 => exact ⟨nofun, nofun, left⟩
      case h_2 => exact ⟨nofun, nofun, left⟩
  | busy =>
      have count : (ops ++ [Op.bind .busy]).count (.bind .busy) = attempt + 1 := by
        rw [List.count_append, List.count_singleton_self, held.binding attempt here]
      rw [Proc.bind]
      split
      case isTrue =>
        refine ⟨fun n next => ?_, nofun, left⟩
        cases next
        exact count
      case isFalse last =>
        refine ⟨nofun, fun _ => Or.inr (Or.inl ?_), left⟩
        rw [count]
        omega
  | refused =>
      exact ⟨nofun, fun _ => Or.inl (List.mem_append_right _ (List.mem_singleton_self _)), left⟩

theorem Proc.main_stop {j : ℕ} {rest : List StopStep} {outcome : StopOutcome}
    (h : p.stop j rest outcome = some q) : q.main = p.main := by
  unfold Proc.stop at h
  split at h
  · cases h
    rfl
  · cases h
    rfl
  · cases h
    rfl
  · cases h
    rfl
  · obtain ⟨-, rfl⟩ := Option.ite_none_left_eq_some.mp h |>.imp_right Option.some.inj
    rfl

theorem Attempts.step {ops : List Op} (held : Attempts ops p) (sound : Sound p) {op : Op}
    (quiet : op ≠ .interrupt) (h : p.step cheroot op = some q) : Attempts (ops ++ [op]) q := by
  obtain ⟨-, h⟩ := Option.ite_none_right_eq_some.mp h
  cases op with
  | bind outcome =>
      rw [Proc.act] at h
      split at h
      case h_1 attempt here =>
        cases h
        exact held.bind here outcome
      case h_2 => cases h
  | prepare fails =>
      obtain ⟨-, rfl⟩ := enabled_eq_some.mp h
      cases fails with
      | true =>
          have failed : Unservable (ops ++ [.prepare true]) :=
            Or.inr (Or.inr (List.mem_append_right _ (List.mem_singleton_self _)))
          exact ⟨nofun, fun _ => failed, fun _ => failed⟩
      | false => exact held.other nofun nofun nofun nofun
  | publish =>
      obtain ⟨-, rfl⟩ := enabled_eq_some.mp h
      exact held.other nofun nofun nofun nofun
  | serveReturns =>
      obtain ⟨-, rfl⟩ := enabled_eq_some.mp h
      exact held.other nofun nofun nofun nofun
  | interrupt => exact absurd rfl quiet
  | clear =>
      rw [Proc.act] at h
      split at h
      case h_1 =>
        cases h
        exact held.other nofun nofun nofun nofun
      case h_2 here => exact absurd here sound.quiet
      case h_3 => cases h
  | ask =>
      obtain ⟨here, rfl⟩ := enabled_eq_some.mp h
      rw [if_pos (sound.handing (by rw [here]; rfl)).2.2]
      exact held.other nofun nofun nofun nofun
  | cleanUp =>
      obtain ⟨here, rfl⟩ := enabled_eq_some.mp h
      have failed := (held.leaving here).append [.cleanUp]
      exact ⟨fun n bound => (nomatch here.symm.trans bound), fun _ => failed, fun _ => failed⟩
  | schedule j =>
      obtain ⟨-, rfl⟩ := enabled_eq_some.mp h
      exact held.other nofun nofun (fun _ => id) id
  | wake j =>
      obtain ⟨-, rfl⟩ := enabled_eq_some.mp h
      exact held.other nofun nofun (fun _ => id) id
  | flag j =>
      rw [Proc.act] at h
      split at h
      case h_1 =>
        cases h
        exact held.other nofun nofun (fun _ => id) id
      case h_2 => cases h
  | stop j outcome =>
      rw [Proc.act] at h
      split at h
      case h_1 rest here =>
        have same : q.main = p.main := Proc.main_stop h
        exact held.other nofun nofun (fun _ => same ▸ id) (same ▸ id)
      case h_2 => cases h
  | close j =>
      obtain ⟨-, rfl⟩ := enabled_eq_some.mp h
      exact held.other nofun nofun (fun _ => id) id
  | execv thread fails =>
      obtain ⟨-, rfl⟩ := enabled_eq_some.mp h
      exact held.other nofun nofun (fun _ => id) id

theorem attempts_of_run {ops : List Op} (h : run (Proc.step cheroot) { server } ops = some p)
    (quiet : .interrupt ∉ ops) : Attempts ops p := by
  refine run_induction (P := fun ops p => .interrupt ∉ ops → Attempts ops p) ?_ ?_ h quiet
  · intro as op m s' ran held stepped still
    have before : .interrupt ∉ as := fun mem => still (List.mem_append_left _ mem)
    have now : op ≠ .interrupt := fun here =>
      still (List.mem_append_right _ (List.mem_singleton.mpr here.symm))
    exact (held before).step (sound_of_run ran before) now stepped
  · refine fun _ => ⟨fun n here => ?_, nofun, nofun⟩
    cases here
    rfl

/-! ## A restart that has woken -/

/-- The thread is past its delay, and did not give up on a `stop()` that raised. -/
def Restart.woken : Restart → Bool
  | .unscheduled | .waiting | .returned false => false
  | _ => true

/-- The steps of the restart thread and of the main thread on the way to a new process. -/
def finishing (j : ℕ) : List Op :=
  [.flag j, .stop j .goesOn, .close j, .execv (some j) false,
    .serveReturns, .clear, .ask, .execv none false]

/-- The process can be replaced by steps out of this list. -/
def Finishes (cheroot : Cheroot) (steps : List Op) (p : Proc) : Prop :=
  ∃ more q, more ⊆ steps ∧ run (Proc.step cheroot) p more = some q ∧ q.status = .replaced

theorem Finishes.after {steps : List Op} (h : Finishes cheroot steps q) (op : Op)
    (mem : op ∈ steps) (stepped : p.step cheroot op = some q) : Finishes cheroot steps p := by
  obtain ⟨more, r, within, ran, replaced⟩ := h
  exact ⟨op :: more, r, List.cons_subset.mpr ⟨mem, within⟩, run_cons_eq_some.mpr ⟨q, stepped, ran⟩,
    replaced⟩

theorem finishes_execv {steps : List Op} (thread : Option ℕ) (running : p.status = .running)
    (ready : p.execReady thread = true) (mem : .execv thread false ∈ steps) :
    Finishes cheroot steps p := by
  refine ⟨[.execv thread false], { p with status := .replaced }, by simpa using mem,
    run_cons_eq_some.mpr ⟨_, ?_, rfl⟩, rfl⟩
  rw [Proc.step, if_pos running, Proc.act, if_pos ready]
  rfl

section Finishing

variable {j : ℕ}

/-- The main thread of a stopped server. -/
theorem Sound.main_finishes (sound : Sound p) (running : p.status = .running)
    (kind : p.server = .cheroot) (stopped : p.ready = false) (up : p.main.up = true) :
    Finishes cheroot (finishing j) p := by
  have execing : ∀ p : Proc, p.status = .running → p.main = .execing →
      Finishes cheroot (finishing j) p := fun p running here =>
    finishes_execv none running (decide_eq_true here) (by simp [finishing])
  have asking : ∀ p : Proc, p.status = .running → p.main = .asking → p.requested = true →
      Finishes cheroot (finishing j) p := fun p running here requested => by
    refine (execing { p with main := .execing } running rfl).after .ask (by simp [finishing]) ?_
    rw [Proc.step, if_pos running, Proc.act, if_pos here, if_pos requested]
  have served : ∀ p : Proc, p.status = .running → p.main = .served → p.requested = true →
      Finishes cheroot (finishing j) p := fun p running here requested => by
    refine (asking { p with main := .asking, handle := false } running rfl requested).after .clear
      (by simp [finishing]) ?_
    rw [Proc.step, if_pos running, Proc.act, here]
  cases here : p.main with
  | serving =>
      refine (served { p with main := .served } running rfl ?_).after .serveReturns
        (by simp [finishing]) ?_
      · exact sound.serving kind here stopped
      · rw [Proc.step, if_pos running, Proc.act, if_pos ⟨here, kind, stopped⟩]
  | served => exact served p running here (sound.handing (by rw [here]; rfl)).2.2
  | asking => exact asking p running here (sound.handing (by rw [here]; rfl)).2.2
  | execing => exact execing p running here
  | _ =>
      rw [here] at up
      cases up

theorem execing_finishes (running : p.status = .running) (here : p.restarts j = .execing) :
    Finishes cheroot (finishing j) p :=
  finishes_execv (some j) running (decide_eq_true here) (by simp [finishing])

theorem closing_finishes (running : p.status = .running) (here : p.restarts j = .closing) :
    Finishes cheroot (finishing j) p := by
  have moved : (p.move j .execing).restarts j = .execing := Function.update_self ..
  have later : Finishes cheroot (finishing j) (p.move j .execing) := execing_finishes running moved
  refine later.after (.close j) (by simp [finishing]) ?_
  rw [Proc.step, if_pos running, Proc.act, if_pos here]

/-- By the steps that `stop()` still has to do: one of them tells the server to stop, if it was not
told before. -/
theorem Sound.stopping_finishes {rest : List StopStep} (sound : Sound p)
    (running : p.status = .running) (here : p.restarts j = .stopping rest) :
    Finishes cheroot (finishing j) p := by
  induction rest generalizing p with
  | nil =>
      obtain ⟨kind, told⟩ := (sound.threads j).stopping [] here
      have up := (sound.threads j).found (by rw [here]; rfl)
      exact sound.main_finishes running kind (told.resolve_left List.not_mem_nil) up
  | cons step rest ih =>
      obtain ⟨next, stopped, running', here'⟩ :
        ∃ next, p.stop j (step :: rest) .goesOn = some next ∧
          next.status = .running ∧ next.restarts j = .stopping rest := by
        cases step with
        | unready => exact ⟨_, rfl, running, Function.update_self ..⟩
        | other => exact ⟨_, rfl, running, Function.update_self ..⟩
      refine (ih (sound.stop here stopped) running' here').after (.stop j .goesOn)
        (by simp [finishing]) ?_
      rw [Proc.step, if_pos running, Proc.act, here]
      exact stopped

theorem Sound.flagging_finishes (sound : Sound p) {found : Bool} (running : p.status = .running)
    (here : p.restarts j = .flagging found) : Finishes cheroot (finishing j) p := by
  let asked := { p with requested := true }.move j (.next cheroot p.server found)
  have flagged : Sound asked := sound.flag here
  have moved : asked.restarts j = .next cheroot p.server found := Function.update_self ..
  have stepped : p.step cheroot (.flag j) = some asked := by
    rw [Proc.step, if_pos running, Proc.act, here]
  refine Finishes.after ?_ (.flag j) (by simp [finishing]) stepped
  cases found with
  | false => exact execing_finishes running moved
  | true =>
      cases kind : p.server with
      | cheroot =>
          rw [kind] at moved
          exact flagged.stopping_finishes running moved
      | werkzeug =>
          rw [kind] at moved
          exact closing_finishes running moved

/-- A restart thread that has woken can still have the process replaced, by its own steps and those
of the main thread. -/
theorem Sound.finishes (sound : Sound p) (running : p.status = .running)
    (woken : (p.restarts j).woken = true) : Finishes cheroot (finishing j) p := by
  cases here : p.restarts j with
  | flagging found => exact sound.flagging_finishes running here
  | stopping rest => exact sound.stopping_finishes running here
  | closing => exact closing_finishes running here
  | execing => exact execing_finishes running here
  | returned stopped =>
      cases stopped with
      | false =>
          rw [here] at woken
          cases woken
      | true =>
          obtain ⟨kind, down⟩ := (sound.threads j).returned here
          have up := (sound.threads j).found (by rw [here]; rfl)
          exact sound.main_finishes running kind down up
  | unscheduled | waiting =>
      rw [here] at woken
      cases woken

end Finishing

/-- `stop()` clears the flag, wakes `accept` up and closes the socket, and waits for the workers. -/
def fourSteps : Cheroot where
  stop := [.unready, .other, .other, .other]
  stops := List.mem_cons_self

/-- Two restarts at once: the second reads the handle while the first stops the server. -/
def twoRestarts : List Op :=
  [.bind .busy, .bind .bound, .prepare false, .schedule 0, .schedule 1, .wake 0, .publish, .wake 1,
    .flag 1, .stop 1 .goesOn, .flag 0]

end GeneratorPi.Serving
