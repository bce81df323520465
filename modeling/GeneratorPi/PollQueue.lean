import GeneratorPi.Lib.Ageing
import GeneratorPi.Lib.PyText
import GeneratorPi.Lib.Trace
import Mathlib.Data.List.Nodup
import Mathlib.Data.List.Perm.Basic

/-!
# The poll queue of the panel

`pollFetch`, `_drainPollQ` and what `netFetch` counts (`genpi/frontend/app.js`): all pollers share
one queue with at most one job a key, and one request at a time is made from it.  The state is what
the script's variables hold between two callbacks; calls of `pollFetch` and the callbacks of the
requests in flight come in any order.

No more than one request is in flight, a queued job means that one is, and each call's promise is
resolved once, or is still held by one queued job or by the request (`promises_resolved_once`).
Without new calls the queue runs empty (`work_of_run`).
-/

namespace GeneratorPi

open Ageing PyText Trace

/-! ## State -/

/-- An entry of `_pollQ`. -/
structure PollJob where
  /-- The call that queued it. -/
  id : ℕ
  key : Text
  path : Text
  ms : Option ℕ
  /-- The call whose `resolve` it holds. -/
  caller : ℕ
  /-- `Date.now()` when it was queued. -/
  t : ℤ
  deriving DecidableEq

/-- How far the chain of callbacks of a request has come. -/
inductive Transfer (J : Type) where
  | fetching
  /-- The response is there and `r.json()` is not. -/
  | reading
  /-- The last callback is due, with the parsed body or `null`. -/
  | settled (d : Option J)

structure PollRequest (J : Type) where
  job : PollJob
  /-- After how many milliseconds it is aborted. -/
  timeout : ℕ
  transfer : Transfer J := .fetching

/-- The script's variables, and a history of what was queued, issued and resolved. -/
structure PollQueue (J : Type) where
  /-- `_pollQ`. -/
  queue : List PollJob := []
  /-- `_pollActive`. -/
  active : Bool := false
  /-- The requests whose last callback has not run. -/
  requests : List (PollRequest J) := []
  /-- What they add to `NET.pending`. -/
  pending : ℕ := 0
  /-- How often `pollFetch` was called. -/
  calls : ℕ := 0
  entered : List ℕ := []
  issued : List PollJob := []
  resolved : List (ℕ × Option J) := []

/-- The tables and settings of the page. -/
structure PollConfig (J : Type) where
  /-- `_pollPrio[key]`, or 9 where that is null. `none` is an entry that is not a number. -/
  prio : Text → Option ℤ
  refreshMs : ℤ
  /-- `{}`, in place of a body that is not JSON. -/
  emptyObject : J

variable {J : Type}

/-! ## The page's own priorities -/

/-- The names every object inherits, to functions and objects. -/
def inheritedNames : List Text :=
  ["constructor", "__defineGetter__", "__defineSetter__", "hasOwnProperty", "__lookupGetter__",
    "__lookupSetter__", "isPrototypeOf", "propertyIsEnumerable", "toString", "valueOf",
    "__proto__", "toLocaleString"].map String.toList

/-- `_pollPrio`. -/
def pollPrio (key : Text) : Option ℤ :=
  if key = "state".toList then some 0
  else if key = "events".toList ∨ key = "logs".toList then some 1
  else if key = "sys".toList then some 2
  else if inheritedNames.any (key = ·) then none
  else some 9

/-- `REQ_TIMEOUT_MS`. -/
def reqTimeoutMs : ℕ := 45000

/-! ## Choosing a job -/

/-- `_age`. -/
def PollConfig.age (cfg : PollConfig J) : ℤ := max 1000 cfg.refreshMs

/-- `_pollQ[i].t||_now`. -/
def PollJob.since (job : PollJob) (now : ℤ) : ℤ := if job.t = 0 then now else job.t

/-- `_eff` and `_t` of a job. -/
def PollConfig.rank (cfg : PollConfig J) (now : ℤ) (job : PollJob) : Option ℤ × ℤ :=
  ((cfg.prio job.key).map fun base => urgency cfg.age base (job.since now) now, job.since now)

/-- `_eff<_beff||(_eff===_beff&&_t<_bt)`, which is false of what is not a number. -/
def beats : Option ℤ × ℤ → Option ℤ × ℤ → Bool
  | (some eff, t), (some beff, bt) => eff < beff || eff = beff && t < bt
  | _, _ => false

/-- The job that is taken, and the others. -/
def PollConfig.pick (cfg : PollConfig J) (now : ℤ) (queue : List PollJob) :
    Option (PollJob × List PollJob) :=
  (firstBest beats (queue.map (cfg.rank now))).bind fun best =>
    queue[best.1]?.map fun job => (job, queue.eraseIdx best.1)

/-! ## Steps -/

/-- `job.ms||REQ_TIMEOUT_MS`. -/
def PollJob.timeout (job : PollJob) : ℕ :=
  match job.ms with
  | none | some 0 => reqTimeoutMs
  | some ms => ms

/-- `_drainPollQ`, which issues at most one request. -/
def PollQueue.drain (cfg : PollConfig J) (now : ℤ) (s : PollQueue J) : PollQueue J :=
  if s.active then s
  else
    match cfg.pick now s.queue with
    | none => s
    | some (job, rest) =>
        { s with
          active := true
          queue := rest
          requests := s.requests ++ [{ job, timeout := job.timeout }]
          pending := s.pending + 1
          issued := s.issued ++ [job] }

def PollQueue.resolve (s : PollQueue J) (call : ℕ) (d : Option J) : PollQueue J :=
  { s with resolved := s.resolved ++ [(call, d)] }

/-- The queue with the job of this key handed to another call, and the call it belonged to. -/
def coalesce (key path : Text) (ms : Option ℕ) (call : ℕ) :
    List PollJob → Option (ℕ × List PollJob)
  | [] => none
  | job :: rest =>
      if job.key = key then some (job.caller, { job with path, ms, caller := call } :: rest)
      else (coalesce key path ms call rest).map fun found => (found.1, job :: found.2)

/-- `pollFetch`, with the readings of the clock at the push and in `_drainPollQ`. `blocked` is
`updateActive||_updModalShown()`. -/
def PollQueue.pollFetch (cfg : PollConfig J) (blocked : Bool) (key path : Text) (ms : Option ℕ)
    (t now : ℤ) (s : PollQueue J) : PollQueue J :=
  if blocked ∧ key ≠ "state".toList then
    { s.resolve s.calls none with calls := s.calls + 1 }
  else
    match coalesce key path ms s.calls s.queue with
    | some (old, queue) => { s.resolve old none with queue, calls := s.calls + 1 }
    | none =>
        PollQueue.drain cfg now
          { s with
            queue := s.queue ++ [{ id := s.calls, key, path, ms, caller := s.calls, t }]
            calls := s.calls + 1
            entered := s.entered ++ [s.calls] }

inductive PollOp (J : Type) where
  | call (blocked : Bool) (key path : Text) (ms : Option ℕ) (t now : ℤ)
  /-- The response of request `n` arrives. -/
  | respond (n : ℕ)
  /-- The request fails, or is aborted. -/
  | fail (n : ℕ)
  | body (n : ℕ) (d : J)
  /-- The body is not JSON, or reading it is aborted. -/
  | badBody (n : ℕ)
  /-- The last callback. -/
  | finish (n : ℕ) (now : ℤ)

/-- Request `n` comes to another transfer. -/
def PollQueue.advance (s : PollQueue J) (n : ℕ) (r : PollRequest J) (transfer : Transfer J) :
    PollQueue J :=
  { s with requests := s.requests.set n { r with transfer } }

/-- A callback of request `n`, which stands as `r`. -/
def PollQueue.callback (cfg : PollConfig J) (s : PollQueue J) (n : ℕ) (r : PollRequest J) :
    PollOp J → Option (PollQueue J)
  | .respond _ =>
      match r.transfer with
      | .fetching => some { s.advance n r .reading with pending := s.pending - 1 }
      | _ => none
  | .fail _ =>
      match r.transfer with
      | .fetching => some { s.advance n r (.settled none) with pending := s.pending - 1 }
      | _ => none
  | .body _ d =>
      match r.transfer with
      | .reading => some (s.advance n r (.settled (some d)))
      | _ => none
  | .badBody _ =>
      match r.transfer with
      | .reading => some (s.advance n r (.settled (some cfg.emptyObject)))
      | _ => none
  | .finish _ now =>
      match r.transfer with
      | .settled d =>
          some (PollQueue.drain cfg now
            { s.resolve r.job.caller d with
              requests := s.requests.eraseIdx n
              active := false })
      | _ => none
  | .call .. => none

/-- The request a callback belongs to. -/
def PollOp.request : PollOp J → Option ℕ
  | .call .. => none
  | .respond n | .fail n | .body n _ | .badBody n | .finish n _ => some n

def PollQueue.step (cfg : PollConfig J) (s : PollQueue J) (op : PollOp J) :
    Option (PollQueue J) :=
  match op with
  | .call blocked key path ms t now => some (s.pollFetch cfg blocked key path ms t now)
  | .respond n | .fail n | .body n _ | .badBody n | .finish n _ =>
      s.requests[n]?.bind fun r => s.callback cfg n r op

/-! ## Jobs taken and coalesced -/

variable {cfg : PollConfig J} {now : ℤ} {queue rest : List PollJob} {job : PollJob}

theorem pick_eq_none : cfg.pick now queue = none ↔ queue = [] := by
  constructor
  · intro h
    cases best : firstBest beats (queue.map (cfg.rank now)) with
    | none => exact List.map_eq_nil_iff.mp (firstBest_eq_none.mp best)
    | some found =>
        have here := firstBest_get best
        rw [List.getElem?_map, Option.map_eq_some_iff] at here
        obtain ⟨job, present, -⟩ := here
        rw [PollConfig.pick, best, Option.bind_some, present] at h
        cases h
  · rintro rfl
    rfl

/-- What `pick` takes stands at the place the scan found. -/
theorem pick_eq_some (h : cfg.pick now queue = some (job, rest)) :
    ∃ i, firstBest beats (queue.map (cfg.rank now)) = some (i, cfg.rank now job) ∧
      queue[i]? = some job ∧ rest = queue.eraseIdx i := by
  obtain ⟨⟨i, k⟩, best, taken⟩ := Option.bind_eq_some_iff.mp h
  obtain ⟨found, here, pair⟩ := Option.map_eq_some_iff.mp taken
  cases pair
  have rank := firstBest_get best
  rw [List.getElem?_map, here] at rank
  cases rank
  exact ⟨i, best, here, rfl⟩

theorem perm_of_pick (h : cfg.pick now queue = some (job, rest)) :
    queue.Perm (job :: rest) := by
  obtain ⟨i, -, here, rfl⟩ := pick_eq_some h
  obtain ⟨inside, rfl⟩ := List.getElem?_eq_some_iff.mp here
  exact (List.getElem_cons_eraseIdx_perm inside).symm

/-- A job with the key is handed over where it stands. -/
theorem coalesce_eq_some {key path : Text} {ms : Option ℕ} {call old : ℕ} {queue' : List PollJob}
    (h : coalesce key path ms call queue = some (old, queue')) :
    ∃ before job after, queue = before ++ job :: after ∧ job.key = key ∧ job.caller = old ∧
      queue' = before ++ { job with path, ms, caller := call } :: after := by
  induction queue generalizing queue' with
  | nil => cases h
  | cons first rest ih =>
      rw [coalesce] at h
      split at h
      case isTrue same =>
        cases h
        exact ⟨[], first, rest, rfl, same, rfl, rfl⟩
      case isFalse =>
        obtain ⟨⟨_, found⟩, inner, pair⟩ := Option.map_eq_some_iff.mp h
        cases pair
        obtain ⟨before, job, after, rfl, same, rfl, rfl⟩ := ih inner
        exact ⟨first :: before, job, after, rfl, same, rfl, rfl⟩

theorem coalesce_eq_none {key path : Text} {ms : Option ℕ} {call : ℕ}
    (h : coalesce key path ms call queue = none) : key ∉ queue.map PollJob.key := by
  induction queue with
  | nil => exact List.not_mem_nil
  | cons first rest ih =>
      rw [coalesce] at h
      split at h
      case isTrue => cases h
      case isFalse other =>
        rw [List.map_cons, List.mem_cons, not_or]
        exact ⟨fun same => other same.symm, ih (Option.map_eq_none_iff.mp h)⟩

/-! ## Soundness -/

def PollRequest.isFetching (r : PollRequest J) : Bool :=
  match r.transfer with
  | .fetching => true
  | _ => false

/-- How often the promise of a call was resolved. -/
def PollQueue.resolutions (s : PollQueue J) (call : ℕ) : ℕ :=
  s.resolved.countP fun entry => entry.1 = call

/-- How many queued jobs and requests in flight hold the `resolve` of a call. -/
def PollQueue.holders (s : PollQueue J) (call : ℕ) : ℕ :=
  s.queue.countP (fun job => job.caller = call) + s.requests.countP fun r => r.job.caller = call

/-- How often a job was issued. -/
def PollQueue.issues (s : PollQueue J) (id : ℕ) : ℕ := s.issued.countP fun job => job.id = id

/-- How often a job stands in the queue. -/
def PollQueue.queued (s : PollQueue J) (id : ℕ) : ℕ := s.queue.countP fun job => job.id = id

/-- What holds also before the queue is drained. -/
structure PollQueue.Kept (s : PollQueue J) : Prop where
  idle : s.active = false → s.requests = []
  busy : s.active = true → ∃ r, s.requests = [r]
  keys : (s.queue.map PollJob.key).Nodup
  pending : s.pending = s.requests.countP PollRequest.isFetching
  entered : s.entered.Nodup ∧ ∀ id ∈ s.entered, id < s.calls
  jobs : ∀ id, s.issues id + s.queued id = s.entered.count id
  callers : ∀ call, s.resolutions call + s.holders call = if call < s.calls then 1 else 0

structure PollQueue.Sound (s : PollQueue J) : Prop extends s.Kept where
  /-- No job waits while nothing is in flight. -/
  flowing : s.active = false → s.queue = []

variable {s s' : PollQueue J}

theorem PollQueue.Sound.initial : ({} : PollQueue J).Sound where
  idle _ := rfl
  busy h := nomatch h
  keys := List.nodup_nil
  pending := rfl
  entered := ⟨List.nodup_nil, fun _ h => absurd h List.not_mem_nil⟩
  jobs _ := rfl
  callers _ := rfl
  flowing _ := rfl

theorem PollQueue.Kept.drain (held : s.Kept) : (s.drain cfg now).Sound := by
  unfold PollQueue.drain
  split
  case isTrue active =>
    exact ⟨held, fun idle => by rw [active] at idle; cases idle⟩
  case isFalse inactive =>
    have idle := Bool.eq_false_iff.mpr inactive
    split
    case h_1 none => exact ⟨held, fun _ => pick_eq_none.mp none⟩
    case h_2 job rest taken =>
      have perm := perm_of_pick taken
      have quiet := held.idle idle
      refine ⟨⟨fun h => (nomatch h), fun _ => ⟨{ job, timeout := job.timeout }, ?_⟩, ?_, ?_,
        held.entered, ?_, ?_⟩, fun h => (nomatch h)⟩
      · rw [quiet]
        rfl
      · have keys := (perm.map PollJob.key).nodup_iff.mp held.keys
        exact (List.nodup_cons.mp keys).2
      · have pending := held.pending
        rw [quiet] at pending ⊢
        rw [pending]
        rfl
      · intro id
        have before := held.jobs id
        have count := perm.countP_eq (fun job => job.id = id)
        simp only [PollQueue.issues, PollQueue.queued, List.countP_append, List.countP_cons,
          List.countP_nil] at before count ⊢
        omega
      · intro call
        have before := held.callers call
        have count := perm.countP_eq (fun job => job.caller = call)
        simp only [PollQueue.resolutions, PollQueue.holders, List.countP_append, List.countP_cons,
          List.countP_nil] at before count ⊢
        omega

/-- One more call. -/
theorem ite_lt_succ (n call : ℕ) : (if call < n + 1 then 1 else 0) =
    (if call < n then 1 else 0) + if n = call then 1 else 0 := by
  split_ifs <;> omega

theorem PollQueue.Sound.pollFetch (held : s.Sound) (blocked : Bool) (key path : Text)
    (ms : Option ℕ) (t : ℤ) : (s.pollFetch cfg blocked key path ms t now).Sound := by
  have called : ∀ id ∈ s.entered, id < s.calls + 1 :=
    fun id mem => Nat.lt_succ_of_lt (held.entered.2 id mem)
  unfold PollQueue.pollFetch
  split
  case isTrue =>
    refine ⟨⟨held.idle, held.busy, held.keys, held.pending, ⟨held.entered.1, called⟩, held.jobs,
      fun call => ?_⟩, held.flowing⟩
    have before := held.callers call
    simp only [PollQueue.resolutions, PollQueue.holders, PollQueue.resolve, List.countP_append,
      List.countP_singleton, decide_eq_true_eq, ite_lt_succ] at before ⊢
    omega
  case isFalse =>
    split
    case h_1 old queue handed =>
      obtain ⟨left, job, right, parts, same, caller, rfl⟩ := coalesce_eq_some handed
      refine ⟨⟨held.idle, held.busy, ?_, held.pending, ⟨held.entered.1, called⟩, fun id => ?_,
        fun call => ?_⟩, fun idle => ?_⟩
      · have keys := held.keys
        rw [parts] at keys
        simpa using keys
      · have before := held.jobs id
        simp only [PollQueue.issues, PollQueue.queued, parts, List.countP_append,
          List.countP_cons] at before ⊢
        exact before
      · have before := held.callers call
        simp only [PollQueue.resolutions, PollQueue.holders, parts, PollQueue.resolve,
          List.countP_append, List.countP_cons, List.countP_nil, decide_eq_true_eq, caller,
          ite_lt_succ] at before ⊢
        omega
      · have empty := held.flowing idle
        rw [parts] at empty
        exact absurd empty (by simp)
    case h_2 missing =>
      refine PollQueue.Kept.drain ⟨held.idle, held.busy, ?_, held.pending, ⟨?_, ?_⟩, fun id => ?_,
        fun call => ?_⟩
      · rw [List.map_append]
        refine List.Nodup.append held.keys (List.nodup_singleton _) ?_
        exact List.disjoint_singleton.mpr (coalesce_eq_none missing)
      · refine List.Nodup.append held.entered.1 (List.nodup_singleton _) ?_
        exact List.disjoint_singleton.mpr fun old => lt_irrefl _ (held.entered.2 _ old)
      · intro id mem
        rcases List.mem_append.mp mem with old | new
        · exact called id old
        · rw [List.mem_singleton.mp new]
          exact Nat.lt_succ_self _
      · have before := held.jobs id
        simp only [PollQueue.issues, PollQueue.queued, List.countP_append, List.countP_singleton,
          List.count_append, List.count_singleton, decide_eq_true_eq, beq_iff_eq] at before ⊢
        omega
      · have before := held.callers call
        simp only [PollQueue.resolutions, PollQueue.holders, List.countP_append,
          List.countP_singleton, decide_eq_true_eq, ite_lt_succ] at before ⊢
        omega

/-- A request in flight is the only one. -/
theorem PollQueue.Kept.alone (held : s.Kept) {n : ℕ} {r : PollRequest J}
    (here : s.requests[n]? = some r) : n = 0 ∧ s.requests = [r] := by
  cases active : s.active with
  | false =>
      rw [held.idle active] at here
      cases here
  | true =>
      obtain ⟨only, single⟩ := held.busy active
      rw [single] at here
      cases n with
      | zero =>
          cases here
          exact ⟨rfl, single⟩
      | succ n => cases here

/-- A callback that only moves the transfer on. -/
theorem PollQueue.Sound.advance (held : s.Sound) {n : ℕ} {r : PollRequest J}
    (here : s.requests[n]? = some r) (transfer : Transfer J) (pending : ℕ)
    (counts : pending = [{ r with transfer }].countP PollRequest.isFetching) :
    ({ s.advance n r transfer with pending } : PollQueue J).Sound := by
  obtain ⟨rfl, single⟩ := held.alone here
  have set : s.requests.set 0 { r with transfer } = [{ r with transfer }] := by rw [single]; rfl
  have busy : s.active = true := by
    cases active : s.active with
    | false =>
        rw [held.idle active] at here
        cases here
    | true => rfl
  refine ⟨⟨fun idle => ?_, fun _ => ⟨_, set⟩, held.keys, ?_, held.entered, held.jobs,
    fun call => ?_⟩,
    held.flowing⟩
  · rw [PollQueue.advance, busy] at idle
    cases idle
  · rw [PollQueue.advance, set]
    exact counts
  · have before := held.callers call
    simp only [PollQueue.resolutions, PollQueue.holders, PollQueue.advance, single,
      List.set_cons_zero, List.countP_singleton] at before ⊢
    exact before

/-- What a callback does: the transfer moves on, or it is over and the queue is drained. -/
theorem PollQueue.callback_cases {n : ℕ} {r : PollRequest J} {op : PollOp J}
    (h : s.callback cfg n r op = some s') :
    (r.transfer = .fetching ∧ ∃ transfer, (transfer = .reading ∨ transfer = .settled none) ∧
      s' = { s.advance n r transfer with pending := s.pending - 1 }) ∨
    (r.transfer = .reading ∧ ∃ d, s' = s.advance n r (.settled (some d))) ∨
    (∃ d now, r.transfer = .settled d ∧ s' = PollQueue.drain cfg now
      { s.resolve r.job.caller d with
        requests := s.requests.eraseIdx n
        active := false }) := by
  cases op with
  | call blocked key path ms t now => cases h
  | respond m =>
      dsimp only [PollQueue.callback] at h
      split at h
      case h_1 fetching =>
        cases h
        exact Or.inl ⟨fetching, _, Or.inl rfl, rfl⟩
      case h_2 => cases h
  | fail m =>
      dsimp only [PollQueue.callback] at h
      split at h
      case h_1 fetching =>
        cases h
        exact Or.inl ⟨fetching, _, Or.inr rfl, rfl⟩
      case h_2 => cases h
  | body m d | badBody m =>
      dsimp only [PollQueue.callback] at h
      split at h
      case h_1 reading =>
        cases h
        exact Or.inr (Or.inl ⟨reading, _, rfl⟩)
      case h_2 => cases h
  | finish m now =>
      dsimp only [PollQueue.callback] at h
      split at h
      case h_1 d settled =>
        cases h
        exact Or.inr (Or.inr ⟨d, now, settled, rfl⟩)
      case h_2 => cases h

theorem PollQueue.Sound.callback (held : s.Sound) {n : ℕ} {r : PollRequest J}
    (here : s.requests[n]? = some r) {op : PollOp J} (h : s.callback cfg n r op = some s') :
    s'.Sound := by
  have pending := held.pending
  rw [(held.alone here).2] at pending
  rcases PollQueue.callback_cases h with
    ⟨fetching, transfer, moved, rfl⟩ | ⟨reading, d, rfl⟩ | ⟨d, now, settled, rfl⟩
  · refine held.advance here _ _ ?_
    rw [pending]
    rcases moved with rfl | rfl <;> simp [PollRequest.isFetching, fetching]
  · refine held.advance here _ s.pending ?_
    simp [PollRequest.isFetching, pending, reading]
  · obtain ⟨rfl, single⟩ := held.alone here
    have quiet : s.requests.eraseIdx 0 = [] := by rw [single]; rfl
    refine PollQueue.Kept.drain ⟨fun _ => quiet, fun h => (nomatch h), held.keys, ?_,
      held.entered, held.jobs, fun call => ?_⟩
    · rw [quiet]
      simp [PollQueue.resolve, pending, PollRequest.isFetching, settled]
    · have before := held.callers call
      simp only [PollQueue.resolutions, PollQueue.holders, PollQueue.resolve, single,
        List.eraseIdx_zero, List.tail_cons, List.countP_append, List.countP_singleton,
        List.countP_nil, decide_eq_true_eq] at before ⊢
      omega

theorem PollQueue.Sound.step (held : s.Sound) {op : PollOp J} (h : s.step cfg op = some s') :
    s'.Sound := by
  cases op with
  | call blocked key path ms t now =>
      cases h
      exact held.pollFetch blocked key path ms t
  | respond n | fail n | body n d | badBody n | finish n now =>
      obtain ⟨r, here, ran⟩ := Option.bind_eq_some_iff.mp h
      exact held.callback here ran

theorem sound_of_run {ops : List (PollOp J)}
    (h : run (PollQueue.step cfg) {} ops = some s) : s.Sound :=
  run_invariant (fun _ _ _ held h => PollQueue.Sound.step held h) PollQueue.Sound.initial h

/-! ## The queue runs empty -/

/-- How many callbacks are due before a transfer is over. -/
def Transfer.due : Transfer J → ℕ
  | .fetching => 3
  | .reading => 2
  | .settled _ => 1

/-- A bound on the callbacks until the queue is empty. -/
def PollQueue.work (s : PollQueue J) : ℕ :=
  3 * s.queue.length + (s.requests.map fun r => r.transfer.due).sum

theorem PollQueue.work_drain (idle : s.active = false) (quiet : s.requests = []) :
    (s.drain cfg now).work ≤ 3 * s.queue.length := by
  unfold PollQueue.drain
  rw [idle, if_neg Bool.false_ne_true]
  split
  case h_1 =>
    rw [PollQueue.work, quiet]
    exact le_rfl
  case h_2 job rest taken =>
    have shorter : s.queue.length = rest.length + 1 := (perm_of_pick taken).length_eq
    simp only [PollQueue.work, quiet, List.nil_append, List.map_singleton, List.sum_singleton,
      Transfer.due]
    omega

/-- Each callback leaves less to do. -/
theorem PollQueue.Sound.work_callback (held : s.Sound) {n : ℕ} {r : PollRequest J}
    (here : s.requests[n]? = some r) {op : PollOp J} (h : s.callback cfg n r op = some s') :
    s'.work < s.work := by
  obtain ⟨rfl, single⟩ := held.alone here
  have total : s.work = 3 * s.queue.length + r.transfer.due := by
    simp [PollQueue.work, single]
  have moved : ∀ transfer pending, ({ s.advance 0 r transfer with pending } : PollQueue J).work =
      3 * s.queue.length + transfer.due := by
    intro transfer pending
    simp [PollQueue.work, PollQueue.advance, single]
  rw [total]
  rcases PollQueue.callback_cases h with
    ⟨fetching, transfer, next, rfl⟩ | ⟨reading, d, rfl⟩ | ⟨d, now, settled, rfl⟩
  · rw [moved, fetching]
    rcases next with rfl | rfl <;> simp [Transfer.due]
  · rw [reading]
    exact (moved _ s.pending).trans_lt (by simp [Transfer.due])
  · rw [settled]
    refine (PollQueue.work_drain rfl (by rw [single]; rfl)).trans_lt ?_
    exact Nat.lt_succ_self _

/-- While a request is in flight one of its callbacks can come. -/
theorem PollQueue.callback_due (cfg : PollConfig J) {n : ℕ} {r : PollRequest J}
    (here : s.requests[n]? = some r) :
    ∃ op : PollOp J, op.request = some n ∧ (s.step cfg op).isSome := by
  cases transfer : r.transfer with
  | fetching => exact ⟨.fail n, rfl, by simp [PollQueue.step, PollQueue.callback, here, transfer]⟩
  | reading => exact ⟨.badBody n, rfl, by simp [PollQueue.step, PollQueue.callback, here, transfer]⟩
  | settled d =>
      exact ⟨.finish n 0, rfl, by simp [PollQueue.step, PollQueue.callback, here, transfer]⟩

/-- Without new calls, a run has at most `work` steps. -/
theorem work_of_run {ops : List (PollOp J)} (held : s.Sound)
    (callbacks : ∀ op ∈ ops, op.request ≠ none)
    (h : run (PollQueue.step cfg) s ops = some s') : s'.work + ops.length ≤ s.work := by
  induction ops generalizing s with
  | nil =>
      cases h
      exact le_rfl
  | cons op ops ih =>
      obtain ⟨m, stepped, rest⟩ := run_cons_eq_some.mp h
      have later := ih (held.step stepped) (fun op mem => callbacks op (List.mem_cons_of_mem _ mem))
        rest
      have less : m.work < s.work := by
        cases op with
        | call blocked key path ms t now => exact absurd rfl (callbacks _ List.mem_cons_self)
        | respond n | fail n | body n d | badBody n | finish n now =>
            obtain ⟨r, here, ran⟩ := Option.bind_eq_some_iff.mp stepped
            exact held.work_callback here ran
      rw [List.length_cons]
      omega

/-! ## Runs of the page -/

def pageBase (key : Text) : ℤ := (pollPrio key).getD 9

def pageConfig : PollConfig Text where
  prio key := some (pageBase key)
  refreshMs := 3000
  emptyObject := "{}".toList

def pollOf (id : ℕ) (key : String) (t : ℤ) : PollJob where
  id
  key := key.toList
  path := ("/api/" ++ key).toList
  ms := none
  caller := id
  t

def polled (key : String) (t : ℤ) : PollOp Text :=
  .call false key.toList ("/api/" ++ key).toList none t t

/-! ## Every promise once -/

/-- After every run of calls and callbacks at most one request is in flight and at most one job a
key is queued, one is in flight wherever a job is queued, each job that left the queue was issued
once, and each call's promise was resolved once, or is held by one queued job or the request.
Callbacks alone lead in at most `work` steps to where none is held, and one is due until then. -/
theorem promises_resolved_once {ops : List (PollOp J)}
    (h : run (PollQueue.step cfg) {} ops = some s) :
    s.requests.length ≤ 1 ∧ (s.queue.map PollJob.key).Nodup ∧
      (s.queue ≠ [] → s.active = true ∧ s.requests.length = 1) ∧
      (∀ id ∈ s.entered, s.issues id + s.queued id = 1) ∧
      (∀ call < s.calls, s.resolutions call + s.holders call = 1) ∧
      (s.requests = [] → ∀ call < s.calls, s.resolutions call = 1) ∧
      (s.requests ≠ [] → ∃ op : PollOp J, op.request ≠ none ∧ (s.step cfg op).isSome) ∧
      ∀ later s', (∀ op ∈ later, op.request ≠ none) →
        run (PollQueue.step cfg) s later = some s' → later.length ≤ s.work := by
  have held := sound_of_run h
  have flight : s.requests.length = if s.active then 1 else 0 := by
    cases active : s.active with
    | false => rw [held.idle active]; rfl
    | true =>
        obtain ⟨r, single⟩ := held.busy active
        rw [single]
        rfl
  have owned : ∀ call < s.calls, s.resolutions call + s.holders call = 1 := fun call made =>
    (held.callers call).trans (if_pos made)
  refine ⟨?_, held.keys, ?_, ?_, owned, ?_, ?_, ?_⟩
  · rw [flight]
    split <;> omega
  · intro waiting
    cases active : s.active with
    | false => exact absurd (held.flowing active) waiting
    | true =>
        rw [flight, active]
        exact ⟨rfl, rfl⟩
  · intro id mem
    rw [held.jobs id]
    exact List.count_eq_one_of_mem held.entered.1 mem
  · intro quiet call made
    have idle : s.active = false := by
      cases active : s.active with
      | false => rfl
      | true =>
          rw [quiet, active] at flight
          cases flight
    have all := owned call made
    rw [PollQueue.holders, quiet, held.flowing idle] at all
    exact all
  · intro waiting
    obtain ⟨r, rest, some⟩ := List.exists_cons_of_ne_nil waiting
    obtain ⟨op, belongs, enabled⟩ := PollQueue.callback_due (s := s) (n := 0) (r := r) cfg
      (by rw [some]; rfl)
    exact ⟨op, by rw [belongs]; exact Option.some_ne_none _, enabled⟩
  · intro later s' callbacks ran
    exact (Nat.le_add_left _ _).trans (work_of_run held callbacks ran)

/-- The second call for `events` takes over the job of the first. -/
theorem promises_resolved_once_coalesced :
    ∃ s, run (PollQueue.step pageConfig) {} [polled "state" 1, polled "events" 1,
        polled "events" 2, .respond 0, .body 0 "ok".toList, .finish 0 3, .fail 0, .finish 0 4] =
          some s ∧ s.calls = 3 ∧ ∀ call < 3, s.resolutions call = 1 := by
  have seen : (run (PollQueue.step pageConfig) {} [polled "state" 1, polled "events" 1,
      polled "events" 2, .respond 0, .body 0 "ok".toList, .finish 0 3, .fail 0,
      .finish 0 4]).any fun s => s.calls = 3 && s.requests.length = 0 := by decide
  obtain ⟨s, ran, facts⟩ := (Option.any_eq_true _ _).mp seen
  simp only [Bool.and_eq_true, decide_eq_true_eq, List.length_eq_zero_iff] at facts
  obtain ⟨three, quiet⟩ := facts
  obtain ⟨-, -, -, -, -, all, -⟩ := promises_resolved_once ran
  exact ⟨s, ran, three, three ▸ all quiet⟩

end GeneratorPi
