import GeneratorPi.Lib.Handled
import GeneratorPi.Subscriptions

/-!
# Sending a notification to every subscription

`send_push` (`genpi/store.py`) goes through the rows of the subscription table.  A delivery ends
with an HTTP status or raises; whatever it raises is logged, and the next subscription has its
turn (`sendTo_run`).  A 404 or 410 removes the row of that endpoint.
-/

namespace GeneratorPi

namespace FanOut

open Handled Noninterference PyText

/-- What `get_subscriptions` returns of a row. -/
structure Target where
  endpoint : Text
  p256dh : Text
  auth : Text
  deriving DecidableEq

def targetOf (row : Subscription) : Target := ⟨row.endpoint, row.p256dh, row.auth⟩

inductive PushError where
  /-- `requests.RequestException` -/
  | request (e : String)
  | other (e : String)
  deriving DecidableEq

def PushError.text : PushError → String
  | .request e | .other e => e

/-- How `_deliver_push` ends. -/
inductive Delivery where
  | status (code : ℤ)
  | raised (e : PushError)
  deriving DecidableEq

/-- The push service does not know the subscription any more. -/
def Delivery.gone : Delivery → Bool
  | .status code => code = 404 || code = 410
  | .raised _ => false

/-- What a call meets: the settings, the push services and the database. -/
structure World where
  /-- `push_available()` -/
  available : Bool
  /-- `Vapid.from_raw` takes the key. -/
  validKey : Bool
  outcome : Text → Delivery
  /-- `_event_conn is not None` -/
  connected : Bool
  reads : Bool
  /-- The `DELETE` of an endpoint goes through, and the commit after it. -/
  deletes : Text → Bool
  commits : Text → Bool

structure SendState where
  rows : SubscriptionTable
  attempts : List Target := []
  log : List String := []

abbrev Send (α : Type) := EStateM PushError SendState α

def logLine (line : String) : Send Unit := modify fun s => { s with log := s.log ++ [line] }

/-- A call of the database. -/
def database (answers : Bool) (effect : SendState → SendState) : Send Unit := fun s =>
  if answers then .ok () (effect s) else .error (.other "sqlite3.Error") s

/-- `get_subscriptions`. -/
def getSubscriptions (w : World) : Send (List Target) :=
  attempt
    (if w.connected then do
      database w.reads id
      return (← get).rows.map targetOf
    else pure [])
    fun e => do
      logLine ("Failed to read push subscriptions: " ++ e.text)
      return []

/-- `remove_subscription`. -/
def removeSubscription (w : World) (endpoint : Text) : Send Unit :=
  attempt
    (if w.connected then do
      database (w.deletes endpoint) fun s =>
        { s with
          rows := s.rows.filter fun row => row.endpoint ≠ endpoint }
      database (w.commits endpoint) id
    else pure ())
    fun e => logLine ("Failed to remove push subscription: " ++ e.text)

/-- `_deliver_push`. -/
def deliverPush (w : World) (sub : Target) : Send ℤ := do
  modify fun s => { s with attempts := s.attempts ++ [sub] }
  match w.outcome sub.endpoint with
  | .status code => pure code
  | .raised e => throw e

/-- What the loop does with a status. -/
def onStatus (w : World) (sub : Target) (status : ℤ) : Send Unit :=
  if status = 404 ∨ status = 410 then do
    logLine s!"Pruning dead push subscription ({status})"
    removeSubscription w sub.endpoint
  else if 202 < status then logLine s!"Web push failed (status={status})"
  else pure ()

def onError : PushError → Send Unit
  | .request e => logLine s!"Web push transport error: {e}"
  | .other e => logLine s!"Web push error: {e}"

/-- One turn of the loop. -/
def sendTo (w : World) (sub : Target) : Send Unit :=
  attempt (do onStatus w sub (← deliverPush w sub)) onError

/-- `send_push`. -/
def sendPush (w : World) : Send Unit := do
  if w.available then
    let subs ← getSubscriptions w
    if !subs.isEmpty then
      if w.validKey then
        for sub in subs do sendTo w sub
      else logLine "Invalid VAPID key, cannot send push"

/-! ## One turn -/

variable {w : World}

/-- The row of the endpoint is removed. -/
def World.prunes (w : World) (endpoint : Text) : Bool :=
  (w.outcome endpoint).gone && (w.connected && w.deletes endpoint)

theorem removeSubscription_run (w : World) (endpoint : Text) (s : SendState) :
    ∃ t, removeSubscription w endpoint s = .ok () t ∧ t.attempts = s.attempts ∧
      t.rows = if w.connected && w.deletes endpoint then
        s.rows.filter fun row => row.endpoint ≠ endpoint else s.rows := by
  unfold removeSubscription
  cases w.connected with
  | false => exact ⟨s, rfl, rfl, rfl⟩
  | true =>
      cases deletes : w.deletes endpoint with
      | false => exact ⟨_, rfl, rfl, rfl⟩
      | true => cases commits : w.commits endpoint <;> exact ⟨_, rfl, rfl, rfl⟩

theorem onStatus_run (w : World) (sub : Target) (status : ℤ) (s : SendState) :
    ∃ t, onStatus w sub status s = .ok () t ∧ t.attempts = s.attempts ∧
      t.rows = if (Delivery.status status).gone && (w.connected && w.deletes sub.endpoint) then
        s.rows.filter fun row => row.endpoint ≠ sub.endpoint else s.rows := by
  unfold onStatus
  by_cases gone : status = 404 ∨ status = 410
  · have isGone : (Delivery.status status).gone = true := by simpa [Delivery.gone] using gone
    let logged : SendState :=
      { s with log := s.log ++ [s!"Pruning dead push subscription ({status})"] }
    obtain ⟨t, removed, attempts, rows⟩ := removeSubscription_run w sub.endpoint logged
    rw [if_pos gone, isGone, Bool.true_and]
    exact ⟨t, removed, attempts, rows⟩
  · have notGone : (Delivery.status status).gone = false := by simpa [Delivery.gone] using gone
    rw [if_neg gone, notGone, Bool.false_and]
    split
    · exact ⟨_, rfl, rfl, rfl⟩
    · exact ⟨_, rfl, rfl, rfl⟩

/-- Whatever a delivery ends with, the turn returns. -/
theorem sendTo_run (w : World) (sub : Target) (s : SendState) :
    ∃ t, sendTo w sub s = .ok () t ∧ t.attempts = s.attempts ++ [sub] ∧
      t.rows = if w.prunes sub.endpoint then
        s.rows.filter fun row => row.endpoint ≠ sub.endpoint else s.rows := by
  let attempted : SendState := { s with attempts := s.attempts ++ [sub] }
  rw [World.prunes]
  cases outcome : w.outcome sub.endpoint with
  | status code =>
      have delivered : deliverPush w sub s = .ok code attempted := by
        rw [deliverPush, outcome]
        rfl
      obtain ⟨t, ran, attempts, rows⟩ := onStatus_run w sub code attempted
      have body : (deliverPush w sub >>= onStatus w sub) s = .ok () t :=
        (bind_run delivered).trans ran
      exact ⟨t, attempt_of_ok onError body, attempts, rows⟩
  | raised e =>
      have delivered : deliverPush w sub s = .error e attempted := by
        rw [deliverPush, outcome]
        rfl
      have body : (deliverPush w sub >>= onStatus w sub) s = .error e attempted :=
        bind_raised delivered
      cases e with
      | request e => exact ⟨_, attempt_of_error onError body, rfl, rfl⟩
      | other e => exact ⟨_, attempt_of_error onError body, rfl, rfl⟩

/-! ## All turns -/

theorem sendAll_run (w : World) (subs : List Target) (s : SendState) :
    ∃ t, (do for sub in subs do sendTo w sub : Send Unit) s = .ok () t ∧
      t.attempts = s.attempts ++ subs ∧
      t.rows = s.rows.filter fun row =>
        !(w.prunes row.endpoint && subs.any fun sub => sub.endpoint = row.endpoint) := by
  induction subs generalizing s with
  | nil =>
      refine ⟨s, rfl, (List.append_nil _).symm, ?_⟩
      simp
  | cons sub subs ih =>
      obtain ⟨m, turn, attempts, rows⟩ := sendTo_run w sub s
      obtain ⟨t, later, attempts', rows'⟩ := ih m
      refine ⟨t, (forIn_cons_run turn).trans later, ?_, ?_⟩
      · rw [attempts', attempts, List.append_assoc, List.singleton_append]
      · rw [rows', rows]
        cases pruned : w.prunes sub.endpoint with
        | true =>
            rw [if_pos rfl, List.filter_filter]
            refine List.filter_congr fun row _ => ?_
            by_cases here : sub.endpoint = row.endpoint
            · simp [← here, pruned]
            · simp [here, Ne.symm here]
        | false =>
            refine List.filter_congr fun row _ => ?_
            by_cases here : sub.endpoint = row.endpoint
            · simp [← here, pruned]
            · simp [here]

/-! ## The fan-out -/

/-- Push is available, the VAPID key is valid, and the database answers. -/
structure World.Ready (w : World) : Prop where
  available : w.available = true
  validKey : w.validKey = true
  connected : w.connected = true
  reads : w.reads = true
  deletes : ∀ endpoint, w.deletes endpoint = true
  commits : ∀ endpoint, w.commits endpoint = true

theorem getSubscriptions_run (w : World) (s : SendState) :
    ∃ subs t, getSubscriptions w s = .ok subs t ∧
      (w.connected = true → w.reads = true → subs = s.rows.map targetOf ∧ t = s) := by
  unfold getSubscriptions
  cases w.connected with
  | false => exact ⟨[], s, rfl, fun no => (nomatch no)⟩
  | true =>
      cases w.reads with
      | false => exact ⟨[], _, rfl, fun _ no => (nomatch no)⟩
      | true => exact ⟨_, s, rfl, fun _ _ => ⟨rfl, rfl⟩⟩

/-- It never raises; and with push available, a valid key and a database that answers it attempts
every subscription once, in the order of the rows, and removes the rows of those that are gone. -/
theorem sendPush_fansOut (w : World) (rows : SubscriptionTable) :
    ∃ s, sendPush w { rows } = .ok () s ∧
      (w.Ready → s.attempts = rows.map targetOf ∧
        (rows.Keyed → (s.attempts.map Target.endpoint).Nodup) ∧
        s.rows = rows.filter fun row => !(w.outcome row.endpoint).gone) := by
  unfold sendPush
  cases available : w.available with
  | false => exact ⟨_, rfl, fun ready => absurd ready.available (by simp [available])⟩
  | true =>
      obtain ⟨subs, read, reading, same⟩ := getSubscriptions_run w { rows }
      rw [if_pos rfl, bind_run reading]
      cases none : subs.isEmpty with
      | true =>
          refine ⟨read, rfl, fun ready => ?_⟩
          obtain ⟨all, rfl⟩ := same ready.connected ready.reads
          rw [List.isEmpty_iff, all, List.map_eq_nil_iff] at none
          change rows = [] at none
          subst none
          exact ⟨rfl, fun _ => List.nodup_nil, rfl⟩
      | false =>
          cases valid : w.validKey with
          | false => exact ⟨_, rfl, fun ready => absurd ready.validKey (by simp [valid])⟩
          | true =>
              obtain ⟨t, sent, attempts, left⟩ := sendAll_run w subs read
              refine ⟨t, sent, fun ready => ?_⟩
              obtain ⟨rfl, rfl⟩ := same ready.connected ready.reads
              rw [List.nil_append] at attempts
              refine ⟨attempts, fun keyed => ?_, left.trans (List.filter_congr fun row mem => ?_)⟩
              · rw [attempts, List.map_map]
                exact keyed
              · have listed : (rows.map targetOf).any (fun sub => sub.endpoint = row.endpoint) =
                    true := List.any_eq_true.mpr
                  ⟨targetOf row, List.mem_map_of_mem mem, decide_eq_true rfl⟩
                have goes : w.prunes row.endpoint = (w.outcome row.endpoint).gone := by
                  rw [World.prunes, ready.connected, ready.deletes, Bool.true_and, Bool.and_true]
                rw [listed, goes, Bool.and_true]

/-! ## One endpoint of each kind -/

/-- One subscription is gone, one fails, one has malformed keys, and one is sent to. -/
def mixedWorld : World where
  available := true
  validKey := true
  outcome endpoint :=
    if endpoint = ['a'] then .status 410
    else if endpoint = ['b'] then .status 500
    else if endpoint = ['c'] then .raised (.other "ValueError")
    else .status 201
  connected := true
  reads := true
  deletes _ := true
  commits _ := true

def fourRows : SubscriptionTable :=
  ["a", "b", "c", "d"].map fun name => ⟨name.toList, [], [], 0⟩

theorem fansOut_mixedWorld :
    mixedWorld.Ready ∧ ∃ s, sendPush mixedWorld { rows := fourRows } = .ok () s ∧
      s.attempts.map Target.endpoint = [['a'], ['b'], ['c'], ['d']] ∧
      s.rows.map Subscription.endpoint = [['b'], ['c'], ['d']] := by
  have ready : mixedWorld.Ready := ⟨rfl, rfl, rfl, rfl, fun _ => rfl, fun _ => rfl⟩
  obtain ⟨s, sent, fansOut⟩ := sendPush_fansOut mixedWorld fourRows
  obtain ⟨attempts, -, rows⟩ := fansOut ready
  refine ⟨ready, s, sent, ?_, ?_⟩
  · rw [attempts]
    decide
  · rw [rows]
    decide

end FanOut

end GeneratorPi
