import GeneratorPi.PushEndpoint
import GeneratorPi.Requests

/-!
# The endpoints that take an object

`api_set_running` and `api_set_record_http` (`genpi/routes/core.py`), `api_update_decide`
(`genpi/routes/update.py`), and the subscription endpoints (`genpi/routes/push.py`), over any body.

Three of them test that the body is an object.  `api_set_record_http` and `api_update_decide`
write `get_json(silent=True) or {}` and raise on a list, a string, a number or `true`; the
subscription does the same with `keys`, and leaves what `urlparse` raises to its caller.  All of
them raise on a body that is nested too deep for the decoder (`answered_iff`).
-/

namespace GeneratorPi

open Handled Noninterference PyJson PyText

/-- The libraries behind the subscription endpoints. -/
structure PushLibraries extends EndpointLookup where
  /-- The text SQLite makes of a float in a column of text. -/
  realText : FloatValue → Text
  /-- The rows SQLite selects as the newest. -/
  newest : SubscriptionTable → Subscription → Bool

/-! ## The store -/

namespace Api

variable (libs : PushLibraries) (request : RequestContext)

/-- One `execute` on a table outside the board. -/
def execute (effect : Site → Site) : Handler Unit := do
  onBoard (Proc.execute id)
  modify effect

def withEventLock {α : Type} : Handler α → Handler α :=
  bracket (fun s => { s with board := { s.board with control := { s.board.control with
      eventLock := s.board.control.eventLock + 1 } } })
    (fun s => { s with board := { s.board with control := { s.board.control with
      eventLock := s.board.control.eventLock - 1 } } })

/-- What the parameter of a statement is stored as, in a column of text. -/
def bindText : Json → Except PyError Text
  | .str s => .ok s
  | .bool b => .ok [if b then '1' else '0']
  | .int n =>
      if -2 ^ 63 ≤ n ∧ n < 2 ^ 63 then .ok (toString n).toList
      else .error ⟨.overflow, "Python int too large to convert to SQLite INTEGER"⟩
  | .float .nan _ | .null => .error ⟨.other, "NOT NULL constraint failed"⟩
  | .float value _ => .ok (libs.realText value)
  | .list _ | .dict _ => .error ⟨.other, "Error binding parameter"⟩

/-- The body of `add_subscription`. -/
def insertSubscription (endpoint p256dh auth : Json) : Handler Unit :=
  withEventLock do
    if ← onBoard Proc.isOpen then
      let endpoint ← bindText libs endpoint
      let p256dh ← bindText libs p256dh
      let auth ← bindText libs auth
      execute fun s => { s with
        subscriptions := upsertRow s.subscriptions endpoint p256dh auth (request.clock 0) }
      execute fun s => { s with
        subscriptions := s.subscriptions.filter (libs.newest s.subscriptions) }
      onBoard Proc.commit
    else pure ()

/-- `add_subscription`. -/
def addSubscription (endpoint p256dh auth : Json) : Handler Unit :=
  swallow (insertSubscription libs request endpoint p256dh auth)

/-- `remove_subscription`. -/
def removeSubscription (endpoint : Json) : Handler Unit :=
  swallow <| withEventLock do
    if ← onBoard Proc.isOpen then
      let endpoint ← bindText libs endpoint
      execute fun s => { s with
        subscriptions := s.subscriptions.filter fun row => row.endpoint ≠ endpoint }
      onBoard Proc.commit
    else pure ()

/-- `subscription_count`. -/
def subscriptionCount : Handler ℕ :=
  attempt
    (withEventLock do
      if ← onBoard Proc.isOpen then
        onBoard (Proc.execute id)
        return (← get).subscriptions.length
      else return 0)
    fun _ => return 0

/-- `get_events(limit=1)`. -/
def newestEvent : Handler (Option Event) :=
  attempt
    (withEventLock do
      if ← onBoard Proc.isOpen then
        onBoard (Proc.execute id)
        return (getEvents (← get).board.store.events 1 none none).head?
      else return none)
    fun _ => return none

/-- `set_record_routine_http`. -/
def setRecordRoutineHttp (enabled : Bool) : Handler Bool := do
  modify fun s => { s with recordHttpCache := some enabled }
  -- `kv_set`.
  swallow <| withEventLock do
    if ← onBoard Proc.isOpen then
      execute fun s => { s with recordHttpRow := some enabled }
      onBoard Proc.commit
    else pure ()
  return enabled

/-! ## The handlers -/

/-- `api_set_running`. -/
def setRunning (data : Json) : Handler Response := do
  let raw ← (dictOrEmpty data).get "running" (.bool false)
  let running := flagOf raw
  let _ ← onBoard (Proc.setRunning request.config (request.clock 0) running request.actor)
  return ⟨200, [("success", .bool true), ("running", .bool running)]⟩

/-- `api_set_record_http`. -/
def setRecordHttp (data : Json) : Handler Response := do
  let enabled ← (data.orElse (.dict [])).get "enabled" .null
  let value ← setRecordRoutineHttp enabled.truthy
  return ⟨200, [("record_http", .bool value)]⟩

def choiceText : Choice → String
  | .proceed => "proceed"
  | .revert => "revert"

/-- The choice, if it is one of the two. -/
def choiceOf : Json → Option Choice
  | .str s =>
      if s = "proceed".toList then some .proceed
      else if s = "revert".toList then some .revert
      else none
  | _ => none

/-- The response to a request with the outcome of its locked section. -/
def answerDecision : DecideResponse × Handshake → Handler Response
  | (.invalidChoice, _) => return failed 400 "choice must be 'proceed' or 'revert'"
  | (.nothingPending, _) => return failed 409 "no decision is pending"
  | (.accepted choice, decision) => do
      modify fun s => { s with decision := decision }
      -- `_update_decision_event.set()`.
      modify fun s => { s with
        decision := { s.decision with event := true, unsignalled := s.decision.unsignalled - 1 } }
      return ⟨200, [("success", .bool true), ("choice", .str (choiceText choice).toList)]⟩

/-- `api_update_decide`. -/
def updateDecide (data : Json) : Handler Response := do
  let choice ← (data.orElse (.dict [])).get "choice" .null
  answerDecision (apiUpdateDecide (choiceOf choice) (← get).decision)

/-- `jsonify({"success": True, "subscriptions": subscription_count()})`. -/
def answerCount : Handler Response := do
  let count ← subscriptionCount
  return ⟨200, [("success", .bool true), ("subscriptions", .int count)]⟩

/-- The rest of a subscription, whose fields have been read. -/
def storeSubscription (endpoint p256dh auth : Json) : Handler Response := do
  if !endpoint.truthy || !p256dh.truthy || !auth.truthy then
    return failed 400 "missing endpoint or keys"
  else
    match ← pushEndpointError libs.toEndpointLookup endpoint with
    | some epErr => return failed 400 epErr
    | none =>
        addSubscription libs request endpoint p256dh auth
        answerCount

/-- `api_push_subscribe`. -/
def pushSubscribe (data : Json) : Handler Response := do
  if !isDict data then return failed 400 "invalid subscription"
  else
    let endpoint ← data.get "endpoint" .null
    let keys := (← data.get "keys" .null).orElse (.dict [])
    let p256dh ← keys.get "p256dh" .null
    let auth ← keys.get "auth" .null
    storeSubscription libs request endpoint p256dh auth

/-- `api_push_unsubscribe`. -/
def pushUnsubscribe (data : Json) : Handler Response := do
  let endpoint ← (dictOrEmpty data).get "endpoint" .null
  if !endpoint.truthy then return failed 400 "missing endpoint"
  removeSubscription libs endpoint
  answerCount

/-- `_BROWSER_NOTIFY_MESSAGES`. -/
def browserNotifyMessages : List (String × String) :=
  [("blocked", "Browser reports notifications are BLOCKED in this device's site settings"),
    ("unsupported", "Browser reports it does not support web push notifications"),
    ("insecure", "Browser cannot enable push (insecure / non-HTTPS context on this device)")]

/-- The server's message for a status code. -/
def notifyMessage : Json → Option String
  | .str status => (browserNotifyMessages.find? fun entry => entry.1.toList = status).map (·.2)
  | _ => none

/-- The event is the same report; its text ends in the actor's name. -/
def sameReport (message : String) (e : Event) : Bool :=
  e.type = "browser" && message.toList.isPrefixOf e.message

/-- Record a status, unless the newest event is the same report. -/
def recordStatus (message : String) : Handler Response := do
  let newest ← newestEvent
  if newest.any (sameReport message) then
    return ⟨200, [("success", .bool true), ("recorded", .bool false)]⟩
  else
    onBoard (Proc.recordEvent request.config.eventLogMax "browser" message.toList request.actor)
    return ⟨200, [("success", .bool true), ("recorded", .bool true)]⟩

/-- `api_client_notify_status`. -/
def clientNotifyStatus (data : Json) : Handler Response := do
  let status ← (dictOrEmpty data).get "status" .null
  match notifyMessage status with
  | none => return failed 400 "unknown notification status"
  | some message => recordStatus request message

end Api

/-- The endpoints that read the fields of an object. -/
inductive ObjectEndpoint where
  | setRunning
  | recordHttp
  | decide
  | subscribe
  | unsubscribe
  | notifyStatus
  deriving DecidableEq, Repr

/-- The handler of an endpoint. -/
def ObjectEndpoint.handler (libs : PushLibraries) (request : RequestContext) :
    ObjectEndpoint → Json → Handler Response
  | .setRunning => Api.setRunning request
  | .recordHttp => Api.setRecordHttp
  | .decide => Api.updateDecide
  | .subscribe => Api.pushSubscribe libs request
  | .unsubscribe => Api.pushUnsubscribe libs
  | .notifyStatus => Api.clientNotifyStatus request

/-! ## What is asked of them -/

/-- The handler returns: a client error with the stored state unchanged, or a success, which a value
that is no object gets only as the empty object. -/
def Answered (handler : Json → Handler Response) (body : Json) (s : Site) : Prop :=
  ∃ r t, handler body s = .ok r t ∧
    ((400 ≤ r.status ∧ r.status < 500 ∧ Unchanged s t) ∨
      (r.status = 200 ∧ (isDict body = false → handler (.dict []) s = .ok r t)))

/-- The request is answered, from the decoding of its body on. -/
def AnsweredRequest (request : RequestContext) (handler : Json → Handler Response) (body : Body)
    (s : Site) : Prop :=
  ∃ r t, received request handler body s = .ok r t ∧
    ((400 ≤ r.status ∧ r.status < 500 ∧ Unchanged s t) ∨
      (r.status = 200 ∧ (isDict body.value = false → handler (.dict []) s = .ok r t)))

/-- `x or {}` is an object. -/
def emptyOrDict (data : Json) : Bool := !data.truthy || isDict data

/-- The shapes of a body on which nothing raises. -/
def ObjectEndpoint.Holds (libs : PushLibraries) (body : Json) : ObjectEndpoint → Prop
  | .setRunning | .unsubscribe | .notifyStatus => True
  | .recordHttp | .decide => emptyOrDict body = true
  | .subscribe =>
      let keys := field body "keys" .null
      isDict body = true →
        emptyOrDict keys = true ∧
        ∀ endpoint, field body "endpoint" .null = .str endpoint → endpoint ≠ [] →
          (field (keys.orElse (.dict [])) "p256dh" .null).truthy = true →
          (field (keys.orElse (.dict [])) "auth" .null).truthy = true →
          ∃ parsed, libs.urlparse endpoint = .ok parsed

/-! ## What raises and what does not -/

variable {libs : PushLibraries} {request : RequestContext} {body keys : Json} {s t : Site}
  {r : Response} {handler : Json → Handler Response}

theorem isDict_orElse (h : emptyOrDict body = true) : isDict (body.orElse (.dict [])) = true := by
  unfold Json.orElse
  cases truthy : body.truthy with
  | false => rfl
  | true => simpa [emptyOrDict, truthy] using h

theorem not_isDict_orElse (h : emptyOrDict body = false) :
    isDict (body.orElse (.dict [])) = false := by
  obtain ⟨truthy, other⟩ := Bool.or_eq_false_iff.mp h
  rw [Bool.not_eq_false'] at truthy
  rw [Json.orElse, truthy, if_pos rfl, other]

theorem orElse_of_not_isDict (h : emptyOrDict body = true) (other : isDict body = false) :
    body.orElse (.dict []) = .dict [] := by
  have falsy : body.truthy = false := by simpa [emptyOrDict, other] using h
  rw [Json.orElse, falsy]
  rfl

theorem dictOrEmpty_of_not_isDict (other : isDict body = false) : dictOrEmpty body = .dict [] := by
  rw [dictOrEmpty, other]
  rfl

theorem Answered.refused (ran : handler body s = .ok r s)
    (client : 400 ≤ r.status ∧ r.status < 500) :
    Answered handler body s :=
  ⟨r, s, ran, Or.inl ⟨client.1, client.2, Unchanged.refl s⟩⟩

theorem Answered.success (ran : ∃ r t, handler body s = .ok r t ∧ r.status = 200)
    (empty : isDict body = false → handler body = handler (.dict [])) :
    Answered handler body s := by
  obtain ⟨r, t, ran, status⟩ := ran
  exact ⟨r, t, ran, Or.inr ⟨status, fun other => empty other ▸ ran⟩⟩

/-- A request is answered if the decoder comes through its body and the handler answers the
value. -/
theorem answeredRequest_iff {body : Body} : AnsweredRequest request handler body s ↔
    body.nesting ≤ request.nestingLimit ∧ Answered handler body.value s := by
  by_cases shallow : body.nesting ≤ request.nestingLimit
  · rw [and_iff_right shallow, AnsweredRequest, received_eq shallow, Answered]
  · refine iff_of_false ?_ fun answered => shallow answered.1
    rintro ⟨r, t, ran, -⟩
    obtain ⟨e, raised⟩ := received_raises shallow handler s
    cases raised.symm.trans ran

theorem not_answered {e : PyError} (raises : handler body s = .error e t) :
    ¬ Answered handler body s := by
  rintro ⟨r, t', ran, -⟩
  cases raises.symm.trans ran

namespace Api

/-- What is caught and answered with a value returns. -/
theorem attempt_returns {α : Type} (p : Handler α) (a : α) (s : Site) :
    ∃ b t, attempt p (fun _ => return a) s = .ok b t := by
  unfold attempt
  cases p s with
  | ok b t => exact ⟨b, t, rfl⟩
  | error e t => exact ⟨a, t, rfl⟩

theorem setRunning_answered (body : Json) (s : Site) : Answered (setRunning request) body s := by
  obtain ⟨value, b, moved, -⟩ := (Proc.setRunning_unaffected (c := request.config) (request.clock 0)
    (flagOf (field (dictOrEmpty body) "running" (.bool false))) request.actor).returns s.board
  refine Answered.success ?_ fun other => ?_
  · unfold setRunning
    rw [get_of_isDict (isDict_dictOrEmpty body)]
    exact ⟨_, _, (bind_run rfl).trans (bind_run (onBoard_run moved)), rfl⟩
  · unfold setRunning
    rw [dictOrEmpty_of_not_isDict other]
    rfl

theorem setRecordHttp_answered (h : emptyOrDict body = true) (s : Site) :
    Answered setRecordHttp body s := by
  refine Answered.success ?_ fun other => ?_
  · unfold setRecordHttp
    rw [get_of_isDict (isDict_orElse h)]
    exact ⟨_, _, (bind_run rfl).trans (bind_run rfl), rfl⟩
  · unfold setRecordHttp
    rw [orElse_of_not_isDict h other]
    rfl

theorem setRecordHttp_raises (h : emptyOrDict body = false) (s : Site) :
    setRecordHttp body s = .error ((body.orElse (.dict [])).noAttribute "get") s := by
  unfold setRecordHttp
  rw [get_raises (not_isDict_orElse h)]
  rfl

/-- A decision is refused and nothing moves, or it is accepted. -/
theorem apiUpdateDecide_cases (choice : Option Choice) (d : Handshake) :
    apiUpdateDecide choice d = (.invalidChoice, d) ∨
      apiUpdateDecide choice d = (.nothingPending, d) ∨
      ∃ c d', apiUpdateDecide choice d = (.accepted c, d') := by
  unfold apiUpdateDecide
  cases choice with
  | none => exact Or.inl rfl
  | some choice =>
      cases d.prompt with
      | none => exact Or.inr (Or.inl rfl)
      | some prompt =>
          dsimp only
          split
          · exact Or.inr (Or.inr ⟨_, _, rfl⟩)
          · exact Or.inr (Or.inl rfl)

theorem updateDecide_answered (h : emptyOrDict body = true) (s : Site) :
    Answered updateDecide body s := by
  have ran : updateDecide body s = answerDecision
      (apiUpdateDecide (choiceOf (field (body.orElse (.dict [])) "choice" .null)) s.decision)
        s := by
    unfold updateDecide
    rw [get_of_isDict (isDict_orElse h)]
    exact (bind_run rfl).trans (bind_run rfl)
  rcases apiUpdateDecide_cases (choiceOf (field (body.orElse (.dict [])) "choice" .null)) s.decision
    with eq | eq | ⟨c, d, eq⟩ <;> rw [eq] at ran
  · exact Answered.refused ran ⟨by decide, by decide⟩
  · exact Answered.refused ran ⟨by decide, by decide⟩
  · refine Answered.success ⟨_, _, ran.trans rfl, rfl⟩ fun other => ?_
    unfold updateDecide
    rw [orElse_of_not_isDict h other]
    rfl

theorem updateDecide_raises (h : emptyOrDict body = false) (s : Site) :
    updateDecide body s = .error ((body.orElse (.dict [])).noAttribute "get") s := by
  unfold updateDecide
  rw [get_raises (not_isDict_orElse h)]
  rfl

theorem answerCount_returns (s : Site) : ∃ r t, answerCount s = .ok r t ∧ r.status = 200 := by
  obtain ⟨count, t, counted⟩ := attempt_returns _ 0 s
  exact ⟨_, _, bind_run counted, rfl⟩

theorem pushUnsubscribe_answered (body : Json) (s : Site) :
    Answered (pushUnsubscribe libs) body s := by
  have got := get_of_isDict (isDict_dictOrEmpty body) "endpoint" .null
  set endpoint := field (dictOrEmpty body) "endpoint" .null
  cases truthy : endpoint.truthy with
  | false =>
      refine Answered.refused (r := failed 400 "missing endpoint") ?_ ⟨by decide, by decide⟩
      unfold pushUnsubscribe
      rw [got]
      refine (bind_run rfl).trans ?_
      rw [truthy]
      rfl
  | true =>
      obtain ⟨r, t, counted, ok⟩ :=
        answerCount_returns (stateAfter (removeSubscription libs endpoint s))
      refine Answered.success ⟨r, t, ?_, ok⟩ fun other => ?_
      · unfold pushUnsubscribe
        rw [got]
        refine (bind_run rfl).trans ?_
        rw [truthy]
        exact (bind_run rfl).trans counted
      · unfold pushUnsubscribe
        rw [dictOrEmpty_of_not_isDict other]
        rfl

theorem recordStatus_returns (message : String) (s : Site) :
    ∃ r t, recordStatus request message s = .ok r t ∧ r.status = 200 := by
  obtain ⟨newest, t, read⟩ := attempt_returns _ none s
  obtain ⟨_, b, recorded, -⟩ := (Proc.recordEvent_unaffected request.config.eventLogMax
    "browser" message.toList request.actor).returns t.board
  cases again : newest.any (sameReport message) with
  | true => exact ⟨_, t, (bind_run read).trans (congrFun (if_pos again) t), rfl⟩
  | false =>
      have moved := bind_run (f := fun _ => pure (Response.mk 200
        [("success", .bool true), ("recorded", .bool true)])) (onBoard_run recorded)
      exact ⟨_, _, (bind_run read).trans ((congrFun (if_neg (by simp [again])) t).trans moved), rfl⟩

theorem clientNotifyStatus_answered (body : Json) (s : Site) :
    Answered (clientNotifyStatus request) body s := by
  have got := get_of_isDict (isDict_dictOrEmpty body) "status" .null
  set status := field (dictOrEmpty body) "status" .null
  cases known : notifyMessage status with
  | none =>
      refine Answered.refused (r := failed 400 "unknown notification status") ?_
        ⟨by decide, by decide⟩
      unfold clientNotifyStatus
      rw [got]
      refine (bind_run rfl).trans ?_
      rw [known]
      rfl
  | some message =>
      obtain ⟨r, t, recorded, ok⟩ := @recordStatus_returns request message s
      refine Answered.success ⟨r, t, ?_, ok⟩ fun other => ?_
      · unfold clientNotifyStatus
        rw [got]
        refine (bind_run rfl).trans ?_
        rw [known]
        exact recorded
      · unfold clientNotifyStatus
        rw [dictOrEmpty_of_not_isDict other]
        rfl

/-- The check of an endpoint raises only what `urlparse` does. -/
theorem pushEndpointError_raises_iff {lookup : EndpointLookup} {endpoint : Json} {e : PyError} :
    pushEndpointError lookup endpoint = .error e ↔
      ∃ text, endpoint = .str text ∧ text ≠ [] ∧ lookup.urlparse text = .error e := by
  cases endpoint with
  | str text =>
      cases text with
      | nil => simp [pushEndpointError]
      | cons c text =>
          cases parsed :
            lookup.urlparse (c :: text) <;> simp [pushEndpointError, parsed, Except.map]
  | _ => simp [pushEndpointError]

variable {endpoint p256dh auth : Json}

/-- What a subscription with these fields raises. -/
theorem storeSubscription_raises {text : Text} {e : PyError} (some_text : text ≠ [])
    (truthy : p256dh.truthy = true ∧ auth.truthy = true) (raises : libs.urlparse text = .error e)
    (s : Site) : storeSubscription libs request (.str text) p256dh auth s = .error e s := by
  have present : (Json.str text).truthy = true := by
    cases text with
    | nil => exact absurd rfl some_text
    | cons c text => rfl
  have check := pushEndpointError_raises_iff.mpr ⟨text, rfl, some_text, raises⟩
  unfold storeSubscription
  rw [present, truthy.1, truthy.2, check]
  rfl

/-- A subscription whose check does not raise is refused, or it is stored. -/
theorem storeSubscription_returns (quiet : ∀ text, endpoint = .str text → text ≠ [] →
    p256dh.truthy = true → auth.truthy = true → ∃ parsed, libs.urlparse text = .ok parsed)
    (s : Site) :
    ∃ r t, storeSubscription libs request endpoint p256dh auth s = .ok r t ∧
      (r.status = 400 ∧ t = s ∨ r.status = 200) := by
  cases present : !endpoint.truthy || !p256dh.truthy || !auth.truthy with
  | true =>
      refine ⟨failed 400 "missing endpoint or keys", s, ?_, Or.inl ⟨rfl, rfl⟩⟩
      unfold storeSubscription
      rw [present]
      rfl
  | false =>
      obtain ⟨⟨-, keyed⟩, authed⟩ := by simpa using present
      unfold storeSubscription
      rw [present]
      cases check : pushEndpointError libs.toEndpointLookup endpoint with
      | error e =>
          obtain ⟨text, rfl, some_text, raises⟩ := pushEndpointError_raises_iff.mp check
          obtain ⟨parsed, parses⟩ := quiet text rfl some_text keyed authed
          cases raises.symm.trans parses
      | ok epErr =>
          cases epErr with
          | some epErr => exact ⟨failed 400 epErr, s, rfl, Or.inl ⟨rfl, rfl⟩⟩
          | none =>
              obtain ⟨r, t, counted, ok⟩ := answerCount_returns
                (stateAfter (addSubscription libs request endpoint p256dh auth s))
              exact ⟨r, t, counted, Or.inr ok⟩

theorem pushSubscribe_of_isDict (h : isDict body = true)
    (keys : emptyOrDict (field body "keys" .null) = true) (s : Site) :
    pushSubscribe libs request body s = storeSubscription libs request
      (field body "endpoint" .null)
      (field ((field body "keys" .null).orElse (.dict [])) "p256dh" .null)
      (field ((field body "keys" .null).orElse (.dict [])) "auth" .null) s := by
  unfold pushSubscribe
  rw [h]
  simp only [get_of_isDict h]
  refine (bind_run rfl).trans ((bind_run rfl).trans ?_)
  rw [get_of_isDict (isDict_orElse keys), get_of_isDict (isDict_orElse keys)]
  exact (bind_run rfl).trans (bind_run rfl)

theorem pushSubscribe_raises (h : isDict body = true)
    (keys : emptyOrDict (field body "keys" .null) = false) (s : Site) :
    pushSubscribe libs request body s =
      .error (((field body "keys" .null).orElse (.dict [])).noAttribute "get") s := by
  unfold pushSubscribe
  rw [h]
  simp only [get_of_isDict h]
  refine (bind_run rfl).trans ((bind_run rfl).trans ?_)
  rw [get_raises (not_isDict_orElse keys)]
  rfl

/-- Keys that are no object raise, and so does a text that `urlparse` refuses. -/
theorem subscribe_holds (answered : ∀ s, Answered (pushSubscribe libs request) body s)
    (h : isDict body = true) :
    emptyOrDict (field body "keys" .null) = true ∧
      ∀ text, field body "endpoint" .null = .str text → text ≠ [] →
        (field ((field body "keys" .null).orElse (.dict [])) "p256dh" .null).truthy = true →
        (field ((field body "keys" .null).orElse (.dict [])) "auth" .null).truthy = true →
        ∃ parsed, libs.urlparse text = .ok parsed := by
  cases keys : emptyOrDict (field body "keys" .null) with
  | false => exact absurd (answered {}) (not_answered (pushSubscribe_raises h keys {}))
  | true =>
      refine ⟨rfl, fun text eq some_text keyed authed => ?_⟩
      cases parses : libs.urlparse text with
      | ok parsed => exact ⟨parsed, rfl⟩
      | error e =>
          have ran := @pushSubscribe_of_isDict libs request body h keys {}
          rw [eq, storeSubscription_raises some_text ⟨keyed, authed⟩ parses] at ran
          exact absurd (answered {}) (not_answered ran)

theorem subscribe_refused (h : isDict body = false) (s : Site) :
    Answered (pushSubscribe libs request) body s := by
  refine Answered.refused (r := failed 400 "invalid subscription") ?_ ⟨by decide, by decide⟩
  unfold pushSubscribe
  rw [h]
  rfl

theorem subscribe_answered (h : isDict body = true)
    (keys : emptyOrDict (field body "keys" .null) = true)
    (quiet : ∀ text, field body "endpoint" .null = .str text → text ≠ [] →
      (field ((field body "keys" .null).orElse (.dict [])) "p256dh" .null).truthy = true →
      (field ((field body "keys" .null).orElse (.dict [])) "auth" .null).truthy = true →
      ∃ parsed, libs.urlparse text = .ok parsed) (s : Site) :
    Answered (pushSubscribe libs request) body s := by
  obtain ⟨r, t, ran, ⟨status, rfl⟩ | status⟩ :=
    @storeSubscription_returns libs request _ _ _ quiet s
  · refine Answered.refused ((pushSubscribe_of_isDict h keys _).trans ran) ?_
    rw [status]
    decide
  · refine Answered.success ⟨r, t, (pushSubscribe_of_isDict h keys s).trans ran, status⟩ ?_
    intro other
    rw [h] at other
    cases other

end Api

open Api

theorem handler_answers_iff (request : RequestContext) (endpoint : ObjectEndpoint) (body : Json) :
    (∀ s, Answered (endpoint.handler libs request) body s) ↔ endpoint.Holds libs body := by
  cases endpoint with
  | setRunning => exact iff_of_true (setRunning_answered body) trivial
  | unsubscribe => exact iff_of_true (pushUnsubscribe_answered body) trivial
  | notifyStatus => exact iff_of_true (clientNotifyStatus_answered body) trivial
  | recordHttp =>
      constructor
      · intro answered
        by_contra other
        exact not_answered (setRecordHttp_raises (Bool.eq_false_iff.mpr other) {}) (answered {})
      · exact setRecordHttp_answered
  | decide =>
      constructor
      · intro answered
        by_contra other
        exact not_answered (updateDecide_raises (Bool.eq_false_iff.mpr other) {}) (answered {})
      · exact updateDecide_answered
  | subscribe =>
      constructor
      · exact subscribe_holds
      · intro holds s
        cases h : isDict body with
        | false => exact subscribe_refused h s
        | true => exact subscribe_answered h (holds h).1 (holds h).2 s

/-- The handlers answer a request, whatever the state, exactly where the decoder comes through the
body and its shape is one they hold for. -/
theorem answered_iff (libs : PushLibraries) (request : RequestContext) (endpoint : ObjectEndpoint)
    (body : Body) :
    (∀ s, AnsweredRequest request (endpoint.handler libs request) body s) ↔
      body.nesting ≤ request.nestingLimit ∧ endpoint.Holds libs body.value := by
  rw [← handler_answers_iff request]
  simp only [answeredRequest_iff]
  exact ⟨fun answered => ⟨(answered {}).1, fun s => (answered s).2⟩,
    fun answered s => ⟨answered.1, answered.2 s⟩⟩

/-- `urlparse`, on an open bracket. -/
def urlparseBracket (_ : Text) : Except PyError Url := .error ⟨.value, "Invalid IPv6 URL"⟩

def openBracket : PushLibraries where
  release := ⟨false, false⟩
  urlparse := urlparseBracket
  getaddrinfo _ := none
  realText _ := []
  newest _ _ := true

/-- The list `[1]` makes two of the handlers raise; so do keys that are a list, and an endpoint that
`urlparse` refuses. -/
theorem list_raises :
    ¬ (∀ s, AnsweredRequest {} (ObjectEndpoint.recordHttp.handler openBracket {})
      ⟨.list [.int 1], 1⟩ s) ∧
    ¬ (∀ s, AnsweredRequest {} (ObjectEndpoint.decide.handler openBracket {})
      ⟨.list [.int 1], 1⟩ s) ∧
    ¬ (∀ s, AnsweredRequest {} (ObjectEndpoint.subscribe.handler openBracket {})
      ⟨.dict [("keys".toList, .list [.int 1])], 2⟩ s) ∧
    ¬ (∀ s, AnsweredRequest {} (ObjectEndpoint.subscribe.handler openBracket {})
      ⟨.dict [("endpoint".toList, .str "https://[".toList), ("keys".toList, .dict
        [("p256dh".toList, .str ['k']), ("auth".toList, .str ['a'])])], 2⟩ s) := by
  refine ⟨fun answered => ?_, fun answered => ?_, fun answered => ?_, fun answered => ?_⟩
  · exact not_answered (setRecordHttp_raises rfl {}) (answeredRequest_iff.mp (answered {})).2
  · exact not_answered (updateDecide_raises rfl {}) (answeredRequest_iff.mp (answered {})).2
  · exact not_answered (pushSubscribe_raises rfl (by decide) {})
      (answeredRequest_iff.mp (answered {})).2
  · have keys_first : ("keys".toList == "endpoint".toList) = false := by decide
    have auth_first : ("auth".toList == "p256dh".toList) = false := by decide
    have ran := @pushSubscribe_of_isDict openBracket {} (.dict
      [("endpoint".toList, .str "https://[".toList), ("keys".toList, .dict
        [("p256dh".toList, .str ['k']), ("auth".toList, .str ['a'])])]) rfl (by decide) {}
    rw [field_cons_self, field_cons_of_ne keys_first, field_cons_self, Json.orElse,
      if_pos (by rfl), field_cons_self, field_cons_of_ne auth_first, field_cons_self,
      storeSubscription_raises (by decide) ⟨rfl, rfl⟩ rfl] at ran
    exact not_answered ran (answeredRequest_iff.mp (answered {})).2

end GeneratorPi
