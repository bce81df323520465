import GeneratorPi.Decision
import GeneratorPi.Lib.Handled
import GeneratorPi.Lib.PyJson
import GeneratorPi.Manifest
import GeneratorPi.StoreFailures
import GeneratorPi.Subscriptions

/-!
# Requests over the shared state

What the handlers of `genpi/routes` share: the state they act on, the responses they give, and
what they make of a body whose shape they do not know.  A body is decoded by
`request.get_json(silent=True)`, which returns `null` for one that does not parse and raises on
one that is nested too deep.
-/

namespace GeneratorPi

open Handled Noninterference PyJson PyText

/-- What the handlers act on.  The kv rows are those of the board's store and `recordHttpRow`. -/
structure Site where
  board : Board := {}
  recordHttpCache : Option Bool := none
  recordHttpRow : Option Bool := none
  decision : Handshake := {}
  subscriptions : SubscriptionTable := []

/-- The tracked state, the kv rows, the pending decision and the subscriptions are the same. -/
structure Unchanged (s t : Site) : Prop where
  app : t.board.control.app = s.board.control.app
  rows : t.board.store.rows = s.board.store.rows
  recordHttpRow : t.recordHttpRow = s.recordHttpRow
  decision : t.decision = s.decision
  subscriptions : t.subscriptions = s.subscriptions

theorem Unchanged.refl (s : Site) : Unchanged s s := ⟨rfl, rfl, rfl, rfl, rfl⟩

/-- A response: its status and the object that `jsonify` renders. -/
structure Response where
  status : ℕ := 200
  body : List (String × Json)

/-- `jsonify({"success": False, "message": message}), status`. -/
def failed (status : ℕ) (message : String) : Response :=
  ⟨status, [("success", .bool false), ("message", .str message.toList)]⟩

abbrev Handler (α : Type) := EStateM PyError Site α

/-- A request: the readings of the clock in it, and who issued it. -/
structure RequestContext where
  config : ControlConfig := {}
  clock : ℕ → ℚ := fun _ => 0
  actor : Option Text := none
  /-- How many lists and objects the decoder can open before the interpreter's stack is used up. -/
  nestingLimit : ℕ := 900

/-- A call into the modules below the routes. -/
def onBoard {α : Type} (p : Proc α) : Handler α := fun s =>
  match p s.board with
  | .ok a b => .ok a { s with board := b }
  | .error e b => .error ⟨.other, e⟩ { s with board := b }

theorem onBoard_run {α : Type} {p : Proc α} {s : Site} {a : α} {b : Board}
    (h : p s.board = .ok a b) : onBoard p s = .ok a { s with board := b } := by
  rw [onBoard, h]

/-! ## Bodies -/

/-- The body of a request, as the decoder meets it. -/
structure Body where
  /-- What it decodes to, `null` where it is no JSON. -/
  value : Json
  /-- How many lists and objects are open at once while it is decoded. -/
  nesting : ℕ

/-- `request.get_json(silent=True)`.  It silences a `ValueError`; a `RecursionError` is none. -/
def getJson (request : RequestContext) (body : Body) : Except PyError Json :=
  if body.nesting ≤ request.nestingLimit then .ok body.value
  else .error ⟨.recursion, "maximum recursion depth exceeded"⟩

/-- A request: the handler begins with the body's value. -/
def received (request : RequestContext) (handler : Json → Handler Response) (body : Body) :
    Handler Response := do
  handler (← getJson request body)

theorem received_eq {request : RequestContext} {body : Body}
    (shallow : body.nesting ≤ request.nestingLimit) (handler : Json → Handler Response) :
    received request handler body = handler body.value := by
  rw [received, getJson, if_pos shallow]
  rfl

theorem received_raises {request : RequestContext} {body : Body}
    (deep : ¬ body.nesting ≤ request.nestingLimit) (handler : Json → Handler Response) (s : Site) :
    ∃ e, received request handler body s = .error e s := by
  unfold received
  rw [getJson, if_neg deep]
  exact ⟨_, rfl⟩

/-- `isinstance(data, dict)`. -/
def isDict : Json → Bool
  | .dict _ => true
  | _ => false

/-- `data if isinstance(data, dict) else {}`. -/
def dictOrEmpty (data : Json) : Json := if isDict data then data else .dict []

/-- How a flag is read: some strings are true and no others, anything else by its truth value. -/
def flagOf : Json → Bool
  | .str s => ["true", "1", "yes", "on"].any fun word => lower (strip s) = word.toList
  | j => j.truthy

/-- The field of an object, or the default. -/
def field (data : Json) (key : String) (default : Json) : Json :=
  match data with
  | .dict entries => (entries.lookup key.toList).getD default
  | _ => default

theorem get_of_isDict {data : Json} (h : isDict data = true) (key : String) (default : Json) :
    data.get key default = .ok (field data key default) := by
  cases data with
  | dict entries => rfl
  | _ => cases h

theorem get_raises {data : Json} (h : isDict data = false) (key : String) (default : Json) :
    data.get key default = .error (data.noAttribute "get") := by
  cases data with
  | dict entries => cases h
  | _ => rfl

theorem field_cons_self {key : String} {value default : Json} {entries : List (Text × Json)} :
    field (.dict ((key.toList, value) :: entries)) key default = value := by
  simp [field]

theorem field_cons_of_ne {key other : String} {value default : Json}
    {entries : List (Text × Json)} (h : (key.toList == other.toList) = false) :
    field (.dict ((other.toList, value) :: entries)) key default =
      field (.dict entries) key default := by
  simp only [field, List.lookup_cons, h]

theorem isDict_dictOrEmpty (data : Json) : isDict (dictOrEmpty data) = true := by
  unfold dictOrEmpty
  split
  · assumption
  · rfl

end GeneratorPi
