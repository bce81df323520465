import GeneratorPi.EventStore
import GeneratorPi.Lib.Trace

/-!
# The event panel

The event view of `genpi/frontend/app.js` against the store: `loadInitialEvents` and `loadNewEvents`
through the serial poll queue, `loadOlderEvents` beside it, and `setLogView`.  A request is sent,
answered and delivered in steps of its own, or is lost; its cursor is the one held when it was made.

A page that was cut off at its lower end, or that comes to a list which no longer ends at the page's
cursor, leaves a hole or repeats rows.  `wholeList_of_run` says that nothing else does.
-/

namespace GeneratorPi

open PyText Paging Trace

/-! ## The client -/

inductive LogView where
  | events
  | log
  deriving DecidableEq

structure Panel where
  logView : LogView := .events
  /-- The event rows in `#log`, from the top. -/
  shown : List Event := []
  newestSeq : ℕ := 0
  oldestSeq : Option ℕ := none
  loadingOlder : Bool := false
  deriving DecidableEq

/-- A job under the queue's key `events`. -/
inductive EventPoll where
  | initial
  /-- `?after=` -/
  | newer (after : ℕ)
  deriving DecidableEq

/-- The handler of `loadInitialEvents`. -/
def Panel.initialLoaded (p : Panel) (evs : List Event) : Panel :=
  if p.logView = .events then
    { p with
      shown := evs
      newestSeq := (evs.head?.map (·.seq)).getD p.newestSeq
      oldestSeq := (evs.getLast?.map (·.seq)).or p.oldestSeq }
  else p

/-- The handler of `loadNewEvents`. -/
def Panel.newLoaded (p : Panel) (evs : List Event) : Panel :=
  if p.logView = .events then
    { p with shown := evs ++ p.shown, newestSeq := (evs.head?.map (·.seq)).getD p.newestSeq }
  else p

/-- The handler of `loadOlderEvents`, which does not look at the view. -/
def Panel.olderLoaded (p : Panel) (evs : List Event) : Panel :=
  { p with
    shown := p.shown ++ evs
    oldestSeq := (evs.getLast?.map (·.seq)).or p.oldestSeq
    loadingOlder := false }

def Panel.pollLoaded (p : Panel) : EventPoll → List Event → Panel
  | .initial => p.initialLoaded
  | .newer _ => p.newLoaded

/-! ## Client and server -/

/-- What comes back for a request. -/
inductive Delivery where
  | received
  /-- Something that is no JSON, or has no events. -/
  | empty
  /-- It failed or was aborted. -/
  | lost
  deriving DecidableEq

/-- The store, the panel, and the requests between them: a queued poll, the poll in flight and the
request for older events, with their answers once the server has given them. -/
structure EventFeed where
  store : EventStore := {}
  panel : Panel := {}
  queued : Option EventPoll := none
  polling : Option (EventPoll × Option (List Event)) := none
  older : Option (ℕ × Option (List Event)) := none
  deriving DecidableEq

inductive FeedOp where
  | recordEvent (now : ℚ) (type : String) (message : Text) (actor : Option Text)
  | factoryReset
  | loadInitialEvents (paused : Bool)
  | loadNewEvents (paused : Bool)
  | loadOlderEvents
  | setLogView (v : LogView) (paused : Bool)
  | sendPoll
  /-- The server answers, or fails to read the table. -/
  | answerPoll (ok : Bool)
  | deliverPoll (d : Delivery)
  | answerOlder (ok : Bool)
  | deliverOlder (d : Delivery)

/-- `pollFetch('events', …)`: a job still queued is replaced; while an update runs there is none. -/
def EventFeed.pollFetch (f : EventFeed) (poll : EventPoll) (paused : Bool) : EventFeed :=
  if paused then f else { f with queued := some poll }

def EventFeed.loadNewEvents (f : EventFeed) (paused : Bool) : EventFeed :=
  if f.panel.newestSeq = 0 then f.pollFetch .initial paused
  else f.pollFetch (.newer f.panel.newestSeq) paused

def EventFeed.loadOlderEvents (f : EventFeed) : EventFeed :=
  match f.panel.logView, f.panel.loadingOlder, f.panel.oldestSeq with
  | .events, false, some c =>
      { f with panel := { f.panel with loadingOlder := true }, older := some (c, none) }
  | _, _, _ => f

def EventFeed.setLogView (f : EventFeed) (v : LogView) (paused : Bool) : EventFeed :=
  match v with
  | .log => { f with panel := { f.panel with logView := .log, shown := [] } }
  | .events =>
      { f with
        panel :=
          { f.panel with logView := .events, shown := [], newestSeq := 0, oldestSeq := none } }
      |>.pollFetch .initial paused

/-- `GET /api/events`, with the limit the client asks for. -/
def EventFeed.answer (f : EventFeed) (before after : Option ℕ) (ok : Bool) : List Event :=
  if ok then apiEvents f.store 100 before after else []

def EventFeed.pollAnswer (f : EventFeed) : EventPoll → Bool → List Event
  | .initial => f.answer none none
  | .newer after => f.answer none (some after)

/-- The events that the handler gets, if it is called with any, once the request is done. -/
def Delivery.handled (answer : Option (List Event)) : Delivery → Option (Option (List Event))
  | .received => answer.map some
  | .empty => some (some [])
  | .lost => some none

def EventFeed.deliverPoll (f : EventFeed) (d : Delivery) : Option EventFeed :=
  f.polling.bind fun (poll, answer) =>
    (d.handled answer).map fun evs =>
      { f with polling := none, panel := evs.elim f.panel (f.panel.pollLoaded poll) }

def EventFeed.deliverOlder (f : EventFeed) (d : Delivery) : Option EventFeed :=
  f.older.bind fun (_, answer) =>
    (d.handled answer).map fun evs =>
      { f with
        older := none
        panel := evs.elim { f.panel with loadingOlder := false } f.panel.olderLoaded }

def EventFeed.sendPoll (f : EventFeed) : Option EventFeed :=
  match f.queued, f.polling with
  | some poll, none => some { f with queued := none, polling := some (poll, none) }
  | _, _ => none

def EventFeed.answerPoll (f : EventFeed) (ok : Bool) : Option EventFeed :=
  match f.polling with
  | some (poll, none) => some { f with polling := some (poll, some (f.pollAnswer poll ok)) }
  | _ => none

def EventFeed.answerOlder (f : EventFeed) (ok : Bool) : Option EventFeed :=
  match f.older with
  | some (c, none) => some { f with older := some (c, some (f.answer (some c) none ok)) }
  | _ => none

def EventFeed.step (maxRows : ℕ) (f : EventFeed) : FeedOp → Option EventFeed
  | .recordEvent now type message actor => some
      { f with store := GeneratorPi.recordEvent maxRows now type message actor f.store }
  | .factoryReset => some { f with store := f.store.clear }
  | .loadInitialEvents paused => some (f.pollFetch .initial paused)
  | .loadNewEvents paused => some (f.loadNewEvents paused)
  | .loadOlderEvents => some f.loadOlderEvents
  | .setLogView v paused => some (f.setLogView v paused)
  | .sendPoll => f.sendPoll
  | .answerPoll ok => f.answerPoll ok
  | .deliverPoll d => f.deliverPoll d
  | .answerOlder ok => f.answerOlder ok
  | .deliverOlder d => f.deliverOlder d

/-! ## The list -/

/-- The event view descends strictly, and shows all that is stored between its ends. -/
def WholeList (f : EventFeed) : Prop :=
  f.panel.logView = .events → Convex Event.seq f.store.rows f.panel.shown

/-- A page upwards is answered with all that lies above its cursor, and a page that is not empty
comes to an empty list, to the log view, or to a list that still ends at its cursor. -/
def fits (f : EventFeed) : FeedOp → Bool
  | .answerPoll _ =>
      match f.polling with
      | some (.newer c, _) => (f.store.rows.filter fun e => decide (c < e.seq)).length ≤ 100
      | _ => true
  | .deliverPoll .received =>
      match f.polling, f.panel.logView with
      | some (.newer c, some (_ :: _)), .events => f.panel.shown.head?.all fun t => t.seq == c
      | _, _ => true
  | .deliverOlder .received =>
      match f.older, f.panel.logView with
      | some (c, some (_ :: _)), .events => f.panel.shown.getLast?.all fun t => t.seq == c
      | _, _ => true
  | _ => true

/-! ## What the panel and the requests hold -/

/-- A page of the store. -/
structure Served (s : EventStore) (evs : List Event) : Prop where
  convex : Convex Event.seq s.rows evs
  known : ∀ e ∈ evs, e.seq ≤ s.counter

structure Panel.Sound (s : EventStore) (p : Panel) : Prop where
  known : ∀ e ∈ p.shown, e.seq ≤ s.counter
  whole : p.logView = .events → Convex Event.seq s.rows p.shown
  oldest : ∀ c, p.oldestSeq = some c → c ≤ s.counter

structure FeedInvariant (f : EventFeed) : Prop where
  valid : f.store.Valid
  panel : f.panel.Sound f.store
  polled : ∀ poll evs, f.polling = some (poll, some evs) →
    Served f.store evs ∧ ∀ c, poll = .newer c → Above Event.seq f.store.rows c evs
  cursor : ∀ c answer, f.older = some (c, answer) → c ≤ f.store.counter
  older : ∀ c evs, f.older = some (c, some evs) →
    Served f.store evs ∧ Below Event.seq f.store.rows c evs

variable {f g : EventFeed} {maxRows : ℕ} {s s' : EventStore} {p : Panel} {evs : List Event} {c : ℕ}

theorem FeedInvariant.initial (v : LogView) : FeedInvariant { panel := { logView := v } } where
  valid := EventStore.Valid.initial
  panel := ⟨fun _ mem => absurd mem List.not_mem_nil, fun _ => Convex.nil, fun _ h => nomatch h⟩
  polled _ _ h := nomatch h
  cursor _ _ h := nomatch h
  older _ _ h := nomatch h

/-! ### The store changes -/

/-- What was known is below what has been added since. -/
theorem EventStore.Grown.above (grown : EventStore.Grown s s')
    (known : ∀ e ∈ evs, e.seq ≤ s.counter) :
    ∀ e ∈ s'.rows, e ∈ s.rows ∨ ∀ a ∈ evs, a.seq < e.seq := fun e mem =>
  (grown.rows e mem).imp_right fun new a ha => lt_of_le_of_lt (known a ha) new

theorem Served.grow (h : Served s evs) (grown : EventStore.Grown s s') : Served s' evs where
  convex := h.convex.grow (grown.above h.known)
  known e mem := (h.known e mem).trans grown.counter

theorem Panel.Sound.grow (h : p.Sound s) (grown : EventStore.Grown s s') : p.Sound s' where
  known e mem := (h.known e mem).trans grown.counter
  whole view := (h.whole view).grow (grown.above h.known)
  oldest c eq := (h.oldest c eq).trans grown.counter

theorem FeedInvariant.grow (held : FeedInvariant f) (valid : s'.Valid)
    (grown : EventStore.Grown f.store s') : FeedInvariant { f with store := s' } where
  valid := valid
  panel := held.panel.grow grown
  polled poll evs h := by
    rcases held.polled poll evs h with ⟨served, above⟩
    exact ⟨served.grow grown, fun c eq => (above c eq).grow (grown.above served.known)⟩
  cursor c answer h := (held.cursor c answer h).trans grown.counter
  older c evs h := by
    rcases held.older c evs h with ⟨served, below⟩
    refine ⟨served.grow grown, below.grow fun e mem => (grown.rows e mem).imp_right fun new => ?_⟩
    exact (held.cursor c _ h).trans new.le

/-! ### A page is shown -/

theorem oldest_known (known : ∀ e ∈ evs, e.seq ≤ s.counter)
    (last : (evs.getLast?.map (·.seq)).or p.oldestSeq = some c)
    (oldest : ∀ c, p.oldestSeq = some c → c ≤ s.counter) : c ≤ s.counter := by
  cases final : evs.getLast? with
  | none =>
      rw [final] at last
      exact oldest c last
  | some e =>
      rw [final] at last
      cases last
      exact known e (List.mem_of_getLast? final)

theorem Panel.Sound.initialLoaded (h : p.Sound s) (served : Served s evs) :
    (p.initialLoaded evs).Sound s := by
  unfold Panel.initialLoaded
  split
  · exact ⟨served.known, fun _ => served.convex, fun c last =>
      oldest_known served.known last h.oldest⟩
  · exact h

theorem Panel.Sound.newLoaded (h : p.Sound s) (served : Served s evs)
    (above : Above Event.seq s.rows c evs)
    (top : evs = [] ∨ ∀ t, p.shown.head? = some t → t.seq = c) : (p.newLoaded evs).Sound s := by
  unfold Panel.newLoaded
  split
  next view =>
    refine ⟨fun e mem => ?_, fun _ => ?_, h.oldest⟩
    · exact (List.mem_append.mp mem).elim (served.known e) (h.known e)
    · have lower := h.whole view
      rcases top with rfl | top
      · exact lower
      · cases first : p.shown.head? with
        | none =>
            dsimp only
            rw [List.head?_eq_none_iff.mp first, List.append_nil]
            exact served.convex
        | some t =>
            have same := top t first
            refine served.convex.prepend above lower ⟨t, List.mem_of_head? first, same⟩ ?_
            exact fun b mem => (le_head lower.descending first b mem).trans same.le
  next => exact h

theorem Panel.Sound.olderLoaded (h : p.Sound s) (served : Served s evs)
    (below : Below Event.seq s.rows c evs)
    (bottom : p.logView = .events → evs = [] ∨ ∀ t, p.shown.getLast? = some t → t.seq = c) :
    (p.olderLoaded evs).Sound s := by
  refine ⟨fun e mem => ?_, fun view => ?_, fun c last => oldest_known served.known last h.oldest⟩
  · exact (List.mem_append.mp mem).elim (h.known e) (served.known e)
  · have upper := h.whole view
    unfold Panel.olderLoaded
    rcases bottom view with rfl | bottom
    · dsimp only
      rw [List.append_nil]
      exact upper
    · cases last : p.shown.getLast? with
      | none =>
          dsimp only
          rw [List.getLast?_eq_none_iff.mp last, List.nil_append]
          exact served.convex
      | some t =>
          have same := bottom t last
          refine upper.append below served.convex ⟨t, List.mem_of_getLast? last, same⟩ ?_
          exact fun a mem => same.ge.trans (last_le upper.descending last a mem)

/-! ### The server answers -/

theorem Served.nil : Served s [] := ⟨Convex.nil, fun _ mem => absurd mem List.not_mem_nil⟩

theorem served_answer (valid : f.store.Valid) (before after : Option ℕ) (ok : Bool) :
    Served f.store (f.answer before after ok) := by
  cases ok with
  | false => exact Served.nil
  | true =>
      exact ⟨convex_apiEvents valid 100 before after,
        fun e mem => valid.counted e (mem_rows_of_apiEvents mem)⟩

theorem below_answer (valid : f.store.Valid) (c : ℕ) (ok : Bool) :
    Below Event.seq f.store.rows c (f.answer (some c) none ok) := by
  cases ok with
  | false => exact Below.nil
  | true => exact below_take valid.descending c 100

theorem above_answer (short : (f.store.rows.filter fun e => decide (c < e.seq)).length ≤ 100)
    (ok : Bool) : Above Event.seq f.store.rows c (f.answer none (some c) ok) := by
  cases ok with
  | false => exact Above.nil
  | true => exact above_take short

/-! ### Steps -/

/-- What a handler gets is the answer or nothing. -/
theorem handled_eq_some {d : Delivery} {answer : Option (List Event)}
    (h : d.handled answer = some (some evs)) :
    evs = [] ∨ d = .received ∧ answer = some evs := by
  cases d with
  | received =>
      rcases Option.map_eq_some_iff.mp h with ⟨evs', rfl, same⟩
      cases same
      exact Or.inr ⟨rfl, rfl⟩
  | empty =>
      cases h
      exact Or.inl rfl
  | lost => cases h

theorem FeedInvariant.pollFetch (held : FeedInvariant f) (poll : EventPoll) (paused : Bool) :
    FeedInvariant (f.pollFetch poll paused) := by
  unfold EventFeed.pollFetch
  split
  · exact held
  · exact ⟨held.valid, held.panel, held.polled, held.cursor, held.older⟩

theorem FeedInvariant.loadNewEvents (held : FeedInvariant f) (paused : Bool) :
    FeedInvariant (f.loadNewEvents paused) := by
  unfold EventFeed.loadNewEvents
  split
  · exact held.pollFetch _ _
  · exact held.pollFetch _ _

theorem FeedInvariant.loadOlderEvents (held : FeedInvariant f) :
    FeedInvariant f.loadOlderEvents := by
  unfold EventFeed.loadOlderEvents
  split
  next c view idle oldest =>
    refine ⟨held.valid, ⟨held.panel.known, held.panel.whole, held.panel.oldest⟩,
      held.polled, ?_, ?_⟩
    · intro c' answer eq
      cases eq
      exact held.panel.oldest c oldest
    · intro c' evs eq
      cases eq
  next => exact held

theorem FeedInvariant.setLogView (held : FeedInvariant f) (v : LogView) (paused : Bool) :
    FeedInvariant (f.setLogView v paused) := by
  cases v with
  | log =>
      refine ⟨held.valid, ⟨?_, ?_, held.panel.oldest⟩, held.polled, held.cursor, held.older⟩
      · exact fun _ mem => absurd mem List.not_mem_nil
      · intro view
        cases view
  | events =>
      refine FeedInvariant.pollFetch ?_ .initial paused
      refine ⟨held.valid, ⟨?_, fun _ => Convex.nil, ?_⟩, held.polled, held.cursor, held.older⟩
      · exact fun _ mem => absurd mem List.not_mem_nil
      · intro c eq
        cases eq

theorem FeedInvariant.sendPoll (held : FeedInvariant f) (h : f.sendPoll = some g) :
    FeedInvariant g := by
  unfold EventFeed.sendPoll at h
  split at h
  · cases h
    refine ⟨held.valid, held.panel, fun poll evs eq => ?_, held.cursor, held.older⟩
    cases eq
  · cases h

theorem FeedInvariant.answerPoll (held : FeedInvariant f) {ok : Bool}
    (fit : fits f (.answerPoll ok)) (h : f.answerPoll ok = some g) : FeedInvariant g := by
  unfold EventFeed.answerPoll at h
  split at h
  next poll polling =>
    cases h
    refine ⟨held.valid, held.panel, fun poll' evs eq => ?_, held.cursor, held.older⟩
    cases eq
    refine ⟨?_, fun c same => ?_⟩
    · cases poll <;> exact served_answer held.valid _ _ _
    · subst same
      unfold fits at fit
      rw [polling] at fit
      exact above_answer (of_decide_eq_true fit) ok
  next => cases h

theorem FeedInvariant.answerOlder (held : FeedInvariant f) {ok : Bool}
    (h : f.answerOlder ok = some g) : FeedInvariant g := by
  unfold EventFeed.answerOlder at h
  split at h
  next c asked =>
    cases h
    refine ⟨held.valid, held.panel, held.polled, fun c' answer eq => ?_, fun c' evs eq => ?_⟩
    · cases eq
      exact held.cursor c none asked
    · cases eq
      exact ⟨served_answer held.valid _ _ _, below_answer held.valid c ok⟩
  next => cases h

theorem FeedInvariant.deliverPoll (held : FeedInvariant f) {d : Delivery}
    (fit : fits f (.deliverPoll d)) (h : f.deliverPoll d = some g) : FeedInvariant g := by
  rcases Option.bind_eq_some_iff.mp h with ⟨⟨poll, answer⟩, polling, rest⟩
  rcases Option.map_eq_some_iff.mp rest with ⟨handled, eq, rfl⟩
  refine ⟨held.valid, ?_, fun _ _ h => (nomatch h), held.cursor, held.older⟩
  cases handled with
  | none => exact held.panel
  | some evs =>
      dsimp only [Option.elim]
      rcases handled_eq_some eq with rfl | ⟨rfl, rfl⟩
      · cases poll with
        | initial => exact held.panel.initialLoaded Served.nil
        | newer c =>
            exact held.panel.newLoaded (c := c) Served.nil Above.nil (Or.inl rfl)
      · rcases held.polled poll evs polling with ⟨served, above⟩
        cases poll with
        | initial => exact held.panel.initialLoaded served
        | newer c =>
            by_cases view : f.panel.logView = .events
            · refine held.panel.newLoaded served (above c rfl) ?_
              cases evs with
              | nil => exact Or.inl rfl
              | cons e evs =>
                  refine Or.inr fun t first => ?_
                  unfold fits at fit
                  rw [polling, view, first] at fit
                  simpa using fit
            · dsimp only [Panel.pollLoaded]
              unfold Panel.newLoaded
              rw [if_neg view]
              exact held.panel

theorem FeedInvariant.deliverOlder (held : FeedInvariant f) {d : Delivery}
    (fit : fits f (.deliverOlder d)) (h : f.deliverOlder d = some g) : FeedInvariant g := by
  rcases Option.bind_eq_some_iff.mp h with ⟨⟨c, answer⟩, asked, rest⟩
  rcases Option.map_eq_some_iff.mp rest with ⟨handled, eq, rfl⟩
  refine ⟨held.valid, ?_, held.polled, fun _ _ h => (nomatch h), fun _ _ h => (nomatch h)⟩
  cases handled with
  | none => exact ⟨held.panel.known, held.panel.whole, held.panel.oldest⟩
  | some evs =>
      dsimp only [Option.elim]
      rcases handled_eq_some eq with rfl | ⟨rfl, rfl⟩
      · exact held.panel.olderLoaded (c := c) Served.nil Below.nil fun _ => Or.inl rfl
      · rcases held.older c evs asked with ⟨served, below⟩
        refine held.panel.olderLoaded served below fun view => ?_
        cases evs with
        | nil => exact Or.inl rfl
        | cons e evs =>
            refine Or.inr fun t last => ?_
            unfold fits at fit
            rw [asked, view, last] at fit
            simpa using fit

theorem FeedInvariant.step (held : FeedInvariant f) {op : FeedOp} (fit : fits f op)
    (h : f.step maxRows op = some g) : FeedInvariant g := by
  cases op with
  | recordEvent now type message actor =>
      cases h
      exact held.grow (held.valid.recordEvent _ _ _ _ _) (EventStore.Grown.recordEvent _ _ _ _ _)
  | factoryReset =>
      cases h
      exact held.grow (EventStore.Valid.clear _) (EventStore.Grown.clear _)
  | loadInitialEvents paused =>
      cases h
      exact held.pollFetch _ _
  | loadNewEvents paused =>
      cases h
      exact held.loadNewEvents paused
  | loadOlderEvents =>
      cases h
      exact held.loadOlderEvents
  | setLogView v paused =>
      cases h
      exact held.setLogView v paused
  | sendPoll => exact held.sendPoll h
  | answerPoll ok => exact held.answerPoll fit h
  | deliverPoll d => exact held.deliverPoll fit h
  | answerOlder ok => exact held.answerOlder h
  | deliverOlder d => exact held.deliverOlder fit h

/-- In a run whose pages all fit where they come, the event view is whole in every state. -/
theorem wholeList_of_run {v : LogView} {ops : List FeedOp}
    (fit : Meets (EventFeed.step maxRows) (fun f op => fits f op) { panel := { logView := v } } ops)
    (h : run (EventFeed.step maxRows) { panel := { logView := v } } ops = some f) :
      WholeList f := by
  have held : FeedInvariant f :=
    run_invariant_of_meets (fun _ _ _ held fit h => held.step fit h) (FeedInvariant.initial v) fit h
  exact held.panel.whole

/-! ### Pages that do not fit -/

/-- After a burst of more events than a page holds the list has a hole. -/
theorem hole_of_burst (held : FeedInvariant f) {t : Event} (view : f.panel.logView = .events)
    (polling : f.polling = some (.newer t.seq, none)) (first : f.panel.shown.head? = some t)
    (burst : 100 < (f.store.rows.filter fun e => decide (t.seq < e.seq)).length) :
    ∃ g, run (EventFeed.step maxRows) f [.answerPoll true, .deliverPoll .received] = some g ∧
      ¬ WholeList g := by
  let page := (f.store.rows.filter fun e => decide (t.seq < e.seq)).take 100
  let answered : EventFeed := { f with polling := some (.newer t.seq, some page) }
  have answers : f.step maxRows (.answerPoll true) = some answered := by
    unfold EventFeed.step EventFeed.answerPoll
    rw [polling]
    rfl
  refine ⟨{ answered with polling := none, panel := f.panel.newLoaded page }, ?_, ?_⟩
  · rw [run_cons_eq_some]
    exact ⟨answered, answers, rfl⟩
  · intro whole
    have list : (f.panel.newLoaded page).shown = page ++ f.panel.shown := by
      unfold Panel.newLoaded
      rw [if_pos view]
    have still : (f.panel.newLoaded page).logView = .events := by
      unfold Panel.newLoaded
      rw [if_pos view, view]
    have convex := whole still
    dsimp only at convex
    rw [list] at convex
    have lower := held.panel.whole view
    exact not_convex_prepend held.valid.descending (by decide) burst
      ⟨t, List.mem_of_head? first, rfl⟩ (le_head lower.descending first) convex

/-- One event is shown; then a second comes, and is polled for. -/
def oneByOne : List FeedOp :=
  [.recordEvent 0 "startup" [] none, .loadNewEvents false, .sendPoll, .answerPoll true,
    .deliverPoll .received, .loadNewEvents false, .sendPoll, .recordEvent 0 "start" [] none,
    .answerPoll true]

theorem wholeList_twoPolls :
    ∃ f, run (EventFeed.step 10000) { panel := { logView := .events } }
        (oneByOne ++ [.deliverPoll .received, .loadOlderEvents, .answerOlder true,
          .deliverOlder .received, .setLogView .log false, .setLogView .events false]) = some f ∧
      WholeList f := by
  have ends : (run (EventFeed.step 10000) { panel := { logView := .events } }
      (oneByOne ++ [.deliverPoll .received, .loadOlderEvents, .answerOlder true,
        .deliverOlder .received, .setLogView .log false, .setLogView .events false])).isSome := by
    decide
  rcases Option.isSome_iff_exists.mp ends with ⟨f, ran⟩
  exact ⟨f, ran, wholeList_of_run (by decide) ran⟩

/-- The next poll is queued while the first is in flight, with the same cursor. -/
theorem repeated_by_queued_poll :
    ¬∀ (maxRows : ℕ) (v : LogView) (ops : List FeedOp) (f : EventFeed),
      run (EventFeed.step maxRows) { panel := { logView := v } } ops = some f → WholeList f := by
  intro all
  have seen : (run (EventFeed.step 10000) { panel := { logView := .events } }
      (oneByOne ++ [.loadNewEvents false, .deliverPoll .received, .sendPoll, .answerPoll true,
        .deliverPoll .received])).any fun f =>
      f.panel.logView == .events && f.panel.shown.map (·.seq) == [2, 2, 1] := by decide
  rcases (Option.any_eq_true _ _).mp seen with ⟨f, ran, facts⟩
  rw [Bool.and_eq_true, beq_iff_eq, beq_iff_eq] at facts
  have descending := (all 10000 .events _ f ran facts.1).descending
  have falling : [2, 2, 1].Pairwise fun a b => b < a := by
    rw [← facts.2]
    exact List.pairwise_map.mpr descending
  exact absurd falling (by decide)

end GeneratorPi
