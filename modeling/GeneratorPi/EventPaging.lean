import GeneratorPi.EventStore
import GeneratorPi.Lib.Trace

/-!
# Retention of the event store, and paging through it

Eviction is computed from the highest number, not from a count.  Since `AUTOINCREMENT` hands out
consecutive numbers and the rows recorded after a reset are all there is, that leaves exactly the
newest `cap` of them (`Numbered.filter`).

A client that pages backwards asks for what lies before the last event it received.  Inserts come
above its pages and evictions take what it has not reached, so its pages put together are one whole
piece of the store (`EventReader.Reading.older`).
-/

namespace GeneratorPi

open Paging PyText Trace

/-- The numbers of the events fall one by one from `n`. -/
def Numbered : ℕ → List Event → Prop
  | _, [] => True
  | 0, _ :: _ => False
  | n + 1, e :: events => e.seq = n + 1 ∧ Numbered n events

theorem numbered_nil (n : ℕ) : Numbered n [] := by cases n <;> trivial

variable {events : List Event} {n : ℕ}

theorem Numbered.take (numbered : Numbered n events) (k : ℕ) : Numbered n (events.take k) := by
  induction events generalizing n k with
  | nil => rwa [List.take_nil]
  | cons e events ih =>
      cases k with
      | zero => exact numbered_nil n
      | succ k =>
          cases n with
          | zero => exact numbered.elim
          | succ n => exact ⟨numbered.1, ih numbered.2 k⟩

/-- What lies above a number is as many of the newest as there are numbers above it. -/
theorem Numbered.filter (numbered : Numbered n events) (cap m : ℕ) :
    (events.filter fun e => !decide (e.seq + cap ≤ m)) = events.take (n + cap - m) := by
  induction events generalizing n with
  | nil => simp
  | cons e events ih =>
      cases n with
      | zero => exact numbered.elim
      | succ n =>
          obtain ⟨seq, rest⟩ := numbered
          rw [List.filter_cons, seq, ih rest]
          by_cases old : n + 1 + cap ≤ m
          · have none : n + cap - m = 0 := by omega
            have none' : n + 1 + cap - m = 0 := by omega
            rw [none, none']
            simp [old]
          · have one : n + 1 + cap - m = n + cap - m + 1 := by omega
            rw [one, List.take_succ_cons]
            simp [old]

/-! ## A store and a client -/

/-- The store, all events it ever recorded and those recorded since the last reset, the newest
first, and what a client has received since it began to page. -/
structure EventReader where
  store : EventStore := {}
  ever : List Event := []
  recorded : List Event := []
  received : List Event := []

inductive ReaderOp where
  | record (now : ℚ) (type : String) (message : Text) (actor : Option Text)
  | factoryReset
  /-- The client begins with some page. -/
  | first (limit : ℕ) (before after : Option ℕ)
  /-- The client asks for the page before the last event it received. -/
  | older (limit : ℕ)

/-- The event `record_event` inserts. -/
def EventStore.next (s : EventStore) (now : ℚ) (type : String) (message : Text)
    (actor : Option Text) : Event :=
  { seq := s.counter + 1, ts := now, type, message := attributed message actor }

def EventReader.step (cap : ℕ) (x : EventReader) : ReaderOp → Option EventReader
  | .record now type message actor =>
      let e := x.store.next now type message actor
      some { x with
        store := recordEvent cap now type message actor x.store
        ever := e :: x.ever
        recorded := e :: x.recorded }
  | .factoryReset => some { x with store := x.store.clear, recorded := [] }
  | .first limit before after =>
      some { x with received := apiEvents x.store limit before after }
  | .older limit =>
      x.received.getLast?.map fun last =>
        { x with received := x.received ++ apiEvents x.store limit (some last.seq) none }

namespace EventReader

/-- The table holds exactly the newest `cap` events recorded since the last reset, and the numbers
of the events ever recorded ascend. -/
structure Retained (cap : ℕ) (x : EventReader) : Prop where
  rows : x.store.rows = x.recorded.take cap
  sinceReset : x.recorded <+: x.ever
  ascending : Descending Event.seq x.ever

/-- What a client that pages backwards has received: recorded events in descending order, none of
them twice, none left out that is still stored between its first and its last; and if the page
before its last is empty, none at all that is still stored below its first. -/
structure Paged (x : EventReader) : Prop where
  recorded : ∀ e ∈ x.received, e ∈ x.ever
  descending : Descending Event.seq x.received
  whole : ∀ top last, x.received.head? = some top → x.received.getLast? = some last →
    ∀ e ∈ x.store.rows, e.seq ≤ top.seq → last.seq ≤ e.seq → e ∈ x.received
  complete : ∀ top last limit, x.received.head? = some top → x.received.getLast? = some last →
    apiEvents x.store limit (some last.seq) none = [] →
    ∀ e ∈ x.store.rows, e.seq ≤ top.seq → e ∈ x.received

variable {cap : ℕ} {x y : EventReader} {op : ReaderOp}

/-! ## Retention -/

/-- The numbers behind retention. -/
structure Tally (cap : ℕ) (x : EventReader) : Prop extends Retained cap x where
  numbered : Numbered x.store.counter x.recorded
  counted : ∀ e ∈ x.ever, e.seq ≤ x.store.counter

theorem Tally.initial : Tally cap {} where
  rows := List.take_nil.symm
  sinceReset := List.nil_prefix
  ascending := List.Pairwise.nil
  numbered := numbered_nil 0
  counted _ mem := absurd mem List.not_mem_nil

/-- An insert puts the next number on top, and the eviction after it leaves the newest `cap`. -/
theorem Tally.record (tally : Tally cap x) {now : ℚ} {type : String} {message : Text}
    {actor : Option Text} (h : x.step cap (.record now type message actor) = some y) :
    Tally cap y := by
  cases h
  set e := x.store.next now type message actor
  have numbered : Numbered (x.store.counter + 1) (e :: x.recorded) := ⟨rfl, tally.numbered⟩
  have newest : ∀ old ∈ x.ever, old.seq < e.seq :=
    fun old mem => Nat.lt_succ_of_le (tally.counted old mem)
  refine ⟨⟨?_, List.cons_prefix_cons.mpr ⟨rfl, tally.sinceReset⟩,
    List.pairwise_cons.mpr ⟨newest, tally.ascending⟩⟩, numbered, fun old mem => ?_⟩
  · have rows : (x.store.insert now type (attributed message actor)).rows =
        (e :: x.recorded).take (cap + 1) := by
      rw [List.take_succ_cons, ← tally.rows]
      rfl
    have kept := (numbered.take (cap + 1)).filter cap (x.store.counter + 1)
    rw [← rows, Nat.add_sub_cancel_left] at kept
    refine kept.trans ?_
    rw [rows, List.take_take, Nat.min_eq_left (Nat.le_succ cap)]
  · rcases List.mem_cons.mp mem with rfl | before
    · exact le_rfl
    · exact (newest old before).le

theorem Tally.step (tally : Tally cap x) (h : x.step cap op = some y) : Tally cap y := by
  cases op with
  | record now type message actor => exact tally.record h
  | factoryReset =>
      cases h
      exact ⟨⟨List.take_nil.symm, List.nil_prefix, tally.ascending⟩, numbered_nil _, tally.counted⟩
  | first limit before after =>
      cases h
      exact ⟨⟨tally.rows, tally.sinceReset, tally.ascending⟩, tally.numbered, tally.counted⟩
  | older limit =>
      obtain ⟨last, -, rfl⟩ := Option.map_eq_some_iff.mp h
      exact ⟨⟨tally.rows, tally.sinceReset, tally.ascending⟩, tally.numbered, tally.counted⟩

/-- The stored events are among those ever recorded. -/
theorem Retained.mem_ever (retained : Retained cap x) {e : Event} (mem : e ∈ x.store.rows) :
    e ∈ x.ever := by
  rw [retained.rows] at mem
  exact retained.sinceReset.subset (List.mem_of_mem_take mem)

/-! ## Paging -/

/-- What the client has received is a whole piece of the store, and nothing newer than the
counter. -/
structure Reading (x : EventReader) : Prop where
  valid : x.store.Valid
  whole : Convex Event.seq x.store.rows x.received
  recorded : ∀ e ∈ x.received, e ∈ x.ever
  counted : ∀ e ∈ x.received, e.seq ≤ x.store.counter

theorem Reading.initial : Reading {} where
  valid := EventStore.Valid.initial
  whole := Convex.nil
  recorded _ mem := absurd mem List.not_mem_nil
  counted _ mem := absurd mem List.not_mem_nil

/-- Inserts and evictions leave the piece whole. -/
theorem Reading.grow (reading : Reading x) {s : EventStore} (valid : s.Valid)
    (grown : EventStore.Grown x.store s) {ever recorded : List Event}
    (kept : ∀ e ∈ x.ever, e ∈ ever) :
    Reading { x with store := s, ever := ever, recorded := recorded } where
  valid := valid
  whole := reading.whole.grow fun e mem =>
    (grown.rows e mem).imp_right fun new a ha => (reading.counted a ha).trans_lt new
  recorded e mem := kept e (reading.recorded e mem)
  counted e mem := (reading.counted e mem).trans grown.counter

/-- A page before the last event goes together with what was received. -/
theorem Reading.older (reading : Reading x) (retained : Retained cap x) {last : Event}
    (bottom : x.received.getLast? = some last) (limit : ℕ) :
    Reading { x with
      received := x.received ++ apiEvents x.store limit (some last.seq) none } := by
  have page := convex_apiEvents reading.valid limit (some last.seq) none
  have below : Below Event.seq x.store.rows last.seq
      (apiEvents x.store limit (some last.seq) none) := below_take reading.valid.descending _ _
  have stored : ∀ e ∈ apiEvents x.store limit (some last.seq) none, e ∈ x.store.rows :=
    fun e mem => mem_rows_of_apiEvents mem
  refine ⟨reading.valid, reading.whole.append below page ⟨last, ?_, rfl⟩ ?_, ?_, ?_⟩
  · exact List.mem_of_getLast? bottom
  · exact last_le reading.whole.descending bottom
  · intro e mem
    rcases List.mem_append.mp mem with before | new
    · exact reading.recorded e before
    · exact retained.mem_ever (stored e new)
  · intro e mem
    rcases List.mem_append.mp mem with before | new
    · exact reading.counted e before
    · exact reading.valid.counted e (stored e new)

theorem Reading.step (reading : Reading x) (retained : Retained cap x)
    (h : x.step cap op = some y) : Reading y := by
  cases op with
  | record now type message actor =>
      cases h
      exact reading.grow (reading.valid.recordEvent ..) (.recordEvent ..)
        fun e mem => List.mem_cons_of_mem _ mem
  | factoryReset =>
      cases h
      exact reading.grow (.clear _) (.clear _) fun e mem => mem
  | first limit before after =>
      cases h
      have stored : ∀ e ∈ apiEvents x.store limit before after, e ∈ x.store.rows :=
        fun e mem => mem_rows_of_apiEvents mem
      exact ⟨reading.valid, convex_apiEvents reading.valid limit before after,
        fun e mem => retained.mem_ever (stored e mem),
        fun e mem => reading.valid.counted e (stored e mem)⟩
  | older limit =>
      obtain ⟨last, bottom, rfl⟩ := Option.map_eq_some_iff.mp h
      exact reading.older retained bottom limit

/-- An empty page says that nothing is stored before its cursor. -/
theorem le_of_apiEvents_nil {s : EventStore} {limit c : ℕ}
    (empty : apiEvents s limit (some c) none = []) : ∀ e ∈ s.rows, c ≤ e.seq := by
  intro e mem
  have some_page : max 1 (min limit 1000) ≠ 0 := by omega
  have none := (List.take_eq_nil_iff.mp empty).resolve_left some_page
  by_contra before
  have found : e ∈ s.rows.filter fun e => decide (e.seq < c) :=
    List.mem_filter.mpr ⟨mem, decide_eq_true (not_le.mp before)⟩
  rw [none] at found
  cases found

theorem Reading.paged (reading : Reading x) : Paged x := by
  have whole : ∀ top last, x.received.head? = some top → x.received.getLast? = some last →
      ∀ e ∈ x.store.rows, e.seq ≤ top.seq → last.seq ≤ e.seq → e ∈ x.received :=
    fun top last first bottom e mem high low => reading.whole.whole e mem top
      (List.mem_of_head? first) last (List.mem_of_getLast? bottom) low high
  refine ⟨reading.recorded, reading.whole.descending, whole, ?_⟩
  intro top last limit first bottom empty e mem high
  exact whole top last first bottom e mem high (le_of_apiEvents_nil empty e mem)

/-- Over every sequence of records, resets and page requests, the table holds exactly the newest
events since the last reset, under numbers that are never used again, and a client that pages
backwards misses no event that stays stored and receives none twice. -/
theorem paged_of_run {ops : List ReaderOp} (h : run (EventReader.step cap) {} ops = some x) :
    Retained cap x ∧ Paged x := by
  have start : Tally cap {} ∧ Reading {} := ⟨Tally.initial, Reading.initial⟩
  have held := run_invariant (fun _ _ _ held h =>
    And.intro (Tally.step held.1 h) (Reading.step held.2 held.1.toRetained h)) start h
  exact ⟨held.1.toRetained, held.2.paged⟩

end EventReader

/-- Four events under a cap of three; the client pages one by one while the next event evicts what
it has not reached, then a reset and one more event. -/
def pagedUnderEviction : List ReaderOp :=
  [.record 0 "startup" [] none, .record 1 "start" [] none, .record 2 "stop" [] none,
    .first 1 none none, .record 3 "start" [] none, .older 1, .older 1, .factoryReset,
    .record 4 "stop" [] none]

theorem paged_pagedUnderEviction :
    ∃ x, run (EventReader.step 3) {} pagedUnderEviction = some x ∧
      x.received.map (·.seq) = [3, 2] ∧ x.store.rows.map (·.seq) = [5] ∧
      x.Retained 3 ∧ x.Paged := by
  have seen : (run (EventReader.step 3) {} pagedUnderEviction).any fun x =>
      x.received.map (·.seq) = [3, 2] ∧ x.store.rows.map (·.seq) = [5] := by decide
  obtain ⟨x, ran, facts⟩ := (Option.any_eq_true _ _).mp seen
  have numbers := of_decide_eq_true facts
  exact ⟨x, ran, numbers.1, numbers.2, EventReader.paged_of_run ran⟩

end GeneratorPi
