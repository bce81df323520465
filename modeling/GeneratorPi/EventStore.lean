import Mathlib.Data.Rat.Defs
import GeneratorPi.Lib.Paging
import GeneratorPi.Lib.PyText

/-!
# The event store

The events table of `genpi/store.py`: `record_event`, which evicts past the cap, `get_events`, which
`GET /api/events` (`genpi/routes/core.py`) serves, and the emptying by `factory_reset`.

Sequence numbers are never used again, so the store only grows at the top, and every page it serves
is whole.
-/

namespace GeneratorPi

open PyText Paging

structure Event where
  seq : ℕ
  ts : ℚ
  type : String
  message : Text
  deriving DecidableEq

/-- The table, newest row first, and the counter behind `AUTOINCREMENT`. -/
structure EventStore where
  rows : List Event := []
  counter : ℕ := 0
  deriving DecidableEq

/-- The message with the actor's name. -/
def attributed (message : Text) (actor : Option Text) : Text :=
  match actor with
  | some name =>
      if strip name ≠ [] then message ++ " (by ".toList ++ strip name ++ ")".toList else message
  | none => message

/-- `SELECT MAX(seq)`. -/
def EventStore.latestSeq (s : EventStore) : ℕ := (s.rows.head?.map (·.seq)).getD 0

/-- `DELETE FROM events WHERE seq <= MAX(seq) - max_rows`. -/
def EventStore.evict (s : EventStore) (maxRows : ℕ) : EventStore :=
  { s with rows := s.rows.filter fun e => !decide (e.seq + maxRows ≤ s.latestSeq) }

/-- `INSERT INTO events`. -/
def EventStore.insert (s : EventStore) (ts : ℚ) (type : String) (message : Text) : EventStore where
  rows := { seq := s.counter + 1, ts, type, message } :: s.rows
  counter := s.counter + 1

/-- `record_event`, with the clock's time. -/
def recordEvent (maxRows : ℕ) (now : ℚ) (type : String) (message : Text) (actor : Option Text)
    (s : EventStore) : EventStore :=
  (s.insert now type (attributed message actor)).evict maxRows

/-- `DELETE FROM events`, in `factory_reset`. -/
def EventStore.clear (s : EventStore) : EventStore := { s with rows := [] }

/-- `get_events`; `before` takes precedence. -/
def getEvents (s : EventStore) (limit : ℕ) (before after : Option ℕ) : List Event :=
  match before, after with
  | some b, _ => (s.rows.filter fun e => decide (e.seq < b)).take limit
  | none, some a => (s.rows.filter fun e => decide (a < e.seq)).take limit
  | none, none => s.rows.take limit

/-- The events of `GET /api/events`. -/
def apiEvents (s : EventStore) (limit : ℕ) (before after : Option ℕ) : List Event :=
  getEvents s (max 1 (min limit 1000)) before after

/-! ## What the table keeps -/

/-- Rows descend, and none is ahead of the counter. -/
structure EventStore.Valid (s : EventStore) : Prop where
  descending : Descending Event.seq s.rows
  counted : ∀ e ∈ s.rows, e.seq ≤ s.counter

theorem EventStore.Valid.initial : EventStore.Valid {} where
  descending := List.Pairwise.nil
  counted _ mem := absurd mem List.not_mem_nil

/-- The rows of the later store are among the earlier ones or newer than all that was counted. -/
structure EventStore.Grown (s s' : EventStore) : Prop where
  counter : s.counter ≤ s'.counter
  rows : ∀ e ∈ s'.rows, e ∈ s.rows ∨ s.counter < e.seq

variable {s s' : EventStore}

theorem mem_of_mem_evict {maxRows : ℕ} {e : Event} (mem : e ∈ (s.evict maxRows).rows) :
    e ∈ s.rows := List.mem_of_mem_filter mem

theorem mem_of_mem_insert {ts : ℚ} {type : String} {message : Text} {e : Event}
    (mem : e ∈ (s.insert ts type message).rows) : e ∈ s.rows ∨ e.seq = s.counter + 1 := by
  rcases List.mem_cons.mp mem with rfl | old
  · exact Or.inr rfl
  · exact Or.inl old

theorem EventStore.Valid.recordEvent (valid : s.Valid) (maxRows : ℕ) (now : ℚ) (type : String)
    (message : Text) (actor : Option Text) :
    (recordEvent maxRows now type message actor s).Valid where
  descending := by
    refine List.Pairwise.filter _ (List.pairwise_cons.mpr ⟨fun e mem => ?_, valid.descending⟩)
    exact Nat.lt_succ_of_le (valid.counted e mem)
  counted e mem := by
    have bound : e.seq ≤ s.counter + 1 := by
      rcases mem_of_mem_insert (mem_of_mem_evict mem) with old | new
      · exact Nat.le_succ_of_le (valid.counted e old)
      · exact new.le
    exact bound

theorem EventStore.Grown.recordEvent (maxRows : ℕ) (now : ℚ) (type : String) (message : Text)
    (actor : Option Text) : Grown s (recordEvent maxRows now type message actor s) where
  counter := Nat.le_succ _
  rows e mem := by
    rcases mem_of_mem_insert (mem_of_mem_evict mem) with old | new
    · exact Or.inl old
    · exact Or.inr (by omega)

theorem EventStore.Valid.clear (s : EventStore) : s.clear.Valid where
  descending := List.Pairwise.nil
  counted _ mem := absurd mem List.not_mem_nil

theorem EventStore.Grown.clear (s : EventStore) : Grown s s.clear where
  counter := le_rfl
  rows _ mem := absurd mem List.not_mem_nil

/-- Every page is whole. -/
theorem convex_apiEvents (valid : s.Valid) (limit : ℕ) (before after : Option ℕ) :
    Convex Event.seq s.rows (apiEvents s limit before after) := by
  unfold apiEvents getEvents
  split
  · exact convex_take valid.descending (fun a _ e ha _ _ high => by
      rw [decide_eq_true_eq] at ha ⊢
      omega) _
  · exact convex_take valid.descending (fun _ b e _ hb low _ => by
      rw [decide_eq_true_eq] at hb ⊢
      omega) _
  · have all := convex_take valid.descending (p := fun _ => true) (fun _ _ _ _ _ _ _ => rfl)
      (max 1 (min limit 1000))
    rwa [List.filter_true] at all

theorem mem_rows_of_apiEvents {limit : ℕ} {before after : Option ℕ} {e : Event}
    (mem : e ∈ apiEvents s limit before after) : e ∈ s.rows := by
  unfold apiEvents getEvents at mem
  split at mem
  · exact List.mem_of_mem_filter (List.mem_of_mem_take mem)
  · exact List.mem_of_mem_filter (List.mem_of_mem_take mem)
  · exact List.mem_of_mem_take mem

end GeneratorPi
