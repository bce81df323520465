import GeneratorPi.Lib.PyText
import GeneratorPi.Lib.RingBuffer
import GeneratorPi.Lib.Trace
import Mathlib.Algebra.Order.Ring.Rat
import Mathlib.Data.Rat.Cast.Order

/-!
# The system history

The ring buffer of `genpi/sysmon.py`, its columnar endpoint in `genpi/routes/core.py`, and the
panel's copy (`SYS.load` and `colsToRows` of `genpi/frontend/app.js`).  A poll is queued with the
newest time the panel holds, sent, answered and delivered in steps of its own, or it is lost; the
panel may have come further when it is answered.

With samples in the order of their times the panel holds after each successful poll what the ring
buffer held when it was answered (`mirror_of_run`).
-/

namespace GeneratorPi

open PyText RingBuffer Trace

/-! ## Points -/

/-- What `_sample_system` reads. A source that is missing gives no value. -/
structure Sample where
  t : ℤ
  cpu : Option ℚ
  mem : Option ℚ
  load1 : Option ℚ
  load5 : Option ℚ
  temp : Option ℚ
  volt : Option ℚ
  thr : Option ℚ
  rssi : Option ℚ
  qual : Option ℚ
  deriving DecidableEq

/-- An object with numbers and nulls as its values, in the order of its keys. -/
abbrev SysPoint : Type := List (Text × Option ℚ)

/-- `p[k]`, null where the key is missing. -/
def SysPoint.get (p : SysPoint) (k : Text) : Option ℚ := (p.lookup k).join

/-- `p.t` as a number. -/
def SysPoint.time (p : SysPoint) : ℚ := (SysPoint.get p "t".toList).getD 0

/-- The point that `_sample_system` appends. -/
def Sample.point (s : Sample) : SysPoint :=
  [("t".toList, some s.t), ("cpu".toList, s.cpu), ("mem".toList, s.mem),
    ("load1".toList, s.load1), ("load5".toList, s.load5), ("temp".toList, s.temp),
    ("volt".toList, s.volt), ("thr".toList, s.thr), ("rssi".toList, s.rssi),
    ("qual".toList, s.qual)]

/-! ## The endpoint -/

/-- `SYS_FIELDS`. -/
def sysFields : List Text :=
  ["t", "cpu", "mem", "load1", "load5", "temp", "volt", "thr", "rssi", "qual"].map String.toList

/-- The body of an answer, `{}` where nothing is set. -/
structure HistoryBody where
  cols : Option (List (Text × List (Option ℚ))) := none
  count : Option ℕ := none
  sampleSeconds : Option ℤ := none
  capacity : Option ℕ := none
  serverNow : Option ℚ := none

/-- `?since=`, which may spell no number. -/
abbrev Since : Type := Option (Option ℚ)

/-- `api_system_history`, for a ring buffer of `maxlen`. -/
def apiSystemHistory (maxlen : ℕ) (sampleSeconds : ℤ) (now : ℚ) (since : Since)
    (ring : List SysPoint) : HistoryBody :=
  let points := match since with
    | some (some t) => ring.filter fun p => t < SysPoint.time p
    | _ => ring
  { cols := some (sysFields.map fun k => (k, points.map fun p => SysPoint.get p k))
    count := some points.length
    sampleSeconds := some (max 5 sampleSeconds)
    capacity := some maxlen
    serverNow := some now }

/-! ## The panel -/

/-- `COLKEYS`. -/
def colKeys : List Text :=
  ["cpu", "mem", "load1", "load5", "temp", "volt", "thr", "rssi", "qual"].map String.toList

def colsToRows (d : HistoryBody) : List SysPoint :=
  match d.cols.bind fun c => (c.lookup "t".toList).map fun t => (c, t) with
  | none => []
  | some (c, t) =>
      (List.range t.length).map fun i =>
        ("t".toList, (t[i]?).join) ::
          colKeys.map fun k => (k, ((c.lookup k).bind fun col => col[i]?).join)

/-- The variables of `SYS`. -/
structure SysPanel where
  points : List SysPoint := []
  capacity : ℕ := 240

/-- `?since=` of the next poll. -/
def SysPanel.since (p : SysPanel) : Since := p.points.getLast?.map fun r =>
  SysPoint.get r "t".toList

/-- `points.slice(points.length-capacity)` where there are more. -/
def cut (capacity : ℕ) (points : List SysPoint) : List SysPoint :=
  if capacity < points.length then points.drop (points.length - capacity) else points

/-- The handler of `load`. -/
def SysPanel.loaded (p : SysPanel) (d : HistoryBody) : SysPanel :=
  let capacity := match d.capacity with
    | none | some 0 => p.capacity
    | some c => c
  match p.points.getLast?, colsToRows d with
  | none, fresh => { points := fresh, capacity }
  | some _, [] => { points := p.points, capacity }
  | some last, fresh =>
      { points := cut capacity
          (p.points ++ fresh.filter fun r => SysPoint.time last < SysPoint.time r)
        capacity }

/-! ## Panel and server -/

structure SysFeed where
  /-- `_sys_history`. -/
  ring : List SysPoint := []
  panel : SysPanel := {}
  /-- The queued job. -/
  queued : Option Since := none
  /-- The poll in flight, with its answer and the ring buffer at that time once there is one. -/
  polling : Option (Since × Option (HistoryBody × List SysPoint)) := none

inductive SysOp where
  | sample (s : Sample)
  /-- `SYS.load`. While an update runs nothing is queued. -/
  | load (paused : Bool)
  | send
  | answer (sampleSeconds : ℤ) (now : ℚ)
  | deliver
  /-- Something that is no JSON, or an error, is delivered. -/
  | deliverEmpty
  /-- The poll fails or is aborted. -/
  | lose

def SysFeed.send (f : SysFeed) : Option SysFeed :=
  match f.queued, f.polling with
  | some since, none => some { f with queued := none, polling := some (since, none) }
  | _, _ => none

def SysFeed.answer (maxlen : ℕ) (sampleSeconds : ℤ) (now : ℚ) (f : SysFeed) : Option SysFeed :=
  match f.polling with
  | some (since, none) =>
      let body := apiSystemHistory maxlen sampleSeconds now since f.ring
      some { f with polling := some (since, some (body, f.ring)) }
  | _ => none

def SysFeed.deliver (f : SysFeed) : Option SysFeed :=
  match f.polling with
  | some (_, some (body, _)) => some { f with panel := f.panel.loaded body, polling := none }
  | _ => none

def SysFeed.step (maxlen : ℕ) (f : SysFeed) : SysOp → Option SysFeed
  | .sample s => some { f with ring := push maxlen f.ring s.point }
  | .load paused => some (if paused then f else { f with queued := some f.panel.since })
  | .send => f.send
  | .answer sampleSeconds now => f.answer maxlen sampleSeconds now
  | .deliver => f.deliver
  | .deliverEmpty => f.polling.map fun _ => { f with panel := f.panel.loaded {}, polling := none }
  | .lose => f.polling.map fun _ => { f with polling := none }

/-! ## Through the columns and back -/

@[simp] theorem Sample.time_point (s : Sample) : s.point.time = s.t := rfl

/-- A point is its time and its other fields by name. -/
theorem Sample.point_eq (s : Sample) : s.point =
    ("t".toList, some (s.t : ℚ)) :: colKeys.map fun k => (k, SysPoint.get s.point k) := rfl

theorem lookup_map_of_mem {V : Type} (f : Text → V) {k : Text} {keys : List Text} (mem : k ∈ keys) :
    (keys.map fun k => (k, f k)).lookup k = some (f k) := by
  induction keys with
  | nil => cases mem
  | cons first rest ih =>
      rw [List.map_cons, List.lookup_cons]
      by_cases same : k = first
      · rw [same, beq_self_eq_true]
      · rw [beq_false_of_ne same]
        exact ih ((List.mem_cons.mp mem).resolve_left same)

/-- The columns of some points, read back by row. -/
theorem rows_of_cols (samples : List Sample) (d : HistoryBody)
    (cols : d.cols = some (sysFields.map fun k =>
      (k, (samples.map Sample.point).map fun p => SysPoint.get p k))) :
    colsToRows d = samples.map Sample.point := by
  have column : ∀ k ∈ sysFields, (sysFields.map fun k =>
      (k, (samples.map Sample.point).map fun p => SysPoint.get p k)).lookup k =
        some ((samples.map Sample.point).map fun p => SysPoint.get p k) :=
    fun k mem => lookup_map_of_mem _ mem
  have times := column "t".toList List.mem_cons_self
  rw [colsToRows, cols, Option.bind_some, times]
  refine List.ext_getElem (by simp) fun i _ inside => ?_
  rw [List.length_map] at inside
  simp only [List.getElem_map, List.getElem_range, List.getElem?_map,
    List.getElem?_eq_getElem inside, Option.map_some, Option.join_some]
  rw [(samples[i]).point_eq]
  refine congrArg₂ List.cons rfl (List.map_congr_left fun k mem => ?_)
  rw [column k (List.mem_cons_of_mem _ mem)]
  simp [inside]

/-- The panel's rows are the points the endpoint answered with. -/
theorem colsToRows_apiSystemHistory (maxlen : ℕ) (sampleSeconds : ℤ) (now : ℚ) (since : Since)
    (samples : List Sample) :
    colsToRows (apiSystemHistory maxlen sampleSeconds now since (samples.map Sample.point)) =
      match since with
      | some (some t) => (samples.filter fun s => t < s.t).map Sample.point
      | _ => samples.map Sample.point := by
  match since with
  | some (some t) =>
      refine rows_of_cols (samples.filter fun s => t < s.t) _ ?_
      simp only [apiSystemHistory, List.filter_map]
      rfl
  | some none | none => exact rows_of_cols samples _ rfl

/-! ## The panel mirrors the ring buffer -/

/-- What the ring buffer holds after these samples. -/
def window (maxlen : ℕ) (samples : List Sample) : List SysPoint :=
  (lastN maxlen samples).map Sample.point

theorem push_window (maxlen : ℕ) (samples : List Sample) (s : Sample) :
    push maxlen (window maxlen samples) s.point = window maxlen (samples ++ [s]) := by
  rw [window, map_lastN, push_lastN, ← List.map_singleton, ← List.map_append, ← map_lastN, window]

theorem length_window_le (maxlen : ℕ) (samples : List Sample) :
    (window maxlen samples).length ≤ maxlen := by
  rw [window, List.length_map, length_lastN]
  exact Nat.min_le_left _ _

/-- A panel that shows something shows the newest of what was seen. -/
theorem getLast?_window {maxlen : ℕ} {seen : List Sample} {last : SysPoint}
    (h : (window maxlen seen).getLast? = some last) :
    maxlen ≠ 0 ∧ ∃ s, seen.getLast? = some s ∧ s.point = last := by
  have pos : maxlen ≠ 0 := by
    rintro rfl
    rw [List.length_eq_zero_iff.mp (Nat.le_zero.mp (length_window_le 0 seen))] at h
    cases h
  rw [window, List.getLast?_map, getLast?_lastN pos, Option.map_eq_some_iff] at h
  exact ⟨pos, h⟩

theorem cut_eq_lastN (capacity : ℕ) (points : List SysPoint) :
    cut capacity points = lastN capacity points := by
  unfold cut
  split
  case isTrue => rfl
  case isFalse short => exact (lastN_of_length_le (not_lt.mp short)).symm

/-- A `since` that is none of the panel's, or no newer than its newest point. -/
def Since.Old (since : Since) (points : List SysPoint) : Prop :=
  since = none ∨ ∃ t r, since = some (some t) ∧ points.getLast? = some r ∧ t ≤ SysPoint.time r

/-- A panel that shows something appends what is newer and cuts the list. -/
theorem points_loaded {panel : SysPanel} {d : HistoryBody} {last : SysPoint} {maxlen : ℕ}
    (newest : panel.points.getLast? = some last) (capacity : d.capacity = some maxlen)
    (pos : maxlen ≠ 0) (short : panel.points.length ≤ maxlen) :
    (panel.loaded d).points = lastN maxlen
      (panel.points ++ (colsToRows d).filter fun r => SysPoint.time last < SysPoint.time r) := by
  obtain ⟨n, rfl⟩ := Nat.exists_eq_succ_of_ne_zero pos
  rw [SysPanel.loaded, newest, capacity]
  cases fresh : colsToRows d with
  | nil =>
      rw [List.filter_nil, List.append_nil, lastN_of_length_le short]
  | cons r rest => exact cut_eq_lastN _ _

/-- What the endpoint answers to a poll that is no newer than the panel, above the panel's newest
time. -/
theorem filter_colsToRows {maxlen : ℕ} {samples : List Sample} {since : Since} {newest : ℚ}
    (old : ∀ t, since = some (some t) → t ≤ newest) (sampleSeconds : ℤ) (now : ℚ) :
    (colsToRows (apiSystemHistory maxlen sampleSeconds now since
        (samples.map Sample.point))).filter (fun r => newest < SysPoint.time r) =
      (samples.filter fun s => newest < s.t).map Sample.point := by
  rw [colsToRows_apiSystemHistory]
  match since with
  | some (some t) =>
      have le := old t rfl
      rw [List.filter_map, List.filter_filter]
      refine congrArg (List.map Sample.point) (List.filter_congr fun s _ => ?_)
      exact Bool.and_eq_left_iff_imp.mpr fun above =>
        decide_eq_true (le.trans_lt (of_decide_eq_true above))
  | some none | none =>
      rw [List.filter_map]
      rfl

/-- The answer to such a poll brings the panel to where the ring buffer was. -/
theorem loaded_window {maxlen : ℕ} {seen new : List Sample} {panel : SysPanel} {since : Since}
    (ascending : (seen ++ new).Pairwise fun a b => a.t < b.t)
    (shown : panel.points = window maxlen seen) (old : since.Old panel.points)
    (sampleSeconds : ℤ) (now : ℚ) :
    (panel.loaded (apiSystemHistory maxlen sampleSeconds now since
      (window maxlen (seen ++ new)))).points = window maxlen (seen ++ new) := by
  cases newest : panel.points.getLast? with
  | none =>
      have first : since = none := by
        rcases old with none | ⟨t, r, -, last, -⟩
        · exact none
        · rw [newest] at last
          cases last
      rw [SysPanel.loaded, newest, first, window, colsToRows_apiSystemHistory]
  | some last =>
      have short : panel.points.length ≤ maxlen := by
        rw [shown]
        exact length_window_le _ _
      obtain ⟨pos, s, lastSeen, rfl⟩ := getLast?_window (shown ▸ newest)
      obtain ⟨before, rfl⟩ := List.getLast?_eq_some_iff.mp lastSeen
      obtain ⟨ordered, -, apart⟩ := List.pairwise_append.mp ascending
      have notNewer : ∀ a ∈ before ++ [s], ¬ (s.t : ℚ) < a.t := by
        intro a mem
        rcases List.mem_append.mp mem with earlier | same
        · have less := (List.pairwise_append.mp ordered).2.2 a earlier s List.mem_cons_self
          exact not_lt.mpr (Int.cast_le.mpr less.le)
        · rw [List.mem_singleton.mp same]
          exact lt_irrefl _
      have newer : ∀ a ∈ new, (s.t : ℚ) < a.t := by
        intro a mem
        exact_mod_cast apart s (by simp) a mem
      have since_le : ∀ t, since = some (some t) → t ≤ s.point.time := by
        rintro t rfl
        rcases old with none | ⟨u, r, same, last, le⟩
        · cases none
        · rw [newest] at last
          cases same
          cases last
          exact le
      rw [points_loaded newest rfl pos short, window, filter_colsToRows since_le,
        Sample.time_point, filter_lastN_append (fun s : Sample => (s.t : ℚ)) notNewer newer, shown,
        window, ← List.map_append, ← map_lastN, lastN_append_lastN]

/-! ## Runs -/

def SysOp.sampled : SysOp → Option Sample
  | .sample s => some s
  | _ => none

/-- The polls that are queued or in flight. -/
def SysFeed.polls (f : SysFeed) : List Since := f.queued.toList ++ (f.polling.map Prod.fst).toList

/-- After the samples so far: the panel shows what the ring buffer held after the first of them, and
an answer on its way was given between then and now. -/
structure Mirrors (maxlen : ℕ) (samples : List Sample) (f : SysFeed) : Prop where
  ring : f.ring = window maxlen samples
  shown : ∃ seen, seen <+: samples ∧ f.panel.points = window maxlen seen ∧
    ∀ since body ring, f.polling = some (since, some (body, ring)) →
      ∃ new sampleSeconds now, seen ++ new <+: samples ∧ ring = window maxlen (seen ++ new) ∧
        body = apiSystemHistory maxlen sampleSeconds now since ring
  old : ∀ since ∈ f.polls, since.Old f.panel.points

variable {maxlen : ℕ} {samples : List Sample} {f f' : SysFeed}

theorem Mirrors.initial (maxlen : ℕ) : Mirrors maxlen [] {} where
  ring := by simp [window, lastN]
  shown := ⟨[], List.prefix_rfl, by simp [window, lastN], fun _ _ _ h => nomatch h⟩
  old _ mem := absurd mem List.not_mem_nil

/-- The panel's own `since`. -/
theorem since_old {panel : SysPanel} {seen : List Sample}
    (shown : panel.points = window maxlen seen) : panel.since.Old panel.points := by
  cases newest : panel.points.getLast? with
  | none => exact Or.inl (by rw [SysPanel.since, newest]; rfl)
  | some last =>
      have mem : last ∈ window maxlen seen := shown ▸ List.mem_of_getLast? newest
      obtain ⟨s, -, rfl⟩ := List.mem_map.mp mem
      exact Or.inr ⟨s.t, s.point, by rw [SysPanel.since, newest]; rfl, newest, le_rfl⟩

theorem Mirrors.sample (held : Mirrors maxlen samples f) (s : Sample) :
    Mirrors maxlen (samples ++ [s]) { f with ring := push maxlen f.ring s.point } where
  ring := by rw [held.ring, push_window]
  shown := by
    obtain ⟨seen, begins, shown, answered⟩ := held.shown
    refine ⟨seen, begins.trans (List.prefix_append _ _), shown, fun since body ring polling => ?_⟩
    obtain ⟨new, sampleSeconds, now, within, isRing, isBody⟩ := answered since body ring polling
    exact ⟨new, sampleSeconds, now, within.trans (List.prefix_append _ _), isRing, isBody⟩
  old := held.old

/-- A step that leaves ring buffer, panel and answers alone. -/
theorem Mirrors.of_same (held : Mirrors maxlen samples f) (ring : f'.ring = f.ring)
    (panel : f'.panel.points = f.panel.points)
    (polling : ∀ since answer, f'.polling = some (since, some answer) →
      f.polling = some (since, some answer))
    (old : ∀ since ∈ f'.polls, since ∈ f.polls ∨ since = f.panel.since) :
    Mirrors maxlen samples f' where
  ring := ring.trans held.ring
  shown := by
    obtain ⟨seen, begins, shown, answered⟩ := held.shown
    exact ⟨seen, begins, panel.trans shown,
      fun since body ring h => answered since body ring (polling since (body, ring) h)⟩
  old since mem := by
    obtain ⟨seen, -, shown, -⟩ := held.shown
    rw [panel]
    rcases old since mem with known | rfl
    · exact held.old since known
    · exact since_old shown

theorem Mirrors.answer (held : Mirrors maxlen samples f) {sampleSeconds : ℤ} {now : ℚ}
    (h : f.answer maxlen sampleSeconds now = some f') : Mirrors maxlen samples f' := by
  rcases f with ⟨ring, panel, queued, _ | ⟨since, _ | answered⟩⟩ <;> cases h
  obtain ⟨seen, ⟨new, all⟩, shown, -⟩ := held.shown
  have isRing : ring = window maxlen (seen ++ new) := by rw [all]; exact held.ring
  refine ⟨held.ring, ⟨seen, ⟨new, all⟩, shown, fun since' body ring' h => ?_⟩, held.old⟩
  cases h
  exact ⟨new, sampleSeconds, now, ⟨[], by rw [List.append_nil, all]⟩, isRing, rfl⟩

/-- A poll that was no newer than the panel is none when the panel has come further. -/
theorem Since.Old.append {since : Since} {seen new : List Sample}
    (ascending : (seen ++ new).Pairwise fun a b => a.t < b.t)
    (old : since.Old (window maxlen seen)) : since.Old (window maxlen (seen ++ new)) := by
  rcases old with none | ⟨t, r, same, last, le⟩
  · exact Or.inl none
  obtain ⟨pos, s, lastSeen, rfl⟩ := getLast?_window last
  have lastWindow : ∀ l : List Sample,
      (window maxlen l).getLast? = l.getLast?.map Sample.point := by
    intro l
    rw [window, List.getLast?_map, getLast?_lastN pos]
  refine Or.inr ⟨t, ?_⟩
  rw [lastWindow, List.getLast?_append]
  cases lastNew : new.getLast? with
  | none => exact ⟨s.point, same, by rw [Option.none_or, lastSeen]; rfl, le⟩
  | some u =>
      have newer : s.t < u.t := (List.pairwise_append.mp ascending).2.2 s
        (List.mem_of_getLast? lastSeen) u (List.mem_of_getLast? lastNew)
      refine ⟨u.point, same, rfl, le.trans ?_⟩
      exact Int.cast_le.mpr newer.le

/-- Delivery brings the panel to where the ring buffer was. -/
theorem Mirrors.deliver (held : Mirrors maxlen samples f)
    (ascending : samples.Pairwise fun a b => a.t < b.t) (h : f.deliver = some f') :
    Mirrors maxlen samples f' ∧
      ∃ since body ring, f.polling = some (since, some (body, ring)) ∧ f'.panel.points = ring := by
  rcases f with ⟨ring, panel, queued, _ | ⟨since, _ | ⟨body, then_⟩⟩⟩ <;> cases h
  obtain ⟨seen, -, shown, answered⟩ := held.shown
  obtain ⟨new, sampleSeconds, now, ⟨later, all⟩, rfl, rfl⟩ := answered since body then_ rfl
  have part : (seen ++ new).Pairwise fun a b => a.t < b.t := by
    rw [← all] at ascending
    exact (List.pairwise_append.mp ascending).1
  have asked : since.Old panel.points := held.old since (by simp [SysFeed.polls])
  have loaded := loaded_window part shown asked sampleSeconds now
  refine ⟨⟨held.ring, ⟨seen ++ new, ⟨later, all⟩, loaded, fun _ _ _ h => nomatch h⟩, ?_⟩,
    since, _, _, rfl, loaded⟩
  intro other mem
  have queuedOld : other.Old panel.points := by
    refine held.old other (List.mem_append_left _ ?_)
    simpa [SysFeed.polls] using mem
  rw [loaded]
  rw [shown] at queuedOld
  exact queuedOld.append part

theorem points_loaded_empty (panel : SysPanel) : (panel.loaded {}).points = panel.points := by
  cases newest : panel.points.getLast? with
  | none =>
      rw [SysPanel.loaded, newest, List.getLast?_eq_none_iff.mp newest]
      rfl
  | some last =>
      rw [SysPanel.loaded, newest]
      rfl

theorem Mirrors.step (held : Mirrors maxlen samples f) {op : SysOp}
    (ascending : (samples ++ op.sampled.toList).Pairwise fun a b => a.t < b.t)
    (h : f.step maxlen op = some f') : Mirrors maxlen (samples ++ op.sampled.toList) f' := by
  have quiet : op.sampled = none → samples ++ op.sampled.toList = samples := by
    intro none
    rw [none]
    exact List.append_nil _
  cases op with
  | sample s =>
      cases h
      exact held.sample s
  | load paused =>
      rw [quiet rfl]
      cases h
      split
      case isTrue => exact held
      case isFalse =>
        refine held.of_same rfl rfl (fun _ _ h => h) fun since mem => ?_
        rcases List.mem_append.mp mem with queued | polling
        · exact Or.inr (by simpa using queued)
        · exact Or.inl (List.mem_append_right _ polling)
  | send =>
      rw [quiet rfl]
      rcases f with ⟨ring, panel, _ | since, _ | polling⟩ <;> cases h
      refine held.of_same rfl rfl (fun _ _ h => nomatch h) fun since mem => Or.inl ?_
      simpa [SysFeed.polls] using mem
  | answer sampleSeconds now =>
      rw [quiet rfl]
      exact held.answer h
  | deliver =>
      rw [quiet rfl] at ascending ⊢
      exact (held.deliver ascending h).1
  | deliverEmpty =>
      rw [quiet rfl]
      obtain ⟨_, -, rfl⟩ := Option.map_eq_some_iff.mp h
      refine held.of_same rfl (points_loaded_empty _) (fun _ _ h => nomatch h) fun since mem => ?_
      exact Or.inl (List.mem_append_left _ (by simpa [SysFeed.polls] using mem))
  | lose =>
      rw [quiet rfl]
      obtain ⟨_, -, rfl⟩ := Option.map_eq_some_iff.mp h
      refine held.of_same rfl rfl (fun _ _ h => nomatch h) fun since mem => ?_
      exact Or.inl (List.mem_append_left _ (by simpa [SysFeed.polls] using mem))

theorem mirrors_of_run {ops : List SysOp}
    (ascending : (ops.filterMap SysOp.sampled).Pairwise fun a b => a.t < b.t)
    (h : run (SysFeed.step maxlen) {} ops = some f) :
    Mirrors maxlen (ops.filterMap SysOp.sampled) f := by
  refine run_induction (P := fun ops f =>
      (ops.filterMap SysOp.sampled).Pairwise (fun a b => a.t < b.t) →
        Mirrors maxlen (ops.filterMap SysOp.sampled) f)
    (fun ops op m f' _ held stepped ascending => ?_) (fun _ => Mirrors.initial maxlen) h ascending
  have one : [op].filterMap SysOp.sampled = op.sampled.toList := by
    cases op <;> rfl
  rw [List.filterMap_append, one] at ascending ⊢
  exact (held (List.pairwise_append.mp ascending).1).step ascending stepped

/-- With samples in the order of their times, each successful poll leaves the panel with the points
that the ring buffer held when it was answered, and neither ever holds more than its capacity. -/
theorem mirror_of_run {ops : List SysOp}
    (ascending : (ops.filterMap SysOp.sampled).Pairwise fun a b => a.t < b.t)
    (h : run (SysFeed.step maxlen) {} ops = some f) :
    f.panel.points.length ≤ maxlen ∧ f.ring.length ≤ maxlen ∧
      ∀ f', f.deliver = some f' →
        ∃ since body ring, f.polling = some (since, some (body, ring)) ∧
          f'.panel.points = ring := by
  have held := mirrors_of_run ascending h
  obtain ⟨seen, -, shown, -⟩ := held.shown
  refine ⟨?_, ?_, fun f' delivered => (held.deliver ascending delivered).2⟩
  · rw [shown]
    exact length_window_le _ _
  · rw [held.ring]
    exact length_window_le _ _

def sampleAt (t : ℤ) : Sample where
  t
  cpu := none
  mem := some 41
  load1 := some (1 / 2)
  load5 := some (1 / 4)
  temp := some 48
  volt := none
  thr := none
  rssi := some (-62)
  qual := some 48

/-- More samples than the buffer holds come between two polls, and the second poll was queued before
the first one was delivered. -/
def overrun : List SysOp :=
  [.sample (sampleAt 1), .load false, .send, .answer 15 1, .sample (sampleAt 2), .load false,
    .deliver, .send, .sample (sampleAt 3), .sample (sampleAt 4), .sample (sampleAt 5),
    .answer 15 5]

theorem mirror_of_run_overrun :
    ∃ f f', run (SysFeed.step 2) {} overrun = some f ∧ f.deliver = some f' ∧
      f'.panel.points = [(sampleAt 4).point, (sampleAt 5).point] := by
  have seen : (run (SysFeed.step 2) {} overrun).any fun f => f.deliver.isSome &&
      f.polling.all fun poll => poll.2.all fun answer =>
        answer.2 = [(sampleAt 4).point, (sampleAt 5).point] := by decide +kernel
  obtain ⟨f, ran, facts⟩ := (Option.any_eq_true _ _).mp seen
  obtain ⟨delivers, answered⟩ := Bool.and_eq_true_iff.mp facts
  obtain ⟨f', delivered⟩ := Option.isSome_iff_exists.mp delivers
  obtain ⟨-, -, mirror⟩ := mirror_of_run (by decide) ran
  obtain ⟨since, body, ring, polling, points⟩ := mirror f' delivered
  rw [polling] at answered
  exact ⟨f, f', ran, delivered, points.trans (of_decide_eq_true answered)⟩

end GeneratorPi
