import GeneratorPi.PollQueue

/-!
# Turns in the poll queue

`_drainPollQ` takes the job with the least effective priority, which drops by one level for each
full interval waited (`genpi/frontend/app.js`).  By a clock that does not go back, a job that
comes later than another by the difference in their priorities does not overtake it, whatever else
is requested meanwhile (`overtakes`).
-/

namespace GeneratorPi

open Ageing PyText Trace

variable {J : Type} {cfg : PollConfig J} {now : ℤ} {queue rest : List PollJob} {job : PollJob}
  {s s' : PollQueue J}

/-! ## The order of the queue -/

/-- The jobs stand in the order they were queued in. -/
structure PollQueue.Ordered (s : PollQueue J) : Prop where
  ids : s.queue.Pairwise fun a b => a.id < b.id
  called : ∀ job ∈ s.queue, job.id < s.calls

theorem PollQueue.drain_cases (cfg : PollConfig J) (now : ℤ) (s : PollQueue J) :
    s.drain cfg now = s ∨
      ∃ job rest, cfg.pick now s.queue = some (job, rest) ∧ (s.drain cfg now).queue = rest ∧
        (s.drain cfg now).issued = s.issued ++ [job] ∧ (s.drain cfg now).calls = s.calls := by
  unfold PollQueue.drain
  split
  case isTrue => exact Or.inl rfl
  case isFalse =>
    split
    case h_1 => exact Or.inl rfl
    case h_2 job rest taken => exact Or.inr ⟨job, rest, taken, rfl, rfl, rfl⟩

theorem sublist_of_pick (h : cfg.pick now queue = some (job, rest)) : rest.Sublist queue := by
  obtain ⟨i, -, -, rfl⟩ := pick_eq_some h
  exact List.eraseIdx_sublist _ _

theorem PollQueue.mem_of_mem_drain (h : job ∈ (s.drain cfg now).queue) : job ∈ s.queue := by
  rcases s.drain_cases cfg now with same | ⟨first, rest, taken, queue, -, -⟩
  · rwa [same] at h
  · rw [queue] at h
    exact (sublist_of_pick taken).subset h

theorem PollQueue.Ordered.drain (held : s.Ordered) : (s.drain cfg now).Ordered := by
  rcases s.drain_cases cfg now with same | ⟨job, rest, taken, queue, -, calls⟩
  · rw [same]
    exact held
  · have sub := sublist_of_pick taken
    constructor
    · rw [queue]
      exact held.ids.sublist sub
    · rw [queue, calls]
      exact fun job mem => held.called job (sub.subset mem)

/-- `Date.now()` as an operation reads it, in the order of the readings. -/
def PollOp.readings : PollOp J → List ℤ
  | .call _ _ _ _ t now => [t, now]
  | .finish _ now => [now]
  | _ => []

/-- What is queued when a step begins to drain: the old jobs, and a new one of a call. -/
inductive PollQueue.Enqueued (s u : PollQueue J) (readings : List ℤ) : Prop where
  | none (queue : u.queue = s.queue) (calls : u.calls = s.calls)
  | one (new : PollJob) (queue : u.queue = s.queue ++ [new]) (id : new.id = s.calls)
      (read : new.t ∈ readings) (calls : u.calls = s.calls + 1)

/-- What a step does to the queue. -/
inductive PollQueue.QueueStep (cfg : PollConfig J) (s s' : PollQueue J) (readings : List ℤ) :
    Prop where
  | keeps (queue : s'.queue = s.queue) (issued : s'.issued = s.issued)
      (calls : s.calls ≤ s'.calls)
  /-- A call takes over the job that waits with its key. -/
  | renews (left right : List PollJob) (old new : PollJob) (before : s.queue = left ++ old :: right)
      (after : s'.queue = left ++ new :: right) (id : new.id = old.id) (t : new.t = old.t)
      (issued : s'.issued = s.issued) (calls : s.calls ≤ s'.calls)
  | drains (u : PollQueue J) (now : ℤ) (last : readings.getLast? = some now)
      (drained : s' = u.drain cfg now) (issued : u.issued = s.issued)
      (enqueued : s.Enqueued u readings)

theorem PollQueue.queueStep {op : PollOp J} (h : s.step cfg op = some s') :
    PollQueue.QueueStep cfg s s' op.readings := by
  cases op with
  | call blocked key path ms t now =>
      obtain rfl := Option.some.inj h
      unfold PollQueue.pollFetch
      split
      case isTrue => exact .keeps rfl rfl (Nat.le_succ _)
      case isFalse =>
        split
        case h_1 old queue handed =>
          obtain ⟨left, job, right, parts, -, -, rfl⟩ := coalesce_eq_some handed
          exact .renews left right job _ parts rfl rfl rfl rfl (Nat.le_succ _)
        case h_2 =>
          exact .drains _ now rfl rfl rfl (.one _ rfl rfl List.mem_cons_self rfl)
  | respond n | fail n | body n d | badBody n =>
      obtain ⟨r, -, ran⟩ := Option.bind_eq_some_iff.mp h
      simp only [PollQueue.callback] at ran
      split at ran <;> cases ran
      exact .keeps rfl rfl le_rfl
  | finish n now =>
      obtain ⟨r, -, ran⟩ := Option.bind_eq_some_iff.mp h
      simp only [PollQueue.callback] at ran
      split at ran <;> cases ran
      exact .drains _ now rfl rfl rfl (.none rfl rfl)

theorem PollQueue.Ordered.enqueue (held : s.Ordered) {u : PollQueue J} {readings : List ℤ}
    (enqueued : s.Enqueued u readings) : u.Ordered := by
  cases enqueued with
  | none queue calls =>
      exact ⟨by rw [queue]; exact held.ids, by rw [queue, calls]; exact held.called⟩
  | one new queue id _ calls =>
      constructor
      · rw [queue]
        refine List.pairwise_append.mpr ⟨held.ids, List.pairwise_singleton _ _, ?_⟩
        intro a mem b last
        rw [List.mem_singleton.mp last, id]
        exact held.called a mem
      · rw [queue, calls]
        intro job mem
        rcases List.mem_append.mp mem with old | last
        · exact Nat.lt_succ_of_lt (held.called job old)
        · rw [List.mem_singleton.mp last, id]
          exact Nat.lt_succ_self _

theorem PollQueue.Ordered.step (held : s.Ordered) {op : PollOp J}
    (h : s.step cfg op = some s') : s'.Ordered := by
  cases PollQueue.queueStep h with
  | keeps queue issued calls =>
      refine ⟨by rw [queue]; exact held.ids, fun job mem => ?_⟩
      rw [queue] at mem
      exact (held.called job mem).trans_le calls
  | renews left right old new before after id t issued calls =>
      have ids := held.ids
      have called := held.called
      rw [before] at ids called
      constructor
      · have renamed : ∀ l : List PollJob, (l.Pairwise fun a b => a.id < b.id) ↔
            (l.map PollJob.id).Pairwise (· < ·) := fun l => List.pairwise_map.symm
        rw [after, renamed, List.map_append, List.map_cons, id]
        rwa [renamed, List.map_append, List.map_cons] at ids
      · rw [after]
        intro job mem
        rcases List.mem_append.mp mem with front | here
        · exact (called job (List.mem_append_left _ front)).trans_le calls
        · rcases List.mem_cons.mp here with rfl | back
          · rw [id]
            exact (called old (by simp)).trans_le calls
          · exact (called job (by simp [back])).trans_le calls
  | drains u now last drained issued enqueued =>
      rw [drained]
      exact (held.enqueue enqueued).drain

theorem ordered_of_run {ops : List (PollOp J)}
    (h : run (PollQueue.step cfg) {} ops = some s) : s.Ordered :=
  run_invariant (fun _ _ _ held h => PollQueue.Ordered.step held h)
    ⟨List.Pairwise.nil, fun _ mem => absurd mem List.not_mem_nil⟩ h

/-! ## Who is taken before whom -/

theorem PollQueue.Enqueued.mem {u : PollQueue J} {readings : List ℤ}
    (enqueued : s.Enqueued u readings) (mem : job ∈ u.queue) :
    job ∈ s.queue ∨ job.t ∈ readings := by
  cases enqueued with
  | none queue _ =>
      rw [queue] at mem
      exact Or.inl mem
  | one new queue _ read _ =>
      rw [queue] at mem
      rcases List.mem_append.mp mem with old | last
      · exact Or.inl old
      · rw [List.mem_singleton.mp last]
        exact Or.inr read

/-- A step that issues a job picks it from an ordered queue whose jobs are old or its own. -/
theorem PollQueue.pick_of_issued (held : s.Ordered) {op : PollOp J}
    (h : s.step cfg op = some s') (taken : s'.issued = s.issued ++ [job]) :
    ∃ now queue, cfg.pick now queue = some (job, s'.queue) ∧
      (queue.Pairwise fun a b => a.id < b.id) ∧ op.readings.getLast? = some now ∧
      ∀ other ∈ queue, other ∈ s.queue ∨ other.t ∈ op.readings := by
  have issues : s'.issued ≠ s.issued := by
    rw [taken]
    simp
  cases PollQueue.queueStep h with
  | keeps _ issued _ => exact absurd issued issues
  | renews _ _ _ _ _ _ _ _ issued _ => exact absurd issued issues
  | drains u now last drained issued enqueued =>
      refine ⟨now, u.queue, ?_, (held.enqueue enqueued).ids, last, fun other => enqueued.mem⟩
      rcases u.drain_cases cfg now with same | ⟨first, rest, picked, queue, first_issued, -⟩
      · rw [drained, same] at issues
        exact absurd issued issues
      · rw [drained, first_issued, issued] at taken
        rw [drained, queue, picked]
        simpa using taken

/-- Jobs carry readings of the run that queued them. -/
theorem PollQueue.times_step {op : PollOp J} (h : s.step cfg op = some s') :
    ∀ job ∈ s'.queue, (∃ old ∈ s.queue, job.t = old.t) ∨ job.t ∈ op.readings := by
  intro job mem
  cases PollQueue.queueStep h with
  | keeps queue _ _ =>
      rw [queue] at mem
      exact Or.inl ⟨job, mem, rfl⟩
  | renews left right old new before after _ t _ _ =>
      rw [after] at mem
      rw [before]
      rcases List.mem_append.mp mem with front | here
      · exact Or.inl ⟨job, List.mem_append_left _ front, rfl⟩
      · rcases List.mem_cons.mp here with rfl | back
        · exact Or.inl ⟨old, by simp, t⟩
        · exact Or.inl ⟨job, by simp [back], rfl⟩
  | drains u now _ drained _ enqueued =>
      rw [drained] at mem
      rcases enqueued.mem (PollQueue.mem_of_mem_drain mem) with old | new
      · exact Or.inl ⟨job, old, rfl⟩
      · exact Or.inr new

theorem times_of_run {ops : List (PollOp J)} (h : run (PollQueue.step cfg) {} ops = some s) :
    ∀ job ∈ s.queue, job.t ∈ ops.flatMap PollOp.readings := by
  refine run_induction (P := fun ops s => ∀ job ∈ PollQueue.queue s, job.t ∈ ops.flatMap _)
    (fun ops op m s' _ times stepped job mem => ?_) (fun _ mem => absurd mem List.not_mem_nil) h
  rw [List.flatMap_append, List.flatMap_singleton]
  rcases PollQueue.times_step stepped job mem with ⟨old, queued, same⟩ | new
  · rw [same]
    exact List.mem_append_left _ (times old queued)
  · exact List.mem_append_right _ new

/-- By integer priorities, what `pick` takes has the least urgency, and of those the earliest time,
and of those the first place. -/
theorem least_of_pick {b : Text → ℤ} (integer : ∀ key, cfg.prio key = some (b key))
    (ids : queue.Pairwise fun a b => a.id < b.id) (h : cfg.pick now queue = some (job, rest))
    {other : PollJob} (waits : other ∈ rest) :
    urgency cfg.age (b job.key) (job.since now) now <
        urgency cfg.age (b other.key) (other.since now) now ∨
      urgency cfg.age (b job.key) (job.since now) now =
          urgency cfg.age (b other.key) (other.since now) now ∧
        (job.since now < other.since now ∨ job.since now = other.since now ∧
          job.id < other.id) := by
  have rank : ∀ job, cfg.rank now job =
      (some (urgency cfg.age (b job.key) (job.since now) now), job.since now) := by
    intro job
    rw [PollConfig.rank, integer]
    rfl
  have ordered : ∀ k ∈ queue.map (cfg.rank now), ∀ l ∈ queue.map (cfg.rank now),
      (beats k l = true ↔ toLex (k.1.getD 0, k.2) < toLex (l.1.getD 0, l.2)) := by
    intro k hk l hl
    obtain ⟨x, -, rfl⟩ := List.mem_map.mp hk
    obtain ⟨y, -, rfl⟩ := List.mem_map.mp hl
    rw [rank, rank, Prod.Lex.toLex_lt_toLex]
    simp [beats]
  obtain ⟨i, best, here, rfl⟩ := pick_eq_some h
  obtain ⟨j, apart, there⟩ := List.mem_eraseIdx_iff_getElem?.mp waits
  have first := firstBest_least ordered best
  have least := first j (cfg.rank now other) (by rw [List.getElem?_map, there]; rfl)
  rw [rank, rank, Prod.Lex.toLex_le_toLex, Prod.Lex.toLex_lt_toLex] at least
  obtain ⟨le, before⟩ := least
  rcases Nat.lt_or_gt_of_ne apart with earlier | later
  · rcases before earlier with less | ⟨tie, sooner⟩
    · exact Or.inl less
    · exact Or.inr ⟨tie, Or.inl sooner⟩
  · rcases le with less | ⟨tie, le⟩
    · exact Or.inl less
    · refine Or.inr ⟨tie, le.lt_or_eq.imp_right fun same => ⟨same, ?_⟩⟩
      obtain ⟨insideI, rfl⟩ := List.getElem?_eq_some_iff.mp here
      obtain ⟨insideJ, rfl⟩ := List.getElem?_eq_some_iff.mp there
      exact List.pairwise_iff_getElem.mp ids i j insideI insideJ later

/-- What a step issues was queued no later than the reading it is picked at. -/
theorem issued_not_later {ops : List (PollOp J)} {op : PollOp J}
    (clock : ((ops ++ [op]).flatMap PollOp.readings).Pairwise (· ≤ ·))
    (ran : run (PollQueue.step cfg) {} ops = some s) (last : op.readings.getLast? = some now)
    (origin : job ∈ s.queue ∨ job.t ∈ op.readings) : job.t ≤ now := by
  rw [List.flatMap_append, List.flatMap_singleton, List.pairwise_append] at clock
  obtain ⟨-, own, across⟩ := clock
  obtain ⟨before, readings⟩ := List.getLast?_eq_some_iff.mp last
  rcases origin with old | new
  · exact across _ (times_of_run ran job old) now (List.mem_of_getLast? last)
  · rw [readings] at new own
    rcases List.mem_append.mp new with earlier | same
    · exact (List.pairwise_append.mp own).2.2 _ earlier now List.mem_cons_self
    · exact (List.mem_singleton.mp same).le

theorem PollConfig.age_pos (cfg : PollConfig J) : 0 < cfg.age :=
  lt_of_lt_of_le (by decide) (le_max_left 1000 cfg.refreshMs)

/-- One job came before the other's time moved by the difference in priority, or at that time and
first in the queue. -/
def InTurn (b : Text → ℤ) (age : ℤ) (taken waiting : PollJob) : Prop :=
  taken.t < waiting.t + (b waiting.key - b taken.key) * age ∨
    taken.t = waiting.t + (b waiting.key - b taken.key) * age ∧
      (taken.t < waiting.t ∨ taken.t = waiting.t ∧ taken.id < waiting.id)

instance (b : Text → ℤ) (age : ℤ) (taken waiting : PollJob) :
    Decidable (InTurn b age taken waiting) :=
  inferInstanceAs (Decidable (_ ∨ _))

/-- While one job waits, another is taken only in its turn or, having the less urgent priority,
earlier than the waiting one and less than an interval out of turn; so one that comes later by the
difference in priority or more does not overtake. -/
theorem overtakes {b : Text → ℤ} (integer : ∀ key, cfg.prio key = some (b key))
    {ops : List (PollOp J)} {op : PollOp J}
    (clock : ((ops ++ [op]).flatMap PollOp.readings).Pairwise (· ≤ ·))
    (ran : run (PollQueue.step cfg) {} ops = some s) (stepped : s.step cfg op = some s')
    {taken waiting : PollJob} (issued : s'.issued = s.issued ++ [taken])
    (waits : waiting ∈ s'.queue) (timed : waiting.t ≠ 0) :
    (InTurn b cfg.age taken waiting ∨
      b waiting.key < b taken.key ∧ taken.t < waiting.t ∧
        taken.t < waiting.t + (b waiting.key - b taken.key + 1) * cfg.age) ∧
    (b taken.key ≤ b waiting.key → waiting.id < taken.id →
      ¬ waiting.t + (b waiting.key - b taken.key) * cfg.age ≤ taken.t) := by
  obtain ⟨now, queue, picked, ids, last, origin⟩ :=
    PollQueue.pick_of_issued (ordered_of_run ran) stepped issued
  have mem : taken ∈ queue := (perm_of_pick picked).mem_iff.mpr List.mem_cons_self
  have present : taken.t ≤ now := issued_not_later clock ran last (origin taken mem)
  -- A job queued at the reading 0 counts as queued now.
  have moved : taken.t ≤ taken.since now := by
    unfold PollJob.since
    split
    · exact present
    · exact le_rfl
  have kept : waiting.since now = waiting.t := if_neg timed
  have first := least_of_pick integer ids picked waits
  rw [kept] at first
  have pos := cfg.age_pos
  have bound : InTurn b cfg.age taken waiting ∨ b waiting.key < b taken.key ∧
      taken.t < waiting.t ∧
        taken.t < waiting.t + (b waiting.key - b taken.key + 1) * cfg.age := by
    rcases first with less | ⟨tie, sooner | ⟨together, order⟩⟩
    · exact Or.inl (Or.inl (moved.trans_lt (urgency_lt pos less)))
    · rcases le_or_gt (b taken.key) (b waiting.key) with le | gt
      · have nonneg := Int.mul_nonneg (sub_nonneg.mpr le) pos.le
        exact Or.inl (Or.inl (by omega))
      · exact Or.inr ⟨gt, moved.trans_lt sooner, moved.trans_lt (urgency_le pos tie.le)⟩
    · rw [together] at tie
      have same := base_eq_of_urgency_eq tie
      left
      rw [InTurn, same, sub_self, zero_mul, add_zero]
      rcases (moved.trans_eq together).lt_or_eq with before | at_
      · exact Or.inl before
      · exact Or.inr ⟨at_, Or.inr ⟨at_, order⟩⟩
  refine ⟨bound, fun le later enough => ?_⟩
  have nonneg := Int.mul_nonneg (sub_nonneg.mpr le) pos.le
  rcases bound with (before | ⟨-, sooner | ⟨-, order⟩⟩) | ⟨gt, -⟩
  · exact absurd before (not_lt.mpr enough)
  · omega
  · exact absurd order later.not_gt
  · exact absurd gt le.not_gt

/-- `state` is taken before `sys`, which came first. -/
theorem overtakes_sys :
    ∃ s s', run (PollQueue.step pageConfig) {} [polled "logs" 1, polled "sys" 1, polled "state" 2,
        .fail 0] = some s ∧ s.step pageConfig (.finish 0 3) = some s' ∧
      s'.issued = s.issued ++ [pollOf 2 "state" 2] ∧ pollOf 1 "sys" 1 ∈ s'.queue ∧
      InTurn pageBase pageConfig.age (pollOf 2 "state" 2) (pollOf 1 "sys" 1) := by
  have seen : (run (PollQueue.step pageConfig) {} [polled "logs" 1, polled "sys" 1,
      polled "state" 2, .fail 0]).any fun s => (s.step pageConfig (.finish 0 3)).any fun s' =>
        s'.issued = s.issued ++ [pollOf 2 "state" 2] && pollOf 1 "sys" 1 ∈ s'.queue := by
    decide
  obtain ⟨s, ran, next⟩ := (Option.any_eq_true _ _).mp seen
  obtain ⟨s', stepped, facts⟩ := (Option.any_eq_true _ _).mp next
  rw [Bool.and_eq_true, decide_eq_true_eq, decide_eq_true_eq] at facts
  obtain ⟨issued, waits⟩ := facts
  refine ⟨s, s', ran, stepped, issued, waits, ?_⟩
  have bound := (overtakes (b := pageBase) (fun _ => rfl) (by decide) ran stepped issued waits
    (by decide)).1
  exact bound.resolve_right fun swapped => absurd swapped.1 (by decide)

/-- Two jobs alike in urgency go by their times, also where the later one has the more urgent
priority; and one queued at the reading 0 never ages. -/
theorem taken_out_of_turn :
    (∃ s s', run (PollQueue.step pageConfig) {} [polled "logs" 1, polled "events" 1,
        polled "state" 1501, .fail 0] = some s ∧ s.step pageConfig (.finish 0 3001) = some s' ∧
      s'.issued = s.issued ++ [pollOf 1 "events" 1] ∧ pollOf 2 "state" 1501 ∈ s'.queue ∧
      ¬ InTurn pageBase pageConfig.age (pollOf 1 "events" 1) (pollOf 2 "state" 1501)) ∧
    ∃ s s', run (PollQueue.step pageConfig) {} [polled "logs" 0, polled "sys" 0,
        polled "state" 7000, .fail 0] = some s ∧ s.step pageConfig (.finish 0 7000) = some s' ∧
      s'.issued = s.issued ++ [pollOf 2 "state" 7000] ∧ pollOf 1 "sys" 0 ∈ s'.queue ∧
      ¬ InTurn pageBase pageConfig.age (pollOf 2 "state" 7000) (pollOf 1 "sys" 0) := by
  have tie : (run (PollQueue.step pageConfig) {} [polled "logs" 1, polled "events" 1,
      polled "state" 1501, .fail 0]).any fun s => (s.step pageConfig (.finish 0 3001)).any fun s' =>
        s'.issued = s.issued ++ [pollOf 1 "events" 1] && pollOf 2 "state" 1501 ∈ s'.queue := by
    decide
  have zero : (run (PollQueue.step pageConfig) {} [polled "logs" 0, polled "sys" 0,
      polled "state" 7000, .fail 0]).any fun s => (s.step pageConfig (.finish 0 7000)).any fun s' =>
        s'.issued = s.issued ++ [pollOf 2 "state" 7000] && pollOf 1 "sys" 0 ∈ s'.queue := by
    decide
  constructor
  · obtain ⟨s, ran, next⟩ := (Option.any_eq_true _ _).mp tie
    obtain ⟨s', stepped, facts⟩ := (Option.any_eq_true _ _).mp next
    rw [Bool.and_eq_true, decide_eq_true_eq, decide_eq_true_eq] at facts
    exact ⟨s, s', ran, stepped, facts.1, facts.2, by decide⟩
  · obtain ⟨s, ran, next⟩ := (Option.any_eq_true _ _).mp zero
    obtain ⟨s', stepped, facts⟩ := (Option.any_eq_true _ _).mp next
    rw [Bool.and_eq_true, decide_eq_true_eq, decide_eq_true_eq] at facts
    exact ⟨s, s', ran, stepped, facts.1, facts.2, by decide⟩

end GeneratorPi
