import Mathlib.Data.List.Basic
import Mathlib.Data.List.Range

/-!
# Maximal runs

`runs good n` are the maximal runs of indices below `n` at which `good` holds, each as the index
of its first and the one behind its last (`mem_runs`), in their order and apart (`lists_runs`).
They are found in one pass that remembers where the run it is in has begun (`Scan.turn`).  A pass
that collects something for each run instead collects what belongs to these runs
(`collect_eq_map_runs`).
-/

namespace Runs

/-- The runs that have ended, and the beginning of the one that has not. -/
structure Scan where
  closed : List (ℕ × ℕ) := []
  opened : Option ℕ := none

variable {good : ℕ → Bool} {n i a b : ℕ} {s : Scan}

/-- The pass comes to the index `i`. -/
def Scan.turn (s : Scan) (i : ℕ) (here : Bool) : Scan :=
  match here, s.opened with
  | true, none => { s with opened := some i }
  | false, some a => ⟨s.closed ++ [(a, i)], none⟩
  | _, _ => s

/-- The pass over the indices below `n`. -/
def scan (good : ℕ → Bool) : ℕ → Scan
  | 0 => {}
  | n + 1 => (scan good n).turn n (good n)

/-- The run that is still open ends with the indices. -/
def Scan.close (s : Scan) (n : ℕ) : List (ℕ × ℕ) := s.closed ++ s.opened.toList.map (·, n)

def runs (good : ℕ → Bool) (n : ℕ) : List (ℕ × ℕ) := (scan good n).close n

/-- `good` holds from `a` to the index before `b`, and not at the index before. -/
structure Begun (good : ℕ → Bool) (a b : ℕ) : Prop where
  nonempty : a < b
  within : ∀ i, a ≤ i → i < b → good i = true
  start : a = 0 ∨ good (a - 1) = false

/-- A run that the index behind it does not prolong. -/
structure Maximal (good : ℕ → Bool) (n a b : ℕ) : Prop extends Begun good a b where
  below : b ≤ n
  stop : b = n ∨ good b = false

/-- What the pass knows of the indices below `n`. -/
structure Scanned (good : ℕ → Bool) (n : ℕ) (s : Scan) : Prop where
  closed : ∀ a b, (a, b) ∈ s.closed ↔ Begun good a b ∧ b < n ∧ good b = false
  opened : ∀ a, s.opened = some a ↔ Begun good a n
  idle : s.opened = none → n = 0 ∨ good (n - 1) = false
  apart : (s.close n).Pairwise fun r r' => r.2 < r'.1

/-- A run that goes on to `n` has begun before, or begins there. -/
theorem begun_succ_iff : Begun good a (n + 1) ↔
    good n = true ∧ (Begun good a n ∨ a = n ∧ (n = 0 ∨ good (n - 1) = false)) := by
  constructor
  · intro begun
    refine ⟨begun.within n (Nat.le_of_lt_succ begun.nonempty) (Nat.lt_succ_self n), ?_⟩
    rcases Nat.lt_succ_iff_lt_or_eq.1 begun.nonempty with before | rfl
    · exact Or.inl ⟨before, fun i le lt => begun.within i le (Nat.lt_succ_of_lt lt), begun.start⟩
    · exact Or.inr ⟨rfl, begun.start⟩
  · rintro ⟨here, begun | ⟨rfl, start⟩⟩
    · refine ⟨Nat.lt_succ_of_lt begun.nonempty, fun i le lt => ?_, begun.start⟩
      rcases Nat.lt_succ_iff_lt_or_eq.1 lt with before | rfl
      · exact begun.within i le before
      · exact here
    · refine ⟨Nat.lt_succ_self a, fun i le lt => ?_, start⟩
      rwa [← Nat.le_antisymm le (Nat.le_of_lt_succ lt)]

/-- Where `good` holds at `n`, no run ends there. -/
theorem lt_succ_and_false_iff (here : good n = true) :
    b < n + 1 ∧ good b = false ↔ b < n ∧ good b = false := by
  refine ⟨fun ⟨lt, stop⟩ => ⟨?_, stop⟩, fun ⟨lt, stop⟩ => ⟨Nat.lt_succ_of_lt lt, stop⟩⟩
  rcases Nat.lt_succ_iff_lt_or_eq.1 lt with before | rfl
  · exact before
  · exact absurd here (ne_true_of_eq_false stop)

theorem Scanned.turn (scanned : Scanned good n s) : Scanned good (n + 1) (s.turn n (good n)) := by
  obtain ⟨closed, opened⟩ := s
  cases here : good n with
  | true =>
      cases opened with
      | none =>
          refine ⟨fun a b => ?_, fun a => ?_, nofun, ?_⟩
          · rw [lt_succ_and_false_iff here]
            exact scanned.closed a b
          · have start := scanned.idle rfl
            have no_run : ¬ Begun good a n := fun begun => (nomatch (scanned.opened a).2 begun)
            rw [begun_succ_iff]
            constructor
            · rintro ⟨⟩
              exact ⟨here, Or.inr ⟨rfl, start⟩⟩
            · rintro ⟨-, begun | ⟨rfl, -⟩⟩
              · exact absurd begun no_run
              · rfl
          · refine List.pairwise_append.2 ⟨(List.pairwise_append.1 scanned.apart).1,
              List.pairwise_singleton _ _, fun r mem r' last => ?_⟩
            rw [List.mem_singleton.1 last]
            exact ((scanned.closed r.1 r.2).1 mem).2.1
      | some a₀ =>
          have begun : Begun good a₀ n := (scanned.opened a₀).1 rfl
          have last : good (n - 1) = true :=
            begun.within _ (Nat.le_sub_one_of_lt begun.nonempty)
              (Nat.sub_one_lt_of_lt begun.nonempty)
          have no_start : ¬ (n = 0 ∨ good (n - 1) = false) := by
            rintro (rfl | stop)
            · exact absurd begun.nonempty (Nat.not_lt_zero a₀)
            · exact absurd last (ne_true_of_eq_false stop)
          refine ⟨fun a b => ?_, fun a => ?_, nofun, ?_⟩
          · rw [lt_succ_and_false_iff here]
            exact scanned.closed a b
          · rw [begun_succ_iff]
            change some a₀ = some a ↔ _
            simp only [here, no_start, and_false, or_false, true_and]
            exact scanned.opened a
          · obtain ⟨before, -, apart⟩ := List.pairwise_append.1 scanned.apart
            refine List.pairwise_append.2
              ⟨before, List.pairwise_singleton _ _, fun r mem r' last => ?_⟩
            rw [List.mem_singleton.1 last]
            exact apart r mem (a₀, n) (List.mem_singleton_self _)
  | false =>
      have no_run : ∀ a, ¬ Begun good a (n + 1) := fun a begun => by
        rw [begun_succ_iff, here] at begun
        exact (nomatch begun.1)
      cases opened with
      | none =>
          refine ⟨fun a b => ?_, fun a => iff_of_false nofun (no_run a), fun _ => Or.inr here,
            scanned.apart⟩
          refine (scanned.closed a b).trans (and_congr_right fun begun => ?_)
          refine ⟨fun ⟨lt, stop⟩ => ⟨Nat.lt_succ_of_lt lt, stop⟩, fun ⟨lt, stop⟩ => ⟨?_, stop⟩⟩
          rcases Nat.lt_succ_iff_lt_or_eq.1 lt with before | rfl
          · exact before
          · exact (nomatch (scanned.opened a).2 begun)
      | some a₀ =>
          refine ⟨fun a b => ?_, fun a => iff_of_false nofun (no_run a), fun _ => Or.inr here, ?_⟩
          · have before : (a, b) ∈ closed ↔ _ := scanned.closed a b
            change (a, b) ∈ closed ++ [(a₀, n)] ↔ _
            rw [List.mem_append, before]
            constructor
            · rintro (⟨begun, lt, stop⟩ | last)
              · exact ⟨begun, Nat.lt_succ_of_lt lt, stop⟩
              · obtain ⟨first, behind⟩ := Prod.mk.inj (List.mem_singleton.1 last)
                rw [first, behind]
                exact ⟨(scanned.opened a₀).1 rfl, Nat.lt_succ_self n, here⟩
            · rintro ⟨begun, lt, stop⟩
              rcases Nat.lt_succ_iff_lt_or_eq.1 lt with earlier | rfl
              · exact Or.inl ⟨begun, earlier, stop⟩
              · cases (scanned.opened a).2 begun
                exact Or.inr (List.mem_singleton_self _)
          · change (closed ++ [(a₀, n)] ++ []).Pairwise _
            rw [List.append_nil]
            exact scanned.apart

theorem scanned_scan (good : ℕ → Bool) (n : ℕ) : Scanned good n (scan good n) := by
  induction n with
  | zero =>
      refine ⟨fun a b => iff_of_false List.not_mem_nil fun h => Nat.not_lt_zero b h.2.1,
        fun a => iff_of_false nofun fun begun => Nat.not_lt_zero a begun.nonempty, fun _ =>
          Or.inl rfl,
        List.Pairwise.nil⟩
  | succ n ih => exact ih.turn

/-- The runs are the maximal ones, -/
theorem mem_runs : (a, b) ∈ runs good n ↔ Maximal good n a b := by
  have scanned := scanned_scan good n
  rw [runs, Scan.close, List.mem_append, scanned.closed]
  constructor
  · rintro (⟨begun, lt, stop⟩ | last)
    · exact ⟨begun, Nat.le_of_lt lt, Or.inr stop⟩
    · obtain ⟨a, mem, ⟨⟩⟩ := List.mem_map.1 last
      exact ⟨(scanned.opened a).1 (Option.mem_toList.1 mem), Nat.le_refl n, Or.inl rfl⟩
  · rintro ⟨begun, le, stop⟩
    rcases Nat.lt_or_eq_of_le le with before | rfl
    · exact Or.inl ⟨begun, before, stop.resolve_left (Nat.ne_of_lt before)⟩
    · exact Or.inr (List.mem_map.2 ⟨a, Option.mem_toList.2 ((scanned.opened a).2 begun), rfl⟩)

/-- in their order, and apart. -/
theorem runs_apart (good : ℕ → Bool) (n : ℕ) : (runs good n).Pairwise fun r r' => r.2 < r'.1 :=
  (scanned_scan good n).apart

/-- A list of the maximal runs, each once. -/
structure Lists (good : ℕ → Bool) (n : ℕ) (rs : List (ℕ × ℕ)) : Prop where
  mem : ∀ a b, (a, b) ∈ rs ↔ Maximal good n a b
  apart : rs.Pairwise fun r r' => r.2 < r'.1

theorem lists_runs (good : ℕ → Bool) (n : ℕ) : Lists good n (runs good n) :=
  ⟨fun _ _ => mem_runs, runs_apart good n⟩

/-- A pass that goes one index further, at which `good` does not hold, has closed its last run. -/
theorem closed_scan_succ (stop : good n = false) : (scan good (n + 1)).closed = runs good n := by
  rw [scan, stop, runs, Scan.close]
  rcases scan good n with ⟨closed, _ | a⟩
  · exact (List.append_nil _).symm
  · rfl

/-! ### A pass that collects -/

section Collect

variable {β : Type*}

/-- What has been collected, and what of the run the pass is in. -/
structure Collected (β : Type*) where
  out : List (List β) := []
  cur : List β := []

/-- The pass comes to an index, with what is to be collected of it if `good` holds there. -/
def Collected.turn (c : Collected β) : Option β → Collected β
  | none => if c.cur.isEmpty then c else ⟨c.out ++ [c.cur], []⟩
  | some x => { c with cur := c.cur ++ [x] }

/-- The pass over the indices below `n`. -/
def collected (f : ℕ → Option β) : ℕ → Collected β
  | 0 => {}
  | n + 1 => (collected f n).turn (f n)

/-- The run that the pass is in ends with it. -/
def collect (f : ℕ → Option β) (n : ℕ) : List (List β) :=
  let c := collected f n
  if c.cur.isEmpty then c.out else c.out ++ [c.cur]

/-- What there is from one index to the one before another. -/
def between (f : ℕ → Option β) (a b : ℕ) : List β := (List.range' a (b - a)).filterMap f

variable {f : ℕ → Option β} {c : Collected β}

theorem between_succ (f : ℕ → Option β) (le : a ≤ n) :
    between f a (n + 1) = between f a n ++ (f n).toList := by
  have last : a + 1 * (n - a) = n := by rw [Nat.one_mul, Nat.add_sub_cancel' le]
  have one : [n].filterMap f = (f n).toList := by cases here : f n <;> simp [here]
  rw [between, Nat.succ_sub le, List.range'_concat, List.filterMap_append, last, one, between]

theorem between_ne_nil (begun : Begun (fun i => (f i).isSome) a b) : between f a b ≠ [] := by
  obtain ⟨x, first⟩ := Option.isSome_iff_exists.1 (begun.within a (Nat.le_refl a) begun.nonempty)
  refine List.ne_nil_of_mem
    (List.mem_filterMap.2 ⟨a, List.mem_range'_1.2 ⟨Nat.le_refl a, ?_⟩, first⟩)
  rw [Nat.add_sub_cancel' (Nat.le_of_lt begun.nonempty)]
  exact begun.nonempty

/-- The two passes go together. -/
structure Matches (f : ℕ → Option β) (n : ℕ) (c : Collected β) (s : Scan) : Prop where
  out : c.out = s.closed.map fun r => between f r.1 r.2
  cur : c.cur = s.opened.elim [] fun a => between f a n

theorem Matches.turn (scanned : Scanned (fun i => (f i).isSome) n s) (matched : Matches f n c s) :
    Matches f (n + 1) (c.turn (f n)) (s.turn n (f n).isSome) := by
  obtain ⟨closed, opened⟩ := s
  obtain ⟨out, cur⟩ := c
  obtain ⟨rfl, rfl⟩ := matched
  cases here : f n with
  | none =>
      cases opened with
      | none => exact ⟨rfl, rfl⟩
      | some a =>
          have begun := (scanned.opened a).1 rfl
          rw [Collected.turn, if_neg (by simpa using between_ne_nil begun)]
          refine ⟨?_, rfl⟩
          change _ = (closed ++ [(a, n)]).map _
          rw [List.map_append]
          rfl
  | some x =>
      cases opened with
      | none =>
          refine ⟨rfl, ?_⟩
          change [] ++ [x] = between f n (n + 1)
          rw [between_succ f (Nat.le_refl n), here, between, Nat.sub_self]
          rfl
      | some a =>
          have begun := (scanned.opened a).1 rfl
          refine ⟨rfl, ?_⟩
          change between f a n ++ [x] = between f a (n + 1)
          rw [between_succ f (Nat.le_of_lt begun.nonempty), here]
          rfl

theorem matches_scan (f : ℕ → Option β) (n : ℕ) :
    Matches f n (collected f n) (scan (fun i => (f i).isSome) n) := by
  induction n with
  | zero => exact ⟨rfl, rfl⟩
  | succ n ih => exact ih.turn (scanned_scan _ n)

/-- What is collected belongs to the maximal runs, in their order. -/
theorem collect_eq_map_runs (f : ℕ → Option β) (n : ℕ) :
    collect f n = (runs (fun i => (f i).isSome) n).map fun r => between f r.1 r.2 := by
  have scanned := scanned_scan (fun i => (f i).isSome) n
  obtain ⟨out, cur⟩ := matches_scan f n
  rw [collect, runs, Scan.close, List.map_append, ← out, cur]
  cases opened : (scan (fun i => (f i).isSome) n).opened with
  | none => exact (List.append_nil _).symm
  | some a =>
      have begun := (scanned.opened a).1 opened
      exact if_neg (by simpa using between_ne_nil begun)

end Collect

end Runs
