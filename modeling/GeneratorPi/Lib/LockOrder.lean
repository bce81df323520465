import Mathlib.Data.List.Nodup
import Mathlib.Logic.Function.Basic
import Mathlib.Logic.Relation
import Mathlib.Tactic.Cases

/-!
# Threads that take locks in order

`Cmd` is the code of a thread as far as its locks go: what it takes and gives back, and where it may
leave a section early, by a `return` or by an exception.  A thread is the stack of what it still has
to do; the locks it holds are those its stack has yet to release.  `Cmd.ordered` is the check that
the code waits for a lock only while all the locks it holds are of lower rank.

* `no_cycle`: threads that run checked code never wait for each other in a cycle.
* `not_held_of_blocked`: nor does one wait for a lock it holds.
* `someone_moves`: while a thread has something to do, some thread can do a step of it.
-/

namespace LockOrder

variable {ι κ : Type}

/-- The code of a thread. -/
inductive Cmd (κ : Type)
  | skip
  /-- A computation that takes no lock.  It may raise. -/
  | call
  | ret
  | seq (c d : Cmd κ)
  /-- Either of two, on a condition that is not followed. -/
  | branch (c d : Cmd κ)
  /-- Any number of turns. -/
  | loop (c : Cmd κ)
  /-- `with l: c`. -/
  | locked (l : κ) (c : Cmd κ)
  /-- `c` where `l.acquire(blocking=False)`, and then `finally: l.release()`; `d` where not. -/
  | tryLocked (l : κ) (c d : Cmd κ)
  /-- `try: c except Exception: d`. -/
  | guarded (c d : Cmd κ)
  /-- A call of the function with body `c`. -/
  | function (c : Cmd κ)

/-- Statements, one after the other. -/
def suite (cs : List (Cmd κ)) : Cmd κ := cs.foldr .seq .skip

def withLock (l : κ) (cs : List (Cmd κ)) : Cmd κ := .locked l (suite cs)

def ifAcquired (l : κ) (cs ds : List (Cmd κ)) : Cmd κ := .tryLocked l (suite cs) (suite ds)

def ifElse (cs ds : List (Cmd κ)) : Cmd κ := .branch (suite cs) (suite ds)

def ifThen (cs : List (Cmd κ)) : Cmd κ := .branch (suite cs) .skip

def repeated (cs : List (Cmd κ)) : Cmd κ := .loop (suite cs)

def tryExcept (cs ds : List (Cmd κ)) : Cmd κ := .guarded (suite cs) (suite ds)

def fn (cs : List (Cmd κ)) : Cmd κ := .function (suite cs)

/-- What a thread still has to do. -/
inductive Frame (κ : Type)
  | run (c : Cmd κ)
  | release (l : κ)
  | handler (d : Cmd κ)
  /-- Where a `return` ends. -/
  | boundary

inductive Mode
  | normal
  | returning
  | raising

structure Thread (κ : Type) where
  mode : Mode := .normal
  stack : List (Frame κ) := []

/-- What a step of a thread does with the locks. -/
inductive Access (κ : Type)
  | silent
  | acquire (l : κ)
  /-- The lock was taken, and the thread goes on without it. -/
  | refused (l : κ)
  | release (l : κ)

def Access.Allowed (locked : κ → Bool) : Access κ → Prop
  | .silent | .release _ => True
  | .acquire l => locked l = false
  | .refused l => locked l = true

def Access.after [DecidableEq κ] (locked : κ → Bool) : Access κ → κ → Bool
  | .silent | .refused _ => locked
  | .acquire l => Function.update locked l true
  | .release l => Function.update locked l false

/-- One step of a thread. -/
inductive Thread.Step : Thread κ → Access κ → Thread κ → Prop
  | skip {k : List (Frame κ)} : Step ⟨.normal, .run .skip :: k⟩ .silent ⟨.normal, k⟩
  | called {k : List (Frame κ)} : Step ⟨.normal, .run .call :: k⟩ .silent ⟨.normal, k⟩
  | raised {k : List (Frame κ)} : Step ⟨.normal, .run .call :: k⟩ .silent ⟨.raising, k⟩
  | ret {k : List (Frame κ)} : Step ⟨.normal, .run .ret :: k⟩ .silent ⟨.returning, k⟩
  | seq {c d : Cmd κ} {k : List (Frame κ)} :
    Step ⟨.normal, .run (.seq c d) :: k⟩ .silent ⟨.normal, .run c :: .run d :: k⟩
  | left {c d : Cmd κ} {k : List (Frame κ)} :
    Step ⟨.normal, .run (.branch c d) :: k⟩ .silent ⟨.normal, .run c :: k⟩
  | right {c d : Cmd κ} {k : List (Frame κ)} :
    Step ⟨.normal, .run (.branch c d) :: k⟩ .silent ⟨.normal, .run d :: k⟩
  | turn {c : Cmd κ} {k : List (Frame κ)} :
    Step ⟨.normal, .run (.loop c) :: k⟩ .silent ⟨.normal, .run c :: .run (.loop c) :: k⟩
  | done {c : Cmd κ} {k : List (Frame κ)} :
    Step ⟨.normal, .run (.loop c) :: k⟩ .silent ⟨.normal, k⟩
  | locked {l : κ} {c : Cmd κ} {k : List (Frame κ)} :
    Step ⟨.normal, .run (.locked l c) :: k⟩ (.acquire l) ⟨.normal, .run c :: .release l :: k⟩
  | tried {l : κ} {c d : Cmd κ} {k : List (Frame κ)} :
    Step ⟨.normal, .run (.tryLocked l c d) :: k⟩ (.acquire l) ⟨.normal, .run c :: .release l :: k⟩
  | refused {l : κ} {c d : Cmd κ} {k : List (Frame κ)} :
    Step ⟨.normal, .run (.tryLocked l c d) :: k⟩ (.refused l) ⟨.normal, .run d :: k⟩
  | guarded {c d : Cmd κ} {k : List (Frame κ)} :
    Step ⟨.normal, .run (.guarded c d) :: k⟩ .silent ⟨.normal, .run c :: .handler d :: k⟩
  | function {c : Cmd κ} {k : List (Frame κ)} :
    Step ⟨.normal, .run (.function c) :: k⟩ .silent ⟨.normal, .run c :: .boundary :: k⟩
  -- A section is left with its lock released, in any mode.
  | release {m : Mode} {l : κ} {k : List (Frame κ)} :
    Step ⟨m, .release l :: k⟩ (.release l) ⟨m, k⟩
  | unwound {m : Mode} {c : Cmd κ} {k : List (Frame κ)} (left : m ≠ .normal) :
    Step ⟨m, .run c :: k⟩ .silent ⟨m, k⟩
  | caught {d : Cmd κ} {k : List (Frame κ)} :
    Step ⟨.raising, .handler d :: k⟩ .silent ⟨.normal, .run d :: k⟩
  -- No exception, or one that is no `Exception`.
  | passed {m : Mode} {d : Cmd κ} {k : List (Frame κ)} :
    Step ⟨m, .handler d :: k⟩ .silent ⟨m, k⟩
  | returned {m : Mode} {k : List (Frame κ)} (returned : m ≠ .raising) :
    Step ⟨m, .boundary :: k⟩ .silent ⟨.normal, k⟩
  | escaped {k : List (Frame κ)} : Step ⟨.raising, .boundary :: k⟩ .silent ⟨.raising, k⟩

/-- The locks, each taken or not, and the threads. -/
structure Config (ι κ : Type) where
  locked : κ → Bool
  threads : ι → Thread κ

/-- No lock is taken and no thread has anything to do. -/
def Config.idle : Config ι κ := ⟨fun _ => false, fun _ => {}⟩

section Runs

variable [DecidableEq ι] [DecidableEq κ]

/-- A thread makes a step, or one with nothing to do begins one of the programs. -/
inductive Config.Step (programs : List (Cmd κ)) : Config ι κ → Config ι κ → Prop
  | move {c : Config ι κ} {t : ι} {a : Access κ} {th : Thread κ}
    (step : (c.threads t).Step a th) (allowed : a.Allowed c.locked) :
    Step programs c ⟨a.after c.locked, Function.update c.threads t th⟩
  | begin {c : Config ι κ} {t : ι} {p : Cmd κ} (idle : (c.threads t).stack = [])
    (mem : p ∈ programs) :
    Step programs c ⟨c.locked, Function.update c.threads t ⟨.normal, [.run p]⟩⟩

/-- The configurations of the runs of the programs, on any threads and in any order of steps. -/
abbrev Config.Reachable (programs : List (Cmd κ)) (c : Config ι κ) : Prop :=
  Relation.ReflTransGen (Config.Step programs) .idle c

end Runs

/-! ## What a thread holds -/

def Frame.lock? : Frame κ → Option κ
  | .release l => some l
  | _ => none

/-- The locks a stack has yet to release. -/
def heldIn (stack : List (Frame κ)) : List κ := stack.filterMap Frame.lock?

@[simp] theorem heldIn_nil : heldIn ([] : List (Frame κ)) = [] := rfl

@[simp] theorem heldIn_run (c : Cmd κ) (k : List (Frame κ)) :
    heldIn (.run c :: k) = heldIn k := rfl

@[simp] theorem heldIn_release (l : κ) (k : List (Frame κ)) :
    heldIn (.release l :: k) = l :: heldIn k := rfl

@[simp] theorem heldIn_handler (d : Cmd κ) (k : List (Frame κ)) :
    heldIn (.handler d :: k) = heldIn k := rfl

@[simp] theorem heldIn_boundary (k : List (Frame κ)) : heldIn (.boundary :: k) = heldIn k := rfl

/-- The locks a thread holds. -/
def Thread.held (th : Thread κ) : List κ := heldIn th.stack

/-- What the access makes of the locks a thread holds. -/
def Access.Moves (before after : List κ) : Access κ → Prop
  | .silent | .refused _ => after = before
  | .acquire l => after = l :: before
  | .release l => before = l :: after

theorem Thread.Step.held {th th' : Thread κ} {a : Access κ} (step : th.Step a th') :
    a.Moves th.held th'.held := by
  cases step <;> rfl

/-- The thread waits for `l`. -/
def Config.Blocked (c : Config ι κ) (t : ι) (l : κ) : Prop :=
  (∃ body k, c.threads t = ⟨.normal, .run (.locked l body) :: k⟩) ∧ c.locked l = true

/-- `t` waits for a lock that `u` holds. -/
def Config.WaitsFor (c : Config ι κ) (t u : ι) : Prop :=
  ∃ l, c.Blocked t l ∧ l ∈ (c.threads u).held

/-! ## Locks in order -/

/-- The code waits for a lock only while those it holds are of lower rank. -/
def Cmd.ordered (rank : κ → ℕ) : List κ → Cmd κ → Bool
  | _, .skip | _, .call | _, .ret => true
  | held, .seq c d | held, .branch c d | held, .guarded c d =>
      c.ordered rank held && d.ordered rank held
  | held, .loop c | held, .function c => c.ordered rank held
  | held, .locked l c => held.all (fun m => rank m < rank l) && c.ordered rank (l :: held)
  | held, .tryLocked l c d => c.ordered rank (l :: held) && d.ordered rank held

/-- So does what is left of it. -/
def StackOrdered (rank : κ → ℕ) : List (Frame κ) → Prop
  | [] => True
  | .run c :: k | .handler c :: k => c.ordered rank (heldIn k) ∧ StackOrdered rank k
  | .release _ :: k | .boundary :: k => StackOrdered rank k

variable {rank : κ → ℕ} {programs : List (Cmd κ)}

theorem Thread.Step.ordered {th th' : Thread κ} {a : Access κ} (step : th.Step a th')
    (h : StackOrdered rank th.stack) : StackOrdered rank th'.stack := by
  cases step with
  | skip | called | raised | ret | done => exact h.2
  | seq | left | right | turn | guarded | tried | refused =>
      simp_all [StackOrdered, Cmd.ordered]
  | locked =>
      simp only [StackOrdered, Cmd.ordered, Bool.and_eq_true] at h
      exact ⟨h.1.2, h.2⟩
  | function => exact h
  | release => exact h
  | unwound => exact h.2
  | caught => exact h
  | passed => exact h.2
  | returned => exact h
  | escaped => exact h

theorem Config.Blocked.rank_lt {c : Config ι κ} {t : ι} {l m : κ} (h : c.Blocked t l)
    (ordered : StackOrdered rank (c.threads t).stack) (mem : m ∈ (c.threads t).held) :
    rank m < rank l := by
  obtain ⟨⟨body, k, eq⟩, -⟩ := h
  rw [eq] at ordered
  rw [Thread.held, eq] at mem
  simp only [StackOrdered, Cmd.ordered, Bool.and_eq_true, List.all_eq_true, decide_eq_true_eq]
    at ordered
  exact ordered.1.1 m mem

/-- Along a chain of waiting threads the ranks grow. -/
theorem Config.rank_le_of_path {c : Config ι κ} {t u : ι}
    (ordered : ∀ t, StackOrdered rank (c.threads t).stack)
    (path : Relation.TransGen c.WaitsFor t u) :
    ∃ l, c.Blocked t l ∧ ∃ m ∈ (c.threads u).held, rank l ≤ rank m := by
  induction path with
  | single waits =>
      obtain ⟨l, blocked, mem⟩ := waits
      exact ⟨l, blocked, l, mem, Nat.le_refl _⟩
  | @tail v u _ waits ih =>
      obtain ⟨l, blocked, m, mem, le⟩ := ih
      obtain ⟨l', blocked', mem'⟩ := waits
      have lt : rank m < rank l' := blocked'.rank_lt (ordered v) mem
      exact ⟨l, blocked, l', mem', Nat.le_of_lt (Nat.lt_of_le_of_lt le lt)⟩

/-- The thread can do a step of what it has to do. -/
def Config.Moves (c : Config ι κ) (t : ι) : Prop :=
  ∃ a th, (c.threads t).Step a th ∧ a.Allowed c.locked

theorem Config.moves_or_blocked {c : Config ι κ} {t : ι} (busy : (c.threads t).stack ≠ []) :
    c.Moves t ∨ ∃ l, c.Blocked t l := by
  unfold Config.Moves Config.Blocked
  generalize c.threads t = th at busy ⊢
  obtain ⟨mode, stack⟩ := th
  cases stack with
  | nil => exact absurd rfl busy
  | cons f k =>
      cases f with
      | release l => exact .inl ⟨_, _, .release, trivial⟩
      | handler d => exact .inl ⟨_, _, .passed, trivial⟩
      | boundary =>
          cases mode with
          | raising => exact .inl ⟨_, _, .escaped, trivial⟩
          | normal | returning => exact .inl ⟨_, _, .returned nofun, trivial⟩
      | run p =>
          cases mode with
          | raising | returning => exact .inl ⟨_, _, .unwound nofun, trivial⟩
          | normal =>
              cases p with
              | skip => exact .inl ⟨_, _, .skip, trivial⟩
              | call => exact .inl ⟨_, _, .called, trivial⟩
              | ret => exact .inl ⟨_, _, .ret, trivial⟩
              | seq => exact .inl ⟨_, _, .seq, trivial⟩
              | branch => exact .inl ⟨_, _, .left, trivial⟩
              | loop => exact .inl ⟨_, _, .done, trivial⟩
              | guarded => exact .inl ⟨_, _, .guarded, trivial⟩
              | function => exact .inl ⟨_, _, .function, trivial⟩
              | tryLocked l =>
                  cases free : c.locked l with
                  | false => exact .inl ⟨_, _, .tried, free⟩
                  | true => exact .inl ⟨_, _, .refused, free⟩
              | locked l body =>
                  cases free : c.locked l with
                  | false => exact .inl ⟨_, _, .locked, free⟩
                  | true => exact .inr ⟨l, ⟨body, k, rfl⟩, free⟩

/-! ## Locks with one holder each -/

section Runs

variable [DecidableEq ι]

/-- A taken lock has a holder, and only one. -/
structure Consistent (locked : κ → Bool) (held : ι → List κ) : Prop where
  taken : ∀ t, ∀ l ∈ held t, locked l = true
  alone : ∀ t u l, l ∈ held t → l ∈ held u → t = u
  once : ∀ t, (held t).Nodup
  holder : ∀ l, locked l = true → ∃ t, l ∈ held t

variable {locked : κ → Bool} {held : ι → List κ} {t : ι} {l : κ} {rest : List κ}

theorem mem_acquired {u : ι} {m : κ} :
    m ∈ Function.update held t (l :: held t) u ↔ m ∈ held u ∨ u = t ∧ m = l := by
  by_cases same : u = t
  · subst same
    rw [Function.update_self, List.mem_cons]
    tauto
  · rw [Function.update_of_ne same]
    tauto

theorem Consistent.mem_released (h : Consistent locked held) (eq : held t = l :: rest) {u : ι}
    {m : κ} : m ∈ Function.update held t rest u ↔ m ∈ held u ∧ m ≠ l := by
  have once : l ∉ rest := (List.nodup_cons.mp (eq ▸ h.once t)).1
  by_cases same : u = t
  · subst same
    rw [Function.update_self, eq, List.mem_cons]
    constructor
    · exact fun mem => ⟨.inr mem, fun eq => once (eq ▸ mem)⟩
    · rintro ⟨rfl | mem, ne⟩
      · exact absurd rfl ne
      · exact mem
  · rw [Function.update_of_ne same]
    refine ⟨fun mem => ⟨mem, ?_⟩, And.left⟩
    rintro rfl
    exact same (h.alone u t m mem (eq ▸ List.mem_cons_self))

variable [DecidableEq κ]

theorem Consistent.acquire (h : Consistent locked held) (free : locked l = false) :
    Consistent (Function.update locked l true) (Function.update held t (l :: held t)) := by
  have nobody : ∀ u, l ∉ held u := fun u mem => by simp [h.taken u l mem] at free
  have before : ∀ {u m}, m ∈ Function.update held t (l :: held t) u → m ≠ l → m ∈ held u :=
    fun mem ne => (mem_acquired.mp mem).resolve_right fun new => ne new.2
  refine ⟨?_, ?_, ?_, ?_⟩
  · intro u m mem
    by_cases same : m = l
    · rw [same, Function.update_self]
    · rw [Function.update_of_ne same]
      exact h.taken u m (before mem same)
  · intro u v m left right
    by_cases same : m = l
    · subst same
      have left_only := ((mem_acquired.mp left).resolve_left (nobody u)).1
      have right_only := ((mem_acquired.mp right).resolve_left (nobody v)).1
      rw [left_only, right_only]
    · exact h.alone u v m (before left same) (before right same)
  · rw [Function.forall_update_iff held (p := fun _ ls => ls.Nodup)]
    exact ⟨List.nodup_cons.mpr ⟨nobody t, h.once t⟩, fun u _ => h.once u⟩
  · intro m taken
    by_cases same : m = l
    · exact ⟨t, mem_acquired.mpr (.inr ⟨rfl, same⟩)⟩
    · rw [Function.update_of_ne same] at taken
      obtain ⟨u, mem⟩ := h.holder m taken
      exact ⟨u, mem_acquired.mpr (.inl mem)⟩

theorem Consistent.release (h : Consistent locked held) (eq : held t = l :: rest) :
    Consistent (Function.update locked l false) (Function.update held t rest) := by
  refine ⟨?_, ?_, ?_, ?_⟩
  · intro u m mem
    obtain ⟨mem, ne⟩ := (h.mem_released eq).mp mem
    rw [Function.update_of_ne ne, h.taken u m mem]
  · intro u v m left right
    exact h.alone u v m ((h.mem_released eq).mp left).1 ((h.mem_released eq).mp right).1
  · rw [Function.forall_update_iff held (p := fun _ ls => ls.Nodup)]
    exact ⟨(List.nodup_cons.mp (eq ▸ h.once t)).2, fun u _ => h.once u⟩
  · intro m taken
    have ne : m ≠ l := by
      rintro rfl
      rw [Function.update_self] at taken
      exact Bool.noConfusion taken
    rw [Function.update_of_ne ne] at taken
    obtain ⟨u, mem⟩ := h.holder m taken
    exact ⟨u, (h.mem_released eq).mpr ⟨mem, ne⟩⟩

theorem Consistent.after {a : Access κ} (h : Consistent locked held) (allowed : a.Allowed locked)
    (moves : a.Moves (held t) rest) :
    Consistent (a.after locked) (Function.update held t rest) := by
  cases a with
  | silent | refused =>
      have same : rest = held t := moves
      rw [same, Function.update_eq_self]
      exact h
  | acquire l =>
      have same : rest = l :: held t := moves
      rw [same]
      exact h.acquire allowed
  | release l => exact h.release moves

/-! ## Runs -/

theorem Config.Reachable.ordered {c : Config ι κ} (r : c.Reachable programs)
    (checked : ∀ p ∈ programs, p.ordered rank []) :
    ∀ t, StackOrdered rank (c.threads t).stack := by
  induction r with
  | refl => exact fun _ => trivial
  | @tail c _ _ step ih =>
      cases step with
      | move step _ =>
          rw [Function.forall_update_iff c.threads (p := fun _ th => StackOrdered rank th.stack)]
          exact ⟨step.ordered (ih _), fun u _ => ih u⟩
      | begin _ mem =>
          rw [Function.forall_update_iff c.threads (p := fun _ th => StackOrdered rank th.stack)]
          exact ⟨⟨checked _ mem, trivial⟩, fun u _ => ih u⟩

theorem Config.Reachable.consistent {c : Config ι κ} (r : c.Reachable programs) :
    Consistent c.locked fun t => (c.threads t).held := by
  induction r with
  | refl => exact ⟨nofun, nofun, fun _ => List.nodup_nil, nofun⟩
  | @tail c _ _ step ih =>
      have pushed : ∀ t (th : Thread κ), (fun u => (Function.update c.threads t th u).held) =
          Function.update (fun u => (c.threads u).held) t th.held := fun t th =>
        funext fun u => Function.apply_update (fun _ => Thread.held) c.threads t th u
      cases step with
      | move step allowed =>
          dsimp only
          rw [pushed]
          exact ih.after allowed step.held
      | @begin t p idle _ =>
          have none_held : (c.threads t).held = [] := by rw [Thread.held, idle, heldIn_nil]
          dsimp only
          rw [pushed]
          exact ih.after (a := .silent) trivial none_held.symm

/-- Threads that take their locks in order never wait for each other in a cycle. -/
theorem Config.Reachable.no_cycle {c : Config ι κ} (r : c.Reachable programs)
    (checked : ∀ p ∈ programs, p.ordered rank []) (t : ι) :
    ¬ Relation.TransGen c.WaitsFor t t := by
  intro path
  obtain ⟨l, blocked, m, mem, le⟩ := rank_le_of_path (r.ordered checked) path
  exact absurd (blocked.rank_lt (r.ordered checked t) mem) (Nat.not_lt.mpr le)

theorem Config.Reachable.not_held_of_blocked {c : Config ι κ} {t : ι} {l : κ}
    (r : c.Reachable programs) (checked : ∀ p ∈ programs, p.ordered rank [])
    (blocked : c.Blocked t l) : l ∉ (c.threads t).held := fun mem =>
  Nat.lt_irrefl _ (blocked.rank_lt (r.ordered checked t) mem)

/-- While a thread has something to do, some thread can do a step: down the chain of those that
wait, the ranks of the locks grow, up to a thread that waits for none. -/
theorem Config.Reachable.someone_moves {c : Config ι κ} (r : c.Reachable programs)
    (checked : ∀ p ∈ programs, p.ordered rank []) {bound : ℕ} (bounded : ∀ l, rank l ≤ bound)
    (busy : (c.threads t).stack ≠ []) : ∃ u, c.Moves u := by
  obtain moves | ⟨l, blocked⟩ := moves_or_blocked busy
  · exact ⟨t, moves⟩
  · induction left : bound - rank l using Nat.strongRecOn generalizing t l with
    | _ left ih =>
        obtain ⟨u, mem⟩ := r.consistent.holder l blocked.2
        have busy_u : (c.threads u).stack ≠ [] := by
          intro idle
          rw [Thread.held, idle] at mem
          exact absurd mem List.not_mem_nil
        obtain moves | ⟨l', blocked'⟩ := moves_or_blocked busy_u
        · exact ⟨u, moves⟩
        · have lt : rank l < rank l' := blocked'.rank_lt (r.ordered checked u) mem
          have within := bounded l'
          exact ih (bound - rank l') (by omega) busy_u l' blocked' rfl

end Runs

end LockOrder
