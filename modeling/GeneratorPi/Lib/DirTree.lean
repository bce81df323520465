import Mathlib.Data.List.Basic
import Mathlib.Logic.Function.Basic

/-!
# Trees of directories

A tree maps a path, by its names, to the file or the directory standing there; the empty path is the
root. A command leaves a tree and succeeds or fails, as a system call or a line of a shell does.

A program that stops at the first command that fails and a script that goes on to the last one
agree, if they agree at every command's turn and no command but the last fails
(`agree_allOf_lastOf`).
-/

namespace DirTree

inductive Node (φ : Type*) where
  | file (content : φ) (mode : ℕ)
  | dir (mode : ℕ)
  deriving DecidableEq

abbrev Tree (κ φ : Type*) := List κ → Option (Node φ)

abbrev Command (κ φ : Type*) := Tree κ φ → Bool × Tree κ φ

variable {κ φ ι : Type*}

def Node.mode : Node φ → ℕ
  | .file _ m => m
  | .dir m => m

def Node.chmod (m : ℕ) : Node φ → Node φ
  | .file content _ => .file content m
  | .dir _ => .dir m

def isDir (t : Tree κ φ) : List κ → Bool
  | [] => true
  | name :: rest =>
      match t (name :: rest) with
      | some (.dir _) => true
      | _ => false

theorem isDir_congr {t u : Tree κ φ} {p : List κ} (h : t p = u p) : isDir t p = isDir u p := by
  cases p with
  | nil => rfl
  | cons => rw [isDir, isDir, h]

/-- Below the root. -/
theorem isDir_iff {t : Tree κ φ} {p : List κ} (below : p ≠ []) :
    isDir t p = true ↔ ∃ m, t p = some (.dir m) := by
  obtain ⟨name, rest, rfl⟩ := List.exists_cons_of_ne_nil below
  rw [isDir]
  split
  case h_1 m dir => exact iff_of_true rfl ⟨m, dir⟩
  case h_2 other => exact iff_of_false Bool.false_ne_true fun ⟨m, dir⟩ => other m dir

theorem isDir_of_dir {t : Tree κ φ} {p : List κ} {m : ℕ} (below : p ≠ [])
    (h : t p = some (.dir m)) : isDir t p = true := (isDir_iff below).mpr ⟨m, h⟩

/-- A file, or nothing. -/
theorem isDir_eq_false {t : Tree κ φ} {p : List κ} (below : p ≠ [])
    (h : ∀ m, t p ≠ some (.dir m)) : isDir t p = false := by
  refine eq_false_of_ne_true fun dir => ?_
  obtain ⟨m, atDir⟩ := (isDir_iff below).mp dir
  exact h m atDir

/-- Where something with a name goes that is copied or moved to `p`. -/
def into (t : Tree κ φ) (p : List κ) (name : κ) : List κ := if isDir t p then p ++ [name] else p

theorem into_of_not_dir {t : Tree κ φ} {p : List κ} (name : κ) (h : isDir t p = false) :
    into t p name = p := if_neg (by simp [h])

theorem into_of_dir {t : Tree κ φ} {p : List κ} (name : κ) (h : isDir t p = true) :
    into t p name = p ++ [name] := if_pos h

/-- What the kernel knows of a directory. -/
structure Kernel (κ φ : Type*) where
  emptyDir : Tree κ φ → List κ → Bool
  emptyDir_iff : ∀ t p, emptyDir t p = true ↔ ∀ name, t (p ++ [name]) = none

theorem emptyDir_eq_false {k : Kernel κ φ} {t : Tree κ φ} {p : List κ} {name : κ}
    (h : t (p ++ [name]) ≠ none) : k.emptyDir t p = false :=
  eq_false_of_ne_true fun empty => h ((k.emptyDir_iff t p).mp empty name)

/-! ## Commands in a row -/

def succeed : Command κ φ := fun t => (true, t)

/-- `c && d`. -/
def Command.andThen (c d : Command κ φ) : Command κ φ := fun t => if (c t).1 then d (c t).2 else c t

/-- Each command, up to the first that fails. -/
def allOf : List (Command κ φ) → Command κ φ
  | [] => succeed
  | c :: rest => c.andThen (allOf rest)

/-- Each command; the last decides whether they succeed. -/
def lastOf : List (Command κ φ) → Command κ φ
  | [] => succeed
  | [c] => c
  | c :: d :: rest => fun t => lastOf (d :: rest) (c t).2

/-- Both succeed and leave one tree, or both fail. -/
structure Agree (a b : Bool × Tree κ φ) : Prop where
  status : a.1 = b.1
  tree : a.1 = true → a.2 = b.2

theorem Agree.refl (a : Bool × Tree κ φ) : Agree a a := ⟨rfl, fun _ => rfl⟩

theorem Agree.of_fail {a b : Bool × Tree κ φ} (ha : a.1 = false) (hb : b.1 = false) : Agree a b :=
  ⟨ha.trans hb.symm, fun ok => absurd (ha.symm.trans ok) Bool.false_ne_true⟩

theorem andThen_of_ok {c d : Command κ φ} {t : Tree κ φ} (h : (c t).1 = true) :
    c.andThen d t = d (c t).2 := if_pos h

theorem andThen_of_fail {c d : Command κ φ} {t : Tree κ φ} (h : (c t).1 = false) :
    c.andThen d t = c t := if_neg (by simp [h])

/-- The program stops at the first command that fails, the script does not. -/
theorem agree_allOf_lastOf (c d : ι → Command κ φ) {entries : List ι} {t : Tree κ φ}
    (h : ∀ done e rest, entries = done ++ e :: rest → ∀ u, allOf (done.map c) t = (true, u) →
      Agree (c e u) (d e u) ∧ (rest ≠ [] → (c e u).1 = true)) :
    Agree (allOf (entries.map c) t) (lastOf (entries.map d) t) := by
  induction entries generalizing t with
  | nil => exact .refl _
  | cons e rest ih =>
      obtain ⟨agree, goesOn⟩ := h [] e rest rfl t rfl
      cases rest with
      | nil =>
          have single : allOf [c e] t = c e t := by
            cases ok : (c e t).1 with
            | true => exact (andThen_of_ok ok).trans (Prod.ext ok.symm rfl)
            | false => exact andThen_of_fail ok
          rw [List.map_cons, List.map_nil, single]
          exact agree
      | cons e' rest' =>
          have ok := goesOn (List.cons_ne_nil _ _)
          have later : Agree (allOf ((e' :: rest').map c) (c e t).2)
              (lastOf ((e' :: rest').map d) (c e t).2) := by
            refine ih fun done f rest'' split u before => ?_
            refine h (e :: done) f rest'' (congrArg (e :: ·) split) u ?_
            exact (andThen_of_ok ok).trans before
          have first : allOf ((e :: e' :: rest').map c) t =
              allOf ((e' :: rest').map c) (c e t).2 := andThen_of_ok ok
          rw [first]
          rw [agree.tree ok] at later ⊢
          exact later

/-- Two programs that do the same at every command's turn, up to the first that fails. -/
theorem allOf_congr (c d : ι → Command κ φ) {entries : List ι} (later : List (Command κ φ))
    {t : Tree κ φ}
    (h : ∀ done e rest, entries = done ++ e :: rest → ∀ u, allOf (done.map c) t = (true, u) →
      c e u = d e u) :
    allOf (entries.map c ++ later) t = allOf (entries.map d ++ later) t := by
  induction entries generalizing t with
  | nil => rfl
  | cons e rest ih =>
      have same : c e t = d e t := h [] e rest rfl t rfl
      have unfolded (c : ι → Command κ φ) : allOf ((e :: rest).map c ++ later) t =
          if (c e t).1 then allOf (rest.map c ++ later) (c e t).2 else c e t := rfl
      rw [unfolded, unfolded, ← same]
      split
      case isFalse => rfl
      case isTrue ok =>
        refine ih fun done f rest' split u before => h (e :: done) f rest' (by simp [split]) u ?_
        exact (andThen_of_ok ok).trans before

/-! ## System calls -/

variable [DecidableEq κ]

def put (t : Tree κ φ) (p : List κ) (n : Node φ) : Tree κ φ := Function.update t p (some n)

@[simp] theorem put_same (t : Tree κ φ) (p : List κ) (n : Node φ) : put t p n p = some n :=
  Function.update_self ..

theorem put_of_ne (t : Tree κ φ) (n : Node φ) {p q : List κ} (h : q ≠ p) : put t p n q = t q :=
  Function.update_of_ne h ..

/-- The directories on the way from `base` along the names, those that are missing made with
`mode`. -/
def mkdirs (mode : ℕ) : List κ → List κ → Tree κ φ → Bool × Tree κ φ
  | _, [], t => (true, t)
  | base, name :: rest, t =>
      match t (base ++ [name]) with
      | none => mkdirs mode (base ++ [name]) rest (put t (base ++ [name]) (.dir mode))
      | some (.dir _) => mkdirs mode (base ++ [name]) rest t
      | some (.file ..) => (false, t)

/-- A file is written to `p`, or into the directory there; what mode it gets depends on that of the
source and on that of the file it overwrites. -/
def copy (modeOf : ℕ → Option ℕ → ℕ) (source : Option (φ × ℕ)) (name : κ) (p : List κ) :
    Command κ φ := fun t =>
  match source with
  | none => (false, t)
  | some (content, mode) =>
      let q := into t p name
      if isDir t p.dropLast && !isDir t q then
        (true, put t q (.file content (modeOf mode ((t q).map Node.mode))))
      else (false, t)

def chmod (mode : ℕ) (p : List κ) : Command κ φ := fun t =>
  match t p with
  | none => (false, t)
  | some n => (true, put t p (n.chmod mode))

/-- What stands at and under `p` stands at and under `q` instead. -/
def moved (t : Tree κ φ) (p q : List κ) : Tree κ φ := fun r =>
  if q.isPrefixOf r then t (p ++ r.drop q.length) else if p.isPrefixOf r then none else t r

/-- `rename(2)`: a file replaces a file, a directory an empty directory. -/
def rename (k : Kernel κ φ) (p q : List κ) : Command κ φ := fun t =>
  match t p, t q with
  | none, _ => (false, t)
  | some _, none => (true, moved t p q)
  | some (.file ..), some (.file ..) => (true, moved t p q)
  | some (.dir _), some (.dir _) => if k.emptyDir t q then (true, moved t p q) else (false, t)
  | some _, some _ => (false, t)

/-- `mv`: into a directory, if there is one. -/
def mv (k : Kernel κ φ) (p q : List κ) (name : κ) : Command κ φ := fun t =>
  rename k p (into t q name) t

/-- A file is removed; anything else stays. -/
def unlink (p : List κ) : Command κ φ := fun t =>
  match t p with
  | some (.file ..) => (true, Function.update t p none)
  | _ => (false, t)

/-! ## What they change -/

theorem copy_andThen (modeOf : ℕ → Option ℕ → ℕ) (content : φ) (mode : ℕ) (name : κ) (p : List κ)
    (c : Command κ φ) (t : Tree κ φ) :
    (copy modeOf (some (content, mode)) name p).andThen c t =
      if isDir t p.dropLast && !isDir t (into t p name) then
        c (put t (into t p name)
          (.file content (modeOf mode ((t (into t p name)).map Node.mode))))
      else (false, t) := by
  rw [Command.andThen, copy]
  cases isDir t p.dropLast && !isDir t (into t p name) with
  | true => rfl
  | false => rfl

theorem chmod_of_some {t : Tree κ φ} {p : List κ} {n : Node φ} (mode : ℕ) (h : t p = some n) :
    chmod mode p t = (true, put t p (n.chmod mode)) := by
  rw [chmod, h]

/-- A directory does not replace a file. -/
theorem rename_dir_file {k : Kernel κ φ} {t : Tree κ φ} {p q : List κ} {m m' : ℕ} {c : φ}
    (hp : t p = some (.dir m)) (hq : t q = some (.file c m')) : rename k p q t = (false, t) := by
  rw [rename, hp, hq]

theorem rename_missing {k : Kernel κ φ} {t : Tree κ φ} {p q : List κ} {n : Node φ}
    (hp : t p = some n) (hq : t q = none) : rename k p q t = (true, moved t p q) := by
  rw [rename, hp, hq]

/-- A file does not replace a directory. -/
theorem rename_file_dir {k : Kernel κ φ} {t : Tree κ φ} {p q : List κ} {m m' : ℕ} {c : φ}
    (hp : t p = some (.file c m)) (hq : t q = some (.dir m')) : rename k p q t = (false, t) := by
  rw [rename, hp, hq]

theorem rename_file_file {k : Kernel κ φ} {t : Tree κ φ} {p q : List κ} {m m' : ℕ} {c c' : φ}
    (hp : t p = some (.file c m)) (hq : t q = some (.file c' m')) :
    rename k p q t = (true, moved t p q) := by
  rw [rename, hp, hq]

theorem rename_dir_dir {k : Kernel κ φ} {t : Tree κ φ} {p q : List κ} {m m' : ℕ}
    (hp : t p = some (.dir m)) (hq : t q = some (.dir m')) :
    rename k p q t = if k.emptyDir t q then (true, moved t p q) else (false, t) := by
  rw [rename, hp, hq]

theorem unlink_of_not_file {t : Tree κ φ} {p : List κ} (h : ∀ c m, t p ≠ some (.file c m)) :
    (unlink p t).2 = t := by
  rw [unlink]
  split
  case h_1 c m file => exact absurd file (h c m)
  case h_2 => rfl

/-- What was under the old path is under the new one. -/
theorem moved_under (t : Tree κ φ) (p q r : List κ) : moved t p q (q ++ r) = t (p ++ r) := by
  rw [moved, if_pos (by simp), List.drop_left]

/-- What was under neither stays. -/
theorem moved_of_not_under (t : Tree κ φ) {p q r : List κ} (hp : ¬ p <+: r) (hq : ¬ q <+: r) :
    moved t p q r = t r := by
  rw [moved, if_neg (by simpa using hq), if_neg (by simpa using hp)]

/-- A file over a directory is refused; `mv` puts it inside, unless there is a directory again. -/
theorem agree_mv_file {k : Kernel κ φ} {t u : Tree κ φ} {p q : List κ} {name : κ} {c c' : φ}
    {m m' d d' : ℕ} (below : q ≠ []) (ht : t p = some (.file c m)) (hu : u p = some (.file c' m'))
    (htq : t q = some (.dir d)) (huq : u q = some (.dir d')) :
    Agree (rename k p q t) (mv k p q name u) ↔ isDir u (q ++ [name]) = true := by
  have inside : into u q name = q ++ [name] := into_of_dir _ (isDir_of_dir below huq)
  rw [rename_file_dir ht htq, mv, inside, isDir_iff (by simp), rename, hu]
  cases found : u (q ++ [name]) with
  | none => exact iff_of_false (fun agree => nomatch agree.status) (fun ⟨_, dir⟩ => nomatch dir)
  | some n =>
      cases n with
      | file => exact iff_of_false (fun agree => nomatch agree.status) (fun ⟨_, dir⟩ => nomatch dir)
      | dir m => exact iff_of_true (.of_fail rfl rfl) ⟨m, rfl⟩

/-- A directory over a directory: the trees differ in what was copied into the former, unless both
are refused. -/
theorem agree_mv_dir {k : Kernel κ φ} {t u : Tree κ φ} {p q : List κ} {name inner : κ} {d e : ℕ}
    (below : q ≠ []) (apart : p ≠ q) (long : p.length = q.length) (htp : t p = some (.dir d))
    (htq : t q = some (.dir e)) (off : ∀ r, r ≠ p ++ [inner] → t r = u r)
    (copied : t (p ++ [inner]) ≠ none) (ne : name ≠ inner) :
    Agree (rename k p q t) (mv k p q name u) ↔
      u (q ++ [name]) ≠ none ∧
        (isDir u (q ++ [name]) = true → ∃ x, u (q ++ [name] ++ [x]) ≠ none) := by
  have notInner (r : List κ) (x : κ) (same : q ++ x :: r = p ++ [inner]) : False :=
    apart (List.append_inj_left same long.symm).symm
  have hup : u p = some (.dir d) := (off p (by simp)).symm.trans htp
  have huq : u q = some (.dir e) := by
    refine (off q fun same => ?_).symm.trans htq
    have longer := congrArg List.length same
    simp [long] at longer
  have inside : into u q name = q ++ [name] := into_of_dir _ (isDir_of_dir below huq)
  have sameThere : t (q ++ [name]) = u (q ++ [name]) := off _ (notInner [] name)
  rw [rename_dir_dir htp htq, mv, inside, isDir_iff (by simp)]
  cases found : u (q ++ [name]) with
  | none =>
      rw [rename_missing hup found]
      refine iff_of_false (fun agree => ?_) (fun refused => refused.1 rfl)
      split at agree
      case isFalse => exact nomatch agree.status
      case isTrue empty =>
        have places : moved t p q (q ++ [inner]) = moved u p (q ++ [name]) (q ++ [inner]) :=
          congrFun (agree.tree rfl) (q ++ [inner])
        have notAt : ¬ q ++ [name] <+: q ++ [inner] := by
          rw [List.prefix_append_right_inj]
          simpa using ne
        have notUnder : ¬ p <+: q ++ [inner] := fun under =>
          apart (List.prefix_iff_eq_take.mp under |>.trans (by rw [long, List.take_left]))
        rw [moved_under, moved_of_not_under u notUnder notAt, ← off _ (notInner [] inner),
          (k.emptyDir_iff t q).mp empty inner] at places
        exact copied places
  | some n =>
      rw [emptyDir_eq_false (by rw [sameThere, found]; simp), if_neg Bool.false_ne_true]
      cases n with
      | file c m =>
          rw [rename_dir_file hup found]
          exact iff_of_true (.of_fail rfl rfl) ⟨by simp, fun ⟨_, dir⟩ => nomatch dir⟩
      | dir m =>
          rw [rename_dir_dir hup found]
          cases empty : k.emptyDir u (q ++ [name]) with
          | true =>
              refine iff_of_false (fun agree => nomatch agree.status) fun ⟨_, some_name⟩ => ?_
              obtain ⟨x, there⟩ := some_name ⟨m, rfl⟩
              exact there ((k.emptyDir_iff u _).mp empty x)
          | false =>
              refine iff_of_true (.of_fail rfl rfl) ⟨by simp, fun _ => ?_⟩
              by_contra none
              rw [not_exists] at none
              have all := (k.emptyDir_iff u _).mpr fun x => not_not.mp (none x)
              exact absurd (empty.symm.trans all) Bool.false_ne_true

theorem put_put (t : Tree κ φ) (p : List κ) (n n' : Node φ) : put (put t p n) p n' = put t p n' :=
  Function.update_idem ..

/-- A path behind the last directory stays. -/
theorem mkdirs_of_longer {mode : ℕ} {base names q : List κ} (t : Tree κ φ)
    (longer : base.length + names.length < q.length) : (mkdirs mode base names t).2 q = t q := by
  induction names generalizing base t with
  | nil => rfl
  | cons name rest ih =>
      have further : (base ++ [name]).length + rest.length < q.length := by
        rw [List.length_append, List.length_singleton]
        rw [List.length_cons] at longer
        omega
      have other : q ≠ base ++ [name] := by
        rintro rfl
        rw [List.length_append, List.length_singleton] at further
        omega
      rw [mkdirs]
      split
      case h_1 => rw [ih _ further, put_of_ne _ _ other]
      case h_2 => exact ih _ further
      case h_3 => rfl

/-- The way can be made if there is no file on it. -/
theorem mkdirs_iff {mode : ℕ} {base names : List κ} {t : Tree κ φ} :
    (mkdirs mode base names t).1 = true ↔
      ∀ q, q ≠ [] → q <+: names → ∀ c m, t (base ++ q) ≠ some (.file c m) := by
  induction names generalizing base t with
  | nil =>
      refine iff_of_true rfl fun q some_name on => ?_
      exact absurd (List.prefix_nil.mp on) some_name
  | cons name rest ih =>
      have next (q : List κ) : base ++ [name] ++ q = base ++ name :: q := by simp
      have split : (∀ q, q ≠ [] → q <+: name :: rest → ∀ c m, t (base ++ q) ≠ some (.file c m)) ↔
          (∀ c m, t (base ++ [name]) ≠ some (.file c m)) ∧
            ∀ q, q ≠ [] → q <+: rest → ∀ c m, t (base ++ [name] ++ q) ≠ some (.file c m) := by
        constructor
        · intro free
          refine ⟨free [name] (List.cons_ne_nil _ _) (by simp), fun q _ on => ?_⟩
          rw [next]
          exact free (name :: q) (List.cons_ne_nil _ _) (List.cons_prefix_cons.mpr ⟨rfl, on⟩)
        · rintro ⟨first, later⟩ q some_name on
          obtain ⟨x, q, rfl⟩ := List.exists_cons_of_ne_nil some_name
          obtain ⟨rfl, onRest⟩ := List.cons_prefix_cons.mp on
          by_cases last : q = []
          · rw [last]
            exact first
          · rw [← next]
            exact later q last onRest
      rw [split, mkdirs]
      cases found : t (base ++ [name]) with
      | none =>
          have same (q : List κ) (some_name : q ≠ []) :
              put t (base ++ [name]) (.dir mode) (base ++ [name] ++ q) = t (base ++ [name] ++ q) :=
            put_of_ne _ _ (by simpa using some_name)
          rw [ih]
          refine ⟨fun free => ⟨nofun, fun q some_name on => ?_⟩, fun ⟨_, free⟩ q some_name on => ?_⟩
          · rw [← same q some_name]
            exact free q some_name on
          · rw [same q some_name]
            exact free q some_name on
      | some n =>
          cases n with
          | dir => exact ih.trans ⟨fun free => ⟨nofun, free⟩, And.right⟩
          | file c m => exact iff_of_false Bool.false_ne_true fun free => free.1 c m rfl

/-- What was made is a directory. -/
theorem isDir_mkdirs {mode : ℕ} {base names : List κ} {t : Tree κ φ}
    (ok : (mkdirs mode base names t).1 = true) (start : isDir t base = true) :
    isDir (mkdirs mode base names t).2 (base ++ names) = true := by
  induction names generalizing base t with
  | nil =>
      rw [List.append_nil]
      exact start
  | cons name rest ih =>
      have step : base ++ name :: rest = (base ++ [name]) ++ rest := by simp
      rw [step]
      rw [mkdirs] at ok ⊢
      cases found : t (base ++ [name]) with
      | none =>
          rw [found] at ok
          exact ih ok (isDir_of_dir (by simp) (put_same ..))
      | some n =>
          rw [found] at ok
          cases n with
          | dir m => exact ih ok (isDir_of_dir (by simp) found)
          | file => cases ok

end DirTree
