import Mathlib.Data.Set.Basic
import Mathlib.Logic.Function.Basic

/-!
# File trees

A tree maps a path to the file standing there, if any.  Two trees are compared on the paths outside
a set of paths (`AgreeOff`); a list of entries written over a tree decides it at its own paths.
-/

namespace FileTree

abbrev Tree (κ φ : Type*) := κ → Option φ

variable {κ φ : Type*}

/-! ## Agreement -/

/-- The trees hold the same files outside `places`. -/
def AgreeOff (places : Set κ) (t u : Tree κ φ) : Prop :=
  ∀ p, p ∉ places → t p = u p

theorem AgreeOff.refl (places : Set κ) (t : Tree κ φ) : AgreeOff places t t := fun _ _ => rfl

/-! ## Operations -/

variable [DecidableEq κ]

def write (t : Tree κ φ) (p : κ) (f : φ) : Tree κ φ := Function.update t p (some f)

def unlink (t : Tree κ φ) (p : κ) : Tree κ φ := Function.update t p none

/-- `rename`: the file at `p` is put in the place of whatever stands at `q`. -/
def rename (t : Tree κ φ) (p q : κ) : Option (Tree κ φ) :=
  (t p).map fun f => write (unlink t p) q f

@[simp] theorem write_same (t : Tree κ φ) (p : κ) (f : φ) : write t p f p = some f :=
  Function.update_self ..

theorem write_of_ne (t : Tree κ φ) (f : φ) {p q : κ} (h : q ≠ p) : write t p f q = t q :=
  Function.update_of_ne h ..

@[simp] theorem unlink_same (t : Tree κ φ) (p : κ) : unlink t p p = none :=
  Function.update_self ..

theorem unlink_of_ne (t : Tree κ φ) {p q : κ} (h : q ≠ p) : unlink t p q = t q :=
  Function.update_of_ne h ..

/-- A rename moves the file, empties its old place and leaves the rest alone. -/
theorem rename_eq_some {t u : Tree κ φ} {p q : κ} (h : rename t p q = some u) (ne : p ≠ q) :
    u q = t p ∧ u p = none ∧ ∀ r, r ≠ p → r ≠ q → u r = t r := by
  obtain ⟨f, found, rfl⟩ := Option.map_eq_some_iff.mp h
  refine ⟨by rw [write_same, found], ?_, fun r hp hq => ?_⟩
  · rw [write_of_ne _ _ ne, unlink_same]
  · rw [write_of_ne _ _ hq, unlink_of_ne _ hp]

theorem AgreeOff.write {places : Set κ} {t u : Tree κ φ} (h : AgreeOff places t u) {p : κ}
    (hp : p ∈ places)
    (f : φ) : AgreeOff places t (write u p f) :=
  fun q hq => (h q hq).trans (write_of_ne u f (ne_of_mem_of_not_mem hp hq).symm).symm

theorem AgreeOff.unlink {places : Set κ} {t u : Tree κ φ} (h : AgreeOff places t u) {p : κ}
    (hp : p ∈ places) :
    AgreeOff places t (unlink u p) :=
  fun q hq => (h q hq).trans (unlink_of_ne u (ne_of_mem_of_not_mem hp hq).symm).symm

theorem AgreeOff.rename {places : Set κ} {t u v : Tree κ φ} (h : AgreeOff places t u) {p q : κ}
    (hp : p ∈ places) (hq : q ∈ places) (renamed : rename u p q = some v) :
    AgreeOff places t v := by
  obtain ⟨f, -, rfl⟩ := Option.map_eq_some_iff.mp renamed
  exact (h.unlink hp).write hq f

/-! ## Many entries at once -/

def writeAll (t : Tree κ φ) (entries : List (κ × φ)) : Tree κ φ :=
  entries.foldl (fun t e => write t e.1 e.2) t

def unlinkAll (t : Tree κ φ) (paths : List κ) : Tree κ φ :=
  paths.foldl unlink t

theorem writeAll_of_not_mem {entries : List (κ × φ)} {p : κ} (t : Tree κ φ)
    (h : ∀ e ∈ entries, e.1 ≠ p) : writeAll t entries p = t p := by
  induction entries generalizing t with
  | nil => rfl
  | cons e rest ih =>
      have later := ih (write t e.1 e.2) fun e' h' => h e' (List.mem_cons_of_mem _ h')
      exact later.trans (write_of_ne t e.2 (h e List.mem_cons_self).symm)

/-- Entries that agree on a path, at least one of them bearing it, put their file there. -/
theorem writeAll_of_mem {entries : List (κ × φ)} {p : κ} {f : φ} (t : Tree κ φ)
    (mem : (p, f) ∈ entries) (agree : ∀ e ∈ entries, e.1 = p → e.2 = f) :
    writeAll t entries p = some f := by
  induction entries generalizing t with
  | nil => cases mem
  | cons e rest ih =>
      have restAgree : ∀ e' ∈ rest, e'.1 = p → e'.2 = f :=
        fun e' h' => agree e' (List.mem_cons_of_mem _ h')
      by_cases later : (p, f) ∈ rest
      · exact ih (write t e.1 e.2) later restAgree
      · have here : e = (p, f) := ((List.mem_cons.mp mem).resolve_right later).symm
        have absent : ∀ e' ∈ rest, e'.1 ≠ p := fun e' h' bears =>
          later (by rw [← bears, ← restAgree e' h' bears]; exact h')
        have kept := writeAll_of_not_mem (write t e.1 e.2) absent
        rw [here, write_same] at kept
        rw [here]
        exact kept

/-- What the entries decide they decide alone; the rest is as it was. -/
theorem writeAll_eq_or (t : Tree κ φ) (entries : List (κ × φ)) (p : κ) :
    writeAll t entries p = (writeAll (fun _ => none) entries p).or (t p) := by
  induction entries generalizing t with
  | nil => rfl
  | cons e rest ih =>
      have here : write t e.1 e.2 p = (write (fun _ => none) e.1 e.2 p).or (t p) := by
        by_cases same : p = e.1
        · rw [same, write_same, write_same, Option.some_or]
        · rw [write_of_ne _ _ same, write_of_ne _ _ same, Option.none_or]
      rw [writeAll, writeAll, List.foldl_cons, List.foldl_cons, ← writeAll.eq_def,
        ← writeAll.eq_def, ih, ih (write (fun _ => none) e.1 e.2), here, Option.or_assoc]

theorem unlinkAll_of_not_mem {paths : List κ} {p : κ} (t : Tree κ φ) (h : p ∉ paths) :
    unlinkAll t paths p = t p := by
  induction paths generalizing t with
  | nil => rfl
  | cons q rest ih =>
      have later := ih (unlink t q) fun mem => h (List.mem_cons_of_mem _ mem)
      exact later.trans (unlink_of_ne t fun eq => h (eq ▸ List.mem_cons_self))

theorem unlinkAll_of_mem {paths : List κ} {p : κ} (t : Tree κ φ) (h : p ∈ paths) :
    unlinkAll t paths p = none := by
  induction paths generalizing t with
  | nil => cases h
  | cons q rest ih =>
      by_cases later : p ∈ rest
      · exact ih (unlink t q) later
      · have here : p = q := (List.mem_cons.mp h).resolve_right later
        have kept := unlinkAll_of_not_mem (unlink t q) later
        rw [here, unlink_same] at kept
        rw [here]
        exact kept

theorem AgreeOff.unlinkAll {places : Set κ} {t u : Tree κ φ} (h : AgreeOff places t u)
    {ps : List κ} (within : ∀ p ∈ ps, p ∈ places) : AgreeOff places t (unlinkAll u ps) :=
  fun q off => (h q off).trans (unlinkAll_of_not_mem u fun mem => off (within q mem)).symm

end FileTree
