import Mathlib.Data.Finset.Card
import Mathlib.Data.List.MinMax
import Mathlib.Data.List.Nodup

/-!
# Dictionaries in insertion order

A Python `dict`: entries with distinct keys, in the order in which the keys were first set.  Setting
a key that is there keeps its place.  Every operation is known by the entries it leaves (`mem_set`,
`mem_erase`, `mem_filter`), and looking a key up is membership (`get?_eq_some`).
-/

namespace OrderedDict

variable {κ ν β : Type*}

structure Dict (κ ν : Type*) where
  entries : List (κ × ν)
  nodup : (entries.map Prod.fst).Nodup

namespace Dict

instance [DecidableEq κ] [DecidableEq ν] : DecidableEq (Dict κ ν) := fun d e =>
  decidable_of_iff (d.entries = e.entries) (by cases d; cases e; simp)

theorem ext_entries {d e : Dict κ ν} (same : d.entries = e.entries) : d = e := by
  cases d
  cases e
  cases same
  rfl

def empty : Dict κ ν := ⟨[], List.nodup_nil⟩

def keys (d : Dict κ ν) : List κ := d.entries.map Prod.fst

instance [DecidableEq κ] (d : Dict κ ν) (k : κ) : Decidable (k ∈ d.keys) :=
  inferInstanceAs (Decidable (k ∈ d.entries.map Prod.fst))

def size (d : Dict κ ν) : ℕ := d.entries.length

/-- `{k: v for k, v in d.items() if p(k, v)}`. -/
def filter (d : Dict κ ν) (p : κ → ν → Bool) : Dict κ ν where
  entries := d.entries.filter fun e => p e.1 e.2
  nodup := d.nodup.sublist (List.filter_sublist.map _)

/-- `min(d, key=lambda k: f(d[k]))`: of several minima the first; `none` is its `ValueError`. -/
def minKey [Preorder β] [DecidableLT β] (d : Dict κ ν) (f : ν → β) : Option κ :=
  (d.entries.argmin fun e => f e.2).map Prod.fst

section Entries

variable {d : Dict κ ν} {k : κ} {v w : ν}

theorem mem_keys : k ∈ d.keys ↔ ∃ v, (k, v) ∈ d.entries := by
  simp [keys]

/-- Two entries of one key are the same. -/
theorem eq_of_mem (hv : (k, v) ∈ d.entries) (hw : (k, w) ∈ d.entries) : v = w :=
  congrArg Prod.snd (List.inj_on_of_nodup_map d.nodup hv hw rfl)

theorem mem_filter {p : κ → ν → Bool} :
    (k, v) ∈ (d.filter p).entries ↔ (k, v) ∈ d.entries ∧ p k v := by
  simp [filter]

theorem size_filter_le (p : κ → ν → Bool) : (d.filter p).size ≤ d.size := List.length_filter_le _ _

end Entries

section Lookup

variable [DecidableEq κ] {d : Dict κ ν} {k l : κ} {v w : ν}

/-- `d.get(k)`. -/
def get? (d : Dict κ ν) (k : κ) : Option ν := (d.entries.find? fun e => e.1 = k).map Prod.snd

/-- `del d[k]` of a key that is there. -/
def erase (d : Dict κ ν) (k : κ) : Dict κ ν := d.filter fun l _ => l ≠ k

/-- `d[k] = v`. -/
def set (d : Dict κ ν) (k : κ) (v : ν) : Dict κ ν where
  entries :=
    if k ∈ d.keys then d.entries.map fun e => if e.1 = k then (k, v) else e
    else d.entries ++ [(k, v)]
  nodup := by
    split
    case isTrue mem =>
      have same : (d.entries.map fun e => if e.1 = k then (k, v) else e).map Prod.fst =
          d.entries.map Prod.fst := by
        rw [List.map_map]
        refine List.map_congr_left fun e _ => ?_
        by_cases here : e.1 = k <;> simp [here]
      rw [same]
      exact d.nodup
    case isFalse fresh =>
      rw [List.map_append, List.nodup_append]
      refine ⟨d.nodup, List.nodup_singleton _, fun l old m new => ?_⟩
      rw [List.map_singleton, List.mem_singleton] at new
      rw [new]
      rintro rfl
      exact fresh old

theorem get?_eq_some : d.get? k = some v ↔ (k, v) ∈ d.entries := by
  unfold get?
  constructor
  · intro found
    rcases Option.map_eq_some_iff.mp found with ⟨e, here, rfl⟩
    have key : e.1 = k := by simpa using List.find?_some here
    rw [← key]
    exact List.mem_of_find?_eq_some here
  · intro mem
    cases found : d.entries.find? fun e => e.1 = k with
    | none =>
        have missed := List.find?_eq_none.mp found _ mem
        simp at missed
    | some e =>
        have key : e.1 = k := by simpa using List.find?_some found
        have inside : (k, e.2) ∈ d.entries := key ▸ List.mem_of_find?_eq_some found
        rw [Option.map_some, eq_of_mem inside mem]

theorem get?_eq_none : d.get? k = none ↔ k ∉ d.keys := by
  rw [Option.eq_none_iff_forall_ne_some, mem_keys, not_exists]
  exact forall_congr' fun v => not_congr get?_eq_some

@[simp] theorem get?_empty : (empty : Dict κ ν).get? k = none := rfl

theorem mem_erase : (l, v) ∈ (d.erase k).entries ↔ l ≠ k ∧ (l, v) ∈ d.entries := by
  rw [erase, mem_filter, and_comm]
  simp

theorem mem_set : (l, w) ∈ (d.set k v).entries ↔ (l = k ∧ w = v) ∨
    (l ≠ k ∧ (l, w) ∈ d.entries) := by
  by_cases mem : k ∈ d.keys
  · rcases mem_keys.mp mem with ⟨u, hu⟩
    simp only [set, if_pos mem, List.mem_map]
    constructor
    · rintro ⟨⟨m, x⟩, hx, eq⟩
      by_cases here : m = k
      · rw [if_pos here, Prod.mk.injEq] at eq
        exact Or.inl ⟨eq.1.symm, eq.2.symm⟩
      · rw [if_neg here, Prod.mk.injEq] at eq
        obtain ⟨rfl, rfl⟩ := eq
        exact Or.inr ⟨here, hx⟩
    · rintro (⟨rfl, rfl⟩ | ⟨other, hw⟩)
      · exact ⟨(l, u), hu, if_pos rfl⟩
      · exact ⟨(l, w), hw, if_neg other⟩
  · have fresh : (l, w) ∈ d.entries → l ≠ k := by
      rintro hw rfl
      exact mem (mem_keys.mpr ⟨w, hw⟩)
    simp only [set, if_neg mem, List.mem_append, List.mem_singleton, Prod.mk.injEq]
    constructor
    · rintro (hw | new)
      · exact Or.inr ⟨fresh hw, hw⟩
      · exact Or.inl new
    · rintro (new | ⟨-, hw⟩)
      · exact Or.inr new
      · exact Or.inl hw

theorem get?_set_self : (d.set k v).get? k = some v :=
  get?_eq_some.mpr (mem_set.mpr (Or.inl ⟨rfl, rfl⟩))

theorem get?_set_of_ne (other : l ≠ k) : (d.set k v).get? l = d.get? l := by
  ext w
  rw [get?_eq_some, get?_eq_some, mem_set]
  simp [other]

theorem keys_set_of_mem (mem : k ∈ d.keys) : (d.set k v).keys = d.keys := by
  have moved : (d.set k v).entries = d.entries.map fun e => if e.1 = k then (k, v) else e :=
    if_pos mem
  rw [keys, moved, List.map_map]
  refine List.map_congr_left fun e _ => ?_
  by_cases here : e.1 = k <;> simp [here]

theorem lookup_entries [BEq κ] [LawfulBEq κ] (d : Dict κ ν) (k : κ) :
    d.entries.lookup k = d.get? k := by
  unfold get?
  induction d.entries with
  | nil => rfl
  | cons e entries ih =>
      obtain ⟨l, v⟩ := e
      by_cases here : l = k
      · simp [here]
      · have other : (k == l) = false := by simpa using Ne.symm here
        simp [List.lookup_cons, here, other, ih]

/-- A dictionary is its keys, in their order, and what each of them is set to. -/
theorem ext_get? {e : Dict κ ν} (keys : d.keys = e.keys) (same : ∀ k, d.get? k = e.get? k) :
    d = e := by
  have listed : ∀ d : Dict κ ν, d.entries.map some =
      d.keys.map fun k => (d.get? k).map fun v => (k, v) := by
    intro d
    rw [Dict.keys, List.map_map]
    refine List.map_congr_left fun e he => ?_
    rw [Function.comp, get?_eq_some.mpr he]
    rfl
  apply ext_entries
  apply List.map_injective_iff.mpr (Option.some_injective _)
  rw [listed d, listed e, keys]
  exact List.map_congr_left fun k _ => by rw [same k]

theorem get?_erase_self : (d.erase k).get? k = none := by
  rw [get?_eq_none, mem_keys]
  rintro ⟨v, hv⟩
  exact (mem_erase.mp hv).1 rfl

theorem get?_erase_of_ne (other : l ≠ k) : (d.erase k).get? l = d.get? l := by
  ext w
  rw [get?_eq_some, get?_eq_some, mem_erase]
  simp [other]

theorem get?_filter (p : κ → ν → Bool) : (d.filter p).get? k = (d.get? k).filter (p k) := by
  ext v
  rw [get?_eq_some, mem_filter, Option.filter_eq_some_iff, get?_eq_some]

/-- Setting a key twice. -/
theorem set_set : (d.set k v).set k w = d.set k w := by
  have mem : k ∈ (d.set k v).keys := mem_keys.mpr ⟨v, mem_set.mpr (Or.inl ⟨rfl, rfl⟩)⟩
  apply ext_entries
  conv_lhs => rw [set]
  dsimp only
  rw [if_pos mem]
  by_cases here : k ∈ d.keys
  · simp only [set, if_pos here, List.map_map]
    refine List.map_congr_left fun e _ => ?_
    by_cases key : e.1 = k <;> simp [key]
  · have others : d.entries.map (fun e => if e.1 = k then (k, w) else e) = d.entries := by
      refine (List.map_congr_left fun e he => ?_).trans d.entries.map_id
      have other : e.1 ≠ k := fun key => here (key ▸ List.mem_map_of_mem he)
      exact if_neg other
    simp [set, if_neg here, others]

/-! ### Setting the keys that are there -/

section Refresh

variable {f : κ → Option ν}

/-- `if k in f: d[k] = f[k]`. -/
def setFrom (f : κ → Option ν) (d : Dict κ ν) (k : κ) : Dict κ ν :=
  match f k with
  | some v => d.set k v
  | none => d

/-- `for k in d: if k in f: d[k] = f[k]`. -/
def refresh (f : κ → Option ν) (d : Dict κ ν) : Dict κ ν := d.keys.foldl (setFrom f) d

theorem keys_setFrom (mem : k ∈ d.keys) : (d.setFrom f k).keys = d.keys := by
  unfold setFrom
  split
  · exact keys_set_of_mem mem
  · rfl

theorem get?_setFrom_self (mem : k ∈ d.keys) :
    (d.setFrom f k).get? k = (d.get? k).map fun v => (f k).getD v := by
  obtain ⟨v, hv⟩ := mem_keys.mp mem
  have old := get?_eq_some.mpr hv
  unfold setFrom
  split
  · next w new => rw [get?_set_self, old, Option.map_some, new, Option.getD_some]
  · next new => rw [old, Option.map_some, new, Option.getD_none]

theorem get?_setFrom_of_ne (other : l ≠ k) : (d.setFrom f k).get? l = d.get? l := by
  unfold setFrom
  split
  · exact get?_set_of_ne other
  · rfl

/-- The loop keeps the keys, and each of those it has passed has the value of `f` where there is
one. -/
theorem foldl_setFrom {ks : List κ} (within : ∀ k ∈ ks, k ∈ d.keys) (distinct : ks.Nodup) :
    (ks.foldl (setFrom f) d).keys = d.keys ∧
      ∀ l, (ks.foldl (setFrom f) d).get? l =
        if l ∈ ks then (d.get? l).map fun v => (f l).getD v else d.get? l := by
  induction ks generalizing d with
  | nil => exact ⟨rfl, fun l => (if_neg List.not_mem_nil).symm⟩
  | cons k ks ih =>
      obtain ⟨fresh, rest⟩ := List.nodup_cons.mp distinct
      have kept : (d.setFrom f k).keys = d.keys := keys_setFrom (within k List.mem_cons_self)
      have later : ∀ l ∈ ks, l ∈ (d.setFrom f k).keys := fun l mem =>
        kept ▸ within l (List.mem_cons_of_mem _ mem)
      obtain ⟨keys, values⟩ := ih later rest
      refine ⟨keys.trans kept, fun l => ?_⟩
      rw [List.foldl_cons, values l]
      by_cases here : l = k
      · subst here
        rw [if_neg fresh, if_pos List.mem_cons_self]
        exact get?_setFrom_self (within l List.mem_cons_self)
      · rw [get?_setFrom_of_ne here]
        simp only [List.mem_cons, here, false_or]

@[simp] theorem keys_refresh : (d.refresh f).keys = d.keys :=
  (foldl_setFrom (fun _ mem => mem) d.nodup).1

theorem get?_refresh : (d.refresh f).get? k = (d.get? k).map fun v => (f k).getD v := by
  rw [refresh, (foldl_setFrom (fun _ mem => mem) d.nodup).2 k]
  split
  · rfl
  · next missing => rw [get?_eq_none.mpr missing, Option.map_none]

/-- Refreshed from a dictionary with the same keys, a dictionary is that one. -/
theorem refresh_of_keys {e : Dict κ ν} (same : e.keys = d.keys) :
    d.refresh (fun k => e.get? k) = e := by
  refine ext_get? (keys_refresh.trans same.symm) fun k => ?_
  rw [get?_refresh]
  by_cases mem : k ∈ d.keys
  · obtain ⟨v, hv⟩ := mem_keys.mp mem
    obtain ⟨w, hw⟩ := mem_keys.mp (same ▸ mem : k ∈ e.keys)
    rw [get?_eq_some.mpr hv, get?_eq_some.mpr hw, Option.map_some, Option.getD_some]
  · rw [get?_eq_none.mpr mem, get?_eq_none.mpr (same ▸ mem), Option.map_none]

end Refresh

/-! ### Sizes -/

theorem size_erase_le : (d.erase k).size ≤ d.size := size_filter_le _

theorem size_erase_lt (mem : k ∈ d.keys) : (d.erase k).size < d.size := by
  rcases mem_keys.mp mem with ⟨v, hv⟩
  unfold size erase filter
  rw [List.length_filter_lt_length_iff_exists]
  exact ⟨(k, v), hv, by simp⟩

theorem size_set_of_mem (mem : k ∈ d.keys) : (d.set k v).size = d.size := by
  simp [size, set, mem]

theorem size_set_of_not_mem (fresh : k ∉ d.keys) : (d.set k v).size = d.size + 1 := by
  simp [size, set, fresh]

theorem size_set_le : (d.set k v).size ≤ d.size + 1 := by
  by_cases mem : k ∈ d.keys
  · rw [size_set_of_mem mem]
    exact Nat.le_succ _
  · exact (size_set_of_not_mem mem).le

/-- No more entries than the keys come from. -/
theorem size_le_card {keys : Finset κ} (within : ∀ k ∈ d.keys, k ∈ keys) :
    d.size ≤ keys.card := by
  have distinct := List.toFinset_card_of_nodup d.nodup
  rw [List.length_map] at distinct
  unfold size
  rw [← distinct]
  exact Finset.card_le_card fun k hk => within k (List.mem_toFinset.mp hk)

end Lookup

/-! ### Other names for the keys -/

section MapKeys

variable {κ' : Type*} {d : Dict κ ν} {k : κ} {v : ν} {f : κ → κ'}

/-- The same entries under other keys. -/
def mapKeys (f : κ → κ') (inj : Function.Injective f) (d : Dict κ ν) : Dict κ' ν where
  entries := d.entries.map (Prod.map f id)
  nodup := by
    have keys : (d.entries.map (Prod.map f id)).map Prod.fst = (d.entries.map Prod.fst).map f := by
      rw [List.map_map, List.map_map]
      rfl
    rw [keys]
    exact d.nodup.map inj

theorem entries_mapKeys {inj : Function.Injective f} :
    (d.mapKeys f inj).entries = d.entries.map (Prod.map f id) := rfl

@[simp] theorem size_mapKeys {inj : Function.Injective f} : (d.mapKeys f inj).size = d.size :=
  List.length_map _

@[simp] theorem mapKeys_empty {inj : Function.Injective f} :
    (empty : Dict κ ν).mapKeys f inj = empty := rfl

theorem filter_mapKeys (inj : Function.Injective f) (p : ν → Bool) :
    (d.mapKeys f inj).filter (fun _ v => p v) = (d.filter fun _ v => p v).mapKeys f inj := by
  apply ext_entries
  simp only [filter, entries_mapKeys, List.filter_map]
  rfl

theorem mem_keys_mapKeys {inj : Function.Injective f} :
    f k ∈ (d.mapKeys f inj).keys ↔ k ∈ d.keys := by
  have renamed : (d.mapKeys f inj).keys = d.keys.map f := by
    rw [keys, keys, entries_mapKeys, List.map_map, List.map_map]
    rfl
  rw [renamed, List.mem_map_of_injective inj]

variable [DecidableEq κ] [DecidableEq κ']

theorem get?_mapKeys {inj : Function.Injective f} : (d.mapKeys f inj).get? (f k) = d.get? k := by
  ext v
  rw [get?_eq_some, get?_eq_some, entries_mapKeys, List.mem_map]
  constructor
  · rintro ⟨⟨l, w⟩, mem, eq⟩
    obtain ⟨key, rfl⟩ := Prod.mk.inj eq
    rwa [← inj key]
  · exact fun mem => ⟨(k, v), mem, rfl⟩

theorem set_mapKeys (inj : Function.Injective f) :
    (d.mapKeys f inj).set (f k) v = (d.set k v).mapKeys f inj := by
  apply ext_entries
  by_cases mem : k ∈ d.keys
  · simp only [set, entries_mapKeys, if_pos mem, if_pos (mem_keys_mapKeys.mpr mem), List.map_map]
    refine List.map_congr_left fun e _ => ?_
    by_cases here : e.1 = k
    · simp [here]
    · simp [here, inj.ne here]
  · have fresh : f k ∉ (d.mapKeys f inj).keys := fun h => mem (mem_keys_mapKeys.mp h)
    simp only [set, entries_mapKeys, if_neg mem, if_neg fresh, List.map_append]
    rfl

end MapKeys

/-! ### The least entry -/

section Least

variable [LinearOrder β] {d : Dict κ ν} {f : ν → β} {k : κ}

theorem minKey_eq_none : d.minKey f = none ↔ d.size = 0 := by
  unfold minKey size
  rw [Option.map_eq_none_iff, List.argmin_eq_none, List.length_eq_zero_iff]

theorem mem_keys_of_minKey (h : d.minKey f = some k) : k ∈ d.keys := by
  rcases Option.map_eq_some_iff.mp h with ⟨e, least, rfl⟩
  exact List.mem_map_of_mem (List.argmin_mem least)

end Least

end Dict

end OrderedDict
