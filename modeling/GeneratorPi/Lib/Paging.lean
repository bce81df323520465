import Mathlib.Data.List.Basic
import Mathlib.Order.Lattice

/-!
# Pages of a store that grows at the top

The entries of a store have distinct keys and are listed from the greatest key down.  A page is a
piece of that list: `Convex` says that it leaves out no stored entry between two of its own, `Above`
and `Below` that it leaves out none between itself and a cursor.  All three outlast the removal of
entries and the adding of greater ones.  A page that begins where a list ends goes together with it
(`Convex.prepend`, `Convex.append`).
-/

namespace Paging

variable {ε κ : Type*} [LinearOrder κ] (key : ε → κ)

def Descending (l : List ε) : Prop := l.Pairwise fun a b => key b < key a

structure Convex (stored page : List ε) : Prop where
  descending : Descending key page
  whole : ∀ e ∈ stored, ∀ a ∈ page, ∀ b ∈ page, key b ≤ key e → key e ≤ key a → e ∈ page

/-- The page lies above the cursor, and nothing between them is left out. -/
structure Above (stored : List ε) (c : κ) (page : List ε) : Prop where
  above : ∀ e ∈ page, c < key e
  whole : ∀ e ∈ stored, c < key e → ∀ a ∈ page, key e ≤ key a → e ∈ page

structure Below (stored : List ε) (c : κ) (page : List ε) : Prop where
  below : ∀ e ∈ page, key e < c
  whole : ∀ e ∈ stored, key e < c → ∀ b ∈ page, key b ≤ key e → e ∈ page

variable {key} {stored stored' page shown : List ε} {c : κ}

theorem Convex.nil : Convex key stored [] where
  descending := List.Pairwise.nil
  whole _ _ _ mem := absurd mem List.not_mem_nil

theorem Above.nil : Above key stored c [] where
  above _ mem := absurd mem List.not_mem_nil
  whole _ _ _ _ mem := absurd mem List.not_mem_nil

theorem Below.nil : Below key stored c [] where
  below _ mem := absurd mem List.not_mem_nil
  whole _ _ _ _ mem := absurd mem List.not_mem_nil

/-! ## Growth -/

theorem Convex.grow (h : Convex key stored page)
    (grown : ∀ e ∈ stored', e ∈ stored ∨ ∀ a ∈ page, key a < key e) : Convex key stored' page where
  descending := h.descending
  whole e mem a ha b hb low high := by
    rcases grown e mem with old | new
    · exact h.whole e old a ha b hb low high
    · exact absurd (new a ha) (not_lt.mpr high)

theorem Above.grow (h : Above key stored c page)
    (grown : ∀ e ∈ stored', e ∈ stored ∨ ∀ a ∈ page, key a < key e) : Above key stored' c page where
  above := h.above
  whole e mem low a ha high := by
    rcases grown e mem with old | new
    · exact h.whole e old low a ha high
    · exact absurd (new a ha) (not_lt.mpr high)

theorem Below.grow (h : Below key stored c page)
    (grown : ∀ e ∈ stored', e ∈ stored ∨ c ≤ key e) : Below key stored' c page where
  below := h.below
  whole e mem high b hb low := by
    rcases grown e mem with old | new
    · exact h.whole e old high b hb low
    · exact absurd high (not_lt.mpr new)

/-! ## Taking a page -/

/-- Of a descending list the first entries are the greatest. -/
theorem mem_take_of_le {l : List ε} (descending : Descending key l) {n : ℕ} {e b : ε} (he : e ∈ l)
    (hb : b ∈ l.take n) (le : key b ≤ key e) : e ∈ l.take n := by
  rw [← List.take_append_drop n l] at he descending
  rcases List.mem_append.mp he with taken | dropped
  · exact taken
  · have lt := (List.pairwise_append.mp descending).2.2 b hb e dropped
    exact absurd lt (not_lt.mpr le)

theorem convex_take (descending : Descending key stored) {p : ε → Bool}
    (closed : ∀ a b e, p a → p b → key b ≤ key e → key e ≤ key a → p e) (n : ℕ) :
    Convex key stored ((stored.filter p).take n) where
  descending := (descending.filter p).sublist (List.take_sublist _ _)
  whole e mem a ha b hb low high := by
    have pa := (List.mem_filter.mp (List.mem_of_mem_take ha)).2
    have pb := (List.mem_filter.mp (List.mem_of_mem_take hb)).2
    have kept : e ∈ stored.filter p := List.mem_filter.mpr ⟨mem, closed a b e pa pb low high⟩
    exact mem_take_of_le (descending.filter p) kept hb low

theorem below_take (descending : Descending key stored) (c : κ) (n : ℕ) :
    Below key stored c ((stored.filter fun e => decide (key e < c)).take n) where
  below _ mem := of_decide_eq_true (List.mem_filter.mp (List.mem_of_mem_take mem)).2
  whole _ mem high _ hb low :=
    mem_take_of_le (descending.filter _) (List.mem_filter.mpr ⟨mem, decide_eq_true high⟩) hb low

/-- A page upwards reaches down to the cursor if it is not cut off. -/
theorem above_take {n : ℕ} (short : (stored.filter fun e => decide (c < key e)).length ≤ n) :
    Above key stored c ((stored.filter fun e => decide (c < key e)).take n) where
  above _ mem := of_decide_eq_true (List.mem_filter.mp (List.mem_of_mem_take mem)).2
  whole _ mem low _ _ _ := by
    rw [List.take_of_length_le short]
    exact List.mem_filter.mpr ⟨mem, decide_eq_true low⟩

/-! ## Putting pages together -/

theorem Convex.prepend (upper : Convex key stored page) (reach : Above key stored c page)
    (lower : Convex key stored shown) (top : ∃ t ∈ shown, key t = c)
    (le : ∀ b ∈ shown, key b ≤ c) : Convex key stored (page ++ shown) where
  descending := List.pairwise_append.mpr ⟨upper.descending, lower.descending,
    fun a ha b hb => lt_of_le_of_lt (le b hb) (reach.above a ha)⟩
  whole e mem a ha b hb low high := by
    rcases top with ⟨t, ht, rfl⟩
    rw [List.mem_append] at ha hb ⊢
    rcases le_or_gt (key e) (key t) with beneath | higher
    · have inShown : b ∈ shown := hb.resolve_left fun inPage =>
        absurd (reach.above b inPage) (not_lt.mpr (low.trans beneath))
      exact Or.inr (lower.whole e mem t ht b inShown low beneath)
    · have inPage : a ∈ page := ha.resolve_right fun inShown =>
        absurd (lt_of_lt_of_le higher high) (not_lt.mpr (le a inShown))
      exact Or.inl (reach.whole e mem higher a inPage high)

theorem Convex.append (upper : Convex key stored shown) (reach : Below key stored c page)
    (lower : Convex key stored page) (bottom : ∃ t ∈ shown, key t = c)
    (ge : ∀ a ∈ shown, c ≤ key a) : Convex key stored (shown ++ page) where
  descending := List.pairwise_append.mpr ⟨upper.descending, lower.descending,
    fun a ha b hb => lt_of_lt_of_le (reach.below b hb) (ge a ha)⟩
  whole e mem a ha b hb low high := by
    rcases bottom with ⟨t, ht, rfl⟩
    rw [List.mem_append] at ha hb ⊢
    rcases le_or_gt (key t) (key e) with higher | beneath
    · have inShown : a ∈ shown := ha.resolve_right fun inPage =>
        absurd (reach.below a inPage) (not_lt.mpr (higher.trans high))
      exact Or.inl (upper.whole e mem a inShown t ht higher high)
    · have inPage : b ∈ page := hb.resolve_left fun inShown =>
        absurd (lt_of_le_of_lt low beneath) (not_lt.mpr (ge b inShown))
      exact Or.inr (reach.whole e mem beneath b inPage low)

/-- A page upwards that is cut off does not go together with a list that ends at its cursor. -/
theorem not_convex_prepend (descending : Descending key stored) {n : ℕ} (some_page : 0 < n)
    (cut : n < (stored.filter fun e => decide (c < key e)).length)
    (top : ∃ t ∈ shown, key t = c) (le : ∀ b ∈ shown, key b ≤ c) :
    ¬ Convex key stored ((stored.filter fun e => decide (c < key e)).take n ++ shown) := by
  intro convex
  have falling : Descending key (stored.filter fun e => decide (c < key e)) := descending.filter _
  have cutOff := List.mem_filter.mp (List.getElem_mem cut)
  generalize stored.filter (fun e => decide (c < key e)) = above at *
  rw [decide_eq_true_eq] at cutOff
  have first : above[0] ∈ above.take n := by
    refine List.mem_iff_getElem.mpr ⟨0, ?_, ?_⟩
    · rw [List.length_take]
      omega
    · rw [List.getElem_take]
  have below : key above[n] < key above[0] := List.pairwise_iff_getElem.mp falling 0 n _ _ some_page
  rcases top with ⟨t, ht, rfl⟩
  have shownToo := convex.whole above[n] cutOff.1 above[0] (List.mem_append_left _ first) t
    (List.mem_append_right _ ht) cutOff.2.le below.le
  rcases List.mem_append.mp shownToo with inPage | inShown
  · rcases List.mem_iff_getElem.mp inPage with ⟨i, hi, same⟩
    rw [List.length_take] at hi
    rw [List.getElem_take] at same
    have lt : key above[n] < key above[i] :=
      List.pairwise_iff_getElem.mp falling i n _ _ (by omega)
    rw [same] at lt
    exact lt_irrefl _ lt
  · exact absurd cutOff.2 (not_lt.mpr (le _ inShown))

/-! ## The ends of a list -/

theorem le_head {l : List ε} {t : ε} (descending : Descending key l) (first : l.head? = some t) :
    ∀ b ∈ l, key b ≤ key t := by
  intro b mem
  cases l with
  | nil => cases first
  | cons x rest =>
      cases first
      rcases List.mem_cons.mp mem with rfl | later
      · exact le_rfl
      · exact le_of_lt (List.rel_of_pairwise_cons descending later)

theorem last_le {l : List ε} {t : ε} (descending : Descending key l) (last : l.getLast? = some t) :
    ∀ a ∈ l, key t ≤ key a := by
  intro a mem
  rcases List.eq_nil_or_concat' l with rfl | ⟨front, x, rfl⟩
  · cases last
  · rw [List.getLast?_concat, Option.some.injEq] at last
    subst last
    rcases List.mem_append.mp mem with earlier | final
    · exact le_of_lt ((List.pairwise_append.mp descending).2.2 a earlier x List.mem_cons_self)
    · rw [List.mem_singleton.mp final]

end Paging
