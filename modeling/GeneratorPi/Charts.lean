import GeneratorPi.Lib.Runs
import GeneratorPi.SystemHistory
import Mathlib.Data.Rat.Floor
import Mathlib.Tactic.FieldSimp
import Mathlib.Tactic.Linarith
import Mathlib.Tactic.Positivity

/-!
# The system charts

The charts that the page draws of the system history (`computeView`, `rangeOf`, `segs`, `scaleFor`
and `draw` of `genpi/frontend/app.js`).  A number is a rational one; where the code computes a NaN
there is none.

What is drawn are the points that the selected time takes of the panel's, and they are its newest;
a series is drawn as one line for each maximal run of points that have a value, from left to
right, a larger value higher, and within the box; an axis is labelled with the ends of a scale
that encloses the values it is for; a band covers each maximal run of points with an alert
(`drawn_of_run`).  Of a single point no band can be placed, and a band of the newest point alone
begins where the box ends.
-/

namespace GeneratorPi.Charts

open PyText RingBuffer Runs Trace

/-! ## Numbers and their texts -/

/-- `x.toFixed(digits)` in units of its last digit; of two that are equally near the larger in
magnitude. -/
def fixed (digits : ℕ) (x : ℚ) : ℤ :=
  if x < 0 then -⌊-x * 10 ^ digits + 1 / 2⌋ else ⌊x * 10 ^ digits + 1 / 2⌋

/-- `x.toFixed(digits)` -/
def toFixed (digits : ℕ) (x : ℚ) : Text :=
  let n := (Nat.toDigits 10 (fixed digits x).natAbs).leftpad (digits + 1) '0'
  let whole := n.take (n.length - digits)
  (if x < 0 then ['-'] else []) ++
    if digits = 0 then whole else whole ++ '.' :: n.drop (n.length - digits)

/-- `axfmt` -/
def axfmt (v : ℚ) : Text := if v = 0 then ['0'] else if |v| < 10 then toFixed 2 v else toFixed 0 v

/-- `v & 2 ** i`, for which a fraction is dropped. -/
def bit (i : ℕ) (v : ℚ) : Bool :=
  let truncated := if v < 0 then -⌊-v⌋ else ⌊v⌋
  truncated / 2 ^ i % 2 = 1

/-! ## The charts -/

structure Series where
  k : Text
  c : Text

/-- `"auto"`, or the value at the top. -/
inductive Top where
  | auto
  | at (max : ℚ)

/-- An entry of `CHARTS`. -/
inductive Axes where
  | single (min : ℚ) (max : Top)
  | dual

structure Chart where
  series : List Series
  axes : Axes
  bands : Bool := false

def compute : Chart where
  series := [⟨"cpu".toList, "#ffb347".toList⟩, ⟨"mem".toList, "#6fd3e0".toList⟩]
  axes := .single 0 (.at 100)

def load : Chart where
  series := [⟨"load1".toList, "#9fb5ff".toList⟩, ⟨"load5".toList, "#eb9fd0".toList⟩]
  axes := .single 0 .auto

def vitals : Chart where
  series := [⟨"temp".toList, "#ff8a6a".toList⟩, ⟨"volt".toList, "#6fd3e0".toList⟩]
  axes := .dual
  bands := true

def link : Chart where
  series := [⟨"rssi".toList, "#7ce0b0".toList⟩, ⟨"qual".toList, "#ffb347".toList⟩]
  axes := .dual

/-- `CHARTS` -/
def charts : List Chart := [compute, load, vitals, link]

/-- `computeView` -/
def computeView (points : List SysPoint) (windowSec : ℤ) : List SysPoint :=
  match points.getLast? with
  | none => []
  | some newest => points.filter fun p => SysPoint.time newest - windowSec ≤ SysPoint.time p

/-- One more value in the range; there is none before the first. -/
def widen : Option (ℚ × ℚ) → ℚ → Option (ℚ × ℚ)
  | none, v => some (v, v)
  | some (lo, hi), v => some (if v < lo then v else lo, if hi < v then v else hi)

/-- The values of some series at the points, in the order in which they are read. -/
def valuesOf (view : List SysPoint) (keys : List Text) : List ℚ :=
  view.flatMap fun p => keys.filterMap (SysPoint.get p)

/-- `rangeOf` -/
def rangeOf (view : List SysPoint) (keys : List Text) : Option (ℚ × ℚ) :=
  (valuesOf view keys).foldl widen none

structure Scale where
  ymin : ℚ
  span : ℚ

/-- `scaleFor` -/
def scaleFor (view : List SysPoint) (chart : Chart) (key : Text) : Scale :=
  match chart.axes with
  | .dual =>
      match rangeOf view [key] with
      | none => ⟨0, 1⟩
      | some (lo, hi) =>
          let pad := if (hi - lo) * (15 / 100) = 0 then 1 else (hi - lo) * (15 / 100)
          ⟨lo - pad, hi - lo + 2 * pad⟩
  | .single min .auto =>
      let top := match rangeOf view (chart.series.map Series.k) with
        | none => 1
        | some (_, hi) => max 1 (hi * (12 / 10))
      ⟨min, top - min⟩
  | .single min (.at max) => ⟨min, max - min⟩

/-- The place of a point from left to right, `W` wide. -/
def across (n i : ℕ) : ℚ := if n < 2 then 0 else (i : ℚ) / (n - 1 : ℚ) * 300

/-- The place of a value from top to bottom, `H` high. -/
def down (scale : Scale) (v : ℚ) : ℚ :=
  100 - (v - scale.ymin) / (if scale.span = 0 then 1 else scale.span) * 100

/-- A point of a line, in tenths. -/
structure Spot where
  x : ℤ
  y : ℤ
  deriving DecidableEq

/-- What is drawn of the value of a series at a point, if it has one. -/
def spot (view : List SysPoint) (key : Text) (scale : Scale) (i : ℕ) : Option Spot :=
  (view[i]?.bind fun p => SysPoint.get p key).map fun v =>
    ⟨fixed 1 (across view.length i), fixed 1 (down scale v)⟩

/-- `segs`; a line is begun and ended by `Collected.turn`. -/
def segs (view : List SysPoint) (key : Text) (scale : Scale) : List (List Spot) :=
  collect (spot view key scale) view.length

/-- Undervoltage or throttling at the point. -/
def bad (view : List SysPoint) (i : ℕ) : Bool :=
  (view[i]?.bind fun p => SysPoint.get p "thr".toList).any fun thr => bit 0 thr || bit 2 thr

/-- A rectangle over the whole height, from `x` on. -/
structure Band where
  x : ℚ
  width : ℚ
  deriving DecidableEq

/-- Of the points from `a` to the one before `b`; of a single point of all the place is a NaN. -/
def band (n a b : ℕ) : Option Band :=
  if n = 1 then none
  else
    let x₀ := (a : ℚ) / (n - 1 : ℚ) * 300
    let x₁ := ((b - 1 : ℕ) : ℚ) / (n - 1 : ℚ) * 300
    some ⟨x₀, max 1 (x₁ - x₀)⟩

/-- The loop over the bands, which comes to an index behind the last; `Scan.turn` is one turn. -/
def bands (view : List SysPoint) : List (Option Band) :=
  (Runs.scan (bad view) (view.length + 1)).closed.map fun r => band view.length r.1 r.2

/-- The corner labels: what stands at the top and the bottom of an axis. -/
def axis (view : List SysPoint) (chart : Chart) (key : Text) : Text × Text :=
  match rangeOf view [key] with
  | none => ([], [])
  | some _ =>
      let l := scaleFor view chart key
      (axfmt (l.ymin + l.span), axfmt l.ymin)

/-- What stands on a chart. -/
structure Drawing where
  /-- The heights of the horizontal lines. -/
  grid : List ℚ
  bands : List (Option Band) := []
  /-- The lines of the series that are not hidden, with their colours. -/
  lines : List (Text × List Spot) := []
  /-- The labels and the colours of the left and the right axis, if they are written anew. -/
  labels : Option ((Text × Text) × (Text × Text) × Text × Option Text) := none

def Chart.labels (view : List SysPoint) (chart : Chart) :
    Option ((Text × Text) × (Text × Text) × Text × Option Text) :=
  match chart.axes, chart.series with
  | .dual, l :: r :: _ => some (axis view chart l.k, axis view chart r.k, l.c, some r.c)
  | .single _ _, l :: _ => some (axis view chart l.k, ([], []), "#e8e8ea".toList, none)
  | _, _ => none

/-- `draw` -/
def draw (view : List SysPoint) (hidden : Text → Bool) (chart : Chart) : Drawing :=
  let grid : List ℚ := [1, 2, 3].map fun g : ℚ => g * 100 / 4
  if view.isEmpty then { grid }
  else
    { grid
      bands := if chart.bands then bands view else []
      lines := (chart.series.filter fun s => !hidden s.k).flatMap fun s =>
        (segs view s.k (scaleFor view chart s.k)).map fun line => (s.c, line)
      labels := chart.labels view }

/-! ## Places -/

variable {digits n i j : ℕ} {x y v w : ℚ} {view points : List SysPoint} {chart : Chart} {key : Text}
  {scale : Scale} {hidden : Text → Bool}

theorem fixed_of_nonneg (nonneg : 0 ≤ x) : fixed digits x = ⌊x * 10 ^ digits + 1 / 2⌋ :=
  if_neg (not_lt.2 nonneg)

theorem fixed_mono (nonneg : 0 ≤ x) (le : x ≤ y) : fixed digits x ≤ fixed digits y := by
  rw [fixed_of_nonneg nonneg, fixed_of_nonneg (nonneg.trans le)]
  refine Int.floor_mono ?_
  have scaled := mul_le_mul_of_nonneg_right le (show (0 : ℚ) ≤ 10 ^ digits by positivity)
  linarith

/-- Numbers that are a unit of the last digit apart are not written alike. -/
theorem fixed_lt (nonneg : 0 ≤ x) (apart : x * 10 ^ digits + 1 ≤ y * 10 ^ digits) :
    fixed digits x < fixed digits y := by
  have pos : (0 : ℚ) < 10 ^ digits := by positivity
  have le : x ≤ y := le_of_mul_le_mul_right (by linarith) pos
  rw [fixed_of_nonneg nonneg, fixed_of_nonneg (nonneg.trans le), Int.lt_iff_add_one_le,
    Int.le_floor]
  push_cast
  linarith [Int.floor_le (x * 10 ^ digits + 1 / 2)]

theorem fixed_natCast (digits k : ℕ) : fixed digits (k : ℚ) = (k * 10 ^ digits : ℕ) := by
  rw [fixed_of_nonneg (Nat.cast_nonneg k), Int.floor_eq_iff]
  push_cast
  constructor <;> linarith

/-- What lies between the borders is written as a number between theirs. -/
theorem fixed_mem (nonneg : 0 ≤ x) {k : ℕ} (le : x ≤ k) :
    0 ≤ fixed digits x ∧ fixed digits x ≤ (k * 10 ^ digits : ℕ) := by
  constructor
  · have low : fixed digits ((0 : ℕ) : ℚ) ≤ fixed digits x :=
      fixed_mono (Nat.cast_nonneg 0) (by exact_mod_cast nonneg)
    rw [fixed_natCast] at low
    simpa using low
  · rw [← fixed_natCast]
    exact fixed_mono nonneg le

theorem across_eq (le : 2 ≤ n) : across n i = (i : ℚ) / (n - 1 : ℚ) * 300 :=
  if_neg (Nat.not_lt.2 le)

theorem cast_sub_one_pos (le : 2 ≤ n) : (0 : ℚ) < n - 1 := by
  have : (2 : ℚ) ≤ n := by exact_mod_cast le
  linarith

theorem across_mem (lt : i < n) : 0 ≤ across n i ∧ across n i ≤ 300 := by
  rcases Nat.lt_or_ge n 2 with single | several
  · rw [across, if_pos single]
    exact ⟨le_refl 0, by norm_num⟩
  · have pos := cast_sub_one_pos several
    have le : (i : ℚ) + 1 ≤ n := by exact_mod_cast lt
    rw [across_eq several]
    constructor
    · positivity
    · have part : (i : ℚ) / (n - 1 : ℚ) ≤ 1 := (div_le_one pos).2 (by linarith)
      linarith

/-- From one point to the next there is the same distance. -/
theorem across_add (several : 2 ≤ n) (i k : ℕ) :
    across n (i + k) = across n i + k * (300 / (n - 1 : ℚ)) := by
  have pos := cast_sub_one_pos several
  rw [across_eq several, across_eq several]
  push_cast
  field_simp

theorem across_mono (le : i ≤ j) : across n i ≤ across n j := by
  rcases Nat.lt_or_ge n 2 with single | several
  · rw [across, across, if_pos single, if_pos single]
  · obtain ⟨k, rfl⟩ := Nat.exists_eq_add_of_le le
    have pos := cast_sub_one_pos several
    have distance : (0 : ℚ) ≤ k * (300 / (n - 1 : ℚ)) := by positivity
    rw [across_add several]
    linarith

/-- Of up to 3001 points each has its own place. -/
theorem across_apart (lt : i < j) (bound : j < n) (few : n ≤ 3001) :
    across n i * 10 ^ 1 + 1 ≤ across n j * 10 ^ 1 := by
  have several : 2 ≤ n := by omega
  have pos := cast_sub_one_pos several
  obtain ⟨k, rfl⟩ := Nat.exists_eq_add_of_le (Nat.succ_le_of_lt lt)
  have at_most : (n : ℚ) - 1 ≤ 3000 := by
    have : (n : ℚ) ≤ 3001 := by exact_mod_cast few
    linarith
  have distance : (1 / 10 : ℚ) ≤ 300 / (n - 1 : ℚ) := by
    rw [le_div_iff₀ pos]
    linarith
  have further : (0 : ℚ) ≤ k * (300 / (n - 1 : ℚ)) := by positivity
  rw [Nat.succ_eq_add_one, add_assoc, across_add several]
  push_cast
  linarith

theorem down_eq (pos : 0 < scale.span) :
    down scale v = 100 - (v - scale.ymin) / scale.span * 100 := by
  rw [down, if_neg pos.ne']

theorem down_mem (pos : 0 < scale.span) (low : scale.ymin ≤ v)
    (high : v ≤ scale.ymin + scale.span) :
    0 ≤ down scale v ∧ down scale v ≤ 100 := by
  have part : (v - scale.ymin) / scale.span ≤ 1 := (div_le_one pos).2 (by linarith)
  have nonneg : 0 ≤ (v - scale.ymin) / scale.span := div_nonneg (by linarith) pos.le
  rw [down_eq pos]
  constructor <;> linarith

/-- A larger value is drawn higher. -/
theorem down_anti (pos : 0 < scale.span) (le : v ≤ w) : down scale w ≤ down scale v := by
  have parts : (v - scale.ymin) / scale.span ≤ (w - scale.ymin) / scale.span :=
    div_le_div_of_nonneg_right (by linarith) pos.le
  rw [down_eq pos, down_eq pos]
  linarith

/-! ## Scales -/

/-- The range of some values: none of none, else the least and the greatest of them. -/
def RangeOf (values : List ℚ) : Option (ℚ × ℚ) → Prop
  | none => values = []
  | some (lo, hi) => lo ∈ values ∧ hi ∈ values ∧ ∀ v ∈ values, lo ≤ v ∧ v ≤ hi

theorem RangeOf.widen {values : List ℚ} {range : Option (ℚ × ℚ)}
    (of : RangeOf values range) (v : ℚ) :
    RangeOf (values ++ [v]) (widen range v) := by
  have here : v ∈ values ++ [v] := List.mem_append_right _ (List.mem_singleton_self v)
  have there : ∀ w ∈ values, w ∈ values ++ [v] := fun w mem => List.mem_append_left _ mem
  cases range with
  | none =>
      cases of
      refine ⟨here, here, fun w mem => ?_⟩
      rw [List.mem_singleton.1 mem]
      exact ⟨le_refl v, le_refl v⟩
  | some range =>
      obtain ⟨lo_mem, hi_mem, bounds⟩ := of
      refine ⟨?_, ?_, fun w mem => ?_⟩
      · split
        · exact here
        · exact there _ lo_mem
      · split
        · exact here
        · exact there _ hi_mem
      · rcases List.mem_append.1 mem with old | new
        · obtain ⟨low, high⟩ := bounds w old
          constructor <;> split <;> linarith
        · rw [List.mem_singleton.1 new]
          constructor <;> split <;> linarith

theorem rangeOf_spec (view : List SysPoint) (keys : List Text) :
    RangeOf (valuesOf view keys) (rangeOf view keys) := by
  rw [rangeOf]
  induction valuesOf view keys using List.reverseRecOn with
  | nil => rfl
  | append_singleton values v ih =>
      rw [List.foldl_concat]
      exact ih.widen v

theorem mem_valuesOf {keys : List Text} {p : SysPoint} (mem : p ∈ view) (key_mem : key ∈ keys)
    (has : SysPoint.get p key = some v) : v ∈ valuesOf view keys :=
  List.mem_flatMap.2 ⟨p, mem, List.mem_filterMap.2 ⟨key, key_mem, has⟩⟩

/-- A value is within the range of the series that are read. -/
theorem within_rangeOf {keys : List Text} {p : SysPoint} (mem : p ∈ view) (key_mem : key ∈ keys)
    (has : SysPoint.get p key = some v) :
    ∃ lo hi, rangeOf view keys = some (lo, hi) ∧ lo ≤ v ∧ v ≤ hi := by
  have spec := rangeOf_spec view keys
  have value := mem_valuesOf mem key_mem has
  cases range : rangeOf view keys with
  | none =>
      rw [range] at spec
      change valuesOf view keys = [] at spec
      rw [spec] at value
      exact absurd value List.not_mem_nil
  | some bounds =>
      rw [range] at spec
      exact ⟨bounds.1, bounds.2, rfl, spec.2.2 v value⟩

/-- The values that a chart has room for. -/
def Fits (chart : Chart) (v : ℚ) : Prop :=
  match chart.axes with
  | .dual => True
  | .single min .auto => min ≤ v
  | .single min (.at max) => min ≤ v ∧ v ≤ max

/-- The scale of a series has room for each of its values. -/
structure Covers (scale : Scale) (v : ℚ) : Prop where
  pos : 0 < scale.span
  low : scale.ymin ≤ v
  high : v ≤ scale.ymin + scale.span

/-- The bottom of a chart with one axis is below 1, and below the top. -/
def Chart.Upright (chart : Chart) : Prop :=
  match chart.axes with
  | .dual => True
  | .single min .auto => min < 1
  | .single min (.at max) => min < max

theorem upright_of_mem (mem : chart ∈ charts) : chart.Upright := by
  simp only [charts, List.mem_cons, List.not_mem_nil, or_false] at mem
  rcases mem with rfl | rfl | rfl | rfl
  · exact (show (0 : ℚ) < 100 by norm_num)
  · exact (show (0 : ℚ) < 1 by norm_num)
  · trivial
  · trivial

theorem covers_scaleFor (upright : chart.Upright) {p : SysPoint} (mem : p ∈ view)
    (key_mem : key ∈ chart.series.map Series.k) (has : SysPoint.get p key = some v)
    (fits : Fits chart v) : Covers (scaleFor view chart key) v := by
  unfold scaleFor
  unfold Fits at fits
  unfold Chart.Upright at upright
  split
  · obtain ⟨lo, hi, range, low, high⟩ := within_rangeOf mem (List.mem_singleton_self key) has
    rw [range]
    have pad_pos : 0 < if (hi - lo) * (15 / 100) = 0 then 1 else (hi - lo) * (15 / 100) := by
      split
      · exact one_pos
      next wide => exact lt_of_le_of_ne (mul_nonneg (by linarith) (by norm_num)) (Ne.symm wide)
    constructor <;> dsimp only <;> linarith
  next min axes =>
    rw [axes] at fits upright
    obtain ⟨lo, hi, range, -, high⟩ := within_rangeOf mem key_mem has
    rw [range]
    have one : (1 : ℚ) ≤ max 1 (hi * (12 / 10)) := le_max_left _ _
    have top : v ≤ max 1 (hi * (12 / 10)) := by
      rcases le_total v 1 with small | large
      · exact small.trans one
      · exact le_trans (by linarith) (le_max_right _ _)
    constructor <;> dsimp only at * <;> linarith
  next min max axes =>
    rw [axes] at fits upright
    obtain ⟨low, high⟩ := fits
    constructor <;> dsimp only at * <;> linarith

/-! ## The view -/

/-- The selected time takes the newest of the points. -/
theorem computeView_suffix (ascending : points.Pairwise fun p q =>
      SysPoint.time p < SysPoint.time q)
    (windowSec : ℤ) : computeView points windowSec <:+ points := by
  unfold computeView
  split
  · exact List.nil_suffix
  next newest last => exact filter_ge_suffix SysPoint.time ascending _

theorem mem_computeView {newest p : SysPoint} (last : points.getLast? = some newest)
    (windowSec : ℤ) :
    p ∈ computeView points windowSec ↔
      p ∈ points ∧ SysPoint.time newest - windowSec ≤ SysPoint.time p := by
  unfold computeView
  rw [last]
  exact List.mem_filter.trans (and_congr_right fun _ => decide_eq_true_iff)

/-- The panel's points are in the order of their times. -/
theorem ascending_of_run {maxlen : ℕ} {ops : List SysOp} {f : SysFeed}
    (ascending : (ops.filterMap SysOp.sampled).Pairwise fun a b => a.t < b.t)
    (ran : run (SysFeed.step maxlen) {} ops = some f) :
    f.panel.points.Pairwise fun p q => SysPoint.time p < SysPoint.time q := by
  obtain ⟨seen, before, shown, -⟩ := (mirrors_of_run ascending ran).shown
  have sublist : (lastN maxlen seen).Sublist (ops.filterMap SysOp.sampled) :=
    (List.drop_sublist _ _).trans before.sublist
  rw [shown, window, List.pairwise_map]
  refine (ascending.sublist sublist).imp fun {a b} lt => ?_
  rw [Sample.time_point, Sample.time_point]
  exact_mod_cast lt

/-! ## What is drawn -/

/-- The value of a series at a point. -/
def value (view : List SysPoint) (key : Text) (i : ℕ) : Option ℚ :=
  view[i]?.bind fun p => SysPoint.get p key

theorem spot_eq : spot view key scale i = (value view key i).map fun v =>
    ⟨fixed 1 (across view.length i), fixed 1 (down scale v)⟩ := rfl

theorem value_mem (has : value view key i = some v) :
    ∃ p ∈ view, SysPoint.get p key = some v ∧ i < view.length := by
  obtain ⟨p, there, same⟩ := Option.bind_eq_some_iff.1 has
  exact ⟨p, List.mem_of_getElem? there, same, (List.getElem?_eq_some_iff.1 there).1⟩

/-- A band reaches from the first of its points to the last, and begins within the box. -/
structure Reaches (n a b : ℕ) (rect : Band) : Prop where
  begins : rect.x = across n a
  inside : 0 ≤ rect.x ∧ rect.x ≤ 300
  spans : ∀ i, a ≤ i → i < b → rect.x ≤ across n i ∧ across n i ≤ rect.x + rect.width
  ends : 1 ≤ rect.width ∧ (1 < rect.width → rect.x + rect.width = across n (b - 1))

theorem band_reaches (several : 2 ≤ n) {a b : ℕ} (nonempty : a < b) (le : b ≤ n) :
    ∃ rect, band n a b = some rect ∧ Reaches n a b rect := by
  have first : (a : ℚ) / (n - 1 : ℚ) * 300 = across n a := (across_eq several).symm
  have last : ((b - 1 : ℕ) : ℚ) / (n - 1 : ℚ) * 300 = across n (b - 1) := (across_eq several).symm
  refine ⟨⟨across n a, max 1 (across n (b - 1) - across n a)⟩, ?_, rfl, ?_,
    fun i from_a to_b => ?_, ?_⟩
  · rw [band, if_neg (by omega), first, last]
  · exact across_mem (by omega)
  · have wide := le_max_right 1 (across n (b - 1) - across n a)
    have right : across n i ≤ across n (b - 1) := across_mono (by omega)
    refine ⟨across_mono from_a, ?_⟩
    dsimp only
    linarith
  · refine ⟨le_max_left _ _, fun wide => ?_⟩
    dsimp only at wide ⊢
    rcases max_choice 1 (across n (b - 1) - across n a) with narrow | exact_width
    · rw [narrow] at wide
      exact absurd wide (lt_irrefl 1)
    · rw [exact_width]
      linarith

/-- The labels of an axis, at its top and at its bottom: empty where its series has no value, and
else the texts of the ends of a scale that encloses the values of every series it is for. -/
structure Labels (view : List SysPoint) (chart : Chart) (key : Text) (keys : List Text)
    (label : Text × Text) : Prop where
  blank : (∀ i, value view key i = none) → label = ([], [])
  ends : ∀ i v, value view key i = some v → ∃ bottom top, label = (axfmt top, axfmt bottom) ∧
    ∀ k ∈ keys, ∀ j w, value view k j = some w → Fits chart w → bottom ≤ w ∧ w ≤ top

/-- What stands on a chart of the points. -/
structure Drawn (view : List SysPoint) (hidden : Text → Bool) (chart : Chart) : Prop where
  lines : (draw view hidden chart).lines =
    (chart.series.filter fun s => !hidden s.k).flatMap fun s =>
    (runs (fun i => (value view s.k i).isSome) view.length).map fun r =>
      (s.c, between (spot view s.k (scaleFor view chart s.k)) r.1 r.2)
  lineRuns : ∀ s ∈ chart.series, Lists (fun i => (value view s.k i).isSome) view.length
    (runs (fun i => (value view s.k i).isSome) view.length)
  inside : ∀ s ∈ chart.series, ∀ i v, value view s.k i = some v → Fits chart v →
    ∃ spot₁, spot view s.k (scaleFor view chart s.k) i = some spot₁ ∧
      (0 ≤ spot₁.x ∧ spot₁.x ≤ 3000) ∧ 0 ≤ spot₁.y ∧ spot₁.y ≤ 1000
  rightward : ∀ s ∈ chart.series, ∀ i j spot₁ spot₂, i < j →
    spot view s.k (scaleFor view chart s.k) i = some spot₁ →
    spot view s.k (scaleFor view chart s.k) j = some spot₂ →
    spot₁.x ≤ spot₂.x ∧ (view.length ≤ 3001 → spot₁.x < spot₂.x)
  upward : ∀ s ∈ chart.series, ∀ i j v w spot₁ spot₂, value view s.k i = some v →
    value view s.k j = some w → v ≤ w → Fits chart v → Fits chart w →
    spot view s.k (scaleFor view chart s.k) i = some spot₁ →
    spot view s.k (scaleFor view chart s.k) j = some spot₂ → spot₂.y ≤ spot₁.y
  bands : (draw view hidden chart).bands =
    if chart.bands then (runs (bad view) view.length).map fun r => band view.length r.1 r.2 else []
  bandRuns : Lists (bad view) view.length (runs (bad view) view.length)
  labelled : view ≠ [] → ∃ l r left right lc rc, chart.series = [l, r] ∧
    (draw view hidden chart).labels = some (left, right, lc, rc) ∧
    (chart.axes = .dual → Labels view chart l.k [l.k] left ∧ Labels view chart r.k [r.k] right ∧
      lc = l.c ∧ rc = some r.c) ∧
    (chart.axes ≠ .dual → Labels view chart l.k [l.k, r.k] left ∧ right = ([], []) ∧ rc = none)
  reaches : 2 ≤ view.length → ∀ a b, (a, b) ∈ runs (bad view) view.length →
    ∃ rect, band view.length a b = some rect ∧ Reaches view.length a b rect

/-- A run of points without an alert behind the last point does not begin. -/
theorem bad_length (view : List SysPoint) : bad view view.length = false := by
  rw [bad, List.getElem?_eq_none (Nat.le_refl _)]
  rfl

theorem isSome_spot : (spot view key scale i).isSome = (value view key i).isSome := by
  rw [spot_eq, Option.isSome_map]

theorem lines_draw (view : List SysPoint) (hidden : Text → Bool) (chart : Chart) :
    (draw view hidden chart).lines = (chart.series.filter fun s => !hidden s.k).flatMap fun s =>
      (runs (fun i => (value view s.k i).isSome) view.length).map fun r =>
        (s.c, between (spot view s.k (scaleFor view chart s.k)) r.1 r.2) := by
  have each : ∀ s : Series, (segs view s.k (scaleFor view chart s.k)).map
    (fun line => (s.c, line)) =
      (runs (fun i => (value view s.k i).isSome) view.length).map fun r =>
        (s.c, between (spot view s.k (scaleFor view chart s.k)) r.1 r.2) := by
    intro s
    rw [segs, collect_eq_map_runs, List.map_map]
    simp only [isSome_spot]
    rfl
  cases empty : view.isEmpty with
  | true =>
      rw [List.isEmpty_iff.1 empty]
      exact (List.flatMap_eq_nil_iff.2 fun s _ => rfl).symm
  | false =>
      rw [draw, empty]
      simp only [Bool.false_eq_true, if_false, each]

theorem bands_draw (view : List SysPoint) (hidden : Text → Bool) (chart : Chart) :
    (draw view hidden chart).bands =
      if chart.bands then (runs (bad view) view.length).map fun r => band view.length r.1 r.2
      else [] := by
  cases empty : view.isEmpty with
  | true =>
      rw [List.isEmpty_iff.1 empty]
      cases chart.bands <;> rfl
  | false =>
      rw [draw, empty]
      simp only [Bool.false_eq_true, if_false, bands, closed_scan_succ (bad_length view)]

theorem axis_of_value {p : SysPoint} (mem : p ∈ view) (has : SysPoint.get p key = some v) :
    axis view chart key = (axfmt ((scaleFor view chart key).ymin + (scaleFor view chart key).span),
      axfmt (scaleFor view chart key).ymin) := by
  obtain ⟨lo, hi, range, -⟩ := within_rangeOf mem (List.mem_singleton_self key) has
  rw [axis, range]

theorem axis_blank (without : ∀ i, value view key i = none) : axis view chart key = ([], []) := by
  have spec := rangeOf_spec view [key]
  rw [axis]
  cases range : rangeOf view [key] with
  | none => rfl
  | some bounds =>
      rw [range] at spec
      obtain ⟨p, mem, has⟩ := List.mem_flatMap.1 spec.1
      obtain ⟨same, one, has⟩ := List.mem_filterMap.1 has
      rw [List.mem_singleton.1 one] at has
      obtain ⟨i, there⟩ := List.getElem?_of_mem mem
      have here := without i
      rw [value, there, Option.bind_some, has] at here
      exact (nomatch here)

/-- A chart with one axis has one scale. -/
theorem scaleFor_single (single : chart.axes ≠ .dual) (key key' : Text) :
    scaleFor view chart key = scaleFor view chart key' := by
  unfold scaleFor
  split
  next dual => exact absurd dual single
  · rfl
  · rfl

theorem labels_axis (upright : chart.Upright) {keys : List Text}
    (here : ∀ k ∈ keys, k ∈ chart.series.map Series.k)
    (shared : ∀ k ∈ keys, scaleFor view chart k = scaleFor view chart key) :
    Labels view chart key keys (axis view chart key) where
  blank without := axis_blank without
  ends i v has := by
    obtain ⟨p, p_mem, same, -⟩ := value_mem has
    refine ⟨_, _, axis_of_value p_mem same, fun k k_mem j w has' fits => ?_⟩
    obtain ⟨p', p_mem', same', -⟩ := value_mem has'
    have covers := covers_scaleFor upright p_mem' (here k k_mem) same' fits
    rw [shared k k_mem] at covers
    exact ⟨covers.low, covers.high⟩

theorem labels_draw (nonempty : view ≠ []) :
    (draw view hidden chart).labels = chart.labels view := by
  rw [draw, List.isEmpty_eq_false_iff.2 nonempty]
  rfl

/-- A chart of two series, on an axis for each or on one for both. -/
theorem labelled_of_series {l r : Series} (upright : chart.Upright) (series : chart.series = [l, r])
    (nonempty : view ≠ []) : ∃ left right lc rc,
      (draw view hidden chart).labels = some (left, right, lc, rc) ∧
      (chart.axes = .dual → Labels view chart l.k [l.k] left ∧ Labels view chart r.k [r.k] right ∧
        lc = l.c ∧ rc = some r.c) ∧
      (chart.axes ≠ .dual → Labels view chart l.k [l.k, r.k] left ∧ right = ([], []) ∧
        rc = none) := by
  have own : ∀ s ∈ chart.series, Labels view chart s.k [s.k] (axis view chart s.k) := fun s mem =>
    labels_axis upright
      (fun k only => by rw [List.mem_singleton.1 only]; exact List.mem_map_of_mem mem)
      (fun k only => by rw [List.mem_singleton.1 only])
  have first : l ∈ chart.series := by rw [series]; exact List.mem_cons_self
  have second : r ∈ chart.series := by rw [series]; exact List.mem_cons_of_mem _ List.mem_cons_self
  rw [labels_draw nonempty, Chart.labels]
  cases axes : chart.axes with
  | dual =>
      rw [series]
      exact ⟨_, _, _, _, rfl, fun _ => ⟨own l first, own r second, rfl, rfl⟩,
        fun single => absurd rfl single⟩
  | single min max =>
      have both : Labels view chart l.k [l.k, r.k] (axis view chart l.k) := by
        refine labels_axis upright (fun k mem => ?_) fun k _ =>
          scaleFor_single (by rw [axes]; exact nofun) k l.k
        rw [series]
        exact mem
      rw [series]
      exact ⟨_, _, _, _, rfl, fun dual => (nomatch dual), fun _ => ⟨both, rfl, rfl⟩⟩

theorem series_of_mem (mem : chart ∈ charts) : ∃ l r, chart.series = [l, r] := by
  simp only [charts, List.mem_cons, List.not_mem_nil, or_false] at mem
  rcases mem with rfl | rfl | rfl | rfl <;> exact ⟨_, _, rfl⟩

theorem drawn (mem : chart ∈ charts) (view : List SysPoint) (hidden : Text → Bool) :
    Drawn view hidden chart where
  lines := lines_draw view hidden chart
  lineRuns s _ := lists_runs (fun i => (value view s.k i).isSome) view.length
  inside s series i v has fits := by
    obtain ⟨p, p_mem, same, lt⟩ := value_mem has
    have covers := covers_scaleFor (upright_of_mem mem) p_mem (List.mem_map_of_mem series) same fits
    obtain ⟨left, right⟩ := across_mem lt
    obtain ⟨low, high⟩ := down_mem covers.pos covers.low covers.high
    refine ⟨_, by rw [spot_eq, has]; rfl, ?_, ?_⟩
    · exact fixed_mem left (k := 300) (by exact_mod_cast right)
    · exact fixed_mem low (k := 100) (by exact_mod_cast high)
  rightward s series i j spot₁ spot₂ lt first second := by
    rw [spot_eq] at first second
    obtain ⟨v, has, rfl⟩ := Option.map_eq_some_iff.1 first
    obtain ⟨w, has', rfl⟩ := Option.map_eq_some_iff.1 second
    obtain ⟨-, -, -, bound⟩ := value_mem has
    obtain ⟨-, -, -, bound'⟩ := value_mem has'
    have left := (across_mem bound).1
    exact ⟨fixed_mono left (across_mono (Nat.le_of_lt lt)),
      fun few => fixed_lt left (across_apart lt bound' few)⟩
  upward s series i j v w spot₁ spot₂ has has' le fits fits' first second := by
    obtain ⟨p, p_mem, same, -⟩ := value_mem has
    obtain ⟨p', p_mem', same', -⟩ := value_mem has'
    have upright := upright_of_mem mem
    have covers := covers_scaleFor upright p_mem (List.mem_map_of_mem series) same fits
    have covers' := covers_scaleFor upright p_mem' (List.mem_map_of_mem series) same' fits'
    rw [spot_eq, has] at first
    rw [spot_eq, has'] at second
    cases first
    cases second
    exact fixed_mono (down_mem covers'.pos covers'.low covers'.high).1 (down_anti covers.pos le)
  bands := bands_draw view hidden chart
  bandRuns := lists_runs (bad view) view.length
  labelled nonempty := by
    obtain ⟨l, r, series⟩ := series_of_mem mem
    obtain ⟨left, right, lc, rc, labels⟩ := labelled_of_series (upright_of_mem mem) series nonempty
    exact ⟨l, r, left, right, lc, rc, series, labels⟩
  reaches several a b mem := by
    have maximal := mem_runs.1 mem
    exact band_reaches several maximal.nonempty maximal.below

/-- With samples in the order of their times: the charts show the points of the selected time,
which are the panel's newest, each series as one line for each maximal run of its values, in their
order and within the box, the ends of the scales, and a band for each maximal run of alerts. -/
theorem drawn_of_run {maxlen : ℕ} {ops : List SysOp} {f : SysFeed}
    (ascending : (ops.filterMap SysOp.sampled).Pairwise fun a b => a.t < b.t)
    (ran : run (SysFeed.step maxlen) {} ops = some f) (mem : chart ∈ charts) (windowSec : ℤ)
    (hidden : Text → Bool) :
    computeView f.panel.points windowSec <:+ f.panel.points ∧
      (∀ newest p, f.panel.points.getLast? = some newest →
        (p ∈ computeView f.panel.points windowSec ↔
          p ∈ f.panel.points ∧ SysPoint.time newest - windowSec ≤ SysPoint.time p)) ∧
      Drawn (computeView f.panel.points windowSec) hidden chart :=
  ⟨computeView_suffix (ascending_of_run ascending ran) windowSec,
    fun _ _ last => mem_computeView last windowSec, drawn mem _ hidden⟩

/-- The vitals after two polls, with the voltage hidden. -/
theorem overrun_drawn :
    ∃ f, run (SysFeed.step 2) {} overrun = some f ∧
      Drawn (computeView f.panel.points 300) (· = "volt".toList) vitals := by
  have runs : (run (SysFeed.step 2) {} overrun).isSome = true := by decide
  obtain ⟨f, ran⟩ := Option.isSome_iff_exists.1 runs
  have mem : vitals ∈ charts :=
    List.mem_cons_of_mem _ (List.mem_cons_of_mem _ List.mem_cons_self)
  exact ⟨f, ran, (drawn_of_run (by decide) ran mem 300 _).2.2⟩

/-- An alert in the newest point alone has its band behind the box; of a single point it has no
place. -/
example : bands [(sampleAt 1).point, { sampleAt 2 with thr := some 5 }.point] = [some ⟨300, 1⟩] ∧
    bands [{ sampleAt 2 with thr := some 5 }.point] = [none] := by decide +kernel

end GeneratorPi.Charts
