import GeneratorPi.Decision
import GeneratorPi.Lib.PaddedOrder
import GeneratorPi.Lib.PyText
import Mathlib.Data.Int.Order.Basic
import Mathlib.Data.List.Dedup
import Mathlib.Data.List.Sort
import Mathlib.Tactic.Tauto

/-!
# The CLI-only gate of the updater

`_run_update` (`genpi/updater.py`) refuses a web apply that would cross a release listed in the
manifest's `incompatible_versions`: it parks with proceed disallowed before anything is downloaded.
The decision compares tuples of integers, which is the numeric order of versions except on ties, and
reads a leading `v` of the installed or the manifest version as part of the first component.

For versions spelled as dotted numbers, `parksBeforeDownload_iff` says on which inputs the run is
parked exactly when a gate lies in the range (installed, manifest].
-/

namespace GeneratorPi

open PyText PaddedOrder

/-! ## Reading versions -/

/-- `_version_tuple`: a part that is no integer degrades to 0. -/
def versionTuple (v : Text) : List ℤ :=
  (v.splitOn '.').map fun part => (int? intMaxStrDigits part).getD 0

def versionChar (c : Char) : Bool :=
  ('A' ≤ c && c ≤ 'Z') || ('a' ≤ c && c ≤ 'z') || c.isDigit || c ∈ ['.', '+', '_', '-']

/-- `_VERSION_RE.match`, whose `$` also matches before a final newline. -/
def validVersion (v : Text) : Bool :=
  let body := if v.getLast? = some '\n' then v.dropLast else v
  1 ≤ body.length && body.length ≤ 64 && body.all versionChar

/-- The shapes of the manifest's `incompatible_versions`, over the type of its keys. -/
inductive Incompatible (κ : Type) where
  | text (gate : κ)
  | list (gates : List κ)
  | dict (reasons : List (κ × Text))
  | other

/-- The map from a gate to its reason that the shapes are brought to. -/
def Incompatible.reasons {κ : Type} : Incompatible κ → List (κ × Text)
  | .text gate => [(gate, [])]
  | .list gates => gates.map (·, [])
  | .dict reasons => reasons
  | .other => []

def Incompatible.gates {κ : Type} (i : Incompatible κ) : List κ := i.reasons.map Prod.fst

def Incompatible.map {κ ι : Type} (f : κ → ι) : Incompatible κ → Incompatible ι
  | .text gate => .text (f gate)
  | .list gates => .list (gates.map f)
  | .dict reasons => .dict (reasons.map (Prod.map f id))
  | .other => .other

@[simp] theorem Incompatible.gates_map {κ ι : Type} (f : κ → ι) (i : Incompatible κ) :
    (i.map f).gates = i.gates.map f := by
  cases i <;> simp [map, gates, reasons]

/-- `_gate_ver`: a gate may be tagged `v` or `V`. -/
def gateVer (g : Text) : Text :=
  match strip g with
  | c :: rest => if c = 'v' ∨ c = 'V' then rest else c :: rest
  | [] => []

/-- A gate strictly above the installed version and at or below the manifest's. -/
def blocks (installed version g : Text) : Prop :=
  gateVer g ≠ [] ∧ versionTuple installed < versionTuple (gateVer g) ∧
    versionTuple (gateVer g) ≤ versionTuple version

instance (installed version g : Text) : Decidable (blocks installed version g) :=
  inferInstanceAs (Decidable (_ ∧ _))

/-- `_blocking`: the gates that block, normalised and sorted by version. -/
def blocking (installed version : Text) (incompatible : Incompatible Text) : List Text :=
  ((incompatible.gates.filter (blocks installed version ·)).map gateVer).dedup.insertionSort
    (versionTuple · ≤ versionTuple ·)

theorem mem_blocking {installed version : Text} {incompatible : Incompatible Text} {g : Text} :
    g ∈ blocking installed version incompatible ↔
      ∃ gate ∈ incompatible.gates, blocks installed version gate ∧ gateVer gate = g := by
  simp [blocking, and_assoc]

/-- `_notes`: the reason of the highest blocking gate, unless it is blank. -/
def importantNotes (installed version : Text) (incompatible : Incompatible Text) : List Text :=
  match (blocking installed version incompatible).getLast? with
  | none => []
  | some top =>
      match incompatible.reasons.reverse.find? (gateVer ·.1 = top) with
      | none => []
      | some (_, reason) => if strip reason = [] then [] else [strip reason]

/-! ## The run up to the download -/

/-- What the other steps before the download raise, if anything. -/
structure Checks where
  /-- Fetching and decoding the manifest. -/
  fetch : Option String := none
  /-- `_validate_manifest_paths`. -/
  paths : Option String := none
  /-- `_preflight_check`. -/
  preflight : Option String := none
  /-- `check_manifest_dependencies`. -/
  dependencies : Option String := none
  deriving DecidableEq

def Checks.Pass (c : Checks) : Prop :=
  c.fetch = none ∧ c.paths = none ∧ c.preflight = none ∧ c.dependencies = none

instance (c : Checks) : Decidable c.Pass := inferInstanceAs (Decidable (_ ∧ _))

/-- Where the run first stands still, or that it starts to download. -/
inductive Reached where
  | parked (prompt : Prompt) (importantNotes : List Text)
  | downloading
  deriving DecidableEq

/-- Parked on a prompt that refuses proceed. -/
def Reached.Refusing : Reached → Prop
  | .parked prompt _ => prompt.allowProceed = false
  | .downloading => False

/-- The prompt of the error handler. -/
def failedPrompt (cause : String) : Prompt :=
  { message := "Update failed: " ++ cause, allowProceed := false }

def gatePrompt (version : Text) : Prompt :=
  { message := "v" ++ String.ofList version ++ " cannot be installed by the web updater."
    allowProceed := false
    proceedLabel := "UPDATE"
    proceedDisabled := true }

theorem refusing_failedPrompt (cause : String) (notes : List Text) :
    (Reached.parked (failedPrompt cause) notes).Refusing := rfl

theorem refusing_gatePrompt (version : Text) (notes : List Text) :
    (Reached.parked (gatePrompt version) notes).Refusing := rfl

/-- `manifest.get("version") or "?"`. -/
def releaseVersion (manifestVersion : Text) : Text :=
  if manifestVersion = [] then ['?'] else manifestVersion

/-- `_run_update` from its start to `_download_and_verify`. -/
def runToDownload (checks : Checks) (installed manifestVersion : Text)
    (incompatible : Incompatible Text) : Reached :=
  let version := releaseVersion manifestVersion
  match checks.fetch with
  | some cause => .parked (failedPrompt cause) []
  | none =>
    match checks.paths with
    | some cause => .parked (failedPrompt cause) []
    | none =>
      if ¬ validVersion version then
        .parked (failedPrompt ("unsafe manifest version: '" ++ String.ofList version ++ "'")) []
      else if blocking installed version incompatible ≠ [] then
        .parked (gatePrompt version) (importantNotes installed version incompatible)
      else
        match checks.preflight with
        | some cause => .parked (failedPrompt cause) []
        | none =>
          match checks.dependencies with
          | some cause => .parked (failedPrompt cause) []
          | none => .downloading

/-- The run parks with proceed refused unless every check passes and no gate blocks. -/
theorem refusing_runToDownload {checks : Checks} {installed version : Text}
    {incompatible : Incompatible Text} (spelled : version ≠ []) :
    (runToDownload checks installed version incompatible).Refusing ↔
      (checks.Pass → validVersion version →
        ∃ gate ∈ incompatible.gates, blocks installed version gate) := by
  have blocked : blocking installed version incompatible ≠ [] ↔
      ∃ gate ∈ incompatible.gates, blocks installed version gate := by
    simp [List.eq_nil_iff_forall_not_mem, mem_blocking]
  rw [← blocked]
  simp only [runToDownload, releaseVersion, if_neg spelled]
  split
  case h_1 raised => exact iff_of_true (refusing_failedPrompt _ _) (by simp [Checks.Pass, raised])
  split
  case h_1 raised => exact iff_of_true (refusing_failedPrompt _ _) (by simp [Checks.Pass, raised])
  split
  case isTrue invalid => exact iff_of_true (refusing_failedPrompt _ _) (by simp [invalid])
  split
  case isTrue crossing => exact iff_of_true (refusing_gatePrompt _ _) (by simp [crossing])
  split
  case h_1 raised => exact iff_of_true (refusing_failedPrompt _ _) (by simp [Checks.Pass, raised])
  split
  case h_1 raised => exact iff_of_true (refusing_failedPrompt _ _) (by simp [Checks.Pass, raised])
  simp_all [Reached.Refusing, Checks.Pass]

/-! ## Dotted versions -/

/-- A version spelled as dotted numbers, perhaps tagged with a leading `v`. -/
structure DottedVersion where
  tagged : Bool := false
  parts : List Text
  nonempty : parts ≠ [] := by simp
  allDigits : (parts.all fun p => !p.isEmpty && p.all Char.isDigit) = true := by rfl
  deriving DecidableEq

namespace DottedVersion

theorem digits (v : DottedVersion) {p : Text} (h : p ∈ v.parts) :
    p ≠ [] ∧ ∀ c ∈ p, c.isDigit := by
  simpa using List.all_eq_true.mp v.allDigits p h

def text (v : DottedVersion) : Text :=
  (if v.tagged then ['v'] else []) ++ ['.'].intercalate v.parts

def components (v : DottedVersion) : ℕ := v.parts.length

/-- The numbers the version is made of. -/
def value (v : DottedVersion) : List ℤ := v.parts.map fun p => (Nat.ofDigitChars 10 p 0 : ℤ)

/-- The number a part is read as. -/
def readPart (p : Text) : ℤ :=
  if p.length ≤ intMaxStrDigits then (Nat.ofDigitChars 10 p 0 : ℤ) else 0

/-- The numbers a gate is read as, its tag removed. -/
def readGate (v : DottedVersion) : List ℤ := v.parts.map readPart

/-- The numbers the installed and the manifest version are read as: a tag spoils the first. -/
def read (v : DottedVersion) : List ℤ :=
  if v.tagged then 0 :: v.readGate.tail else v.readGate

/-- `installed < gate ≤ manifest`, component by component, missing components counted as 0. -/
def InRange (installed manifest gate : DottedVersion) : Prop :=
  PadLt 0 installed.value gate.value ∧ PadLe 0 gate.value manifest.value

instance (i m g : DottedVersion) : Decidable (InRange i m g) :=
  inferInstanceAs (Decidable (_ ∧ _))

/-- The range as it is read: of two versions with the same numbers the one with fewer components
comes first. -/
def ReadInRange (i m g : DottedVersion) : Prop :=
  (PadLt 0 i.read g.readGate ∨ PadEq 0 i.read g.readGate ∧ i.components < g.components) ∧
    (PadLt 0 g.readGate m.read ∨ PadEq 0 g.readGate m.read ∧ g.components ≤ m.components)

instance (i m g : DottedVersion) : Decidable (ReadInRange i m g) :=
  inferInstanceAs (Decidable (_ ∧ _))

/-! ### The code reads them so -/

theorem splitOn_text (v : DottedVersion) :
    v.text.splitOn '.' =
      if v.tagged then ('v' :: v.parts.head v.nonempty) :: v.parts.tail else v.parts := by
  have noDot : ∀ p ∈ v.parts, '.' ∉ p := fun p hp mem =>
    absurd ((v.digits hp).2 '.' mem) (by decide)
  rcases v with ⟨tagged, _ | ⟨p, ps⟩, nonempty, allDigits⟩
  · exact absurd rfl nonempty
  cases tagged with
  | false => exact List.splitOn_intercalate '.' noDot nonempty
  | true =>
      have tag : text ⟨true, p :: ps, nonempty, allDigits⟩ =
          ['.'].intercalate (('v' :: p) :: ps) := by
        cases ps <;> simp [text, List.intercalate_cons_cons]
      rw [tag]
      refine List.splitOn_intercalate '.' ?_ (by simp)
      intro q hq
      rcases List.mem_cons.mp hq with rfl | hq
      · simpa using noDot p List.mem_cons_self
      · exact noDot q (List.mem_cons_of_mem _ hq)

theorem int?_part (v : DottedVersion) {p : Text} (h : p ∈ v.parts) :
    (int? intMaxStrDigits p).getD 0 = readPart p := by
  obtain ⟨some_digit, digits⟩ := v.digits h
  rw [int?_of_digits some_digit digits, readPart]
  split <;> rfl

theorem versionTuple_text (v : DottedVersion) : versionTuple v.text = v.read := by
  rw [versionTuple, splitOn_text, read]
  split
  · have head := int?_cons_v intMaxStrDigits (v.digits (List.head_mem v.nonempty)).2
    rw [List.map_cons, head, readGate, ← List.map_tail]
    refine congrArg (_ :: ·) (List.map_congr_left fun p hp => ?_)
    exact v.int?_part (List.mem_of_mem_tail hp)
  · exact List.map_congr_left fun p hp => v.int?_part hp

theorem mem_intercalate_dot {c : Char} {ps : List Text} (h : c ∈ ['.'].intercalate ps) :
    c = '.' ∨ ∃ p ∈ ps, c ∈ p := by
  induction ps with
  | nil => simp at h
  | cons p ps ih =>
      cases ps with
      | nil => exact Or.inr ⟨p, by simp, by simpa using h⟩
      | cons q qs =>
          rw [List.intercalate_cons_cons] at h
          simp only [List.mem_append, List.mem_singleton] at h
          rcases h with (here | dot) | later
          · exact Or.inr ⟨p, by simp, here⟩
          · exact Or.inl dot
          · rcases ih later with dot | ⟨r, hr, mem⟩
            · exact Or.inl dot
            · exact Or.inr ⟨r, List.mem_cons_of_mem _ hr, mem⟩

theorem mem_text {v : DottedVersion} {c : Char} (h : c ∈ v.text) :
    c = 'v' ∨ c = '.' ∨ c.isDigit := by
  rcases List.mem_append.mp h with tag | number
  · split at tag
    · exact Or.inl (by simpa using tag)
    · simp at tag
  · rcases mem_intercalate_dot number with dot | ⟨p, hp, mem⟩
    · exact Or.inr (Or.inl dot)
    · exact Or.inr (Or.inr ((v.digits hp).2 c mem))

/-- An untagged version starts with a digit. -/
theorem exists_digit_cons (v : DottedVersion) :
    ∃ c rest, c.isDigit ∧ ['.'].intercalate v.parts = c :: rest := by
  have digitsOf := @v.digits
  rcases v with ⟨tagged, _ | ⟨p, ps⟩, nonempty, allDigits⟩
  · exact absurd rfl nonempty
  obtain ⟨some_digit, all_digits⟩ := digitsOf List.mem_cons_self
  obtain ⟨c, rest, rfl⟩ := List.exists_cons_of_ne_nil some_digit
  have digit := all_digits c List.mem_cons_self
  cases ps with
  | nil => exact ⟨c, rest, digit, by simp⟩
  | cons q qs => exact ⟨c, _, digit, by rw [List.intercalate_cons_cons]; rfl⟩

theorem text_ne_nil (v : DottedVersion) : v.text ≠ [] := by
  obtain ⟨c, rest, -, spelled⟩ := v.exists_digit_cons
  simp [text, spelled]

/-- A version without its tag. -/
def untagged (v : DottedVersion) : DottedVersion := { v with tagged := false }

theorem strip_text (v : DottedVersion) : strip v.text = v.text := by
  refine strip_eq_self fun c hc => ?_
  rcases mem_text hc with rfl | rfl | digit
  · decide
  · decide
  · exact isSpace_of_isDigit digit

theorem gateVer_text (v : DottedVersion) : gateVer v.text = v.untagged.text := by
  obtain ⟨c, rest, digit, spelled⟩ := v.exists_digit_cons
  rw [gateVer, strip_text]
  cases tag : v.tagged with
  | true => simp [text, untagged, tag]
  | false =>
      have first : c ≠ 'v' ∧ c ≠ 'V' := by
        constructor <;> rintro rfl <;> exact absurd digit (by decide)
      simp [text, untagged, tag, spelled, first]

theorem versionTuple_gateVer_text (v : DottedVersion) :
    versionTuple (gateVer v.text) = v.readGate := by
  rw [gateVer_text, versionTuple_text]
  rfl

theorem validVersion_text (v : DottedVersion) : validVersion v.text ↔ v.text.length ≤ 64 := by
  have noNewline : v.text.getLast? ≠ some '\n' := by
    intro last
    rcases mem_text (List.mem_of_mem_getLast? last) with h | h | h
    · exact absurd h (by decide)
    · exact absurd h (by decide)
    · exact absurd h (by decide)
  have chars : v.text.all versionChar := by
    refine List.all_eq_true.mpr fun c hc => ?_
    rcases mem_text hc with rfl | rfl | digit
    · decide
    · decide
    · simp [versionChar, digit]
  have some_char : 1 ≤ v.text.length := List.length_pos_iff.mpr v.text_ne_nil
  simp [validVersion, noNewline, chars, some_char]

theorem readPart_nonneg (p : Text) : 0 ≤ readPart p := by
  rw [readPart]
  split
  · exact Int.natCast_nonneg _
  · exact le_rfl

theorem readGate_nonneg (v : DottedVersion) : ∀ x ∈ v.readGate, 0 ≤ x := by
  intro x hx
  obtain ⟨p, -, rfl⟩ := List.mem_map.mp hx
  exact readPart_nonneg p

theorem read_nonneg (v : DottedVersion) : ∀ x ∈ v.read, 0 ≤ x := by
  rw [read]
  split
  · intro x hx
    rcases List.mem_cons.mp hx with rfl | later
    · exact le_rfl
    · exact v.readGate_nonneg x (List.mem_of_mem_tail later)
  · exact v.readGate_nonneg

@[simp] theorem length_readGate (v : DottedVersion) : v.readGate.length = v.components := by
  simp [readGate, components]

@[simp] theorem length_read (v : DottedVersion) : v.read.length = v.components := by
  rw [read]
  split
  · have pos : 0 < v.components := List.length_pos_iff.mpr v.nonempty
    rw [List.length_cons, List.length_tail, length_readGate]
    omega
  · exact v.length_readGate

/-- A gate blocks exactly if it lies in the range as the versions are read. -/
theorem blocks_text (i m g : DottedVersion) : blocks i.text m.text g.text ↔ ReadInRange i m g := by
  have nonempty : gateVer g.text ≠ [] := by
    rw [gateVer_text]
    exact g.untagged.text_ne_nil
  rw [blocks, versionTuple_gateVer_text, versionTuple_text, versionTuple_text,
    PaddedOrder.lt_iff i.read_nonneg g.readGate_nonneg,
    PaddedOrder.le_iff g.readGate_nonneg m.read_nonneg]
  simp [nonempty, ReadInRange]

/-! ### Gates misjudged -/

/-- A gate of the range that is read outside it. -/
def Overlooked (i m g : DottedVersion) : Prop := InRange i m g ∧ ¬ ReadInRange i m g

/-- A gate outside the range that is read inside it. -/
def Mistaken (i m g : DottedVersion) : Prop := ¬ InRange i m g ∧ ReadInRange i m g

/-- The version is read as it is spelled. -/
def Legible (v : DottedVersion) : Prop :=
  (∀ p ∈ v.parts, p.length ≤ intMaxStrDigits) ∧ (v.tagged → v.value.head? = some 0)

theorem Legible.readGate_eq {v : DottedVersion} (legible : v.Legible) : v.readGate = v.value :=
  List.map_congr_left fun p hp => if_pos (legible.1 p hp)

theorem Legible.read_eq {v : DottedVersion} (legible : v.Legible) : v.read = v.value := by
  rw [read]
  split
  case isFalse => exact legible.readGate_eq
  case isTrue tagged =>
    rw [legible.readGate_eq]
    obtain ⟨rest, spelled⟩ := List.head?_eq_some_iff.mp (legible.2 tagged)
    rw [spelled, List.tail_cons]

/-- Of versions read as they are spelled, a gate is overlooked only if it is the manifest version
spelled with more components. -/
theorem overlooked_iff {i m g : DottedVersion} (hi : i.Legible) (hm : m.Legible)
    (hg : ∀ p ∈ g.parts, p.length ≤ intMaxStrDigits) :
    Overlooked i m g ↔
      PadLt 0 i.value g.value ∧ PadEq 0 g.value m.value ∧ m.components < g.components := by
  have gate : g.readGate = g.value := List.map_congr_left fun p hp => if_pos (hg p hp)
  have strict : PadEq 0 g.value m.value → ¬ PadLt 0 g.value m.value :=
    fun same below => PadLt.irrefl _ (below.congr_left same)
  have more := not_le (a := g.components) (b := m.components)
  rw [Overlooked, InRange, ReadInRange, PadLe, hi.read_eq, hm.read_eq, gate]
  tauto

/-- Of versions read as they are spelled, a gate is mistaken for one of the range only if it is the
installed version spelled with more components. -/
theorem mistaken_iff {i m g : DottedVersion} (hi : i.Legible) (hm : m.Legible)
    (hg : ∀ p ∈ g.parts, p.length ≤ intMaxStrDigits) :
    Mistaken i m g ↔
      (PadEq 0 i.value g.value ∧ i.components < g.components) ∧
        (PadLt 0 g.value m.value ∨ PadEq 0 g.value m.value ∧ g.components ≤ m.components) := by
  have gate : g.readGate = g.value := List.map_congr_left fun p hp => if_pos (hg p hp)
  have strict : PadEq 0 i.value g.value → ¬ PadLt 0 i.value g.value :=
    fun same below => PadLt.irrefl _ (below.congr_right same.symm)
  rw [Mistaken, InRange, ReadInRange, PadLe, hi.read_eq, hm.read_eq, gate]
  tauto

/-- Gates are crossed, but each of them is overlooked and no other is mistaken for one. -/
def Jumped (i m : DottedVersion) (gates : List DottedVersion) : Prop :=
  (∃ g ∈ gates, InRange i m g) ∧ (∀ g ∈ gates, InRange i m g → Overlooked i m g) ∧
    ∀ g ∈ gates, ¬ Mistaken i m g

/-- No gate is crossed, but some gate is mistaken for a crossed one. -/
def Invented (i m : DottedVersion) (gates : List DottedVersion) : Prop :=
  (∀ g ∈ gates, ¬ InRange i m g) ∧ ∃ g ∈ gates, Mistaken i m g

theorem agrees_iff (i m : DottedVersion) (gates : List DottedVersion) :
    ((∃ g ∈ gates, ReadInRange i m g) ↔ ∃ g ∈ gates, InRange i m g) ↔
      ¬ Jumped i m gates ∧ ¬ Invented i m gates := by
  constructor
  · intro agree
    constructor
    · rintro ⟨crossed, overlooked, mistaken⟩
      obtain ⟨g, hg, read⟩ := agree.mpr crossed
      by_cases inRange : InRange i m g
      · exact (overlooked g hg inRange).2 read
      · exact mistaken g hg ⟨inRange, read⟩
    · rintro ⟨none, g, hg, -, read⟩
      obtain ⟨g', hg', inRange⟩ := agree.mp ⟨g, hg, read⟩
      exact none g' hg' inRange
  · rintro ⟨jumped, invented⟩
    constructor
    · rintro ⟨g, hg, read⟩
      by_contra none
      have outside : ∀ g ∈ gates, ¬ InRange i m g := fun g' hg' inRange => none ⟨g', hg', inRange⟩
      exact invented ⟨outside, g, hg, outside g hg, read⟩
    · intro crossed
      by_contra none
      have unread : ∀ g ∈ gates, ¬ ReadInRange i m g := fun g' hg' read => none ⟨g', hg', read⟩
      exact jumped ⟨crossed, fun g hg inRange => ⟨inRange, unread g hg⟩,
        fun g hg mistaken => unread g hg mistaken.2⟩

end DottedVersion

open DottedVersion

/-- The inputs on which the run parks with proceed refused exactly if a gate is crossed. -/
def GateDecides (checks : Checks) (installed manifest : DottedVersion)
    (gates : List DottedVersion) : Prop :=
  if checks.Pass ∧ manifest.text.length ≤ 64 then
    ¬ Jumped installed manifest gates ∧ ¬ Invented installed manifest gates
  else
    -- Another check parks the run, whatever the gates are.
    ∃ g ∈ gates, InRange installed manifest g

theorem refusing_dotted (checks : Checks) (i m : DottedVersion)
    (incompatible : Incompatible DottedVersion) :
    (runToDownload checks i.text m.text (incompatible.map text)).Refusing ↔
      (checks.Pass → m.text.length ≤ 64 → ∃ g ∈ incompatible.gates, ReadInRange i m g) := by
  simp only [refusing_runToDownload m.text_ne_nil, validVersion_text, Incompatible.gates_map,
    List.mem_map, exists_exists_and_eq_and, blocks_text]

/-- The run parks with proceed refused before anything is downloaded exactly if some gate lies in
(installed, manifest], on these inputs and no others. -/
theorem parksBeforeDownload_iff (checks : Checks) (installed manifest : DottedVersion)
    (incompatible : Incompatible DottedVersion) :
    ((runToDownload checks installed.text manifest.text (incompatible.map text)).Refusing ↔
        ∃ g ∈ incompatible.gates, InRange installed manifest g) ↔
      GateDecides checks installed manifest incompatible.gates := by
  rw [refusing_dotted, GateDecides]
  split
  case isTrue passed =>
    rw [← agrees_iff]
    simp [passed]
  case isFalse failed =>
    have parked : checks.Pass → manifest.text.length ≤ 64 →
        ∃ g ∈ incompatible.gates, ReadInRange installed manifest g :=
      fun pass short => absurd ⟨pass, short⟩ failed
    exact ⟨fun agree => agree.mp parked, fun crossed => ⟨fun _ => crossed, fun _ => parked⟩⟩

/-- The manifest version 1.4 crosses the gate 1.4.0 and the run goes on to download. -/
theorem gate_jumped_shorterManifest :
    ¬ ((runToDownload {} (text { parts := [['1'], ['3']] }) (text { parts := [['1'], ['4']] })
            ((Incompatible.list [{ parts := [['1'], ['4'], ['0']] }]).map text)).Refusing ↔
        ∃ g ∈ [({ parts := [['1'], ['4'], ['0']] } : DottedVersion)],
          InRange { parts := [['1'], ['3']] } { parts := [['1'], ['4']] } g) := by
  rw [refusing_dotted]
  decide

/-- Versions of one shape, untagged and of ordinary size, are judged rightly: no gate of the shape
`gen-manifest.py` demands escapes a manifest version of that shape. -/
theorem gateDecides_of_sameShape {installed manifest : DottedVersion} {gates : List DottedVersion}
    {n : ℕ} (hi : installed.Legible ∧ installed.components = n)
    (hm : manifest.Legible ∧ manifest.components = n) (short : manifest.text.length ≤ 64)
    (hg : ∀ g ∈ gates, (∀ p ∈ g.parts, p.length ≤ intMaxStrDigits) ∧ g.components = n) :
    GateDecides {} installed manifest gates := by
  rw [GateDecides, if_pos ⟨by decide, short⟩]
  constructor
  · rintro ⟨⟨g, mem, inRange⟩, overlooked, -⟩
    obtain ⟨-, -, more⟩ :=
      (overlooked_iff hi.1 hm.1 (hg g mem).1).mp (overlooked g mem inRange)
    rw [hm.2, (hg g mem).2] at more
    exact lt_irrefl n more
  · rintro ⟨-, g, mem, mistaken⟩
    obtain ⟨⟨-, more⟩, -⟩ := (mistaken_iff hi.1 hm.1 (hg g mem).1).mp mistaken
    rw [hi.2, (hg g mem).2] at more
    exact lt_irrefl n more

end GeneratorPi
