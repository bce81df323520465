import GeneratorPi.SelfUpdate
import GeneratorPi.Lib.JsonStrings

/-!
# Text that is pasted into a shell and written into a result

`dependency_install_command` and `_validate_version` (`genpi/updater.py`), and the line
`write_result` of the bootstrap script puts into `last_update.json`.

Both patterns end in `$`, which also matches before a newline at the end.  A name or a version that
ends in one passes, and with it the newline: the command is then two lines, and the result does not
parse.  Nothing else gets through (`injectionFree_iff`).
-/

namespace GeneratorPi

open PyText PyJson Handled SelfUpdate
open JsonStrings (Plain Verbatim Printing Verbatims Printings plain_of_all loads loads_write_iff)

/-! ## The install command -/

/-- One word of a package name. -/
structure PackageWord (w : Text) : Prop where
  nonempty : w ≠ []
  no_dash : w.head? ≠ some '-'
  chars : ∀ c ∈ w, c.isLower = true ∨ c.isDigit = true ∨ c ∈ ['+', '.', '-']

def aptCommand (words : List Text) : String :=
  "sudo apt install -y " ++ " ".intercalate (words.map showText)

/-- Nothing, or the fixed words and package names behind them. -/
def Pasteable (command : String) : Prop :=
  command = "" ∨
    ∃ words : List Text, words ≠ [] ∧ (∀ w ∈ words, PackageWord w) ∧ command = aptCommand words

/-- The package name a record's `apt` is, where it is one. -/
def aptNameOf (apt : Json) : Option Text :=
  match apt with
  | .str name => if aptName name then some name else none
  | _ => none

/-- `d.get("apt")`. -/
def aptOf (record : List (Text × Json)) : Json := (record.lookup "apt".toList).getD .null

def aptNames (records : List (List (Text × Json))) : List Text :=
  records.filterMap fun record => aptNameOf (aptOf record)

def sortedNames (names : List Text) : List Text :=
  names.dedup.insertionSort fun a b => ¬ b < a

def installLine (names : List Text) : String :=
  if names.isEmpty then "" else aptCommand (sortedNames names)

/-! ## The version and the result of an update -/

/-- What the bootstrap script reports. -/
inductive BootstrapReport where
  | success
  | rolledBack
  | unhealthy
  deriving DecidableEq

/-- `$1` of `write_result`. -/
def BootstrapReport.status : BootstrapReport → Text
  | .success => "success".toList
  | .rolledBack | .unhealthy => "failed".toList

/-- `$2` of `write_result`. -/
def BootstrapReport.note (version : Text) : BootstrapReport → Text
  | .success => "Updated to v".toList ++ version ++ ".".toList
  | .rolledBack => "Update failed - rolled back to the previous version.".toList
  | .unhealthy =>
      "Update failed AND rollback did not become healthy - manual check needed.".toList

/-- The `printf` of `write_result`, `ts` being what `date -Iseconds` prints. -/
def resultLine (report : BootstrapReport) (version ts : Text) : Text :=
  "\x7b\"status\":\"".toList ++ report.status ++ "\",\"version\":\"".toList ++ version ++
    "\",\"ts\":\"".toList ++ ts ++ "\",\"note\":\"".toList ++ report.note version ++
    "\"\x7d\n".toList

/-- The members of the result. -/
def resultFields (report : BootstrapReport) (version ts : Text) : List (Text × Text) :=
  [("status".toList, report.status), ("version".toList, version), ("ts".toList, ts),
    ("note".toList, report.note version)]

/-- The characters of a time stamp in ISO 8601, to the second. -/
def IsoSeconds (ts : Text) : Prop :=
  ∀ c ∈ ts, c.isDigit = true ∨ c = 'T' ∨ c = ':' ∨ c = '+' ∨ c = '-'

/-- `_validate_version` returns. -/
def VersionAccepted (host : SelfUpdate.Host) (version : Text) : Prop :=
  ∃ m m', validateVersion host (.str version) m = .ok () m'

/-- The command can be pasted, and an accepted version is safe to write into the result. -/
structure InjectionFree (host : SelfUpdate.Host) (records : List (List (Text × Json)))
    (version : Text) :
    Prop where
  command : ∀ m command m', dependencyInstallCommand (records.map Json.dict) m = .ok command m' →
    Pasteable command
  version_chars : VersionAccepted host version → ∀ c ∈ version, versionChar c = true
  result_parses : VersionAccepted host version → ∀ report ts, IsoSeconds ts →
    JsonStrings.loads (resultLine report version ts) = some (resultFields report version ts)

variable {records : List (List (Text × Json))} {m : Machine} {name version : Text}
  {host : SelfUpdate.Host}

/-! ## What the patterns let through -/

/-- A name is one word, or ends in a newline. -/
theorem packageWord_of_aptName (ok : aptName name = true) (ends : name.getLast? ≠ some '\n') :
    PackageWord name := by
  unfold aptName at ok
  rw [if_neg ends] at ok
  cases name with
  | nil => cases ok
  | cons c rest =>
      simp only [Bool.and_eq_true, List.all_eq_true, Bool.or_eq_true, decide_eq_true_eq] at ok
      obtain ⟨first, others⟩ := ok
      refine ⟨List.cons_ne_nil _ _, ?_, fun d mem => ?_⟩
      · rw [List.head?_cons, ne_eq, Option.some.injEq]
        rintro rfl
        exact absurd first (by decide)
      · rcases List.mem_cons.mp mem with rfl | later
        · exact first.elim Or.inl fun digit => Or.inr (Or.inl digit)
        · rcases others d later with (lower | digit) | sign
          · exact Or.inl lower
          · exact Or.inr (Or.inl digit)
          · exact Or.inr (Or.inr sign)

theorem PackageWord.no_newline (word : PackageWord name) : '\n' ∉ name := fun mem =>
  absurd (word.chars _ mem) (by decide)

/-- A version has only characters of a version, or ends in a newline. -/
theorem versionChar_of_validVersion (ok : validVersion version = true)
    (ends : version.getLast? ≠ some '\n') {c : Char} (mem : c ∈ version) :
    versionChar c = true := by
  unfold validVersion at ok
  rw [if_neg ends] at ok
  simp only [Bool.and_eq_true, List.all_eq_true] at ok
  exact ok.2 c mem

theorem versionAccepted_iff : VersionAccepted host version ↔ validVersion version = true := by
  have check : ∀ m, validateVersion host (.str version) m =
      if (!version.isEmpty && validVersion version) = true then .ok () m
      else .error ⟨.value, "unsafe manifest version: " ++
        showText ((Json.str version).repr host.printable)⟩ m := by
    intro m
    unfold validateVersion
    have truthy : (Json.str version).truthy = !version.isEmpty := rfl
    have text : (Json.str version).text host.printable = version := rfl
    rw [truthy, text]
    cases (!version.isEmpty && validVersion version) <;> rfl
  have nonempty : validVersion version = true → version.isEmpty = false := by
    intro ok
    cases version with
    | nil => cases ok
    | cons => rfl
  constructor
  · rintro ⟨m, m', accepted⟩
    rw [check] at accepted
    split at accepted
    case isTrue ok => exact (Bool.and_eq_true _ _ ▸ ok).2
    case isFalse => cases accepted
  · intro ok
    let idle : Machine := { world := { manifest := .null } }
    refine ⟨idle, idle, ?_⟩
    rw [check, nonempty ok, ok]
    rfl

/-! ## The command -/

theorem mem_aptNames : name ∈ aptNames records ↔
    (∃ record ∈ records, aptOf record = .str name) ∧ aptName name = true := by
  have given : ∀ apt, aptNameOf apt = some name ↔ apt = .str name ∧ aptName name = true := by
    intro apt
    cases apt with
    | str given =>
        rw [aptNameOf, Option.ite_none_right_eq_some, Option.some.injEq, Json.str.injEq]
        constructor
        · rintro ⟨ok, rfl⟩
          exact ⟨rfl, ok⟩
        · rintro ⟨rfl, ok⟩
          exact ⟨ok, rfl⟩
    | _ => simp [aptNameOf]
  simp only [aptNames, List.mem_filterMap, given]
  constructor
  · rintro ⟨record, mem, apt, ok⟩
    exact ⟨⟨record, mem, apt⟩, ok⟩
  · rintro ⟨⟨record, mem, apt⟩, ok⟩
    exact ⟨record, mem, apt, ok⟩

/-- What the loop adds for a record. -/
def aptNameStep (names : List Text) : Json → List Text
  | .dict record => names ++ (aptNameOf (aptOf record)).toList
  | _ => names

theorem foldl_aptNameStep (records : List (List (Text × Json))) (names : List Text) :
    (records.map Json.dict).foldl aptNameStep names = names ++ aptNames records := by
  induction records generalizing names with
  | nil => simp [aptNames]
  | cons record records ih =>
      rw [List.map_cons, List.foldl_cons, ih, aptNameStep, List.append_assoc]
      congr 1
      cases given : aptNameOf (aptOf record) with
      | none => simp [aptNames, given]
      | some name => simp [aptNames, given]

/-- The command is made of the names the records give. -/
theorem dependencyInstallCommand_eq (records : List (List (Text × Json))) (m : Machine) :
    dependencyInstallCommand (records.map Json.dict) m =
      .ok (installLine (aptNames records)) m := by
  unfold dependencyInstallCommand
  refine (Noninterference.bind_run (forIn_yield (g := aptNameStep) (fun dep mem names => ?_)
    [])).trans ?_
  · obtain ⟨record, -, rfl⟩ := List.mem_map.mp mem
    have read : (liftM ((Json.dict record).get "apt" Json.null) : Run Json) m =
      .ok (aptOf record) m := rfl
    have step : aptNameStep names (.dict record) = names ++ (aptNameOf (aptOf record)).toList := rfl
    refine (Noninterference.bind_run read).trans ?_
    rw [step]
    cases aptOf record with
    | str name =>
        by_cases ok : aptName name = true
        · simp [aptNameOf, ok, pure, EStateM.pure]
        · simp [aptNameOf, ok, pure, EStateM.pure]
    | _ => simp [aptNameOf, pure, EStateM.pure]
  · rw [foldl_aptNameStep, List.nil_append]
    unfold installLine
    split <;> rfl

theorem mem_sortedNames {names : List Text} : name ∈ sortedNames names ↔ name ∈ names := by
  rw [sortedNames, List.mem_insertionSort, List.mem_dedup]

/-- What stands between the separators. -/
theorem mem_intercalate {sep : Text} {parts : List Text} {c : Char} (outside : c ∉ sep) :
    c ∈ sep.intercalate parts ↔ ∃ part ∈ parts, c ∈ part := by
  induction parts with
  | nil => simp
  | cons part parts ih =>
      cases parts with
      | nil => simp
      | cons next parts =>
          rw [List.intercalate_cons_cons, List.append_assoc, List.mem_append, List.mem_append, ih]
          simp [outside]

theorem newline_mem_prefixed {start : String} {words : List Text} (clean : '\n' ∉ start.toList) :
    '\n' ∈ (start ++ " ".intercalate (words.map showText)).toList ↔ ∃ w ∈ words, '\n' ∈ w := by
  have texts : (words.map showText).map String.toList = words := by
    rw [List.map_map]
    exact (List.map_congr_left fun name _ => String.toList_ofList).trans (List.map_id _)
  have between : '\n' ∉ " ".toList := by decide
  rw [String.toList_append, List.mem_append, String.toList_intercalate, texts,
    mem_intercalate between, or_iff_right clean]

theorem newline_mem_aptCommand {words : List Text} :
    '\n' ∈ (aptCommand words).toList ↔ ∃ w ∈ words, '\n' ∈ w :=
  newline_mem_prefixed (by decide)

/-- Without a newline the names are words; with one it is in the command. -/
theorem pasteable_iff : Pasteable (installLine (aptNames records)) ↔
    ∀ name ∈ aptNames records, name.getLast? ≠ some '\n' := by
  unfold installLine
  cases given : aptNames records with
  | nil => simp [Pasteable]
  | cons first others =>
      rw [← given, if_neg (by simp [given])]
      constructor
      · rintro pasteable name mem ends
        have newline : '\n' ∈ (aptCommand (sortedNames (aptNames records))).toList :=
          newline_mem_aptCommand.mpr ⟨name, mem_sortedNames.mpr mem, List.mem_of_getLast? ends⟩
        rcases pasteable with empty | ⟨words, -, clean, eq⟩
        · rw [empty] at newline
          cases newline
        · rw [eq, newline_mem_aptCommand] at newline
          obtain ⟨w, listed, broken⟩ := newline
          exact (clean w listed).no_newline broken
      · intro ends
        refine Or.inr ⟨_, fun empty => ?_, fun name mem => ?_, rfl⟩
        · have listed : first ∈ sortedNames (aptNames records) :=
            mem_sortedNames.mpr (given ▸ List.mem_cons_self)
          rw [empty] at listed
          cases listed
        · have given := mem_sortedNames.mp mem
          exact packageWord_of_aptName (mem_aptNames.mp given).2 (ends name given)

/-! ## The result -/

/-- What stands between two values: quotes, the comma, the next key, the colon. -/
def nextKey (key : Text) : Text := '"' :: ',' :: '"' :: (key ++ ['"', ':', '"'])

theorem write_four (a b c d s v t n : Text) :
    ('{' :: '"' :: (a ++ ['"', ':', '"'])) ++ s ++ nextKey b ++ v ++ nextKey c ++ t ++ nextKey d ++
        n ++ ['"', '}', '\n'] =
      JsonStrings.write [(a, s), (b, v), (c, t), (d, n)] ++ ['\n'] := by
  simp [nextKey, JsonStrings.write, JsonStrings.writeMembers, JsonStrings.writeMember,
    JsonStrings.quote]

/-- The line is the members, written out. -/
theorem resultLine_eq (report : BootstrapReport) (version ts : Text) :
    resultLine report version ts =
      JsonStrings.write (resultFields report version ts) ++ ['\n'] := by
  have first : "\x7b\"status\":\"".toList = '{' :: '"' :: ("status".toList ++ ['"', ':', '"']) := by
    decide
  have second : "\",\"version\":\"".toList = nextKey "version".toList := by decide
  have third : "\",\"ts\":\"".toList = nextKey "ts".toList := by decide
  have fourth : "\",\"note\":\"".toList = nextKey "note".toList := by decide
  have closing : "\"\x7d\n".toList = ['"', '}', '\n'] := by decide
  unfold resultLine
  rw [first, second, third, fourth, closing]
  exact write_four _ _ _ _ _ _ _ _

theorem space_le_of_isDigit {c : Char} (h : c.isDigit = true) : ' ' ≤ c := by
  have zero : '0' ≤ c := by
    simp only [Char.isDigit, Bool.and_eq_true, decide_eq_true_eq] at h
    exact h.1
  exact le_trans (by decide) zero

theorem space_le_of_versionChar {c : Char} (h : versionChar c = true) : ' ' ≤ c := by
  simp only [versionChar, Bool.or_eq_true, Bool.and_eq_true, decide_eq_true_eq, List.mem_cons,
    List.not_mem_nil, or_false] at h
  rcases h with ((upper | lower) | digit) | sign
  · exact le_trans (by decide) upper.1
  · exact le_trans (by decide) lower.1
  · exact space_le_of_isDigit digit
  · rcases sign with rfl | rfl | rfl | rfl <;> decide

theorem plain_of_isoSeconds {ts : Text} (iso : IsoSeconds ts) : Plain ts := by
  constructor
  · intro c mem
    rcases iso c mem with digit | rfl | rfl | rfl | rfl
    · constructor <;> (rintro rfl; exact absurd digit (by decide))
    all_goals decide
  · intro c mem
    rcases iso c mem with digit | rfl | rfl | rfl | rfl
    · exact space_le_of_isDigit digit
    all_goals decide

/-- An accepted version needs no escape for its syntax, and is printing up to a final newline. -/
theorem chars_of_validVersion (ok : validVersion version = true) :
    ∀ c ∈ version, versionChar c = true ∨ (c = '\n' ∧ version.getLast? = some '\n') := by
  intro c mem
  by_cases ends : version.getLast? = some '\n'
  · have split : version = version.dropLast ++ ['\n'] := (List.dropLast_append_getLast? _ ends).symm
    unfold validVersion at ok
    rw [if_pos ends] at ok
    simp only [Bool.and_eq_true, List.all_eq_true] at ok
    rw [split] at mem
    rcases List.mem_append.mp mem with inside | last
    · exact Or.inl (ok.2 c inside)
    · exact Or.inr ⟨List.mem_singleton.mp last, ends⟩
  · exact Or.inl (versionChar_of_validVersion ok ends mem)

theorem verbatim_of_validVersion (ok : validVersion version = true) : Verbatim version := by
  intro c mem
  rcases chars_of_validVersion ok c mem with allowed | ⟨rfl, -⟩
  · constructor <;> (rintro rfl; exact absurd allowed (by decide))
  · decide

theorem printing_version_iff (ok : validVersion version = true) :
    Printing version ↔ version.getLast? ≠ some '\n' := by
  constructor
  · intro printing ends
    exact absurd (printing _ (List.mem_of_getLast? ends)) (by decide)
  · intro ends c mem
    exact space_le_of_versionChar (versionChar_of_validVersion ok ends mem)

theorem plain_status (report : BootstrapReport) : Plain report.status := by
  cases report <;> exact plain_of_all (by decide)

/-- The notes of a failure are fixed. -/
theorem plain_failure_note (report : BootstrapReport) (failure : report ≠ .success) :
    Plain (report.note version) := by
  cases report with
  | success => exact absurd rfl failure
  | rolledBack =>
      exact plain_of_all (t := "Update failed - rolled back to the previous version.".toList)
        (by decide)
  | unhealthy =>
      exact plain_of_all
        (t := "Update failed AND rollback did not become healthy - manual check needed.".toList)
        (by decide)

/-- The note of a success holds the version between two fixed texts. -/
theorem verbatim_note (report : BootstrapReport) (verbatim : Verbatim version) :
    Verbatim (report.note version) := by
  by_cases failure : report = .success
  · rw [failure]
    have before : Plain "Updated to v".toList := plain_of_all (by decide)
    have stop : Plain ".".toList := plain_of_all (by decide)
    exact (before.1.append verbatim).append stop.1
  · exact (plain_failure_note report failure).1

theorem printing_note (report : BootstrapReport) (printing : Printing version) :
    Printing (report.note version) := by
  by_cases failure : report = .success
  · rw [failure]
    have before : Plain "Updated to v".toList := plain_of_all (by decide)
    have stop : Plain ".".toList := plain_of_all (by decide)
    exact (before.2.append printing).append stop.2
  · exact (plain_failure_note report failure).2

/-- The result of an accepted version is read back exactly when no newline ends the version. -/
theorem loads_resultLine_iff (ok : validVersion version = true) (report : BootstrapReport)
    {ts : Text} (iso : IsoSeconds ts) :
    loads (resultLine report version ts) = some (resultFields report version ts) ↔
      version.getLast? ≠ some '\n' := by
  have stamp := plain_of_isoSeconds iso
  have keys : Plain "status".toList ∧ Plain "version".toList ∧ Plain "ts".toList ∧
      Plain "note".toList := by
    refine ⟨?_, ?_, ?_, ?_⟩ <;> exact plain_of_all (by decide)
  obtain ⟨status, versionKey, tsKey, note⟩ := keys
  have verbatim := verbatim_of_validVersion ok
  have verbatims : Verbatims (resultFields report version ts) := by
    simp only [Verbatims, resultFields, List.forall_mem_cons, List.not_mem_nil, false_implies,
      implies_true, and_true]
    exact ⟨⟨status.1, (plain_status report).1⟩, ⟨versionKey.1, verbatim⟩, ⟨tsKey.1, stamp.1⟩,
      note.1, verbatim_note report verbatim⟩
  have some_field : resultFields report version ts ≠ [] := List.cons_ne_nil _ _
  rw [resultLine_eq, loads_write_iff some_field verbatims, ← printing_version_iff ok]
  simp only [Printings, resultFields, List.forall_mem_cons, List.not_mem_nil, false_implies,
    implies_true, and_true]
  constructor
  · rintro ⟨-, ⟨-, printing⟩, -⟩
    exact printing
  · intro printing
    exact ⟨⟨status.2, (plain_status report).2⟩, ⟨versionKey.2, printing⟩, ⟨tsKey.2, stamp.2⟩,
      note.2, printing_note report printing⟩

/-! ## What is free of injections -/

/-- Every list of records and every version: the command is made of package names and an accepted
version of its characters, and the result parses, exactly when no accepted name and no accepted
version ends in a newline. -/
theorem injectionFree_iff (host : SelfUpdate.Host) (records : List (List (Text × Json)))
    (version : Text) :
    InjectionFree host records version ↔
      (∀ record ∈ records, ∀ name, aptOf record = .str name → aptName name = true →
          name.getLast? ≠ some '\n') ∧
        (validVersion version = true → version.getLast? ≠ some '\n') := by
  have names : (∀ record ∈ records, ∀ name, aptOf record = .str name → aptName name = true →
      name.getLast? ≠ some '\n') ↔ ∀ name ∈ aptNames records, name.getLast? ≠ some '\n' := by
    simp only [mem_aptNames]
    exact ⟨fun h name given => given.1.elim fun record got => h record got.1 name got.2 given.2,
      fun h record mem name got ok => h name ⟨⟨record, mem, got⟩, ok⟩⟩
  rw [names, ← pasteable_iff]
  constructor
  · intro free
    let idle : Machine := { world := { manifest := .null } }
    refine ⟨free.command idle _ _ (dependencyInstallCommand_eq records idle), fun ok ends => ?_⟩
    have allowed := free.version_chars (versionAccepted_iff.mpr ok) _ (List.mem_of_getLast? ends)
    exact absurd allowed (by decide)
  · rintro ⟨pasteable, ends⟩
    constructor
    · intro m command m' returned
      rw [dependencyInstallCommand_eq] at returned
      cases returned
      exact pasteable
    · intro accepted c mem
      have ok := versionAccepted_iff.mp accepted
      exact versionChar_of_validVersion ok (ends ok) mem
    · intro accepted report ts iso
      have ok := versionAccepted_iff.mp accepted
      exact (loads_resultLine_iff ok report iso).mpr (ends ok)

/-- An installation of which nothing but the kind is used. -/
def someHost : SelfUpdate.Host where
  installed := "1.0".toList
  root := []
  printable := { isPrintable := fun _ => false, not_space := fun _ h => Bool.noConfusion h }
  isIdentifier := fun _ => true

/-- A dependency `libfoo` and a version `1.0`, each with a newline behind it: the command breaks off
into a second line, and what the script writes does not parse. -/
theorem newline_injected :
    ¬ InjectionFree someHost [[("apt".toList, .str "libfoo\n".toList)]] "1.0\n".toList ∧
      ¬ Pasteable (installLine (aptNames [[("apt".toList, .str "libfoo\n".toList)]])) ∧
      loads (resultLine .success "1.0\n".toList "2026-01-01T00:00:00+00:00".toList) = none := by
  have broken :
      ¬ Pasteable (installLine (aptNames [[("apt".toList, .str "libfoo\n".toList)]])) := by
    rw [pasteable_iff]
    have listed : "libfoo\n".toList ∈ aptNames [[("apt".toList, .str "libfoo\n".toList)]] :=
      mem_aptNames.mpr ⟨⟨_, List.mem_singleton_self _, by rfl⟩, by decide⟩
    exact fun ends => ends _ listed (by decide)
  refine ⟨fun free => broken ?_, broken, by decide⟩
  exact free.command { world := { manifest := .null } } _ _
    (dependencyInstallCommand_eq _ _)

end GeneratorPi
