import GeneratorPi.Secrets

/-!
# Where the scripts look for the app

After an install or an update the scripts ask the app for an answer. `health_url` of `update.sh` and
`health_check` of `setup.sh` take the scheme and the port from the settings file, each by its own
pipeline of `grep`, `tail`, `cut` and `tr`; the app serves what `parse_env_file` has read.
-/

namespace GeneratorPi

open PyText NamedLines

def portName : Text := "PORT".toList

def sslEnabledName : Text := "SSL_ENABLED".toList

inductive Scheme where
  | http
  | https
  deriving DecidableEq

/-! ## The scripts -/

/-- `[:space:]` among the ASCII characters. -/
def asciiBlank (c : Char) : Bool := c.toNat = 32 || (9 ≤ c.toNat && c.toNat ≤ 13)

/-- `grep` in the locale of the scripts. -/
structure Grep where
  /-- `[[:space:]]` in a pattern. -/
  space : Char → Bool
  space_ascii : ∀ c, c.toNat < 128 → space c = asciiBlank c
  /-- The lines that are printed of a file, given which lines match. -/
  print : (Text → Bool) → Text → List Text
  /-- A file with a NUL character is taken for binary. -/
  print_text : ∀ pattern content, pattern [] = false → '\x00' ∉ content →
    print pattern content = (content.splitOn '\n').filter pattern

/-- `cut -d= -f2-`. -/
def cutValue (line : Text) : Text :=
  match line.dropWhile (· ≠ '=') with
  | [] => line
  | _ :: value => value

/-- `cut -d= -f2- | tr -d '[:space:]'`. -/
def valueOf (line : Text) : Text := (cutValue line).filter fun c => !asciiBlank c

/-- `grep -E … | tail -n1 | cut -d= -f2- | tr -d '[:space:]'`; empty without a file. -/
def lastValue (g : Grep) (pattern : Text → Bool) : Option Text → Text
  | none => []
  | some content =>
      match (g.print pattern content).getLast? with
      | none => []
      | some line => valueOf line

/-- `^KEY=`. -/
def envGetPattern (key line : Text) : Bool := (key ++ ['=']).isPrefixOf line

/-- `^[[:space:]]*KEY=`. -/
def envValuePattern (g : Grep) (key line : Text) : Bool :=
  (key ++ ['=']).isPrefixOf (line.dropWhile g.space)

/-- `env_get` of `update.sh`. -/
def envGet (g : Grep) (file : Option Text) (key default : Text) : Text :=
  let v := lastValue g (envGetPattern key) file
  if v = [] then default else v

/-- `_env_value` of `setup.sh`. -/
def envValue (g : Grep) (file : Option Text) (key : Text) : Text :=
  lastValue g (envValuePattern g key) file

/-- What the scripts take for no TLS. -/
def offWords : List Text :=
  ["0".toList, "false".toList, "False".toList, "no".toList, "No".toList, "off".toList, "Off".toList]

def schemeOf (ssl : Text) : Scheme := if offWords.contains ssl then .http else .https

/-- The scheme and the port of the URL that a script asks. -/
structure Endpoint where
  scheme : Scheme
  port : Text
  deriving DecidableEq

/-- What `health_url` of `update.sh` puts together. -/
def healthUrl (g : Grep) (file : Option Text) : Endpoint where
  port := envGet g file portName "9400".toList
  scheme := schemeOf (envGet g file sslEnabledName "1".toList)

/-- The same in `health_check` of `setup.sh`. -/
def healthCheck (g : Grep) (file : Option Text) : Endpoint where
  port :=
    let port := envValue g file portName
    if port = [] then "9400".toList else port
  scheme := schemeOf (envValue g file sslEnabledName)

/-! ## The app -/

/-- `main` serves TLS if `CONFIG["SSL_ENABLED"]` counts as true. -/
def servedScheme (config : Config) : Scheme :=
  if Setting.truthy (config sslEnabledName) then .https else .http

/-- A port as a URL has it: decimal digits, behind a sign if it is below zero. -/
def decimal? : Text → Option ℤ
  | '-' :: digits =>
      if digits ≠ [] ∧ digits.all Char.isDigit then some (-(Nat.ofDigitChars 10 digits 0 : ℤ))
      else none
  | digits =>
      if digits ≠ [] ∧ digits.all Char.isDigit then some (Nat.ofDigitChars 10 digits 0 : ℤ)
      else none

/-- A script asks where the app serves. -/
structure Reaches (e : Endpoint) (config : Config) : Prop where
  scheme : e.scheme = servedScheme config
  port : ∃ n, decimal? e.port = some n ∧ config portName = some (.int n)

/-! ## What the app reads -/

/-- A value cast for a setting that is a number. -/
def number? (value : Text) : Option ℤ :=
  let low := lower (strip value)
  if ["true".toList, "yes".toList, "on".toList].contains low then some 1
  else if ["false".toList, "no".toList, "off".toList].contains low then some 0
  else int? intMaxStrDigits value

theorem castSetting_int (rt : Runtime) (default : ℤ) (value : Text) :
    castSetting rt (.int default) value = (number? value).map .int := by
  simp only [castSetting, number?]
  split_ifs <;> rfl

/-- The last number that a line of the file gives for `key`. -/
def lastNumber? (key : Text) : Option Text → Option ℤ
  | none => none
  | some content => ((reading.values key (splitlines content)).filterMap number?).getLast?

variable {rt : Runtime} {p : Startup} {k : Text}

/-- Of a number the last value counts that is one. -/
theorem foldl_absorb_int (notUser : userPrefix.isPrefixOf k = false) (ne : k ≠ apiKeyName)
    (default : ℤ) (values : List Text) :
    values.foldl (absorb rt k) (some (.int default)) =
      some (.int ((values.filterMap number?).getLast?.getD default)) := by
  induction values generalizing default with
  | nil => rfl
  | cons v rest ih =>
      have taken : absorb rt k (some (.int default)) v =
          some (.int ((number? v).getD default)) := by
        rw [absorb, if_neg (by simp [notUser]), if_neg ne, Option.map_some, castSetting_int]
        cases number? v <;> rfl
      rw [List.foldl_cons, taken, ih]
      cases read : number? v with
      | none => rw [List.filterMap_cons_none read, Option.getD_none]
      | some n =>
          rw [List.filterMap_cons_some read, List.getLast?_cons, Option.getD_some, Option.getD_some]

/-- What a process holds for a key whose default is a number. -/
theorem config_number {file : Option Text} {parsed : Parsed}
    (parse : parseEnvFile rt p file = some parsed) {default : ℤ}
    (known : defaults k = some (.int default)) (notUser : userPrefix.isPrefixOf k = false)
    (notApi : k ≠ apiKeyName) (notPublic : k ≠ vapidPublicName)
    (notPrivate : k ≠ vapidPrivateName) :
    parsed.config k = some (.int ((lastNumber? k file).getD default)) := by
  cases file with
  | none =>
      cases parse
      exact known
  | some content =>
      rw [(parse_eq_some parse).1, config_provisioned_of_ne notApi notPublic notPrivate,
        (scan_reads _ _ _).config]
      have start : ({} : Scan).config k = some (.int default) := known
      rw [start]
      exact foldl_absorb_int notUser notApi default _

theorem config_port {file : Option Text} {parsed : Parsed}
    (parse : parseEnvFile rt p file = some parsed) :
    parsed.config portName = some (.int ((lastNumber? portName file).getD 9400)) :=
  config_number parse (by rfl) (by decide) (by decide) (by decide) (by decide)

theorem config_sslEnabled {file : Option Text} {parsed : Parsed}
    (parse : parseEnvFile rt p file = some parsed) :
    parsed.config sslEnabledName = some (.int ((lastNumber? sslEnabledName file).getD 1)) :=
  config_number parse (by rfl) (by decide) (by decide) (by decide) (by decide)

/-! ## Where the two agree -/

/-- The last line that `grep` prints, unless there are only blanks behind its `=`. -/
def lastLine? (g : Grep) (pattern : Text → Bool) (file : Option Text) : Option Text :=
  (file.bind fun content => (g.print pattern content).getLast?).filter fun line => valueOf line ≠ []

/-- For both keys, the last line that a script finds spells the last number that the app finds: a
port by its digits, a zero of `SSL_ENABLED` and nothing else by a word of the script. If the script
finds none, the app has the default port, and TLS is on. -/
structure Spelled (g : Grep) (pattern : Text → Text → Bool) (file : Option Text) : Prop where
  port : ∀ line ∈ lastLine? g (pattern portName) file,
    decimal? (valueOf line) = some ((lastNumber? portName file).getD 9400)
  noPort : lastLine? g (pattern portName) file = none →
    (lastNumber? portName file).getD 9400 = 9400
  ssl : ∀ line ∈ lastLine? g (pattern sslEnabledName) file,
    (offWords.contains (valueOf line) ↔ (lastNumber? sslEnabledName file).getD 1 = 0)
  noSsl : lastLine? g (pattern sslEnabledName) file = none →
    (lastNumber? sslEnabledName file).getD 1 ≠ 0

theorem lastValue_eq (g : Grep) (pattern : Text → Bool) (file : Option Text) :
    lastValue g pattern file = ((lastLine? g pattern file).map valueOf).getD [] := by
  cases file with
  | none => rfl
  | some content =>
      cases last : (g.print pattern content).getLast? with
      | none => simp [lastValue, lastLine?, last]
      | some line =>
          by_cases blank : valueOf line = []
          · simp [lastValue, lastLine?, last, Option.filter, blank]
          · simp [lastValue, lastLine?, last, Option.filter, blank]

/-- A value of the settings file, or the default of a script. -/
theorem lastValue_getD (g : Grep) (pattern : Text → Bool) (file : Option Text) (default : Text) :
    (if lastValue g pattern file = [] then default else lastValue g pattern file) =
      ((lastLine? g pattern file).map valueOf).getD default := by
  rw [lastValue_eq]
  cases last : lastLine? g pattern file with
  | none => rfl
  | some line =>
      have nonblank : valueOf line ≠ [] := by
        have kept := (Option.filter_eq_some_iff.mp last).2
        simpa using kept
      exact if_neg nonblank

theorem servedScheme_eq {config : Config} {n : ℤ} (h : config sslEnabledName = some (.int n)) :
    servedScheme config = if n = 0 then .http else .https := by
  rw [servedScheme, h]
  by_cases off : n = 0
  · simp [Setting.truthy, off]
  · simp [Setting.truthy, off]

theorem schemeOf_iff (text : Text) (n : ℤ) :
    schemeOf text = (if n = 0 then .http else .https) ↔ (offWords.contains text ↔ n = 0) := by
  rw [schemeOf]
  split_ifs with word off off
  · exact iff_of_true rfl (iff_of_true word off)
  · exact iff_of_false (fun same => nomatch same) fun same => off (same.mp word)
  · exact iff_of_false (fun same => nomatch same) fun same => word (same.mpr off)
  · exact iff_of_true rfl (iff_of_false word off)

/-- The port that a script takes from its last line for the port. -/
theorem port_iff {file : Option Text} {parsed : Parsed}
    (parse : parseEnvFile rt p file = some parsed) (line : Option Text) :
    (∃ n, decimal? ((line.map valueOf).getD "9400".toList) = some n ∧
        parsed.config portName = some (.int n)) ↔
      (∀ l ∈ line, decimal? (valueOf l) = some ((lastNumber? portName file).getD 9400)) ∧
        (line = none → (lastNumber? portName file).getD 9400 = 9400) := by
  have default : decimal? "9400".toList = some 9400 := by decide
  rw [config_port parse]
  cases line with
  | none =>
      rw [Option.map_none, Option.getD_none, default]
      simp [eq_comm]
  | some l => simp

/-- The scheme that a script takes from its last line for `SSL_ENABLED`. -/
theorem scheme_iff {file : Option Text} {parsed : Parsed}
    (parse : parseEnvFile rt p file = some parsed) {noSsl : Text} (tls : ¬ offWords.contains noSsl)
    (line : Option Text) :
    schemeOf ((line.map valueOf).getD noSsl) = servedScheme parsed.config ↔
      (∀ l ∈ line, (offWords.contains (valueOf l) ↔ (lastNumber? sslEnabledName file).getD 1 = 0)) ∧
        (line = none → (lastNumber? sslEnabledName file).getD 1 ≠ 0) := by
  rw [servedScheme_eq (config_sslEnabled parse), schemeOf_iff]
  cases line with
  | none =>
      rw [Option.map_none, Option.getD_none, iff_false_left tls]
      simp
  | some l => simp

/-- A script that falls back to the default port and to TLS. -/
theorem reaches_iff {g : Grep} {pattern : Text → Text → Bool} {file : Option Text} {parsed : Parsed}
    (parse : parseEnvFile rt p file = some parsed) {noSsl : Text} (tls : ¬ offWords.contains noSsl)
    {e : Endpoint}
    (port : e.port = ((lastLine? g (pattern portName) file).map valueOf).getD "9400".toList)
    (scheme : e.scheme =
      schemeOf (((lastLine? g (pattern sslEnabledName) file).map valueOf).getD noSsl)) :
    Reaches e parsed.config ↔ Spelled g pattern file := by
  constructor
  · intro reaches
    obtain ⟨written, unwritten⟩ := (port_iff parse _).mp (port ▸ reaches.port)
    obtain ⟨sslWritten, sslUnwritten⟩ :=
      (scheme_iff parse tls _).mp (scheme.symm.trans reaches.scheme)
    exact ⟨written, unwritten, sslWritten, sslUnwritten⟩
  · intro spelled
    constructor
    · exact scheme.trans ((scheme_iff parse tls _).mpr ⟨spelled.ssl, spelled.noSsl⟩)
    · rw [port]
      exact (port_iff parse _).mpr ⟨spelled.port, spelled.noPort⟩

/-- Both scripts ask where the app serves, exactly if the last lines they find spell what the app
reads. -/
theorem scripts_reach_iff (g : Grep) {file : Option Text} {parsed : Parsed}
    (parse : parseEnvFile rt p file = some parsed) :
    (Reaches (healthUrl g file) parsed.config ∧ Reaches (healthCheck g file) parsed.config) ↔
      Spelled g envGetPattern file ∧ Spelled g (envValuePattern g) file := by
  have tls : ¬ offWords.contains "1".toList := by decide
  have unset : ¬ offWords.contains ([] : Text) := by decide
  have update : Reaches (healthUrl g file) parsed.config ↔ Spelled g envGetPattern file :=
    reaches_iff parse tls (lastValue_getD ..) (congrArg schemeOf (lastValue_getD ..))
  have setup : Reaches (healthCheck g file) parsed.config ↔ Spelled g (envValuePattern g) file :=
    reaches_iff parse unset (lastValue_getD ..) (congrArg schemeOf (lastValue_eq ..))
  rw [update, setup]

/-- `grep` in the locale `C`. -/
def posixGrep : Grep where
  space := asciiBlank
  space_ascii _ _ := rfl
  print pattern content :=
    if '\x00' ∈ content then [] else (content.splitOn '\n').filter pattern
  print_text _ _ _ text := if_neg text

def plainFile : Text := "API_KEY=k\nPORT=9500\nSSL_ENABLED=off\n".toList

theorem scripts_reach_plainFile :
    ∃ parsed, parseEnvFile withPush firstStart (some plainFile) = some parsed ∧
      Reaches (healthUrl posixGrep (some plainFile)) parsed.config ∧
      Reaches (healthCheck posixGrep (some plainFile)) parsed.config := by
  obtain ⟨parsed, parse⟩ := parse_of_writable withPush (q := firstStart) rfl plainFile
  have update : Spelled posixGrep envGetPattern (some plainFile) :=
    ⟨by decide, by decide, by decide, by decide⟩
  have setup : Spelled posixGrep (envValuePattern posixGrep) (some plainFile) :=
    ⟨by decide, by decide, by decide, by decide⟩
  exact ⟨parsed, parse, (scripts_reach_iff posixGrep parse).mpr ⟨update, setup⟩⟩

def spacedFile : Text := "PORT = 9500\nSSL_ENABLED=FALSE\n".toList

/-- With spaces around `=` and the word in capitals both scripts ask another port by TLS. -/
theorem spacedFile_not_reached :
    ∃ parsed, parseEnvFile withPush firstStart (some spacedFile) = some parsed ∧
      parsed.config portName = some (.int 9500) ∧ servedScheme parsed.config = .http ∧
      healthUrl posixGrep (some spacedFile) = ⟨.https, "9400".toList⟩ ∧
      healthCheck posixGrep (some spacedFile) = ⟨.https, "9400".toList⟩ ∧
      ¬ Reaches (healthUrl posixGrep (some spacedFile)) parsed.config ∧
      ¬ Reaches (healthCheck posixGrep (some spacedFile)) parsed.config := by
  obtain ⟨parsed, parse⟩ := parse_of_writable withPush (q := firstStart) rfl spacedFile
  have port : lastNumber? portName (some spacedFile) = some 9500 := by decide
  have off : lastNumber? sslEnabledName (some spacedFile) = some 0 := by decide
  have served : servedScheme parsed.config = .http := by
    rw [servedScheme_eq (config_sslEnabled parse), off]
    rfl
  have update : healthUrl posixGrep (some spacedFile) = ⟨.https, "9400".toList⟩ := by
    decide
  have setup : healthCheck posixGrep (some spacedFile) = ⟨.https, "9400".toList⟩ := by
    decide
  refine ⟨parsed, parse, ?_, served, update, setup, fun reaches => ?_, fun reaches => ?_⟩
  · rw [config_port parse, port]
    rfl
  · have same := reaches.scheme
    rw [update, served] at same
    cases same
  · have same := reaches.scheme
    rw [setup, served] at same
    cases same

end GeneratorPi
