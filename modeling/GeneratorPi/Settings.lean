import GeneratorPi.Lib.NamedLines
import GeneratorPi.Lib.Trace
import GeneratorPi.Manifest
import Mathlib.Logic.Function.Basic

/-!
# The settings file

`parse_env_file` (`genpi/config.py`) reads the settings file into `CONFIG` and the users, hashes
plaintext passwords, fills in an API key and a VAPID key pair where they are missing, and rewrites
the file if it changed a line.

`Reads` says what any lines make of the settings and of the new file, and that the lines of the new
file make the same of them.
-/

namespace GeneratorPi

open PyText NamedLines Trace

/-! ## CONFIG -/

inductive Setting where
  | int (n : ℤ)
  | float (x : Float)
  | text (s : Text)

abbrev Config := Text → Option Setting

def defaultSettings : List (Text × Setting) := [
  ("RELAY_PIN".toList, .int 27),
  ("MAX_START_RETRIES".toList, .int 1),
  ("BUTTON_PRESS_DURATION".toList, .float 0.25),
  ("PRIME_DELAY".toList, .float 0.75),
  ("RETRY_DELAY".toList, .float 5.0),
  ("HOST".toList, .text "0.0.0.0".toList),
  ("PORT".toList, .int 9400),
  ("SERVICE_ENABLED".toList, .int 1),
  ("AUTOSTART".toList, .int 1),
  ("SSL_ENABLED".toList, .int 1),
  ("SSL_CERT_DAYS".toList, .int 365),
  ("SSL_RENEW_DAYS".toList, .int 30),
  ("SSL_CERT_MODE".toList, .text "auto".toList),
  ("SSL_CERT_FILE".toList, .text "ssl_cert.pem".toList),
  ("SSL_KEY_FILE".toList, .text "ssl_key.pem".toList),
  ("SSL_SAN".toList, .text []),
  ("API_KEY_ENABLED".toList, .int 1),
  ("API_KEY".toList, .text []),
  ("RATE_LIMIT_MAX_FAILURES".toList, .int 5),
  ("RATE_LIMIT_LOCKOUT_SECONDS".toList, .int 300),
  ("RATE_LIMIT_CLEANUP_SECONDS".toList, .int 600),
  ("RATE_LIMIT_MAX_TRACKED_IPS".toList, .int 1000),
  ("LOG_FILE".toList, .text "generator_control.log".toList),
  ("LOG_MAX_BYTES".toList, .int 10485760),
  ("LOG_BACKUP_COUNT".toList, .int 3),
  ("LOG_LEVEL".toList, .text "INFO".toList),
  ("EVENT_LOG_DB".toList, .text "events.db".toList),
  ("EVENT_LOG_MAX".toList, .int 10000),
  ("VAPID_PUBLIC_KEY".toList, .text []),
  ("VAPID_PRIVATE_KEY".toList, .text []),
  ("VAPID_SUBJECT".toList, .text "mailto:admin@localhost".toList),
  ("SUBSCRIPTION_MAX".toList, .int 100),
  ("FUEL_MONITOR_SECONDS".toList, .int 60),
  ("SYSTEM_HISTORY_SECONDS".toList, .int 15),
  ("SYSTEM_HISTORY_POINTS".toList, .int 240),
  ("SYSTEM_TEMP_PATH".toList, .text []),
  ("SYSTEM_WIFI_IFACE".toList, .text [])]

def defaults : Config := fun key => defaultSettings.lookup key

/-- What a setting holds as text. -/
def Setting.asText : Option Setting → Text
  | some (.text s) => s
  | _ => []

/-- A setting counts as true. -/
def Setting.truthy : Option Setting → Bool
  | some (.int n) => n ≠ 0
  | _ => false

def apiKeyName : Text := "API_KEY".toList

def apiKeyEnabledName : Text := "API_KEY_ENABLED".toList

def vapidPublicName : Text := "VAPID_PUBLIC_KEY".toList

def vapidPrivateName : Text := "VAPID_PRIVATE_KEY".toList

def userPrefix : Text := "USER_".toList

/-- The same in every process on one machine. -/
structure Runtime where
  /-- `float(value)`; `none` is its `ValueError`. -/
  float? : Text → Option Float
  /-- `_PUSH_AVAILABLE`. -/
  push : Bool

/-- The value cast to the type of the default; `none` is a `ValueError`. -/
def castSetting (rt : Runtime) (default : Setting) (value : Text) : Option Setting :=
  match default with
  | .int _ =>
      let low := lower (strip value)
      if ["true".toList, "yes".toList, "on".toList].contains low then some (.int 1)
      else if ["false".toList, "no".toList, "off".toList].contains low then some (.int 0)
      else (int? intMaxStrDigits value).map .int
  | .float _ => (rt.float? value).map .float
  | .text _ => some (.text value)

/-! ## Lines -/

/-- The key and the value of a line; `none` for a blank line, a comment or a line without `=`. -/
def keyValue? (line : Text) : Option (Text × Text) :=
  let stripped := strip line
  if stripped = [] ∨ stripped.head? = some '#' then none
  else
    match stripped.dropWhile (· ≠ '=') with
    | [] => none
    | _ :: value => some (strip (stripped.takeWhile (· ≠ '=')), strip value)

/-- `existing.split("=", 1)[0].strip()`. -/
def lineName (line : Text) : Text := strip (line.takeWhile (· ≠ '='))

def settingLine (key value : Text) : Text := key ++ '=' :: value

/-- `value.startswith(HASH_PREFIXES)`. -/
def isHash (value : Text) : Bool :=
  ["scrypt:".toList, "pbkdf2:".toList].any (·.isPrefixOf value)

/-- A result of `generate_password_hash`. -/
structure PasswordHash where
  text : Text
  method : isHash text
  printable : ∀ c ∈ text, isSpace c = false

/-- A base64url text: a result of `secrets.token_urlsafe` or of `_vapid_b64`. -/
structure Token where
  text : Text
  nonempty : text ≠ []
  urlSafe : ∀ c ∈ text, isSpace c = false

structure KeyPair where
  publicKey : Token
  privateKey : Token

/-- What one start of the process draws and meets. -/
structure Startup where
  /-- The result of the n-th call of `generate_password_hash`. -/
  hash : ℕ → Text → PasswordHash
  token : Token
  /-- What the key generation yields; `none` if it raises. -/
  keys : Option KeyPair
  /-- Whether the new file can be written and put in place. -/
  writable : Bool

/-- The variables of `parse_env_file`. -/
structure Scan where
  config : Config := defaults
  users : Text → Option Text := fun _ => none
  newLines : List Text := []
  needsRewrite : Bool := false
  /-- How many passwords were hashed. -/
  hashed : ℕ := 0

def Scan.keep (s : Scan) (line : Text) : Scan := { s with newLines := s.newLines ++ [line] }

def Scan.userLine (p : Startup) (s : Scan) (line username value : Text) : Scan :=
  if username = [] then s.keep line
  else if isHash value then
    { s with users := Function.update s.users username (some value) }.keep line
  else
    let hash := (p.hash s.hashed value).text
    { s with
      users := Function.update s.users username (some hash)
      needsRewrite := true
      hashed := s.hashed + 1 }.keep (settingLine (userPrefix ++ username) hash)

def Scan.line (rt : Runtime) (p : Startup) (s : Scan) (line : Text) : Scan :=
  match keyValue? line with
  | none => s.keep line
  | some (key, value) =>
      if userPrefix.isPrefixOf key then s.userLine p line (key.drop 5) value
      else if key = apiKeyName then
        if Setting.asText (s.config apiKeyName) ≠ [] then { s with needsRewrite := true }
        else
          { s with config := Function.update s.config apiKeyName (some (.text value)) }.keep line
      else
        match s.config key with
        | none => s.keep line
        | some default =>
            let setting := (castSetting rt default value).getD default
            { s with config := Function.update s.config key (some setting) }.keep line

/-! ## Generated secrets -/

def apiKeyBlock : List Text := [
  "".toList,
  "# API key for machine callers (e.g. HomeAssistant).".toList,
  "# Auto-generated on startup. To rotate: clear the value".toList,
  "# (leave 'API_KEY=') or delete the line, then restart:".toList,
  "#   sudo systemctl restart generator_control".toList,
  "# A fresh key is generated + written here on startup;".toList,
  "# update HomeAssistant's key to match or its calls 401.".toList,
  "# Set API_KEY_ENABLED=0 to disable key auth entirely.".toList]

def vapidBlock : List Text := [
  "".toList,
  "# Web Push (VAPID) keys -- auto-generated on startup.".toList,
  "# VAPID_PRIVATE_KEY is SECRET. To rotate: clear both".toList,
  "# values (or delete both lines) and restart -- a fresh".toList,
  "# keypair is generated + written here. Rotation forces".toList,
  "# browsers to re-subscribe (handled automatically).".toList]

/-- Whether an API key is generated. -/
def Scan.lacksApiKey (s : Scan) : Bool :=
  Setting.truthy (s.config apiKeyEnabledName) && Setting.asText (s.config apiKeyName) = []

def Scan.provisionApiKey (p : Startup) (s : Scan) : Scan :=
  if s.lacksApiKey then
    { s with
      config := Function.update s.config apiKeyName (some (.text p.token.text))
      newLines := fillFirst (lineName · = apiKeyName) apiKeyBlock
        (settingLine apiKeyName p.token.text) s.newLines
      needsRewrite := true }
  else s

/-- `_upsert`. -/
def upsert (key value : Text) (lines : List Text) : List Text :=
  fillFirst (lineName · = key) [] (settingLine key value) lines

/-- The lines with the pair in them. -/
def withKeyPair (pair : KeyPair) (lines : List Text) : List Text :=
  if lines.any fun l => lineName l = vapidPrivateName || lineName l = vapidPublicName then
    upsert vapidPrivateName pair.privateKey.text
      (upsert vapidPublicName pair.publicKey.text lines)
  else
    lines ++ (vapidBlock ++ [settingLine vapidPublicName pair.publicKey.text,
      settingLine vapidPrivateName pair.privateKey.text])

def Scan.lacksVapid (rt : Runtime) (s : Scan) : Bool :=
  rt.push && Setting.asText (s.config vapidPrivateName) = []

def Scan.provisionVapid (rt : Runtime) (p : Startup) (s : Scan) : Scan :=
  if s.lacksVapid rt then
    match p.keys with
    | none => s
    | some pair =>
        { s with
          config := Function.update
            (Function.update s.config vapidPrivateName (some (.text pair.privateKey.text)))
            vapidPublicName (some (.text pair.publicKey.text))
          newLines := withKeyPair pair s.newLines
          needsRewrite := true }
  else s

/-! ## The parse -/

/-- What a process has after the parse, and the file it leaves. -/
structure Parsed where
  config : Config
  users : Text → Option Text
  /-- The content of the settings file, if there is one. -/
  file : Option Text
  newApiKey : Bool
  newVapid : Bool

def scan (rt : Runtime) (p : Startup) (lines : List Text) : Scan := lines.foldl (Scan.line rt p) {}

/-- The variables at the end of the parse. -/
def provisioned (rt : Runtime) (p : Startup) (lines : List Text) : Scan :=
  ((scan rt p lines).provisionApiKey p).provisionVapid rt p

/-- `parse_env_file`; `none` if the process exits because it cannot write the file. -/
def parseEnvFile (rt : Runtime) (p : Startup) : Option Text → Option Parsed
  | none => some
      { config := defaults, users := fun _ => none, file := none
        newApiKey := false, newVapid := false }
  | some content =>
      let scanned := scan rt p (splitlines content)
      let s := provisioned rt p (splitlines content)
      let parsed (file : Text) : Parsed :=
        { config := s.config, users := s.users, file := some file
          newApiKey := scanned.lacksApiKey
          newVapid := scanned.lacksVapid rt && p.keys.isSome }
      if s.needsRewrite then
        if p.writable then some (parsed (joinLines s.newLines)) else none
      else some (parsed content)

/-! ## Lines as named values -/

/-- The name a line bears, and the value it gives if it is an entry. -/
def reading : Reading Text Text Text where
  name := lineName
  value line := (keyValue? line).map Prod.snd

theorem keyValue?_eq_some {line key value : Text} (h : keyValue? line = some (key, value)) :
    ∃ rest, (strip line).dropWhile (· ≠ '=') = '=' :: rest ∧ value = strip rest ∧
      key = strip ((strip line).takeWhile (· ≠ '=')) := by
  obtain ⟨-, found⟩ := Option.ite_none_left_eq_some.mp h
  cases split : (strip line).dropWhile (· ≠ '=') with
  | nil =>
      rw [split] at found
      cases found
  | cons c rest =>
      rw [split] at found
      cases found
      have equals : c = '=' := by
        have stop := List.head?_dropWhile_not (· ≠ '=') (strip line)
        rw [split] at stop
        simpa using stop
      exact ⟨rest, by rw [equals], rfl, rfl⟩

theorem ne_equals_of_not_mem {s : Text} (h : '=' ∉ s) : ∀ c ∈ s, decide (c ≠ '=') = true := by
  intro c hc
  rw [decide_eq_true_eq]
  rintro rfl
  exact h hc

theorem equals_not_mem_takeWhile (s : Text) : '=' ∉ s.takeWhile (· ≠ '=') := by
  intro mem
  have other := List.mem_takeWhile_imp mem
  cases other

/-- The name by which a line is found for an update is the key it is read under. -/
theorem lineName_of_keyValue {line key value : Text} (h : keyValue? line = some (key, value)) :
    lineName line = key := by
  obtain ⟨rest, split, -, rfl⟩ := keyValue?_eq_some h
  obtain ⟨a, b, whole, spaces⟩ := exists_strip line
  have before := ne_equals_of_not_mem fun mem : '=' ∈ a => absurd (spaces '=' mem) (by decide)
  have partition : strip line = (strip line).takeWhile (· ≠ '=') ++ '=' :: rest := by
    conv_lhs => rw [← List.takeWhile_append_dropWhile (p := (· ≠ '=')) (l := strip line)]
    rw [split]
  have inside := ne_equals_of_not_mem (equals_not_mem_takeWhile (strip line))
  rw [lineName]
  conv_lhs => rw [whole, partition]
  rw [List.takeWhile_append_of_pos before, strip_append_of_space spaces, List.append_assoc,
    List.takeWhile_append_of_pos inside, List.cons_append, List.takeWhile_cons_of_neg (by simp),
    List.append_nil]

theorem values_line (k line : Text) :
    reading.values k [line] =
      match keyValue? line with
      | some (key, value) => if key = k then [value] else []
      | none => [] := by
  cases entry : keyValue? line with
  | none =>
      by_cases same : lineName line = k
      · have mark : reading.value line = none := by simp [reading, entry]
        rw [Reading.values, marks_singleton same, mark]
        rfl
      · rw [Reading.values, marks_singleton_of_ne same]
        rfl
  | some e =>
      obtain ⟨key, value⟩ := e
      have named := lineName_of_keyValue entry
      by_cases same : key = k
      · have mark : reading.value line = some value := by simp [reading, entry]
        rw [Reading.values, marks_singleton (named.trans same), mark]
        simp [same]
      · rw [Reading.values, marks_singleton_of_ne fun eq => same (named.symm.trans eq)]
        simp [same]

/-- A key as the generated lines have it. -/
structure PlainKey (key : Text) : Prop where
  trimmed : Trimmed key
  nonempty : key ≠ []
  uncommented : key.head? ≠ some '#'
  noEquals : '=' ∉ key

theorem takeWhile_settingLine {key : Text} (hk : PlainKey key) (value : Text) :
    (settingLine key value).takeWhile (· ≠ '=') = key := by
  have inside := ne_equals_of_not_mem hk.noEquals
  rw [settingLine, List.takeWhile_append_of_pos inside, List.takeWhile_cons_of_neg (by simp),
    List.append_nil]

theorem lineName_settingLine {key : Text} (hk : PlainKey key) (value : Text) :
    lineName (settingLine key value) = key := by
  rw [lineName, takeWhile_settingLine hk, hk.trimmed.strip_eq]

theorem keyValue?_settingLine {key value : Text} (hk : PlainKey key) (hv : Trimmed value) :
    keyValue? (settingLine key value) = some (key, value) := by
  have whole : Trimmed (settingLine key value) := by
    have equals : Trimmed ['='] := .of_all (any_eq_false_iff.mp (by decide))
    exact hk.trimmed.append (equals.append hv)
  have inside := ne_equals_of_not_mem hk.noEquals
  have rest : (settingLine key value).dropWhile (· ≠ '=') = '=' :: value := by
    rw [settingLine, List.dropWhile_append_of_pos inside, List.dropWhile_cons_of_neg (by simp)]
  have first : (settingLine key value).head? ≠ some '#' := by
    obtain ⟨c, key, rfl⟩ := List.exists_cons_of_ne_nil hk.nonempty
    exact hk.uncommented
  have nonempty : settingLine key value ≠ [] := by simp [settingLine]
  rw [keyValue?, whole.strip_eq, if_neg (by simp [nonempty, first]), rest]
  simp only [takeWhile_settingLine hk, hk.trimmed.strip_eq, hv.strip_eq]

theorem values_settingLine {key value : Text} (hk : PlainKey key) (hv : Trimmed value) (k : Text) :
    reading.values k [settingLine key value] = if key = k then [value] else [] := by
  rw [values_line, keyValue?_settingLine hk hv]

theorem mem_of_mem_strip {s : Text} {c : Char} (h : c ∈ strip s) : c ∈ s := by
  obtain ⟨a, b, eq, -⟩ := exists_strip s
  rw [eq]
  exact List.mem_append_right _ (List.mem_append_left _ h)

/-- The key of a user's line is plain, and on one line with it. -/
theorem plainKey_of_user {line key value : Text} (entry : keyValue? line = some (key, value))
    (user : userPrefix.isPrefixOf key) : PlainKey key ∧ (OneLine line → OneLine key) := by
  obtain ⟨rest, -, -, eq⟩ := keyValue?_eq_some entry
  obtain ⟨name, split⟩ := List.isPrefixOf_iff_prefix.mp user
  refine ⟨⟨eq ▸ trimmed_strip _, ?_, ?_, fun mem => ?_⟩, fun oneLine c hc => ?_⟩
  · rw [← split]
    exact List.append_ne_nil_of_left_ne_nil (by decide) _
  · rw [← split]
    exact fun same => absurd (Option.some.inj same) (by decide)
  · rw [eq] at mem
    exact equals_not_mem_takeWhile _ (mem_of_mem_strip mem)
  · rw [eq] at hc
    exact oneLine c (mem_of_mem_strip ((List.takeWhile_sublist _).mem (mem_of_mem_strip hc)))

/-! ## What lines make of the settings -/

/-- What an entry makes of the setting of its key. -/
def absorb (rt : Runtime) (k : Text) (setting : Option Setting) (value : Text) : Option Setting :=
  if userPrefix.isPrefixOf k then setting
  else if k = apiKeyName then
    if Setting.asText setting ≠ [] then setting else some (.text value)
  else setting.map fun default => (castSetting rt default value).getD default

def userKey (name : Text) : Text := userPrefix ++ name

/-- Reading `lines` leads from `s` to `s'` and puts the lines `kept` into the new file. -/
structure Reads (rt : Runtime) (lines : List Text) (s s' : Scan) (kept : List Text) : Prop where
  newLines : s'.newLines = s.newLines ++ kept
  config : ∀ k, s'.config k = (reading.values k lines).foldl (absorb rt k) (s.config k)
  /-- The kept lines make the same of every setting. -/
  again : ∀ k, s'.config k = (reading.values k kept).foldl (absorb rt k) (s.config k)
  marks : ∀ k, userPrefix.isPrefixOf k = false → k ≠ apiKeyName →
    reading.marks k kept = reading.marks k lines
  users : ∀ name, name ≠ [] →
    s'.users name = (reading.values (userKey name) kept).getLast?.or (s.users name)
  nameless : s'.users [] = s.users []
  hashed : ∀ name, name ≠ [] → ∀ v ∈ reading.values (userKey name) kept, isHash v
  /-- Passwords that are hashed stay. -/
  usersAgain : ∀ name, name ≠ [] → (∀ v ∈ reading.values (userKey name) lines, isHash v) →
    reading.values (userKey name) kept = reading.values (userKey name) lines
  whole : s'.needsRewrite = false → s.needsRewrite = false ∧ kept = lines
  oneLine : (∀ l ∈ lines, OneLine l) → ∀ l ∈ kept, OneLine l

variable {rt : Runtime} {p : Startup}

theorem reads_nil (s : Scan) : Reads rt [] s s [] where
  newLines := (List.append_nil _).symm
  config _ := rfl
  again _ := rfl
  marks _ _ _ := rfl
  users _ _ := rfl
  nameless := rfl
  hashed _ _ _ hv := nomatch hv
  usersAgain _ _ _ := rfl
  whole unchanged := ⟨unchanged, rfl⟩
  oneLine plain := plain

theorem Reads.append {s m s' : Scan} {as bs ks js : List Text} (first : Reads rt as s m ks)
    (second : Reads rt bs m s' js) : Reads rt (as ++ bs) s s' (ks ++ js) where
  newLines := by rw [second.newLines, first.newLines, List.append_assoc]
  config k := by rw [values_append, List.foldl_append, second.config k, first.config k]
  again k := by rw [values_append, List.foldl_append, second.again k, first.again k]
  marks k notUser notApi := by
    rw [marks_append, marks_append, first.marks k notUser notApi, second.marks k notUser notApi]
  users name named := by
    rw [values_append, List.getLast?_append, Option.or_assoc, second.users name named,
      first.users name named]
  nameless := second.nameless.trans first.nameless
  hashed name named v hv := by
    rw [values_append, List.mem_append] at hv
    exact hv.elim (first.hashed name named v) (second.hashed name named v)
  usersAgain name named allHashed := by
    rw [values_append] at allHashed ⊢
    rw [values_append, first.usersAgain name named fun v hv => allHashed v
      (List.mem_append_left _ hv),
      second.usersAgain name named fun v hv => allHashed v (List.mem_append_right _ hv)]
  whole unchanged := by
    obtain ⟨unchanged, rfl⟩ := second.whole unchanged
    obtain ⟨unchanged, rfl⟩ := first.whole unchanged
    exact ⟨unchanged, rfl⟩
  oneLine plain l hl := by
    rw [List.forall_mem_append] at plain
    exact (List.mem_append.mp hl).elim (first.oneLine plain.1 l) (second.oneLine plain.2 l)

/-- A line that is kept as it is. -/
theorem reads_keep {s t : Scan} {line : Text} (newLines : t.newLines = s.newLines)
    (config : ∀ k, t.config k = (reading.values k [line]).foldl (absorb rt k) (s.config k))
    (users : ∀ name, name ≠ [] →
      t.users name = (reading.values (userKey name) [line]).getLast?.or (s.users name))
    (nameless : t.users [] = s.users [])
    (hashed : ∀ name, name ≠ [] → ∀ v ∈ reading.values (userKey name) [line], isHash v)
    (unchanged : t.needsRewrite = s.needsRewrite) : Reads rt [line] s (t.keep line) [line] where
  newLines := congrArg (· ++ [line]) newLines
  config := config
  again := config
  marks _ _ _ := rfl
  users := users
  nameless := nameless
  hashed := hashed
  usersAgain _ _ _ := rfl
  whole still := ⟨unchanged.symm.trans still, rfl⟩
  oneLine plain := plain

theorem isPrefixOf_userKey (name : Text) : userPrefix.isPrefixOf (userKey name) :=
  List.isPrefixOf_iff_prefix.mpr (List.prefix_append _ _)

/-- An entry changes the setting of its key only. -/
theorem config_entry {s : Scan} {line key value : Text} {config : Config}
    (entry : keyValue? line = some (key, value))
    (here : config key = absorb rt key (s.config key) value)
    (off : ∀ k, k ≠ key → config k = s.config k) (k : Text) :
    config k = (reading.values k [line]).foldl (absorb rt k) (s.config k) := by
  rw [values_line, entry]
  by_cases same : key = k
  · subst same
    simpa using here
  · simpa [same] using off k (Ne.symm same)

/-- A line that is no user's. -/
theorem reads_keep_other {s t : Scan} {line : Text}
    (other : ∀ name, reading.values (userKey name) [line] = []) (newLines : t.newLines = s.newLines)
    (config : ∀ k, t.config k = (reading.values k [line]).foldl (absorb rt k) (s.config k))
    (users : t.users = s.users) (unchanged : t.needsRewrite = s.needsRewrite) :
    Reads rt [line] s (t.keep line) [line] := by
  refine reads_keep newLines config (fun name _ => ?_) (congrFun users []) (fun name _ v hv => ?_)
    unchanged
  · rw [other name, users]
    rfl
  · rw [other name] at hv
    cases hv

theorem absorb_user {k : Text} (user : userPrefix.isPrefixOf k) (setting : Option Setting)
    (value : Text) : absorb rt k setting value = setting := if_pos user

/-- A user's line changes no setting. -/
theorem config_userEntry {s : Scan} {line key value : Text}
    (entry : keyValue? line = some (key, value)) (user : userPrefix.isPrefixOf key) (k : Text) :
    s.config k = (reading.values k [line]).foldl (absorb rt k) (s.config k) :=
  config_entry entry (absorb_user user _ _).symm (fun _ _ => rfl) k

/-- The values a user's line gives. -/
theorem values_userLine {line name value : Text}
    (entry : keyValue? line = some (userKey name, value)) (other : Text) :
    reading.values (userKey other) [line] = if name = other then [value] else [] := by
  rw [values_line, entry]
  simp [userKey]

/-- A line with a plaintext password is replaced by one with its hash. -/
theorem reads_plaintext {s : Scan} {line name value : Text}
    (entry : keyValue? line = some (userKey name, value)) (named : name ≠ [])
    (plaintext : ¬ isHash value) (hash : PasswordHash) :
    Reads rt [line] s
      ({ s with
        users := Function.update s.users name (some hash.text)
        needsRewrite := true
        hashed := s.hashed + 1 }.keep (settingLine (userKey name) hash.text))
      [settingLine (userKey name) hash.text] := by
  have user := isPrefixOf_userKey name
  obtain ⟨plain, oneLine⟩ := plainKey_of_user entry user
  have valuesKept (k : Text) := values_settingLine plain (Trimmed.of_all hash.printable) k
  constructor
  case newLines => rfl
  case config => exact config_userEntry entry user
  case again =>
    intro k
    rw [valuesKept]
    split
    case isTrue same => exact (absorb_user (same ▸ user) _ _).symm
    case isFalse => rfl
  case marks =>
    intro k notUser _
    have ne : userKey name ≠ k := by
      rintro rfl
      rw [user] at notUser
      cases notUser
    rw [marks_singleton_of_ne, marks_singleton_of_ne]
    · exact (lineName_of_keyValue entry).trans_ne ne
    · exact (lineName_settingLine plain _).trans_ne ne
  case users =>
    intro other _
    rw [valuesKept]
    by_cases same : name = other
    · simp [same, Scan.keep]
    · simp [same, Ne.symm same, userKey, Scan.keep]
  case nameless => exact Function.update_of_ne (Ne.symm named) _ _
  case hashed =>
    intro other _ v hv
    rw [valuesKept] at hv
    split at hv
    · rw [List.mem_singleton.mp hv]
      exact hash.method
    · cases hv
  case usersAgain =>
    intro other _ allHashed
    rw [valuesKept, values_userLine entry]
    by_cases same : name = other
    · rw [values_userLine entry, if_pos same] at allHashed
      exact absurd (allHashed value List.mem_cons_self) plaintext
    · simp [same, userKey]
  case whole => exact fun still => nomatch still
  case oneLine =>
    intro plainLines l hl
    rw [List.mem_singleton.mp hl]
    refine (oneLine (plainLines line List.mem_cons_self)).append ?_
    have equals : OneLine ['='] := by decide
    exact equals.append (.of_no_space hash.printable)

/-- A user's line gives a hash, or is kept for the lack of a name. -/
theorem reads_userLine {s : Scan} {line name value : Text}
    (entry : keyValue? line = some (userKey name, value)) :
    ∃ kept, Reads rt [line] s (s.userLine p line name value) kept := by
  have config (k : Text) :
      s.config k = (reading.values k [line]).foldl (absorb rt k) (s.config k) :=
    config_userEntry entry (isPrefixOf_userKey name) k
  rw [Scan.userLine]
  by_cases unnamed : name = []
  · rw [if_pos unnamed]
    have silent (other : Text) (named : other ≠ []) :
        reading.values (userKey other) [line] = [] := by
      rw [values_userLine entry, if_neg (unnamed ▸ Ne.symm named)]
    refine ⟨[line], reads_keep rfl config (fun other named => ?_) rfl
      (fun other named v hv => ?_) rfl⟩
    · rw [silent other named]
      rfl
    · rw [silent other named] at hv
      cases hv
  rw [if_neg unnamed]
  by_cases hash : isHash value
  · rw [if_pos hash]
    refine ⟨[line], reads_keep rfl config (fun other named => ?_)
      (Function.update_of_ne (Ne.symm unnamed) _ _) (fun other named v hv => ?_) rfl⟩
    · rw [values_userLine entry]
      by_cases same : name = other
      · simp [same]
      · simp [same, Ne.symm same]
    · rw [values_userLine entry] at hv
      split at hv
      · rw [List.mem_singleton.mp hv]
        exact hash
      · cases hv
  · rw [if_neg hash]
    exact ⟨_, reads_plaintext entry unnamed hash _⟩

/-- A line for the API key after the first that is not empty is dropped. -/
theorem reads_drop {s : Scan} {line value : Text}
    (entry : keyValue? line = some (apiKeyName, value))
    (known : Setting.asText (s.config apiKeyName) ≠ []) :
    Reads rt [line] s { s with needsRewrite := true } [] := by
  have notUser : ¬ userPrefix.isPrefixOf apiKeyName := by decide
  have absorbed : s.config apiKeyName = absorb rt apiKeyName (s.config apiKeyName) value := by
    rw [absorb, if_neg notUser, if_pos rfl, if_pos known]
  have other (name : Text) : reading.values (userKey name) [line] = [] := by
    have ne : apiKeyName ≠ userKey name := fun same => notUser (same ▸ isPrefixOf_userKey name)
    rw [values_line, entry]
    exact if_neg ne
  constructor
  case newLines => exact (List.append_nil _).symm
  case config => exact config_entry entry absorbed fun _ _ => rfl
  case again => exact fun _ => rfl
  case marks =>
    intro k _ notApi
    have ne : reading.name line ≠ k := (lineName_of_keyValue entry).trans_ne (Ne.symm notApi)
    exact (marks_singleton_of_ne ne).symm
  case users => exact fun _ _ => rfl
  case nameless => rfl
  case hashed => exact fun _ _ _ hv => nomatch hv
  case usersAgain => exact fun name _ _ => (other name).symm
  case whole => exact fun still => nomatch still
  case oneLine => exact fun _ _ hl => nomatch hl

/-- One line of the file. -/
theorem reads_line (rt : Runtime) (p : Startup) (s : Scan) (line : Text) :
    ∃ kept, Reads rt [line] s (s.line rt p line) kept := by
  rw [Scan.line]
  cases entry : keyValue? line with
  | none =>
      have silent (k : Text) : reading.values k [line] = [] := by rw [values_line, entry]
      refine ⟨[line], reads_keep_other (fun _ => silent _) rfl (fun k => ?_) rfl rfl⟩
      rw [silent]
      rfl
  | some e =>
      obtain ⟨key, value⟩ := e
      dsimp only
      by_cases user : userPrefix.isPrefixOf key
      · rw [if_pos user]
        obtain ⟨name, rfl⟩ := List.isPrefixOf_iff_prefix.mp user
        exact reads_userLine entry
      rw [if_neg user]
      have other (name : Text) : reading.values (userKey name) [line] = [] := by
        have ne : key ≠ userKey name := fun same => user (same ▸ isPrefixOf_userKey name)
        rw [values_line, entry]
        exact if_neg ne
      by_cases api : key = apiKeyName
      · subst api
        rw [if_pos rfl]
        by_cases known : Setting.asText (s.config apiKeyName) ≠ []
        · rw [if_pos known]
          exact ⟨[], reads_drop entry known⟩
        · rw [if_neg known]
          refine ⟨[line], reads_keep_other other rfl (config_entry entry ?_ fun k ne => ?_) rfl rfl⟩
          · rw [absorb, if_neg user, if_pos rfl, if_neg known]
            exact Function.update_self apiKeyName _ s.config
          · exact Function.update_of_ne ne _ _
      · rw [if_neg api]
        cases setting : s.config key with
        | none =>
            refine ⟨[line], reads_keep_other other rfl
              (config_entry entry ?_ fun _ _ => rfl) rfl rfl⟩
            rw [absorb, if_neg user, if_neg api, setting]
            rfl
        | some default =>
            refine ⟨[line], reads_keep_other other rfl
              (config_entry entry ?_ fun k ne => ?_) rfl rfl⟩
            · rw [absorb, if_neg user, if_neg api, setting]
              exact Function.update_self key _ s.config
            · exact Function.update_of_ne ne _ _

/-- Any lines. -/
theorem reads_lines (rt : Runtime) (p : Startup) (s : Scan) (lines : List Text) :
    ∃ kept, Reads rt lines s (lines.foldl (Scan.line rt p) s) kept := by
  induction lines generalizing s with
  | nil => exact ⟨[], reads_nil s⟩
  | cons line rest ih =>
      obtain ⟨first, readsFirst⟩ := reads_line rt p s line
      obtain ⟨later, readsLater⟩ := ih (s.line rt p line)
      exact ⟨first ++ later, readsFirst.append readsLater⟩

end GeneratorPi
