import GeneratorPi.Consent
import GeneratorPi.Lib.Handled
import GeneratorPi.Lib.PyJson
import GeneratorPi.Lib.Rounding

/-!
# The update worker over an untyped manifest

`_run_update` (`genpi/updater.py`) statement by statement, with what it calls there, on the
manifest as `json.loads` returned it.  Whatever lies outside is the `World`: it answers the calls
of a run in their order, by a value or by raising.  Waiting for a decision and reading the clock
do not raise, nor does the application log, which is left out as are the progress figures and the
texts of the files that are written.
-/

namespace GeneratorPi

namespace SelfUpdate

open PyText PyJson Handled Noninterference

/-! ## The process -/

/-- What the calls of a run meet: whether the `n`th raises, and what it answers if not. -/
structure World where
  manifest : Json
  raises : ℕ → Option PyError := fun _ => none
  /-- Answers of `exists`, `is_file`, `os.access`, `shutil.which` and the like. -/
  flag : ℕ → Bool := fun _ => true
  /-- Sizes in bytes. -/
  number : ℕ → ℕ := fun _ => 0
  /-- Digests and time stamps. -/
  text : ℕ → String := fun _ => ""
  names : ℕ → List String := fun _ => []
  clock : ℕ → ℚ := fun _ => 0
  /-- Whether the event is set before the wait times out, and the choice that is held then. -/
  woken : ℕ → Bool := fun _ => false
  choice : ℕ → Option Choice := fun _ => none

/-- The settings and the installation. -/
structure Host where
  /-- `APP_VERSION`. -/
  installed : Text
  /-- `SCRIPT_DIR`. -/
  root : Path
  /-- `SERVICE_ENABLED` and `AUTOSTART`, where they are set. -/
  serviceEnabled : Option Text := none
  autostart : Option Text := none
  printable : Printable
  isIdentifier : Text → Bool

/-- Warnings and errors of a stage. -/
structure Tally where
  warn : ℕ := 0
  err : ℕ := 0

structure MissingDep where
  apt : Json
  feature : Json
  required : Bool

/-- `_update_state`, its phase and its prompt being those of the handshake. -/
structure UpdateState where
  shared : Handshake := { phase := .idle }
  message : String := ""
  error : Option String := none
  version : Option Json := none
  systemd : Option Bool := none
  log : List String := []
  missingDeps : List MissingDep := []
  depsInstallCmd : String := ""
  installable : Bool := true
  importantNotes : List Text := []
  stage : ℕ := 1
  stage1 : Tally := {}
  stage2 : Tally := {}

/-- The process of a run: its world and the calls made so far, the shared state, and the locals that
the error handler reads. -/
structure Machine where
  world : World
  calls : ℕ := 0
  update : UpdateState := {}
  zpath : Option String := none
  swapped : Bool := false
  tApply : Option ℚ := none
  /-- The run launched the bootstrap script or scheduled the restart of the process. -/
  handedOver : Bool := false

abbrev Run (α : Type) := EStateM PyError Machine α

/-- A call that may raise. -/
def ask {α : Type} (answer : World → ℕ → α) : Run α := fun m =>
  let next := { m with calls := m.calls + 1 }
  match m.world.raises m.calls with
  | some e => .error e next
  | none => .ok (answer m.world m.calls) next

/-- A call that answers nothing. -/
def perform : Run Unit := ask fun _ _ => ()

def yes : Run Bool := ask World.flag

/-- A call that cannot raise. -/
def observe {α : Type} (answer : World → ℕ → α) : Run α := fun m =>
  .ok (answer m.world m.calls) { m with calls := m.calls + 1 }

/-- `except OSError: pass`. -/
def ignoringOSError (p : Run Unit) : Run Unit :=
  attempt p fun e => if e.kind = .os then pure () else throw e

/-! ## Messages -/

def modifyState (f : UpdateState → UpdateState) : Run Unit :=
  modify fun m => { m with update := f m.update }

/-- `_update_log`. -/
def updateLog (line : String) : Run Unit :=
  modifyState fun u => { u with log := u.log ++ [line] }

/-- `_update_log_append`. -/
def updateLogAppend (text : String) : Run Unit :=
  modifyState fun u =>
    { u with log := match u.log.getLast? with
      | some last => u.log.dropLast ++ [last ++ text]
      | none => [text] }

inductive Severity where
  | warn
  | err
  deriving DecidableEq

/-- `_SEV_MARK`. -/
def Severity.mark : Severity → String
  | .warn => "\x01"
  | .err => "\x02"

/-- `_update_sev`. -/
def updateSev (line : String) (severity : Severity) : Run Unit := updateLog (severity.mark ++ line)

/-- Count a line for the current stage. -/
def count (f : Tally → Tally) : Run Unit :=
  modifyState fun u =>
    if u.stage = 2 then { u with stage2 := f u.stage2 } else { u with stage1 := f u.stage1 }

/-- `_update_warn`. -/
def updateWarn (line : String) : Run Unit := do
  updateLog line
  count fun t => { t with warn := t.warn + 1 }

/-- `_update_err`. -/
def updateErr (line : String) : Run Unit := do
  updateLog line
  count fun t => { t with err := t.err + 1 }

def plural (n : ℕ) : String := if n = 1 then "" else "s"

/-- `_stage_summary`. -/
def stageSummary (stage : ℕ) : Run Unit := do
  let m ← get
  let tally := if stage = 2 then m.update.stage2 else m.update.stage1
  if tally.warn ≠ 0 then
    updateLog (s!"[WARNING] Stage {stage}: {tally.warn} warning" ++ plural tally.warn ++
      " encountered")
  if tally.err ≠ 0 then
    updateLog (s!"[ERROR] Stage {stage}: {tally.err} error" ++ plural tally.err ++ " encountered")

/-- `_update_phase`. -/
def updatePhase (phase : Phase) (message : String) (error : Option String := none) : Run Unit :=
  modifyState fun u => { u with shared := { u.shared with phase }, message, error }

def Choice.upper : Choice → String
  | .proceed => "PROCEED"
  | .revert => "REVERT"

/-- `_await_decision`. -/
def awaitDecision (prompt : Prompt) : Run Choice := do
  modifyState fun u =>
    { u with
      shared := { u.shared with phase := .awaiting, prompt := some prompt, choice := none }
      message := prompt.message }
  modifyState fun u => { u with shared := { u.shared with event := false } }
  let (got, held) ← observe fun w n => (w.woken n, w.choice n)
  let choice := decided got held
  modifyState fun u => { u with shared := { u.shared with prompt := none, choice := held } }
  updateLog ("→ " ++ Choice.upper choice)
  return choice

/-! ## Paths -/

def showText (t : Text) : String := String.ofList t

def showPath (p : Path) : String := String.ofList ('/' :: ['/'].intercalate p)

/-- `str(j)` in a message. -/
def Host.show (host : Host) (j : Json) : String := showText (j.text host.printable)

/-- `SCRIPT_DIR / p`. -/
def livePath (host : Host) (p : Json) : Except PyError Path := do
  let path ← p.asText
    ⟨.type, "unsupported operand type(s) for /: 'PosixPath' and '" ++ p.typeName ++ "'"⟩
  return joinPath host.root path

/-- `manifest.get("files") or []`. -/
def filesOf (manifest : Json) : Except PyError Json := do
  return (← manifest.get "files" .null).orElse (.list [])

/-! ## Before anything is downloaded -/

/-- `_http_get_bytes`, and the number of bytes it returns. -/
def httpGetBytes (limit : ℤ) : Run ℕ := do
  let size ← ask World.number
  if limit < size then throw ⟨.value, s!"response exceeds {limit} bytes"⟩
  return size

/-- The checks of `_validate_manifest_paths` on the path of an entry. -/
def validatePath (host : Host) (p : Json) : Except PyError Unit :=
  let unsafePath : PyError :=
    ⟨.value, "unsafe manifest path: " ++ showText (p.repr host.printable)⟩
  if !p.truthy then .error unsafePath
  else do
    let path ← p.asText (p.noAttribute "startswith")
    match pathError? path with
    | some (.unsafePath _) => throw unsafePath
    | some (.secret _) =>
        throw ⟨.value, "manifest may not overwrite a secret/cert file: " ++
          showText (p.repr host.printable)⟩
    | none => return ()

/-- One entry of `_validate_manifest_paths`. -/
def validateEntry (host : Host) (f : Json) : Except PyError Unit := do
  validatePath host (← f.get "path" (.str []))

/-- `_validate_manifest_paths`. -/
def validateManifestPaths (host : Host) (manifest : Json) : Except PyError Unit := do
  let files ← filesOf manifest
  for f in ← files.iter do validateEntry host f

theorem validatePath_eq_ok {host : Host} {p : Json} :
    validatePath host p = .ok () ↔ ∃ path, p = .str path ∧ pathError? path = none := by
  unfold validatePath
  by_cases set : p.truthy = true
  · simp only [set, Bool.not_true, Bool.false_eq_true, if_false, bind_eq_ok, Json.asText_eq_ok]
    refine exists_congr fun path => and_congr_right fun _ => ?_
    cases pathError? path with
    | none => simp [pure, Except.pure]
    | some e => cases e <;> simp [throw, throwThe, MonadExceptOf.throw]
  · simp only [set, Bool.not_false, if_true, reduceCtorEq, false_iff, not_exists, not_and]
    rintro path rfl
    -- The only text that is not truthy is the empty one.
    obtain rfl : path = [] := by simpa [Json.truthy] using set
    decide

theorem validateEntry_eq_ok {host : Host} {f : Json} :
    validateEntry host f = .ok () ↔
      ∃ entries path, f = .dict entries ∧ entries.lookup "path".toList = some (.str path) ∧
        pathError? path = none := by
  unfold validateEntry
  simp only [bind_eq_ok, Json.get_eq_ok, validatePath_eq_ok]
  constructor
  · rintro ⟨_, ⟨entries, rfl, found⟩, path, rfl, safe⟩
    refine ⟨entries, path, rfl, ?_, safe⟩
    cases held : entries.lookup "path".toList with
    | none =>
        -- A path that is missing reads as the empty text.
        rw [held] at found
        cases found
        exact absurd safe (by decide)
    | some value =>
        rw [held] at found
        exact congrArg some found
  · rintro ⟨entries, path, rfl, found, safe⟩
    exact ⟨_, ⟨entries, rfl, by rw [found]; rfl⟩, path, rfl, safe⟩

/-- What is accepted is a collection of maps, each with a safe text under `path`. -/
theorem validateManifestPaths_eq_ok {host : Host} {manifest : Json} :
    validateManifestPaths host manifest = .ok () ↔
      ∃ files items, filesOf manifest = .ok files ∧ files.iter = .ok items ∧
        ∀ f ∈ items, ∃ entries path, f = .dict entries ∧
          entries.lookup "path".toList = some (.str path) ∧ pathError? path = none := by
  unfold validateManifestPaths
  rw [bind_eq_ok]
  refine exists_congr fun files => ?_
  rw [bind_eq_ok, ← exists_and_left]
  refine exists_congr fun items => and_congr_right fun _ => and_congr_right fun _ => ?_
  rw [forIn_eq_ok]
  exact forall₂_congr fun f _ => validateEntry_eq_ok

/-- A file list of the expected shape. -/
def filesJson (files : List ManifestFile) : Json :=
  .list (files.map fun f =>
    .dict [("path".toList, .str f.path), ("sha256".toList, .str f.sha256)])

theorem filesOf_filesJson {entries : List (Text × Json)} {files : List ManifestFile}
    (held : entries.lookup "files".toList = some (filesJson files)) :
    filesOf (.dict entries) = .ok (filesJson files) := by
  have read : Json.get (.dict entries) "files" .null = .ok (filesJson files) :=
    Json.get_eq_ok.mpr ⟨entries, rfl, by rw [held]; rfl⟩
  unfold filesOf
  rw [read]
  cases files with
  | nil => rfl
  | cons f files => rfl

/-- On a list of the expected shape this is the validation of the typed manifest. -/
theorem validateManifestPaths_filesJson {host : Host} {entries : List (Text × Json)}
    {files : List ManifestFile} (held : entries.lookup "files".toList = some (filesJson files)) :
    validateManifestPaths host (.dict entries) = .ok () ↔
      GeneratorPi.validateManifestPaths files = none := by
  have path (f : ManifestFile) :
      [("path".toList, Json.str f.path), ("sha256".toList, .str f.sha256)].lookup "path".toList =
        some (.str f.path) := by simp [List.lookup]
  rw [validateManifestPaths_eq_ok, validateManifestPaths_eq_none]
  constructor
  · rintro ⟨_, items, found, listed, safe⟩ f mem
    obtain rfl := Except.ok.inj ((filesOf_filesJson held).symm.trans found)
    obtain rfl := Except.ok.inj listed
    obtain ⟨_, _, same, read, safePath⟩ := safe _ (List.mem_map_of_mem mem)
    cases same
    cases (path f).symm.trans read
    exact safePath
  · intro safe
    refine ⟨filesJson files, _, filesOf_filesJson held, rfl, fun j mem => ?_⟩
    obtain ⟨f, listed, rfl⟩ := List.mem_map.mp mem
    exact ⟨_, f.path, rfl, path f, safe f listed⟩

/-- `_validate_version`. -/
def validateVersion (host : Host) (version : Json) : Run Unit := do
  if !(version.truthy && validVersion (version.text host.printable)) then
    throw ⟨.value, "unsafe manifest version: " ++ showText (version.repr host.printable)⟩

/-- The shapes of `incompatible_versions` that are brought to a map. -/
def incompatibleOf (P : Printable) : Json → Incompatible Text
  | .str s => .text s
  | .list items => .list (items.map (·.text P))
  | .dict entries => .dict (entries.map fun entry => (entry.1, entry.2.text P))
  | _ => .other

/-- `_off` of `_service_skip_reason`. -/
def switchedOff (v : Text) : Bool :=
  ["false", "0", "no", "off", "disabled"].any fun off => lower (strip v) = off.toList

/-- `_service_skip_reason`. -/
def serviceSkipReason (host : Host) : Run (Option String) := do
  if host.serviceEnabled.any switchedOff then
    return some "service disabled in config (SERVICE_ENABLED is off)"
  if host.autostart.any switchedOff then
    return some "autostart disabled in config (AUTOSTART is off)"
  if !(← yes) then
    return some "no systemd service unit installed (not a service-managed install)"
  if !(← yes) then
    return some "systemctl not available (not a systemd / Raspberry Pi OS host)"
  return none

/-- `_ensure_backup_dir`: make it, write the probe, unlink the probe. -/
def ensureBackupDir : Run Unit := do
  perform
  perform
  perform

/-- One line of the preflight check. -/
def passed (message : String) : Run Unit := updateLog ("  " ++ message ++ " … ok")

/-- `_preflight_check`. -/
def preflightCheck (host : Host) (manifest : Json) : Run Unit := do
  ensureBackupDir
  passed "backups directory writable (rollback path)"
  if !(← yes) then throw ⟨.os, "project root is not writable: " ++ showPath host.root⟩
  passed "project root writable"
  if !(← yes) then throw ⟨.os, "cannot write the staging area under: " ++ showPath host.root⟩
  passed "staging area writable"
  let files ← filesOf manifest
  for f in ← files.iter do
    let target ← livePath host (← f.item "path")
    if ← yes then
      if !(← yes) then
        throw ⟨.os, "target directory is not writable: " ++ showPath target.dropLast⟩
    if ← yes then
      if !(← yes) then throw ⟨.os, "target file is not writable: " ++ showPath target⟩
  passed s!"all {← files.len} target files writable"
  let mut bytes := 0
  for f in ← files.iter do
    bytes := bytes + (← (← f.get "bytes" (.int 0)).toInt host.printable)
  let need := bytes * 3 + 5000000
  let free ← attempt (some <$> ask World.number) fun e =>
    if e.kind = .os then pure none else throw e
  if let some free := free then
    if free < need then
      throw ⟨.os, "insufficient free disk space for update: need ~" ++ (← intText need) ++
        s!", have {free}"⟩
    passed (s!"free disk space ({free / 1000000} MB free, need ~" ++
      (← intText (need / 1000000)) ++ " MB)")

/-- `check_manifest_dependencies`. -/
def checkManifestDependencies (host : Host) (manifest : Json) : Run (List Json) := do
  let mut missing := []
  for dep in ← ((← manifest.get "dependencies" .null).orElse (.list [])).iter do
    match ← dep.get "module" .null with
    | .str name =>
        if host.isIdentifier name then
          -- A broken install counts as missing.
          let present ← attempt yes fun _ => pure false
          if !present then missing := missing ++ [dep]
    | _ => pure ()
  return missing

/-- `_APT_PKG_RE.match`, whose `$` also matches before a final newline. -/
def aptName (name : Text) : Bool :=
  let body := if name.getLast? = some '\n' then name.dropLast else name
  let first (c : Char) : Bool := c.isLower || c.isDigit
  match body with
  | [] => false
  | c :: rest => first c && rest.all fun c => first c || c ∈ ['+', '.', '-']

/-- `dependency_install_command`. -/
def dependencyInstallCommand (missing : List Json) : Run String := do
  let mut packages : List Text := []
  for dep in missing do
    match ← dep.get "apt" .null with
    | .str name => if aptName name then packages := packages ++ [name]
    | _ => pure ()
  if packages.isEmpty then return ""
  let sorted := packages.dedup.insertionSort fun a b => ¬ b < a
  return "sudo apt install -y " ++ String.intercalate " " (sorted.map showText)

/-- The `[CHECKING DEPENDENCIES]` section. -/
def reportDependencies (host : Host) (manifest : Json) : Run Unit := do
  updateLog "[CHECKING DEPENDENCIES]"
  updatePhase .checking "Checking declared dependencies…"
  let missing ← checkManifestDependencies host manifest
  let command ← dependencyInstallCommand missing
  let mut missingDeps := []
  for dep in missing do
    missingDeps := missingDeps ++ [{
      apt := ← dep.get "apt" (.str [])
      feature := ← dep.get "feature" (.str [])
      required := (← dep.get "required" .null).truthy : MissingDep }]
  let shown := missingDeps
  modifyState fun u => { u with missingDeps := shown, depsInstallCmd := command }
  if missing.isEmpty then
    updateLog "  all declared dependencies present … ok"
  else
    let mut severity := Severity.warn
    for dep in missing do
      let apt ← dep.get "apt" (.str ['?'])
      let feature ← dep.get "feature" (.str [])
      let dependency := "dependency: " ++ host.show apt ++ " (" ++ host.show feature ++ ")"
      if (← dep.get "required" .null).truthy then
        severity := .err
        updateErr ("  ERROR: Missing (required) " ++ dependency)
      else updateWarn ("  WARNING: Missing (optional) " ++ dependency)
    updateSev ("  The updater will NOT install these — run the following command over SSH, " ++
      "then restart the application to resolve:") severity
    updateSev ("    " ++ command) severity

/-! ## Stage 1 -/

/-- The download loop of `_download_and_verify`. -/
def downloadFiles (host : Host) (files : List Json) : Run Unit := do
  for f in files do
    let rel ← f.item "path"
    let size ← (← f.get "bytes" (.int 0)).toInt host.printable
    updatePhase .downloading ("Downloading " ++ host.show rel ++ "…")
    let path ← rel.asText
      ⟨.type, "can only concatenate str (not \"" ++ rel.typeName ++ "\") to str"⟩
    let received ← httpGetBytes (max (size + 4096) 8192)
    -- The directory, then the file.
    perform
    perform
    updateLog ("  " ++ showText path ++ s!" … {received} bytes")

/-- The comparison of a digest with the one the manifest lists. -/
def checkDigest (host : Host) (f : Json) : Run Unit := do
  let rel ← f.item "path"
  let want ← f.item "sha256"
  let _ ← livePath host rel
  let got ← ask World.text
  if !want.isText got.toList then
    throw ⟨.value, "hash mismatch for " ++ host.show rel ++ ": expected " ++
      host.show (← want.firstN 12) ++ "…, got " ++ showText (got.toList.take 12) ++ "…"⟩
  updateLog ("  " ++ host.show rel ++ " … ok")

/-- The compile check of `_download_and_verify`. -/
def compileFiles (files : List Json) : Run Unit := do
  let mut modules : List Text := []
  for f in files do
    let rel ← f.item "path"
    let path ← rel.asText (rel.noAttribute "endswith")
    if ".py".toList.isSuffixOf path then modules := modules ++ [path]
  for path in modules do
    attempt perform fun e =>
      if e.kind = .compile then
        throw ⟨.value, "staged " ++ showText path ++ " failed to compile: " ++ e.message⟩
      else throw e
  if !modules.isEmpty then updateLog s!"  {modules.length} .py file(s) compile … ok"

/-- `_download_and_verify`. -/
def downloadAndVerify (host : Host) (manifest : Json) : Run Unit := do
  let files ← filesOf manifest
  if !files.truthy then throw ⟨.value, "manifest lists no files"⟩
  validateManifestPaths host manifest
  if ← yes then perform
  perform
  let number ← files.len
  downloadFiles host (← files.iter)
  updateLog s!"[VERIFYING] SHA-256 of {number} files"
  updatePhase .verifying "Verifying SHA-256…"
  for f in ← files.iter do checkDigest host f
  compileFiles (← files.iter)

/-- `_prune_backups`. -/
def pruneBackups : Run Unit :=
  swallow do
    let zips ← ask World.names
    for _ in zips.drop 20 do ignoringOSError perform

/-- `_make_backup`, and the name of the archive. -/
def makeBackup (host : Host) (manifest : Json) : Run String := do
  perform
  let mut paths := []
  for f in ← (← filesOf manifest).iter do
    paths := paths ++ [← f.item "path"]
  let mut present := []
  for p in paths do
    let _ ← livePath host p
    if ← yes then present := present ++ [p]
  for p in paths do
    let _ ← livePath host p
    let _ ← yes
  let stamp ← observe World.text
  let name := "backup-" ++ stamp ++ "-v" ++ showText host.installed ++ ".zip"
  let zpath := showPath (host.root ++ backupDir ++ [name.toList])
  -- Open, write every file and the list of the added ones, close.
  perform
  for _ in present do perform
  perform
  perform
  perform
  if !(← yes) then throw ⟨.os, "backup archive failed integrity check: " ++ zpath⟩
  perform
  for p in present do
    if !(← yes) then throw ⟨.os, "backup archive is missing/corrupt for " ++ host.show p⟩
  perform
  pruneBackups
  return name

/-- Discard the staged download, best effort. -/
def discardStaging : Run Unit :=
  swallow do if ← yes then perform

/-! ## Stage 2 -/

/-- `shlex.quote`, as far as it raises. -/
def quote (j : Json) : Except PyError Unit :=
  if j.truthy then
    match j with
    | .str _ => .ok ()
    | j => .error ⟨.type, "expected string or bytes-like object, got '" ++ j.typeName ++ "'"⟩
  else .ok ()

/-- `_write_bootstrap_script`. -/
def writeBootstrapScript (manifest version : Json) : Run Unit := do
  let mut paths := []
  for f in ← (← filesOf manifest).iter do
    paths := paths ++ [← f.item "path"]
  for p in paths do quote p
  quote version
  -- `mkstemp`, `close`, `write_text` and `chmod`.
  perform
  perform
  perform
  perform

/-- `_write_update_result`. -/
def writeUpdateResult : Run Unit :=
  swallow do
    perform
    perform
    perform

/-- The service branch: the bootstrap script swaps the files and restarts the service. -/
def launchBootstrap (host : Host) (manifest version : Json) : Run Unit := do
  modifyState fun u => { u with systemd := some true }
  updateLog "[RESTARTING] swapping files + restarting the service…"
  updatePhase .restarting ("Applying v" ++ host.show version ++ " + restarting service…")
  -- Seed the log that the script appends to.
  ignoringOSError do
    perform
    perform
  writeBootstrapScript manifest version
  perform
  modify fun m => { m with handedOver := true }

def performIf (b : Bool) : Run Unit := if b then perform else pure ()

def sizeIf (b : Bool) : Run ℕ := if b then ask World.number else pure 0

/-- One file of `_swap`. -/
def swapFile (host : Host) (f : Json) : Run Unit := do
  let rel ← f.item "path"
  let _ ← livePath host rel
  perform
  let existed ← yes
  let oldBytes ← sizeIf existed
  -- The mode of the live file is read before the copy and put on it after.
  performIf existed
  perform
  performIf existed
  perform
  let newBytes ← ask World.number
  let verb := if oldBytes = 0 then "new" else s!"{oldBytes} →"
  updateLog ("  " ++ host.show rel ++ s!" … {verb} {newBytes} bytes … ok")

/-- `_swap`. -/
def swap (host : Host) (manifest : Json) : Run Unit := do
  for f in ← (← filesOf manifest).iter do swapFile host f

/-- One file of the `[VERIFYING SWAP]` section. -/
def verifySwapped (host : Host) (f : Json) : Run Unit := do
  let rel ← f.item "path"
  let want ← f.item "sha256"
  let _ ← livePath host rel
  let got ← ask World.text
  if !want.isText got.toList then
    throw ⟨.value, "post-swap hash mismatch for " ++ host.show rel⟩
  updateLog ("  " ++ host.show rel ++ " … ok")

/-- The `[VERIFYING SWAP]` section. -/
def verifySwap (host : Host) (manifest : Json) : Run Unit := do
  updateLog "[VERIFYING SWAP] on-disk SHA-256"
  for f in ← (← filesOf manifest).iter do verifySwapped host f

/-- The branch without a service: swap in process, then restart it. -/
def swapInProcess (host : Host) (manifest version : Json) (zpath : String) (number : ℕ) :
    Run Unit := do
  modifyState fun u => { u with systemd := some false }
  updatePhase .swapping "Applying update…"
  -- The rollback is armed before the first file is replaced.
  modify fun m => { m with swapped := true }
  updateLog ("  rollback point armed: " ++ zpath)
  updateLog s!"[SWAPPING] {number} files (atomic replace)"
  swap host manifest
  verifySwap host manifest
  stageSummary 2
  updateLog "[RESTARTING] in-process re-exec"
  updateLog "  releasing the listening socket, then re-exec'ing this process"
  writeUpdateResult
  updatePhase .restarting
    ("Updated to v" ++ host.show version ++ ". Restarting the app process…")
  perform
  modify fun m => { m with handedOver := true }

/-! ## The run -/

/-- Fetch, decode and parse the manifest. -/
def contactGithub (host : Host) : Run Json := do
  updateLog ("[UPDATE] GeneratorPi — installed v" ++ showText host.installed)
  updateLog "[CONTACTING GITHUB]"
  updatePhase .checking "Reaching GitHub…"
  let _ ← httpGetBytes 1000000
  perform
  ask fun w _ => w.manifest

/-- The CLI-only gate: park with proceed refused, then give up. -/
def refuseRelease (host : Host) (version : Text) (gates : List Text) : Run Unit := do
  let release := "v" ++ showText version
  let between := String.intercalate ", " (gates.map fun g => "v" ++ showText g)
  updateLog ("[ERROR] " ++ release ++ " cannot be installed by the web updater")
  updateSev ("  A manual-install-only version (" ++ between ++ ") is between your v" ++
    showText host.installed ++ " and " ++ release ++ ".") .err
  updateSev ("  Nothing has changed. See the IMPORTANT note below, then install it " ++
    "manually (e.g. ./setup.sh reinstall).") .err
  updatePhase .staged (release ++ " is not installable via the web updater.")
  let _ ← awaitDecision (gatePrompt version)
  updateLog ("[ERROR] not applied. Still on v" ++ showText host.installed ++ ".")
  updatePhase .failed "This release must be installed manually."

/-- The deployment plan and the checks that touch nothing live; whether there is a service. -/
def checkSystem (host : Host) (manifest version : Json) : Run Bool := do
  let skip ← serviceSkipReason host
  updateLog ("[DEPLOYMENT PLAN] " ++
    if skip.isNone then "systemd service — will restart the service to apply"
    else "in-process swap + re-exec")
  if let some reason := skip then updateLog ("  reason: " ++ reason)
  updateLog ("  installed v" ++ showText host.installed ++ " → target v" ++ host.show version)
  updateLog ("  backups dir: " ++ showPath (host.root ++ backupDir))
  updateLog "[CHECKING SYSTEM]"
  updatePhase .checking "Validating permissions + free space…"
  preflightCheck host manifest
  reportDependencies host manifest
  return skip.isNone

/-- Download, verify and back up; the name of the archive. -/
def stageRelease (host : Host) (manifest version : Json) (number : ℕ) : Run String := do
  updateLog s!"[DOWNLOADING] {number} files"
  updatePhase .downloading "Downloading files…"
  downloadAndVerify host manifest
  updateLog "[BACKING UP]"
  updatePhase .backingUp "Backing up current files…"
  let zpath ← makeBackup host manifest
  modify fun m => { m with zpath := some zpath }
  updateLogAppend " ok"
  updateLog ("  " ++ zpath ++ " (integrity-verified)")
  updateLog "[STAGED]"
  updateLogAppend " ok"
  updateLog ("  v" ++ host.show version ++ " ready to apply — nothing has changed yet")
  stageSummary 1
  updatePhase .staged ("Ready to apply v" ++ host.show version ++ ".")
  return zpath

/-- A revert at the go/no-go prompt. -/
def cancelUpdate (host : Host) : Run Unit := do
  discardStaging
  updateLog ("[REVERTED] canceled before applying — still on v" ++ showText host.installed)
  updatePhase .failed "Update canceled before applying."

/-- What follows a proceed. -/
def applyRelease (host : Host) (manifest version : Json) (service : Bool) (zpath : String)
    (number : ℕ) : Run Unit := do
  updateLog ("[APPLYING] stage 2 — installing v" ++ host.show version)
  modifyState fun u => { u with stage := 2 }
  let now ← observe World.clock
  modify fun m => { m with tApply := some now }
  if service then launchBootstrap host manifest version
  else swapInProcess host manifest version zpath number

/-- The `[VALIDATING RELEASE]` section, and the gates that block the release. -/
def validateRelease (host : Host) (manifest version : Json) : Run (List Text) := do
  updateLog "[VALIDATING RELEASE]"
  validateManifestPaths host manifest
  updateLog "  file paths safe (no traversal, no secret/cert targets) … ok"
  validateVersion host version
  updateLog "  version string well-formed … ok"
  modifyState fun u => { u with version := some version }
  let incompatible :=
    incompatibleOf host.printable (← manifest.get "incompatible_versions" .null)
  let target := version.text host.printable
  let gates := blocking host.installed target incompatible
  modifyState fun u =>
    { u with
      installable := gates.isEmpty
      importantNotes := importantNotes host.installed target incompatible }
  return gates

/-- The statements of the `try`. -/
def runBody (host : Host) : Run Unit := do
  let manifest ← contactGithub host
  let version := (← manifest.get "version" .null).orElse (.str ['?'])
  let number ← (← filesOf manifest).len
  updateLogAppend " ok"
  updateLog ("  manifest v" ++ host.show version ++ s!" · {number} files")
  let gates ← validateRelease host manifest version
  if gates.isEmpty then
    let service ← checkSystem host manifest version
    let zpath ← stageRelease host manifest version number
    match ← awaitDecision
        { message := "Ready to apply v" ++ host.show version ++ "."
          allowProceed := true
          proceedLabel := "UPDATE" } with
    | .revert => cancelUpdate host
    | .proceed => applyRelease host manifest version service zpath number
  else refuseRelease host (version.text host.printable) gates

/-- `_rollback`: the archive names the files to remove and the files to extract. -/
def rollback : Run Unit :=
  swallow do
    perform
    let added ← attempt (ask World.names) fun _ => pure []
    for _ in added do ignoringOSError perform
    for name in ← ask World.names do
      if name ≠ "__added__.json" then perform

/-- A duration with one decimal. -/
def tenths (seconds : ℚ) : String :=
  let n := Rounding.roundHalfEven (seconds * 10)
  s!"{n / 10}.{n % 10}"

/-- Restore the previous version once the swap was armed. -/
def undoSwap : Run Unit := do
  let m ← get
  if m.swapped && m.zpath.isSome then
    updateLog "[ROLLBACK] restoring the previous version…"
    rollback

/-- How long the apply took, once it had started. -/
def reportElapsed : Run Unit := do
  let m ← get
  if let some started := m.tApply then
    let now ← observe World.clock
    updateLog ("Update failed after " ++ tenths (max 0 (now - started)) ++ " seconds")

/-- The error handler. -/
def recover (host : Host) (e : PyError) : Run Unit := do
  updateLog ("[ERROR] " ++ e.message)
  let _ ← awaitDecision (failedPrompt e.message)
  undoSwap
  discardStaging
  reportElapsed
  updateLog ("[REVERTED] no changes applied — still on v" ++ showText host.installed)
  updatePhase .failed ("Update reverted: " ++ e.message) (some e.message)

/-- `_run_update`. -/
def runUpdate (host : Host) : Run Unit := do
  modify fun m => { m with zpath := none, swapped := false, tApply := none, handedOver := false }
  modifyState fun u =>
    { u with
      stage := 1
      stage1 := {}
      stage2 := {}
      missingDeps := []
      depsInstallCmd := ""
      installable := true
      importantNotes := [] }
  attempt (runBody host) (recover host)

/-- The locked section of `api_update_start`, and whether it accepts. -/
def UpdateState.start (systemd : Bool) (u : UpdateState) : Bool × UpdateState :=
  match apiUpdateStart u.shared with
  | (false, shared) => (false, { u with shared })
  | (true, shared) =>
      (true,
        { u with
          shared
          message := "Starting…"
          error := none
          systemd := some systemd
          log := []
          missingDeps := []
          depsInstallCmd := ""
          installable := true
          importantNotes := []
          stage := 1
          stage1 := {}
          stage2 := {} })

end SelfUpdate

end GeneratorPi
