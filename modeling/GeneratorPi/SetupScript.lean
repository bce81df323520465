import GeneratorPi.Lib.Handled
import GeneratorPi.Lib.PyText
import Mathlib

/-!
# The installation

`do_install` of `setup.sh`, under `set -e`: the settings file, the dependencies, the unit, the
sudoers rule, the restart and the check that the service came up.  `update.sh` runs it after each
update and rolls back where it exits with an error.  What the commands do is given with the host;
each may fail.

However it ends, a settings file that was there is as it was, and no question was asked without a
terminal.  An exit without an error means that the required modules can be imported, that the unit
is the generated one and systemd has read it, and that the service was restarted and came up;
after an error before the required modules can be imported neither the unit nor the sudoers rule
nor the service has been touched (`doInstall_failsClosed`).
-/

namespace GeneratorPi.SetupScript

open Handled PyText

/-! ## The machine -/

/-- What the installation leaves behind. -/
structure Disk where
  /-- `generator_control.env` -/
  env : Option Text := none
  /-- What `python3 -c "import …"` succeeds for. -/
  importable : Text → Bool
  /-- The lines of the unit file. -/
  unit : Option (List Text) := none
  /-- The unit as systemd has last read it. -/
  loaded : Option (List Text) := none
  sudoers : Option Text := none
  /-- `systemctl restart` was come to. -/
  restarted : Bool := false
  /-- The editor or a question was put to the operator. -/
  asked : Bool := false
  /-- `_APT_UPDATED` -/
  aptUpdated : Bool := false
  aptUpdates : ℕ := 0
  /-- `_REQUIRED_MISSING` -/
  requiredMissing : ℕ := 0

/-- The host, and what its commands do. -/
structure Host where
  user : Text
  dir : Text
  systemctl : Text := "/usr/bin/systemctl".toList
  /-- `VERSION` and `genpi/` stand next to the script. -/
  repoRoot : Bool := true
  havePython : Bool := true
  haveSystemctl : Bool := true
  haveApt : Bool := true
  /-- `HAVE_PRIV` -/
  havePriv : Bool := true
  /-- Standard input is a terminal. -/
  tty : Bool := false
  /-- `generator_control.env.example` -/
  example? : Option Text
  /-- What a `cp` of it that fails leaves. -/
  copy : Option (Option Text) := none
  chmod : Bool := true
  edit : Text → Text := id
  /-- The operator answers that the installation shall go on. -/
  accepts : Bool := false
  /-- `apt-get install -y`: its status, and what can be imported then. -/
  aptInstall : Text → (Text → Bool) → Bool × (Text → Bool)
  aptInstall_grows : ∀ pkg have_ m, have_ m = true → (aptInstall pkg have_).2 m = true
  mkdirBackup : Bool := true
  /-- The unit is written to a temporary file. -/
  stageUnit : Bool := true
  /-- `grep -q "^User=…$"` finds the user, whose name it takes for a pattern. -/
  greps : Bool := true
  /-- What a `tee` into the unit file that fails leaves. -/
  tee : Option (Option (List Text)) := none
  daemonReload : Bool := true
  stageSudoers : Bool := true
  visudo : Text → Bool
  /-- What an `install` of the rule that fails leaves. -/
  install : Option (Option Text) := none
  /-- `visudo` on the installed rule. -/
  revalidates : Bool := true
  rm : Bool := true
  restart : Bool := true
  /-- `systemctl is-active` at each try. -/
  isActive : ℕ → Bool := fun _ => true

/-- How the script exits with an error. -/
inductive Abort where
  | die
  /-- A command failed under `set -e`. -/
  | command

abbrev Script := EStateM Abort Disk

def orAbort (e : Abort) (ok : Bool) : Script Unit := if ok then pure () else throw e

/-- A command that nothing guards. -/
abbrev must (ok : Bool) : Script Unit := orAbort .command ok

abbrev dieUnless (ok : Bool) : Script Unit := orAbort .die ok

/-! ## The settings file -/

/-- `grep -q "^USER_"` -/
def hasUser (env : Option Text) : Bool :=
  env.any fun text => (text.splitOn '\n').any ("USER_".toList.isPrefixOf ·)

/-- The new file is the operator's to edit. -/
def edit (h : Host) (interactive : Bool) (text : Text) : Script Unit :=
  if interactive then modify fun d => { d with env := some (h.edit text), asked := true }
    else pure ()

def createEnvFile (h : Host) (interactive : Bool) (text : Text) : Script Unit :=
  match h.copy with
  | some left => do
      modify fun d => { d with env := left }
      throw .command
  | none => do
      modify fun d => { d with env := some text }
      must h.chmod
      edit h interactive text

def provideEnvFile (h : Host) (interactive : Bool) (env : Option Text) : Script Unit :=
  match env, h.example? with
  | some _, _ => pure ()
  | none, some text => createEnvFile h interactive text
  | none, none => throw .die

/-- At least one `USER_` line, or an operator who goes on without. -/
def checkUsers (h : Host) (interactive : Bool) (env : Option Text) : Script Unit :=
  if !hasUser env && interactive then do
    modify fun d => { d with asked := true }
    dieUnless h.accepts
  else pure ()

/-- `setup_env_file` -/
def setupEnvFile (h : Host) (interactive : Bool) : Script Unit := do
  provideEnvFile h (interactive && h.tty) (← get).env
  checkUsers h (interactive && h.tty) (← get).env

/-! ## Dependencies -/

/-- `ensure_apt_updated`; a refresh that fails is only reported. -/
def ensureAptUpdated : Script Unit :=
  modify fun d =>
    if d.aptUpdated then d else { d with aptUpdated := true, aptUpdates := d.aptUpdates + 1 }

/-- `apt-get install`, and whether the module can be imported then. -/
def aptGet (h : Host) (mod pkg : Text) : Script Bool := do
  ensureAptUpdated
  let d ← get
  set { d with importable := (h.aptInstall pkg d.importable).2 }
  return (h.aptInstall pkg d.importable).1 && (h.aptInstall pkg d.importable).2 mod

def provideModule (h : Host) (mod pkg : Text) (here : Bool) : Script Bool :=
  if here then pure true else if h.haveApt && h.havePriv then aptGet h mod pkg else pure false

/-- `check_dep` -/
def checkDep (h : Host) (isOptional : Bool) (mod pkg : Text) : Script Unit := do
  let found ← provideModule h mod pkg ((← get).importable mod)
  if found || isOptional then pure ()
  else modify fun d => { d with requiredMissing := d.requiredMissing + 1 }

def required : List (Text × Text) :=
  [("flask".toList, "python3-flask".toList), ("gpiozero".toList, "python3-gpiozero".toList),
    ("lgpio".toList, "python3-lgpio".toList),
    ("cryptography".toList, "python3-cryptography".toList),
    ("cheroot".toList, "python3-cheroot".toList)]

def optional : List (Text × Text) :=
  [("py_vapid".toList, "python3-py-vapid".toList), ("http_ece".toList, "python3-http-ece".toList),
    ("requests".toList, "python3-requests".toList)]

def checkDeps (h : Host) (isOptional : Bool) : List (Text × Text) → Script Unit
  | [] => pure ()
  | (mod, pkg) :: deps => do
      checkDep h isOptional mod pkg
      checkDeps h isOptional deps

/-- `install_dependencies` -/
def installDependencies (h : Host) : Script Unit := do
  checkDeps h false required
  checkDeps h true optional
  dieUnless ((← get).requiredMissing = 0)

/-! ## The unit and the rule -/

/-- `generate_service_file` -/
def generateServiceFile (h : Host) : List Text :=
  ["[Unit]".toList, "Description=Powermate PM9400E Generator Control (Flask + GPIOZero)".toList,
    "After=network.target".toList, [], "[Service]".toList, "Type=simple".toList,
    "User=".toList ++ h.user, "WorkingDirectory=".toList ++ h.dir,
    "ExecStart=/usr/bin/python3 -m genpi".toList, "Restart=always".toList, "RestartSec=10".toList,
    "# KillMode=process: on stop/restart, kill ONLY the main app process, not the whole ".toList ++
      "cgroup.".toList,
    "# This is what lets the in-app self-updater's detached /tmp bootstrap survive the ".toList ++
      "restart it".toList,
    "# triggers (default control-group killing would SIGTERM the bootstrap mid-swap and ".toList ++
      "brick the".toList,
    "# service). Do NOT change without revisiting the updater's restart/rollback flow.".toList,
    "KillMode=process".toList, "StandardOutput=journal".toList, "StandardError=journal".toList, [],
    "[Install]".toList, "WantedBy=multi-user.target".toList]

/-- The lines without which the unit is not installed; a key ending in `'='` may have any value. -/
def essential (lines : List Text) : Bool :=
  lines.contains "ExecStart=/usr/bin/python3 -m genpi".toList &&
    lines.any ("WorkingDirectory=".toList.isPrefixOf ·) && lines.contains "Restart=always".toList &&
    lines.any ("RestartSec=".toList.isPrefixOf ·) && lines.contains "KillMode=process".toList

def writeUnit (h : Host) : Script Unit :=
  match h.tee with
  | some left => do
      modify fun d => { d with unit := left }
      throw .command
  | none => modify fun d => { d with unit := some (generateServiceFile h) }

/-- `install_unit`; a copy of the old unit that fails is only reported. -/
def installUnit (h : Host) : Script Unit := do
  must ((← get).unit.isNone || h.mkdirBackup)
  must h.stageUnit
  dieUnless (essential (generateServiceFile h) && h.greps)
  writeUnit h
  must h.daemonReload
  modify fun d => { d with loaded := d.unit }

/-- The rule for the three verbs on the one unit. -/
def sudoersRule (h : Host) : Text :=
  let verb (v : String) := h.systemctl ++ v.toList ++ " generator_control.service".toList
  h.user ++ " ALL=(root) NOPASSWD: ".toList ++ verb " restart" ++ ", ".toList ++ verb " start" ++
    ", ".toList ++ verb " stop" ++ ['\n']

def writeSudoers (h : Host) : Script Unit :=
  match h.install with
  | some left => do
      modify fun d => { d with sudoers := left }
      throw .command
  | none => modify fun d => { d with sudoers := some (sudoersRule h) }

def removeSudoers (h : Host) : Script Unit := do
  must h.rm
  modify fun d => { d with sudoers := none }

def recheckSudoers (h : Host) : Script Unit := if h.revalidates then pure () else removeSudoers h

def placeSudoers (h : Host) : Script Unit := do
  writeSudoers h
  recheckSudoers h

/-- `install_sudoers` -/
def installSudoers (h : Host) : Script Unit := do
  must h.stageSudoers
  if h.visudo (sudoersRule h) then placeSudoers h else pure ()

/-- The tries of `health_check`; the probe that follows is only reported. -/
def Host.comesUp (h : Host) : Bool := (List.range 5).any h.isActive

/-! ## The driver -/

/-- What is done on any host; that a module does not compile is only reported. -/
def prepare (h : Host) (interactive : Bool) : Script Unit := do
  dieUnless h.repoRoot
  dieUnless h.havePython
  setupEnvFile h interactive
  installDependencies h

/-- `do_install`; that `systemctl enable` fails is only reported. -/
def doInstall (h : Host) (interactive : Bool) : Script Unit := do
  prepare h interactive
  dieUnless (h.haveSystemctl && h.havePriv)
  installUnit h
  installSudoers h
  modify fun d => { d with restarted := true }
  must h.restart
  dieUnless h.comesUp

/-! ## What every exit keeps -/

/-- The machine before the installation. -/
structure Machine where
  env : Option Text
  importable : Text → Bool
  unit : Option (List Text)
  loaded : Option (List Text)
  sudoers : Option Text

def Machine.disk (m : Machine) : Disk :=
  { env := m.env, importable := m.importable, unit := m.unit, loaded := m.loaded,
    sudoers := m.sudoers }

structure Kept (h : Host) (interactive : Bool) (m : Machine) (d : Disk) : Prop where
  env : ∀ text, m.env = some text → d.env = some text
  asked : d.asked = true → interactive = true ∧ h.tty = true
  refreshed : d.aptUpdates ≤ d.aptUpdated.toNat
  importable : ∀ mod, m.importable mod = true → d.importable mod = true

structure Untouched (m : Machine) (d : Disk) : Prop where
  unit : d.unit = m.unit
  loaded : d.loaded = m.loaded
  sudoers : d.sudoers = m.sudoers
  restarted : d.restarted = false

/-- While the installation prepares. -/
structure Preparing (h : Host) (interactive : Bool) (m : Machine) (d : Disk) : Prop where
  kept : Kept h interactive m d
  untouched : Untouched m d

variable {h : Host} {interactive : Bool} {m : Machine} {d : Disk}

theorem Preparing.start (h : Host) (interactive : Bool) (m : Machine) :
    Preparing h interactive m m.disk :=
  ⟨⟨fun _ same => same, fun asked => (nomatch asked), Nat.le_refl 0, fun _ same => same⟩,
    ⟨rfl, rfl, rfl, rfl⟩⟩

theorem Preparing.of_env (prep : Preparing h interactive m d) {env : Option Text} {asked : Bool}
    (none_before : m.env = none) (allowed : asked = true → interactive = true ∧ h.tty = true) :
    Preparing h interactive m { d with env, asked } :=
  ⟨⟨fun text same => (Option.some_ne_none text (same.symm.trans none_before)).elim, allowed,
    prep.kept.refreshed, prep.kept.importable⟩, prep.untouched.unit, prep.untouched.loaded,
    prep.untouched.sudoers, prep.untouched.restarted⟩

theorem Preparing.of_asked (prep : Preparing h interactive m d) {asked : Bool}
    (allowed : asked = true → interactive = true ∧ h.tty = true) :
    Preparing h interactive m { d with asked } :=
  ⟨⟨prep.kept.env, allowed, prep.kept.refreshed, prep.kept.importable⟩, prep.untouched.unit,
    prep.untouched.loaded, prep.untouched.sudoers, prep.untouched.restarted⟩

theorem Preparing.env_none (prep : Preparing h interactive m d) (none_now : d.env = none) :
    m.env = none := by
  by_contra some_before
  obtain ⟨text, same⟩ := Option.ne_none_iff_exists'.1 some_before
  rw [prep.kept.env text same] at none_now
  exact (nomatch none_now)

theorem keeps_orAbort (e : Abort) (ok : Bool) {I : Disk → Prop} : Keeps I (orAbort e ok) := by
  unfold orAbort
  exact Keeps.ite (Keeps.pure ()) (Triple.throw fun _ hd => hd)

/-- A check has held where the script goes on. -/
theorem triple_orAbort (e : Abort) (ok : Bool) {I E : Disk → Prop} (weaker : ∀ d, I d → E d) :
    Triple I (orAbort e ok) (fun _ d => I d ∧ ok = true) fun _ => E := by
  unfold orAbort
  exact Triple.ite (fun good => Triple.pure fun _ hd => ⟨hd, good⟩) fun _ => Triple.throw weaker

/-! ## The preparation -/

theorem createEnvFile_keeps {ask : Bool} {text : Text} (none_before : m.env = none)
    (allowed : ask = true → interactive = true ∧ h.tty = true) :
    Keeps (Preparing h interactive m) (createEnvFile h ask text) := by
  unfold createEnvFile
  cases h.copy with
  | some left =>
      refine Keeps.bind (Triple.modify fun d prep => ?_) fun _ => Triple.throw fun d prep => prep
      exact prep.of_env none_before prep.kept.asked
  | none =>
      refine Keeps.bind (Triple.modify fun d prep => ?_) fun _ =>
        Keeps.bind (keeps_orAbort _ _) fun _ => ?_
      · exact prep.of_env none_before prep.kept.asked
      · unfold edit
        refine Triple.ite (fun yes => Triple.modify fun d prep => ?_) fun _ => Keeps.pure ()
        exact prep.of_env none_before fun _ => allowed yes

theorem checkUsers_keeps {ask : Bool} {env : Option Text}
    (allowed : ask = true → interactive = true ∧ h.tty = true) :
    Keeps (Preparing h interactive m) (checkUsers h ask env) := by
  unfold checkUsers
  refine Triple.ite (fun yes => ?_) fun _ => Keeps.pure ()
  refine Keeps.bind (Triple.modify fun d prep => ?_) fun _ => keeps_orAbort _ _
  exact prep.of_asked fun _ => allowed (Bool.and_eq_true_iff.1 yes).2

theorem setupEnvFile_keeps : Keeps (Preparing h interactive m) (setupEnvFile h interactive) := by
  unfold setupEnvFile
  have allowed : (interactive && h.tty) = true → interactive = true ∧ h.tty = true :=
    fun both => Bool.and_eq_true_iff.1 both
  refine Triple.bind (Q := fun s d => Preparing h interactive m d ∧ s = d)
    (Triple.get fun d prep => ⟨prep, rfl⟩) fun s => ?_
  refine Triple.bind (Q := fun _ => Preparing h interactive m) ?_ fun _ =>
    Keeps.bind (Triple.get fun d prep => prep) fun s => checkUsers_keeps allowed
  unfold provideEnvFile
  split
  · exact Triple.pure fun d both => both.1
  next env _ =>
    intro d both
    exact createEnvFile_keeps (both.1.env_none (both.2 ▸ env)) allowed d both.1
  · exact Triple.throw fun d both => both.1

/-- What `check_dep` keeps, and the modules that it has found as long as none is missing. -/
structure Found (h : Host) (interactive : Bool) (m : Machine) (mods : List Text) (d : Disk) :
    Prop where
  prep : Preparing h interactive m d
  found : d.requiredMissing = 0 → ∀ mod ∈ mods, d.importable mod = true

theorem Found.refreshed {mods : List Text} (f : Found h interactive m mods d) :
    Found h interactive m mods
      (if d.aptUpdated then d
        else { d with aptUpdated := true, aptUpdates := d.aptUpdates + 1 }) := by
  split
  · exact f
  next fresh =>
    refine ⟨⟨⟨f.prep.kept.env, f.prep.kept.asked, ?_, f.prep.kept.importable⟩,
      ⟨f.prep.untouched.unit, f.prep.untouched.loaded, f.prep.untouched.sudoers,
        f.prep.untouched.restarted⟩⟩, f.found⟩
    have refreshed := f.prep.kept.refreshed
    rw [eq_false_of_ne_true fresh] at refreshed
    exact Nat.succ_le_succ refreshed

theorem Found.installed {mods : List Text} (f : Found h interactive m mods d) (pkg : Text) :
    Found h interactive m mods { d with importable := (h.aptInstall pkg d.importable).2 } :=
  ⟨⟨⟨f.prep.kept.env, f.prep.kept.asked, f.prep.kept.refreshed, fun mod same =>
      h.aptInstall_grows pkg _ mod (f.prep.kept.importable mod same)⟩,
    ⟨f.prep.untouched.unit, f.prep.untouched.loaded, f.prep.untouched.sudoers,
      f.prep.untouched.restarted⟩⟩,
    fun none_missing mod mem => h.aptInstall_grows pkg _ mod (f.found none_missing mod mem)⟩

theorem aptGet_finds {mods : List Text} {mod pkg : Text} {E : Abort → Disk → Prop} :
    Triple (Found h interactive m mods) (aptGet h mod pkg)
      (fun found d => Found h interactive m mods d ∧ (found = true → d.importable mod = true))
      E := by
  unfold aptGet ensureAptUpdated
  refine Triple.bind (Q := fun _ => Found h interactive m mods)
    (Triple.modify fun d f => f.refreshed) fun _ => ?_
  intro d f
  refine ⟨f.installed pkg, fun found => ?_⟩
  exact (Bool.and_eq_true_iff.1 found).2

theorem checkDep_finds {mods : List Text} {mod pkg : Text} {isOptional : Bool}
    {E : Abort → Disk → Prop} :
    Triple (Found h interactive m mods) (checkDep h isOptional mod pkg)
      (fun _ => Found h interactive m (if isOptional then mods else mod :: mods)) E := by
  unfold checkDep
  refine Triple.bind (Q := fun s d => Found h interactive m mods d ∧ s = d)
    (Triple.get fun d f => ⟨f, rfl⟩) fun s => ?_
  refine Triple.bind (Q := fun found d => Found h interactive m mods d ∧
    (found = true → d.importable mod = true)) ?_ fun found => ?_
  · unfold provideModule
    refine Triple.ite (fun here => Triple.pure fun d both => ⟨both.1, fun _ => ?_⟩) fun _ =>
      Triple.ite (fun _ => ?_) fun _ => Triple.pure fun d both =>
        ⟨both.1, fun none => (nomatch none)⟩
    · rw [← both.2]
      exact here
    · intro d both
      exact aptGet_finds (E := E) d both.1
  · refine Triple.ite (fun settled => Triple.pure fun d both => ?_) fun missing =>
      Triple.modify fun d both => ?_
    · cases isOptional with
      | true => exact both.1
      | false =>
          have here : d.importable mod = true := both.2 (by simpa using settled)
          refine ⟨both.1.prep, fun none_missing other mem => ?_⟩
          rcases List.mem_cons.1 mem with rfl | old
          · exact here
          · exact both.1.found none_missing other old
    · have prep := both.1.prep
      exact ⟨⟨⟨prep.kept.env, prep.kept.asked, prep.kept.refreshed, prep.kept.importable⟩,
        ⟨prep.untouched.unit, prep.untouched.loaded, prep.untouched.sudoers,
          prep.untouched.restarted⟩⟩, fun none_missing => (nomatch none_missing)⟩

/-- By induction over the calls; what has been found stays found. -/
theorem checkDeps_finds {mods : List Text} (isOptional : Bool) (deps : List (Text × Text))
    {E : Abort → Disk → Prop} :
    Triple (Found h interactive m mods) (checkDeps h isOptional deps)
      (fun _ => Found h interactive m
        (if isOptional then mods else (deps.map Prod.fst).reverse ++ mods)) E := by
  induction deps generalizing mods with
  | nil =>
      refine Triple.pure fun d f => ?_
      cases isOptional <;> exact f
  | cons dep deps ih =>
      unfold checkDeps
      refine Triple.bind checkDep_finds fun _ => ?_
      cases isOptional with
      | true => exact ih
      | false =>
          rw [List.map_cons, List.reverse_cons, List.append_assoc]
          exact ih

/-- The required modules can be imported. -/
def Equipped (d : Disk) : Prop := ∀ mod ∈ required.map Prod.fst, d.importable mod = true

theorem prepare_spec :
    Triple (Preparing h interactive m) (prepare h interactive)
      (fun _ d => Preparing h interactive m d ∧ Equipped d)
      fun _ d => Preparing h interactive m d := by
  unfold prepare installDependencies
  refine Triple.bind (keeps_orAbort _ _) fun _ => Triple.bind (keeps_orAbort _ _) fun _ =>
    Triple.bind setupEnvFile_keeps fun _ => ?_
  refine Triple.bind (Q := fun _ => Found h interactive m (required.map Prod.fst).reverse)
    (fun d prep => ?_) fun _ => ?_
  · have f : Found h interactive m [] d := ⟨prep, fun _ mod mem => absurd mem List.not_mem_nil⟩
    exact (checkDeps_finds false required).mono (fun _ f => f)
      (fun _ _ f => by rwa [if_neg Bool.false_ne_true, List.append_nil] at f)
        (fun _ _ prep => prep) d f
  refine Triple.bind (Q := fun _ => Found h interactive m (required.map Prod.fst).reverse)
    (checkDeps_finds true optional) fun _ => ?_
  refine Triple.bind (Q := fun s d => Found h interactive m (required.map Prod.fst).reverse d ∧
    s = d)
    (Triple.get fun d f => ⟨f, rfl⟩) fun s => ?_
  refine (triple_orAbort _ _ (E := Preparing h interactive m) fun d both => both.1.prep).mono
    (fun _ both => both) (fun _ d both => ?_) fun _ _ prep => prep
  obtain ⟨⟨f, rfl⟩, none_missing⟩ := both
  exact ⟨f.prep, fun mod mem => f.found (of_decide_eq_true none_missing) mod
    (List.mem_reverse.2 mem)⟩

/-! ## The installation -/

/-- What any exit leaves: where a required module is missing, nothing was installed. -/
structure Left (h : Host) (interactive : Bool) (m : Machine) (d : Disk) : Prop where
  kept : Kept h interactive m d
  closed : Untouched m d ∨ Equipped d

theorem Left.of_same (left : Left h interactive m d) (equipped : Equipped d)
    {unit loaded : Option (List Text)} {sudoers : Option Text} {restarted : Bool} :
    Left h interactive m { d with unit, loaded, sudoers, restarted } :=
  ⟨⟨left.kept.env, left.kept.asked, left.kept.refreshed, left.kept.importable⟩, Or.inr equipped⟩

theorem mem_generateServiceFile (h : Host) {i : ℕ} {line : Text}
    (found : (generateServiceFile h)[i]? = some line) :
    (generateServiceFile h).contains line = true :=
  List.contains_iff_mem.2 (List.mem_of_getElem? found)

/-- The lines that the check looks for are in the unit it is made of. -/
theorem essential_generateServiceFile (h : Host) : essential (generateServiceFile h) = true := by
  have dir : (generateServiceFile h).any ("WorkingDirectory=".toList.isPrefixOf ·) = true :=
    List.any_eq_true.2
      ⟨_, List.mem_of_getElem? (show (generateServiceFile h)[7]? = some _ from rfl),
      List.isPrefixOf_iff_prefix.2 (List.prefix_append _ _)⟩
  have sec : (generateServiceFile h).any ("RestartSec=".toList.isPrefixOf ·) = true :=
    List.any_eq_true.2
      ⟨_, List.mem_of_getElem? (show (generateServiceFile h)[10]? = some _ from rfl),
      by decide +kernel⟩
  rw [essential, dir, sec, mem_generateServiceFile h (i := 8) rfl,
    mem_generateServiceFile h (i := 9) rfl,
    mem_generateServiceFile h (i := 15) rfl]
  rfl

/-- The unit is in place, and systemd has read it. -/
structure UnitInstalled (h : Host) (interactive : Bool) (m : Machine) (d : Disk) : Prop where
  left : Left h interactive m d
  equipped : Equipped d
  unit : d.unit = some (generateServiceFile h)
  loaded : d.loaded = some (generateServiceFile h)
  sudoers : d.sudoers = m.sudoers ∨ d.sudoers = none ∨
    d.sudoers = some (sudoersRule h) ∧ h.visudo (sudoersRule h) = true

/-- Of any script that runs once the modules are there. -/
theorem installUnit_spec :
    Triple (fun d => Left h interactive m d ∧ Equipped d ∧ d.sudoers = m.sudoers) (installUnit h)
      (fun _ => UnitInstalled h interactive m) fun _ => Left h interactive m := by
  unfold installUnit
  refine Triple.bind (Q := fun _ d => Left h interactive m d ∧ Equipped d ∧ d.sudoers = m.sudoers)
    (Triple.get fun d ready => ready) fun s => ?_
  refine Triple.bind (triple_orAbort _ _ fun d ready => ready.1) fun _ =>
    Triple.bind (triple_orAbort _ _ fun d ready => ready.1.1) fun _ =>
      Triple.bind (triple_orAbort _ _ fun d ready => ready.1.1.1) fun _ => ?_
  refine Triple.bind (Q := fun _ d => Left h interactive m d ∧ Equipped d ∧
    d.sudoers = m.sudoers ∧ d.unit = some (generateServiceFile h)) ?_ fun _ => ?_
  · unfold writeUnit
    cases h.tee with
    | some left =>
        exact Triple.bind (Q := fun _ => Left h interactive m)
          (Triple.modify fun d ready => ready.1.1.1.1.of_same ready.1.1.1.2.1)
          fun _ => Triple.throw fun d left => left
    | none =>
        refine Triple.modify fun d ready => ?_
        obtain ⟨⟨⟨left, equipped, sudoers⟩, -⟩, -⟩ := ready.1
        exact ⟨left.of_same equipped, equipped, sudoers, rfl⟩
  · refine Triple.bind (triple_orAbort _ _ fun d ready => ready.1) fun _ =>
      Triple.modify fun d ready => ?_
    obtain ⟨⟨left, equipped, sudoers, unit⟩, -⟩ := ready
    exact ⟨left.of_same equipped, equipped, unit, unit, Or.inl sudoers⟩

theorem UnitInstalled.with_sudoers (ready : UnitInstalled h interactive m d) {sudoers : Option Text}
    (allowed : sudoers = none ∨
      sudoers = some (sudoersRule h) ∧ h.visudo (sudoersRule h) = true) :
    UnitInstalled h interactive m { d with sudoers } :=
  ⟨ready.left.of_same ready.equipped, ready.equipped, ready.unit, ready.loaded, Or.inr allowed⟩

theorem installSudoers_spec :
    Triple (UnitInstalled h interactive m) (installSudoers h)
      (fun _ => UnitInstalled h interactive m) fun _ => Left h interactive m := by
  unfold installSudoers
  refine Triple.bind (triple_orAbort _ _ fun d ready => ready.left) fun _ =>
    Triple.ite (fun valid => ?_) fun _ => Triple.pure fun d ready => ready.1
  unfold placeSudoers
  refine Triple.bind (Q := fun _ => UnitInstalled h interactive m) ?_ fun _ => ?_
  · unfold writeSudoers
    cases h.install with
    | some left =>
        exact Triple.bind (Q := fun _ => Left h interactive m)
          (Triple.modify fun d ready => ready.1.left.of_same ready.1.equipped)
          fun _ => Triple.throw fun d left => left
    | none =>
        exact Triple.modify fun d ready => ready.1.with_sudoers (Or.inr ⟨rfl, valid⟩)
  · unfold recheckSudoers
    refine Triple.ite (fun _ => Triple.pure fun d ready => ready) fun _ => ?_
    unfold removeSudoers
    exact Triple.bind (triple_orAbort _ _ fun d ready => ready.left) fun _ =>
      Triple.modify fun d ready => ready.1.with_sudoers (Or.inl rfl)

/-- What an exit without an error means. -/
structure Installed (h : Host) (interactive : Bool) (m : Machine) (d : Disk) : Prop where
  ready : UnitInstalled h interactive m d
  essential : essential (generateServiceFile h) = true
  managed : h.haveSystemctl = true ∧ h.havePriv = true
  restarted : d.restarted = true ∧ h.restart = true
  up : h.comesUp = true

theorem doInstall_spec :
    Triple (Preparing h interactive m) (doInstall h interactive)
      (fun _ => Installed h interactive m) fun _ => Left h interactive m := by
  unfold doInstall
  refine Triple.bind (prepare_spec.mono (fun _ prep => prep) (fun _ _ ready => ready)
    fun _ d prep => ⟨prep.kept, Or.inl prep.untouched⟩) fun _ => ?_
  refine Triple.bind (triple_orAbort _ _ fun d ready => ⟨ready.1.kept, Or.inl ready.1.untouched⟩)
    fun _ => ?_
  by_cases managed : (h.haveSystemctl && h.havePriv) = true
  · refine Triple.bind (installUnit_spec.mono (fun d ready => ?_) (fun _ _ ready => ready)
      fun _ _ left => left) fun _ => Triple.bind installSudoers_spec fun _ => ?_
    · obtain ⟨⟨prep, equipped⟩, -⟩ := ready
      exact ⟨⟨prep.kept, Or.inr equipped⟩, equipped, prep.untouched.sudoers⟩
    · refine Triple.bind (Q := fun _ d => UnitInstalled h interactive m d ∧ d.restarted = true)
        (Triple.modify fun d ready => ⟨?_, rfl⟩) fun _ => ?_
      · exact ⟨ready.left.of_same ready.equipped, ready.equipped, ready.unit, ready.loaded,
          ready.sudoers⟩
      · refine Triple.bind (triple_orAbort _ _ fun d ready => ready.1.left) fun _ =>
          (triple_orAbort _ _ fun d ready => ready.1.1.left).mono (fun _ ready => ready)
            (fun _ d done => ?_) fun _ _ left => left
        obtain ⟨⟨⟨ready, restarted⟩, restart⟩, up⟩ := done
        exact ⟨ready, essential_generateServiceFile h, Bool.and_eq_true_iff.1 managed,
          ⟨restarted, restart⟩, up⟩
  · intro d ready
    exact absurd ready.2 managed

/-! ## When it succeeds -/

def Succeeds {α : Type} (p : Script α) (d : Disk) : Prop := ∃ a d', p d = .ok a d'

section Succeeds

variable {α β : Type} {p : Script α} {f : α → Script β} {next : Unit → Script β} {R : Prop}

theorem succeeds_bind : Succeeds (p >>= f) d ↔ ∃ a d', p d = .ok a d' ∧ Succeeds (f a) d' := by
  cases ran : p d with
  | ok a d' =>
      have same : (p >>= f) d = f a d' := Noninterference.bind_run ran
      rw [Succeeds, same]
      constructor
      · exact fun rest => ⟨a, d', rfl, rest⟩
      · rintro ⟨a', d'', same', rest⟩
        cases same'
        exact rest
  | error e d' =>
      have same : (p >>= f) d = .error e d' := bind_raised ran
      rw [Succeeds, same]
      constructor
      · rintro ⟨a, d'', same'⟩
        exact (nomatch same')
      · rintro ⟨a, d'', same', -⟩
        exact (nomatch same')

theorem succeeds_orAbort (e : Abort) (ok : Bool) :
    Succeeds (orAbort e ok >>= next) d ↔ ok = true ∧ Succeeds (next ()) d := by
  cases ok with
  | true => exact (and_iff_right rfl).symm
  | false => exact ⟨fun ⟨_, _, same⟩ => (nomatch same), fun both => (nomatch both.1)⟩

theorem succeeds_writeUnit (free : ∀ d, Succeeds (next ()) d ↔ R) :
    Succeeds (writeUnit h >>= next) d ↔ h.tee = none ∧ R := by
  unfold writeUnit
  cases h.tee with
  | some left => exact ⟨fun ⟨_, _, same⟩ => (nomatch same), fun both => (nomatch both.1)⟩
  | none => exact (free _).trans (and_iff_right rfl).symm

theorem succeeds_installUnit (free : ∀ d, Succeeds (next ()) d ↔ R) :
    Succeeds (installUnit h >>= next) d ↔
      (d.unit.isNone || h.mkdirBackup) = true ∧ h.stageUnit = true ∧ h.greps = true ∧ h.tee = none ∧
        h.daemonReload = true ∧ R := by
  unfold installUnit
  simp only [bind_assoc]
  change Succeeds (must (d.unit.isNone || h.mkdirBackup) >>= _) d ↔ _
  refine (succeeds_orAbort _ _).trans (and_congr_right fun _ => ?_)
  refine (succeeds_orAbort _ _).trans (and_congr_right fun _ => ?_)
  rw [essential_generateServiceFile, Bool.true_and]
  refine (succeeds_orAbort _ _).trans (and_congr_right fun _ => ?_)
  exact succeeds_writeUnit fun d => (succeeds_orAbort _ _).trans (and_congr_right fun _ => free _)

theorem succeeds_writeSudoers (free : ∀ d, Succeeds (next ()) d ↔ R) :
    Succeeds (writeSudoers h >>= next) d ↔ h.install = none ∧ R := by
  unfold writeSudoers
  cases h.install with
  | some left => exact ⟨fun ⟨_, _, same⟩ => (nomatch same), fun both => (nomatch both.1)⟩
  | none => exact (free _).trans (and_iff_right rfl).symm

theorem succeeds_recheckSudoers (free : ∀ d, Succeeds (next ()) d ↔ R) :
    Succeeds (recheckSudoers h >>= next) d ↔ (h.revalidates || h.rm) = true ∧ R := by
  unfold recheckSudoers removeSudoers
  cases h.revalidates with
  | true => exact (free _).trans (and_iff_right rfl).symm
  | false =>
      rw [if_neg Bool.false_ne_true, bind_assoc, Bool.false_or]
      exact (succeeds_orAbort _ _).trans (and_congr_right fun _ => free _)

theorem succeeds_installSudoers (free : ∀ d, Succeeds (next ()) d ↔ R) :
    Succeeds (installSudoers h >>= next) d ↔
      h.stageSudoers = true ∧ (h.visudo (sudoersRule h) = true →
        h.install = none ∧ (h.revalidates || h.rm) = true) ∧ R := by
  unfold installSudoers
  simp only [bind_assoc]
  refine (succeeds_orAbort _ _).trans (and_congr_right fun _ => ?_)
  cases h.visudo (sudoersRule h) with
  | false => exact (free d).trans (and_iff_right fun no => (nomatch no)).symm
  | true =>
      rw [if_pos rfl, placeSudoers, bind_assoc, imp_iff_right rfl, and_assoc]
      exact succeeds_writeSudoers fun d => succeeds_recheckSudoers free

theorem succeeds_restart (d : Disk) :
    Succeeds (modify (fun d => { d with restarted := true }) >>= fun _ : PUnit =>
      must h.restart >>= fun _ => dieUnless h.comesUp) d ↔ h.restart = true ∧ h.comesUp = true := by
  refine (succeeds_orAbort _ _).trans (and_congr_right fun _ => ?_)
  rw [← bind_pure (dieUnless h.comesUp)]
  exact (succeeds_orAbort _ _).trans (and_iff_left ⟨(), _, rfl⟩)

theorem succeeds_doInstall :
    Succeeds (doInstall h interactive) m.disk ↔ Succeeds (prepare h interactive) m.disk ∧
      (h.haveSystemctl && h.havePriv) = true ∧ (m.unit.isNone || h.mkdirBackup) = true ∧
      h.stageUnit = true ∧ h.greps = true ∧ h.tee = none ∧ h.daemonReload = true ∧
      h.stageSudoers = true ∧ (h.visudo (sudoersRule h) = true →
        h.install = none ∧ (h.revalidates || h.rm) = true) ∧
      h.restart = true ∧ h.comesUp = true := by
  have out := prepare_spec m.disk (Preparing.start h interactive m)
  unfold doInstall
  rw [succeeds_bind]
  constructor
  · rintro ⟨⟨⟩, d, ran, rest⟩
    rw [ran] at out
    rw [← out.1.untouched.unit]
    refine ⟨⟨⟨⟩, d, ran⟩, ?_⟩
    rw [succeeds_orAbort, succeeds_installUnit fun d => succeeds_installSudoers succeeds_restart]
      at rest
    exact rest
  · rintro ⟨⟨⟨⟩, d, ran⟩, rest⟩
    rw [ran] at out
    rw [← out.1.untouched.unit] at rest
    refine ⟨⟨⟩, d, ran, ?_⟩
    rw [succeeds_orAbort, succeeds_installUnit fun d => succeeds_installSudoers succeeds_restart]
    exact rest

end Succeeds

/-- However the installation ends: what it means where it ends without an error, what is left
where it does not, and when it is which. -/
theorem doInstall_failsClosed (h : Host) (interactive : Bool) (m : Machine) :
    (∀ d, doInstall h interactive m.disk = .ok () d → Installed h interactive m d) ∧
      (∀ e d, doInstall h interactive m.disk = .error e d → Left h interactive m d) ∧
      (Succeeds (doInstall h interactive) m.disk ↔ Succeeds (prepare h interactive) m.disk ∧
        (h.haveSystemctl && h.havePriv) = true ∧ (m.unit.isNone || h.mkdirBackup) = true ∧
        h.stageUnit = true ∧ h.greps = true ∧ h.tee = none ∧ h.daemonReload = true ∧
        h.stageSudoers = true ∧ (h.visudo (sudoersRule h) = true →
          h.install = none ∧ (h.revalidates || h.rm) = true) ∧
        h.restart = true ∧ h.comesUp = true) := by
  have out := doInstall_spec m.disk (Preparing.start h interactive m)
  refine ⟨fun d ran => ?_, fun e d ran => ?_, succeeds_doInstall⟩
  · rw [ran] at out
    exact out
  · rw [ran] at out
    exact out

/-- A host on which every command succeeds. -/
def workingHost : Host where
  user := ['p', 'i']
  dir := ['/']
  example? := some []
  aptInstall _ _ := (true, fun _ => true)
  aptInstall_grows _ _ _ _ := rfl
  visudo _ := true

/-- A machine with only the repository on it. -/
def bareMachine : Machine := ⟨none, fun _ => false, none, none, none⟩

theorem bareMachine_installed :
    ∃ d, doInstall workingHost false bareMachine.disk = .ok () d ∧
      Installed workingHost false bareMachine d := by
  have ran : Succeeds (doInstall workingHost false) bareMachine.disk := ⟨_, _, rfl⟩
  obtain ⟨⟨⟩, d, h⟩ := ran
  exact ⟨d, h, (doInstall_failsClosed workingHost false bareMachine).1 d h⟩

end GeneratorPi.SetupScript
