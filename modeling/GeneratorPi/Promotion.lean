import GeneratorPi.Bootstrap
import GeneratorPi.UpdateRun

/-!
# The result marker and its promotion

`backups/last_update.json` outlives the process that writes it.  An in-process update writes
`restarting` just before the restart; the next import of `genpi/updater.py` takes it for its own and
rewrites it to `success`, without a look at the version it runs.  Between the two stand crashes,
rollbacks, the bootstrap script and whoever restores the tree by hand.

`honestSuccess_of_run` says which histories claim success only for the code that runs.
-/

namespace GeneratorPi

open PyText FileTree Trace

variable {β : Type}

/-! ## The installed version -/

/-- The VERSION file. -/
def versionPath : Path := ["VERSION".toList]

/-- What the processes of one installation share. -/
structure HostConfig (β : Type) where
  enc : Encoding β Text
  cacheName : Text → Text
  /-- The UTF-8 text of a file. -/
  readText : β → Option Text

/-- `_read_app_version`: a file that cannot be read gives the sentinel, and one that is no text
fails the import. -/
def HostConfig.appVersion? (cfg : HostConfig β) (t : LiveTree β) : Option Text :=
  match t versionPath with
  | none => some "0.0.0".toList
  | some f => (cfg.readText f.content).map fun text =>
      if strip text = [] then "0.0.0".toList else strip text

theorem appVersion?_congr {cfg : HostConfig β} {t u : LiveTree β}
    (same : t versionPath = u versionPath) : cfg.appVersion? t = cfg.appVersion? u := by
  unfold HostConfig.appVersion?
  rw [same]

/-! ## The host -/

/-- `last_update.json`. -/
inductive UpdateMarker where
  | restarting (version : Option Text)
  | success (version : Option Text)
  | failed (version : Option Text)
  | unreadable
  deriving DecidableEq

def UpdateResult.marker (version : Text) : UpdateResult → UpdateMarker
  | .success => .success (some version)
  | .failed _ => .failed (some version)

/-- A process that is up. -/
structure Serving (β : Type) where
  appVersion : Text
  /-- The version its boot recorded `success` for. -/
  claimed : Option Text := none
  update : Option (RunConfig β × RunState β) := none

inductive Booted (β : Type) where
  /-- It has read VERSION, but not imported the updater yet. -/
  | importing (appVersion : Text)
  | serving (p : Serving β)

/-- A stage-two script, with the version it was written for. -/
structure Script (β : Type) where
  job : Job β Text
  version : Text
  state : Bootstrap β

structure Host (β : Type) where
  live : LiveTree β
  marker : Option UpdateMarker := none
  process : Option (Booted β) := none
  script : Option (Script β) := none

/-- How the writing of the marker goes. -/
inductive MarkerWrite where
  | whole
  | torn
  | failed
  deriving DecidableEq

inductive HostEvent (β : Type) where
  /-- The process is gone: a crash, a kill, a re-exec. -/
  | exits
  | boots
  /-- The updater is imported. -/
  | promotes (write : MarkerWrite)
  | startsUpdate (systemd : Bool) (backupName : Text) (mishaps : Mishaps β)
  | update (e : RunEvent β) (write : MarkerWrite)
  /-- `POST /api/update/result/ack` -/
  | acknowledged
  | startsScript (job : Job β Text) (version : Text)
  | script (op : BootstrapOp β)
  /-- The tree is restored by other means. -/
  | restored (t : LiveTree β)

/-- The promotion of the marker, by a process of the given version. -/
def Host.promote (h : Host β) (appVersion : Text) (write : MarkerWrite) : Host β :=
  match h.marker, write with
  | some (.restarting version), .whole =>
      { h with
        marker := some (.success version)
        process := some (.serving { appVersion, claimed := some (version.getD appVersion) }) }
  | some (.restarting _), .torn =>
      { h with marker := some .unreadable, process := some (.serving { appVersion }) }
  | _, _ => { h with process := some (.serving { appVersion }) }

/-- `_write_update_result("restarting", version)`, at the step of a run that calls it. -/
def RunState.markerAfter (s : RunState β) : RunEvent β → MarkerWrite → Option UpdateMarker
  | .wrote _, write =>
      match s.stage, write with
      | .recording _ _, .whole => some (.restarting (some s.version))
      | .recording _ _, .torn => some .unreadable
      | _, _ => none
  | _, _ => none

def Host.updateStep (h : Host β) (e : RunEvent β) (write : MarkerWrite) : Option (Host β) :=
  match h.process with
  | some (.serving p) =>
      p.update.bind fun (cfg, s) =>
        (RunState.step cfg { s with live := h.live } e).map fun s' =>
          { h with
            live := s'.live
            marker := (s.markerAfter e write).or h.marker
            process := some (.serving { p with update := some (cfg, s') }) }
  | _ => none

def Host.scriptStep (h : Host β) (op : BootstrapOp β) : Option (Host β) :=
  h.script.bind fun sc =>
    (Bootstrap.step sc.job { sc.state with live := h.live, record := none } op).map fun b =>
      { h with
        live := b.live
        marker := (b.record.map (·.marker sc.version)).or h.marker
        script := some { sc with state := b } }

/-- A run may be begun: there is none, or it is over. -/
def Serving.idle (p : Serving β) : Bool :=
  match p.update with
  | none | some (_, { stage := .finished, .. }) => true
  | _ => false

def Host.boot (cfg : HostConfig β) (h : Host β) : Option (Host β) :=
  match h.process with
  | none => (cfg.appVersion? h.live).map fun v => { h with process := some (.importing v) }
  | some _ => none

def Host.importUpdater (h : Host β) (write : MarkerWrite) : Option (Host β) :=
  match h.process with
  | some (.importing v) => some (h.promote v write)
  | _ => none

def Host.startUpdate (cfg : HostConfig β) (h : Host β) (systemd : Bool) (backupName : Text)
    (mishaps : Mishaps β) : Option (Host β) :=
  match h.process with
  | some (.serving p) =>
      if p.idle then
        let run : RunConfig β :=
          { enc := cfg.enc, installed := p.appVersion, systemd, backupName,
            cacheName := cfg.cacheName, mishaps }
        some
          { h with
            process := some (.serving { p with update := some (run, { live := h.live }) }) }
      else none
  | _ => none

def Host.acknowledge (h : Host β) : Option (Host β) :=
  match h.process with
  | some (.serving _) => some { h with marker := none }
  | _ => none

def Host.step (cfg : HostConfig β) (h : Host β) : HostEvent β → Option (Host β)
  | .exits => some { h with process := none }
  | .boots => h.boot cfg
  | .promotes write => h.importUpdater write
  | .startsUpdate systemd backupName mishaps => h.startUpdate cfg systemd backupName mishaps
  | .update e write => h.updateStep e write
  | .acknowledged => h.acknowledge
  | .startsScript job version => some { h with script := some ⟨job, version, { live := h.live }⟩ }
  | .script op => h.scriptStep op
  | .restored t => some { h with live := t }

/-! ## Claims of success -/

/-- The version a standing `restarting` marker names. -/
def pending : Option UpdateMarker → Option Text
  | some (.restarting version) => version
  | _ => none

def Host.serving? (h : Host β) : Option (Serving β) :=
  match h.process with
  | some (.serving p) => some p
  | _ => none

/-- What a boot has recorded as a success is what it runs. -/
def HonestSuccess (h : Host β) : Prop :=
  ∀ p, h.serving? = some p → ∀ v, p.claimed = some v → p.appVersion = v

/-- The version the step writes a `restarting` marker for. -/
def Host.records (h : Host β) : HostEvent β → Option Text
  | .update e write =>
      match h.process with
      | some (.serving p) => p.update.bind fun r => pending (r.2.markerAfter e write)
      | _ => none
  | _ => none

/-- No step takes the tree to another version while a `restarting` marker stands, and one is written
only over a tree of the version it names. -/
def KeepsVersion (cfg : HostConfig β) (h : Host β) (e : HostEvent β) : Prop :=
  ((pending h.marker).isSome →
    ∀ h' ∈ h.step cfg e, cfg.appVersion? h'.live = cfg.appVersion? h.live) ∧
  ∀ v ∈ h.records e, cfg.appVersion? h.live = some v

instance (cfg : HostConfig β) (h : Host β) (e : HostEvent β) : Decidable (KeepsVersion cfg h e) :=
  inferInstanceAs (Decidable (_ ∧ _))

/-! ## What a step does -/

variable {cfg : HostConfig β} {x y : Host β} {e : HostEvent β} {v : Text}

theorem Host.boot_eq_some (h : x.boot cfg = some y) :
    ∃ w, cfg.appVersion? x.live = some w ∧ y = { x with process := some (.importing w) } := by
  unfold Host.boot at h
  split at h
  · rcases Option.map_eq_some_iff.mp h with ⟨w, version, rfl⟩
    exact ⟨w, version, rfl⟩
  · cases h

theorem Host.importUpdater_eq_some {write : MarkerWrite} (h : x.importUpdater write = some y) :
    ∃ w, x.process = some (.importing w) ∧ y = x.promote w write := by
  unfold Host.importUpdater at h
  split at h
  next w importing =>
    cases h
    exact ⟨w, importing, rfl⟩
  next => cases h

theorem Host.startUpdate_eq_some {systemd : Bool} {backupName : Text} {mishaps : Mishaps β}
    (h : x.startUpdate cfg systemd backupName mishaps = some y) :
    ∃ p update, x.process = some (.serving p) ∧
      y = { x with process := some (.serving { p with update := update }) } := by
  unfold Host.startUpdate at h
  split at h
  next p serving =>
    split at h
    · cases h
      exact ⟨p, _, serving, rfl⟩
    · cases h
  next => cases h

theorem Host.updateStep_eq_some {e : RunEvent β} {write : MarkerWrite}
    (h : x.updateStep e write = some y) :
    ∃ p run s s', x.process = some (.serving p) ∧ p.update = some (run, s) ∧
      RunState.step run { s with live := x.live } e = some s' ∧
      y = { x with
        live := s'.live
        marker := (s.markerAfter e write).or x.marker
        process := some (.serving { p with update := some (run, s') }) } := by
  unfold Host.updateStep at h
  split at h
  next p serving =>
    rcases Option.bind_eq_some_iff.mp h with ⟨⟨run, s⟩, updating, rest⟩
    rcases Option.map_eq_some_iff.mp rest with ⟨s', stepped, rfl⟩
    exact ⟨p, run, s, s', serving, updating, stepped, rfl⟩
  next => cases h

theorem Host.acknowledge_eq_some (h : x.acknowledge = some y) :
    ∃ p, x.process = some (.serving p) ∧ y = { x with marker := none } := by
  unfold Host.acknowledge at h
  split at h
  next p serving =>
    cases h
    exact ⟨p, serving, rfl⟩
  next => cases h

theorem Host.scriptStep_eq_some {op : BootstrapOp β} (h : x.scriptStep op = some y) :
    y.process = x.process ∧
      ∃ (version : Text) (r : Option UpdateResult),
        y.marker = (r.map (·.marker version)).or x.marker := by
  rcases Option.bind_eq_some_iff.mp h with ⟨sc, -, rest⟩
  rcases Option.map_eq_some_iff.mp rest with ⟨b, -, rfl⟩
  exact ⟨rfl, sc.version, b.record, rfl⟩

theorem pending_or (m n : Option UpdateMarker) (h : pending (m.or n) = some v) :
    pending m = some v ∨ pending n = some v := by
  cases m with
  | none => exact Or.inr h
  | some m => exact Or.inl h

theorem pending_result (r : Option UpdateResult) (version : Text) :
    pending (r.map (·.marker version)) = none := by
  rcases r with - | - | - <;> rfl

/-- The import leaves no marker pending that was not before, and claims what was pending. -/
theorem Host.promote_spec (x : Host β) (w : Text) (write : MarkerWrite) :
    (x.promote w write).live = x.live ∧
      (pending (x.promote w write).marker = some v → pending x.marker = some v) ∧
      ∃ p : Serving β, (x.promote w write).process = some (.serving p) ∧ p.appVersion = w ∧
        (p.claimed = some v → pending x.marker = some v ∨ w = v) := by
  unfold Host.promote
  split
  next version marked =>
    refine ⟨rfl, fun pends => (nomatch pends), _, rfl, rfl, fun claim => ?_⟩
    rw [marked]
    cases version with
    | none => exact Or.inr (Option.some.inj claim)
    | some version => exact Or.inl claim
  next => exact ⟨rfl, fun pends => (nomatch pends), _, rfl, rfl, fun claim => (nomatch claim)⟩
  next => exact ⟨rfl, id, _, rfl, rfl, fun claim => (nomatch claim)⟩

/-- The step of a run that writes the marker leaves the version alone. -/
theorem version_of_marked {run : RunConfig β} {s s' : RunState β} {e : RunEvent β}
    {write : MarkerWrite} (marked : pending (s.markerAfter e write) = some v) {live : LiveTree β}
    (h : RunState.step run { s with live := live } e = some s') :
    s'.live versionPath = live versionPath := by
  rcases s with ⟨stage, version, before⟩
  have apart : versionPath ≠ backupDir ++ ["last_update.json".toList] := by decide
  cases e with
  | wrote f =>
      cases stage with
      | recording m a =>
          cases h
          exact write_of_ne live f apart
      | _ => cases marked
  | _ => cases marked

theorem Host.pending_of_step (h : x.step cfg e = some y) (pends : pending y.marker = some v) :
    pending x.marker = some v ∨
      x.records e = some v ∧ cfg.appVersion? y.live = cfg.appVersion? x.live := by
  cases e with
  | boots =>
      rcases Host.boot_eq_some h with ⟨w, -, rfl⟩
      exact Or.inl pends
  | promotes write =>
      rcases Host.importUpdater_eq_some h with ⟨w, -, rfl⟩
      exact Or.inl ((x.promote_spec w write).2.1 pends)
  | startsUpdate systemd backupName mishaps =>
      rcases Host.startUpdate_eq_some h with ⟨p, update, -, rfl⟩
      exact Or.inl pends
  | update e write =>
      rcases Host.updateStep_eq_some h with ⟨p, run, s, s', serving, updating, stepped, rfl⟩
      rcases pending_or _ _ pends with marked | before
      · refine Or.inr ⟨?_, appVersion?_congr (version_of_marked marked stepped)⟩
        unfold Host.records
        rw [serving]
        dsimp only
        rw [updating]
        exact marked
      · exact Or.inl before
  | acknowledged =>
      rcases Host.acknowledge_eq_some h with ⟨p, -, rfl⟩
      cases pends
  | script op =>
      rcases Host.scriptStep_eq_some h with ⟨-, version, r, marker⟩
      rw [marker] at pends
      rcases pending_or _ _ pends with recorded | before
      · rw [pending_result] at recorded
        cases recorded
      · exact Or.inl before
  | exits | startsScript | restored =>
      cases h
      exact Or.inl pends

/-- Where a process that is still importing comes from. -/
theorem Host.importing_of_step (h : x.step cfg e = some y)
    (importing : y.process = some (.importing v)) :
    x.process = some (.importing v) ∨
      cfg.appVersion? x.live = some v ∧ y.marker = x.marker := by
  cases e with
  | boots =>
      rcases Host.boot_eq_some h with ⟨w, version, rfl⟩
      cases importing
      exact Or.inr ⟨version, rfl⟩
  | promotes write =>
      rcases Host.importUpdater_eq_some h with ⟨w, -, rfl⟩
      rcases (x.promote_spec (v := v) w write).2.2 with ⟨p, serving, -⟩
      rw [serving] at importing
      cases importing
  | startsUpdate systemd backupName mishaps =>
      rcases Host.startUpdate_eq_some h with ⟨p, update, -, rfl⟩
      cases importing
  | update e write =>
      rcases Host.updateStep_eq_some h with ⟨p, run, s, s', -, -, -, rfl⟩
      cases importing
  | acknowledged =>
      rcases Host.acknowledge_eq_some h with ⟨p, -, rfl⟩
      exact Or.inl importing
  | script op =>
      rcases Host.scriptStep_eq_some h with ⟨process, -⟩
      exact Or.inl (process ▸ importing)
  | exits => cases h; cases importing
  | startsScript | restored =>
      cases h
      exact Or.inl importing

theorem Host.serving?_eq_some {p : Serving β} :
    x.serving? = some p ↔ x.process = some (.serving p) := by
  unfold Host.serving?
  split
  next q serving => simp [serving]
  next other => simpa using other p

/-- Where a process's claim comes from. -/
theorem Host.claim_of_step {p : Serving β} (h : x.step cfg e = some y)
    (serving : y.process = some (.serving p)) (claim : p.claimed = some v) :
    (∃ q, x.process = some (.serving q) ∧ q.claimed = some v ∧ q.appVersion = p.appVersion) ∨
      x.process = some (.importing p.appVersion) ∧
        (pending x.marker = some v ∨ p.appVersion = v) := by
  cases e with
  | boots =>
      rcases Host.boot_eq_some h with ⟨w, version, rfl⟩
      cases serving
  | promotes write =>
      rcases Host.importUpdater_eq_some h with ⟨w, importing, rfl⟩
      rcases (x.promote_spec (v := v) w write).2.2 with ⟨q, now, rfl, from_⟩
      rw [serving] at now
      cases now
      exact Or.inr ⟨importing, from_ claim⟩
  | startsUpdate systemd backupName mishaps =>
      rcases Host.startUpdate_eq_some h with ⟨q, update, before, rfl⟩
      cases serving
      exact Or.inl ⟨q, before, claim, rfl⟩
  | update e write =>
      rcases Host.updateStep_eq_some h with ⟨q, run, s, s', before, -, -, rfl⟩
      cases serving
      exact Or.inl ⟨q, before, claim, rfl⟩
  | acknowledged =>
      rcases Host.acknowledge_eq_some h with ⟨q, -, rfl⟩
      exact Or.inl ⟨p, serving, claim, rfl⟩
  | script op =>
      rcases Host.scriptStep_eq_some h with ⟨process, -⟩
      exact Or.inl ⟨p, process ▸ serving, claim, rfl⟩
  | exits => cases h; cases serving
  | startsScript | restored =>
      cases h
      exact Or.inl ⟨p, serving, claim, rfl⟩

/-! ## Runs -/

/-- A standing marker names the version of the tree, and of a process that is about to promote
it. -/
structure Consistent (cfg : HostConfig β) (h : Host β) : Prop where
  settled : ∀ v, pending h.marker = some v → cfg.appVersion? h.live = some v
  importing : ∀ w, h.process = some (.importing w) → ∀ v, pending h.marker = some v → w = v
  honest : HonestSuccess h

theorem Consistent.step (held : Consistent cfg x) (keeps : KeepsVersion cfg x e)
    (h : x.step cfg e = some y) : Consistent cfg y where
  settled v pends := by
    rcases Host.pending_of_step h pends with before | ⟨records, same⟩
    · rw [keeps.1 (Option.isSome_iff_exists.mpr ⟨v, before⟩) y h]
      exact held.settled v before
    · rw [same]
      exact keeps.2 v records
  importing w now v pends := by
    rcases Host.importing_of_step h now with before | ⟨version, same⟩
    · rcases Host.pending_of_step h pends with standing | ⟨records, -⟩
      · exact held.importing w before v standing
      · cases e with
        | update e write =>
            unfold Host.records at records
            rw [before] at records
            cases records
        | _ => cases records
    · rw [same] at pends
      exact Option.some.inj (version.symm.trans (held.settled v pends))
  honest p now v claim := by
    rcases Host.claim_of_step h (Host.serving?_eq_some.mp now) claim with
      ⟨q, before, claimed, same⟩ | ⟨before, source⟩
    · exact same.symm.trans (held.honest q (Host.serving?_eq_some.mpr before) v claimed)
    · rcases source with standing | own
      · exact held.importing _ before v standing
      · exact own

/-- While no `restarting` marker is left standing over a change of the version, and none is written
over a tree of another version than it names, every boot that records a success runs the version it
records. -/
theorem honestSuccess_of_run {events : List (HostEvent β)} (down : x.process = none)
    (settled : ∀ v, pending x.marker = some v → cfg.appVersion? x.live = some v)
    (keeps : Meets (Host.step cfg) (KeepsVersion cfg) x events)
    (ran : run (Host.step cfg) x events = some y) : HonestSuccess y := by
  have start : Consistent cfg x :=
    { settled
      importing := fun w now => by
        rw [down] at now
        cases now
      honest := fun p now => by
        rw [Host.serving?_eq_some, down] at now
        cases now }
  have held : Consistent cfg y :=
    run_invariant_of_meets (fun _ _ _ held keeps h => held.step keeps h) start keeps ran
  exact held.honest

/-- A marker left over a tree of another version is promoted by the next boot. -/
theorem falseSuccess_of_unsettled {w : Text} (pends : pending x.marker = some v)
    (version : cfg.appVersion? x.live = some w) (other : w ≠ v) :
    ∃ y, run (Host.step cfg) x [.exits, .boots, .promotes .whole] = some y ∧
      ¬ HonestSuccess y := by
  have marked : x.marker = some (.restarting (some v)) := by
    unfold pending at pends
    split at pends
    next marker => rw [marker, pends]
    next => cases pends
  have boot : Host.boot cfg { x with process := none } =
      some { x with process := some (.importing w) } := by
    unfold Host.boot
    dsimp only
    rw [version]
    rfl
  refine ⟨{ x with
    marker := some (.success (some v))
    process := some (.serving { appVersion := w, claimed := some v }) }, ?_, fun honest => ?_⟩
  · rw [run_cons_eq_some]
    refine ⟨_, rfl, ?_⟩
    rw [run_cons_eq_some]
    refine ⟨_, boot, ?_⟩
    rw [run_cons_eq_some]
    refine ⟨_, ?_, run_nil⟩
    unfold Host.step Host.importUpdater Host.promote
    dsimp only
    rw [marked]
    rfl
  · exact other (honest _ rfl v rfl)

/-! ### An in-process update -/

def devHost : HostConfig (List Text) where
  enc := flatEncoding
  cacheName name := name ++ "c".toList
  readText := List.head?

def oldVersion : Host (List Text) where
  live := write (fun _ => none) versionPath { content := ["1.0.0\n".toList], mode := 0o644 }

def newVersion : Release where
  version := "2.0.0".toList
  incompatible := .other
  files := [{ path := "VERSION".toList, sha256 := "2.0.0\n".toList }]

def newVersionFile : File (List Text) := { content := ["2.0.0\n".toList], mode := 0o644 }

/-- Up to the marker. -/
def inProcessUpdate : List (RunEvent (List Text)) :=
  [.fetched newVersion, .ok, .ok, .ok, .cleared fun _ => false, .wrote newVersionFile, .ok, .ok,
    .ok, .wrote newVersionFile, .pruned [], .decided .proceed, .ok, .ok, .ok, .ok, .ok,
    .wrote newVersionFile]

def upToRecording : List (HostEvent (List Text)) :=
  .boots :: .promotes .whole :: .startsUpdate false "backup.zip".toList {} ::
    inProcessUpdate.map fun e => .update e .whole

theorem honestSuccess_afterUpdate :
    ∃ y, run (Host.step devHost) oldVersion
        (upToRecording ++ [.exits, .boots, .promotes .whole]) = some y ∧
      HonestSuccess y := by
  have ends : (run (Host.step devHost) oldVersion
      (upToRecording ++ [.exits, .boots, .promotes .whole])).isSome := by decide
  rcases Option.isSome_iff_exists.mp ends with ⟨y, ran⟩
  refine ⟨y, ran, honestSuccess_of_run rfl (fun v pends => ?_) (by decide) ran⟩
  cases pends

/-- The restart cannot be scheduled, the run is rolled back, and the next boot of the old version
takes the marker for its own. -/
theorem rolledBack_claimed :
    ¬∀ (cfg : HostConfig (List Text)) (x y : Host (List Text))
        (events : List (HostEvent (List Text))), x.process = none →
      run (Host.step cfg) x events = some y → HonestSuccess y := by
  intro all
  have seen : (run (Host.step devHost) oldVersion (upToRecording ++
      [.update (.raised "can't start new thread" none) .whole, .update (.decided .revert) .whole,
        .update .ok .whole, .update (.cleared fun _ => false) .whole,
        .exits, .boots, .promotes .whole])).any fun y => y.serving?.any fun p =>
      p.claimed == some "2.0.0".toList && p.appVersion == "1.0.0".toList := by decide
  rcases (Option.any_eq_true _ _).mp seen with ⟨y, ran, facts⟩
  rcases (Option.any_eq_true _ _).mp facts with ⟨p, serving, facts⟩
  rw [Bool.and_eq_true, beq_iff_eq, beq_iff_eq] at facts
  have same := all devHost oldVersion y _ rfl ran p serving _ facts.1
  rw [facts.2] at same
  exact absurd same (by decide)

end GeneratorPi
