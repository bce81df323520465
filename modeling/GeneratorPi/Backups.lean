import GeneratorPi.Lib.StableSort
import GeneratorPi.Swap
import Mathlib.Data.List.TakeWhile

/-!
# The backup directory

`_make_backup` (`genpi/updater.py`) writes its archive into `backups/` and then prunes the directory
to the twenty archives with the latest modification times.  The times come from the wall clock, so a
clock that is behind the earlier archives puts the new one last: `backup_survives_iff` says exactly
when the archive that is returned is still there.  No path is returned at all where `zipfile` cannot
date a member.
-/

namespace GeneratorPi

open PyText FileTree StableSort

/-- A file of the backup directory. -/
structure BackupFile (β : Type) where
  name : Text
  /-- `st_mtime`, in any unit. -/
  mtime : ℤ
  members : Archive β
  deriving DecidableEq

/-- A directory holds one file of a name. -/
structure BackupDir (β : Type) where
  files : List (BackupFile β)
  nodup : (files.map BackupFile.name).Nodup

/-- The order in which the system lists a directory. -/
structure ScanOrder (β : Type) where
  order : List (BackupFile β) → List (BackupFile β)
  perm : ∀ files, (order files).Perm files

variable {β δ : Type}

/-- A file is written, over the one of its name if there is one. -/
def BackupDir.put (d : BackupDir β) (f : BackupFile β) : BackupDir β where
  files := f :: d.files.filter (·.name ≠ f.name)
  nodup := by
    refine List.nodup_cons.mpr ⟨?_, d.nodup.sublist (List.filter_sublist.map _)⟩
    simp

/-- `fnmatch(name, "backup-*.zip")`. -/
def isBackupName (name : Text) : Bool :=
  "backup-".toList.isPrefixOf name && ".zip".toList.isSuffixOf (name.drop 7)

def backupName (ts version : Text) : Text :=
  "backup-".toList ++ (ts ++ "-v".toList ++ version ++ ".zip".toList)

theorem isBackupName_backupName (ts version : Text) : isBackupName (backupName ts version) := by
  rw [isBackupName, Bool.and_eq_true, List.isPrefixOf_iff_prefix, List.isSuffixOf_iff_suffix]
  exact ⟨List.prefix_append _ _, List.suffix_append _ _⟩

/-- The archives found by the glob, in the order of the listing. -/
def zips (listing : List (BackupFile β)) : List (BackupFile β) :=
  listing.filter (isBackupName ·.name)

/-- `_prune_backups`: what is left of the listing. -/
def pruneBackups (keep : ℕ) (listing : List (BackupFile β)) : List (BackupFile β) :=
  let old := ((sortDesc BackupFile.mtime (zips listing)).drop keep).map BackupFile.name
  listing.filter fun f => !old.contains f.name

/-- `ZipInfo`: the years that a member can be dated in; at any other `zipfile` raises. -/
def zipDated (localYear : ℤ → ℤ) (time : ℤ) : Bool :=
  1980 ≤ localYear time && localYear time ≤ 2107

/-- The times the members are dated by: a file by its `st_mtime`, the list of added files by the
clock. -/
def memberTimes (t : LiveTree β) (m : Manifest) (mtime : Path → ℤ) (now : ℤ) : List ℤ :=
  ((m.paths.map pathParts).filter fun p => (t p).isSome).map mtime ++ [now]

/-- What `_make_backup` returns, with the directory it leaves. -/
structure BackupMade (β : Type) where
  path : Text
  added : List Text
  files : List (BackupFile β)

/-- `_make_backup` at the clock reading `now`, formatted as `ts`, with live files modified at these
times; `time.localtime` puts a time into a year. -/
def makeBackup [DecidableEq δ] (enc : Encoding β δ) (scan : ScanOrder β) (localYear : ℤ → ℤ)
    (t : LiveTree β) (mtime : Path → ℤ) (m : Manifest) (dir : BackupDir β) (now : ℤ)
    (ts version : Text) : Option (BackupMade β) :=
  if (memberTimes t m mtime now).all (zipDated localYear) then
    (snapshot enc t m.paths).map fun members =>
      let path := backupName ts version
      let dir := dir.put { name := path, mtime := now, members }
      { path
        added := addedPaths t m.paths
        files := pruneBackups 20 (scan.order dir.files) }
  else none

/-- The archive holds every live file of the manifest with its current content. -/
def HoldsTargets (t : LiveTree β) (m : Manifest) (members : Archive β) : Prop :=
  ∀ p ∈ m.paths, ∀ f, t (pathParts p) = some f →
    ∃ name, pathParts name = pathParts p ∧ (name, f.content) ∈ members

theorem snapshot_holds [DecidableEq δ] {enc : Encoding β δ} {t : LiveTree β} {m : Manifest}
    {members : Archive β} (h : snapshot enc t m.paths = some members) :
    HoldsTargets t m members := by
  obtain ⟨-, rfl⟩ := Option.ite_none_right_eq_some.mp h |>.imp_right Option.some.inj
  intro p mem f live
  refine ⟨normpath p, pathParts_normpath p, List.mem_append_left _ ?_⟩
  exact List.mem_filterMap.mpr ⟨p, mem, by rw [live, Option.map_some]⟩

/-! ## Which archive is pruned -/

/-- How many archives of the listing the prune prefers to the one at `path`, modified `now`: those
modified later, or at the same time and listed earlier. -/
def aheadOf (path : Text) (now : ℤ) (listing : List (BackupFile β)) : ℕ :=
  (zips (listing.takeWhile (·.name ≠ path))).countP (fun f => now ≤ f.mtime) +
    (zips (listing.dropWhile (·.name ≠ path)).tail).countP (fun f => now < f.mtime)

/-- A file of a listing splits it where its name is found. -/
theorem listing_split {f : BackupFile β} {listing : List (BackupFile β)} (mem : f ∈ listing)
    (nodup : (listing.map BackupFile.name).Nodup) :
    listing = listing.takeWhile (·.name ≠ f.name) ++ f ::
      (listing.dropWhile (·.name ≠ f.name)).tail := by
  induction listing with
  | nil => cases mem
  | cons g rest ih =>
      obtain ⟨fresh, rest_nodup⟩ := List.nodup_cons.mp nodup
      by_cases same : g.name = f.name
      · have here : f = g := (List.mem_cons.mp mem).resolve_right fun later =>
          fresh (List.mem_map.mpr ⟨f, later, same.symm⟩)
        simp [here]
      · have later : f ∈ rest := (List.mem_cons.mp mem).resolve_left fun eq => same (eq ▸ rfl)
        rw [List.takeWhile_cons_of_pos (by simpa using same),
          List.dropWhile_cons_of_pos (by simpa using same), List.cons_append]
        exact congrArg (g :: ·) (ih later rest_nodup)

/-- An archive is kept exactly if fewer than `keep` others are preferred to it. -/
theorem mem_pruneBackups_iff {f : BackupFile β} {listing : List (BackupFile β)} (keep : ℕ)
    (mem : f ∈ listing) (nodup : (listing.map BackupFile.name).Nodup)
    (isBackup : isBackupName f.name) :
    f ∈ pruneBackups keep listing ↔ aheadOf f.name f.mtime listing < keep := by
  have split := listing_split mem nodup
  have found : zips listing = zips (listing.takeWhile (·.name ≠ f.name)) ++ f ::
      zips (listing.dropWhile (·.name ≠ f.name)).tail := by
    conv_lhs => rw [split]
    rw [zips, List.filter_append, List.filter_cons, if_pos isBackup]
    rfl
  have names : ((zips listing).map BackupFile.name).Nodup :=
    nodup.sublist (List.filter_sublist.map _)
  have sortedNames : ((sortDesc BackupFile.mtime (zips listing)).map BackupFile.name).Nodup :=
    ((perm_sortDesc _ _).map _).nodup_iff.mpr names
  have inSorted : f ∈ sortDesc BackupFile.mtime (zips listing) :=
    (perm_sortDesc _ _).mem_iff.mpr (List.mem_filter.mpr ⟨mem, isBackup⟩)
  have kept : f ∈ pruneBackups keep listing ↔
      f ∈ (sortDesc BackupFile.mtime (zips listing)).take keep := by
    rw [pruneBackups, List.mem_filter, Bool.not_eq_true', ← Bool.not_eq_true, List.contains_iff_mem]
    rw [← List.take_append_drop keep (sortDesc _ (zips listing)), List.map_append] at sortedNames
    constructor
    · rintro ⟨-, unpruned⟩
      rw [← List.take_append_drop keep (sortDesc _ (zips listing)), List.mem_append] at inSorted
      exact inSorted.resolve_right fun dropped => unpruned (List.mem_map_of_mem dropped)
    · intro taken
      exact ⟨mem, fun dropped => (List.nodup_append.mp sortedNames).2.2 _
        (List.mem_map_of_mem taken) _ dropped rfl⟩
  rw [kept, found, mem_take_sortDesc_iff keep (found ▸ List.Nodup.of_map _ names)]
  rfl

/-- After a file is put into the directory and the directory pruned, the file is there exactly if it
was not pruned itself. -/
theorem mem_prune_put_iff {scan : ScanOrder β} {dir : BackupDir β} {t : LiveTree β} {m : Manifest}
    {new : BackupFile β} (keep : ℕ) (isBackup : isBackupName new.name)
    (holds : HoldsTargets t m new.members) :
    (∃ f ∈ pruneBackups keep (scan.order (dir.put new).files),
        f.name = new.name ∧ HoldsTargets t m f.members) ↔
      aheadOf new.name new.mtime (scan.order (dir.put new).files) < keep := by
  have perm := scan.perm (dir.put new).files
  have nodup : ((scan.order (dir.put new).files).map BackupFile.name).Nodup :=
    (perm.map _).nodup_iff.mpr (dir.put new).nodup
  have mem : new ∈ scan.order (dir.put new).files := perm.mem_iff.mpr List.mem_cons_self
  rw [← mem_pruneBackups_iff keep mem nodup isBackup]
  constructor
  · rintro ⟨f, kept, sameName, -⟩
    have listed : f ∈ scan.order (dir.put new).files := (List.mem_filter.mp kept).1
    have eq : f = new := List.inj_on_of_nodup_map nodup listed mem sameName
    exact eq ▸ kept
  · intro kept
    exact ⟨new, kept, rfl, holds⟩

/-- The archive that `_make_backup` returns is still in the directory, and holds what the swap will
replace, exactly if fewer than twenty other archives are preferred to it by the prune. -/
theorem backup_survives_iff [DecidableEq δ] {enc : Encoding β δ} {scan : ScanOrder β}
    {localYear : ℤ → ℤ} {t : LiveTree β} {mtime : Path → ℤ} {m : Manifest} {dir : BackupDir β}
    {now : ℤ} {ts version : Text} {members : Archive β} {made : BackupMade β}
    (took : snapshot enc t m.paths = some members)
    (done : makeBackup enc scan localYear t mtime m dir now ts version = some made) :
    (∃ f ∈ made.files, f.name = made.path ∧ HoldsTargets t m f.members) ↔
      aheadOf (backupName ts version) now
        (scan.order (dir.put { name := backupName ts version, mtime := now, members }).files) <
          20 := by
  obtain ⟨-, done⟩ := Option.ite_none_right_eq_some.mp done
  rw [took, Option.map_some, Option.some.injEq] at done
  subst done
  exact mem_prune_put_iff 20 (isBackupName_backupName ts version) (snapshot_holds took)

/-- A clock that is ahead of every earlier archive keeps the new one first. -/
theorem aheadOf_eq_zero {scan : ScanOrder β} {dir : BackupDir β} (new : BackupFile β)
    (ahead : ∀ f ∈ dir.files, f.mtime < new.mtime) :
    aheadOf new.name new.mtime (scan.order (dir.put new).files) = 0 := by
  have older : ∀ f ∈ scan.order (dir.put new).files, f.name ≠ new.name → f.mtime < new.mtime := by
    intro f mem other
    rcases List.mem_cons.mp ((scan.perm _).mem_iff.mp mem) with rfl | mem
    · exact absurd rfl other
    · exact ahead f (List.mem_filter.mp mem).1
  have upTo : ∀ f ∈ scan.order (dir.put new).files, f.mtime ≤ new.mtime := by
    intro f mem
    rcases List.mem_cons.mp ((scan.perm _).mem_iff.mp mem) with rfl | mem
    · exact le_rfl
    · exact (ahead f (List.mem_filter.mp mem).1).le
  rw [aheadOf, Nat.add_eq_zero_iff, List.countP_eq_zero, List.countP_eq_zero]
  constructor
  · intro f mem
    have listed := (List.mem_filter.mp mem).1
    have other : f.name ≠ new.name := by simpa using List.mem_takeWhile_imp listed
    simpa using older f ((List.takeWhile_sublist _).mem listed) other
  · intro f mem
    have listed := (List.mem_filter.mp mem).1
    have inListing := (List.dropWhile_sublist _).mem (List.mem_of_mem_tail listed)
    simpa using upTo f inListing

/-! ## A clock behind twenty archives -/

def listedAsStored : ScanOrder (List Text) where
  order files := files
  perm _ := List.Perm.refl _

/-- The calendar year of a time in seconds, in UTC: the days are counted from a first of March. -/
def utcYear (time : ℤ) : ℤ :=
  let days := time / 86400 + 719468
  let era := days / 146097
  let day := days % 146097
  let year := (day - day / 1460 + day / 36524 - day / 146096) / 365
  let dayOfYear := day - (365 * year + year / 4 - year / 100)
  year + era * 400 + if 306 ≤ dayOfYear then 1 else 0

/-- `%S`. -/
def secondText (n : ℕ) : Text :=
  [Char.ofNat ('0'.toNat + n / 10), Char.ofNat ('0'.toNat + n % 10)]

/-- Archives written a second after the other, from the first of January 2026 on. -/
def earlierBackups (n : ℕ) : List (BackupFile (List Text)) :=
  (List.range n).map fun i =>
    { name := backupName ("20260101-0000".toList ++ secondText (10 + i)) "1.5.0".toList
      mtime := 1767225610 + i
      members := [] }

/-- The files of the tree date from June 2025. -/
def smallTimes : Path → ℤ := fun _ => 1750000000

def backupDirOf (n : ℕ) (h : ((earlierBackups n).map BackupFile.name).Nodup) :
    BackupDir (List Text) where
  files := earlierBackups n
  nodup := h

theorem backup_survives_clockAhead :
    ∃ made, makeBackup plainEncoding listedAsStored utcYear smallTree smallTimes smallRelease
        (backupDirOf 20 (by decide)) 1767230000 "20260101-011320".toList "1.5.3".toList =
          some made ∧
      made.files.length = 20 ∧
      ∃ f ∈ made.files, f.name = made.path ∧ HoldsTargets smallTree smallRelease f.members := by
  have took : snapshot plainEncoding smallTree smallRelease.paths =
      some (backupMembers plainEncoding smallTree smallRelease.paths) := rfl
  obtain ⟨made, done, kept⟩ : ∃ made, makeBackup plainEncoding listedAsStored utcYear smallTree
      smallTimes smallRelease (backupDirOf 20 (by decide)) 1767230000
        "20260101-011320".toList "1.5.3".toList = some made ∧ made.files.length = 20 :=
    ⟨_, rfl, by decide⟩
  refine ⟨made, done, kept, (backup_survives_iff took done).mpr ?_⟩
  refine (aheadOf_eq_zero ⟨_, _, _⟩ ?_).trans_lt ?_ <;> decide

/-- With twenty archives of a later time the new one is deleted before it is returned: here the
clock has gone back to the first of January 2020. -/
theorem backup_pruned_clockBehind :
    ∃ made, makeBackup plainEncoding listedAsStored utcYear smallTree smallTimes smallRelease
        (backupDirOf 20 (by decide)) 1577836800 "20200101-000000".toList "1.5.3".toList =
          some made ∧
      ¬ ∃ f ∈ made.files, f.name = made.path :=
  ⟨_, rfl, by decide⟩

end GeneratorPi
