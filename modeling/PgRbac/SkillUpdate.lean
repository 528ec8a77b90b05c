import PgRbac.SkillTree

/-!
# The installer

`update_skill` of `scripts/update_installed_skill.py`, on a file system whose operations may fail.
Paths are absolute and free of `.` and `..`; behind the test for links, `resolve` keeps a path.

* `Faults`              the operations that fail in a call, and what a failed copy leaves behind;
* `inspect`, `prepare`  what the call reads before it writes;
* `install`             copy, check, rename away, rename in;
* `updateSkill`         the call with its final cleanup.

A failed rename or `mkdir` has no effect.  The removal of the staging directory works.
-/

set_option linter.unusedVariables false
set_option linter.unusedSectionVars false

namespace PgRbac

namespace Installer

/-! ## operations -/

inductive Op where
  | resolve
  | validateSource
  | stat
  | readSource
  | matchTarget
  | pathExists
  | copy
  | validateStaged
  | readStaged
  | mkdir
  | relink
  | moveAway
  | moveIn
  | rollBack
deriving DecidableEq, Repr

structure Faults where
  fails : Op → Bool
  /-- what a failed copy leaves in the staging directory, if it made one -/
  leftover : Option Tree

def noFaults : Faults := ⟨fun _ => false, none⟩

def Faults.guard (faults : Faults) (op : Op) : Except Failure Unit :=
  if faults.fails op then .error .os else .ok ()

def exists? (d : Tree) (path : Path) : Bool := (d.get path).isSome

def parent (path : Path) : Path := path.dropLast

def nameOf (path : Path) : String := path.getLast?.getD ""

def isWithin (path parent : Path) : Bool := decide (parent <+: path)

/-- `os.stat(path).st_dev` of a directory -/
def deviceOf (d : Tree) (path : Path) : Option Nat :=
  match d.get path with
  | some (.dir device) => some device
  | _ => none

/-- `path.rename(target)` onto a path that does not exist -/
def rename (d : Tree) (path target : Path) : Except Failure Tree :=
  if exists? d path ∧ ¬ exists? d target ∧ ¬ isWithin target path ∧
      deviceOf d (parent target) ≠ none ∧ deviceOf d path = deviceOf d (parent target) then
    .ok (d.move path target)
  else .error .os

/-- `path.mkdir(exist_ok=True)` below a directory -/
def mkdir (d : Tree) (path : Path) : Tree :=
  if exists? d path then d else d.insert path (.dir ((deviceOf d (parent path)).getD 0))

def rejectLinkedPathComponents (d : Tree) (path : Path) (label : String) : Except Failure Unit :=
  match path.inits.reverse.find? (isLink d) with
  | some candidate => .error (.update (.traversesLink label candidate))
  | none => .ok ()

/-! ## requests -/

structure Request where
  source : Path
  target : Path
  backupDir : Option Path
  dryRun : Bool
  /-- the time of the call, and the random part of its names -/
  timestamp : String
  unique : String

namespace Request

def targetParent (r : Request) : Path := parent r.target

def backupRoot (r : Request) : Path :=
  r.backupDir.getD (parent (parent r.target) ++ ["skill-backups"])

def stagingPrefix : String := "." ++ skillName ++ ".staging-"

def staging (r : Request) : Path := r.targetParent ++ [stagingPrefix ++ r.unique]

def backup (r : Request) : Path :=
  r.backupRoot ++ [skillName ++ ".backup-" ++ r.timestamp ++ "-" ++ r.unique]

end Request

section
variable {Digest : Type} [DecidableEq Digest] (sha256 : List UInt8 → Digest)

/-! ## reading -/

/-- the walk of `_installed_tree_matches` -/
def walkInstalled (t : Tree) (root : Path) : Except Failure Unit :=
  match t.keys.find? fun path => path != [] && isLink t path with
  | some path => .error (.update (.installedLink (root ++ path)))
  | none => .ok ()

/-- `_installed_tree_matches` of the tree at `root` -/
def installedTreeMatches (t : Tree) (root : Path) (sourceVersion : String)
    (sourceManifest : PathMap String Digest) : Except Failure Bool := do
  walkInstalled t root
  if isFile t ["VERSION"] then
    let text ← readText t ["VERSION"]
    return strip text == sourceVersion && (manifest sha256 t).same sourceManifest
  else return false

/-- what `update_skill` asks of its paths -/
def checkPaths (d : Tree) (r : Request) : Except Failure Unit := do
  demand (nameOf r.target == skillName) (.targetName r.target)
  demand (isDir d r.targetParent) (.targetParent r.targetParent)
  demand (!isWithin r.source r.target && !isWithin r.target r.source) .overlap
  demand (!exists? d r.target || isDir d r.target) (.targetNotDirectory r.target)
  demand (!isWithin r.backupRoot r.targetParent) .backupInside
  demand (!isWithin r.backupRoot r.source && !isWithin r.source r.backupRoot) .backupOverlap
  demand (!exists? d r.backupRoot || isDir d r.backupRoot) (.backupNotDirectory r.backupRoot)
  demand (isDir d (parent r.backupRoot)) (.backupParent (parent r.backupRoot))
  let devicePath := if exists? d r.backupRoot then r.backupRoot else parent r.backupRoot
  demand (deviceOf d r.targetParent == deviceOf d devicePath) .filesystems

/-- `path.resolve(strict=True)` -/
def resolveStrict (d : Tree) (path : Path) : Except Failure Unit :=
  if exists? d path then .ok () else .error .os

/-- the checks before the manifest of the source is read: the version of the source -/
def inspect (d : Tree) (r : Request) (faults : Faults) : Except Failure String := do
  faults.guard .resolve
  rejectLinkedPathComponents d r.source "Source path"
  rejectLinkedPathComponents d r.target "Target path"
  resolveStrict d r.source
  rejectLinkedPathComponents d r.backupRoot "Backup path"
  faults.guard .validateSource
  let version ← validateSkillTree (d.sub r.source) r.source true
  faults.guard .stat
  checkPaths d r
  return version

def upToDate (d : Tree) (r : Request) (faults : Faults) (version : String) :
    Except Failure Bool :=
  if exists? d r.target then do
    faults.guard .matchTarget
    installedTreeMatches sha256 (d.sub r.target) r.target version
      (manifest sha256 (d.sub r.source))
  else return false

/-- what precedes the first write: the version to install, or nothing to do -/
def prepare (d : Tree) (r : Request) (faults : Faults) : Except Failure (Option String) := do
  let version ← inspect d r faults
  faults.guard .readSource
  let done ← upToDate sha256 d r faults version
  if done || r.dryRun then return none
  else do
    faults.guard .pathExists
    demand (!exists? d r.staging && !exists? d r.backup) .pathExists
    return some version

/-! ## writing -/

/-- the test of the staged copy -/
def verify (d : Tree) (r : Request) (faults : Faults) (version : String) : Except Failure Unit := do
  faults.guard .validateStaged
  let stagedVersion ← validateSkillTree (d.sub r.staging) r.staging false
  faults.guard .readStaged
  demand (stagedVersion == version &&
    (manifest sha256 (d.sub r.staging)).same (manifest sha256 (d.sub r.source))) .stagedMismatch

/-- what a failed copy leaves -/
def leave (d : Tree) (r : Request) (faults : Faults) : Tree :=
  match faults.leftover with
  | none => d
  | some left =>
    d.graft r.staging (left.insert [] (.dir ((deviceOf d r.targetParent).getD 0)))

/-- an operation of the switch, which may fail -/
def attempt (faults : Faults) (op : Op) (result : Except Failure Tree) : Except Failure Tree :=
  if faults.fails op then .error .os else result

/-- the staged tree goes to the target, or the previous tree comes back -/
def replace (d : Tree) (r : Request) (faults : Faults) : Tree × Except Failure (Option Path) :=
  match attempt faults .moveIn (rename d r.staging r.target) with
  | .ok d' => (d', .ok (some r.backup))
  | .error _ =>
    match attempt faults .rollBack (rename d r.backup r.target) with
    | .ok d' => (d', .error (.update .restored))
    | .error _ => (d, .error (.update (.unrestored r.backup)))

/-- the switch to the staged tree -/
def switch (d : Tree) (r : Request) (faults : Faults) : Tree × Except Failure (Option Path) :=
  if exists? d r.target then
    if faults.fails .mkdir then (d, .error .os)
    else
      let d := mkdir d r.backupRoot
      match (do faults.guard .relink; rejectLinkedPathComponents d r.backupRoot "Backup path") with
      | .error e => (d, .error e)
      | .ok () =>
        match attempt faults .moveAway (rename d r.target r.backup) with
        | .error e => (d, .error e)
        | .ok d => replace d r faults
  else
    match attempt faults .moveIn (rename d r.staging r.target) with
    | .error e => (d, .error e)
    | .ok d => (d, .ok none)

/-- the body of the `try` -/
def install (d : Tree) (r : Request) (faults : Faults) (version : String) :
    Tree × Except Failure (Option Path) :=
  if faults.fails .copy then (leave d r faults, .error .os)
  else
    match copytree ((deviceOf d r.targetParent).getD 0) (d.sub r.source) with
    | none => (leave d r faults, .error .os)
    | some copy =>
      let d := d.graft r.staging copy
      match verify sha256 d r faults version with
      | .error e => (d, .error e)
      | .ok () => switch d r faults

def removeOwnedStaging (d : Tree) (path parentPath : Path) : Except Failure Tree := do
  demand (parent path == parentPath &&
    Request.stagingPrefix.toList.isPrefixOf (nameOf path).toList && !isLink d path)
    (.unrecognizedStaging path)
  return if exists? d path then d.prune path else d

/-- the `finally` -/
def cleanUp (r : Request) (end_ : Tree × Except Failure (Option Path)) :
    Tree × Except Failure (Option Path) :=
  if exists? end_.1 r.staging then
    match removeOwnedStaging end_.1 r.staging r.targetParent with
    | .error e => (end_.1, .error e)
    | .ok d => (d, end_.2)
  else end_

def updateSkill (d : Tree) (r : Request) (faults : Faults) :
    Tree × Except Failure (Option Path) :=
  match prepare sha256 d r faults with
  | .error e => (d, .error e)
  | .ok none => (d, .ok none)
  | .ok (some version) => cleanUp r (install sha256 d r faults version)

end

/-! ## what the checks promise -/

section
variable {d : Tree} {r : Request} {faults : Faults} {version : String}

theorem rejectLinks_ok {path : Path} {label : String} :
    rejectLinkedPathComponents d path label = .ok () ↔ ∀ p, p <+: path → isLink d p = false := by
  unfold rejectLinkedPathComponents
  constructor
  · intro h p hp
    cases hfind : path.inits.reverse.find? (isLink d) with
    | some candidate =>
      rw [hfind] at h
      cases h
    | none =>
      have hnot := List.find?_eq_none.mp hfind p
        (List.mem_reverse.mpr (List.mem_inits p path |>.mpr hp))
      simpa using hnot
  · intro h
    have hfind : path.inits.reverse.find? (isLink d) = none := by
      refine List.find?_eq_none.mpr fun p hp => ?_
      rw [h p ((List.mem_inits p path).mp (List.mem_reverse.mp hp))]
      exact Bool.false_ne_true
    rw [hfind]

/-- the paths of a call lie apart where they have to -/
structure CheckedPaths (d : Tree) (r : Request) : Prop where
  name : nameOf r.target = skillName
  parentDir : isDir d r.targetParent = true
  above : ¬ r.target <+: r.source
  below : ¬ r.source <+: r.target
  targetDir : exists? d r.target = true → isDir d r.target = true
  outside : ¬ r.targetParent <+: r.backupRoot
  sourceAbove : ¬ r.source <+: r.backupRoot
  sourceBelow : ¬ r.backupRoot <+: r.source
  backupDir : exists? d r.backupRoot = true → isDir d r.backupRoot = true
  backupParent : isDir d (parent r.backupRoot) = true
  device : deviceOf d r.targetParent =
    deviceOf d (if exists? d r.backupRoot then r.backupRoot else parent r.backupRoot)

theorem isWithin_false {path above : Path} : (!isWithin path above) = true ↔ ¬ above <+: path := by
  unfold isWithin
  rw [Bool.not_eq_true', decide_eq_false_iff_not]

theorem implies_iff {a b : Bool} : (!a || b) = true ↔ (a = true → b = true) := by
  cases a <;> cases b <;> simp

theorem checkPaths_ok : checkPaths d r = .ok () ↔ CheckedPaths d r := by
  constructor
  · intro h
    unfold checkPaths at h
    obtain ⟨_, hname, h⟩ := bind_ok h
    obtain ⟨_, hparent, h⟩ := bind_ok h
    obtain ⟨_, hoverlap, h⟩ := bind_ok h
    obtain ⟨_, htarget, h⟩ := bind_ok h
    obtain ⟨_, houtside, h⟩ := bind_ok h
    obtain ⟨_, hbackup, h⟩ := bind_ok h
    obtain ⟨_, hbackupDir, h⟩ := bind_ok h
    obtain ⟨_, hbackupParent, h⟩ := bind_ok h
    obtain ⟨hst, hts⟩ := Bool.and_eq_true _ _ |>.mp (demand_ok.mp hoverlap)
    obtain ⟨hbs, hsb⟩ := Bool.and_eq_true _ _ |>.mp (demand_ok.mp hbackup)
    exact ⟨beq_iff_eq.mp (demand_ok.mp hname), demand_ok.mp hparent, isWithin_false.mp hst,
      isWithin_false.mp hts, implies_iff.mp (demand_ok.mp htarget),
      isWithin_false.mp (demand_ok.mp houtside), isWithin_false.mp hbs, isWithin_false.mp hsb,
      implies_iff.mp (demand_ok.mp hbackupDir), demand_ok.mp hbackupParent,
      beq_iff_eq.mp (demand_ok.mp h)⟩
  · intro h
    have hdemand {condition : Bool} {error : UpdateError} (hc : condition = true) :
        demand condition error = .ok () := demand_ok.mpr hc
    unfold checkPaths
    rw [hdemand (beq_iff_eq.mpr h.name), hdemand h.parentDir,
      hdemand (Bool.and_eq_true _ _ |>.mpr ⟨isWithin_false.mpr h.above, isWithin_false.mpr h.below⟩),
      hdemand (implies_iff.mpr h.targetDir), hdemand (isWithin_false.mpr h.outside),
      hdemand (Bool.and_eq_true _ _ |>.mpr
        ⟨isWithin_false.mpr h.sourceAbove, isWithin_false.mpr h.sourceBelow⟩),
      hdemand (implies_iff.mpr h.backupDir), hdemand h.backupParent]
    exact hdemand (beq_iff_eq.mpr h.device)

/-- what holds once the checks have passed -/
structure Inspected (d : Tree) (r : Request) (version : String) : Prop where
  sourceLinks : ∀ p, p <+: r.source → isLink d p = false
  targetLinks : ∀ p, p <+: r.target → isLink d p = false
  backupLinks : ∀ p, p <+: r.backupRoot → isLink d p = false
  valid : validateSkillTree (d.sub r.source) r.source true = .ok version
  paths : CheckedPaths d r

theorem inspect_ok (h : inspect d r faults = .ok version) : Inspected d r version := by
  unfold inspect at h
  obtain ⟨_, _, h⟩ := bind_ok h
  obtain ⟨_, hsource, h⟩ := bind_ok h
  obtain ⟨_, htarget, h⟩ := bind_ok h
  obtain ⟨_, _, h⟩ := bind_ok h
  obtain ⟨_, hbackup, h⟩ := bind_ok h
  obtain ⟨_, _, h⟩ := bind_ok h
  obtain ⟨version', hvalid, h⟩ := bind_ok h
  obtain ⟨_, _, h⟩ := bind_ok h
  obtain ⟨_, hpaths, h⟩ := bind_ok h
  cases h
  exact ⟨rejectLinks_ok.mp hsource, rejectLinks_ok.mp htarget, rejectLinks_ok.mp hbackup, hvalid,
    checkPaths_ok.mp hpaths⟩

theorem source_exists (h : validateSkillTree (d.sub r.source) r.source true = .ok version) :
    exists? d r.source = true := by
  have hdir := (validateSkillTree_ok h).directory
  unfold isDir at hdir
  rw [PathMap.get_sub, List.append_nil] at hdir
  unfold exists?
  cases hget : d.get r.source with
  | none =>
    rw [hget] at hdir
    cases hdir
  | some entry => rfl

theorem Inspected.inspect (h : Inspected d r version) : inspect d r noFaults = .ok version := by
  have hresolve : resolveStrict d r.source = .ok () := if_pos (source_exists h.valid)
  unfold Installer.inspect
  rw [rejectLinks_ok.mpr h.sourceLinks, rejectLinks_ok.mpr h.targetLinks,
    rejectLinks_ok.mpr h.backupLinks, hresolve, h.valid,
    checkPaths_ok.mpr h.paths]
  rfl

end

/-! ## paths of a call that writes -/

/-- what holds before the first write -/
structure Prepared (d : Tree) (r : Request) (version : String) : Prop
    extends Inspected d r version where
  stagingFree : d.get r.staging = none
  backupFree : d.get r.backup = none

section
variable {d s : Tree} {r : Request} {faults : Faults} {version : String}

theorem exists?_iff {path : Path} : exists? d path = true ↔ d.get path ≠ none := by
  unfold exists?
  rw [Option.isSome_iff_ne_none]

theorem exists?_of_isDir {path : Path} (h : isDir d path = true) : d.get path ≠ none := by
  unfold isDir at h
  intro hnone
  rw [hnone] at h
  cases h

theorem not_below_free (hd : d.Closed Entry.isDir) {p q : Path} (hfree : d.get p = none)
    (hq : d.get q ≠ none) : ¬ p <+: q := by
  rintro ⟨rest, rfl⟩
  exact hq (hd.none hfree rest)

theorem apart_names {p : Path} {a b : String} (h : a ≠ b) :
    PathMap.Apart (p ++ [a]) (p ++ [b]) := by
  have hnot {a b : String} (h : a ≠ b) : ¬ p ++ [a] <+: p ++ [b] := by
    intro hp
    rw [List.prefix_append_right_inj, List.cons_prefix_cons] at hp
    exact h hp.1
  exact ⟨hnot h, hnot h.symm⟩

theorem target_eq (h : CheckedPaths d r) : r.target = r.targetParent ++ [skillName] := by
  have hname := h.name
  unfold nameOf at hname
  cases hlast : r.target.getLast? with
  | none =>
    rw [hlast] at hname
    exact absurd hname (by decide)
  | some name =>
    rw [hlast] at hname
    change name = skillName at hname
    rw [← hname]
    exact (List.dropLast_append_getLast? name hlast).symm

theorem parent_prefix_target (r : Request) : r.targetParent <+: r.target :=
  List.dropLast_prefix r.target

theorem staging_name_ne (unique : String) : skillName ≠ Request.stagingPrefix ++ unique := by
  intro heq
  have hhead := congrArg (fun s => s.toList.head?) heq
  rw [String.toList_append] at hhead
  cases hhead

theorem staging_not_above (h : CheckedPaths d r) {path : Path} (hpath : path <+: r.backupRoot) :
    ¬ r.staging <+: path := by
  intro hp
  exact h.outside (((List.prefix_append _ _).trans hp).trans hpath)

theorem target_not_above (h : CheckedPaths d r) {path : Path} (hpath : path <+: r.backupRoot) :
    ¬ r.target <+: path := by
  intro hp
  exact h.outside (((parent_prefix_target r).trans hp).trans hpath)

theorem target_staging (h : CheckedPaths d r) : PathMap.Apart r.target r.staging := by
  rw [target_eq h]
  exact apart_names (staging_name_ne r.unique)

namespace Prepared

theorem source_get (h : Prepared d r version) : d.get r.source ≠ none :=
  exists?_iff.mp (source_exists h.valid)

theorem source_staging (hd : d.Closed Entry.isDir) (h : Prepared d r version) :
    PathMap.Apart r.source r.staging := by
  refine ⟨?_, not_below_free hd h.stagingFree h.source_get⟩
  intro hp
  rcases PathMap.prefix_concat hp with hparent | heq
  · exact h.paths.below (hparent.trans (parent_prefix_target r))
  · exact h.source_get (heq ▸ h.stagingFree)

theorem source_backup (hd : d.Closed Entry.isDir) (h : Prepared d r version) :
    PathMap.Apart r.source r.backup := by
  refine ⟨?_, not_below_free hd h.backupFree h.source_get⟩
  intro hp
  rcases PathMap.prefix_concat hp with hroot | heq
  · exact h.paths.sourceAbove hroot
  · exact h.source_get (heq ▸ h.backupFree)

theorem parent_get (h : Prepared d r version) : d.get r.targetParent ≠ none :=
  exists?_of_isDir h.paths.parentDir

theorem backup_not_above (hd : d.Closed Entry.isDir) (h : Prepared d r version) {path : Path}
    (hpath : path <+: r.targetParent) : ¬ r.backup <+: path := fun hp =>
  not_below_free hd h.backupFree h.parent_get (hp.trans hpath)

theorem backup_ne (h : Prepared d r version) (name : String) :
    r.targetParent ++ [name] ≠ r.backup := by
  intro heq
  have hroot : r.targetParent = r.backupRoot := (List.append_inj' heq rfl).1
  exact h.paths.outside (hroot ▸ List.prefix_refl _)

theorem child_backup (hd : d.Closed Entry.isDir) (h : Prepared d r version) (name : String) :
    PathMap.Apart (r.targetParent ++ [name]) r.backup := by
  constructor
  · intro hp
    rcases PathMap.prefix_concat hp with hroot | heq
    · exact h.paths.outside ((List.prefix_append _ _).trans hroot)
    · exact h.backup_ne name heq
  · intro hp
    rcases PathMap.prefix_concat hp with hparent | heq
    · exact h.backup_not_above hd (List.prefix_refl _) hparent
    · exact h.backup_ne name heq.symm

theorem staging_backup (hd : d.Closed Entry.isDir) (h : Prepared d r version) :
    PathMap.Apart r.staging r.backup := h.child_backup hd _

theorem target_backup (hd : d.Closed Entry.isDir) (h : Prepared d r version) :
    PathMap.Apart r.target r.backup := by
  rw [target_eq h.paths]
  exact h.child_backup hd _

end Prepared

/-! ## the file system between two operations -/

theorem get_mkdir {path x : Path} (h : x ≠ path ∨ exists? d path = true) :
    (mkdir d path).get x = d.get x := by
  unfold mkdir
  split
  · rfl
  · rename_i hnot
    rcases h with hne | hexists
    · exact PathMap.get_insert hne
    · exact absurd hexists hnot

theorem rename_ok {p q : Path} (h : rename d p q = .ok s) : s = d.move p q := by
  unfold rename at h
  split at h
  · cases h
    rfl
  · cases h

theorem attempt_ok {op : Op} {result : Except Failure Tree}
    (h : attempt faults op result = .ok s) : result = .ok s := by
  unfold attempt at h
  split at h
  · cases h
  · exact h

/-- `x` is no new backup root -/
def Old (d : Tree) (r : Request) (x : Path) : Prop :=
  x ≠ r.backupRoot ∨ exists? d r.backupRoot = true

/-- only the staging directory is new -/
structure Staged (d : Tree) (r : Request) (content : Path → Option Entry) (s : Tree) : Prop where
  staging : ∀ q, s.get (r.staging ++ q) = content q
  frame : ∀ x, ¬ r.staging <+: x → s.get x = d.get x

/-- the staging directory is new, and perhaps the backup root -/
structure Kept (d : Tree) (r : Request) (content : Path → Option Entry) (s : Tree) : Prop where
  staging : ∀ q, s.get (r.staging ++ q) = content q
  frame : ∀ x, ¬ r.staging <+: x → Old d r x → s.get x = d.get x

/-- the previous tree is at the backup path, and the target is free -/
structure Away (d : Tree) (r : Request) (content : Path → Option Entry) (s : Tree) : Prop where
  staging : ∀ q, s.get (r.staging ++ q) = content q
  target : ∀ q, s.get (r.target ++ q) = none
  backup : ∀ q, s.get (r.backup ++ q) = d.get (r.target ++ q)
  root : deviceOf s r.backupRoot = deviceOf d r.targetParent
  frame : ∀ x, ¬ r.staging <+: x → ¬ r.target <+: x → ¬ r.backup <+: x → Old d r x →
    s.get x = d.get x

/-- the staged tree is at the target -/
structure Placed (d : Tree) (r : Request) (content : Path → Option Entry) (s : Tree) : Prop where
  staging : ∀ q, s.get (r.staging ++ q) = none
  target : ∀ q, s.get (r.target ++ q) = content q
  backup : exists? d r.target = true → ∀ q, s.get (r.backup ++ q) = d.get (r.target ++ q)
  root : exists? d r.target = true → deviceOf s r.backupRoot = deviceOf d r.targetParent
  frame : ∀ x, ¬ r.staging <+: x → ¬ r.target <+: x → ¬ r.backup <+: x → Old d r x →
    s.get x = d.get x
  fresh : exists? d r.target = false → ∀ x, ¬ r.staging <+: x → ¬ r.target <+: x →
    s.get x = d.get x

variable {content : Path → Option Entry} {copy : Tree}

theorem staged_graft (copy : Tree) : Staged d r copy.get (d.graft r.staging copy) :=
  ⟨fun q => PathMap.get_graft_append, fun x hx => PathMap.get_graft hx⟩

theorem Staged.kept (h : Staged d r content s) : Kept d r content s :=
  ⟨h.staging, fun x hx _ => h.frame x hx⟩

theorem isDir_iff {path : Path} :
    isDir d path = true ↔ ∃ device, d.get path = some (.dir device) := by
  unfold isDir
  cases hget : d.get path with
  | none => simp
  | some entry => cases entry <;> simp [Entry.isDir]

theorem deviceOf_congr {path path' : Path} (h : s.get path = d.get path') :
    deviceOf s path = deviceOf d path' := by
  unfold deviceOf
  rw [h]

theorem deviceOf_dir {path : Path} {device : Nat} (h : d.get path = some (.dir device)) :
    deviceOf d path = some device := by
  unfold deviceOf
  rw [h]

theorem old_target (h : CheckedPaths d r) (q : Path) : Old d r (r.target ++ q) := by
  refine .inl fun heq => target_not_above h (List.prefix_refl _) ?_
  exact heq ▸ List.prefix_append r.target q

theorem old_source (h : CheckedPaths d r) (q : Path) : Old d r (r.source ++ q) := by
  refine .inl fun heq => h.sourceAbove ?_
  exact heq ▸ List.prefix_append r.source q

theorem not_below_self (p : Path) (name : String) : ¬ p ++ [name] <+: p := by
  intro hle
  have hlength := hle.length_le
  rw [List.length_append] at hlength
  exact Nat.not_succ_le_self _ hlength

theorem Staged.mkdir (h : Staged d r content s) (hp : CheckedPaths d r) :
    Kept d r content (mkdir s r.backupRoot) := by
  have hroot : ¬ r.staging <+: r.backupRoot := staging_not_above hp (List.prefix_refl _)
  constructor
  · intro q
    have hne : r.staging ++ q ≠ r.backupRoot := by
      intro heq
      exact hroot (heq ▸ List.prefix_append r.staging q)
    rw [get_mkdir (.inl hne)]
    exact h.staging q
  · intro x hx hold
    rw [← h.frame x hx]
    refine get_mkdir ?_
    rcases hold with hne | hexists
    · exact .inl hne
    · right
      rw [exists?_iff, h.frame _ hroot]
      exact exists?_iff.mp hexists

theorem parent_ne {path : Path} (h : path ≠ []) : parent path ≠ path := by
  intro heq
  have hlength := congrArg List.length heq
  have hpos := List.length_pos_of_ne_nil h
  unfold parent at hlength
  rw [List.length_dropLast] at hlength
  omega

theorem Staged.root (h : Staged d r content s) (hp : CheckedPaths d r) :
    deviceOf (Installer.mkdir s r.backupRoot) r.backupRoot = deviceOf d r.targetParent := by
  have hroot : s.get r.backupRoot = d.get r.backupRoot :=
    h.frame _ (staging_not_above hp (List.prefix_refl _))
  have hparent : s.get (parent r.backupRoot) = d.get (parent r.backupRoot) :=
    h.frame _ (staging_not_above hp (List.dropLast_prefix _))
  have hsame : exists? s r.backupRoot = exists? d r.backupRoot := by
    unfold exists?
    rw [hroot]
  have hdevice := hp.device
  obtain ⟨device, hdir⟩ := isDir_iff.mp hp.parentDir
  by_cases hexists : exists? d r.backupRoot = true
  · rw [if_pos hexists] at hdevice
    rw [hdevice]
    exact deviceOf_congr ((get_mkdir (.inr (hsame.trans hexists))).trans hroot)
  · rw [if_neg hexists] at hdevice
    have hinsert : (Installer.mkdir s r.backupRoot).get r.backupRoot =
        some (.dir ((deviceOf s (parent r.backupRoot)).getD 0)) := by
      unfold Installer.mkdir
      rw [if_neg (hsame ▸ hexists)]
      exact PathMap.get_insert_self
    rw [deviceOf_dir hinsert, deviceOf_congr hparent, ← hdevice, deviceOf_dir hdir]
    rfl

theorem Kept.target (h : Kept d r content s) (hp : CheckedPaths d r) (q : Path) :
    s.get (r.target ++ q) = d.get (r.target ++ q) :=
  h.frame _ ((target_staging hp).symm.append q) (old_target hp q)

theorem Kept.moveAway (h : Kept d r content s) (hd : d.Closed Entry.isDir)
    (hp : Prepared d r version) (hroot : deviceOf s r.backupRoot = deviceOf d r.targetParent) :
    Away d r content (s.move r.target r.backup) := by
  refine ⟨fun q => ?_, fun q => ?_, fun q => ?_, ?_,
    fun x hstaging htarget hbackup hold => ?_⟩
  · rw [PathMap.get_move_apart (target_staging hp.paths) (hp.staging_backup hd).symm]
    exact h.staging q
  · exact PathMap.get_move_self (hp.target_backup hd).symm
  · rw [PathMap.get_move_append]
    exact h.target hp.paths q
  · rw [← hroot]
    exact deviceOf_congr (PathMap.get_move (target_not_above hp.paths (List.prefix_refl _))
      (not_below_self _ _))
  · rw [PathMap.get_move htarget hbackup]
    exact h.frame x hstaging hold

theorem Away.moveIn (h : Away d r content s) (hd : d.Closed Entry.isDir)
    (hp : Prepared d r version) (htarget : exists? d r.target = true) :
    Placed d r content (s.move r.staging r.target) := by
  refine ⟨fun q => ?_, fun q => ?_, fun _ q => ?_, fun _ => ?_,
    fun x hstaging htarget hbackup hold => ?_, fun hfresh => ?_⟩
  · exact PathMap.get_move_self (target_staging hp.paths)
  · rw [PathMap.get_move_append]
    exact h.staging q
  · rw [PathMap.get_move_apart (hp.staging_backup hd) (hp.target_backup hd)]
    exact h.backup q
  · rw [← h.root]
    exact deviceOf_congr (PathMap.get_move (staging_not_above hp.paths (List.prefix_refl _))
      (target_not_above hp.paths (List.prefix_refl _)))
  · rw [PathMap.get_move hstaging htarget]
    exact h.frame x hstaging htarget hbackup hold
  · rw [htarget] at hfresh
    cases hfresh

theorem Away.rollBack (h : Away d r content s) (hd : d.Closed Entry.isDir)
    (hp : Prepared d r version) : Kept d r content (s.move r.backup r.target) := by
  refine ⟨fun q => ?_, fun x hstaging hold => ?_⟩
  · rw [PathMap.get_move_apart (hp.staging_backup hd).symm (target_staging hp.paths)]
    exact h.staging q
  · by_cases htarget : r.target <+: x
    · obtain ⟨q, rfl⟩ := htarget
      rw [PathMap.get_move_append]
      exact h.backup q
    · by_cases hbackup : r.backup <+: x
      · -- nothing was at the backup path before
        obtain ⟨q, rfl⟩ := hbackup
        rw [PathMap.get_move_self (hp.target_backup hd), hd.none hp.backupFree]
      · rw [PathMap.get_move hbackup htarget]
        exact h.frame x hstaging htarget hbackup hold

theorem Staged.moveIn (h : Staged d r content s) (hp : CheckedPaths d r)
    (htarget : exists? d r.target = false) :
    Placed d r content (s.move r.staging r.target) := by
  have hframe (x : Path) (hstaging : ¬ r.staging <+: x) (htarget' : ¬ r.target <+: x) :
      (s.move r.staging r.target).get x = d.get x := by
    rw [PathMap.get_move hstaging htarget']
    exact h.frame x hstaging
  refine ⟨fun q => ?_, fun q => ?_, fun hexists => ?_, fun hexists => ?_,
    fun x hstaging htarget' _ _ => hframe x hstaging htarget', fun _ => hframe⟩
  · exact PathMap.get_move_self (target_staging hp)
  · rw [PathMap.get_move_append]
    exact h.staging q
  · rw [htarget] at hexists
    cases hexists
  · rw [htarget] at hexists
    cases hexists

/-! ## renames that cannot fail by themselves -/

theorem rename_of {p q : Path} {device : Nat} (hp : d.get p ≠ none) (hq : d.get q = none)
    (hapart : ¬ p <+: q) (hparent : deviceOf d (parent q) = some device)
    (hdevice : deviceOf d p = some device) : rename d p q = .ok (d.move p q) := by
  refine if_pos ⟨exists?_iff.mpr hp, ?_, ?_, ?_, hdevice.trans hparent.symm⟩
  · rw [exists?_iff]
    exact fun hne => hne hq
  · unfold isWithin
    rw [decide_eq_true_iff]
    exact hapart
  · rw [hparent]
    exact Option.some_ne_none _

theorem attempt_error {op : Op} {result : Except Failure Tree} {e : Failure}
    (hresult : result = .ok s) (h : attempt faults op result = .error e) :
    faults.fails op = true := by
  unfold attempt at h
  split at h
  · assumption
  · rw [hresult] at h
    cases h

theorem Away.parent (h : Away d r content s) (hd : d.Closed Entry.isDir)
    (hp : Prepared d r version) : s.get r.targetParent = d.get r.targetParent := by
  refine h.frame _ (not_below_self _ _) ?_ (hp.backup_not_above hd (List.prefix_refl _)) (.inl ?_)
  · rw [target_eq hp.paths]
    exact not_below_self _ _
  · intro heq
    exact hp.paths.outside (heq ▸ List.prefix_refl _)

theorem Away.target_free (h : Away d r content s) : s.get r.target = none := by
  have hget := h.target []
  rw [List.append_nil] at hget
  exact hget

theorem Away.renameIn (h : Away d r content s) (hd : d.Closed Entry.isDir)
    (hp : Prepared d r version)
    (hroot : content [] = some (.dir ((deviceOf d r.targetParent).getD 0))) :
    rename s r.staging r.target = .ok (s.move r.staging r.target) := by
  obtain ⟨device, hdevice⟩ := isDir_iff.mp hp.paths.parentDir
  have hstaging : s.get r.staging = some (.dir device) := by
    have hget := h.staging []
    rw [List.append_nil, hroot, deviceOf_dir hdevice] at hget
    exact hget
  refine rename_of ?_ h.target_free (target_staging hp.paths).below ?_ (deviceOf_dir hstaging)
  · rw [hstaging]
    exact Option.some_ne_none _
  · show deviceOf s r.targetParent = some device
    exact deviceOf_dir ((h.parent hd hp).trans hdevice)

theorem Away.renameBack (h : Away d r content s) (hd : d.Closed Entry.isDir)
    (hp : Prepared d r version) (hdevice : deviceOf d r.target = deviceOf d r.targetParent)
    (htarget : exists? d r.target = true) :
    rename s r.backup r.target = .ok (s.move r.backup r.target) := by
  obtain ⟨device, hdir⟩ := isDir_iff.mp hp.paths.parentDir
  have hbackup : s.get r.backup = d.get r.target := by
    have hget := h.backup []
    rw [List.append_nil, List.append_nil] at hget
    exact hget
  have hfrom : deviceOf s r.backup = some device := by
    rw [deviceOf_congr hbackup, hdevice]
    exact deviceOf_dir hdir
  refine rename_of ?_ h.target_free (hp.target_backup hd).below ?_ hfrom
  · rw [hbackup]
    exact exists?_iff.mp htarget
  · show deviceOf s r.targetParent = some device
    exact deviceOf_dir ((h.parent hd hp).trans hdir)

end

end Installer

end PgRbac
