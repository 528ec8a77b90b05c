import PgRbac.SkillUpdate

/-!
# How an update ends

* `Ended`           the outcomes of a call of `update_skill` that got past its checks;
* `install_ended`   every set of faults leads to one of them;
* `Settled`         the target holds what the source holds: a call has nothing to do;
* `update_safe`     what a call leaves, whatever fails in it;
* `update_installs` an undisturbed call on a source whose filters agree installs it.
-/

set_option linter.unusedVariables false
set_option linter.unusedSectionVars false

namespace PgRbac

namespace Installer

/-! ## how a call ends -/

section
variable {Digest : Type} [DecidableEq Digest] {sha256 : List UInt8 → Digest}
variable {d s : Tree} {r : Request} {faults : Faults} {version : String}
  {content : Path → Option Entry} {result : Except Failure (Option Path)}

/-- the staged copy, as it was verified -/
structure NewTree (sha256 : List UInt8 → Digest) (d : Tree) (r : Request) (version : String)
    (copy : Tree) : Prop where
  copied : copytree ((deviceOf d r.targetParent).getD 0) (d.sub r.source) = some copy
  valid : Valid copy version
  same : ∀ path, (manifest sha256 copy).get path = (manifest sha256 (d.sub r.source)).get path

/-- a staging directory that the cleanup can remove -/
def Removable (content : Path → Option Entry) : Prop :=
  (∀ q, content q = none) ∨ ∃ device, content [] = some (.dir device)

/-- the outcomes of a call behind its checks -/
inductive Ended (sha256 : List UInt8 → Digest) (d : Tree) (r : Request) (faults : Faults)
    (version : String) (s : Tree) : Except Failure (Option Path) → Prop
  | kept {content : Path → Option Entry} {e : Failure} (h : Kept d r content s)
      (hroot : Removable content) :
      Ended sha256 d r faults version s (.error e)
  | placed {copy : Tree} (hnew : NewTree sha256 d r version copy) (h : Placed d r copy.get s) :
      Ended sha256 d r faults version s
        (.ok (if exists? d r.target then some r.backup else none))
  /-- the staged tree could not be moved in, nor the previous one back -/
  | lost {content : Path → Option Entry} (h : Away d r content s) (hroot : Removable content)
      (hin : faults.fails .moveIn = true) (hback : faults.fails .rollBack = true) :
      Ended sha256 d r faults version s (.error (.update (.unrestored r.backup)))

theorem Valid.congr {t t' : Tree} (hget : ∀ path, t.get path = t'.get path)
    (h : Valid t version) : Valid t' version := by
  have hfun : t.get = t'.get := funext hget
  obtain ⟨hdirectory, hfile, haccepted, hversion⟩ := h
  refine ⟨?_, ?_, fun path => ?_, ?_⟩
  · unfold isDir at hdirectory ⊢
    rw [← hfun]
    exact hdirectory
  · unfold isFile at hfile ⊢
    rw [← hfun]
    exact hfile
  · have hpath := haccepted path
    unfold refused isLink isFile at hpath ⊢
    rw [← hfun]
    exact hpath
  · unfold readText at hversion ⊢
    rw [← hfun]
    exact hversion

theorem manifest_congr {t t' : Tree} (hget : ∀ path, t.get path = t'.get path) (path : Path) :
    (manifest sha256 t).get path = (manifest sha256 t').get path := by
  have hfun : t.get = t'.get := funext hget
  unfold manifest
  rw [PathMap.get_filterMap, PathMap.get_filterMap]
  unfold isIgnored isDir
  rw [hfun]

theorem newTree_of_verify {copy : Tree}
    (hcopy : copytree ((deviceOf d r.targetParent).getD 0) (d.sub r.source) = some copy)
    (hp : Prepared d r version) (hd : d.Closed Entry.isDir)
    (h : verify sha256 (d.graft r.staging copy) r faults version = .ok ()) :
    NewTree sha256 d r version copy := by
  unfold verify at h
  obtain ⟨_, _, h⟩ := bind_ok h
  obtain ⟨stagedVersion, hvalid, h⟩ := bind_ok h
  obtain ⟨_, _, h⟩ := bind_ok h
  obtain ⟨hversion, hsame⟩ := Bool.and_eq_true _ _ |>.mp (demand_ok.mp h)
  have hstaged (path : Path) :
      ((d.graft r.staging copy).sub r.staging).get path = copy.get path :=
    PathMap.get_graft_append
  have hsource (path : Path) :
      ((d.graft r.staging copy).sub r.source).get path = (d.sub r.source).get path :=
    PathMap.get_graft_apart (hp.source_staging hd).symm
  refine ⟨hcopy, ?_, fun path => ?_⟩
  · rw [beq_iff_eq] at hversion
    exact (hversion ▸ validateSkillTree_ok hvalid).congr hstaged
  · rw [← manifest_congr hstaged, PathMap.same_iff.mp hsame path]
    exact manifest_congr hsource path

theorem copy_root {t copy : Tree} {device : Nat} (h : copytree device t = some copy)
    (hdir : isDir t [] = true) : copy.get [] = some (.dir device) := by
  obtain ⟨device', hget⟩ := isDir_iff.mp hdir
  rw [get_copy h, hget]
  rfl

theorem NewTree.removable {copy : Tree} (h : NewTree sha256 d r version copy)
    (hp : Prepared d r version) : Removable copy.get :=
  .inr ⟨_, copy_root h.copied (validateSkillTree_ok hp.valid).directory⟩

theorem source_dir (h : validateSkillTree (d.sub r.source) r.source true = .ok version) :
    isDir (d.sub r.source) [] = true := (validateSkillTree_ok h).directory

theorem target_device (hk : Kept d r content s) (hp : CheckedPaths d r)
    (hroot : deviceOf s r.backupRoot = deviceOf d r.targetParent)
    (h : rename s r.target r.backup = .ok (s.move r.target r.backup)) :
    deviceOf d r.target = deviceOf d r.targetParent := by
  unfold rename at h
  split at h
  · rename_i hconditions
    have hparent : parent r.backup = r.backupRoot := List.dropLast_concat
    have hdevice := hconditions.2.2.2.2
    rw [hparent, hroot] at hdevice
    rw [← hdevice]
    have hget := hk.target hp []
    rw [List.append_nil] at hget
    exact (deviceOf_congr hget).symm
  · cases h

theorem replace_ended {copy : Tree} (hd : d.Closed Entry.isDir) (hp : Prepared d r version)
    (hnew : NewTree sha256 d r version copy) (h : Away d r copy.get s)
    (htarget : exists? d r.target = true)
    (hdevice : deviceOf d r.target = deviceOf d r.targetParent) :
    Ended sha256 d r faults version (replace s r faults).1 (replace s r faults).2 := by
  have hin := h.renameIn hd hp (copy_root hnew.copied (source_dir hp.valid))
  have hback := h.renameBack hd hp hdevice htarget
  unfold replace
  cases hmove : attempt faults .moveIn (rename s r.staging r.target) with
  | ok s' =>
    cases rename_ok (attempt_ok hmove)
    have hplaced : Ended sha256 d r faults version _
        (.ok (if exists? d r.target then some r.backup else none)) :=
      .placed hnew (h.moveIn hd hp htarget)
    rw [if_pos htarget] at hplaced
    exact hplaced
  | error e =>
    cases hroll : attempt faults .rollBack (rename s r.backup r.target) with
    | ok s' =>
      cases rename_ok (attempt_ok hroll)
      exact .kept (h.rollBack hd hp) (hnew.removable hp)
    | error e' => exact .lost h (hnew.removable hp) (attempt_error hin hmove) (attempt_error hback hroll)

theorem switch_ended {copy : Tree} (hd : d.Closed Entry.isDir) (hp : Prepared d r version)
    (hnew : NewTree sha256 d r version copy) (h : Staged d r copy.get s) :
    Ended sha256 d r faults version (switch s r faults).1 (switch s r faults).2 := by
  have hsame : exists? s r.target = exists? d r.target := by
    have hget := h.frame _ (target_staging hp.paths).below
    unfold exists?
    rw [hget]
  unfold switch
  by_cases htarget : exists? d r.target = true
  · rw [hsame, if_pos htarget]
    split
    · exact .kept h.kept (hnew.removable hp)
    · have hkept := h.mkdir hp.paths
      have hroot := h.root hp.paths
      dsimp only
      split
      · exact .kept hkept (hnew.removable hp)
      · cases haway : attempt faults .moveAway
          (rename (mkdir s r.backupRoot) r.target r.backup) with
        | error e => exact .kept hkept (hnew.removable hp)
        | ok s' =>
          have hrename := attempt_ok haway
          cases rename_ok hrename
          exact replace_ended hd hp hnew (hkept.moveAway hd hp hroot) htarget
            (target_device hkept hp.paths hroot hrename)
  · rw [hsame, if_neg htarget]
    have habsent : exists? d r.target = false := by simpa using htarget
    cases hmove : attempt faults .moveIn (rename s r.staging r.target) with
    | error e => exact .kept h.kept (hnew.removable hp)
    | ok s' =>
      cases rename_ok (attempt_ok hmove)
      have hplaced : Ended sha256 d r faults version _
          (.ok (if exists? d r.target then some r.backup else none)) :=
        .placed hnew (h.moveIn hp.paths habsent)
      rw [if_neg htarget] at hplaced
      exact hplaced

theorem leave_kept (faults : Faults) (hd : d.Closed Entry.isDir) (hp : Prepared d r version) :
    ∃ content, Kept d r content (leave d r faults) ∧ Removable content := by
  unfold leave
  cases faults.leftover with
  | none =>
    exact ⟨fun _ => none, ⟨fun q => hd.none hp.stagingFree q, fun _ _ _ => rfl⟩, .inl fun _ => rfl⟩
  | some left => exact ⟨_, (staged_graft _).kept, .inr ⟨_, PathMap.get_insert_self⟩⟩

theorem install_ended (hd : d.Closed Entry.isDir) (hp : Prepared d r version) :
    Ended sha256 d r faults version (install sha256 d r faults version).1
      (install sha256 d r faults version).2 := by
  obtain ⟨content, hleave, hroot⟩ := leave_kept faults hd hp
  unfold install
  split
  · exact .kept hleave hroot
  · cases hcopy : copytree ((deviceOf d r.targetParent).getD 0) (d.sub r.source) with
    | none => exact .kept hleave hroot
    | some copy =>
      dsimp only
      have hstaged : Staged d r copy.get (d.graft r.staging copy) := staged_graft copy
      cases hverify : verify sha256 (d.graft r.staging copy) r faults version with
      | error e =>
        exact .kept hstaged.kept
          (.inr ⟨_, copy_root hcopy (validateSkillTree_ok hp.valid).directory⟩)
      | ok u => exact switch_ended hd hp (newTree_of_verify hcopy hp hd hverify) hstaged

/-! ## the cleanup -/

theorem removeOwnedStaging_ok (hlink : isLink s r.staging = false) :
    removeOwnedStaging s r.staging r.targetParent =
      .ok (if exists? s r.staging then s.prune r.staging else s) := by
  have hparent : parent r.staging = r.targetParent := List.dropLast_concat
  have hname : nameOf r.staging = Request.stagingPrefix ++ r.unique := by
    show (r.targetParent ++ [_]).getLast?.getD "" = _
    rw [List.getLast?_concat]
    rfl
  have hstart : Request.stagingPrefix.toList.isPrefixOf (nameOf r.staging).toList = true := by
    rw [hname, String.toList_append, List.isPrefixOf_iff_prefix]
    exact List.prefix_append _ _
  unfold removeOwnedStaging
  rw [hparent, hstart, hlink, beq_self_eq_true]
  rfl

theorem cleanUp_spec (result : Except Failure (Option Path))
    (hcontent : ∀ q, s.get (r.staging ++ q) = content q)
    (hroot : Removable content) :
    (cleanUp r (s, result)).2 = result ∧
      ∀ x, (cleanUp r (s, result)).1.get x = if r.staging <+: x then none else s.get x := by
  have hget : s.get r.staging = content [] := by
    rw [← hcontent [], List.append_nil]
  unfold cleanUp
  rcases hroot with hnone | ⟨device, hdir⟩
  · have hexists : exists? s r.staging = false := by
      unfold exists?
      rw [hget, hnone]
      rfl
    rw [hexists]
    refine ⟨rfl, fun x => ?_⟩
    by_cases hx : r.staging <+: x
    · rw [if_pos hx]
      obtain ⟨q, rfl⟩ := hx
      exact (hcontent q).trans (hnone q)
    · rw [if_neg hx]
      rfl
  · have hlink : isLink s r.staging = false := by
      unfold isLink
      rw [hget, hdir]
      rfl
    have hexists : exists? s r.staging = true := by
      unfold exists?
      rw [hget, hdir]
      rfl
    rw [removeOwnedStaging_ok hlink, hexists]
    exact ⟨rfl, fun x => rfl⟩

end

/-! ## a target that is up to date -/

section
variable {Digest : Type} [DecidableEq Digest] {sha256 : List UInt8 → Digest}
variable {d s : Tree} {r : Request} {faults : Faults} {version : String}

theorem walkSource_of {t : Tree} (h : ∀ path, refused t path = false) (root : Path) :
    walkSource t root = .ok () := by
  have hfind : t.keys.find? (refused t) = none := by
    refine List.find?_eq_none.mpr fun path _ => ?_
    rw [h path]
    exact Bool.false_ne_true
  unfold walkSource
  rw [hfind]

theorem validateSkillTree_congr {t t' : Tree} (hget : ∀ path, t.get path = t'.get path)
    {root : Path} {requireCanonicalName : Bool}
    (h : validateSkillTree t root requireCanonicalName = .ok version) :
    validateSkillTree t' root requireCanonicalName = .ok version := by
  have hfun : t.get = t'.get := funext hget
  have haccepted := ((validateSkillTree_ok h).congr hget).accepted
  have hdir (path : Path) : isDir t' path = isDir t path := by
    unfold isDir
    rw [hfun]
  have hfile (path : Path) : isFile t' path = isFile t path := by
    unfold isFile
    rw [hfun]
  have hread (path : Path) : readText t' path = readText t path := by
    unfold readText
    rw [hfun]
  have hwalk : walkSource t' root = walkSource t root := by
    rw [walkSource_of haccepted, walkSource_of (validateSkillTree_ok h).accepted]
  unfold validateSkillTree at h ⊢
  rw [hdir, hfile, hfile, hwalk, hread, hread]
  exact h

theorem installedTreeMatches_iff {t : Tree} {root : Path} {m : PathMap String Digest} :
    installedTreeMatches sha256 t root version m = .ok true ↔
      (∀ path, path ≠ [] → isLink t path = false) ∧ isFile t ["VERSION"] = true ∧
      (readText t ["VERSION"]).map strip = .ok version ∧
      ∀ path, (manifest sha256 t).get path = m.get path := by
  have hwalk : walkInstalled t root = .ok () ↔ ∀ path, path ≠ [] → isLink t path = false := by
    unfold walkInstalled
    constructor
    · intro h path hne
      cases hfind : t.keys.find? fun path => path != [] && isLink t path with
      | some path' =>
        rw [hfind] at h
        cases h
      | none =>
        by_cases hnone : t.get path = none
        · unfold isLink
          rw [hnone]
          rfl
        · have hnot := List.find?_eq_none.mp hfind path (t.covers path hnone)
          rw [bne_iff_ne.mpr hne, Bool.true_and, Bool.not_eq_true] at hnot
          exact hnot
    · intro h
      have hfind : (t.keys.find? fun path => path != [] && isLink t path) = none := by
        refine List.find?_eq_none.mpr fun path _ => ?_
        by_cases hne : path = []
        · simp [hne]
        · rw [h path hne, Bool.and_false]
          exact Bool.false_ne_true
      rw [hfind]
  unfold installedTreeMatches
  cases hlinks : walkInstalled t root with
  | error e =>
    rw [← hwalk, hlinks]
    constructor
    · intro h
      cases h
    · intro h
      cases h.1
  | ok u =>
    rw [← hwalk, hlinks]
    by_cases hfile : isFile t ["VERSION"] = true
    · rw [if_pos hfile]
      cases hread : readText t ["VERSION"] with
      | error e =>
        constructor
        · intro h
          cases h
        · intro h
          cases h.2.2.1
      | ok text =>
        show (Except.ok (strip text == version && (manifest sha256 t).same m) : Except Failure Bool)
          = .ok true ↔ _
        rw [Except.ok.injEq, Bool.and_eq_true, beq_iff_eq, PathMap.same_iff]
        constructor
        · intro h
          exact ⟨rfl, hfile, congrArg Except.ok h.1, h.2⟩
        · intro h
          exact ⟨Except.ok.inj h.2.2.1, h.2.2.2⟩
    · rw [if_neg hfile]
      constructor
      · intro h
        cases h
      · intro h
        exact absurd h.2.1 hfile

/-- the checks pass, and the target holds what the source holds -/
structure Settled (sha256 : List UInt8 → Digest) (d : Tree) (r : Request) (version : String) :
    Prop where
  inspected : Inspected d r version
  target : exists? d r.target = true
  current : installedTreeMatches sha256 (d.sub r.target) r.target version
    (manifest sha256 (d.sub r.source)) = .ok true

theorem guard_or (faults : Faults) (op : Op) :
    faults.guard op = .ok () ∨ ∃ e, faults.guard op = .error e := by
  unfold Faults.guard
  split
  · exact .inr ⟨_, rfl⟩
  · exact .inl rfl

theorem Settled.prepare (h : Settled sha256 d r version) (faults : Faults) :
    prepare sha256 d r faults = .ok none ∨ ∃ e, prepare sha256 d r faults = .error e := by
  unfold Installer.prepare
  cases hinspect : inspect d r faults with
  | error e => exact .inr ⟨e, rfl⟩
  | ok version' =>
    have hversion : version' = version := by
      have hvalid := (inspect_ok hinspect).valid
      rw [h.inspected.valid] at hvalid
      exact (Except.ok.inj hvalid).symm
    rcases guard_or faults .readSource with hread | ⟨e, hread⟩
    · rcases guard_or faults .matchTarget with hmatch | ⟨e, hmatch⟩
      · have hdone : upToDate sha256 d r faults version' = .ok true := by
          unfold upToDate
          rw [if_pos h.target, hmatch, hversion]
          exact h.current
        left
        rw [hread]
        show (upToDate sha256 d r faults version' >>= _) = _
        rw [hdone]
        rfl
      · right
        have hdone : upToDate sha256 d r faults version' = .error e := by
          unfold upToDate
          rw [if_pos h.target, hmatch]
          rfl
        refine ⟨e, ?_⟩
        rw [hread]
        show (upToDate sha256 d r faults version' >>= _) = _
        rw [hdone]
        rfl
    · right
      refine ⟨e, ?_⟩
      rw [hread]
      rfl

theorem Settled.prepare_noFaults (h : Settled sha256 d r version) :
    Installer.prepare sha256 d r noFaults = .ok none := by
  have hdone : upToDate sha256 d r noFaults version = .ok true := by
    unfold upToDate
    rw [if_pos h.target]
    exact h.current
  unfold Installer.prepare
  rw [h.inspected.inspect]
  show (upToDate sha256 d r noFaults version >>= _) = _
  rw [hdone]
  rfl

/-- **a second call changes nothing**, and without faults it has nothing to do -/
theorem Settled.again (h : Settled sha256 d r version) (timestamp unique : String)
    (faults : Faults) :
    (updateSkill sha256 d { r with timestamp := timestamp, unique := unique } faults).1 = d ∧
      updateSkill sha256 d { r with timestamp := timestamp, unique := unique } noFaults =
        (d, .ok none) := by
  have hagain : Settled sha256 d { r with timestamp := timestamp, unique := unique } version :=
    ⟨⟨h.inspected.sourceLinks, h.inspected.targetLinks, h.inspected.backupLinks, h.inspected.valid,
      ⟨h.inspected.paths.name, h.inspected.paths.parentDir, h.inspected.paths.above,
        h.inspected.paths.below, h.inspected.paths.targetDir, h.inspected.paths.outside,
        h.inspected.paths.sourceAbove, h.inspected.paths.sourceBelow,
        h.inspected.paths.backupDir, h.inspected.paths.backupParent,
        h.inspected.paths.device⟩⟩, h.target, h.current⟩
  constructor
  · unfold updateSkill
    rcases hagain.prepare faults with hnone | ⟨e, herror⟩
    · rw [hnone]
    · rw [herror]
  · unfold updateSkill
    rw [hagain.prepare_noFaults]

end

/-! ## every call -/

section
variable {Digest : Type} [DecidableEq Digest] {sha256 : List UInt8 → Digest}
variable {d s : Tree} {r : Request} {faults : Faults} {version : String} {copy : Tree}

theorem prefix_parent (h : CheckedPaths d r) {x : Path} (hx : x <+: r.targetParent) :
    ¬ r.staging <+: x ∧ ¬ r.target <+: x := by
  constructor
  · intro hp
    exact not_below_self _ _ (hp.trans hx)
  · intro hp
    rw [target_eq h] at hp
    exact not_below_self _ _ (hp.trans hx)

namespace Placed
variable {content : Path → Option Entry}

theorem above (h : Placed d r content s) (hd : d.Closed Entry.isDir) (hp : Prepared d r version)
    {x : Path} (hx : x <+: r.targetParent) : s.get x = d.get x := by
  obtain ⟨hstaging, htarget⟩ := prefix_parent hp.paths hx
  refine h.frame x hstaging htarget (hp.backup_not_above hd hx) ?_
  by_cases heq : x = r.backupRoot
  · right
    rw [exists?_iff, ← heq]
    obtain ⟨rest, hrest⟩ := hx
    refine hd.some (q := rest) ?_
    rw [hrest]
    exact hp.parent_get
  · exact .inl heq

theorem aboveRoot (h : Placed d r content s) (hp : CheckedPaths d r) {x : Path}
    (hx : x <+: r.backupRoot) (hne : x ≠ r.backupRoot) : s.get x = d.get x := by
  refine h.frame x (staging_not_above hp hx) (target_not_above hp hx) ?_ (.inl hne)
  intro hbackup
  exact not_below_self _ _ (hbackup.trans hx)

theorem source (h : Placed d r content s) (hd : d.Closed Entry.isDir) (hp : Prepared d r version)
    (q : Path) : s.get (r.source ++ q) = d.get (r.source ++ q) :=
  h.frame _ ((hp.source_staging hd).symm.append q)
    ((PathMap.Apart.mk hp.paths.above hp.paths.below).append q)
    ((hp.source_backup hd).symm.append q) (old_source hp.paths q)

theorem rootDevice (h : Placed d r content s) (hd : d.Closed Entry.isDir)
    (hp : Prepared d r version) :
    (isDir s r.backupRoot = true ∧ deviceOf s r.backupRoot = deviceOf d r.targetParent) ∨
      s.get r.backupRoot = d.get r.backupRoot := by
  by_cases htarget : exists? d r.target = true
  · left
    obtain ⟨device, hdir⟩ := isDir_iff.mp hp.paths.parentDir
    have hroot := h.root htarget
    rw [deviceOf_dir hdir] at hroot
    refine ⟨?_, hroot.trans (deviceOf_dir hdir).symm⟩
    unfold deviceOf at hroot
    cases hget : s.get r.backupRoot with
    | none =>
      rw [hget] at hroot
      cases hroot
    | some entry =>
      rw [hget] at hroot
      cases entry with
      | dir device' => exact isDir_iff.mpr ⟨device', hget⟩
      | file bytes => cases hroot
      | link => cases hroot
      | special => cases hroot
      | node content => cases hroot
  · right
    exact h.fresh (by simpa using htarget) _ (staging_not_above hp.paths (List.prefix_refl _))
      (target_not_above hp.paths (List.prefix_refl _))

end Placed

theorem isLink_congr {x : Path} (h : s.get x = d.get x) : isLink s x = isLink d x := by
  unfold isLink
  rw [h]

theorem isDir_congr {x : Path} (h : s.get x = d.get x) : isDir s x = isDir d x := by
  unfold isDir
  rw [h]

theorem exists?_congr {x : Path} (h : s.get x = d.get x) : exists? s x = exists? d x := by
  unfold exists?
  rw [h]

theorem isLink_of_isDir {x : Path} (h : isDir s x = true) : isLink s x = false := by
  obtain ⟨device, hget⟩ := isDir_iff.mp h
  unfold isLink
  rw [hget]
  rfl

/-- the checks pass again behind an update -/
theorem Placed.checkedPaths {content : Path → Option Entry} (h : Placed d r content s)
    (hd : d.Closed Entry.isDir) (hp : Prepared d r version) (htarget : isDir s r.target = true) :
    CheckedPaths s r := by
  have hparent : s.get r.targetParent = d.get r.targetParent := h.above hd hp (List.prefix_refl _)
  have hnil : r.backupRoot ≠ [] := fun hnil => hp.paths.sourceBelow (hnil ▸ List.nil_prefix)
  have habove : s.get (parent r.backupRoot) = d.get (parent r.backupRoot) :=
    h.aboveRoot hp.paths (List.dropLast_prefix _) (parent_ne hnil)
  refine ⟨hp.paths.name, (isDir_congr hparent).trans hp.paths.parentDir, hp.paths.above,
    hp.paths.below, fun _ => htarget, hp.paths.outside, hp.paths.sourceAbove,
    hp.paths.sourceBelow, ?_, (isDir_congr habove).trans hp.paths.backupParent, ?_⟩
  · rcases h.rootDevice hd hp with ⟨hdir, -⟩ | hsame
    · exact fun _ => hdir
    · rw [exists?_congr hsame, isDir_congr hsame]
      exact hp.paths.backupDir
  · rw [deviceOf_congr hparent]
    rcases h.rootDevice hd hp with ⟨hdir, hdevice⟩ | hsame
    · rw [if_pos (exists?_iff.mpr (exists?_of_isDir hdir)), hdevice]
    · rw [exists?_congr hsame, hp.paths.device]
      split
      · exact (deviceOf_congr hsame).symm
      · exact (deviceOf_congr habove).symm

theorem Placed.inspected {content : Path → Option Entry} (h : Placed d r content s)
    (hd : d.Closed Entry.isDir) (hp : Prepared d r version) (htarget : isDir s r.target = true) :
    Inspected s r version := by
  refine ⟨fun x hx => ?_, fun x hx => ?_, fun x hx => ?_, ?_, h.checkedPaths hd hp htarget⟩
  · have hsame : s.get x = d.get x := by
      refine h.frame x (fun hle => (hp.source_staging hd).below (hle.trans hx))
        (fun hle => hp.paths.above (hle.trans hx))
        (fun hle => (hp.source_backup hd).below (hle.trans hx)) (.inl fun heq => ?_)
      exact hp.paths.sourceBelow (heq ▸ hx)
    rw [isLink_congr hsame]
    exact hp.sourceLinks x hx
  · rw [target_eq hp.paths] at hx
    rcases PathMap.prefix_concat hx with hle | heq
    · rw [isLink_congr (h.above hd hp hle)]
      exact hp.targetLinks x (hle.trans (parent_prefix_target r))
    · rw [heq, ← target_eq hp.paths]
      exact isLink_of_isDir htarget
  · by_cases hne : x = r.backupRoot
    · rw [hne]
      rcases h.rootDevice hd hp with ⟨hdir, -⟩ | hsame
      · exact isLink_of_isDir hdir
      · rw [isLink_congr hsame]
        exact hp.backupLinks _ (List.prefix_refl _)
    · rw [isLink_congr (h.aboveRoot hp.paths hx hne)]
      exact hp.backupLinks x hx
  · exact validateSkillTree_congr (fun q => (h.source hd hp q).symm) hp.valid

theorem Placed.settled (h : Placed d r copy.get s) (hd : d.Closed Entry.isDir)
    (hp : Prepared d r version) (hnew : NewTree sha256 d r version copy) :
    Settled sha256 s r version := by
  have hget (q : Path) : copy.get q = (s.sub r.target).get q := (h.target q).symm
  have hvalid : Valid (s.sub r.target) version := hnew.valid.congr hget
  have htarget : isDir s r.target = true := by
    have hdir := hvalid.directory
    unfold isDir at hdir ⊢
    rw [PathMap.get_sub, List.append_nil] at hdir
    exact hdir
  refine ⟨h.inspected hd hp htarget, exists?_iff.mpr (exists?_of_isDir htarget), ?_⟩
  refine installedTreeMatches_iff.mpr ⟨fun path _ => hvalid.link path, hvalid.file,
    hvalid.version, fun path => ?_⟩
  rw [← manifest_congr hget path, hnew.same path]
  exact manifest_congr (fun q => (h.source hd hp q).symm) path

theorem prepare_some (h : prepare sha256 d r faults = .ok (some version)) :
    Prepared d r version ∧ r.dryRun = false := by
  unfold prepare at h
  obtain ⟨version', hinspect, h⟩ := bind_ok h
  obtain ⟨_, _, h⟩ := bind_ok h
  obtain ⟨done, _, h⟩ := bind_ok h
  split at h
  · cases h
  · rename_i hgo
    rw [Bool.not_eq_true, Bool.or_eq_false_iff] at hgo
    obtain ⟨_, _, h⟩ := bind_ok h
    obtain ⟨_, hfree, h⟩ := bind_ok h
    cases h
    obtain ⟨hstaging, hbackup⟩ := Bool.and_eq_true _ _ |>.mp (demand_ok.mp hfree)
    have hnone {path : Path} (hnot : (!exists? d path) = true) : d.get path = none := by
      unfold exists? at hnot
      rw [Bool.not_eq_true', Option.isSome_eq_false_iff, Option.isNone_iff_eq_none] at hnot
      exact hnot
    exact ⟨⟨inspect_ok hinspect, hnone hstaging, hnone hbackup⟩, hgo.2⟩

theorem prepare_none (h : prepare sha256 d r faults = .ok none) (hrun : r.dryRun = false) :
    ∃ version, Settled sha256 d r version := by
  unfold prepare at h
  obtain ⟨version, hinspect, h⟩ := bind_ok h
  obtain ⟨_, _, h⟩ := bind_ok h
  obtain ⟨done, hdone, h⟩ := bind_ok h
  split at h
  · rename_i hstop
    rw [hrun, Bool.or_false] at hstop
    rw [hstop] at hdone
    unfold upToDate at hdone
    split at hdone
    · rename_i htarget
      obtain ⟨_, _, hcurrent⟩ := bind_ok hdone
      exact ⟨version, inspect_ok hinspect, htarget, hcurrent⟩
    · cases hdone
  · obtain ⟨_, _, h⟩ := bind_ok h
    obtain ⟨_, _, h⟩ := bind_ok h
    cases h

theorem Settled.same (h : Settled sha256 d r version) (path : Path) :
    (manifest sha256 (d.sub r.target)).get path = (manifest sha256 (d.sub r.source)).get path :=
  (installedTreeMatches_iff.mp h.current).2.2.2 path

/-- what a call leaves of the file system `d`: `s`, with its result -/
structure Safely (sha256 : List UInt8 → Digest) (d : Tree) (r : Request) (faults : Faults)
    (s : Tree) (result : Except Failure (Option Path)) : Prop where
  source : ∀ q, s.get (r.source ++ q) = d.get (r.source ++ q)
  /-- of a staging directory that the call makes nothing is left -/
  staging : ∀ q, s.get (r.staging ++ q) = d.get (r.staging ++ q)
  /-- the previous tree or the new one; else both renames failed, and the backup is complete -/
  target : (∀ q, s.get (r.target ++ q) = d.get (r.target ++ q)) ∨
    (∃ version copy, NewTree sha256 d r version copy ∧
      ∀ q, s.get (r.target ++ q) = copy.get q) ∨
    (faults.fails .moveIn = true ∧ faults.fails .rollBack = true ∧
      result = .error (.update (.unrestored r.backup)) ∧
      ∀ q, s.get (r.backup ++ q) = d.get (r.target ++ q))
  dryRun : r.dryRun = true → s = d
  success : ∀ backup, result = .ok backup → r.dryRun = false →
    (∀ path, (manifest sha256 (s.sub r.target)).get path =
      (manifest sha256 (s.sub r.source)).get path) ∧
    (∀ path, backup = some path → ∀ q, s.get (path ++ q) = d.get (r.target ++ q)) ∧
    (backup = none → s = d ∨ exists? d r.target = false) ∧
    ∀ timestamp unique later,
      (updateSkill sha256 s { r with timestamp := timestamp, unique := unique } later).1 = s ∧
      updateSkill sha256 s { r with timestamp := timestamp, unique := unique } noFaults =
        (s, .ok none)

theorem Safely.unchanged {e : Failure} : Safely sha256 d r faults d (.error e) :=
  ⟨fun _ => rfl, fun _ => rfl, .inl fun _ => rfl, fun _ => rfl, fun backup h => by cases h⟩

theorem Settled.safely (h : r.dryRun = false → ∃ version, Settled sha256 d r version) :
    Safely sha256 d r faults d (.ok none) := by
  refine ⟨fun _ => rfl, fun _ => rfl, .inl fun _ => rfl, fun _ => rfl, fun backup hok hrun => ?_⟩
  cases hok
  obtain ⟨version, hsettled⟩ := h hrun
  exact ⟨hsettled.same, fun path heq => (by cases heq), fun _ => .inl rfl,
    fun timestamp unique later => hsettled.again timestamp unique later⟩

theorem Kept.safely {content : Path → Option Entry} {e : Failure} (h : Kept d r content s)
    (hroot : Removable content) (hd : d.Closed Entry.isDir) (hp : Prepared d r version)
    (hrun : r.dryRun = false) :
    Safely sha256 d r faults (cleanUp r (s, .error e)).1 (cleanUp r (s, .error e)).2 := by
  obtain ⟨hresult, hget⟩ := cleanUp_spec (.error e) h.staging hroot
  refine ⟨fun q => ?_, fun q => ?_, .inl fun q => ?_, fun hdry => ?_, fun backup hok => ?_⟩
  · have hnot := (hp.source_staging hd).symm.append q
    rw [hget, if_neg hnot]
    exact h.frame _ hnot (old_source hp.paths q)
  · rw [hget, if_pos (List.prefix_append _ q), hd.none hp.stagingFree]
  · rw [hget, if_neg ((target_staging hp.paths).symm.append q)]
    exact h.target hp.paths q
  · rw [hrun] at hdry
    cases hdry
  · rw [hresult] at hok
    cases hok

theorem Placed.cleaned {content : Path → Option Entry} (h : Placed d r content s)
    (hd : d.Closed Entry.isDir) (hp : Prepared d r version)
    (result : Except Failure (Option Path)) :
    Placed d r content (cleanUp r (s, result)).1 := by
  obtain ⟨-, hget⟩ := cleanUp_spec result h.staging (.inl fun _ => rfl)
  refine ⟨fun q => ?_, fun q => ?_, fun htarget q => ?_, fun htarget => ?_,
    fun x hstaging htarget hbackup hold => ?_, fun hfresh x hstaging htarget => ?_⟩
  · rw [hget, if_pos (List.prefix_append _ q)]
  · rw [hget, if_neg ((target_staging hp.paths).symm.append q)]
    exact h.target q
  · rw [hget, if_neg ((hp.staging_backup hd).append q)]
    exact h.backup htarget q
  · rw [← h.root htarget]
    refine deviceOf_congr ?_
    rw [hget, if_neg (staging_not_above hp.paths (List.prefix_refl _))]
  · rw [hget, if_neg hstaging]
    exact h.frame x hstaging htarget hbackup hold
  · rw [hget, if_neg hstaging]
    exact h.fresh hfresh x hstaging htarget

theorem Placed.safely (h : Placed d r copy.get s) (hd : d.Closed Entry.isDir)
    (hp : Prepared d r version) (hnew : NewTree sha256 d r version copy)
    (hrun : r.dryRun = false) :
    Safely sha256 d r faults s (.ok (if exists? d r.target then some r.backup else none)) := by
  have hsettled := h.settled hd hp hnew
  refine ⟨h.source hd hp, fun q => ?_, .inr (.inl ⟨version, copy, hnew, h.target⟩), fun hdry => ?_,
    fun backup hok _ => ⟨hsettled.same, fun path heq q => ?_, fun hnone => ?_,
      fun timestamp unique later => hsettled.again timestamp unique later⟩⟩
  · rw [h.staging, hd.none hp.stagingFree]
  · rw [hrun] at hdry
    cases hdry
  · cases hok
    split at heq
    · cases heq
      exact h.backup (by assumption) q
    · cases heq
  · cases hok
    split at hnone
    · cases hnone
    · right
      simpa using ‹¬ exists? d r.target = true›

theorem Away.safely {content : Path → Option Entry} (h : Away d r content s)
    (hroot : Removable content) (hd : d.Closed Entry.isDir) (hp : Prepared d r version)
    (hrun : r.dryRun = false) (hin : faults.fails .moveIn = true)
    (hback : faults.fails .rollBack = true) {result : Except Failure (Option Path)}
    (hlost : result = .error (.update (.unrestored r.backup))) :
    Safely sha256 d r faults (cleanUp r (s, result)).1 (cleanUp r (s, result)).2 := by
  obtain ⟨hresult, hget⟩ := cleanUp_spec result h.staging hroot
  refine ⟨fun q => ?_, fun q => ?_, .inr (.inr ⟨hin, hback, hresult.trans hlost, fun q => ?_⟩),
    fun hdry => ?_, fun backup hok => ?_⟩
  · have hnot := (hp.source_staging hd).symm.append q
    rw [hget, if_neg hnot]
    exact h.frame _ hnot ((PathMap.Apart.mk hp.paths.above hp.paths.below).append q)
      ((hp.source_backup hd).symm.append q) (old_source hp.paths q)
  · rw [hget, if_pos (List.prefix_append _ q), hd.none hp.stagingFree]
  · rw [hget, if_neg ((hp.staging_backup hd).append q)]
    exact h.backup q
  · rw [hrun] at hdry
    cases hdry
  · rw [hresult, hlost] at hok
    cases hok

/-- **an update is safe**, whatever fails in it: the source stays, no staging directory is left, the
target holds the previous tree or the new one unless both renames back and forth fail, and behind a
success a second call has nothing to do -/
theorem update_safe (sha256 : List UInt8 → Digest) (d : DirectoryTree) (r : Request)
    (faults : Faults) :
    Safely sha256 d.tree r faults (updateSkill sha256 d.tree r faults).1
      (updateSkill sha256 d.tree r faults).2 := by
  unfold updateSkill
  cases hprepare : prepare sha256 d.tree r faults with
  | error e => exact .unchanged
  | ok plan =>
    cases plan with
    | none => exact Settled.safely fun hrun => prepare_none hprepare hrun
    | some version =>
      obtain ⟨hp, hrun⟩ := prepare_some hprepare
      have hended : Ended sha256 d.tree r faults version _ _ := install_ended d.closed hp
      dsimp only
      generalize install sha256 d.tree r faults version = ending at hended
      obtain ⟨s, result⟩ := ending
      cases hended with
      | kept h hroot => exact h.safely hroot d.closed hp hrun
      | placed hnew h =>
        rw [(cleanUp_spec _ h.staging (.inl fun _ => rfl)).1]
        exact (h.cleaned d.closed hp _).safely d.closed hp hnew hrun
      | lost h hroot hin hback => exact h.safely hroot d.closed hp hrun hin hback rfl

/-- a source below `/src`, an older tree below `/skills` -/
def sampleDisk : Tree :=
  PathMap.ofList
    [([], .dir 1), (["src"], .dir 1), (["src", skillName], .dir 1),
      (["src", skillName, "SKILL.md"], .file (bytes "---\nname: fastapi-templates-xtn\n---\n")),
      (["src", skillName, "VERSION"], .file (bytes "1.0.0\n")),
      (["home"], .dir 1), (["home", "skills"], .dir 1), (["home", "skills", skillName], .dir 1),
      (["home", "skills", skillName, "VERSION"], .file (bytes "0.9.0\n"))]

def sampleUpdate : Request :=
  ⟨["src", skillName], ["home", "skills", skillName], none, false, "20260101T000000Z", "0a1b2c3d"⟩

example : (updateSkill id sampleDisk sampleUpdate noFaults).2 = .ok (some
    ["home", "skill-backups", "fastapi-templates-xtn.backup-20260101T000000Z-0a1b2c3d"]) := by
  decide +kernel

end

/-! ## an undisturbed call -/

section
variable {t : DirectoryTree} {root : Path} {version : String} {copy : Tree} {device : Nat}

theorem file_of_copied (h : Valid t.tree version) (hagree : FiltersAgree t.tree)
    (hcopy : copytree device t.tree = some copy) {path : Path} {content : List UInt8}
    (hget : copy.get path = some (.file content)) : t.tree.get path = some (.file content) := by
  rw [get_copy hcopy] at hget
  cases hentry : t.tree.get path with
  | none =>
    rw [hentry] at hget
    cases hget
  | some entry =>
    rw [hentry, Option.bind_some] at hget
    split at hget
    · rename_i hreach
      rw [reaches_root h (by rw [hentry]; exact Option.some_ne_none _)] at hreach
      cases entry with
      | dir d => cases hget
      | file content' => exact congrArg (some ∘ Entry.file) (Entry.file.inj (Option.some.inj hget))
      | link => cases hget
      | special => cases hget
      | node content' =>
        exact absurd (hagree.irregular path _ hentry rfl) (all_clean_iff.mp hreach)
    · cases hget

theorem copied_link (hcopy : copytree device t.tree = some copy) (path : Path) :
    isLink copy path = false := by
  unfold isLink
  rw [get_copy hcopy]
  cases t.tree.get path with
  | none => rfl
  | some entry =>
    rw [Option.bind_some]
    split
    · cases entry with
      | dir d => rfl
      | file content => rfl
      | link => rfl
      | special => rfl
      | node content => cases content <;> rfl
    · rfl

/-- a file whose names are those of no artifact is in the copy -/
theorem copied_file (h : Valid t.tree version) (hcopy : copytree device t.tree = some copy)
    {path : Path} (hclean : (path.all fun name => !artifact name) = true)
    (hfile : isFile t.tree path = true) : copy.get path = t.tree.get path := by
  unfold isFile at hfile
  cases hentry : t.tree.get path with
  | none =>
    rw [hentry] at hfile
    cases hfile
  | some entry =>
    rw [hentry] at hfile
    have hreach : reaches t.tree [] path = true := by
      rw [reaches_root h (by rw [hentry]; exact Option.some_ne_none _)]
      exact hclean
    rw [get_copy hcopy, hentry, Option.bind_some, if_pos hreach]
    cases entry with
    | file content => rfl
    | dir d => cases hfile
    | link => cases hfile
    | special => cases hfile
    | node content => cases hfile

theorem FiltersAgree.refused_copy (hagree : FiltersAgree t.tree) (hvalid : Valid t.tree version)
    (hcopy : copytree device t.tree = some copy) (path : Path) : refused copy path = false := by
  unfold refused
  rw [copied_link hcopy, Bool.false_or]
  cases hfile : isFile copy path with
  | false => rw [Bool.false_and, Bool.and_false]
  | true =>
    have hrefused := hvalid.accepted path
    obtain ⟨content, hget⟩ : ∃ content, copy.get path = some (.file content) := by
      unfold isFile at hfile
      cases hget : copy.get path with
      | none =>
        rw [hget] at hfile
        cases hfile
      | some entry =>
        rw [hget] at hfile
        cases entry with
        | file content => exact ⟨content, rfl⟩
        | _ => cases hfile
    have hfile' : isFile t.tree path = true := by
      unfold isFile
      rw [file_of_copied hvalid hagree hcopy hget]
      rfl
    unfold refused at hrefused
    rw [hfile', hvalid.link, Bool.false_or] at hrefused
    exact hrefused

theorem FiltersAgree.valid (hagree : FiltersAgree t.tree)
    (h : validateSkillTree t.tree root true = .ok version)
    (hcopy : copytree device t.tree = some copy) (staging : Path) :
    validateSkillTree copy staging false = .ok version := by
  have hvalid := validateSkillTree_ok h
  have hdir : isDir copy [] = true := isDir_iff.mpr ⟨device, copy_root hcopy hvalid.directory⟩
  have haccepted := hagree.refused_copy hvalid hcopy
  unfold validateSkillTree at h ⊢
  obtain ⟨_, _, h⟩ := bind_ok h
  obtain ⟨_, _, h⟩ := bind_ok h
  obtain ⟨_, hskill, h⟩ := bind_ok h
  obtain ⟨_, hversion, h⟩ := bind_ok h
  obtain ⟨_, _, h⟩ := bind_ok h
  have hskillSame : copy.get ["SKILL.md"] = t.tree.get ["SKILL.md"] :=
    copied_file hvalid hcopy (by decide +kernel) (demand_ok.mp hskill)
  have hversionSame : copy.get ["VERSION"] = t.tree.get ["VERSION"] :=
    copied_file hvalid hcopy (by decide +kernel) (demand_ok.mp hversion)
  have hisSkill : isFile copy ["SKILL.md"] = true := by
    unfold isFile
    rw [hskillSame]
    exact demand_ok.mp hskill
  have hisVersion : isFile copy ["VERSION"] = true := by
    unfold isFile
    rw [hversionSame]
    exact demand_ok.mp hversion
  have hreadSkill : readText copy ["SKILL.md"] = readText t.tree ["SKILL.md"] := by
    unfold readText
    rw [hskillSame]
  have hreadVersion : readText copy ["VERSION"] = readText t.tree ["VERSION"] := by
    unfold readText
    rw [hversionSame]
  rw [hdir, hisSkill, hisVersion, walkSource_of haccepted, hreadSkill, hreadVersion]
  exact h

end

section
variable {Digest : Type} [DecidableEq Digest] {sha256 : List UInt8 → Digest}
variable {d s : Tree} {r : Request} {version : String} {copy : Tree}

theorem attempt_noFaults (op : Op) (result : Except Failure Tree) :
    attempt noFaults op result = result := rfl

theorem Staged.relink {content : Path → Option Entry} (h : Staged d r content s)
    (hp : Prepared d r version) : rejectLinkedPathComponents (Installer.mkdir s r.backupRoot)
      r.backupRoot "Backup path" = .ok () := by
  refine rejectLinks_ok.mpr fun p hle => ?_
  have hsame : s.get p = d.get p := h.frame p (staging_not_above hp.paths hle)
  unfold Installer.mkdir
  split
  · rw [isLink_congr hsame]
    exact hp.backupLinks p hle
  · by_cases heq : p = r.backupRoot
    · unfold isLink
      rw [heq, PathMap.get_insert_self]
      rfl
    · rw [isLink_congr ((PathMap.get_insert heq).trans hsame)]
      exact hp.backupLinks p hle

theorem Kept.renameAway {content : Path → Option Entry} (h : Kept d r content s)
    (hd : d.Closed Entry.isDir) (hp : Prepared d r version)
    (hroot : deviceOf s r.backupRoot = deviceOf d r.targetParent)
    (htarget : exists? d r.target = true)
    (hdevice : deviceOf d r.target = deviceOf d r.targetParent) :
    rename s r.target r.backup = .ok (s.move r.target r.backup) := by
  obtain ⟨device, hdir⟩ := isDir_iff.mp hp.paths.parentDir
  have hsame : s.get r.target = d.get r.target := by
    have hget := h.target hp.paths []
    rw [List.append_nil] at hget
    exact hget
  have hne : r.backup ≠ r.backupRoot := by
    intro heq
    have hle : r.backup <+: r.backupRoot := ⟨[], (List.append_nil _).trans heq⟩
    exact not_below_self _ _ hle
  have hfree : s.get r.backup = none :=
    (h.frame r.backup (hp.staging_backup hd).above (.inl hne)).trans hp.backupFree
  refine @rename_of s r.target r.backup device ?_ hfree (hp.target_backup hd).above ?_ ?_
  · rw [hsame]
    exact exists?_iff.mp htarget
  · rw [show parent r.backup = r.backupRoot from List.dropLast_concat, hroot]
    exact deviceOf_dir hdir
  · rw [deviceOf_congr hsame, hdevice]
    exact deviceOf_dir hdir

theorem Staged.renameIn (h : Staged d r copy.get s) (hp : Prepared d r version)
    (hroot : copy.get [] = some (.dir ((deviceOf d r.targetParent).getD 0)))
    (habsent : exists? d r.target = false) :
    rename s r.staging r.target = .ok (s.move r.staging r.target) := by
  obtain ⟨device, hdir⟩ := isDir_iff.mp hp.paths.parentDir
  have hstaging : s.get r.staging = some (.dir device) := by
    have hget := h.staging []
    rw [List.append_nil, hroot, deviceOf_dir hdir] at hget
    exact hget
  have hfree : s.get r.target = none := by
    rw [h.frame r.target (target_staging hp.paths).below]
    unfold exists? at habsent
    rw [Option.isSome_eq_false_iff, Option.isNone_iff_eq_none] at habsent
    exact habsent
  refine rename_of ?_ hfree (target_staging hp.paths).below ?_ (deviceOf_dir hstaging)
  · rw [hstaging]
    exact Option.some_ne_none _
  · rw [show parent r.target = r.targetParent from rfl, deviceOf_congr
      (h.frame _ (prefix_parent hp.paths (List.prefix_refl _)).1)]
    exact deviceOf_dir hdir

theorem switch_noFaults (hd : d.Closed Entry.isDir) (hp : Prepared d r version)
    (h : Staged d r copy.get s)
    (hroot : copy.get [] = some (.dir ((deviceOf d r.targetParent).getD 0)))
    (hdevice : exists? d r.target = true → deviceOf d r.target = deviceOf d r.targetParent) :
    (switch s r noFaults).2 = .ok (if exists? d r.target then some r.backup else none) := by
  have hsame : exists? s r.target = exists? d r.target :=
    exists?_congr (h.frame _ (target_staging hp.paths).below)
  unfold switch
  by_cases htarget : exists? d r.target = true
  · have hkept := h.mkdir hp.paths
    have haway := hkept.renameAway hd hp (h.root hp.paths) htarget (hdevice htarget)
    have hin := (hkept.moveAway hd hp (h.root hp.paths)).renameIn hd hp hroot
    rw [hsame, if_pos htarget, if_neg (show ¬ noFaults.fails .mkdir = true from Bool.false_ne_true)]
    have hrelink : (do
        noFaults.guard .relink
        rejectLinkedPathComponents (mkdir s r.backupRoot) r.backupRoot "Backup path") = .ok () :=
      h.relink hp
    simp only [hrelink, attempt_noFaults, haway, replace, hin, htarget, if_true]
  · have habsent : exists? d r.target = false := by simpa using htarget
    rw [hsame, if_neg htarget]
    simp only [attempt_noFaults, h.renameIn hp hroot habsent, habsent, if_neg Bool.false_ne_true]

theorem Prepared.prepare_noFaults (hp : Prepared d r version) (hrun : r.dryRun = false) {current : Bool}
    (hcurrent : upToDate sha256 d r noFaults version = .ok current) :
    Installer.prepare sha256 d r noFaults = .ok (if current then none else some version) := by
  have hfree : demand (!exists? d r.staging && !exists? d r.backup) .pathExists = .ok () := by
    rw [demand_ok]
    unfold exists?
    rw [hp.stagingFree, hp.backupFree]
    rfl
  unfold Installer.prepare
  rw [hp.toInspected.inspect]
  show (upToDate sha256 d r noFaults version >>= _) = _
  rw [hcurrent]
  cases current with
  | true => rfl
  | false =>
    show (if (false || r.dryRun) = true then _ else _) = _
    rw [hrun, if_neg (by decide), hfree]
    rfl

/-- the staged copy passes its check -/
theorem verify_noFaults (hd : d.Closed Entry.isDir) (hp : Prepared d r version)
    (hvalid : validateSkillTree copy r.staging false = .ok version)
    (hsame : ∀ path, (manifest sha256 copy).get path = (manifest sha256 (d.sub r.source)).get path) :
    verify sha256 (d.graft r.staging copy) r noFaults version = .ok () := by
  have hget (path : Path) : ((d.graft r.staging copy).sub r.staging).get path = copy.get path :=
    PathMap.get_graft_append
  have hcopied := validateSkillTree_congr (fun path => (hget path).symm) hvalid
  have hmanifests : (manifest sha256 ((d.graft r.staging copy).sub r.staging)).same
      (manifest sha256 ((d.graft r.staging copy).sub r.source)) = true := by
    refine PathMap.same_iff.mpr fun path => ?_
    rw [manifest_congr hget, hsame]
    exact (manifest_congr (fun q =>
      PathMap.get_graft_apart (hp.source_staging hd).symm) path).symm
  unfold verify
  rw [hcopied]
  show demand (version == version && _) _ = .ok ()
  rw [demand_ok, beq_self_eq_true, hmanifests]
  rfl

/-- **an undisturbed call installs a valid source whose filters agree**, unless the target is up to
date already -/
theorem update_installs (d : DirectoryTree) (hp : Prepared d.tree r version)
    (hagree : FiltersAgree (d.tree.sub r.source)) (hrun : r.dryRun = false) {current : Bool}
    (hcurrent : upToDate sha256 d.tree r noFaults version = .ok current)
    (hdevice : exists? d.tree r.target = true →
      deviceOf d.tree r.target = deviceOf d.tree r.targetParent) :
    (updateSkill sha256 d.tree r noFaults).2 =
      .ok (if current then none else if exists? d.tree r.target then some r.backup else none) := by
  unfold updateSkill
  rw [hp.prepare_noFaults hrun hcurrent]
  cases current with
  | true => rfl
  | false =>
    let source : DirectoryTree := ⟨d.tree.sub r.source, d.closed.sub r.source⟩
    have hvalid : validateSkillTree source.tree r.source true = .ok version := hp.valid
    obtain ⟨copy, hcopy, hmanifest⟩ := FiltersAgree.copied (t := source)
      (validateSkillTree_ok hvalid) hagree sha256 ((deviceOf d.tree r.targetParent).getD 0)
    have hroot := copy_root hcopy (validateSkillTree_ok hvalid).directory
    have hverify := verify_noFaults d.closed hp
      (FiltersAgree.valid (t := source) hagree hvalid hcopy r.staging) hmanifest
    have hinstall : install sha256 d.tree r noFaults version =
        switch (d.tree.graft r.staging copy) r noFaults := by
      unfold install
      rw [if_neg (show ¬ noFaults.fails .copy = true from Bool.false_ne_true)]
      simp only [show copytree ((deviceOf d.tree r.targetParent).getD 0) (d.tree.sub r.source) =
        some copy from hcopy, hverify]
    have hresult := switch_noFaults d.closed hp (staged_graft copy) hroot hdevice
    -- the cleanup keeps the result
    have hended : Ended sha256 d.tree r noFaults version _ _ := install_ended d.closed hp
    rw [hinstall] at hended
    show (cleanUp r (install sha256 d.tree r noFaults version)).2 = _
    rw [hinstall]
    generalize switch (d.tree.graft r.staging copy) r noFaults = ending at hended hresult
    obtain ⟨s, result⟩ := ending
    dsimp only at hended hresult
    rw [hresult] at hended ⊢
    cases hended with
    | placed hnew h => exact (cleanUp_spec _ h.staging (.inl fun _ => rfl)).1

end

end Installer

end PgRbac
