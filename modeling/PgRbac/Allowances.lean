import PgRbac.Visibility

/-!
# When the policy allows, and a commit goes through

The decisions as conditions on their arguments, in both directions, and the deferred triggers on a
coherent state.

* `decideUserAdministration_iff`, `decideRoleAdministration_iff`, `decideRoleChange_iff`
                                    what `allowed` says, and what makes it so;
* `GrantChangeable`                 a grant that an actor may bind or unbind;
* `commit_isOk`                     the deferred triggers pass on a coherent state.
-/

set_option linter.unusedVariables false

namespace PgRbac

open Fallible Store

/-! ## decisions -/

section
variable {actor target : AuthoritySnapshot}

theorem guard_allowed {c : Prop} [Decidable c] {reason : String} {d : PolicyDecision} :
    (if c then deny reason else d).allowed = true ↔ ¬ c ∧ d.allowed = true := by
  by_cases h : c
  · rw [if_pos h]
    exact ⟨fun hd => (Bool.false_ne_true hd).elim, fun hd => absurd h hd.1⟩
  · rw [if_neg h]
    exact ⟨fun hd => ⟨h, hd⟩, fun hd => hd.2⟩

theorem checked_allowed {required : PermissionKey} {decision d : PolicyDecision}
    (hnone : basicActorCheck actor required = none → decision = d)
    (hsome : ∀ denial, basicActorCheck actor required = some denial → decision = denial) :
    decision.allowed = true ↔
      required.value ∈ actor.permissions ∧ actor.userIsActive = true ∧ d.allowed = true := by
  cases hb : basicActorCheck actor required with
  | none =>
    obtain ⟨hr, ha⟩ := basicActorCheck_none.mp hb
    rw [hnone hb]
    exact ⟨fun hd => ⟨hr, ha, hd⟩, fun hd => hd.2.2⟩
  | some denial =>
    have hd : denial.allowed = false := basicActorCheck_some hb
    rw [hsome denial hb]
    constructor
    · intro h
      exact absurd (hd.symm.trans h) Bool.false_ne_true
    · intro h
      rw [basicActorCheck_none.mpr ⟨h.1, h.2.1⟩] at hb
      cases hb

/-- a dominated subject all of whose permissions are control-plane permissions -/
structure Governed (actor subject : AuthoritySnapshot) : Prop where
  dominated : Dominated actor subject
  controlPlane : subject.permissions ⊆ superAdminPermissionKeys

theorem governed_iff : Governed actor target ↔ ¬ actor.userId = target.userId ∧
    ¬ target.isProtected = true ∧ ¬ actor.managementTier ≤ target.managementTier ∧
      targetIsWithinActorAuthority actor target := by
  constructor
  · intro h
    exact ⟨h.dominated.other, by rw [h.dominated.unprotected]; exact Bool.false_ne_true,
      not_le.mpr h.dominated.lower, h.controlPlane, h.dominated.within⟩
  · intro h
    obtain ⟨ho, hp, hl, hc, hw⟩ := h
    exact ⟨⟨ho, (Bool.not_eq_true _).mp hp, not_le.mp hl, hw⟩, hc⟩

theorem governed_build {u : Uuid} {a p : Bool} {tv av : Nat} {grants : List RoleGrant} :
    Governed actor (AuthoritySnapshot.build u a p tv av grants) ↔
      actor.userId ≠ u ∧ p = false ∧ 0 < actor.managementTier ∧
        ∀ g ∈ grants, Below actor g ∧ g.permissions ⊆ superAdminPermissionKeys := by
  have hcontrol : (AuthoritySnapshot.build u a p tv av grants).permissions ⊆
      superAdminPermissionKeys ↔ ∀ g ∈ grants, g.permissions ⊆ superAdminPermissionKeys :=
    grantedPermissions_subset
  constructor
  · intro h
    obtain ⟨ho, hp, ht, hg⟩ := dominated_iff.mp h.dominated
    exact ⟨ho, hp, ht, fun g hm => ⟨hg g hm, hcontrol.mp h.controlPlane g hm⟩⟩
  · intro h
    obtain ⟨ho, hp, ht, hg⟩ := h
    exact ⟨dominated_iff.mpr ⟨ho, hp, ht, fun g hm => (hg g hm).1⟩,
      hcontrol.mpr fun g hm => (hg g hm).2⟩

/-- a governed user holds only grants beneath the actor, disabled ones included -/
theorem governed_authority {db : Db} {u : User} {incl : Bool} :
    Governed actor (db.authority incl u) ↔
      actor.userId ≠ u.id ∧ u.isProtected = false ∧ 0 < actor.managementTier ∧
        ∀ g ∈ db.roleGrantsForUser u.id incl,
          Below actor g ∧ g.permissions ⊆ superAdminPermissionKeys :=
  governed_build

/-- whom the actor governs the actor sees -/
theorem Governed.visible {db : Db} {u : User}
    (h : Governed actor (db.authority true u)) :
    isAdministrativeUserVisible actor (db.authority false u) = true := by
  obtain ⟨ho, hp, ht, hg⟩ := governed_authority.mp h
  have hactive : Governed actor (db.authority false u) :=
    governed_authority.mpr ⟨ho, hp, ht, fun g hm => hg g (Db.roleGrantsForUser_mono hm)⟩
  unfold isAdministrativeUserVisible
  split
  · rfl
  · simp [show actor.userId ≠ (db.authority false u).userId from hactive.dominated.other,
      hactive.dominated.unprotected, hactive.dominated.lower]

theorem decideUserAdministration_iff {required : PermissionKey} :
    (decideUserAdministration actor target required).allowed = true ↔
      required.value ∈ actor.permissions ∧ actor.userIsActive = true ∧ Governed actor target := by
  unfold decideUserAdministration
  rw [checked_allowed (fun h => by rw [h]) (fun _ h => by rw [h]), guard_allowed, guard_allowed,
    guard_allowed, guard_allowed, governed_iff,
    not_not]
  simp only [allow_allowed, and_true]

/-- a grant that the actor may hand out or take away -/
structure GrantChangeable (operation : RoleOperation) (actor : AuthoritySnapshot)
    (grant : RoleGrant) : Prop where
  notSuperAdmin : grant.key ≠ SystemRoleKey.superAdmin.value
  below : Below actor grant
  notBase : operation = .unbind → grant.key ≠ SystemRoleKey.user.value
  bySuperAdmin : grant.key = SystemRoleKey.admin.value → actor.isSuperAdmin = true
  controlPlane : grant.permissions ⊆ superAdminPermissionKeys

theorem changedRolesDenial_iff {operation : RoleOperation} {grants : List RoleGrant} :
    changedRolesDenial operation actor grants = none ↔
      ∀ grant ∈ grants, GrantChangeable operation actor grant := by
  induction grants with
  | nil => simp [changedRolesDenial]
  | cons grant grants ih =>
    have hguard : ∀ {c : Prop} [Decidable c] {d : PolicyDecision} {o : Option PolicyDecision},
        (if c then some d else o) = none ↔ ¬ c ∧ o = none := by
      intro c _ d o
      by_cases h : c
      · simp [h]
      · simp [h]
    unfold changedRolesDenial
    rw [hguard, hguard, hguard, hguard, hguard, ih, List.forall_mem_cons]
    constructor
    · intro h
      obtain ⟨h1, h2, h3, h4, h5, hrest⟩ := h
      obtain ⟨hk, hp⟩ := not_or.mp h1
      obtain ⟨hc, hw⟩ := not_not.mp h4
      exact ⟨⟨hk, ⟨(Bool.not_eq_true _).mp hp, not_le.mp h5, hw⟩, fun ho hu => h2 ⟨ho, hu⟩,
        fun ha => by_contra fun hs => h3 ⟨ha, hs⟩, hc⟩, hrest⟩
    · intro h
      obtain ⟨hg, hrest⟩ := h
      refine ⟨not_or.mpr ⟨hg.notSuperAdmin, ?_⟩, fun hu => hg.notBase hu.1 hu.2,
        fun ha => ha.2 (hg.bySuperAdmin ha.1), not_not.mpr ⟨hg.controlPlane, hg.below.within⟩,
        not_le.mpr hg.below.lower, hrest⟩
      rw [hg.below.unprotected]
      exact Bool.false_ne_true

theorem decideRoleChange_iff {operation : RoleOperation} {after : AuthoritySnapshot}
    {grants : List RoleGrant} :
    (decideRoleChange operation actor target after grants).allowed = true ↔
      operation.assignmentPermission.value ∈ actor.permissions ∧ actor.userIsActive = true ∧
        (operation = .bind → target.userIsActive = true) ∧ Governed actor target ∧
        (∀ grant ∈ grants, GrantChangeable operation actor grant) ∧
        after.managementTier < actor.managementTier ∧ targetIsWithinActorAuthority actor after := by
  have hrequired : (if operation = .bind then PermissionKey.rolesAssign else .rolesRevoke) =
      operation.assignmentPermission := by cases operation <;> rfl
  unfold decideRoleChange
  dsimp only
  rw [hrequired, checked_allowed (fun h => by rw [h]) (fun _ h => by rw [h]), guard_allowed,
    guard_allowed, guard_allowed, governed_iff,
    ← changedRolesDenial_iff]
  cases hd : changedRolesDenial operation actor grants with
  | some denial =>
    have hdenied := changedRolesDenial_some hd
    simp [hdenied]
  | none =>
    dsimp only
    rw [guard_allowed, guard_allowed, guard_allowed, guard_allowed]
    simp only [not_and, not_not, not_le, allow_allowed, and_true, true_and]
    tauto

end

/-! ## commits -/

section
variable {db : Db}

theorem assertUserHasBaseRole_isOk (hc : Coherent db) (u : Uuid) :
    db.assertUserHasBaseRole u = .ok () := by
  unfold Db.assertUserHasBaseRole
  rw [require_ok]
  intro hu
  obtain ⟨role, hr, hid, hkey, -⟩ := hc.systemRole .user
  unfold Db.hasLiveRole
  rw [List.any_eq_true]
  refine ⟨systemRoleId .user, Links.mem_rights.mpr (hc.baseRole u hu), ?_⟩
  rw [hr]
  exact beq_iff_eq.mpr hkey

theorem deferredOnUserRole_isOk (hc : Coherent db) {a : Uuid × Uuid}
    (ha : a.2 ≠ systemRoleId .superAdmin) : db.deferredOnUserRole a = .ok () := by
  unfold Db.deferredOnUserRole
  rw [bind_ok]
  refine ⟨(), (require_ok _ _ _).mpr (hc.limit a.1), ?_⟩
  rw [bind_ok]
  refine ⟨(), assertUserHasBaseRole_isOk hc a.1, ?_⟩
  obtain ⟨role, hf, hid, hlive⟩ := hc.findBy?_some .superAdmin
  have hdel := (Db.liveRole?_eq_some.mp hlive).2
  have hfind : (db.roles.findBy? "super_admin").filter (fun r => r.deletedAt.isNone) = some role := by
    rw [show db.roles.findBy? "super_admin" = some role from hf, Option.filter_some, hdel]
    rfl
  unfold Db.enforceExactlyOneSuperAdmin
  rw [hfind]
  dsimp only
  rw [require_ok]
  intro he
  exact absurd (he.trans hid) ha

/-- **the deferred triggers pass on a coherent state**, for any rows of `users`, and any assignments
but those of the super administrator -/
theorem commit_isOk (hc : Coherent db) (users : List Uuid) {assignments : List (Uuid × Uuid)}
    (h : ∀ a ∈ assignments, a.2 ≠ systemRoleId .superAdmin) :
    db.commit users assignments = .ok db := by
  rw [Db.commit_ok]
  exact ⟨rfl, fun u _ => assertUserHasBaseRole_isOk hc u,
    fun a ha => deferredOnUserRole_isOk hc (h a ha)⟩

end

end PgRbac
