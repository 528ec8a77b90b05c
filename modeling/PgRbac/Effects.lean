import PgRbac.Authentication
import PgRbac.Operator

/-!
# What a committed command has checked and written

One inversion lemma for each command body: the rows it read, the decision it passed, and the state
it left as an explicit change of the tables.  Later modules never unfold a command.

* `CurrentActor`            the actor of a context, as the guards establish it;
* `lockActorAndTargetUser_ok`, `lockSharedRoleChange_ok`    the shared guards;
* `updateUserStatusBody_ok`, …, `handoverBody_ok`           the commands.
-/

set_option linter.unusedVariables false

namespace PgRbac

open Fallible Store

/-! ## the shared guards -/

/-- the live, active user row behind a context, with the token version of the bearer token -/
structure CurrentActor (db : Db) (context : AuthorizationContext) (row : User) : Prop where
  live : db.liveUser? context.principal.userId = some row
  active : row.isActive = true
  token : row.tokenVersion = context.principal.tokenVersion

theorem requireCurrentActor_current {db : Db} {context : AuthorizationContext}
    {actor : AuthoritySnapshot}
    (h : db.requireCurrentActor context.principal.userId context.principal.tokenVersion =
      .ok actor) :
    ∃ row, CurrentActor db context row ∧ actor = db.authority false row := by
  obtain ⟨row, hl, ha, ht, he⟩ := Db.requireCurrentActor_ok.mp h
  exact ⟨row, ⟨hl, ha, ht⟩, he⟩

theorem CurrentActor.id {db : Db} {context : AuthorizationContext} {row : User}
    (h : CurrentActor db context row) : row.id = context.principal.userId :=
  Db.id_of_liveUser? h.live

theorem lockActorAndTargetUser_ok {db : Db} {context : AuthorizationContext} {targetUserId : Uuid}
    {required : PermissionKey} {additional : List Uuid} {locked : LockedTarget}
    (h : lockActorAndTargetUser db context targetUserId required additional = .ok locked) :
    ∃ row, CurrentActor db context row ∧ locked.actor = db.authority false row ∧
      db.liveUser? targetUserId = some locked.targetRow ∧
      locked.target = db.authority true locked.targetRow ∧
      locked.lockedRoles = db.lockRoles (db.userRoles.rights context.principal.userId ++
        db.userRoles.rights targetUserId ++ additional) := by
  unfold lockActorAndTargetUser at h
  simp only [bind_ok, require_ok, orRaise_ok, pure_ok] at h
  obtain ⟨-, -, -, -, -, -, targetRow, htr, actor, ha, -, -, -, -, target, ht, rfl⟩ := h
  obtain ⟨row, hc, rfl⟩ := requireCurrentActor_current ha
  have hlive : db.liveUser? targetUserId = some targetRow := by
    unfold Db.lockUsers at htr
    split at htr
    · exact htr
    · cases htr
  obtain ⟨u, hu, rfl⟩ := Db.loadAuthoritySnapshot_ok.mp ht
  rw [hlive] at hu
  cases hu
  exact ⟨row, hc, rfl, hlive, rfl, rfl⟩

theorem mem_affectedUsers {db : Db} {roleId : Uuid} {u : User} :
    u ∈ affectedUsers db roleId ↔ db.userRoles.Linked u.id roleId ∧ db.liveUser? u.id = some u := by
  unfold affectedUsers
  simp only [List.mem_filterMap, mem_sortIds, Links.mem_lefts]
  constructor
  · rintro ⟨id, hl, hu⟩
    have hid := Db.id_of_liveUser? hu
    subst hid
    exact ⟨hl, hu⟩
  · rintro ⟨hl, hu⟩
    exact ⟨u.id, hl, hu⟩

/-- what `_lock_shared_role_change` establishes about the role and its holders -/
structure SharedRole (db : Db) (context : AuthorizationContext) (roleId : Uuid)
    (locked : LockedSharedRole) (row : User) : Prop where
  current : CurrentActor db context row
  actor : locked.actor = db.authority false row
  role : db.liveRole? roleId = some locked.role
  grant : locked.roleBefore = db.roleGrant locked.role
  affected : locked.affectedBefore = (affectedUsers db roleId).map (db.authority true)
  ids : locked.affectedIds = (affectedUsers db roleId).map User.id
  keys : locked.permissionRows = db.rolePermissionKeys roleId

theorem lockSharedRoleChange_ok {db : Db} {context : AuthorizationContext} {roleId : Uuid}
    {required : PermissionKey} {incl : Bool} {locked : LockedSharedRole}
    (h : lockSharedRoleChange db context roleId required incl = .ok locked) :
    ∃ row, SharedRole db context roleId locked row := by
  unfold lockSharedRoleChange at h
  simp only [bind_ok, require_ok, orRaise_ok, pure_ok] at h
  obtain ⟨-, -, actor, ha, -, -, role, hr, -, -, grant, hg, -, -, rfl⟩ := h
  obtain ⟨row, hc, rfl⟩ := requireCurrentActor_current ha
  have hlive : db.liveRole? roleId = some role := by
    unfold Db.lockRoles at hr
    split at hr
    · exact hr
    · cases hr
  unfold Db.loadRoleGrant at hg
  simp only [bind_ok, require_ok, orRaise_ok, pure_ok, Bool.false_eq_true, ite_false, hlive,
    Option.some.injEq] at hg
  obtain ⟨r, rfl, -, -, rfl⟩ := hg
  exact ⟨row, hc, rfl, hlive, rfl, rfl, rfl, rfl⟩

theorem SharedRole.mem_ids {db : Db} {context : AuthorizationContext} {roleId : Uuid}
    {locked : LockedSharedRole} {row : User} (h : SharedRole db context roleId locked row)
    (id : Uuid) :
    locked.affectedIds.contains id = true ↔
      db.userRoles.Linked id roleId ∧ (db.liveUser? id).isSome := by
  rw [h.ids, List.contains_iff_mem, List.mem_map]
  constructor
  · intro ⟨u, hu, he⟩
    obtain ⟨hl, hlu⟩ := mem_affectedUsers.mp hu
    subst he
    exact ⟨hl, by rw [hlu]; rfl⟩
  · intro ⟨hl, hs⟩
    obtain ⟨u, hu⟩ := Option.isSome_iff_exists.mp hs
    have hid := Db.id_of_liveUser? hu
    subst hid
    exact ⟨u, mem_affectedUsers.mpr ⟨hl, hu⟩, rfl⟩

theorem bumpSharedAuthority_ok {db db' : Db} {locked : LockedSharedRole}
    (h : bumpSharedAuthority db locked = .ok db') :
    ∃ t, db.users.update? (fun u => locked.affectedIds.contains u.id) User.bumpAuthz = .ok t ∧
      db' = { db with users := t }.bumpEpoch := by
  unfold bumpSharedAuthority at h
  simp only [bind_ok, Db.updateUsers_ok, pure_ok] at h
  obtain ⟨_, ⟨t, ht, rfl⟩, rfl⟩ := h
  exact ⟨t, ht, rfl⟩

/-! ## commands on a user -/

theorem updateUserStatusBody_ok {context : AuthorizationContext} {targetUserId : Uuid}
    {isActive : Bool} {db db' : Db} {outcome : MutationOutcome UserResponse}
    (h : updateUserStatusBody context targetUserId isActive db = .ok (outcome, db')) :
    ∃ locked, lockActorAndTargetUser db context targetUserId .usersStatusUpdate [] = .ok locked ∧
      Dominated locked.actor locked.target ∧
      ((locked.targetRow.isActive = isActive ∧ db' = db) ∨
        (locked.targetRow.isActive ≠ isActive ∧
          ∃ t, db.users.modify? targetUserId (User.withStatus isActive) = .ok t ∧
            db' = { db with users := t }.bumpEpoch)) := by
  unfold updateUserStatusBody at h
  simp only [bind_ok, require_ok] at h
  obtain ⟨locked, hlock, _, hd, h⟩ := h
  refine ⟨locked, hlock, (decideUserAdministration_allowed hd).2.2, ?_⟩
  split at h
  · rename_i hs
    simp only [pure_ok, Prod.mk.injEq] at h
    exact Or.inl ⟨hs, h.2.symm⟩
  · rename_i hs
    simp only [bind_ok, Db.updateUser_ok, Db.commit_ok, pure_ok, Prod.mk.injEq] at h
    obtain ⟨_, ⟨t, ht, rfl⟩, _, ⟨rfl, -, -⟩, -, rfl⟩ := h
    exact Or.inr ⟨hs, t, ht, rfl⟩

theorem revokeUserSessionsBody_ok {context : AuthorizationContext} {targetUserId : Uuid}
    {db db' : Db} {outcome : MutationOutcome Unit}
    (h : revokeUserSessionsBody context targetUserId db = .ok (outcome, db')) :
    ∃ locked, lockActorAndTargetUser db context targetUserId .usersSessionsRevoke [] = .ok locked ∧
      Dominated locked.actor locked.target ∧
      ∃ t, db.users.modify? targetUserId User.bumpToken = .ok t ∧ db' = { db with users := t } := by
  unfold revokeUserSessionsBody at h
  simp only [bind_ok, require_ok, Db.updateUser_ok, Db.commit_ok, pure_ok, Prod.mk.injEq] at h
  obtain ⟨locked, hlock, _, hd, _, ⟨t, ht, rfl⟩, _, ⟨rfl, -, -⟩, -, rfl⟩ := h
  exact ⟨locked, hlock, (decideUserAdministration_allowed hd).2.2, t, ht, rfl⟩

/-- a role that the actor may hand out or take away: unprotected, strictly lower, all of whose
permissions the actor has -/
structure ManageableRole (db : Db) (actor : AuthoritySnapshot) (role : Role) : Prop where
  notSuperAdmin : role.key ≠ SystemRoleKey.superAdmin.value
  unprotected : role.isProtected = false
  lower : role.managementTier < actor.managementTier
  within : db.rolePermissionKeys role.id ⊆ actor.permissions

theorem requestedRole_ok {db : Db} {ids existingIds : List Uuid} {operation : RoleOperation}
    {roleId : Uuid} {role : Role}
    (h : requestedRole (db.lockRoles ids) operation existingIds roleId = .ok role) :
    db.liveRole? roleId = some role := by
  unfold requestedRole at h
  split at h
  · cases h
  · rename_i r hr
    have hlive : db.liveRole? roleId = some r := by
      unfold Db.lockRoles at hr
      split at hr
      · exact hr
      · cases hr
    split at h
    · cases h
    · cases h
      exact hlive

theorem requestedRoles_manageable {db : Db} {actor before after : AuthoritySnapshot}
    {ids existingIds requestedIds : List Uuid} {operation : RoleOperation} {roles : List Role}
    (hc : collect (requestedRole (db.lockRoles ids) operation existingIds) requestedIds = .ok roles)
    (hd : (decideRoleChange operation actor before after (db.loadRoleGrantsForRoles roles)).allowed =
      true) :
    ∀ r ∈ requestedIds, ∃ role, db.liveRole? r = some role ∧ ManageableRole db actor role ∧
      (operation = .unbind → role.key ≠ SystemRoleKey.user.value) := by
  have hden := (decideRoleChange_allowed hd).2
  intro r hr
  obtain ⟨role, hm, hrole⟩ := mem_collect _ _ _ hc r hr
  have hg : db.roleGrant role ∈ db.loadRoleGrantsForRoles roles := List.mem_map_of_mem hm
  obtain ⟨h1, h2, h3, h4, h5⟩ := changedRolesDenial_none hden _ hg
  exact ⟨role, requestedRole_ok hrole, ⟨h1, h2, h5, h4⟩, h3⟩

/-- the change of the assignments in `changeUserRoles` -/
def WroteUserRoles (db : Db) (operation : RoleOperation) (targetUserId : Uuid)
    (changedIds : List Uuid) (now : Nat) (userRoles : Links Uuid Uuid) : Prop :=
  match operation with
  | .bind => db.userRoles.linkAll? targetUserId changedIds = some userRoles ∧
      (db.userRoles.rights targetUserId).length + changedIds.length ≤ maxRolesPerUser
  | .unbind => userRoles = db.userRoles.tombstone now
      (fun a => a.1 = targetUserId && changedIds.contains a.2)

theorem writeUserRoles_ok {db db' : Db} {operation : RoleOperation} {targetUserId : Uuid}
    {changedIds : List Uuid} {now : Nat}
    (h : writeUserRoles db operation targetUserId changedIds now = .ok db')
    (hlimit : operation = .bind →
      db.countLiveUserRoles targetUserId + changedIds.length ≤ maxRolesPerUser) :
    ∃ t, WroteUserRoles db operation targetUserId changedIds now t ∧
      db' = { db with userRoles := t } := by
  cases operation with
  | bind =>
    obtain ⟨t, ht, -, -, rfl⟩ := Db.assignRoles_ok h
    exact ⟨t, ⟨ht, hlimit rfl⟩, rfl⟩
  | unbind =>
    cases h
    exact ⟨_, rfl, rfl⟩

theorem changeUserRolesBody_ok {context : AuthorizationContext} {targetUserId : Uuid}
    {requestedIds : List Uuid} {operation : RoleOperation} {now : Nat} {db db' : Db}
    {outcome : MutationOutcome UserRoleMutationResponse}
    (h : changeUserRolesBody context targetUserId requestedIds operation now db =
      .ok (outcome, db')) :
    ∃ locked, lockActorAndTargetUser db context targetUserId operation.assignmentPermission
        requestedIds = .ok locked ∧
      Dominated locked.actor locked.target ∧
      (∀ r ∈ requestedIds, ∃ role, db.liveRole? r = some role ∧
        ManageableRole db locked.actor role ∧
        (operation = .unbind → role.key ≠ SystemRoleKey.user.value)) ∧
      (db' = db ∨ ∃ userRoles users,
        WroteUserRoles db operation targetUserId (operation.changedIds requestedIds
          (requestedIds.filter (fun r => db.userRoles.Linked targetUserId r))) now userRoles ∧
        db.users.modify? targetUserId User.bumpAuthz = .ok users ∧
        db' = { db with userRoles := userRoles, users := users }.bumpEpoch) := by
  unfold changeUserRolesBody at h
  simp only [bind_ok, require_ok] at h
  obtain ⟨locked, hlock, roles, hc, -, -, -, hd, -, hlimit, h⟩ := h
  obtain ⟨row, hcur, hactor, hlive, htarget, hroles⟩ := lockActorAndTargetUser_ok hlock
  rw [hroles] at hc
  refine ⟨locked, hlock, (decideRoleChange_allowed hd).1, requestedRoles_manageable hc hd, ?_⟩
  split at h
  · simp only [pure_ok, Prod.mk.injEq] at h
    exact Or.inl h.2.symm
  · rename_i hne
    simp only [bind_ok, Db.updateUser_ok, Db.commit_ok, pure_ok, Prod.mk.injEq] at h
    obtain ⟨db₁, hw, _, ⟨users, hu, rfl⟩, _, ⟨rfl, -, -⟩, -, rfl⟩ := h
    obtain ⟨userRoles, hwrote, rfl⟩ := writeUserRoles_ok hw (fun hb => hlimit hb hne)
    exact Or.inr ⟨userRoles, users, hwrote, hu, rfl⟩

/-! ## commands on a role -/

theorem createRoleBody_ok {context : AuthorizationContext} {roleId : Uuid}
    {request : RoleCreateRequest} {db db' : Db} {outcome : MutationOutcome RoleMutationResponse}
    (h : createRoleBody context roleId request db = .ok (outcome, db')) :
    ∃ row, CurrentActor db context row ∧ 1 ≤ request.managementTier ∧
      request.managementTier < 1000 ∧
      request.managementTier < (db.authority false row).managementTier ∧
      ∃ t, db.roles.insert? (newRole roleId request) = .ok t ∧
        db' = { db with roles := t }.bumpEpoch := by
  unfold createRoleBody at h
  simp only [bind_ok, require_ok, Db.insertRole_ok, pure_ok, Prod.mk.injEq] at h
  obtain ⟨-, -, actor, ha, -, hd, -, -, -, -, _, ⟨t, ht, rfl⟩, -, rfl⟩ := h
  obtain ⟨row, hcur, rfl⟩ := requireCurrentActor_current ha
  obtain ⟨h1, h2, h3⟩ := decideRoleCreate_allowed hd
  exact ⟨row, hcur, h1, h2, h3, t, ht, rfl⟩

/-- what the decision on a shared role says: a custom role the actor does not hold, strictly lower,
within the actor's authority, all of whose holders the actor dominates -/
structure Administered (db : Db) (roleId : Uuid) (locked : LockedSharedRole) : Prop where
  custom : locked.role.isSystem = false
  notHeld : ¬ (db.userRoles.Linked locked.actor.userId roleId ∧
    (db.liveUser? locked.actor.userId).isSome)
  lower : locked.role.managementTier < locked.actor.managementTier
  within : db.rolePermissionKeys locked.role.id ⊆ locked.actor.permissions
  dominated : ∀ subject ∈ locked.affectedBefore, Dominated locked.actor subject

theorem requireRoleAdministration_ok {db : Db} {context : AuthorizationContext} {roleId : Uuid}
    {locked : LockedSharedRole} {row : User} {operation : RoleAdministrationOperation} {u : Unit}
    (hs : SharedRole db context roleId locked row)
    (h : requireRoleAdministration locked operation = .ok u) : Administered db roleId locked := by
  unfold requireRoleAdministration at h
  rw [require_ok] at h
  obtain ⟨h1, h2, h3, h4, h5⟩ := decideRoleAdministration_allowed h
  rw [hs.grant] at h1 h3 h4
  refine ⟨h1, ?_, h3, h4, h5⟩
  rw [← hs.mem_ids]
  simp only [h2, Bool.false_eq_true, not_false_eq_true]

theorem updateRoleBody_ok {context : AuthorizationContext} {roleId : Uuid}
    {request : RoleUpdateRequest} {expected : Nat} {db db' : Db}
    {outcome : MutationOutcome RoleMutationResponse}
    (h : updateRoleBody context roleId request expected db = .ok (outcome, db')) :
    ∃ locked row, SharedRole db context roleId locked row ∧ Administered db roleId locked ∧
      (db' = db ∨ ∃ name description t,
        db.roles.modify? roleId (Role.describe name description) = .ok t ∧
        db' = { db with roles := t }.bumpEpoch) := by
  unfold updateRoleBody at h
  simp only [bind_ok] at h
  obtain ⟨locked, hlock, _, had, -, -, h⟩ := h
  obtain ⟨row, hs⟩ := lockSharedRoleChange_ok hlock
  refine ⟨locked, row, hs, requireRoleAdministration_ok hs had, ?_⟩
  split at h
  · simp only [pure_ok, Prod.mk.injEq] at h
    exact Or.inl h.2.symm
  · simp only [bind_ok, Db.updateRole_ok, pure_ok, Prod.mk.injEq] at h
    obtain ⟨_, ⟨t, -, ht, rfl⟩, -, rfl⟩ := h
    exact Or.inr ⟨_, _, t, ht, rfl⟩

/-- a new version of the authority of every live holder of a role -/
def BumpedHolders (db : Db) (roleId : Uuid) (users : Table User.id User.userName User.checks) :
    Prop :=
  db.users.update? (fun u => decide (db.userRoles.Linked u.id roleId) && (db.liveUser? u.id).isSome)
    User.bumpAuthz = .ok users

theorem SharedRole.bumpedHolders {db : Db} {context : AuthorizationContext} {roleId : Uuid}
    {locked : LockedSharedRole} {row : User} (hs : SharedRole db context roleId locked row)
    {t : Table User.id User.userName User.checks}
    (h : db.users.update? (fun u => locked.affectedIds.contains u.id) User.bumpAuthz = .ok t) :
    BumpedHolders db roleId t := by
  unfold BumpedHolders
  rw [← h]
  congr 1
  funext u
  rw [Bool.eq_iff_iff, hs.mem_ids]
  simp

theorem setRoleActiveBody_ok {context : AuthorizationContext} {roleId : Uuid} {isActive : Bool}
    {expected : Nat} {db db' : Db} {outcome : MutationOutcome RoleMutationResponse}
    (h : setRoleActiveBody context roleId isActive expected db = .ok (outcome, db')) :
    ∃ locked row, SharedRole db context roleId locked row ∧ Administered db roleId locked ∧
      (db' = db ∨ ∃ roles users,
        db.roles.modify? roleId (Role.withActive isActive) = .ok roles ∧
        BumpedHolders db roleId users ∧
        db' = { db with roles := roles, users := users }.bumpEpoch) := by
  unfold setRoleActiveBody at h
  simp only [bind_ok] at h
  obtain ⟨locked, hlock, _, had, -, -, h⟩ := h
  obtain ⟨row, hs⟩ := lockSharedRoleChange_ok hlock
  refine ⟨locked, row, hs, requireRoleAdministration_ok hs had, ?_⟩
  split at h
  · simp only [pure_ok, Prod.mk.injEq] at h
    exact Or.inl h.2.symm
  · simp only [bind_ok, Db.updateRole_ok, Db.commit_ok, pure_ok, Prod.mk.injEq] at h
    obtain ⟨_, ⟨roles, -, hr, rfl⟩, db₂, hb, _, ⟨rfl, -, -⟩, -, rfl⟩ := h
    obtain ⟨users, hu, rfl⟩ := bumpSharedAuthority_ok hb
    exact Or.inr ⟨roles, users, hr, hs.bumpedHolders hu, rfl⟩

theorem softDeleteRoleBody_ok {context : AuthorizationContext} {roleId : Uuid}
    {expected now : Nat} {db db' : Db} {outcome : MutationOutcome RoleMutationResponse}
    (h : softDeleteRoleBody context roleId expected now db = .ok (outcome, db')) :
    ∃ locked row, SharedRole db context roleId locked row ∧ Administered db roleId locked ∧
      ∃ roles users,
        db.roles.modify? roleId (Role.softDeleted now locked.actor.userId) = .ok roles ∧
        BumpedHolders db roleId users ∧
        db' = { db with
          roles := roles
          users := users
          userRoles := db.userRoles.tombstone now (fun a => a.2 = roleId)
          rolePermissions :=
            db.rolePermissions.tombstone now (fun l => l.1 = roleId && true) }.bumpEpoch := by
  unfold softDeleteRoleBody at h
  simp only [bind_ok, Db.updateRole_ok, Db.commit_ok, pure_ok, Prod.mk.injEq] at h
  obtain ⟨locked, hlock, _, had, -, -, _, ⟨roles, -, hr, rfl⟩, db₂, hrev, db₃, hb, _, ⟨rfl, -, -⟩,
    -, rfl⟩ := h
  obtain ⟨row, hs⟩ := lockSharedRoleChange_ok hlock
  have hrev' := Db.revokePermissions_ok hrev
  subst hrev'
  obtain ⟨users, hu, rfl⟩ := bumpSharedAuthority_ok hb
  exact ⟨locked, row, hs, requireRoleAdministration_ok hs had, roles, users, hr,
    hs.bumpedHolders hu, rfl⟩

/-- the change of the grants in `changeRolePermissions` -/
def WroteRolePermissions (db : Db) (operation : RoleOperation) (roleId : Uuid)
    (requestedIds : List Uuid) (now : Nat) (rolePermissions : Links Uuid Uuid) : Prop :=
  match operation with
  | .bind => db.rolePermissions.linkAll? roleId
      (((db.loadPermissionKeys requestedIds).filter
        (fun p => p.2 ∉ db.rolePermissionKeys roleId)).map Prod.fst) = some rolePermissions
  | .unbind => rolePermissions = db.rolePermissions.tombstone now
      (fun l => l.1 = roleId && ((db.loadPermissionKeys requestedIds).map Prod.fst).contains l.2)

theorem writeRolePermissions_ok {db db' : Db} {operation : RoleOperation} {roleId : Uuid}
    {requestedIds : List Uuid} {now : Nat}
    (h : writeRolePermissions db operation roleId (db.loadPermissionKeys requestedIds)
      (db.rolePermissionKeys roleId) now = .ok db') :
    ∃ t, WroteRolePermissions db operation roleId requestedIds now t ∧
      db' = { db with rolePermissions := t } := by
  cases operation with
  | bind =>
    obtain ⟨t, ht, -, rfl⟩ := Db.grantPermissions_ok h
    exact ⟨t, ht, rfl⟩
  | unbind =>
    have he := Db.revokePermissions_ok h
    exact ⟨_, rfl, he⟩

/-- the keys that a request names -/
def requestedKeys (db : Db) (requestedIds : List Uuid) : Finset String :=
  ((db.loadPermissionKeys requestedIds).map Prod.snd).toFinset

theorem changeRolePermissionsBody_ok {context : AuthorizationContext} {roleId : Uuid}
    {requestedIds : List Uuid} {operation : RoleOperation} {expected now : Nat} {db db' : Db}
    {outcome : MutationOutcome RoleMutationResponse}
    (h : changeRolePermissionsBody context roleId requestedIds operation expected now db =
      .ok (outcome, db')) :
    ∃ locked row keysAfter, SharedRole db context roleId locked row ∧
      (∀ p ∈ requestedIds, p ∈ (db.loadPermissionKeys requestedIds).map Prod.fst) ∧
      keysAfter = operation.keysAfter (db.rolePermissionKeys locked.role.id)
        (requestedKeys db requestedIds) ∧
      locked.role.isSystem = false ∧
      ¬ (db.userRoles.Linked locked.actor.userId roleId ∧
        (db.liveUser? locked.actor.userId).isSome) ∧
      locked.role.managementTier < locked.actor.managementTier ∧
      db.rolePermissionKeys locked.role.id ⊆ locked.actor.permissions ∧
      keysAfter ⊆ superAdminPermissionKeys ∧
      PermissionKey.registrationConfigure.value ∉ keysAfter ∧
      keysAfter ⊆ locked.actor.permissions ∧
      (∀ subject ∈ locked.affectedBefore, Dominated locked.actor
        (subject.withRole { db.roleGrant locked.role with permissions := keysAfter })) ∧
      (db' = db ∨ ∃ rolePermissions roles users,
        WroteRolePermissions db operation roleId requestedIds now rolePermissions ∧
        db.roles.modify? roleId Role.bumpVersion = .ok roles ∧
        BumpedHolders db roleId users ∧
        db' = { db with
          rolePermissions := rolePermissions, roles := roles, users := users }.bumpEpoch) := by
  unfold changeRolePermissionsBody at h
  simp only [bind_ok, require_ok] at h
  obtain ⟨locked, hlock, _, hknown, -, -, _, hd, -, -, h⟩ := h
  obtain ⟨row, hs⟩ := lockSharedRoleChange_ok hlock
  obtain ⟨h1, h2, h3, h4, h5, h6, h7, h8⟩ := decideRolePermissionsChange_allowed hd
  rw [hs.grant] at h1 h3 h4 h5 h6 h7 h8
  have hheld : ¬ (db.userRoles.Linked locked.actor.userId roleId ∧
      (db.liveUser? locked.actor.userId).isSome) := by
    rw [← hs.mem_ids]
    simp only [h2, Bool.false_eq_true, not_false_eq_true]
  have hall : ∀ p ∈ requestedIds, p ∈ (db.loadPermissionKeys requestedIds).map Prod.fst := by
    intro p hp
    exact List.contains_iff_mem.mp (List.all_eq_true.mp hknown p hp)
  refine ⟨locked, row, _, hs, hall, rfl, h1, hheld, h3, h4, h5, h6, h7, ?_, ?_⟩
  · intro subject hsub
    exact h8 _ (List.mem_map_of_mem hsub)
  · split at h
    · simp only [pure_ok, Prod.mk.injEq] at h
      exact Or.inl h.2.symm
    · simp only [bind_ok, Db.updateRole_ok, Db.commit_ok, pure_ok, Prod.mk.injEq] at h
      obtain ⟨db₁, hw, _, ⟨roles, -, hr, rfl⟩, db₂, hb, _, ⟨rfl, -, -⟩, -, rfl⟩ := h
      rw [hs.keys] at hw
      obtain ⟨rolePermissions, hwrote, rfl⟩ := writeRolePermissions_ok hw
      obtain ⟨users, hu, rfl⟩ := bumpSharedAuthority_ok hb
      exact Or.inr ⟨rolePermissions, roles, users, hwrote, hr, hs.bumpedHolders hu, rfl⟩

end PgRbac
