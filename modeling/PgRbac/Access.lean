import PgRbac.Audit

/-!
# The administrative commands: `RbacService` of `app/services/access.py`

The body of a command is a function of the tables: it reads and writes one state, because every
writer of authority first locks the single `rbac_state` row.  The command itself is that body under
`runAudited`.

* `lockActorAndTargetUser`, `lockSharedRoleChange`   the guards that the commands share;
* `updateUserStatus`, `revokeUserSessions`, `changeUserRoles`    commands on a user;
* `createRole`, `updateRole`, `setRoleActive`, `softDeleteRole`, `changeRolePermissions`
                                                     commands on a role.
-/

set_option linter.unusedVariables false

namespace PgRbac

open Fallible Store

/-! ## row changes -/

/-- one administrative change of the active flag -/
def User.withStatus (isActive : Bool) : UserPatch where
  apply u := { u with
    isActive := isActive, tokenVersion := u.tokenVersion + 1, authzVersion := u.authzVersion + 1 }
  key_eq _ := rfl
  uniq_eq _ := rfl

def User.bumpToken : UserPatch where
  apply u := { u with tokenVersion := u.tokenVersion + 1 }
  key_eq _ := rfl
  uniq_eq _ := rfl

def User.bumpAuthz : UserPatch where
  apply u := { u with authzVersion := u.authzVersion + 1 }
  key_eq _ := rfl
  uniq_eq _ := rfl

/-- new public information, and a new version -/
def Role.describe (name description : String) : RolePatch where
  apply r := { r with name := name, description := description, version := r.version + 1 }
  key_eq _ := rfl
  uniq_eq _ := rfl

def Role.withActive (isActive : Bool) : RolePatch where
  apply r := { r with isActive := isActive, version := r.version + 1 }
  key_eq _ := rfl
  uniq_eq _ := rfl

def Role.softDeleted (now : Nat) (actorId : Uuid) : RolePatch where
  apply r := { r with
    isActive := false, deletedAt := some now, deletedByUserId := some actorId,
    version := r.version + 1 }
  key_eq _ := rfl
  uniq_eq _ := rfl

def Role.bumpVersion : RolePatch where
  apply r := { r with version := r.version + 1 }
  key_eq _ := rfl
  uniq_eq _ := rfl

/-! ## the shared guards -/

def requireCurrentLockedActorRow (actorUser : Option User) (context : AuthorizationContext) :
    Except Failure User :=
  match actorUser with
  | none => .error (unauthenticated "actor_missing")
  | some u =>
    if ¬ u.isActive ∨ u.tokenVersion ≠ context.principal.tokenVersion then
      .error (unauthenticated "actor_no_longer_active")
    else .ok u

def requireExpectedRoleVersion (role : Role) (expectedVersion : Nat) : Except Failure Unit :=
  require (role.version = expectedVersion) (staleResourceVersion "stale_role_version")

structure LockedTarget where
  actor : AuthoritySnapshot
  target : AuthoritySnapshot
  targetRow : User
  lockedRoles : Uuid → Option Role

/-- the visibility of the target is judged on its active roles, the target handed to the decision
counts the disabled ones too -/
def lockActorAndTargetUser (db : Db) (context : AuthorizationContext) (targetUserId : Uuid)
    (requiredPermission : PermissionKey) (additionalRoleIds : List Uuid) :
    Except Failure LockedTarget := do
  let actorUserId := context.principal.userId
  let users := db.lockUsers [actorUserId, targetUserId]
  let _ ← requireCurrentLockedActorRow (users actorUserId) context
  let actor ← db.requireCurrentActor actorUserId context.principal.tokenVersion
  require (requiredPermission.value ∈ actor.permissions) (forbidden "missing_operation_permission")
  let targetRow ← orRaise (users targetUserId) (notFound "target_user_not_found")
  let assignedRoleIds := db.userRoles.rights actorUserId ++ db.userRoles.rights targetUserId
  let lockedRoles := db.lockRoles (assignedRoleIds ++ additionalRoleIds)
  let actor ← db.requireCurrentActor actorUserId context.principal.tokenVersion
  let visibleTarget ← db.loadAuthoritySnapshot targetUserId false
  require (isAdministrativeUserVisible actor visibleTarget) (notFound "target_user_not_found")
  let target ← db.loadAuthoritySnapshot targetUserId true
  pure { actor, target, targetRow, lockedRoles }

structure LockedSharedRole where
  actor : AuthoritySnapshot
  role : Role
  roleBefore : RoleGrant
  affectedBefore : List AuthoritySnapshot
  affectedIds : List Uuid
  permissionRows : Finset String

/-- the live holders of a role, `sorted(affected_ids, key=str)` -/
def affectedUsers (db : Db) (roleId : Uuid) : List User :=
  (sortIds (db.userRoles.lefts roleId)).filterMap db.liveUser?

def lockSharedRoleChange (db : Db) (context : AuthorizationContext) (roleId : Uuid)
    (requiredPermission : PermissionKey) (includeInactive : Bool) :
    Except Failure LockedSharedRole := do
  let actorId := context.principal.userId
  let affected := affectedUsers db roleId
  let affectedIds := affected.map User.id
  let users := db.lockUsers (actorId :: affectedIds)
  let _ ← requireCurrentLockedActorRow (users actorId) context
  let allRoleIds := (actorId :: affectedIds).flatMap db.userRoles.rights
  let lockedRoles := db.lockRoles (allRoleIds ++ [roleId])
  let actor ← db.requireCurrentActor actorId context.principal.tokenVersion
  require (requiredPermission.value ∈ actor.permissions) (forbidden "missing_operation_permission")
  let role ← orRaise (lockedRoles roleId) (notFound "role_not_found")
  require (role.deletedAt = none ∧ (includeInactive ∨ role.isActive)) (notFound "role_not_found")
  let permissionRows := db.rolePermissionKeys roleId
  let roleBefore ← db.loadRoleGrant roleId true false
  require (isAdministrativeRoleVisible actor roleBefore) (notFound "role_not_found")
  let affectedBefore := db.loadAuthoritySnapshotsForUsers affected true
  pure { actor, role, roleBefore, affectedBefore, affectedIds, permissionRows }

def requireRoleAdministration (locked : LockedSharedRole)
    (operation : RoleAdministrationOperation) : Except Failure Unit :=
  let decision := decideRoleAdministration operation locked.actor locked.roleBefore
    (locked.affectedIds.contains locked.actor.userId) locked.affectedBefore
  require decision.allowed (forbidden decision.reasonCode)

/-- a new version of every affected user's authority, and a new epoch; the role's own new version
is part of the change of its row -/
def bumpSharedAuthority (db : Db) (locked : LockedSharedRole) : Except Failure Db := do
  let db ← db.updateUsers (fun u => locked.affectedIds.contains u.id) User.bumpAuthz
  pure db.bumpEpoch

/-! ## commands on a user -/

def updateUserStatusBody (context : AuthorizationContext) (targetUserId : Uuid) (isActive : Bool)
    (db : Db) : Except Failure (MutationOutcome UserResponse × Db) := do
  let locked ← lockActorAndTargetUser db context targetUserId .usersStatusUpdate []
  let decision := decideUserStatusChange locked.actor locked.target
  require decision.allowed (forbidden decision.reasonCode)
  let targetAfter := { locked.target with userIsActive := isActive }
  if locked.targetRow.isActive = isActive then
    let access := db.loadUserAccessView locked.targetRow locked.actor
    pure ({ value := userResponse access
            reasonCode := "user_status_unchanged"
            beforeState := some (.snapshot (snapshotPayload locked.target))
            afterState := some (.snapshot (snapshotPayload targetAfter))
            auditTargetRoleId := none }, db)
  else
    let row := (User.withStatus isActive).apply locked.targetRow
    let db ← db.updateUser targetUserId (User.withStatus isActive)
    let db ← db.bumpEpoch.commit [targetUserId] []
    let access := db.loadUserAccessView row locked.actor
    pure ({ value := userResponse access
            reasonCode := "user_status_updated"
            beforeState := some (.snapshot (snapshotPayload locked.target))
            afterState := some (.snapshot (snapshotPayload
              { targetAfter with authzVersion := row.authzVersion }))
            auditTargetRoleId := none }, db)

def updateUserStatus (context : AuthorizationContext) (targetUserId : Uuid) (isActive : Bool) :
    Postgres → Except Failure UserResponse × Postgres :=
  runAudited context "user.status.update" (some targetUserId) none
    (updateUserStatusBody context targetUserId isActive)

def revokeUserSessionsBody (context : AuthorizationContext) (targetUserId : Uuid) (db : Db) :
    Except Failure (MutationOutcome Unit × Db) := do
  let locked ← lockActorAndTargetUser db context targetUserId .usersSessionsRevoke []
  let decision := decideUserSessionsRevoke locked.actor locked.target
  require decision.allowed (forbidden decision.reasonCode)
  let previousVersion := locked.targetRow.tokenVersion
  let db ← db.updateUser targetUserId User.bumpToken
  let db ← db.commit [targetUserId] []
  pure ({ value := ()
          reasonCode := "user_sessions_revoked"
          beforeState := some (.tokenVersion previousVersion)
          afterState := some (.tokenVersion (previousVersion + 1))
          auditTargetRoleId := none }, db)

def revokeUserSessions (context : AuthorizationContext) (targetUserId : Uuid) :
    Postgres → Except Failure Unit × Postgres :=
  runAudited context "user.sessions.revoke" (some targetUserId) none
    (revokeUserSessionsBody context targetUserId)

def RoleOperation.value : RoleOperation → String
  | .bind => "bind"
  | .unbind => "unbind"

def RoleOperation.assignmentPermission : RoleOperation → PermissionKey
  | .bind => .rolesAssign
  | .unbind => .rolesRevoke

/-- the locked row of a requested role; a disabled one can only be bound where it already is -/
def requestedRole (lockedRoles : Uuid → Option Role) (operation : RoleOperation)
    (existingIds : List Uuid) (roleId : Uuid) : Except Failure Role :=
  match lockedRoles roleId with
  | none => .error (notFound "role_not_found")
  | some role =>
    if operation = .bind ∧ roleId ∉ existingIds ∧ ¬ role.isActive then
      .error (notFound "role_not_found")
    else .ok role

def RoleOperation.targetAfter (operation : RoleOperation) (target : AuthoritySnapshot)
    (grants : List RoleGrant) : AuthoritySnapshot :=
  match operation with
  | .bind => grants.foldl AuthoritySnapshot.withRole target
  | .unbind => grants.foldl (fun s g => s.withoutRole g.roleId) target

def RoleOperation.changedIds (operation : RoleOperation) (requestedIds existingIds : List Uuid) :
    List Uuid :=
  match operation with
  | .bind => requestedIds.filter (fun r => r ∉ existingIds)
  | .unbind => requestedIds.filter (fun r => r ∈ existingIds)

def writeUserRoles (db : Db) (operation : RoleOperation) (targetUserId : Uuid)
    (changedIds : List Uuid) (now : Nat) : Except Failure Db :=
  match operation with
  | .bind => db.assignRoles targetUserId changedIds
  | .unbind => .ok (db.unassignRoles now (fun a => a.1 = targetUserId && changedIds.contains a.2))

def RoleOperation.userRolesReason : RoleOperation → String
  | .bind => "user_roles_bound"
  | .unbind => "user_roles_unbound"

def changeUserRolesBody (context : AuthorizationContext) (targetUserId : Uuid)
    (requestedIds : List Uuid) (operation : RoleOperation) (now : Nat) (db : Db) :
    Except Failure (MutationOutcome UserRoleMutationResponse × Db) := do
  let locked ← lockActorAndTargetUser db context targetUserId operation.assignmentPermission
    requestedIds
  let existingIds := requestedIds.filter (fun r => db.userRoles.Linked targetUserId r)
  let requestedRoles ← collect (requestedRole locked.lockedRoles operation existingIds) requestedIds
  let grants := db.loadRoleGrantsForRoles requestedRoles
  require (grants.all (isAdministrativeRoleVisible locked.actor)) (notFound "role_not_found")
  let targetAfter := operation.targetAfter locked.target grants
  let changedIds := operation.changedIds requestedIds existingIds
  let decision := decideRoleChange operation locked.actor locked.target targetAfter grants
  require decision.allowed (forbidden decision.reasonCode)
  require (operation = .bind → changedIds ≠ [] →
      db.countLiveUserRoles targetUserId + changedIds.length ≤ maxRolesPerUser)
    (conflict "user_role_limit_exceeded")
  if changedIds = [] then
    let access := db.loadUserAccessView locked.targetRow locked.actor
    pure ({ value := { changed := false, user := userResponse access }
            reasonCode := "user_roles_unchanged"
            beforeState := some (.snapshot (snapshotPayload locked.target))
            afterState := some (.snapshot (snapshotPayload targetAfter))
            auditTargetRoleId := none }, db)
  else
    let row := User.bumpAuthz.apply locked.targetRow
    let db ← writeUserRoles db operation targetUserId changedIds now
    let db ← db.updateUser targetUserId User.bumpAuthz
    let db ← db.bumpEpoch.commit [targetUserId] (changedIds.map (fun r => (targetUserId, r)))
    let access := db.loadUserAccessView row locked.actor
    pure ({ value := { changed := true, user := userResponse access }
            reasonCode := operation.userRolesReason
            beforeState := some (.snapshot (snapshotPayload locked.target))
            afterState := some (.snapshot (snapshotPayload
              { targetAfter with authzVersion := row.authzVersion }))
            auditTargetRoleId := none }, db)

def changeUserRoles (context : AuthorizationContext) (targetUserId : Uuid) (roleIds : List Uuid)
    (operation : RoleOperation) (now : Nat) (s : Postgres) :
    Except Failure UserRoleMutationResponse × Postgres :=
  if roleIds = [] then (.error (invalidRequest "role_ids_required"), s)
  else runAudited context ("user.roles." ++ operation.value) (some targetUserId) none
    (changeUserRolesBody context targetUserId (sortIds roleIds.dedup) operation now) s

/-! ## commands on a role -/

structure RoleCreateRequest where
  key : String
  name : String
  description : String
  managementTier : Nat
  deriving DecidableEq, Repr

def newRole (id : Uuid) (request : RoleCreateRequest) : Role where
  id := id
  key := request.key
  name := request.name
  description := request.description
  managementTier := request.managementTier
  isActive := true
  isProtected := false
  isSystem := false
  isSuperAdmin := false
  version := 0
  deletedAt := none
  deletedByUserId := none

def createRoleBody (context : AuthorizationContext) (roleId : Uuid) (request : RoleCreateRequest)
    (db : Db) : Except Failure (MutationOutcome RoleMutationResponse × Db) := do
  let actorId := context.principal.userId
  let users := db.lockUsers [actorId]
  let _ ← requireCurrentLockedActorRow (users actorId) context
  let actor ← db.requireCurrentActor actorId context.principal.tokenVersion
  let decision := decideRoleCreate actor request.managementTier
  require decision.allowed (forbidden decision.reasonCode)
  require (request.key ∉ reservedRoleKeys) (conflict "reserved_role_key")
  require (db.roles.findBy? request.key = none) (conflict "role_key_exists")
  let role := newRole roleId request
  let db ← db.insertRole role
  let roleAfter := roleResponse role ∅
  pure ({ value := { changed := true, role := roleAfter }
          reasonCode := "role_created"
          beforeState := none
          afterState := some (.role roleAfter)
          auditTargetRoleId := none }, db.bumpEpoch)

def createRole (context : AuthorizationContext) (roleId : Uuid) (request : RoleCreateRequest) :
    Postgres → Except Failure RoleMutationResponse × Postgres :=
  runAudited context "role.create" none (some roleId) (createRoleBody context roleId request)

/-- the outcome of a role command that found nothing to change -/
def unchangedRole (reasonCode : String) (role : RoleResponse) :
    MutationOutcome RoleMutationResponse where
  value := { changed := false, role := role }
  reasonCode := reasonCode
  beforeState := some (.role role)
  afterState := some (.role role)
  auditTargetRoleId := none

def changedRole (reasonCode : String) (before after : RoleResponse) :
    MutationOutcome RoleMutationResponse where
  value := { changed := true, role := after }
  reasonCode := reasonCode
  beforeState := some (.role before)
  afterState := some (.role after)
  auditTargetRoleId := none

structure RoleUpdateRequest where
  name : Option String
  description : Option String
  deriving DecidableEq, Repr

def updateRoleBody (context : AuthorizationContext) (roleId : Uuid) (request : RoleUpdateRequest)
    (expectedVersion : Nat) (db : Db) :
    Except Failure (MutationOutcome RoleMutationResponse × Db) := do
  let locked ← lockSharedRoleChange db context roleId .rolesUpdate true
  requireRoleAdministration locked .update
  requireExpectedRoleVersion locked.role expectedVersion
  let roleBefore := roleResponse locked.role locked.roleBefore.permissions
  let name := request.name.getD locked.role.name
  let description := request.description.getD locked.role.description
  if name = locked.role.name ∧ description = locked.role.description then
    pure (unchangedRole "role_unchanged" roleBefore, db)
  else
    let change := Role.describe name description
    let db ← db.updateRole roleId change
    pure (changedRole "role_updated" roleBefore
      (roleResponse (change.apply locked.role) locked.roleBefore.permissions), db.bumpEpoch)

def updateRole (context : AuthorizationContext) (roleId : Uuid) (request : RoleUpdateRequest)
    (expectedVersion : Nat) : Postgres → Except Failure RoleMutationResponse × Postgres :=
  runAudited context "role.update" none (some roleId)
    (updateRoleBody context roleId request expectedVersion)

def setRoleActiveOperation (isActive : Bool) : RoleAdministrationOperation :=
  if isActive then .enable else .disable

def setRoleActiveVerb (isActive : Bool) : String := if isActive then "enable" else "disable"

def setRoleActiveBody (context : AuthorizationContext) (roleId : Uuid) (isActive : Bool)
    (expectedVersion : Nat) (db : Db) :
    Except Failure (MutationOutcome RoleMutationResponse × Db) := do
  let locked ← lockSharedRoleChange db context roleId .rolesStatusUpdate true
  requireRoleAdministration locked (setRoleActiveOperation isActive)
  requireExpectedRoleVersion locked.role expectedVersion
  let roleBefore := roleResponse locked.role locked.roleBefore.permissions
  if locked.role.isActive = isActive then
    pure (unchangedRole "role_status_unchanged" roleBefore, db)
  else
    let change := Role.withActive isActive
    let db ← db.updateRole roleId change
    let db ← bumpSharedAuthority db locked
    let db ← db.commit locked.affectedIds []
    pure (changedRole ("role_" ++ setRoleActiveVerb isActive ++ "d") roleBefore
      (roleResponse (change.apply locked.role) locked.roleBefore.permissions), db)

def setRoleActive (context : AuthorizationContext) (roleId : Uuid) (isActive : Bool)
    (expectedVersion : Nat) : Postgres → Except Failure RoleMutationResponse × Postgres :=
  runAudited context ("role." ++ setRoleActiveVerb isActive) none (some roleId)
    (setRoleActiveBody context roleId isActive expectedVersion)

def softDeleteRoleBody (context : AuthorizationContext) (roleId : Uuid) (expectedVersion now : Nat)
    (db : Db) : Except Failure (MutationOutcome RoleMutationResponse × Db) := do
  let locked ← lockSharedRoleChange db context roleId .rolesDelete true
  requireRoleAdministration locked .delete
  requireExpectedRoleVersion locked.role expectedVersion
  let roleBefore := roleResponse locked.role locked.roleBefore.permissions
  let change := Role.softDeleted now locked.actor.userId
  let holders := db.userRoles.lefts roleId
  let db ← db.updateRole roleId change
  let db := db.unassignRoles now (fun a => a.2 = roleId)
  let db ← db.revokePermissions now roleId (fun _ => true)
  let db ← bumpSharedAuthority db locked
  let db ← db.commit locked.affectedIds (holders.map (fun u => (u, roleId)))
  pure (changedRole "role_soft_deleted" roleBefore (roleResponse (change.apply locked.role) ∅), db)

def softDeleteRole (context : AuthorizationContext) (roleId : Uuid) (expectedVersion now : Nat) :
    Postgres → Except Failure RoleMutationResponse × Postgres :=
  runAudited context "role.delete" none (some roleId)
    (softDeleteRoleBody context roleId expectedVersion now)

def RoleOperation.keysAfter (operation : RoleOperation) (before requested : Finset String) :
    Finset String :=
  match operation with
  | .bind => before ∪ requested
  | .unbind => before \ requested

def writeRolePermissions (db : Db) (operation : RoleOperation) (roleId : Uuid)
    (permissionKeysById : List (Uuid × String)) (existing : Finset String) (now : Nat) :
    Except Failure Db :=
  match operation with
  | .bind =>
    db.grantPermissions roleId
      ((permissionKeysById.filter (fun p => p.2 ∉ existing)).map Prod.fst)
  | .unbind =>
    db.revokePermissions now roleId (fun p => (permissionKeysById.map Prod.fst).contains p)

def RoleOperation.rolePermissionsReason : RoleOperation → String
  | .bind => "role_permissions_bound"
  | .unbind => "role_permissions_unbound"

def changeRolePermissionsBody (context : AuthorizationContext) (roleId : Uuid)
    (requestedIds : List Uuid) (operation : RoleOperation) (expectedVersion now : Nat) (db : Db) :
    Except Failure (MutationOutcome RoleMutationResponse × Db) := do
  let locked ← lockSharedRoleChange db context roleId operation.permissionsRequired false
  let permissionKeysById := db.loadPermissionKeys requestedIds
  require (requestedIds.all (permissionKeysById.map Prod.fst).contains)
    (invalidRequest "unknown_permission_id")
  let requestedKeys := (permissionKeysById.map Prod.snd).toFinset
  require (requestedKeys ⊆ superAdminPermissionKeys)
    (invalidRequest "permission_outside_control_plane")
  let permissionKeysAfter := operation.keysAfter locked.roleBefore.permissions requestedKeys
  let replacement := { locked.roleBefore with permissions := permissionKeysAfter }
  let affectedAfter := locked.affectedBefore.map (fun s => s.withRole replacement)
  let decision := decideRolePermissionsChange operation locked.actor locked.roleBefore
    permissionKeysAfter (locked.affectedIds.contains locked.actor.userId) affectedAfter
  require decision.allowed (forbidden decision.reasonCode)
  requireExpectedRoleVersion locked.role expectedVersion
  let roleBefore := roleResponse locked.role locked.roleBefore.permissions
  if locked.roleBefore.permissions = permissionKeysAfter then
    pure (unchangedRole "role_permissions_unchanged" roleBefore, db)
  else
    let db ← writeRolePermissions db operation roleId permissionKeysById locked.permissionRows now
    let db ← db.updateRole roleId Role.bumpVersion
    let db ← bumpSharedAuthority db locked
    let db ← db.commit locked.affectedIds []
    pure (changedRole operation.rolePermissionsReason roleBefore
      (roleResponse (Role.bumpVersion.apply locked.role) permissionKeysAfter), db)

def changeRolePermissions (context : AuthorizationContext) (roleId : Uuid)
    (permissionIds : List Uuid) (operation : RoleOperation) (expectedVersion now : Nat)
    (s : Postgres) : Except Failure RoleMutationResponse × Postgres :=
  if permissionIds = [] then (.error (invalidRequest "permission_ids_required"), s)
  else runAudited context ("role.permissions." ++ operation.value) none (some roleId)
    (changeRolePermissionsBody context roleId permissionIds.dedup operation expectedVersion now) s

end PgRbac
