import PgRbac.Access

/-!
# The operator scripts and the migrated database

`sql/bootstrap_super_admin.sql` and `sql/handover_super_admin.sql` as transactions on the tables,
and the state that `alembic upgrade head` leaves: the permission catalog, the three system roles
with their grants, no user.
-/

set_option linter.unusedVariables false

namespace PgRbac

open Fallible Store

/-! ## the migrated database -/

/-- `uuid5(NAMESPACE_URL, "fastapi-rbac-permission:" + key)` -/
def permissionId : PermissionKey → Uuid
  | .permissionsRead => 0x5b2439c329fe592d81a5df1546676520
  | .rolesRead => 0x341bf0a721a8538b9c11a28f67527af9
  | .rolesCreate => 0x563b32585ea753caac527aee0b7ba808
  | .rolesUpdate => 0x543740100c94540d90afcaa2386f7c5a
  | .rolesStatusUpdate => 0x3a71da29c0825839a375fb64d4e86d45
  | .rolesDelete => 0x3126261e9e165fdeb6e3057c4637c0ef
  | .rolesAssign => 0xf7a29bbaabac594fbf5132d6209999cc
  | .rolesRevoke => 0x2abca9a3f37d5dc1a6aa390e131dc2b4
  | .rolesPermissionsBind => 0x46efbd6d0b5257f88f879c7e93205332
  | .rolesPermissionsUnbind => 0x30d61305c0b85ccda7619803dbad476d
  | .usersRead => 0xa1fb7e9808005f5b9ac1460e620662e0
  | .usersCreate => 0x9c3161dcef5b56f290ff1e6a9c515669
  | .usersStatusUpdate => 0x8ab5564cd0ae5a368f3995979c9ae1f1
  | .usersPasswordReset => 0x28b45894e345ba78bc3b395059fb94b
  | .usersSessionsRevoke => 0xe243c5596d2f5c568b6b6d0217f19183
  | .registrationConfigure => 0x3772d6c0cf085181afd0a5884a6f5d93
  | .projectsRead => 0x712105dfc90650daa6874ae3e9046409
  | .projectsUpdate => 0x772c07e1bdf55c7890806719dec49f8

/-- `uuid5(NAMESPACE_URL, "fastapi-rbac-system-role:" + key)` -/
def systemRoleId : SystemRoleKey → Uuid
  | .superAdmin => 0xc3bca68c1985d2b9e6108757c883859
  | .admin => 0xa1a087d73ac35d88a9eab424794aa436
  | .user => 0x99b425a479f15cc19ec419ff0c141fac

/-- the catalog of revisions 0001, 0002 and 0004, in that order -/
def permissionCatalog : List PermissionKey :=
  [.rolesRead, .rolesCreate, .rolesAssign, .rolesRevoke, .usersRead, .usersStatusUpdate,
    .projectsRead, .projectsUpdate, .permissionsRead, .rolesUpdate, .rolesStatusUpdate,
    .rolesDelete, .rolesPermissionsBind, .rolesPermissionsUnbind, .usersSessionsRevoke,
    .usersCreate, .registrationConfigure, .usersPasswordReset]

def seededPermission (k : PermissionKey) : Permission := ⟨permissionId k, k.value, none⟩

/-- revision 0004 raises the version of the two roles it grants the reset permission -/
def seededRole (k : SystemRoleKey) (version : Nat) : Role :=
  let spec := systemRoleSpecs k
  { id := systemRoleId k
    key := k.value
    name := spec.name
    description := spec.description
    managementTier := spec.managementTier
    isActive := true
    isProtected := spec.isProtected
    isSystem := true
    isSuperAdmin := spec.isSuperAdmin
    version := version
    deletedAt := none
    deletedByUserId := none }

def seededGrants : List (Link Uuid Uuid) :=
  permissionCatalog.map (fun k => ⟨systemRoleId .superAdmin, permissionId k, none⟩) ++
    (permissionCatalog.filter (fun k => k.value ∈ adminPermissionKeys)).map
      (fun k => ⟨systemRoleId .admin, permissionId k, none⟩)

def migratedDb : Db where
  users := Table.empty
  roles :=
    { rows := [seededRole .superAdmin 1, seededRole .admin 1, seededRole .user 0]
      key_nodup := by decide
      uniq_nodup := by decide
      checked := by decide }
  permissions :=
    { rows := permissionCatalog.map seededPermission
      key_nodup := by decide
      uniq_nodup := by decide
      checked := by simp }
  rolePermissions :=
    { rows := seededGrants
      live_nodup := by decide +kernel }
  userRoles := Links.empty
  rbacState := ⟨2, true⟩

def migrated : Postgres := ⟨migratedDb, []⟩

/-! ## bootstrap -/

/-- `expected_permission_keys` of the bootstrap script -/
def bootstrapPermissionKeys : Finset String :=
  ["permissions:read", "projects:read", "projects:update", "registration:configure",
    "roles:assign", "roles:create", "roles:delete", "roles:permissions:bind",
    "roles:permissions:unbind", "roles:read", "roles:revoke", "roles:status:update",
    "roles:update", "users:create", "users:password:reset", "users:read",
    "users:sessions:revoke", "users:status:update"].toFinset

/-- the comparison of a loaded role with the migrated system-role contract -/
def matchesRoleContract (role : Role) (k : SystemRoleKey) : Bool :=
  let spec := systemRoleSpecs k
  role.key == k.value && role.name == spec.name && role.description == spec.description &&
    role.managementTier == spec.managementTier && role.isActive &&
    role.isProtected == spec.isProtected && role.isSystem &&
    role.isSuperAdmin == spec.isSuperAdmin && role.deletedAt.isNone && role.deletedByUserId.isNone

def bootstrapEvent (candidateId superAdminRoleId userRoleId : Uuid) (assigned : Bool) :
    RbacAuditEvent where
  actorUserId := candidateId
  targetUserId := some candidateId
  targetRoleId := some superAdminRoleId
  action := "super_admin.bootstrap"
  decision := "allowed"
  reasonCode :=
    if assigned then "explicit_super_admin_bootstrap" else "super_admin_already_bootstrapped"
  source := .operator
  beforeState := none
  afterState := some (.bootstrap candidateId superAdminRoleId userRoleId assigned)
  requestId := "bootstrap:super_admin:" ++ candidateId.text

def bootstrapBody (candidateUserId : Uuid) (db : Db) :
    Except Failure (Unit × Db × List AuditRow) := do
  require (candidateUserId.isV4) (.database "super_admin_user_id must be a UUIDv4 value")
  let superAdminRole ← orRaise (db.roles.findBy? "super_admin")
    (.database "super_admin system role is missing; run migrations")
  let userRole ← orRaise (db.roles.findBy? "user")
    (.database "user system role is missing; run migrations")
  let candidate ← orRaise (db.users.get? candidateUserId)
    (.database "target user account does not exist")
  require (candidate.isActive ∧ ¬ candidate.isProtected ∧ candidate.deletedAt = none)
    (.database "target user must be active, not system-protected, and not deleted")
  require (matchesRoleContract superAdminRole .superAdmin)
    (.database "super_admin role does not match the migrated system-role contract")
  require (matchesRoleContract userRole .user)
    (.database "user role does not match the migrated system-role contract")
  require (db.rolePermissionKeys superAdminRole.id = bootstrapPermissionKeys)
    (.database "super_admin permission grants do not match the versioned allowlist")
  require (db.rolePermissions.rights userRole.id = [])
    (.database "user role must not contain permission grants")
  require (db.userRoles.Linked candidate.id userRole.id)
    (.database "target user lacks the mandatory user role")
  let holders := db.userRoles.lefts superAdminRole.id
  require (holders.length ≤ 1)
    (.database "multiple super_admin assignments exist; bootstrap refused")
  require (holders.all fun holder => holder = candidate.id)
    (.database "a different super_admin already exists; bootstrap refused")
  if holders ≠ [] then
    pure ((), db, [.rbac (bootstrapEvent candidate.id superAdminRole.id userRole.id false)])
  else
    require ((db.userRoles.rights candidate.id).length < 10)
      (.database "target user already has 10 live role assignments")
    let db ← db.assignRoles candidate.id [superAdminRole.id]
    let db ← db.updateUser candidate.id User.bumpAuthz
    let db ← db.bumpEpoch.commit [candidate.id] [(candidate.id, superAdminRole.id)]
    pure ((), db, [.rbac (bootstrapEvent candidate.id superAdminRole.id userRole.id true)])

def bootstrapSuperAdmin (candidateUserId : Uuid) : Postgres → Except Failure Unit × Postgres :=
  transact (bootstrapBody candidateUserId) (fun _ => [])

/-! ## handover -/

/-- a new version of the authority and an end of every login, for both accounts -/
def User.transfer : UserPatch where
  apply u := { u with authzVersion := u.authzVersion + 1, tokenVersion := u.tokenVersion + 1 }
  key_eq _ := rfl
  uniq_eq _ := rfl

def handoverEvent (oldUserId newUserId superRoleId : Uuid) : RbacAuditEvent where
  actorUserId := oldUserId
  targetUserId := some newUserId
  targetRoleId := some superRoleId
  action := "super_admin.transfer"
  decision := "allowed"
  reasonCode := "operator_transfer"
  source := .operator
  beforeState := some (.superAdmin oldUserId)
  afterState := some (.superAdmin newUserId)
  requestId := "operator:super_admin_transfer:" ++ newUserId.text

/-- a live assignment of the live and active `user` role -/
def hasActiveUserRole (db : Db) (userId : Uuid) : Bool :=
  (db.assignedRoles userId false).any (fun r => r.key == "user")

def handoverBody (oldUserId newUserId : Uuid) (now : Nat) (db : Db) :
    Except Failure (Unit × Db × List AuditRow) := do
  require (oldUserId ≠ newUserId) (.database "two different, existing user IDs are required")
  require (oldUserId.isV4 ∧ newUserId.isV4) (.database "both user IDs must be UUIDv4 values")
  let oldHolder ← orRaise (db.users.get? oldUserId)
    (.database "both user accounts must already exist")
  let newHolder ← orRaise (db.users.get? newUserId)
    (.database "both user accounts must already exist")
  require (oldHolder.isActive ∧ oldHolder.deletedAt = none ∧ newHolder.isActive ∧
      ¬ newHolder.isProtected ∧ newHolder.deletedAt = none)
    (.database "both accounts must be active and the target unprotected")
  let superRole ← orRaise (db.roles.findBy? "super_admin")
    (.database "super_admin system role does not match the migrated contract")
  require (superRole.isSystem ∧ superRole.isProtected ∧ superRole.isSuperAdmin ∧
      superRole.isActive ∧ superRole.deletedAt = none ∧ superRole.managementTier = 1000)
    (.database "super_admin system role does not match the migrated contract")
  require (db.roles.findBy? "user" ≠ none) (.database "mandatory user system role is missing")
  require ((db.userRoles.lefts superRole.id).length = 1 ∧
      db.userRoles.Linked oldUserId superRole.id)
    (.database "the expected current user is not the sole super_admin")
  require (hasActiveUserRole db oldUserId ∧ hasActiveUserRole db newUserId)
    (.database "both accounts must retain the mandatory user role")
  require ((db.userRoles.rights newUserId).length < 10)
    (.database "target already has 10 live roles")
  let db := db.unassignRoles now (fun a => a.1 = oldUserId && a.2 = superRole.id)
  let db ← db.assignRoles newUserId [superRole.id]
  let db ← db.updateUsers (fun u => u.id = oldUserId || u.id = newUserId) User.transfer
  let db ← db.bumpEpoch.commit [oldUserId, newUserId]
    [(oldUserId, superRole.id), (newUserId, superRole.id)]
  pure ((), db, [.rbac (handoverEvent oldUserId newUserId superRole.id)])

def handoverSuperAdmin (oldUserId newUserId : Uuid) (now : Nat) :
    Postgres → Except Failure Unit × Postgres :=
  transact (handoverBody oldUserId newUserId now) (fun _ => [])

end PgRbac
