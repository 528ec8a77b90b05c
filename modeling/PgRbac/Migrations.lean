import PgRbac.Operator
import PgRbac.Lib.Reshape

/-!
# The migrations

Revision 0001 has users without passwords, roles without a description or a deletion, and no system
roles.  `0002_system_roles` and `0004_password_auth` change the data as well as the tables, in one
transaction; `0003_business_audit` adds a table.

* `LegacyDb`            a database of revision 0001;
* `upgrade0002`, `upgrade0004`    the two revisions, `RolesDb` between them;
* `upgrade`             from revision 0001 to the tables of the application;
* `upgradeStored`       the same, with counters of type `bigint`;
* `downgrade0004`, `downgrade0002`, `downgrade`    and back.
-/

set_option linter.unusedVariables false

namespace PgRbac.Migrations

open Fallible Store

/-! ## revision 0001 -/

structure LegacyUser where
  id : Uuid
  userName : String
  isActive : Bool
  isProtected : Bool
  tokenVersion : Nat
  authzVersion : Nat
  deletedAt : Option Nat
  deriving DecidableEq, Repr

def LegacyUser.checks (u : LegacyUser) : Bool :=
  userNameFormat u.userName && (u.deletedAt.isNone || !u.isActive)

structure LegacyRole where
  id : Uuid
  key : String
  name : String
  managementTier : Nat
  isActive : Bool
  isProtected : Bool
  isSystem : Bool
  isSuperAdmin : Bool
  version : Nat
  deriving DecidableEq, Repr

def LegacyRole.checks (r : LegacyRole) : Bool :=
  decide (r.managementTier ≤ 1000) &&
  (decide (r.managementTier < 1000) || r.isSuperAdmin) &&
  (r.isSystem == r.isProtected) &&
  (!r.isSuperAdmin || (r.isSystem && r.isProtected && r.isActive && r.managementTier == 1000))

abbrev LegacyUsers := Table LegacyUser.id LegacyUser.userName LegacyUser.checks
abbrev LegacyRoles := Table LegacyRole.id LegacyRole.key LegacyRole.checks
abbrev Permissions := Table Permission.id Permission.key (fun _ => true)

structure LegacyTables where
  users : LegacyUsers
  roles : LegacyRoles
  permissions : Permissions
  rolePermissions : Links Uuid Uuid
  userRoles : Links Uuid Uuid
  epoch : Nat

/-- with the constraints over several rows -/
structure LegacyDb extends LegacyTables where
  /-- `uq_roles_single_super_admin` -/
  singleSuperAdmin : ∀ r ∈ roles.rows, ∀ r' ∈ roles.rows, r.isSuperAdmin = true →
    r'.isSuperAdmin = true → r = r'
  /-- the foreign keys of the live rows -/
  granted : ∀ r p, rolePermissions.Linked r p →
    (roles.get? r).isSome ∧ (permissions.get? p).isSome
  assigned : ∀ u r, userRoles.Linked u r → (users.get? u).isSome ∧ (roles.get? r).isSome
  /-- `ct_user_roles_max_ten_live` -/
  limit : ∀ u, (userRoles.rights u).length ≤ maxRolesPerUser

/-! ## `0002_system_roles` -/

def newPermissions : List PermissionKey :=
  [.permissionsRead, .rolesUpdate, .rolesStatusUpdate, .rolesDelete, .rolesPermissionsBind,
    .rolesPermissionsUnbind, .usersSessionsRevoke, .usersCreate, .registrationConfigure]

/-- `SYSTEM_ROLE_SPECS[key]["permissions"]`, sorted -/
def seededKeys : SystemRoleKey → List PermissionKey
  | .superAdmin =>
    [.permissionsRead, .projectsRead, .projectsUpdate, .registrationConfigure, .rolesAssign,
      .rolesCreate, .rolesDelete, .rolesPermissionsBind, .rolesPermissionsUnbind, .rolesRead,
      .rolesRevoke, .rolesStatusUpdate, .rolesUpdate, .usersCreate, .usersRead,
      .usersSessionsRevoke, .usersStatusUpdate]
  | .admin =>
    [.permissionsRead, .projectsRead, .projectsUpdate, .rolesAssign, .rolesCreate,
      .rolesPermissionsBind, .rolesPermissionsUnbind, .rolesRead, .rolesRevoke, .rolesStatusUpdate,
      .rolesUpdate, .usersCreate, .usersRead, .usersSessionsRevoke, .usersStatusUpdate]
  | .user => []

/-- the columns that are added -/
def widenRole (r : LegacyRole) : Role where
  id := r.id
  key := r.key
  name := r.name
  description := ""
  managementTier := r.managementTier
  isActive := r.isActive
  isProtected := r.isProtected
  isSystem := r.isSystem
  isSuperAdmin := r.isSuperAdmin
  version := r.version
  deletedAt := none
  deletedByUserId := none

/-- the constraints while `system_protection_match` is dropped and the new ones are not yet there -/
def openChecks (r : Role) : Bool :=
  decide (r.managementTier ≤ 1000) &&
  (decide (r.managementTier < 1000) || r.isSuperAdmin) &&
  (!r.isSuperAdmin || (r.isSystem && r.isProtected && r.isActive && r.managementTier == 1000))

abbrev OpenRoles := Table Role.id Role.key openChecks

theorem openChecks_widenRole (r : LegacyRole) (h : r.checks = true) :
    openChecks (widenRole r) = true := by
  unfold LegacyRole.checks at h
  simp only [Bool.and_eq_true] at h
  simp only [openChecks, widenRole, Bool.and_eq_true]
  exact ⟨h.1.1, h.2⟩

def openRoles (roles : LegacyRoles) : OpenRoles :=
  roles.reshape widenRole (fun _ => rfl) (fun _ => rfl) openChecks_widenRole

/-- a permission that is not deleted -/
def Permission.isLive (p : Permission) : Bool := p.deletedAt.isNone

def revive : Patch Permission.id Permission.key where
  apply := fun p => { p with deletedAt := none }
  key_eq := fun _ => rfl
  uniq_eq := fun _ => rfl

/-- one row of `INSERT INTO permissions … ON CONFLICT (key) DO UPDATE` -/
def restorePermission (permissions : Permissions) (k : PermissionKey) : Except Failure Permissions :=
  match permissions.findBy? k.value with
  | some _ => orViolation "permissions" (permissions.update? (fun p => p.key = k.value) revive)
  | none => orViolation "permissions" (permissions.insert? (seededPermission k))

/-- the catalog's name and description -/
def nameAs (spec : SystemRoleSpec) : RolePatch where
  apply := fun r => { r with
    name := spec.name
    description := spec.description }
  key_eq := fun _ => rfl
  uniq_eq := fun _ => rfl

/-- `_ensure_system_role`: the roles and the id -/
def ensureSystemRole (roles : OpenRoles) (k : SystemRoleKey) : Except Failure (OpenRoles × Uuid) :=
  match roles.findBy? k.value with
  | none => do
    require ((seededRole k 0).isSuperAdmin = false ∨ ∀ r ∈ roles.rows, r.isSuperAdmin = false)
      (.integrity "uq_roles_single_super_admin")
    let roles' ← orViolation "roles" (roles.insert? (seededRole k 0))
    pure (roles', systemRoleId k)
  | some existing => do
    require (existing.managementTier = (systemRoleSpecs k).managementTier ∧ existing.isActive = true ∧
        existing.isProtected = (systemRoleSpecs k).isProtected ∧ existing.isSystem = true ∧
        existing.isSuperAdmin = (systemRoleSpecs k).isSuperAdmin)
      (.runtimeError ("role key '" ++ k.value ++ "' already exists with a non-system shape; " ++
        "resolve the collision before upgrading"))
    let roles' ← orViolation "roles" (roles.modify? existing.id (nameAs (systemRoleSpecs k)))
    pure (roles', existing.id)

/-- the id of the live permission with this key -/
def livePermissionId (permissions : Permissions) (k : PermissionKey) : Option Uuid :=
  ((permissions.findBy? k.value).filter Permission.isLive).map Permission.id

def replaceSystemRoleGrants (now : Nat) (permissions : Permissions) (grants : Links Uuid Uuid)
    (roleId : Uuid) (keys : List PermissionKey) : Except Failure (Links Uuid Uuid) := do
  let missing := keys.filter fun k => (livePermissionId permissions k).isNone
  require (missing = [])
    (.runtimeError ("permission catalog is incomplete: " ++
      ", ".intercalate (missing.map PermissionKey.value)))
  let desired := keys.filterMap (livePermissionId permissions)
  let kept := grants.tombstone now fun grant => grant.1 = roleId && !desired.contains grant.2
  pure (desired.foldl (fun grants p => grants.linkMissing roleId p) kept)

def LegacyUser.isLive (u : LegacyUser) : Bool := u.deletedAt.isNone

def bumpLegacyAuthz : Patch LegacyUser.id LegacyUser.userName where
  apply := fun u => { u with authzVersion := u.authzVersion + 1 }
  key_eq := fun _ => rfl
  uniq_eq := fun _ => rfl

/-- a database of revision 0002 or 0003 -/
structure RolesDb where
  users : LegacyUsers
  roles : Table Role.id Role.key Role.checks
  permissions : Permissions
  rolePermissions : Links Uuid Uuid
  userRoles : Links Uuid Uuid
  epoch : Nat

/-- `upgrade` of 0002: the database, and the users whose assignments were written -/
def upgrade0002 (now : Nat) (old : LegacyDb) : Except Failure (RolesDb × List Uuid) := do
  let permissions ← newPermissions.foldlM restorePermission old.permissions
  let superAdmin ← ensureSystemRole (openRoles old.roles) .superAdmin
  let admin ← ensureSystemRole superAdmin.1 .admin
  let user ← ensureSystemRole admin.1 .user
  let grants₁ ← replaceSystemRoleGrants now permissions old.rolePermissions superAdmin.2
    (seededKeys .superAdmin)
  let grants₂ ← replaceSystemRoleGrants now permissions grants₁ admin.2 (seededKeys .admin)
  let grants₃ ← replaceSystemRoleGrants now permissions grants₂ user.2 (seededKeys .user)
  let inserted := ((old.users.rows.filter LegacyUser.isLive).map LegacyUser.id).filter fun u =>
    !decide (old.userRoles.Linked u user.2)
  let users ← orViolation "users" (old.users.update? (fun u => inserted.contains u.id) bumpLegacyAuthz)
  let roles ← orViolation "roles" user.1.recheck?
  pure ({ users := users
          roles := roles
          permissions := permissions
          rolePermissions := grants₃
          userRoles := inserted.foldl (fun links u => links.linkMissing u user.2) old.userRoles
          epoch := old.epoch + 1 }, inserted)

/-! ## `0004_password_auth` -/

/-- the columns that are added -/
def widenUser (u : LegacyUser) : User where
  id := u.id
  userName := u.userName
  isActive := u.isActive
  isProtected := u.isProtected
  tokenVersion := u.tokenVersion
  authzVersion := u.authzVersion
  passwordHash := none
  mustChangePassword := false
  passwordChangedAt := none
  deletedAt := u.deletedAt

theorem checks_widenUser (u : LegacyUser) (h : u.checks = true) : (widenUser u).checks = true := by
  unfold LegacyUser.checks at h
  rw [Bool.and_eq_true] at h
  simp only [User.checks, widenUser, h.1, h.2, Option.isNone_none, Bool.not_false, Bool.and_self,
    Bool.true_or, Bool.or_true]

/-- `PASSWORD_RESET_SYSTEM_ROLES` -/
def resetRoles : List String := ["admin", "super_admin"]

/-- the system roles that may reset passwords -/
def isResetRole (r : Role) : Bool := resetRoles.contains r.key && r.isSystem && r.deletedAt.isNone

/-- the live users with one of those roles -/
def holdsResetRole (roles : Table Role.id Role.key Role.checks) (userRoles : Links Uuid Uuid)
    (u : Uuid) : Bool :=
  (userRoles.rights u).any fun r =>
    (roles.get? r).any fun role => resetRoles.contains role.key && role.deletedAt.isNone

/-- `upgrade` of 0004: the database, and the users that were written -/
def upgrade0004 (mid : RolesDb) : Except Failure (Db × List Uuid) := do
  let permissions ← restorePermission mid.permissions .usersPasswordReset
  let targets := (mid.roles.rows.filter isResetRole).map Role.id
  let granted := (livePermissionId permissions .usersPasswordReset).toList
  let roles ← orViolation "roles" (mid.roles.update? isResetRole Role.bumpVersion)
  let touched := ((mid.users.rows.filter LegacyUser.isLive).map LegacyUser.id).filter
    (holdsResetRole mid.roles mid.userRoles)
  let widened : Table User.id User.userName User.checks :=
    mid.users.reshape widenUser (fun _ => rfl) (fun _ => rfl) checks_widenUser
  let users ← orViolation "users" (widened.update? (fun u => touched.contains u.id) User.bumpAuthz)
  pure ({ users := users
          roles := roles
          permissions := permissions
          rolePermissions := granted.foldl (fun links p =>
            targets.foldl (fun links r => links.linkMissing r p) links) mid.rolePermissions
          userRoles := mid.userRoles
          rbacState := ⟨mid.epoch + 1, true⟩ }, touched)

/-- `alembic upgrade head` from revision 0001: one transaction, with the deferred triggers of the
rows that it wrote -/
def upgrade (now : Nat) (old : LegacyDb) : Except Failure Db := do
  let first ← upgrade0002 now old
  let second ← upgrade0004 first.1
  checkAll second.1.assertUserRoleLimit first.2
  checkAll second.1.assertUserHasBaseRole second.2
  pure second.1

/-- the same in columns of type `bigint`: the counters only grow, and a statement that makes one too
large for its column fails -/
def upgradeStored (now : Nat) (old : LegacyDb) : Except Failure Db := do
  let db ← upgrade now old
  require (db.fits = true) (.database "bigint out of range")
  pure db

/-! ## the way back -/

/-- the columns that are left -/
def narrowUser (u : User) : LegacyUser where
  id := u.id
  userName := u.userName
  isActive := u.isActive
  isProtected := u.isProtected
  tokenVersion := u.tokenVersion
  authzVersion := u.authzVersion
  deletedAt := u.deletedAt

theorem checks_narrowUser (u : User) (h : u.checks = true) : (narrowUser u).checks = true := by
  unfold User.checks at h
  simp only [Bool.and_eq_true] at h
  simp only [LegacyUser.checks, narrowUser, Bool.and_eq_true]
  exact h.1.1

def narrowUsers (users : Table User.id User.userName User.checks) : LegacyUsers :=
  users.reshape narrowUser (fun _ => rfl) (fun _ => rfl) checks_narrowUser

def narrowRole (r : Role) : LegacyRole where
  id := r.id
  key := r.key
  name := r.name
  managementTier := r.managementTier
  isActive := r.isActive
  isProtected := r.isProtected
  isSystem := r.isSystem
  isSuperAdmin := r.isSuperAdmin
  version := r.version

/-- the grants of the permissions with these keys, tombstones included -/
def grantsAny (permissions : Permissions) (keys : List PermissionKey) (grant : Uuid × Uuid) : Bool :=
  (permissions.get? grant.2).any fun p => (keys.map PermissionKey.value).contains p.key

/-- `downgrade` of 0004: the database, and the users that were written -/
def downgrade0004 (db : Db) : Except Failure (RolesDb × List Uuid) := do
  let narrowed := narrowUsers db.users
  let touched := ((narrowed.rows.filter LegacyUser.isLive).map LegacyUser.id).filter
    (holdsResetRole db.roles db.userRoles)
  let users ← orViolation "users" (narrowed.update? (fun u => touched.contains u.id) bumpLegacyAuthz)
  let roles ← orViolation "roles" (db.roles.update? isResetRole Role.bumpVersion)
  pure ({ users := users
          roles := roles
          permissions := db.permissions.remove fun p => p.key == PermissionKey.usersPasswordReset.value
          rolePermissions := db.rolePermissions.remove
            (grantsAny db.permissions [.usersPasswordReset])
          userRoles := db.userRoles
          epoch := db.rbacState.epoch + 1 }, touched)

/-- `roles.key IN ('super_admin', 'admin', 'user')` -/
def hasSystemKey (r : Role) : Bool := systemRoleKeys.contains r.key

/-- the constraints of revision 0001 on the columns that stay -/
def narrowedChecks (r : Role) : Bool := (narrowRole r).checks

def narrowRoles (roles : Table Role.id Role.key narrowedChecks) : LegacyRoles :=
  roles.reshape narrowRole (fun _ => rfl) (fun _ => rfl) (fun _ h => h)

/-- `downgrade` of 0002 -/
def downgrade0002 (mid : RolesDb) : Except Failure LegacyTables := do
  let ofSystem := fun roleId => (mid.roles.get? roleId).any hasSystemKey
  let grants := mid.rolePermissions.remove fun grant => ofSystem grant.1
  let remaining := mid.roles.remove hasSystemKey
  let kept : Table Role.id Role.key narrowedChecks ← orViolation "roles" remaining.recheck?
  pure { users := mid.users
         roles := narrowRoles kept
         permissions := mid.permissions.remove fun p =>
           (newPermissions.map PermissionKey.value).contains p.key
         rolePermissions := grants.remove (grantsAny mid.permissions newPermissions)
         userRoles := mid.userRoles.remove fun assignment => ofSystem assignment.2
         epoch := mid.epoch }

/-- the tables with the columns that 0004 adds -/
def RolesDb.widen (mid : RolesDb) : Db where
  users := mid.users.reshape widenUser (fun _ => rfl) (fun _ => rfl) checks_widenUser
  roles := mid.roles
  permissions := mid.permissions
  rolePermissions := mid.rolePermissions
  userRoles := mid.userRoles
  rbacState := ⟨mid.epoch, true⟩

/-- `alembic downgrade` to revision 0001, in one transaction: 0002 has the base role of the users
that 0004 wrote checked at once.  The role limit, which the commit checks for deleted assignments, is
left out: there are only fewer of them -/
def downgrade (db : Db) : Except Failure LegacyTables := do
  let first ← downgrade0004 db
  checkAll first.1.widen.assertUserHasBaseRole first.2
  downgrade0002 first.1

/-- what revision 0001 itself leaves: its catalog and nothing else -/
def freshLegacy : LegacyDb where
  users := Table.empty
  roles := Table.empty
  permissions :=
    { rows := (permissionCatalog.take 8).map seededPermission
      key_nodup := by decide
      uniq_nodup := by decide
      checked := by simp }
  rolePermissions := Links.empty
  userRoles := Links.empty
  epoch := 0
  singleSuperAdmin := fun r hr => nomatch hr
  granted := fun r p h => nomatch h
  assigned := fun u r h => nomatch h
  limit := fun u => Nat.zero_le _

end PgRbac.Migrations
