import PgRbac.Lib.Except
import PgRbac.Lib.Links
import PgRbac.Lib.Table
import PgRbac.Domain

/-!
# The PostgreSQL schema

The tables of `alembic/versions` (0001, 0002, 0004) with their row checks, unique indexes, foreign
keys and triggers, and the statements the application issues on them.  A statement either yields
the next database or the failure the database reports.

* `User.checks`, `Role.checks`    the CHECK constraints of one row, but for the shape and the length
                                  of a password hash, which every hash of the library has;
* `Db`                            the tables; `Db.liveUser?`, `Db.liveRole?` the rows not deleted;
* `Db.fits`                       the counters within their `bigint` columns.  They are natural
                                  numbers here; only the role requests and the upgrade ask for it;
* `Db.insertUser`, …, `Db.unassignRoles`   the statements, with their immediate triggers;
* `Db.commit`                     the deferred constraint triggers of the rows a transaction wrote.
-/

set_option linter.unusedVariables false

namespace PgRbac

open Fallible Store

/-! ## failures -/

structure RbacError where
  statusCode : Nat
  businessCode : Nat
  messageKey : String
  reasonCode : String
  deriving DecidableEq, Repr

/-- how a command ends without a value -/
inductive Failure where
  | rbac (e : RbacError)
  | invalidCredentials
  | valueError (text : String)
  | runtimeError (text : String)
  | integrity (constraint : String)
  | database (text : String)
  deriving DecidableEq, Repr

def unauthenticated (reasonCode : String) : Failure :=
  .rbac ⟨401, 401001, "error.unauthenticated", reasonCode⟩

def notFound (reasonCode : String) : Failure :=
  .rbac ⟨404, 404001, "error.not_found", reasonCode⟩

def forbidden (reasonCode : String) : Failure :=
  .rbac ⟨403, 403001, "error.forbidden", reasonCode⟩

def passwordChangeRequired (reasonCode : String) : Failure :=
  .rbac ⟨403, 403002, "error.password_change_required", reasonCode⟩

def conflict (reasonCode : String) : Failure :=
  .rbac ⟨409, 409001, "error.conflict", reasonCode⟩

def staleResourceVersion (reasonCode : String) : Failure :=
  .rbac ⟨409, 409002, "error.stale_resource_version", reasonCode⟩

def unavailable (reasonCode : String) : Failure :=
  .rbac ⟨503, 503001, "error.service_unavailable", reasonCode⟩

def invalidRequest (reasonCode : String) : Failure :=
  .rbac ⟨400, 400001, "error.bad_request", reasonCode⟩

/-! ## rows -/

/-- `^[A-Za-z0-9_]{3,32}$` -/
def userNameFormat (s : String) : Bool :=
  decide (3 ≤ s.toList.length) && decide (s.toList.length ≤ 32) &&
    s.toList.all (fun c => c.isAlphanum || c == '_')

structure User where
  id : Uuid
  userName : String
  isActive : Bool
  isProtected : Bool
  tokenVersion : Nat
  authzVersion : Nat
  passwordHash : Option String
  mustChangePassword : Bool
  passwordChangedAt : Option Nat
  deletedAt : Option Nat
  deriving DecidableEq, Repr

namespace User

def checks (u : User) : Bool :=
  userNameFormat u.userName &&
  (u.deletedAt.isNone || !u.isActive) &&
  ((u.passwordHash.isNone && u.passwordChangedAt.isNone && !u.mustChangePassword) ||
    (u.passwordHash.isSome && u.passwordChangedAt.isSome)) &&
  (u.deletedAt.isNone || u.passwordHash.isNone)

end User

structure Permission where
  id : Uuid
  key : String
  deletedAt : Option Nat
  deriving DecidableEq, Repr

structure Role where
  id : Uuid
  key : String
  name : String
  description : String
  managementTier : Nat
  isActive : Bool
  isProtected : Bool
  isSystem : Bool
  isSuperAdmin : Bool
  version : Nat
  deletedAt : Option Nat
  deletedByUserId : Option Uuid
  deriving DecidableEq, Repr

namespace Role

def checks (r : Role) : Bool :=
  decide (r.managementTier ≤ 1000) &&
  (decide (r.managementTier < 1000) || r.isSuperAdmin) &&
  (r.isSystem || (decide (1 ≤ r.managementTier) && decide (r.managementTier ≤ 999))) &&
  (!r.isProtected || r.isSystem) &&
  (!r.isSystem || (r.isActive && r.deletedAt.isNone)) &&
  (r.deletedAt.isNone || !r.isActive) &&
  (r.deletedByUserId.isNone || r.deletedAt.isSome) &&
  (!r.isSuperAdmin || (r.isSystem && r.isProtected && r.isActive && r.managementTier == 1000 &&
    r.key == "super_admin" && r.deletedAt.isNone)) &&
  (r.key != "super_admin" || (r.isSystem && r.isProtected && r.isSuperAdmin && r.isActive &&
    r.managementTier == 1000 && r.deletedAt.isNone)) &&
  (r.key != "admin" || (r.isSystem && !r.isProtected && !r.isSuperAdmin && r.isActive &&
    r.managementTier == 500 && r.deletedAt.isNone)) &&
  (r.key != "user" || (r.isSystem && !r.isProtected && !r.isSuperAdmin && r.isActive &&
    r.managementTier == 0 && r.deletedAt.isNone))

end Role

structure RbacState where
  epoch : Nat
  publicRegistrationEnabled : Bool
  deriving DecidableEq, Repr

/-! ## the database -/

/-- the tables, without the two append-only audit tables; the row of `rbac_state` cannot be
removed -/
structure Db where
  users : Table User.id User.userName User.checks
  roles : Table Role.id Role.key Role.checks
  permissions : Table Permission.id Permission.key (fun _ => true)
  rolePermissions : Links Uuid Uuid
  userRoles : Links Uuid Uuid
  rbacState : RbacState

/-- the largest value of a `bigint` column -/
def bigintMax : Nat := 9223372036854775807

def Db.fits (db : Db) : Bool :=
  decide (db.rbacState.epoch ≤ bigintMax) &&
    db.users.rows.all (fun u =>
      decide (u.tokenVersion ≤ bigintMax) && decide (u.authzVersion ≤ bigintMax)) &&
    db.roles.rows.all (fun r => decide (r.version ≤ bigintMax))

theorem Db.fits_iff {db : Db} : db.fits = true ↔ db.rbacState.epoch ≤ bigintMax ∧
    (∀ u ∈ db.users.rows, u.tokenVersion ≤ bigintMax ∧ u.authzVersion ≤ bigintMax) ∧
    ∀ r ∈ db.roles.rows, r.version ≤ bigintMax := by
  simp only [Db.fits, Bool.and_eq_true, List.all_eq_true, decide_eq_true_eq, and_assoc]

abbrev UserPatch := Patch User.id User.userName
abbrev RolePatch := Patch Role.id Role.key

def Violation.failure (table : String) : Violation → Failure
  | .primaryKey => .integrity ("pk_" ++ table)
  | .uniqueColumn =>
    .integrity (if table = "users" then "uq_users_user_name" else "uq_" ++ table ++ "_key")
  | .check => .integrity ("ck_" ++ table)

/-- the result of a statement on one table -/
def orViolation {α : Type} (table : String) : Except Violation α → Except Failure α
  | .ok a => .ok a
  | .error v => .error (Violation.failure table v)

@[simp] theorem orViolation_ok {α : Type} (table : String) (x : Except Violation α) (a : α) :
    orViolation table x = .ok a ↔ x = .ok a := by
  cases x <;> simp [orViolation]

namespace Db

def liveUser? (db : Db) (id : Uuid) : Option User :=
  (db.users.get? id).filter (fun u => u.deletedAt.isNone)

def liveRole? (db : Db) (id : Uuid) : Option Role :=
  (db.roles.get? id).filter (fun r => r.deletedAt.isNone)

def livePermission? (db : Db) (id : Uuid) : Option Permission :=
  (db.permissions.get? id).filter (fun p => p.deletedAt.isNone)

def isSystemRole (db : Db) (id : Uuid) : Bool :=
  match db.roles.get? id with
  | some r => r.isSystem
  | none => false

/-! ## statements -/

def insertUser (db : Db) (u : User) : Except Failure Db := do
  let users ← orViolation "users" (db.users.insert? u)
  pure { db with users }

def updateUsers (db : Db) (p : User → Bool) (f : UserPatch) : Except Failure Db := do
  let users ← orViolation "users" (db.users.update? p f)
  pure { db with users }

def updateUser (db : Db) (id : Uuid) (f : UserPatch) : Except Failure Db :=
  db.updateUsers (fun u => u.id = id) f

def insertRole (db : Db) (r : Role) : Except Failure Db := do
  let roles ← orViolation "roles" (db.roles.insert? r)
  pure { db with roles }

/-- `protect_system_role_definition` compares every column but `version` -/
def keepsSystemDefinition (db : Db) (id : Uuid) (f : RolePatch) : Bool :=
  match db.roles.get? id with
  | some r => !r.isSystem || decide ({ f.apply r with version := r.version } = r)
  | none => true

/-- `UPDATE roles … WHERE id = id`, under `tr_roles_protect_system_definition` -/
def updateRole (db : Db) (id : Uuid) (f : RolePatch) : Except Failure Db := do
  require (db.keepsSystemDefinition id f) (.database "system role definitions are immutable")
  let roles ← orViolation "roles" (db.roles.modify? id f)
  pure { db with roles }

/-- one new row of `role_permissions` for every permission -/
def grantPermissions (db : Db) (roleId : Uuid) (permissionIds : List Uuid) : Except Failure Db := do
  require (permissionIds ≠ [] → db.isSystemRole roleId = false)
    (.database "system role permission grants are immutable")
  require (permissionIds ≠ [] → (db.roles.get? roleId).isSome)
    (.integrity "fk_role_permissions_role_id_roles")
  require (permissionIds.all fun p => (db.permissions.get? p).isSome)
    (.integrity "fk_role_permissions_permission_id_permissions")
  let rolePermissions ← orRaise (db.rolePermissions.linkAll? roleId permissionIds)
    (.integrity "uq_role_permissions_live")
  pure { db with rolePermissions }

/-- tombstone the live grants of a role whose permission satisfies `p` -/
def revokePermissions (db : Db) (now : Nat) (roleId : Uuid) (p : Uuid → Bool) :
    Except Failure Db := do
  require ((db.rolePermissions.rights roleId).any p → db.isSystemRole roleId = false)
    (.database "system role permission grants are immutable")
  pure { db with
    rolePermissions := db.rolePermissions.tombstone now (fun l => l.1 = roleId && p l.2) }

/-- one new row of `user_roles` for every role -/
def assignRoles (db : Db) (userId : Uuid) (roleIds : List Uuid) : Except Failure Db := do
  require (roleIds ≠ [] → (db.users.get? userId).isSome) (.integrity "fk_user_roles_user_id_users")
  require (roleIds.all fun r => (db.roles.get? r).isSome) (.integrity "fk_user_roles_role_id_roles")
  let userRoles ← orRaise (db.userRoles.linkAll? userId roleIds) (.integrity "uq_user_roles_live")
  pure { db with userRoles }

/-- tombstone the live assignments that satisfy `p` -/
def unassignRoles (db : Db) (now : Nat) (p : Uuid × Uuid → Bool) : Db :=
  { db with userRoles := db.userRoles.tombstone now p }

def bumpEpoch (db : Db) : Db :=
  { db with rbacState := { db.rbacState with epoch := db.rbacState.epoch + 1 } }

/-! ## deferred constraint triggers -/

def assertUserRoleLimit (db : Db) (userId : Uuid) : Except Failure Unit :=
  require ((db.userRoles.rights userId).length ≤ maxRolesPerUser)
    (.integrity "ct_user_roles_max_ten_live")

def hasLiveRole (db : Db) (userId : Uuid) (key : String) : Bool :=
  (db.userRoles.rights userId).any fun r =>
    match db.liveRole? r with
    | some role => role.key == key
    | none => false

def assertUserHasBaseRole (db : Db) (userId : Uuid) : Except Failure Unit :=
  require ((db.liveUser? userId).isSome → db.hasLiveRole userId "user")
    (.database "every user must retain the user system role")

/-- the holders of a live assignment of the role with this key -/
def holders (db : Db) (key : String) : List Uuid :=
  match db.roles.findBy? key with
  | some role => db.userRoles.lefts role.id
  | none => []

def enforceExactlyOneSuperAdmin (db : Db) (roleId : Uuid) : Except Failure Unit :=
  match (db.roles.findBy? "super_admin").filter (fun r => r.deletedAt.isNone) with
  | none => .error (.database "query returned no rows")
  | some superAdmin =>
    require (roleId = superAdmin.id → (db.userRoles.lefts superAdmin.id).length = 1)
      (.database "exactly one super_admin assignment is required")

/-- the deferred triggers of one written row of `user_roles` -/
def deferredOnUserRole (db : Db) (assignment : Uuid × Uuid) : Except Failure Unit := do
  db.assertUserRoleLimit assignment.1
  db.assertUserHasBaseRole assignment.1
  db.enforceExactlyOneSuperAdmin assignment.2

/-- commit a transaction that wrote these rows of `users` and of `user_roles` -/
def commit (db : Db) (users : List Uuid) (assignments : List (Uuid × Uuid)) : Except Failure Db := do
  checkAll db.assertUserHasBaseRole users
  checkAll db.deferredOnUserRole assignments
  pure db

/-! ## what a statement that succeeds has written -/

theorem insertUser_ok {db db' : Db} {u : User} :
    db.insertUser u = .ok db' ↔ ∃ t, db.users.insert? u = .ok t ∧ db' = { db with users := t } := by
  unfold insertUser
  simp only [bind_ok, orViolation_ok, pure_ok, eq_comm (a := db')]

theorem updateUsers_ok {db db' : Db} {p : User → Bool} {f : UserPatch} :
    db.updateUsers p f = .ok db' ↔
      ∃ t, db.users.update? p f = .ok t ∧ db' = { db with users := t } := by
  unfold updateUsers
  simp only [bind_ok, orViolation_ok, pure_ok, eq_comm (a := db')]

theorem updateUser_ok {db db' : Db} {id : Uuid} {f : UserPatch} :
    db.updateUser id f = .ok db' ↔
      ∃ t, db.users.modify? id f = .ok t ∧ db' = { db with users := t } :=
  updateUsers_ok

theorem insertRole_ok {db db' : Db} {r : Role} :
    db.insertRole r = .ok db' ↔ ∃ t, db.roles.insert? r = .ok t ∧ db' = { db with roles := t } := by
  unfold insertRole
  simp only [bind_ok, orViolation_ok, pure_ok, eq_comm (a := db')]

theorem updateRole_ok {db db' : Db} {id : Uuid} {f : RolePatch} :
    db.updateRole id f = .ok db' ↔
      ∃ t, db.keepsSystemDefinition id f = true ∧ db.roles.modify? id f = .ok t ∧
        db' = { db with roles := t } := by
  unfold updateRole
  simp only [bind_ok, require_ok, orViolation_ok, pure_ok, eq_comm (a := db')]
  constructor
  · rintro ⟨_, hk, t, ht⟩
    exact ⟨t, hk, ht⟩
  · rintro ⟨t, hk, ht⟩
    exact ⟨(), hk, t, ht⟩

theorem grantPermissions_ok {db db' : Db} {roleId : Uuid} {ids : List Uuid}
    (h : db.grantPermissions roleId ids = .ok db') :
    ∃ t, db.rolePermissions.linkAll? roleId ids = some t ∧
      (∀ p ∈ ids, (db.permissions.get? p).isSome) ∧ db' = { db with rolePermissions := t } := by
  unfold grantPermissions at h
  simp only [bind_ok, require_ok, orRaise_ok, pure_ok, List.all_eq_true] at h
  obtain ⟨-, -, -, -, -, hp, t, ht, rfl⟩ := h
  exact ⟨t, ht, hp, rfl⟩

theorem revokePermissions_ok {db db' : Db} {now : Nat} {roleId : Uuid} {p : Uuid → Bool}
    (h : db.revokePermissions now roleId p = .ok db') :
    db' = { db with
      rolePermissions := db.rolePermissions.tombstone now (fun l => l.1 = roleId && p l.2) } := by
  unfold revokePermissions at h
  simp only [bind_ok, require_ok, pure_ok] at h
  obtain ⟨-, -, rfl⟩ := h
  rfl

theorem assignRoles_ok {db db' : Db} {userId : Uuid} {ids : List Uuid}
    (h : db.assignRoles userId ids = .ok db') :
    ∃ t, db.userRoles.linkAll? userId ids = some t ∧
      (ids ≠ [] → (db.users.get? userId).isSome) ∧ (∀ r ∈ ids, (db.roles.get? r).isSome) ∧
      db' = { db with userRoles := t } := by
  unfold assignRoles at h
  simp only [bind_ok, require_ok, orRaise_ok, pure_ok, List.all_eq_true] at h
  obtain ⟨-, hu, -, hr, t, ht, rfl⟩ := h
  exact ⟨t, ht, hu, hr, rfl⟩

theorem commit_ok {db db' : Db} {users : List Uuid} {assignments : List (Uuid × Uuid)} :
    db.commit users assignments = .ok db' ↔
      db' = db ∧ (∀ u ∈ users, db.assertUserHasBaseRole u = .ok ()) ∧
        ∀ a ∈ assignments, db.deferredOnUserRole a = .ok () := by
  unfold commit
  simp only [bind_ok, checkAll_ok, pure_ok, eq_comm (a := db')]
  constructor
  · rintro ⟨_, hu, _, ha, e⟩
    exact ⟨e, hu, ha⟩
  · rintro ⟨e, hu, ha⟩
    exact ⟨(), hu, (), ha, e⟩

end Db

end PgRbac
