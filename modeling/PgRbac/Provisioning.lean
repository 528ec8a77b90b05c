import PgRbac.Audit

/-!
# New accounts: `app/core/security/identity.py` and `app/services/provisioning.py`

`createUserWithDefaultRole` runs inside the transaction of its caller: one user row, its assignment
of the `user` role, a new epoch and one audit row.
-/

set_option linter.unusedVariables false

namespace PgRbac

open Fallible Store

def reservedUserNames : List String :=
  ["admin", "administrator", "root", "superadmin", "super_admin", "sysadmin", "system", "support",
    "user", "test", "guest", "ceshi"]

/-- `str.isspace` of one character -/
def isPySpace (c : Char) : Bool :=
  let n := c.toNat
  (9 ≤ n && n ≤ 13) || (28 ≤ n && n ≤ 32) || n == 133 || n == 160 || n == 5760 ||
    (8192 ≤ n && n ≤ 8202) || n == 8232 || n == 8233 || n == 8239 || n == 8287 || n == 12288

/-- `str.strip` -/
def strip (s : String) : String :=
  String.ofList ((s.toList.dropWhile isPySpace).reverse.dropWhile isPySpace).reverse

/-- `str.casefold` of an ASCII string -/
def asciiCasefold (s : String) : String := String.ofList (s.toList.map Char.toLower)

def normalizeIdentity (value : String) : Except Failure String := do
  let normalized := strip value
  require (userNameFormat normalized)
    (.valueError "user_name must be 3-32 ASCII letters, digits, or underscores")
  require (asciiCasefold normalized ∉ reservedUserNames) (.valueError "reserved_user_name")
  pure normalized

def newUser (id : Uuid) (userName : String) : User where
  id := id
  userName := userName
  isActive := true
  isProtected := false
  tokenVersion := 0
  authzVersion := 1
  passwordHash := none
  mustChangePassword := false
  passwordChangedAt := none
  deletedAt := none

/-- the migrated contract of the `user` role -/
def matchesUserContract (role : Role) : Bool :=
  let spec := systemRoleSpecs .user
  role.isSystem && role.isProtected == spec.isProtected && !role.isSuperAdmin && role.isActive &&
    role.managementTier == spec.managementTier && role.deletedAt.isNone

structure Provisioned where
  user : User
  roleId : Uuid
  event : RbacAuditEvent

def provisionEvent (user : User) (roleId : Uuid) (assignedByUserId : Option Uuid)
    (requestId : String) : RbacAuditEvent where
  actorUserId := assignedByUserId.getD user.id
  targetUserId := some user.id
  targetRoleId := some roleId
  action := "user.provision"
  decision := "allowed"
  reasonCode := "default_user_role_assigned"
  source := .service
  beforeState := none
  afterState := some (.provision user.id roleId user.authzVersion)
  requestId := requestId

def createUserWithDefaultRole (db : Db) (userName : String) (userId : Uuid)
    (assignedByUserId : Option Uuid) (requestId : String) :
    Except Failure (Provisioned × Db) := do
  let normalizedUserName ← normalizeIdentity userName
  require (userId.isV4) (.valueError "user_id must be a UUIDv4 value")
  require (assignedByUserId.all fun actorId => (db.lockUsers [actorId] actorId).isSome)
    (notFound "provisioning_actor_not_found")
  require (db.users.get? userId = none ∧ db.users.findBy? normalizedUserName = none)
    (conflict "user_identity_exists")
  let user := newUser userId normalizedUserName
  let db ← db.insertUser user
  let stored ← orRaise (db.roles.findBy? SystemRoleKey.user.value)
    (notFound "default_user_role_missing")
  let role ← orRaise (db.lockRoles [stored.id] stored.id) (.runtimeError "KeyError")
  require (matchesUserContract role)
    (.runtimeError "default user role does not match the migrated contract")
  let db ← db.assignRoles user.id [role.id]
  pure ({ user := user, roleId := role.id,
          event := provisionEvent user role.id assignedByUserId requestId }, db.bumpEpoch)

end PgRbac
