import PgRbac.Access
import PgRbac.Passwords
import PgRbac.Provisioning

/-!
# Local passwords: `LocalAuthenticationService` of `app/services/authentication.py`

Argon2 runs outside the database locks, so a credential command is an unlocked read, a hash or a
verification, and then one locked transaction that compares the row with what was read.  Every
transaction is a function of the tables of its own; a whole command strings them together.

* `registerBody`, `createUserByAdministratorBody`, `setRegistrationEnabledBody`
* `lockedLoginBody`, `finalLoginBody`          the two locked transactions of a login;
* `changePasswordBody`, `completePasswordResetBody`, `resetUserPasswordBody`,
  `operatorResetBody`                          the transactions that rotate a password.
-/

set_option linter.unusedVariables false

namespace PgRbac

open Fallible Store

/-! ## audit rows and row changes -/

def accountEvent (action : String) (outcome : AccountSecurityAuditOutcome) (reasonCode : String)
    (actorType : AccountSecurityActorType) (actorUserId targetUserId : Option Uuid)
    (source : AuditSource) (requestId : String) : AuditRow :=
  .accountSecurity { action, outcome, reasonCode, actorType, actorUserId, targetUserId, source,
                     requestId }

/-- `_write_client_denial`: the denied row of a client error -/
def clientDenial (action : String) (context : AuthorizationContext) (targetUserId : Uuid) :
    Failure → List AuditRow
  | .rbac e =>
    if e.statusCode ≥ 500 then []
    else [accountEvent action .denied e.reasonCode .user (some context.principal.userId)
      (some targetUserId) context.auditSource context.requestId]
  | _ => []

def User.rotatePassword (passwordHash : String) (mustChangePassword : Bool) (changedAt : Nat) :
    UserPatch where
  apply u := { u with
    passwordHash := some passwordHash, mustChangePassword := mustChangePassword,
    passwordChangedAt := some changedAt }
  key_eq _ := rfl
  uniq_eq _ := rfl

/-- a rotation that also ends every login -/
def User.replacePassword (passwordHash : String) (mustChangePassword : Bool) (changedAt : Nat) :
    UserPatch where
  apply u := { u with
    passwordHash := some passwordHash, mustChangePassword := mustChangePassword,
    passwordChangedAt := some changedAt, tokenVersion := u.tokenVersion + 1 }
  key_eq _ := rfl
  uniq_eq _ := rfl

/-- a hash-parameter upgrade is not a password change -/
def User.upgradeHash (passwordHash : String) : UserPatch where
  apply u := { u with passwordHash := some passwordHash }
  key_eq _ := rfl
  uniq_eq _ := rfl

/-! ## registration -/

def setRegistrationEnabledBody (context : AuthorizationContext) (enabled : Bool) (db : Db) :
    Except Failure (Bool × Db × List AuditRow) := do
  let actor ← db.requireCurrentActor context.principal.userId context.principal.tokenVersion
  require (actor.isSuperAdmin ∧ PermissionKey.registrationConfigure.value ∈ actor.permissions)
    (forbidden "registration_setting_requires_super_admin")
  if db.rbacState.publicRegistrationEnabled = enabled then pure (enabled, db, [])
  else
    pure (enabled,
      { db with rbacState := { db.rbacState with publicRegistrationEnabled := enabled } },
      [accountEvent "account_security.registration.setting_updated" .succeeded
        "registration_setting_updated" .user (some context.principal.userId) none
        context.auditSource context.requestId])

def setRegistrationEnabled (context : AuthorizationContext) (enabled : Bool) :
    Postgres → Except Failure Bool × Postgres :=
  transact (setRegistrationEnabledBody context enabled) (fun _ => [])

def userNameExists : Failure := .rbac ⟨409, 409001, "error.user_name_taken", "user_identity_exists"⟩

/-- a name or id that exists already is answered as a taken user name -/
def mapIdentityConflict {α : Type} : Except Failure α → Except Failure α
  | .ok a => .ok a
  | .error (.integrity constraint) =>
    .error (if constraint = "uq_users_user_name" then userNameExists else .integrity constraint)
  | .error (.rbac e) =>
    .error (if e.reasonCode = "user_identity_exists" then userNameExists else .rbac e)
  | .error e => .error e

@[simp] theorem mapIdentityConflict_ok {α : Type} (x : Except Failure α) (a : α) :
    mapIdentityConflict x = .ok a ↔ x = .ok a := by
  cases x with
  | ok b => simp [mapIdentityConflict]
  | error e => cases e <;> simp [mapIdentityConflict]

def registerBody (userName passwordHash : String) (userId : Uuid) (requestId : String) (now : Nat)
    (db : Db) : Except Failure (Uuid × Db × List AuditRow) := do
  require (db.rbacState.publicRegistrationEnabled)
    (.rbac ⟨403, 403001, "error.registration_closed", "public_registration_closed"⟩)
  let (new, db) ← createUserWithDefaultRole db userName userId none requestId
  let db ← db.updateUser new.user.id (User.rotatePassword passwordHash false now)
  let db ← db.commit [new.user.id] [(new.user.id, new.roleId)]
  pure (new.user.id, db,
    [.rbac new.event,
      accountEvent "account_security.registration.completed" .succeeded "registration_completed"
        .anonymous none (some new.user.id) .http requestId])

/-- the action after its admission by the rate limiter -/
def register (lib : PasswordLibrary) (salt : Nat) (userName password : String) (userId : Uuid)
    (requestId : String) (now : Nat) (s : Postgres) : Except Failure Uuid × Postgres :=
  match hashNewPassword lib salt password [userName] with
  | .error e => (.error e, s)
  | .ok passwordHash =>
    let r := transact (registerBody userName passwordHash userId requestId now) (fun _ => []) s
    (mapIdentityConflict r.1, r.2)

def createUserByAdministratorBody (context : AuthorizationContext) (userName passwordHash : String)
    (userId : Uuid) (now : Nat) (db : Db) : Except Failure (Uuid × Db × List AuditRow) := do
  let actor ← db.requireCurrentActor context.principal.userId context.principal.tokenVersion
  require (PermissionKey.usersCreate.value ∈ actor.permissions)
    (forbidden "missing_operation_permission")
  let (new, db) ← createUserWithDefaultRole db userName userId (some context.principal.userId)
    context.requestId
  let db ← db.updateUser new.user.id (User.rotatePassword passwordHash true now)
  let db ← db.commit [new.user.id] [(new.user.id, new.roleId)]
  pure (new.user.id, db,
    [.rbac new.event,
      accountEvent "account_security.registration.admin_created" .succeeded
        "temporary_password_set" .user (some context.principal.userId) (some new.user.id)
        context.auditSource context.requestId])

def createUserByAdministrator (lib : PasswordLibrary) (salt : Nat) (context : AuthorizationContext)
    (userName temporaryPassword : String) (userId : Uuid) (now : Nat) (s : Postgres) :
    Except Failure Uuid × Postgres :=
  match hashNewPassword lib salt temporaryPassword [userName] with
  | .error e => (.error e, s)
  | .ok passwordHash =>
    let r := transact (createUserByAdministratorBody context userName passwordHash userId now)
      (fun _ => []) s
    (mapIdentityConflict r.1, r.2)

/-! ## what a credential command read -/

structure AuthenticatedPasswordUser where
  userId : Uuid
  tokenVersion : Nat
  mustChangePassword : Bool
  deriving DecidableEq, Repr

structure PasswordSnapshot where
  userId : Uuid
  userName : String
  isActive : Bool
  isDeleted : Bool
  tokenVersion : Nat
  passwordHash : Option String
  passwordChangedAt : Option Nat
  mustChangePassword : Bool
  deriving DecidableEq, Repr

def snapshotFromUser (u : User) : PasswordSnapshot where
  userId := u.id
  userName := u.userName
  isActive := u.isActive
  isDeleted := u.deletedAt.isSome
  tokenVersion := u.tokenVersion
  passwordHash := u.passwordHash
  passwordChangedAt := u.passwordChangedAt
  mustChangePassword := u.mustChangePassword

def loadSnapshotByUserName (db : Db) (userName : String) : Option PasswordSnapshot :=
  (db.users.findBy? userName).map snapshotFromUser

def loadSnapshotByUserId (db : Db) (userId : Uuid) : Option PasswordSnapshot :=
  (db.users.get? userId).map snapshotFromUser

def sameIdentity (u : User) (s : PasswordSnapshot) : Bool :=
  decide (u.id = s.userId) && decide (u.userName = s.userName) && u.deletedAt.isNone

def sameLoginUserState (u : User) (s : PasswordSnapshot) : Bool :=
  sameIdentity u s && decide (u.isActive = s.isActive) &&
    decide (u.tokenVersion = s.tokenVersion) && decide (u.passwordChangedAt = s.passwordChangedAt)

def samePasswordState (u : User) (s : PasswordSnapshot) : Bool :=
  u.passwordHash.isSome && decide (u.passwordHash = s.passwordHash) &&
    decide (u.mustChangePassword = s.mustChangePassword)

/-! ## login -/

/-- the checks of `_verify_login_snapshot` between the unlocked read and the first lock -/
def loginSnapshotAccepted (s : Option PasswordSnapshot) (v : PasswordVerification)
    (requireTemporary : Bool) : Option PasswordSnapshot :=
  s.filter fun s =>
    v.verified && !v.usedDummy && s.passwordHash.isSome && !s.isDeleted && s.isActive &&
      (!requireTemporary || s.mustChangePassword)

/-- how the first locked transaction of a login ends -/
inductive LoginStep where
  | rejected
  | authenticated (user : AuthenticatedPasswordUser)
  | concurrentRehash (snapshot : PasswordSnapshot)
  deriving DecidableEq, Repr

def authenticatedUser (u : User) : AuthenticatedPasswordUser :=
  ⟨u.id, u.tokenVersion, u.mustChangePassword⟩

def lockedLoginBody (snapshot : PasswordSnapshot) (replacementHash : Option String)
    (requireTemporary : Bool) (db : Db) : Except Failure (LoginStep × Db) :=
  match db.lockUsers [snapshot.userId] snapshot.userId with
  | none => .ok (.rejected, db)
  | some u =>
    if ¬ sameLoginUserState u snapshot ∨ u.mustChangePassword ≠ snapshot.mustChangePassword then
      .ok (.rejected, db)
    else if requireTemporary ∧ ¬ u.mustChangePassword then .ok (.rejected, db)
    else if u.passwordHash = snapshot.passwordHash then
      match replacementHash with
      | none => .ok (.authenticated (authenticatedUser u), db)
      | some hash => do
        let db ← db.updateUser u.id (User.upgradeHash hash)
        let db ← db.commit [u.id] []
        pure (.authenticated (authenticatedUser u), db)
    else if replacementHash = none ∨ u.passwordHash = none then .ok (.rejected, db)
    else .ok (.concurrentRehash (snapshotFromUser u), db)

/-- the locked transaction after a second verification; it writes nothing -/
def finalLoginBody (snapshot : PasswordSnapshot) (requireTemporary : Bool) (db : Db) :
    Option AuthenticatedPasswordUser :=
  match db.lockUsers [snapshot.userId] snapshot.userId with
  | none => none
  | some u =>
    if ¬ sameLoginUserState u snapshot ∨ ¬ samePasswordState u snapshot then none
    else if requireTemporary ∧ ¬ u.mustChangePassword then none
    else some (authenticatedUser u)

/-! ## changing one's own password -/

/-- the checks of `_reauthenticate_actor` on the unlocked read -/
def reauthenticated (context : AuthorizationContext) (s : Option PasswordSnapshot)
    (verified : Bool) : Option PasswordSnapshot :=
  s.filter fun s =>
    verified && s.passwordHash.isSome && !s.isDeleted && s.isActive && !s.mustChangePassword &&
      decide (s.tokenVersion = context.principal.tokenVersion)

def changePasswordBody (context : AuthorizationContext) (snapshot : PasswordSnapshot)
    (newHash : String) (now : Nat) (db : Db) : Except Failure (Bool × Db × List AuditRow) := do
  let userId := context.principal.userId
  let u ← orRaise ((db.lockUsers [userId] userId).filter fun u =>
      u.isActive && decide (u.tokenVersion = context.principal.tokenVersion) &&
        sameIdentity u snapshot)
    (forbidden "current_credential_changed")
  require (samePasswordState u snapshot) (forbidden "current_credential_changed")
  let db ← db.updateUser u.id (User.replacePassword newHash false now)
  let db ← db.commit [u.id] []
  pure (true, db,
    [accountEvent "account_security.password.changed" .succeeded "password_changed" .user
      (some u.id) (some u.id) context.auditSource context.requestId])

/-! ## completing a temporary password -/

/-- the checks of `_verify_temporary_snapshot` on the unlocked read -/
def temporaryAccepted (s : Option PasswordSnapshot) (verified : Bool) : Option PasswordSnapshot :=
  s.filter fun s =>
    verified && s.passwordHash.isSome && !s.isDeleted && s.isActive && s.mustChangePassword

def completePasswordResetBody (snapshot : PasswordSnapshot) (newHash requestId : String)
    (now : Nat) (db : Db) : Except Failure (Bool × Db × List AuditRow) := do
  let u ← orRaise ((db.lockUsers [snapshot.userId] snapshot.userId).filter fun u =>
      u.isActive && sameIdentity u snapshot)
    .invalidCredentials
  require (sameLoginUserState u snapshot ∧ samePasswordState u snapshot) .invalidCredentials
  require (u.mustChangePassword) .invalidCredentials
  let db ← db.updateUser u.id (User.replacePassword newHash false now)
  let db ← db.commit [u.id] []
  pure (true, db,
    [accountEvent "account_security.password.reset_completed" .succeeded
      "temporary_password_completed" .user (some u.id) (some u.id) .http requestId])

/-! ## resetting another user's password -/

inductive ResetMode where
  | direct | temporary
  deriving DecidableEq, Repr

/-- both the visibility of the target and the decision are judged with the disabled roles counted -/
def lockAuthorizedResetTarget (db : Db) (context : AuthorizationContext) (targetUserId : Uuid) :
    Except Failure User := do
  let users := db.lockUsers [context.principal.userId, targetUserId]
  let actor ← db.requireCurrentActor context.principal.userId context.principal.tokenVersion
  require (PermissionKey.usersPasswordReset.value ∈ actor.permissions)
    (forbidden "missing_operation_permission")
  let targetUser ← orRaise (users targetUserId) (notFound "user_not_found")
  let target ← db.loadAuthoritySnapshot targetUserId true
  require (isAdministrativeUserVisible actor target) (notFound "user_not_found")
  let decision := decideUserPasswordReset actor target
  require decision.allowed (forbidden decision.reasonCode)
  pure targetUser

def ResetMode.reason : ResetMode → String
  | .direct => "permanent_password_set"
  | .temporary => "temporary_password_set"

/-- the second transaction of `reset_user_password`, which locks and decides again -/
def resetUserPasswordBody (lib : PasswordLibrary) (context : AuthorizationContext)
    (targetUserId : Uuid) (newPassword newHash : String) (resetMode : ResetMode) (now : Nat)
    (db : Db) : Except Failure (Bool × Db × List AuditRow) := do
  let targetUser ← lockAuthorizedResetTarget db context targetUserId
  orPolicyResponse (validateNewPassword lib newPassword [targetUser.userName])
  let db ← db.updateUser targetUser.id
    (User.replacePassword newHash (decide (resetMode = .temporary)) now)
  let db ← db.commit [targetUser.id] []
  pure (true, db,
    [accountEvent "account_security.password.admin_reset" .succeeded resetMode.reason .user
      (some context.principal.userId) (some targetUser.id) context.auditSource context.requestId])

/-- both transactions of `reset_user_password`, with nothing between them -/
def resetUserPassword (lib : PasswordLibrary) (salt : Nat) (context : AuthorizationContext)
    (targetUserId : Uuid) (newPassword : String) (resetMode : ResetMode) (now : Nat)
    (s : Postgres) : Except Failure Bool × Postgres :=
  let denial := clientDenial "account_security.password.admin_reset" context targetUserId
  let first := transact
    (fun db => do
      let u ← lockAuthorizedResetTarget db context targetUserId
      pure (u, db, [])) denial s
  match first with
  | (.error e, s) => (.error e, s)
  | (.ok targetUser, s) =>
    match hashNewPassword lib salt newPassword [targetUser.userName] with
    | .error e => (.error e, s)
    | .ok newHash =>
      transact (resetUserPasswordBody lib context targetUserId newPassword newHash resetMode now)
        denial s

def operatorResetBody (lib : PasswordLibrary) (userId : Uuid) (temporaryPassword temporaryHash
    requestId : String) (now : Nat) (db : Db) : Except Failure (Bool × Db × List AuditRow) := do
  let u ← orRaise ((db.lockUsers [userId] userId).filter User.isActive) (notFound "user_not_found")
  require (db.loadLiveSuperAdminHolderIds = {userId})
    (conflict "operator_reset_requires_sole_super_admin")
  let authority ← db.loadAuthoritySnapshot userId true
  require (authority.isSuperAdmin) (forbidden "operator_reset_requires_super_admin")
  orPolicyResponse (validateNewPassword lib temporaryPassword [u.userName])
  let db ← db.updateUser u.id (User.replacePassword temporaryHash true now)
  let db ← db.commit [u.id] []
  pure (true, db,
    [accountEvent "account_security.password.operator_reset" .succeeded
      "operator_temporary_password_set" .operator none (some u.id) .operator requestId])

end PgRbac
