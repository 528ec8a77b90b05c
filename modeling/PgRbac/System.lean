import PgRbac.AccountEffects
import PgRbac.Lib.Run

/-!
# The store as a transition system

Every writer of the store is an `Operation`, run at some time on the tables and their audit rows.
A run starts from the migrated database; each step is one transaction, committed or not.  The
credential commands appear as their locked transactions, with anything at all as the values they
read or hashed before, so every interleaving of them is a run.

* `Operation`, `Operation.run`    the transactions;
* `system`                        the transition system;
* `Committed`                     a step whose transaction committed;
* `states`, `isRun_states`        the run of a sequence of calls;
* `script`                        the calls of a worked run;
* `Committed.body`, `step_db`     what a step does to the tables.
-/

set_option linter.unusedVariables false

namespace PgRbac

open Fallible Store Trace

inductive Operation where
  | updateUserStatus (context : AuthorizationContext) (targetUserId : Uuid) (isActive : Bool)
  | revokeUserSessions (context : AuthorizationContext) (targetUserId : Uuid)
  | changeUserRoles (context : AuthorizationContext) (targetUserId : Uuid) (roleIds : List Uuid)
      (operation : RoleOperation)
  | createRole (context : AuthorizationContext) (roleId : Uuid) (request : RoleCreateRequest)
  | updateRole (context : AuthorizationContext) (roleId : Uuid) (request : RoleUpdateRequest)
      (expectedVersion : Nat)
  | setRoleActive (context : AuthorizationContext) (roleId : Uuid) (isActive : Bool)
      (expectedVersion : Nat)
  | softDeleteRole (context : AuthorizationContext) (roleId : Uuid) (expectedVersion : Nat)
  | changeRolePermissions (context : AuthorizationContext) (roleId : Uuid)
      (permissionIds : List Uuid) (operation : RoleOperation) (expectedVersion : Nat)
  | setRegistrationEnabled (context : AuthorizationContext) (enabled : Bool)
  | register (userName passwordHash : String) (userId : Uuid) (requestId : String)
  | createUserByAdministrator (context : AuthorizationContext) (userName passwordHash : String)
      (userId : Uuid)
  | lockedLogin (snapshot : PasswordSnapshot) (replacementHash : Option String)
      (requireTemporary : Bool)
  | changePassword (context : AuthorizationContext) (snapshot : PasswordSnapshot)
      (newHash : String)
  | completePasswordReset (snapshot : PasswordSnapshot) (newHash requestId : String)
  | resetUserPassword (context : AuthorizationContext) (targetUserId : Uuid)
      (newPassword newHash : String) (resetMode : ResetMode)
  | operatorReset (userId : Uuid) (temporaryPassword temporaryHash requestId : String)
  | bootstrap (candidateUserId : Uuid)
  | handover (oldUserId newUserId : Uuid)

/-- forget the value of a command -/
def discard {α : Type} (r : Except Failure α × Postgres) : Except Failure Unit × Postgres :=
  (r.1.map (fun _ => ()), r.2)

/-- the value and the tables of a body, without its audit rows -/
def lockedLogin (snapshot : PasswordSnapshot) (replacementHash : Option String)
    (requireTemporary : Bool) : Postgres → Except Failure LoginStep × Postgres :=
  transact
    (fun db => do
      let (step, db') ← lockedLoginBody snapshot replacementHash requireTemporary db
      pure (step, db', []))
    (fun _ => [])

section
variable (lib : PasswordLibrary)

def Operation.run (now : Nat) : Operation → Postgres → Except Failure Unit × Postgres
  | .updateUserStatus c t a, s => discard (PgRbac.updateUserStatus c t a s)
  | .revokeUserSessions c t, s => discard (PgRbac.revokeUserSessions c t s)
  | .changeUserRoles c t ids o, s => discard (PgRbac.changeUserRoles c t ids o now s)
  | .createRole c r q, s => discard (PgRbac.createRole c r q s)
  | .updateRole c r q v, s => discard (PgRbac.updateRole c r q v s)
  | .setRoleActive c r a v, s => discard (PgRbac.setRoleActive c r a v s)
  | .softDeleteRole c r v, s => discard (PgRbac.softDeleteRole c r v now s)
  | .changeRolePermissions c r ids o v, s =>
    discard (PgRbac.changeRolePermissions c r ids o v now s)
  | .setRegistrationEnabled c e, s => discard (PgRbac.setRegistrationEnabled c e s)
  | .register n h u q, s => discard (transact (registerBody n h u q now) (fun _ => []) s)
  | .createUserByAdministrator c n h u, s =>
    discard (transact (createUserByAdministratorBody c n h u now) (fun _ => []) s)
  | .lockedLogin p h t, s => discard (PgRbac.lockedLogin p h t s)
  | .changePassword c p h, s => discard (transact (changePasswordBody c p h now) (fun _ => []) s)
  | .completePasswordReset p h q, s =>
    discard (transact (completePasswordResetBody p h q now) (fun _ => []) s)
  | .resetUserPassword c t pw h m, s =>
    discard (transact (resetUserPasswordBody lib c t pw h m now)
      (clientDenial "account_security.password.admin_reset" c t) s)
  | .operatorReset u pw h q, s =>
    discard (transact (operatorResetBody lib u pw h q now) (fun _ => []) s)
  | .bootstrap u, s => discard (bootstrapSuperAdmin u s)
  | .handover o n, s => discard (handoverSuperAdmin o n now s)

/-- one step: an operation at a time of the database clock -/
structure Call where
  now : Nat
  operation : Operation

def Committed (s : Postgres) (c : Call) (s' : Postgres) : Prop :=
  c.operation.run lib c.now s = (.ok (), s')

def system : System Postgres Call where
  init s := s = migrated
  step s c s' := (c.operation.run lib c.now s).2 = s'

/-- the states that a sequence of calls goes through from the migrated database -/
def states (calls : Nat → Call) : Nat → Postgres
  | 0 => migrated
  | i + 1 => ((calls i).operation.run lib (calls i).now (states calls i)).2

theorem isRun_states (calls : Nat → Call) (n : Nat) :
    IsRun (system lib) (states lib calls) calls n :=
  ⟨rfl, fun _ _ => rfl⟩

/-! ## worked runs -/

def alice : Uuid := 0x11111111111141118111111111111111
def bob : Uuid := 0x22222222222242228222222222222222
def carol : Uuid := 0x33333333333343338333333333333333

/-- a request of a user under a bearer token of the given version -/
def bearer (userId : Uuid) (tokenVersion : Nat) : AuthorizationContext where
  principal := ⟨userId, tokenVersion, userId, 0, 0⟩
  authorizationEpoch := 0
  authority := AuthoritySnapshot.build userId true false tokenVersion 0 []
  requestId := "request"
  auditSource := .http

def signUp (userName : String) (userId : Uuid) : Operation :=
  .register userName (sampleLibrary.hash 0 "CorrectHorseBattery1") userId "request"

/-- the calls of a list of operations, one at each tick -/
def script (operations : List Operation) (i : Nat) : Call :=
  ⟨i, operations.getD i (.bootstrap alice)⟩

/-! ## what a step does to the tables -/

/-- what the transaction of an operation does to the tables -/
def Operation.body (now : Nat) : Operation → Db → Except Failure Db
  | .updateUserStatus c t a, db => (updateUserStatusBody c t a db).map Prod.snd
  | .revokeUserSessions c t, db => (revokeUserSessionsBody c t db).map Prod.snd
  | .changeUserRoles c t ids o, db =>
    if ids = [] then .error (invalidRequest "role_ids_required")
    else (changeUserRolesBody c t (sortIds ids.dedup) o now db).map Prod.snd
  | .createRole c r q, db => (createRoleBody c r q db).map Prod.snd
  | .updateRole c r q v, db => (updateRoleBody c r q v db).map Prod.snd
  | .setRoleActive c r a v, db => (setRoleActiveBody c r a v db).map Prod.snd
  | .softDeleteRole c r v, db => (softDeleteRoleBody c r v now db).map Prod.snd
  | .changeRolePermissions c r ids o v, db =>
    if ids = [] then .error (invalidRequest "permission_ids_required")
    else (changeRolePermissionsBody c r ids.dedup o v now db).map Prod.snd
  | .setRegistrationEnabled c e, db => (setRegistrationEnabledBody c e db).map (fun r => r.2.1)
  | .register n h u q, db => (registerBody n h u q now db).map (fun r => r.2.1)
  | .createUserByAdministrator c n h u, db =>
    (createUserByAdministratorBody c n h u now db).map (fun r => r.2.1)
  | .lockedLogin p h t, db => (lockedLoginBody p h t db).map Prod.snd
  | .changePassword c p h, db => (changePasswordBody c p h now db).map (fun r => r.2.1)
  | .completePasswordReset p h q, db =>
    (completePasswordResetBody p h q now db).map (fun r => r.2.1)
  | .resetUserPassword c t pw h m, db =>
    (resetUserPasswordBody lib c t pw h m now db).map (fun r => r.2.1)
  | .operatorReset u pw h q, db => (operatorResetBody lib u pw h q now db).map (fun r => r.2.1)
  | .bootstrap u, db => (bootstrapBody u db).map (fun r => r.2.1)
  | .handover o n, db => (handoverBody o n now db).map (fun r => r.2.1)

end

/-- how a step ends: committed with the tables of its body, or with the tables as they were -/
def Ends (body : Except Failure Db) (s : Postgres) (r : Except Failure Unit × Postgres) : Prop :=
  (r.1 = .ok () ∧ body = .ok r.2.db) ∨ ((∃ e, r.1 = .error e) ∧ r.2.db = s.db)

theorem ends_transact {α : Type} (body : Db → Except Failure (α × Db × List AuditRow))
    (onFailure : Failure → List AuditRow) (s : Postgres) :
    Ends ((body s.db).map (fun r => r.2.1)) s (discard (transact body onFailure s)) := by
  unfold Ends discard transact
  cases body s.db with
  | error e => exact Or.inr ⟨⟨e, rfl⟩, rfl⟩
  | ok r => exact Or.inl ⟨rfl, rfl⟩

theorem ends_transact_of {α : Type} {body : Db → Except Failure (α × Db × List AuditRow)}
    {onFailure : Failure → List AuditRow} {s : Postgres} {r : Except Failure Db}
    (h : (body s.db).map (fun r => r.2.1) = r) :
    Ends r s (discard (transact body onFailure s)) :=
  h ▸ ends_transact body onFailure s

theorem ends_runAudited {α : Type} (context : AuthorizationContext) (action : String)
    (tu tr : Option Uuid) (operation : Db → Except Failure (MutationOutcome α × Db))
    (s : Postgres) :
    Ends ((operation s.db).map Prod.snd) s (discard (runAudited context action tu tr operation s)) := by
  unfold runAudited
  refine ends_transact_of ?_
  show Except.map _ (operation s.db >>= _) = _
  cases operation s.db with
  | error e => rfl
  | ok r => rfl

theorem ends_run (lib : PasswordLibrary) (now : Nat) (op : Operation) (s : Postgres) :
    Ends (op.body lib now s.db) s (op.run lib now s) := by
  cases op with
  | changeUserRoles c t ids o =>
    by_cases h : ids = []
    · exact Or.inr ⟨⟨_, by simp [Operation.run, discard, changeUserRoles, h, Except.map]; rfl⟩,
        by simp [Operation.run, discard, changeUserRoles, h]⟩
    · have e := ends_runAudited c ("user.roles." ++ o.value) (some t) none
        (changeUserRolesBody c t (sortIds ids.dedup) o now) s
      simpa only [Operation.run, Operation.body, changeUserRoles, h, if_false] using e
  | changeRolePermissions c r ids o v =>
    by_cases h : ids = []
    · exact Or.inr ⟨⟨_, by simp [Operation.run, discard, changeRolePermissions, h, Except.map]; rfl⟩,
        by simp [Operation.run, discard, changeRolePermissions, h]⟩
    · have e := ends_runAudited c ("role.permissions." ++ o.value) none (some r)
        (changeRolePermissionsBody c r ids.dedup o v now) s
      simpa only [Operation.run, Operation.body, changeRolePermissions, h, if_false] using e
  | lockedLogin p h t =>
    have e := ends_transact (fun db => do
      let (step, db') ← lockedLoginBody p h t db
      pure (step, db', [])) (fun _ => []) s
    show Ends ((lockedLoginBody p h t s.db).map Prod.snd) s (discard (PgRbac.lockedLogin p h t s))
    cases hb : lockedLoginBody p h t s.db with
    | error e' => simp only [hb] at e; exact e
    | ok r => simp only [hb] at e; exact e
  | updateUserStatus c t a => exact ends_runAudited ..
  | revokeUserSessions c t => exact ends_runAudited ..
  | createRole c r q => exact ends_runAudited ..
  | updateRole c r q v => exact ends_runAudited ..
  | setRoleActive c r a v => exact ends_runAudited ..
  | softDeleteRole c r v => exact ends_runAudited ..
  | setRegistrationEnabled c e => exact ends_transact ..
  | register n h u q => exact ends_transact ..
  | createUserByAdministrator c n h u => exact ends_transact ..
  | changePassword c p h => exact ends_transact ..
  | completePasswordReset p h q => exact ends_transact ..
  | resetUserPassword c t pw h m => exact ends_transact ..
  | operatorReset u pw h q => exact ends_transact ..
  | bootstrap u => exact ends_transact ..
  | handover o n => exact ends_transact ..

theorem Committed.body {lib : PasswordLibrary} {s s' : Postgres} {c : Call}
    (h : Committed lib s c s') : c.operation.body lib c.now s.db = .ok s'.db := by
  have e := ends_run lib c.now c.operation s
  rw [show c.operation.run lib c.now s = (.ok (), s') from h] at e
  rcases e with ⟨-, hb⟩ | ⟨⟨e, he⟩, -⟩
  · exact hb
  · cases he

/-- **a step changes the tables as the body of its operation says, or not at all** -/
theorem step_db {lib : PasswordLibrary} {s s' : Postgres} {c : Call}
    (h : (system lib).step s c s') :
    s'.db = s.db ∨ c.operation.body lib c.now s.db = .ok s'.db := by
  have e := ends_run lib c.now c.operation s
  have hs : (c.operation.run lib c.now s).2 = s' := h
  unfold Ends at e
  rw [hs] at e
  rcases e with ⟨-, hb⟩ | ⟨-, hb⟩
  · exact Or.inr hb
  · exact Or.inl hb

end PgRbac
