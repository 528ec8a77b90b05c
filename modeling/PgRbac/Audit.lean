import PgRbac.Repository

/-!
# Responses, audit rows and transactions

The values that commands return, the rows they append to the audit tables, and the frame of one
transaction (`RbacService._run_audited` of `app/services/access.py`).

* `roleResponse`, `userResponse`, `snapshotPayload`    projections of rows and snapshots;
* `Postgres`, `transact`    the tables with the append-only audit rows, and one transaction on them;
* `runAudited`              the frame of every administrative command.
-/

set_option linter.unusedVariables false

namespace PgRbac

open Fallible Store

/-! ## responses and audit rows -/

structure RoleResponse where
  id : Uuid
  key : String
  name : String
  description : String
  managementTier : Nat
  isActive : Bool
  isSystem : Bool
  isProtected : Bool
  permissions : Finset String
  version : Nat
  deletedAt : Option Nat
  deriving DecidableEq

def roleResponse (role : Role) (permissions : Finset String) : RoleResponse where
  id := role.id
  key := role.key
  name := role.name
  description := role.description
  managementTier := role.managementTier
  isActive := role.isActive
  isSystem := role.isSystem
  isProtected := role.isProtected
  permissions := permissions
  version := role.version
  deletedAt := role.deletedAt

structure UserResponse where
  id : Uuid
  userName : String
  isActive : Bool
  assignedRoleIds : List Uuid
  effectiveRoleIds : List Uuid
  effectiveManagementTier : Nat
  effectivePermissions : Finset String
  authzVersion : Nat
  deriving DecidableEq

def userResponse (access : UserAccessView) : UserResponse where
  id := access.authority.userId
  userName := access.userName
  isActive := access.authority.userIsActive
  assignedRoleIds := access.assignedRoleIds
  effectiveRoleIds := access.authority.roles.map RoleGrant.roleId
  effectiveManagementTier := access.authority.managementTier
  effectivePermissions := access.authority.permissions
  authzVersion := access.authority.authzVersion

structure RoleMutationResponse where
  changed : Bool
  role : RoleResponse
  deriving DecidableEq

structure UserRoleMutationResponse where
  changed : Bool
  user : UserResponse
  deriving DecidableEq

structure SnapshotPayload where
  userId : Uuid
  isActive : Bool
  roleIds : List Uuid
  roleKeys : List String
  permissions : Finset String
  managementTier : Nat
  isProtected : Bool
  isSuperAdmin : Bool
  authzVersion : Nat
  deriving DecidableEq

def snapshotPayload (s : AuthoritySnapshot) : SnapshotPayload where
  userId := s.userId
  isActive := s.userIsActive
  roleIds := s.roles.map RoleGrant.roleId
  roleKeys := s.roles.map RoleGrant.key
  permissions := s.permissions
  managementTier := s.managementTier
  isProtected := s.isProtected
  isSuperAdmin := s.isSuperAdmin
  authzVersion := s.authzVersion

/-- the JSON objects that audit rows carry -/
inductive AuditState where
  | snapshot (payload : SnapshotPayload)
  | tokenVersion (n : Nat)
  | role (payload : RoleResponse)
  | provision (userId defaultRoleId : Uuid) (authzVersion : Nat)
  | bootstrap (superAdminUserId superAdminRoleId baseUserRoleId : Uuid) (changed : Bool)
  | superAdmin (userId : Uuid)
  deriving DecidableEq

structure RbacAuditEvent where
  actorUserId : Uuid
  targetUserId : Option Uuid
  targetRoleId : Option Uuid
  action : String
  decision : String
  reasonCode : String
  source : AuditSource
  beforeState : Option AuditState
  afterState : Option AuditState
  requestId : String
  deriving DecidableEq

inductive AccountSecurityActorType where
  | anonymous | user | operator | system
  deriving DecidableEq, Repr

inductive AccountSecurityAuditOutcome where
  | succeeded | failed | denied
  deriving DecidableEq, Repr

structure AccountSecurityAuditEvent where
  action : String
  outcome : AccountSecurityAuditOutcome
  reasonCode : String
  actorType : AccountSecurityActorType
  actorUserId : Option Uuid
  targetUserId : Option Uuid
  source : AuditSource
  requestId : String
  deriving DecidableEq

inductive AuditRow where
  | rbac (event : RbacAuditEvent)
  | accountSecurity (event : AccountSecurityAuditEvent)
  deriving DecidableEq

/-! ## transactions -/

/-- the tables and the audit rows, oldest first -/
structure Postgres where
  db : Db
  audit : List AuditRow

/-- one transaction: its writes and audit rows together, or none of them and the rows that a
separate transaction writes about the failure -/
def transact {α : Type} (body : Db → Except Failure (α × Db × List AuditRow))
    (onFailure : Failure → List AuditRow) (s : Postgres) : Except Failure α × Postgres :=
  match body s.db with
  | .ok (a, db, rows) => (.ok a, ⟨db, s.audit ++ rows⟩)
  | .error e => (.error e, ⟨s.db, s.audit ++ onFailure e⟩)

theorem transact_ok {α : Type} {body : Db → Except Failure (α × Db × List AuditRow)}
    {onFailure : Failure → List AuditRow} {s s' : Postgres} {a : α}
    (h : transact body onFailure s = (.ok a, s')) :
    ∃ rows, body s.db = .ok (a, s'.db, rows) ∧ s'.audit = s.audit ++ rows := by
  unfold transact at h
  cases hb : body s.db with
  | error e => simp [hb] at h
  | ok r =>
    obtain ⟨a', db, rows⟩ := r
    rw [hb] at h
    cases h
    exact ⟨rows, rfl, rfl⟩

theorem transact_error {α : Type} {body : Db → Except Failure (α × Db × List AuditRow)}
    {onFailure : Failure → List AuditRow} {s s' : Postgres} {e : Failure}
    (h : transact body onFailure s = (.error e, s')) :
    body s.db = .error e ∧ s'.db = s.db := by
  unfold transact at h
  cases hb : body s.db with
  | ok r => simp [hb] at h
  | error e' =>
    rw [hb] at h
    cases h
    exact ⟨rfl, rfl⟩

structure MutationOutcome (α : Type) where
  value : α
  reasonCode : String
  beforeState : Option AuditState
  afterState : Option AuditState
  auditTargetRoleId : Option Uuid

def auditEvent (context : AuthorizationContext) (action decision reasonCode : String)
    (targetUserId targetRoleId : Option Uuid) (beforeState afterState : Option AuditState) :
    RbacAuditEvent where
  actorUserId := context.principal.userId
  targetUserId := targetUserId
  targetRoleId := targetRoleId
  action := action
  decision := decision
  reasonCode := reasonCode
  source := context.auditSource
  beforeState := beforeState
  afterState := afterState
  requestId := context.requestId

/-- the denied row is best effort: here it is always written -/
def deniedAudit (context : AuthorizationContext) (action : String)
    (targetUserId targetRoleId : Option Uuid) : Failure → List AuditRow
  | .rbac e =>
    if e.statusCode < 500 then
      [.rbac (auditEvent context action "denied" e.reasonCode targetUserId targetRoleId none none)]
    else []
  | _ => []

def runAudited {α : Type} (context : AuthorizationContext) (action : String)
    (targetUserId targetRoleId : Option Uuid)
    (operation : Db → Except Failure (MutationOutcome α × Db)) :
    Postgres → Except Failure α × Postgres :=
  transact
    (fun db => do
      let (outcome, db') ← operation db
      pure (outcome.value, db',
        [.rbac (auditEvent context action "allowed" outcome.reasonCode targetUserId
          (outcome.auditTargetRoleId <|> targetRoleId) outcome.beforeState outcome.afterState)]))
    (deniedAudit context action targetUserId targetRoleId)

theorem runAudited_ok {α : Type} {context : AuthorizationContext} {action : String}
    {tu tr : Option Uuid} {operation : Db → Except Failure (MutationOutcome α × Db)}
    {s s' : Postgres} {a : α} (h : runAudited context action tu tr operation s = (.ok a, s')) :
    ∃ outcome, operation s.db = .ok (outcome, s'.db) ∧ outcome.value = a := by
  obtain ⟨rows, hb, -⟩ := transact_ok h
  simp only [bind_ok, Prod.exists, pure_ok] at hb
  obtain ⟨outcome, db, ho, he⟩ := hb
  cases he
  exact ⟨outcome, ho, rfl⟩

theorem runAudited_row {α : Type} {context : AuthorizationContext} {action : String}
    {tu tr : Option Uuid} {operation : Db → Except Failure (MutationOutcome α × Db)}
    {s s' : Postgres} {a : α} (h : runAudited context action tu tr operation s = (.ok a, s')) :
    ∃ outcome event, operation s.db = .ok (outcome, s'.db) ∧ outcome.value = a ∧
      event.afterState = outcome.afterState ∧ s'.audit = s.audit ++ [.rbac event] := by
  obtain ⟨rows, hb, hrows⟩ := transact_ok h
  simp only [bind_ok, Prod.exists, pure_ok] at hb
  obtain ⟨outcome, db, ho, he⟩ := hb
  cases he
  exact ⟨outcome, _, ho, rfl, rfl, hrows⟩

theorem runAudited_error {α : Type} {context : AuthorizationContext} {action : String}
    {tu tr : Option Uuid} {operation : Db → Except Failure (MutationOutcome α × Db)}
    {s s' : Postgres} {e : Failure} (h : runAudited context action tu tr operation s = (.error e, s')) :
    operation s.db = .error e ∧ s'.db = s.db := by
  obtain ⟨hb, hd⟩ := transact_error h
  simp only [bind_error, pure_error, and_false, exists_false, or_false] at hb
  exact ⟨hb, hd⟩

end PgRbac
