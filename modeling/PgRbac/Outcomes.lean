import PgRbac.RoleRequests

/-!
# How a command ends, and what it leaves

The commands of the service run in one transaction with the row of their success, and write the row
of a refusal in a second one.  Every `await` of either may fail or be cancelled.  `next` is one such
step; the store changes where a transaction commits and nowhere else.

* `AuditedCommand`, `ServiceCommand`    the arguments of the frame, and the commands that call it;
* `Phase`, `Event`, `next`              the frame as a machine, with its faults;
* `Agrees`                              what the store is in each phase;
* `undisturbed`                         without a fault it is the frame of the other modules;
* `outcome_agrees`                      the outcome, the tables and the rows of every run agree.
-/

set_option linter.unusedVariables false

namespace PgRbac

open Fallible Store Trace

/-! ## the commands -/

/-- the arguments of `_run_audited`, behind what a command raises on its own -/
structure AuditedCommand (α : Type) where
  entry : Except Failure Unit
  context : AuthorizationContext
  action : String
  targetUserId : Option Uuid
  targetRoleId : Option Uuid
  operation : Db → Except Failure (MutationOutcome α × Db)

/-- the commands of `RbacService` -/
inductive ServiceCommand where
  | updateUserStatus (context : AuthorizationContext) (targetUserId : Uuid) (isActive : Bool)
  | revokeUserSessions (context : AuthorizationContext) (targetUserId : Uuid)
  | changeUserRoles (context : AuthorizationContext) (targetUserId : Uuid) (roleIds : List Uuid)
      (operation : RoleOperation)
  | createRole (context : AuthorizationContext) (roleId : Uuid) (request : RoleCreateRequest)
  | updateRole (context : AuthorizationContext) (roleId : Uuid) (request : RoleUpdateRequest)
      (expectedVersion : Nat)
  | setRoleActive (context : AuthorizationContext) (roleId : Uuid) (isActive : Bool)
      (expectedVersion : Nat)
  | softDeleteRole (context : AuthorizationContext) (roleId : Uuid) (expectedVersion : Nat)
  | changeRolePermissions (context : AuthorizationContext) (roleId : Uuid)
      (permissionIds : List Uuid) (operation : RoleOperation) (expectedVersion : Nat)

def ServiceCommand.Value : ServiceCommand → Type
  | .updateUserStatus .. => UserResponse
  | .revokeUserSessions .. => Unit
  | .changeUserRoles .. => UserRoleMutationResponse
  | .createRole .. | .updateRole .. | .setRoleActive .. | .softDeleteRole .. |
    .changeRolePermissions .. => RoleMutationResponse

def ServiceCommand.audited (now : Nat) : (c : ServiceCommand) → AuditedCommand c.Value
  | .updateUserStatus c t a =>
    ⟨.ok (), c, "user.status.update", some t, none, updateUserStatusBody c t a⟩
  | .revokeUserSessions c t =>
    ⟨.ok (), c, "user.sessions.revoke", some t, none, revokeUserSessionsBody c t⟩
  | .changeUserRoles c t ids o =>
    ⟨require (ids ≠ []) (invalidRequest "role_ids_required"), c, "user.roles." ++ o.value, some t,
      none, changeUserRolesBody c t (sortIds ids.dedup) o now⟩
  | .createRole c r q => ⟨.ok (), c, "role.create", none, some r, createRoleBody c r q⟩
  | .updateRole c r q v => ⟨.ok (), c, "role.update", none, some r, updateRoleBody c r q v⟩
  | .setRoleActive c r a v =>
    ⟨.ok (), c, "role." ++ setRoleActiveVerb a, none, some r, setRoleActiveBody c r a v⟩
  | .softDeleteRole c r v => ⟨.ok (), c, "role.delete", none, some r, softDeleteRoleBody c r v now⟩
  | .changeRolePermissions c r ids o v =>
    ⟨require (ids ≠ []) (invalidRequest "permission_ids_required"), c,
      "role.permissions." ++ o.value, none, some r, changeRolePermissionsBody c r ids.dedup o v now⟩

namespace AuditedCommand
variable {α : Type} (cmd : AuditedCommand α)

def allowed (outcome : MutationOutcome α) : RbacAuditEvent :=
  auditEvent cmd.context cmd.action "allowed" outcome.reasonCode cmd.targetUserId
    (outcome.auditTargetRoleId <|> cmd.targetRoleId) outcome.beforeState outcome.afterState

def denied (e : RbacError) : RbacAuditEvent :=
  auditEvent cmd.context cmd.action "denied" e.reasonCode cmd.targetUserId cmd.targetRoleId none none

end AuditedCommand

/-! ## the frame -/

/-- what may hit an `await` -/
inductive Fault where
  | raised (e : Failure)
  /-- no `Exception`: the handler of the denied row lets it through -/
  | cancelled

/-- a fault that the driver can raise where no code of the service runs -/
def Fault.ofDriver : Fault → Bool
  | .raised (.rbac _) => false
  | .raised _ => true
  | .cancelled => true

inductive Ending (α : Type) where
  | returned (value : α)
  | failed (fault : Fault)

inductive Phase (α : Type) where
  /-- `operation` runs in its transaction, which sees these tables -/
  | operating (working : Db)
  | building (outcome : MutationOutcome α) (working : Db)
  /-- the block of the transaction is left: flush, constraints, `COMMIT` -/
  | committing (outcome : MutationOutcome α) (working : Db)
  /-- the transaction has committed -/
  | closing (value : α)
  /-- the transaction is rolled back -/
  | unwinding (fault : Fault)
  /-- `_write_denied_audit`, before and after its own `COMMIT` -/
  | denying (e : RbacError) (written : Bool)
  | done (ending : Ending α)

structure Running (α : Type) where
  store : Postgres
  phase : Phase α

inductive Event where
  /-- a statement of the operation, which leaves these tables to its transaction -/
  | statement (working : Db)
  /-- the phase ends by itself -/
  | proceed
  /-- a `COMMIT` takes effect -/
  | commit
  | fault (fault : Fault)

/-- the frame behind a transaction that was rolled back -/
def unwound {α : Type} : Fault → Phase α
  | .raised (.rbac e) =>
    if e.statusCode < 500 then .denying e false else .done (.failed (.raised (.rbac e)))
  | fault => .done (.failed fault)

section
variable (alnum : Char → Bool) {α : Type} (cmd : AuditedCommand α)

/-- the flush of an event that was built -/
def storable (event : RbacAuditEvent) : Bool :=
  storableState event.beforeState && storableState event.afterState

def withRow (s : Postgres) (working : Db) (event : RbacAuditEvent) : Postgres :=
  ⟨working, s.audit ++ [.rbac event]⟩

def next (r : Running α) : Event → Option (Running α)
  | .statement working =>
    match r.phase with
    | .operating _ => some ⟨r.store, .operating working⟩
    | _ => none
  | .proceed =>
    match r.phase with
    | .operating _ =>
      match cmd.operation r.store.db with
      | .ok (outcome, working) => some ⟨r.store, .building outcome working⟩
      | .error e => some ⟨r.store, .unwinding (.raised e)⟩
    | .building outcome working =>
      match (cmd.allowed outcome).validate alnum with
      | .ok () => some ⟨r.store, .committing outcome working⟩
      | .error message => some ⟨r.store, .unwinding (.raised (.valueError message))⟩
    | .closing value => some ⟨r.store, .done (.returned value)⟩
    | .unwinding fault => some ⟨r.store, unwound fault⟩
    | .denying e true => some ⟨r.store, .done (.failed (.raised (.rbac e)))⟩
    | _ => none
  | .commit =>
    match r.phase with
    | .committing outcome working =>
      if storable (cmd.allowed outcome) then
        some ⟨withRow r.store working (cmd.allowed outcome), .closing outcome.value⟩
      else none
    | .denying e false =>
      if ((cmd.denied e).validate alnum).isOk then
        some ⟨withRow r.store r.store.db (cmd.denied e), .denying e true⟩
      else none
    | _ => none
  | .fault fault =>
    match r.phase with
    | .operating _ => some ⟨r.store, .unwinding fault⟩
    | .building _ _ => some ⟨r.store, .unwinding fault⟩
    | .committing _ _ => some ⟨r.store, .unwinding fault⟩
    -- behind the `COMMIT`, and in a rollback, only the driver runs
    | .closing _ => if fault.ofDriver then some ⟨r.store, .done (.failed fault)⟩ else none
    | .unwinding _ => if fault.ofDriver then some ⟨r.store, .done (.failed fault)⟩ else none
    | .denying e _ =>
      match fault with
      | .raised _ => some ⟨r.store, .done (.failed (.raised (.rbac e)))⟩
      | .cancelled => some ⟨r.store, .done (.failed .cancelled)⟩
    | .done _ => none

def entered (s : Postgres) : Running α :=
  match cmd.entry with
  | .ok () => ⟨s, .operating s.db⟩
  | .error e => ⟨s, .done (.failed (.raised e))⟩

def AuditedCommand.system (s : Postgres) : System (Running α) Event where
  init r := r = entered cmd s
  step r event r' := next alnum cmd r event = some r'

end

/-! ## what a step does -/

section
variable {alnum : Char → Bool} {α : Type} {cmd : AuditedCommand α} {s : Postgres}
  {r r' : Running α} {event : Event}

/-- the steps of the frame, one constructor each -/
inductive Stepped (alnum : Char → Bool) (cmd : AuditedCommand α) :
    Running α → Event → Running α → Prop
  | statement {store : Postgres} {before working : Db} : Stepped alnum cmd
      ⟨store, .operating before⟩ (.statement working) ⟨store, .operating working⟩
  | succeeded {store : Postgres} {before working : Db} {outcome : MutationOutcome α} :
      cmd.operation store.db = .ok (outcome, working) → Stepped alnum cmd
        ⟨store, .operating before⟩ .proceed ⟨store, .building outcome working⟩
  | refused {store : Postgres} {before : Db} {e : Failure} : cmd.operation store.db = .error e →
      Stepped alnum cmd ⟨store, .operating before⟩ .proceed ⟨store, .unwinding (.raised e)⟩
  | built {store : Postgres} {outcome : MutationOutcome α} {working : Db} :
      (cmd.allowed outcome).validate alnum = .ok () → Stepped alnum cmd
        ⟨store, .building outcome working⟩ .proceed ⟨store, .committing outcome working⟩
  | invalid {store : Postgres} {outcome : MutationOutcome α} {working : Db} {message : String} :
      (cmd.allowed outcome).validate alnum = .error message → Stepped alnum cmd
        ⟨store, .building outcome working⟩ .proceed
        ⟨store, .unwinding (.raised (.valueError message))⟩
  | committed {store : Postgres} {outcome : MutationOutcome α} {working : Db} :
      storable (cmd.allowed outcome) = true → Stepped alnum cmd
        ⟨store, .committing outcome working⟩ .commit
        ⟨withRow store working (cmd.allowed outcome), .closing outcome.value⟩
  | returned {store : Postgres} {value : α} : Stepped alnum cmd
      ⟨store, .closing value⟩ .proceed ⟨store, .done (.returned value)⟩
  | unwound {store : Postgres} {fault : Fault} : Stepped alnum cmd
      ⟨store, .unwinding fault⟩ .proceed ⟨store, unwound fault⟩
  | evidenced {store : Postgres} {e : RbacError} : ((cmd.denied e).validate alnum).isOk = true →
      Stepped alnum cmd ⟨store, .denying e false⟩ .commit
        ⟨withRow store store.db (cmd.denied e), .denying e true⟩
  | denied {store : Postgres} {e : RbacError} : Stepped alnum cmd
      ⟨store, .denying e true⟩ .proceed ⟨store, .done (.failed (.raised (.rbac e)))⟩
  | operatingFault {store : Postgres} {before : Db} {fault : Fault} : Stepped alnum cmd
      ⟨store, .operating before⟩ (.fault fault) ⟨store, .unwinding fault⟩
  | buildingFault {store : Postgres} {outcome : MutationOutcome α} {working : Db} {fault : Fault} :
      Stepped alnum cmd ⟨store, .building outcome working⟩ (.fault fault)
        ⟨store, .unwinding fault⟩
  | committingFault {store : Postgres} {outcome : MutationOutcome α} {working : Db}
      {fault : Fault} : Stepped alnum cmd ⟨store, .committing outcome working⟩ (.fault fault)
        ⟨store, .unwinding fault⟩
  | closingFault {store : Postgres} {value : α} {fault : Fault} : fault.ofDriver = true →
      Stepped alnum cmd ⟨store, .closing value⟩ (.fault fault) ⟨store, .done (.failed fault)⟩
  | unwindingFault {store : Postgres} {first fault : Fault} : fault.ofDriver = true →
      Stepped alnum cmd ⟨store, .unwinding first⟩ (.fault fault) ⟨store, .done (.failed fault)⟩
  | unevidenced {store : Postgres} {e : RbacError} {written : Bool} {e' : Failure} :
      Stepped alnum cmd ⟨store, .denying e written⟩ (.fault (.raised e'))
        ⟨store, .done (.failed (.raised (.rbac e)))⟩
  | interrupted {store : Postgres} {e : RbacError} {written : Bool} : Stepped alnum cmd
      ⟨store, .denying e written⟩ (.fault .cancelled) ⟨store, .done (.failed .cancelled)⟩

theorem stepped_of_next (h : next alnum cmd r event = some r') : Stepped alnum cmd r event r' := by
  obtain ⟨store, phase⟩ := r
  cases event with
  | statement working =>
    cases phase with
    | operating before =>
      cases h
      exact .statement
    | _ => cases h
  | proceed =>
    cases phase with
    | operating before =>
      unfold next at h
      dsimp only at h
      cases hoperation : cmd.operation store.db with
      | ok result =>
        rw [hoperation] at h
        cases h
        exact .succeeded hoperation
      | error e =>
        rw [hoperation] at h
        cases h
        exact .refused hoperation
    | building outcome working =>
      unfold next at h
      dsimp only at h
      cases hvalid : (cmd.allowed outcome).validate alnum with
      | ok u =>
        rw [hvalid] at h
        cases h
        exact .built hvalid
      | error message =>
        rw [hvalid] at h
        cases h
        exact .invalid hvalid
    | closing value =>
      cases h
      exact .returned
    | unwinding fault =>
      cases h
      exact .unwound
    | denying e written =>
      cases written with
      | false => cases h
      | true =>
        cases h
        exact .denied
    | _ => cases h
  | commit =>
    cases phase with
    | committing outcome working =>
      unfold next at h
      dsimp only at h
      split at h
      · rename_i hstorable
        cases h
        exact .committed hstorable
      · cases h
    | denying e written =>
      cases written with
      | true => cases h
      | false =>
        unfold next at h
        dsimp only at h
        split at h
        · rename_i hvalid
          cases h
          exact .evidenced hvalid
        · cases h
    | _ => cases h
  | fault fault =>
    cases phase with
    | operating before =>
      cases h
      exact .operatingFault
    | building outcome working =>
      cases h
      exact .buildingFault
    | committing outcome working =>
      cases h
      exact .committingFault
    | closing value =>
      unfold next at h
      dsimp only at h
      split at h
      · rename_i hdriver
        cases h
        exact .closingFault hdriver
      · cases h
    | unwinding first =>
      unfold next at h
      dsimp only at h
      split at h
      · rename_i hdriver
        cases h
        exact .unwindingFault hdriver
      · cases h
    | denying e written =>
      cases fault with
      | raised e' =>
        cases h
        exact .unevidenced
      | cancelled =>
        cases h
        exact .interrupted
    | done ending => cases h

theorem next_of_stepped (h : Stepped alnum cmd r event r') : next alnum cmd r event = some r' := by
  cases h with
  | succeeded h => simp only [next, h]
  | refused h => simp only [next, h]
  | built h => simp only [next, h]
  | invalid h => simp only [next, h]
  | committed h => simp only [next, h, if_true]
  | evidenced h => simp only [next, h, if_true]
  | closingFault h => simp only [next, h, if_true]
  | unwindingFault h => simp only [next, h, if_true]
  | _ => rfl

theorem Stepped.store (h : Stepped alnum cmd r event r') (hevent : event ≠ .commit) :
    r'.store = r.store := by
  cases h with
  | committed _ => exact absurd rfl hevent
  | evidenced _ => exact absurd rfl hevent
  | _ => rfl

theorem Stepped.refusal (h : Stepped alnum cmd r event r') {e : RbacError} {written : Bool}
    (hphase : r.phase = .denying e written) (hevent : event ≠ .fault .cancelled) :
    (∃ written', r'.phase = .denying e written') ∨
      r'.phase = .done (.failed (.raised (.rbac e))) := by
  cases h with
  | evidenced _ =>
    cases hphase
    exact .inl ⟨true, rfl⟩
  | denied =>
    cases hphase
    exact .inr rfl
  | unevidenced =>
    cases hphase
    exact .inr rfl
  | interrupted => exact absurd rfl hevent
  | _ => cases hphase

theorem Stepped.not_done (h : Stepped alnum cmd r event r') (ending : Ending α) :
    r.phase ≠ .done ending := by
  cases h <;> exact nofun

/-! ## what the store is -/

/-- the transaction of the command: its tables and its row -/
def Allowed (cmd : AuditedCommand α) (s : Postgres) (value : α) (s' : Postgres) : Prop :=
  ∃ outcome working, cmd.operation s.db = .ok (outcome, working) ∧ outcome.value = value ∧
    s' = withRow s working (cmd.allowed outcome)

/-- the transaction of a refusal: its row alone -/
def Evidenced (cmd : AuditedCommand α) (s : Postgres) (e : RbacError) (s' : Postgres) : Prop :=
  s' = withRow s s.db (cmd.denied e)

inductive Left (cmd : AuditedCommand α) (s : Postgres) : Fault → Postgres → Prop
  | nothing {fault : Fault} : Left cmd s fault s
  | refusal {e : RbacError} {s' : Postgres} : e.statusCode < 500 → Evidenced cmd s e s' →
      Left cmd s (.raised (.rbac e)) s'
  | interrupted {e : RbacError} {s' : Postgres} : e.statusCode < 500 → Evidenced cmd s e s' →
      Left cmd s .cancelled s'
  | committed {fault : Fault} {value : α} {s' : Postgres} : fault.ofDriver = true →
      Allowed cmd s value s' → Left cmd s fault s'

theorem Left.whole {fault : Fault} {s' : Postgres} (h : Left cmd s fault s') : s' = s ∨
    (∃ e, e.statusCode < 500 ∧ Evidenced cmd s e s') ∨ ∃ value, Allowed cmd s value s' := by
  cases h with
  | nothing => exact .inl rfl
  | refusal hstatus hrow => exact .inr (.inl ⟨_, hstatus, hrow⟩)
  | interrupted hstatus hrow => exact .inr (.inl ⟨_, hstatus, hrow⟩)
  | committed _ hallowed => exact .inr (.inr ⟨_, hallowed⟩)

theorem Left.refused {e : RbacError} {s' : Postgres} (h : Left cmd s (.raised (.rbac e)) s') :
    s' = s ∨ Evidenced cmd s e s' := by
  cases h with
  | nothing => exact .inl rfl
  | refusal _ hrow => exact .inr hrow
  | committed hdriver _ => cases hdriver

def Agrees (cmd : AuditedCommand α) (s : Postgres) (r : Running α) : Prop :=
  match r.phase with
  | .operating _ => r.store = s
  | .building outcome working => r.store = s ∧ cmd.operation s.db = .ok (outcome, working)
  | .committing outcome working => r.store = s ∧ cmd.operation s.db = .ok (outcome, working)
  | .closing value => Allowed cmd s value r.store
  | .unwinding _ => r.store = s
  | .denying e false => e.statusCode < 500 ∧ r.store = s
  | .denying e true => e.statusCode < 500 ∧ Evidenced cmd s e r.store
  | .done (.returned value) => Allowed cmd s value r.store
  | .done (.failed fault) => Left cmd s fault r.store

/-- whatever happens, a transaction is in the store as a whole or not at all -/
theorem Agrees.whole (h : Agrees cmd s r) : r.store = s ∨
    (∃ e, e.statusCode < 500 ∧ Evidenced cmd s e r.store) ∨
      ∃ value, Allowed cmd s value r.store := by
  obtain ⟨store, phase⟩ := r
  cases phase with
  | operating working => exact .inl h
  | building outcome working => exact .inl h.1
  | committing outcome working => exact .inl h.1
  | closing value => exact .inr (.inr ⟨value, h⟩)
  | unwinding fault => exact .inl h
  | denying e written =>
    cases written with
    | false => exact .inl h.2
    | true => exact .inr (.inl ⟨e, h⟩)
  | done ending =>
    cases ending with
    | returned value => exact .inr (.inr ⟨value, h⟩)
    | failed fault => exact h.whole

theorem agrees_unwound (fault : Fault) : Agrees cmd s ⟨s, unwound fault⟩ := by
  cases fault with
  | cancelled => exact .nothing
  | raised e =>
    cases e with
    | rbac e =>
      by_cases h : e.statusCode < 500
      · have hphase : unwound (α := α) (.raised (.rbac e)) = .denying e false := if_pos h
        rw [hphase]
        exact ⟨h, rfl⟩
      · have hphase : unwound (α := α) (.raised (.rbac e)) =
            .done (.failed (.raised (.rbac e))) := if_neg h
        rw [hphase]
        exact .nothing
    | _ => exact .nothing

theorem Stepped.agrees (h : Stepped alnum cmd r event r') (hr : Agrees cmd s r) :
    Agrees cmd s r' := by
  cases h with
  | statement => exact hr
  | succeeded hoperation =>
    obtain rfl : _ = s := hr
    exact ⟨rfl, hoperation⟩
  | refused _ => exact hr
  | built _ => exact hr
  | invalid _ => exact hr.1
  | committed _ =>
    obtain ⟨rfl, hoperation⟩ := hr
    exact ⟨_, _, hoperation, rfl, rfl⟩
  | returned => exact hr
  | unwound =>
    obtain rfl : _ = s := hr
    exact agrees_unwound _
  | evidenced _ =>
    obtain ⟨hstatus, rfl⟩ := hr
    exact ⟨hstatus, rfl⟩
  | denied => exact .refusal hr.1 hr.2
  | operatingFault => exact hr
  | buildingFault => exact hr.1
  | committingFault => exact hr.1
  | closingFault hdriver => exact .committed hdriver hr
  | unwindingFault _ =>
    obtain rfl : _ = s := hr
    exact .nothing
  | @unevidenced store e written e' =>
    cases written with
    | false =>
      obtain ⟨-, rfl⟩ := hr
      exact .nothing
    | true => exact .refusal hr.1 hr.2
  | @interrupted store e written =>
    cases written with
    | false =>
      obtain ⟨-, rfl⟩ := hr
      exact .nothing
    | true => exact .interrupted hr.1 hr.2

theorem agrees_entered : Agrees cmd s (entered cmd s) := by
  unfold entered
  cases cmd.entry with
  | ok u => exact rfl
  | error e => exact .nothing

/-! ## every run -/

variable {st : Nat → Running α} {lab : Nat → Event} {n : Nat}

theorem agrees_run (h : IsRun (cmd.system alnum s) st lab n) {i : Nat} (hi : i ≤ n) :
    Agrees cmd s (st i) := by
  refine h.invariant (P := Agrees cmd s) ?_ ?_ hi
  · rintro r rfl
    exact agrees_entered
  · intro r event r' hr hstep
    exact (stepped_of_next hstep).agrees hr

theorem store_run (h : IsRun (cmd.system alnum s) st lab n)
    (hcommit : ∀ k < n, lab k ≠ .commit) : (st n).store = s := by
  refine IsRun.history (P := fun i => (st i).store = s) ?_ ?_ (Nat.le_refl n)
  · rw [show st 0 = entered cmd s from h.start]
    unfold entered
    cases cmd.entry with
    | ok u => rfl
    | error e => rfl
  · intro i hi hstore
    rw [(stepped_of_next (h.next i hi)).store (hcommit i hi)]
    exact hstore

theorem refusal_run (h : IsRun (cmd.system alnum s) st lab n) {i : Nat} (hi : i ≤ n)
    {e : RbacError} {written : Bool} (hphase : (st i).phase = .denying e written)
    (hcancelled : ∀ k, i ≤ k → k < n → lab k ≠ .fault .cancelled) {ending : Ending α}
    (hend : (st n).phase = .done ending) : ending = .failed (.raised (.rbac e)) := by
  have hkept : ∀ j, i ≤ j → j ≤ n → (∃ written, (st j).phase = .denying e written) ∨
      (st j).phase = .done (.failed (.raised (.rbac e))) := by
    intro j hij
    induction j, hij using Nat.le_induction with
    | base => exact fun _ => .inl ⟨written, hphase⟩
    | succ j hij ih =>
      intro hj
      have hstep := stepped_of_next (h.next j hj)
      rcases ih (Nat.le_of_succ_le hj) with ⟨written, hdenying⟩ | hdone
      · exact hstep.refusal hdenying (hcancelled j hij hj)
      · exact absurd hdone (hstep.not_done _)
  rcases hkept n hi (Nat.le_refl n) with ⟨written, hdenying⟩ | hdone
  · rw [hdenying] at hend
    cases hend
  · rw [hdone] at hend
    cases hend
    rfl

end

/-! ## without a fault -/

def Ending.ofResult {α : Type} : Except Failure α → Ending α
  | .ok value => .returned value
  | .error e => .failed (.raised e)

section
variable (alnum : Char → Bool) {α : Type} (cmd : AuditedCommand α)

/-- the frame as one step -/
def AuditedCommand.run (s : Postgres) : Except Failure α × Postgres :=
  match cmd.entry with
  | .ok () => runAuditedStored alnum cmd.context cmd.action cmd.targetUserId cmd.targetRoleId
      cmd.operation s
  | .error e => (.error e, s)

end

section
variable {alnum : Char → Bool} {α : Type} {cmd : AuditedCommand α} {s : Postgres}

theorem undisturbed_unwinding {e : Failure}
    (hdenied : ∀ r, e = .rbac r → ((cmd.denied r).validate alnum).isOk = true)
    (h : Reachable (cmd.system alnum s) ⟨s, .unwinding (.raised e)⟩) :
    Reachable (cmd.system alnum s)
      ⟨⟨s.db, s.audit ++ deniedAudit cmd.context cmd.action cmd.targetUserId cmd.targetRoleId e⟩,
        .done (.failed (.raised e))⟩ := by
  have hunwound : Reachable (cmd.system alnum s) ⟨s, unwound (.raised e)⟩ := .step .proceed h rfl
  have hsilent (hrows : deniedAudit cmd.context cmd.action cmd.targetUserId cmd.targetRoleId e = [])
      (hphase : unwound (α := α) (.raised e) = .done (.failed (.raised e))) :
      Reachable (cmd.system alnum s)
        ⟨⟨s.db, s.audit ++ deniedAudit cmd.context cmd.action cmd.targetUserId cmd.targetRoleId e⟩,
          .done (.failed (.raised e))⟩ := by
    rw [hrows, List.append_nil]
    rw [hphase] at hunwound
    exact hunwound
  cases e with
  | rbac r =>
    by_cases hstatus : r.statusCode < 500
    · have hrows : deniedAudit cmd.context cmd.action cmd.targetUserId cmd.targetRoleId (.rbac r) =
          [.rbac (cmd.denied r)] := if_pos hstatus
      have hphase : unwound (α := α) (.raised (.rbac r)) = .denying r false := if_pos hstatus
      rw [hphase] at hunwound
      rw [hrows]
      have hwritten : Reachable (cmd.system alnum s)
          ⟨withRow s s.db (cmd.denied r), .denying r true⟩ :=
        .step .commit hunwound (if_pos (hdenied r rfl))
      exact .step .proceed hwritten rfl
    · exact hsilent (if_neg hstatus) (if_neg hstatus)
  | _ => exact hsilent rfl rfl

/-- **without a fault of its own the machine ends as the frame does** -/
theorem undisturbed (hdenied : ∀ e, cmd.operation s.db = .error (.rbac e) →
      ((cmd.denied e).validate alnum).isOk = true) :
    Reachable (cmd.system alnum s)
      ⟨(cmd.run alnum s).2, .done (.ofResult (cmd.run alnum s).1)⟩ := by
  have hstart : Reachable (cmd.system alnum s) (entered cmd s) := .init rfl
  unfold AuditedCommand.run
  unfold entered at hstart
  cases hentry : cmd.entry with
  | error e =>
    rw [hentry] at hstart
    exact hstart
  | ok u =>
    rw [hentry] at hstart
    have hraised {e : Failure}
        (hvalid : ∀ r, e = .rbac r → ((cmd.denied r).validate alnum).isOk = true)
        (h : Reachable (cmd.system alnum s) ⟨s, .unwinding (.raised e)⟩)
        (hbody : storedBody alnum cmd.context cmd.action cmd.targetUserId cmd.targetRoleId
          cmd.operation s.db = .error e) : Reachable (cmd.system alnum s)
          ⟨(runAuditedStored alnum cmd.context cmd.action cmd.targetUserId cmd.targetRoleId
            cmd.operation s).2, .done (.ofResult (runAuditedStored alnum cmd.context cmd.action
              cmd.targetUserId cmd.targetRoleId cmd.operation s).1)⟩ := by
      unfold runAuditedStored transact
      rw [hbody]
      exact undisturbed_unwinding hvalid h
    cases hoperation : cmd.operation s.db with
    | error e =>
      have hbody : storedBody alnum cmd.context cmd.action cmd.targetUserId cmd.targetRoleId
          cmd.operation s.db = .error e := by
        unfold storedBody
        rw [hoperation]
        rfl
      refine hraised (fun r hr => hdenied r (hr ▸ hoperation)) ?_ hbody
      exact .step .proceed hstart (next_of_stepped (.refused hoperation))
    | ok result =>
      obtain ⟨outcome, working⟩ := result
      have hbuilding : Reachable (cmd.system alnum s) ⟨s, .building outcome working⟩ :=
        .step .proceed hstart (next_of_stepped (.succeeded hoperation))
      have hbody : storedBody alnum cmd.context cmd.action cmd.targetUserId cmd.targetRoleId
          cmd.operation s.db = (require (working.fits = true) (.database "bigint out of range") >>=
            fun _ => (cmd.allowed outcome).store alnum >>= fun _ =>
              pure (outcome.value, working, [.rbac (cmd.allowed outcome)])) := by
        unfold storedBody
        rw [hoperation]
        rfl
      by_cases hfits : working.fits = true
      · rw [(require_ok _ _ ()).mpr hfits] at hbody
        cases hvalid : (cmd.allowed outcome).validate alnum with
        | error message =>
          have hstore : (cmd.allowed outcome).store alnum = .error (.valueError message) := by
            unfold RbacAuditEvent.store
            rw [hvalid]
          rw [hstore] at hbody
          refine hraised (fun r hr => by cases hr) ?_ hbody
          exact .step .proceed hbuilding (next_of_stepped (.invalid hvalid))
        | ok u =>
          have hcommitting : Reachable (cmd.system alnum s) ⟨s, .committing outcome working⟩ :=
            .step .proceed hbuilding (next_of_stepped (.built hvalid))
          by_cases hstorable : storable (cmd.allowed outcome) = true
          · have hstore : (cmd.allowed outcome).store alnum = .ok () := by
              unfold RbacAuditEvent.store
              rw [hvalid]
              exact (require_ok _ _ ()).mpr (Bool.and_eq_true _ _ |>.mp hstorable)
            rw [hstore] at hbody
            have hclosing : Reachable (cmd.system alnum s)
                ⟨withRow s working (cmd.allowed outcome), .closing outcome.value⟩ :=
              .step .commit hcommitting (next_of_stepped (.committed hstorable))
            dsimp only
            unfold runAuditedStored transact
            rw [hbody]
            exact .step .proceed hclosing rfl
          · -- the driver refuses the row at its flush
            have hstore : (cmd.allowed outcome).store alnum =
                .error (.database "invalid byte sequence for encoding \"UTF8\": 0x00") := by
              unfold RbacAuditEvent.store
              rw [hvalid]
              exact (require_error _ _ _).mpr
                ⟨fun h => hstorable (Bool.and_eq_true _ _ |>.mpr h), rfl⟩
            rw [hstore] at hbody
            refine hraised (fun r hr => by cases hr) ?_ hbody
            exact .step (.fault (.raised _)) hcommitting rfl
      · rw [(require_error _ _ _).mpr ⟨hfits, rfl⟩] at hbody
        refine hraised (fun r hr => by cases hr) ?_ hbody
        exact .step (.fault (.raised (.database "bigint out of range"))) hbuilding rfl

end

/-! ## the commands of the service -/

/-- the operation of the store that a command is -/
def ServiceCommand.operation : ServiceCommand → Operation
  | .updateUserStatus c t a => .updateUserStatus c t a
  | .revokeUserSessions c t => .revokeUserSessions c t
  | .changeUserRoles c t ids o => .changeUserRoles c t ids o
  | .createRole c r q => .createRole c r q
  | .updateRole c r q v => .updateRole c r q v
  | .setRoleActive c r a v => .setRoleActive c r a v
  | .softDeleteRole c r v => .softDeleteRole c r v
  | .changeRolePermissions c r ids o v => .changeRolePermissions c r ids o v

/-- the frame as one step is the step of the store -/
theorem run_audited (alnum : Char → Bool) (lib : PasswordLibrary) (c : ServiceCommand) (now : Nat)
    (s : Postgres) :
    discard ((c.audited now).run alnum s) = c.operation.runStored alnum lib now s := by
  cases c with
  | changeUserRoles c t ids o =>
    unfold AuditedCommand.run ServiceCommand.audited ServiceCommand.operation Operation.runStored
    by_cases h : ids = []
    · simp only [h, require]
      rfl
    · simp only [(require_ok _ _ ()).mpr h, if_neg h]
      rfl
  | changeRolePermissions c r ids o v =>
    unfold AuditedCommand.run ServiceCommand.audited ServiceCommand.operation Operation.runStored
    by_cases h : ids = []
    · simp only [h, require]
      rfl
    · simp only [(require_ok _ _ ()).mpr h, if_neg h]
      rfl
  | _ => rfl

/-- **the outcome of a command, the tables and the audit rows agree**, whatever fails on the way -/
theorem outcome_agrees (alnum : Char → Bool) (c : ServiceCommand) (now : Nat) (s : Postgres)
    {st : Nat → Running c.Value} {lab : Nat → Event} {n : Nat}
    (h : IsRun ((c.audited now).system alnum s) st lab n) :
    (∀ value, (st n).phase = .done (.returned value) →
      Allowed (c.audited now) s value (st n).store) ∧
    (∀ e, e.statusCode < 500 → (st n).phase = .done (.failed (.raised (.rbac e))) →
      (st n).store = s ∨ Evidenced (c.audited now) s e (st n).store) ∧
    (∀ i ≤ n, ∀ e written, (st i).phase = .denying e written →
      (∀ k, i ≤ k → k < n → lab k ≠ .fault .cancelled) → ∀ ending, (st n).phase = .done ending →
        ending = .failed (.raised (.rbac e))) ∧
    ((∀ k < n, lab k ≠ .commit) → (st n).store = s) ∧
    (∀ i ≤ n, (st i).store = s ∨ (∃ e, e.statusCode < 500 ∧
      Evidenced (c.audited now) s e (st i).store) ∨
        ∃ value, Allowed (c.audited now) s value (st i).store) := by
  have hagrees {i : Nat} (hi : i ≤ n) := agrees_run h hi
  refine ⟨?_, ?_, ?_, store_run h, fun i hi => (hagrees hi).whole⟩
  · intro value hphase
    have hn := hagrees (Nat.le_refl n)
    unfold Agrees at hn
    rw [hphase] at hn
    exact hn
  · intro e hstatus hphase
    have hn := hagrees (Nat.le_refl n)
    unfold Agrees at hn
    rw [hphase] at hn
    exact hn.refused
  · intro i hi e written hphase hcancelled ending hend
    exact refusal_run h hi hphase hcancelled hend

def follow {α : Type} (alnum : Char → Bool) (cmd : AuditedCommand α) (s : Postgres)
    (events : Nat → Event) : Nat → Running α
  | 0 => entered cmd s
  | i + 1 => (next alnum cmd (follow alnum cmd s events i) (events i)).getD
      (follow alnum cmd s events i)

theorem isRun_follow {α : Type} {alnum : Char → Bool} {cmd : AuditedCommand α} {s : Postgres}
    {events : Nat → Event} {n : Nat}
    (h : ∀ i < n, (next alnum cmd (follow alnum cmd s events i) (events i)).isSome = true) :
    IsRun (cmd.system alnum s) (follow alnum cmd s events) events n := by
  refine ⟨rfl, fun i hi => ?_⟩
  obtain ⟨r, hr⟩ := Option.isSome_iff_exists.mp (h i hi)
  show next alnum cmd _ _ = some ((next alnum cmd _ _).getD _)
  rw [hr]
  rfl

def Running.value? {α : Type} (r : Running α) : Option α :=
  match r.phase with
  | .done (.returned value) => some value
  | _ => none

def Running.refusal? {α : Type} (r : Running α) : Option RbacError :=
  match r.phase with
  | .done (.failed (.raised (.rbac e))) => some e
  | _ => none

theorem phase_of_value? {α : Type} {r : Running α} {value : α} (h : r.value? = some value) :
    r.phase = .done (.returned value) := by
  unfold Running.value? at h
  split at h
  · cases h
    assumption
  · cases h

theorem phase_of_refusal? {α : Type} {r : Running α} {e : RbacError} (h : r.refusal? = some e) :
    r.phase = .done (.failed (.raised (.rbac e))) := by
  unfold Running.refusal? at h
  split at h
  · cases h
    assumption
  · cases h

def creating : ServiceCommand :=
  .createRole (bearer alice 0) carol (describing "edits the articles")

/-- the built row is followed by a `COMMIT` -/
def succeeding (i : Nat) : Event := [.proceed, .proceed, .commit].getD i .proceed

/-- the super administrator may not disable herself -/
def resigning : ServiceCommand := .updateUserStatus (bearer alice 0) alice false

/-- the connection is lost behind the `COMMIT` of the refusal -/
def losing (i : Nat) : Event :=
  [.proceed, .proceed, .commit].getD i (.fault (.raised (.database "connection reset")))

theorem outcome_agrees_creating :
    (∃ value, Allowed (creating.audited 2) appointed value
      (follow (fun _ => false) (creating.audited 2) appointed succeeding 4).store) ∧
    ∃ e, e.statusCode = 403 ∧ ((follow (fun _ => false) (resigning.audited 2) appointed losing
      4).store = appointed ∨ Evidenced (resigning.audited 2) appointed e
        (follow (fun _ => false) (resigning.audited 2) appointed losing 4).store) := by
  constructor
  · have hrun : IsRun ((creating.audited 2).system (fun _ => false) appointed)
        (follow (fun _ => false) (creating.audited 2) appointed succeeding) succeeding 4 := by
      refine isRun_follow fun i hi => ?_
      interval_cases i
      all_goals decide +kernel
    have hvalue : (follow (fun _ => false) (creating.audited 2) appointed succeeding
        4).value?.isSome = true := by decide +kernel
    obtain ⟨value, hreturned⟩ := Option.isSome_iff_exists.mp hvalue
    obtain ⟨hallowed, -⟩ := outcome_agrees (fun _ => false) creating 2 appointed hrun
    exact ⟨value, hallowed value (phase_of_value? hreturned)⟩
  · have hrun : IsRun ((resigning.audited 2).system (fun _ => false) appointed)
        (follow (fun _ => false) (resigning.audited 2) appointed losing) losing 4 := by
      refine isRun_follow fun i hi => ?_
      interval_cases i
      all_goals decide +kernel
    have hrefusal : (follow (fun _ => false) (resigning.audited 2) appointed losing
        4).refusal?.map RbacError.statusCode = some 403 := by decide +kernel
    obtain ⟨e, hraised, hstatus⟩ := Option.map_eq_some_iff.mp hrefusal
    obtain ⟨-, hrefused, -⟩ := outcome_agrees (fun _ => false) resigning 2 appointed hrun
    exact ⟨e, hstatus, hrefused e (hstatus ▸ by decide) (phase_of_refusal? hraised)⟩

end PgRbac
