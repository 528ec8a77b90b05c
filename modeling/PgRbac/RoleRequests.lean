import PgRbac.Sanitizer
import PgRbac.Holder

/-!
# Every role request is answered, unless its texts are refused

The frame of a command with its audit row built and stored in the transaction, and the runs of the
store under it.  Every stored role has texts that an audit row can hold; a new text may have none.

* `runAuditedStored`, `storedSystem`    the frame and its runs, with requests of the schema;
* `GoodRole`, `goodRoles_reachable`     the texts of every stored role;
* `CreateAdmitted`, `UpdateAdmitted`    the guards of the two commands;
* `role_requests_answered`              an admitted request is answered exactly when its texts are
                                        writable.
-/

set_option linter.unusedVariables false

namespace PgRbac

open Fallible Store Trace

/-! ## commands with their rows -/

section
variable (alnum : Char → Bool)

/-- an operation and the row of its success -/
def storedBody {α : Type} (context : AuthorizationContext) (action : String)
    (targetUserId targetRoleId : Option Uuid)
    (operation : Db → Except Failure (MutationOutcome α × Db)) (db : Db) :
    Except Failure (α × Db × List AuditRow) := do
  let (outcome, db') ← operation db
  require (db'.fits = true) (.database "bigint out of range")
  let event := auditEvent context action "allowed" outcome.reasonCode targetUserId
    (outcome.auditTargetRoleId <|> targetRoleId) outcome.beforeState outcome.afterState
  event.store alnum
  pure (outcome.value, db', [.rbac event])

/-- `_run_audited`: the row of a success belongs to the transaction -/
def runAuditedStored {α : Type} (context : AuthorizationContext) (action : String)
    (targetUserId targetRoleId : Option Uuid)
    (operation : Db → Except Failure (MutationOutcome α × Db)) :
    Postgres → Except Failure α × Postgres :=
  transact (storedBody alnum context action targetUserId targetRoleId operation)
    (deniedAudit context action targetUserId targetRoleId)

def createRoleStored (context : AuthorizationContext) (roleId : Uuid) (request : RoleCreateRequest) :
    Postgres → Except Failure RoleMutationResponse × Postgres :=
  runAuditedStored alnum context "role.create" none (some roleId)
    (createRoleBody context roleId request)

def updateRoleStored (context : AuthorizationContext) (roleId : Uuid) (request : RoleUpdateRequest)
    (expectedVersion : Nat) : Postgres → Except Failure RoleMutationResponse × Postgres :=
  runAuditedStored alnum context "role.update" none (some roleId)
    (updateRoleBody context roleId request expectedVersion)

/-- a transaction whose tables cannot hold its counters is rolled back -/
def fitting (s : Postgres) (x : Except Failure Unit × Postgres) : Except Failure Unit × Postgres :=
  if x.2.db.fits then x else (.error (.database "bigint out of range"), s)

/-- the commands of the service with their rows; the rows of the others hold no text of a request -/
def Operation.runStored (lib : PasswordLibrary) (now : Nat) :
    Operation → Postgres → Except Failure Unit × Postgres
  | .updateUserStatus c t a, s => discard (runAuditedStored alnum c "user.status.update" (some t)
      none (updateUserStatusBody c t a) s)
  | .revokeUserSessions c t, s => discard (runAuditedStored alnum c "user.sessions.revoke" (some t)
      none (revokeUserSessionsBody c t) s)
  | .changeUserRoles c t ids o, s =>
    if ids = [] then (.error (invalidRequest "role_ids_required"), s)
    else discard (runAuditedStored alnum c ("user.roles." ++ o.value) (some t) none
      (changeUserRolesBody c t (sortIds ids.dedup) o now) s)
  | .createRole c r q, s => discard (createRoleStored alnum c r q s)
  | .updateRole c r q v, s => discard (updateRoleStored alnum c r q v s)
  | .setRoleActive c r a v, s => discard (runAuditedStored alnum c ("role." ++ setRoleActiveVerb a)
      none (some r) (setRoleActiveBody c r a v) s)
  | .softDeleteRole c r v, s => discard (runAuditedStored alnum c "role.delete" none (some r)
      (softDeleteRoleBody c r v now) s)
  | .changeRolePermissions c r ids o v, s =>
    if ids = [] then (.error (invalidRequest "permission_ids_required"), s)
    else discard (runAuditedStored alnum c ("role.permissions." ++ o.value) none (some r)
      (changeRolePermissionsBody c r ids.dedup o v now) s)
  | op, s => fitting s (op.run lib now s)

end

/-! ## the request schema -/

def RoleCreateRequest.Accepted (q : RoleCreateRequest) : Prop :=
  roleKeyFormat q.key = true ∧ 1 ≤ q.name.toList.length ∧ q.name.toList.length ≤ 160 ∧
    q.description.toList.length ≤ 1000 ∧ 1 ≤ q.managementTier ∧ q.managementTier ≤ 999

/-- a field that is given is no null, and one is given -/
def RoleUpdateRequest.Accepted (q : RoleUpdateRequest) : Prop :=
  (q.name.isSome = true ∨ q.description.isSome = true) ∧
    (∀ name ∈ q.name, 1 ≤ name.toList.length ∧ name.toList.length ≤ 160) ∧
    ∀ description ∈ q.description, description.toList.length ≤ 1000

def Operation.Accepted : Operation → Prop
  | .createRole _ _ q => q.Accepted
  | .updateRole _ _ q _ => q.Accepted
  | _ => True

/-- the store, with the requests that the schema lets through -/
def storedSystem (alnum : Char → Bool) (lib : PasswordLibrary) : System Postgres Call where
  init s := s = migrated
  step s c s' := c.operation.Accepted ∧ (c.operation.runStored alnum lib c.now s).2 = s'

/-! ## what a step does -/

section
variable {alnum : Char → Bool} {lib : PasswordLibrary} {α : Type} {context : AuthorizationContext}
  {action : String} {tu tr : Option Uuid}
  {operation : Db → Except Failure (MutationOutcome α × Db)} {s s' : Postgres}

theorem runAuditedStored_of_error {e : Failure} (h : operation s.db = .error e) :
    (runAuditedStored alnum context action tu tr operation s).1 = .error e := by
  have hbody : storedBody alnum context action tu tr operation s.db = .error e := by
    unfold storedBody
    rw [h]
    rfl
  unfold runAuditedStored transact
  rw [hbody]

theorem runAuditedStored_of_overflow {outcome : MutationOutcome α} {db' : Db}
    (h : operation s.db = .ok (outcome, db')) (hfits : ¬ db'.fits = true) :
    (runAuditedStored alnum context action tu tr operation s).1 =
      .error (.database "bigint out of range") := by
  have hbody : storedBody alnum context action tu tr operation s.db =
      .error (.database "bigint out of range") := by
    unfold storedBody
    rw [h]
    show (require _ _ >>= fun _ => _) = _
    rw [(require_error _ _ _).mpr ⟨hfits, rfl⟩]
    rfl
  unfold runAuditedStored transact
  rw [hbody]

variable (alnum context action tu tr) in
theorem runAuditedStored_of_ok {outcome : MutationOutcome α} {db' : Db}
    (h : operation s.db = .ok (outcome, db')) (hfits : db'.fits = true) :
    ∃ event : RbacAuditEvent, event.action = action ∧ event.reasonCode = outcome.reasonCode ∧
      event.beforeState = outcome.beforeState ∧ event.afterState = outcome.afterState ∧
      event.requestId = context.requestId ∧
      (runAuditedStored alnum context action tu tr operation s).1 =
        (event.store alnum).map fun _ => outcome.value := by
  refine ⟨auditEvent context action "allowed" outcome.reasonCode tu
    (outcome.auditTargetRoleId <|> tr) outcome.beforeState outcome.afterState,
    rfl, rfl, rfl, rfl, rfl, ?_⟩
  cases hstore : (auditEvent context action "allowed" outcome.reasonCode tu
    (outcome.auditTargetRoleId <|> tr) outcome.beforeState outcome.afterState).store alnum with
  | ok u =>
    have hbody : storedBody alnum context action tu tr operation s.db =
        .ok (outcome.value, db', [.rbac (auditEvent context action "allowed" outcome.reasonCode tu
          (outcome.auditTargetRoleId <|> tr) outcome.beforeState outcome.afterState)]) := by
      unfold storedBody
      rw [h]
      show (require _ _ >>= fun _ => RbacAuditEvent.store alnum _ >>= fun _ => _) = _
      rw [(require_ok _ _ ()).mpr hfits]
      show (RbacAuditEvent.store alnum _ >>= fun _ => _) = _
      rw [hstore]
      rfl
    unfold runAuditedStored transact
    rw [hbody]
    rfl
  | error e =>
    have hbody : storedBody alnum context action tu tr operation s.db = .error e := by
      unfold storedBody
      rw [h]
      show (require _ _ >>= fun _ => RbacAuditEvent.store alnum _ >>= fun _ => _) = _
      rw [(require_ok _ _ ()).mpr hfits]
      show (RbacAuditEvent.store alnum _ >>= fun _ => _) = _
      rw [hstore]
      rfl
    unfold runAuditedStored transact
    rw [hbody]
    rfl

theorem storedBody_ok {value : α} {db db' : Db} {rows : List AuditRow}
    (h : storedBody alnum context action tu tr operation db = .ok (value, db', rows)) :
    ∃ outcome, operation db = .ok (outcome, db') ∧ db'.fits = true ∧
      StateWritable alnum outcome.beforeState ∧ StateWritable alnum outcome.afterState := by
  unfold storedBody at h
  simp only [bind_ok, require_ok, Prod.exists, pure_ok, Prod.mk.injEq] at h
  obtain ⟨outcome, db'', hoperation, _, hfits, _, hstore, -, rfl, -⟩ := h
  exact ⟨outcome, hoperation, hfits, store_writable hstore⟩

variable (alnum) in
theorem runAuditedStored_db {context : AuthorizationContext} {action : String} {tu tr : Option Uuid}
    {operation : Db → Except Failure (MutationOutcome α × Db)} (s : Postgres) :
    (runAuditedStored alnum context action tu tr operation s).2.db = s.db ∨
      ∃ outcome, operation s.db =
          .ok (outcome, (runAuditedStored alnum context action tu tr operation s).2.db) ∧
        (runAuditedStored alnum context action tu tr operation s).2.db.fits = true ∧
        StateWritable alnum outcome.beforeState ∧ StateWritable alnum outcome.afterState := by
  cases hrun : runAuditedStored alnum context action tu tr operation s with
  | mk result s' =>
  cases result with
  | error e => exact .inl (transact_error hrun).2
  | ok value =>
    obtain ⟨rows, hbody, -⟩ := transact_ok hrun
    exact .inr (storedBody_ok hbody)

variable (alnum lib) in
theorem runStored_db (now : Nat) (op : Operation) (s : Postgres) :
    (op.runStored alnum lib now s).2.db = s.db ∨
      op.body lib now s.db = .ok (op.runStored alnum lib now s).2.db := by
  have haudited {α : Type} {context : AuthorizationContext} {action : String} {tu tr : Option Uuid}
      {operation : Db → Except Failure (MutationOutcome α × Db)} :
      (discard (runAuditedStored alnum context action tu tr operation s)).2.db = s.db ∨
        (operation s.db).map Prod.snd =
          .ok (discard (runAuditedStored alnum context action tu tr operation s)).2.db := by
    rcases runAuditedStored_db alnum s with hdb | ⟨outcome, hoperation, -, -⟩
    · exact .inl hdb
    · refine .inr ?_
      rw [hoperation]
      rfl
  have hother (op : Operation) : (fitting s (op.run lib now s)).2.db = s.db ∨
      op.body lib now s.db = .ok (fitting s (op.run lib now s)).2.db := by
    unfold fitting
    split
    · rcases ends_run lib now op s with ⟨-, hbody⟩ | ⟨-, hdb⟩
      · exact .inr hbody
      · exact .inl hdb
    · exact .inl rfl
  cases op with
  | changeUserRoles c t ids o =>
    by_cases h : ids = []
    · simp only [Operation.runStored, if_pos h]
      exact .inl trivial
    · simp only [Operation.runStored, Operation.body, if_neg h]
      exact haudited
  | changeRolePermissions c r ids o v =>
    by_cases h : ids = []
    · simp only [Operation.runStored, if_pos h]
      exact .inl trivial
    · simp only [Operation.runStored, Operation.body, if_neg h]
      exact haudited
  | updateUserStatus c t a => exact haudited
  | revokeUserSessions c t => exact haudited
  | createRole c r q => exact haudited
  | updateRole c r q v => exact haudited
  | setRoleActive c r a v => exact haudited
  | softDeleteRole c r v => exact haudited
  | setRegistrationEnabled c e => exact hother _
  | register n h u q => exact hother _
  | createUserByAdministrator c n h u => exact hother _
  | lockedLogin p h t => exact hother _
  | changePassword c p h => exact hother _
  | completePasswordReset p h q => exact hother _
  | resetUserPassword c t pw h m => exact hother _
  | operatorReset u pw h q => exact hother _
  | bootstrap u => exact hother _
  | handover o n => exact hother _

theorem runStored_fits (now : Nat) (op : Operation) {s : Postgres} (h : s.db.fits = true) :
    (op.runStored alnum lib now s).2.db.fits = true := by
  have haudited {α : Type} {context : AuthorizationContext} {action : String} {tu tr : Option Uuid}
      {operation : Db → Except Failure (MutationOutcome α × Db)} :
      (discard (runAuditedStored alnum context action tu tr operation s)).2.db.fits = true := by
    show (runAuditedStored alnum context action tu tr operation s).2.db.fits = true
    rcases runAuditedStored_db alnum s with hdb | ⟨-, -, hfits, -, -⟩
    · rw [hdb]
      exact h
    · exact hfits
  have hother (op : Operation) : (fitting s (op.run lib now s)).2.db.fits = true := by
    unfold fitting
    split
    · assumption
    · exact h
  cases op with
  | changeUserRoles c t ids o =>
    simp only [Operation.runStored]
    split
    · exact h
    · exact haudited
  | changeRolePermissions c r ids o v =>
    simp only [Operation.runStored]
    split
    · exact h
    · exact haudited
  | updateUserStatus c t a => exact haudited
  | revokeUserSessions c t => exact haudited
  | createRole c r q => exact haudited
  | updateRole c r q v => exact haudited
  | setRoleActive c r a v => exact haudited
  | softDeleteRole c r v => exact haudited
  | _ => exact hother _

theorem reachable_fits (h : Reachable (storedSystem alnum lib) s) : s.db.fits = true := by
  refine h.invariant (P := fun s => s.db.fits = true) ?_ ?_
  · rintro s rfl
    decide +kernel
  · intro s c s' hs hstep
    obtain ⟨-, rfl⟩ := hstep
    exact runStored_fits c.now c.operation hs

theorem reachable_stored_standing (h : Reachable (storedSystem alnum lib) s) : Standing s.db := by
  refine h.invariant (P := fun s => Standing s.db) ?_ ?_
  · rintro s rfl
    exact migrated_standing
  · intro s c s' hs hstep
    obtain ⟨-, rfl⟩ := hstep
    rcases runStored_db alnum lib c.now c.operation s with hdb | hbody
    · rw [hdb]
      exact hs
    · exact (kept_body hs hbody).standing

end

/-! ## the texts of the stored roles -/

/-- a role that requests of the schema created and described -/
structure GoodRole (alnum : Char → Bool) (r : Role) : Prop where
  key : roleKeyFormat r.key = true
  nameLength : r.name.toList.length ≤ 160
  descriptionLength : r.description.toList.length ≤ 1000
  name : Writable alnum r.name
  description : Writable alnum r.description

def GoodRoles (alnum : Char → Bool) (db : Db) : Prop :=
  ∀ id r, db.roles.get? id = some r → GoodRole alnum r

section
variable {alnum : Char → Bool} {lib : PasswordLibrary} {db db' : Db}

theorem GoodRoles.frame (h : GoodRoles alnum db) (he : db'.roles = db.roles) : GoodRoles alnum db' :=
  fun id r hr => h id r (he ▸ hr)

theorem GoodRoles.modify (h : GoodRoles alnum db) {roleId : Uuid} {f : RolePatch}
    {roles : Table Role.id Role.key Role.checks} (ht : db.roles.modify? roleId f = .ok roles)
    (he : db'.roles = roles) (hf : ∀ r, GoodRole alnum r → GoodRole alnum (f.apply r)) :
    GoodRoles alnum db' := by
  intro id r hr
  rw [he, Table.get?_modify? ht] at hr
  split at hr
  · obtain ⟨r', hr', rfl⟩ := Option.map_eq_some_iff.mp hr
    exact hf r' (h id r' hr')
  · exact h id r hr

theorem GoodRole.patched {f : RolePatch} {r : Role} (h : GoodRole alnum r)
    (hname : (f.apply r).name = r.name) (hdescription : (f.apply r).description = r.description) :
    GoodRole alnum (f.apply r) := by
  refine ⟨(f.uniq_eq r).symm ▸ h.key, ?_, ?_, ?_, ?_⟩
  · rw [hname]
    exact h.nameLength
  · rw [hdescription]
    exact h.descriptionLength
  · rw [hname]
    exact h.name
  · rw [hdescription]
    exact h.description

theorem goodRoles_body (h : GoodRoles alnum db) {now : Nat} {op : Operation}
    (hcreate : ∀ c r q, op ≠ .createRole c r q) (hupdate : ∀ c r q v, op ≠ .updateRole c r q v)
    (hbody : op.body lib now db = .ok db') : GoodRoles alnum db' := by
  cases op with
  | updateUserStatus c t a =>
    obtain ⟨⟨o, _⟩, ho, rfl⟩ := (map_ok _ _ _).mp hbody
    obtain ⟨-, -, -, ⟨-, rfl⟩ | ⟨-, t, ht, rfl⟩⟩ := updateUserStatusBody_ok ho
    · exact h
    · exact h.frame rfl
  | revokeUserSessions c t =>
    obtain ⟨⟨o, _⟩, ho, rfl⟩ := (map_ok _ _ _).mp hbody
    obtain ⟨-, -, -, t, ht, rfl⟩ := revokeUserSessionsBody_ok ho
    exact h.frame rfl
  | changeUserRoles c t ids o =>
    simp only [Operation.body] at hbody
    split at hbody
    · cases hbody
    · obtain ⟨⟨o, _⟩, ho, rfl⟩ := (map_ok _ _ _).mp hbody
      obtain ⟨-, -, -, -, rfl | ⟨userRoles, users, -, hu, rfl⟩⟩ := changeUserRolesBody_ok ho
      · exact h
      · exact h.frame rfl
  | createRole c r q => exact absurd rfl (hcreate c r q)
  | updateRole c r q v => exact absurd rfl (hupdate c r q v)
  | setRoleActive c r a v =>
    obtain ⟨⟨o, _⟩, ho, rfl⟩ := (map_ok _ _ _).mp hbody
    obtain ⟨-, -, -, -, rfl | ⟨roles, users, hr, hu, rfl⟩⟩ := setRoleActiveBody_ok ho
    · exact h
    · exact h.modify hr rfl fun r hr => hr.patched rfl rfl
  | softDeleteRole c r v =>
    obtain ⟨⟨o, _⟩, ho, rfl⟩ := (map_ok _ _ _).mp hbody
    obtain ⟨locked, -, -, -, roles, users, hr, hu, rfl⟩ := softDeleteRoleBody_ok ho
    exact h.modify hr rfl fun r hr => hr.patched rfl rfl
  | changeRolePermissions c r ids o v =>
    simp only [Operation.body] at hbody
    split at hbody
    · cases hbody
    · obtain ⟨⟨o, _⟩, ho, rfl⟩ := (map_ok _ _ _).mp hbody
      obtain ⟨-, -, -, -, -, -, -, -, -, -, -, -, -, -,
        rfl | ⟨rolePermissions, roles, users, hw, hr, hu, rfl⟩⟩ := changeRolePermissionsBody_ok ho
      · exact h
      · exact h.modify hr rfl fun r hr => hr.patched rfl rfl
  | setRegistrationEnabled c e =>
    obtain ⟨⟨v, _, rows⟩, ho, rfl⟩ := (map_ok _ _ _).mp hbody
    obtain ⟨state, he, rfl⟩ := setRegistrationEnabledBody_ok ho
    exact h.frame rfl
  | register n hash u q =>
    obtain ⟨⟨v, _, rows⟩, ho, rfl⟩ := (map_ok _ _ _).mp hbody
    obtain ⟨-, -, name, role, users, users', userRoles, hnew⟩ := registerBody_ok ho
    exact h.frame (by rw [hnew.result]; rfl)
  | createUserByAdministrator c n hash u =>
    obtain ⟨⟨v, _, rows⟩, ho, rfl⟩ := (map_ok _ _ _).mp hbody
    obtain ⟨-, -, name, role, users, users', userRoles, hnew⟩ := createUserByAdministratorBody_ok ho
    exact h.frame (by rw [hnew.result]; rfl)
  | lockedLogin p hash t =>
    obtain ⟨⟨v, _⟩, ho, rfl⟩ := (map_ok _ _ _).mp hbody
    obtain rfl | ⟨hash', users, ht, rfl⟩ := lockedLoginBody_ok ho
    · exact h
    · exact h.frame rfl
  | changePassword c p hash =>
    obtain ⟨⟨v, _, rows⟩, ho, rfl⟩ := (map_ok _ _ _).mp hbody
    obtain ⟨-, -, users, ht, rfl⟩ := changePasswordBody_ok ho
    exact h.frame rfl
  | completePasswordReset p hash q =>
    obtain ⟨⟨v, _, rows⟩, ho, rfl⟩ := (map_ok _ _ _).mp hbody
    obtain ⟨-, -, -, users, ht, rfl⟩ := completePasswordResetBody_ok ho
    exact h.frame rfl
  | resetUserPassword c t pw hash m =>
    obtain ⟨⟨v, _, rows⟩, ho, rfl⟩ := (map_ok _ _ _).mp hbody
    obtain ⟨-, -, -, -, -, _, users, ht, rfl⟩ := resetUserPasswordBody_ok ho
    exact h.frame rfl
  | operatorReset u pw hash q =>
    obtain ⟨⟨v, _, rows⟩, ho, rfl⟩ := (map_ok _ _ _).mp hbody
    obtain ⟨-, -, -, users, ht, rfl⟩ := operatorResetBody_ok ho
    exact h.frame rfl
  | bootstrap u =>
    obtain ⟨⟨v, _, rows⟩, ho, rfl⟩ := (map_ok _ _ _).mp hbody
    obtain ⟨-, -, -, -, -, -, ⟨rfl, -⟩ | ⟨-, -, userRoles, users, -, hu, rfl⟩⟩ := bootstrapBody_ok ho
    · exact h
    · exact h.frame rfl
  | handover o n =>
    obtain ⟨⟨v, _, rows⟩, ho, rfl⟩ := (map_ok _ _ _).mp hbody
    obtain ⟨-, -, -, -, -, -, -, -, -, -, -, -, userRoles, users, -, hu, rfl⟩ := handoverBody_ok ho
    exact h.frame rfl

theorem createRoleBody_row {context : AuthorizationContext} {roleId : Uuid}
    {request : RoleCreateRequest} {outcome : MutationOutcome RoleMutationResponse}
    (h : createRoleBody context roleId request db = .ok (outcome, db')) :
    outcome.beforeState = none ∧
      outcome.afterState = some (.role (roleResponse (newRole roleId request) ∅)) ∧
      outcome.reasonCode = "role_created" := by
  unfold createRoleBody at h
  simp only [bind_ok, pure_ok, Prod.mk.injEq] at h
  obtain ⟨_, _, _, _, _, _, _, _, _, _, _, _, rfl, _⟩ := h
  exact ⟨rfl, rfl, rfl⟩

theorem goodRoles_createRole (h : GoodRoles alnum db) {context : AuthorizationContext}
    {roleId : Uuid} {request : RoleCreateRequest} {outcome : MutationOutcome RoleMutationResponse}
    (hq : request.Accepted) (hbody : createRoleBody context roleId request db = .ok (outcome, db'))
    (hafter : StateWritable alnum outcome.afterState) : GoodRoles alnum db' := by
  obtain ⟨-, -, -, -, -, roles, ht, rfl⟩ := createRoleBody_ok hbody
  rw [(createRoleBody_row hbody).2.1] at hafter
  obtain ⟨hname, hdescription⟩ := hafter.role_texts
  intro id r hr
  rw [show (Db.bumpEpoch { db with roles := roles }).roles = roles from rfl,
    Table.get?_insert? ht] at hr
  split at hr
  · obtain rfl := Option.some.inj hr
    exact ⟨hq.1, hq.2.2.1, hq.2.2.2.1, hname, hdescription⟩
  · exact h id r hr

/-! ## updates -/

section
variable {context : AuthorizationContext} {roleId : Uuid} {request : RoleUpdateRequest}
  {expected : Nat}

structure UpdateAdmitted (db : Db) (context : AuthorizationContext) (roleId : Uuid) (expected : Nat)
    (locked : LockedSharedRole) : Prop where
  lock : lockSharedRoleChange db context roleId .rolesUpdate true = .ok locked
  administration : requireRoleAdministration locked .update = .ok ()
  version : requireExpectedRoleVersion locked.role expected = .ok ()

/-- the texts of a role after a request -/
def RoleUpdateRequest.describe (request : RoleUpdateRequest) (role : Role) : RolePatch :=
  Role.describe (request.name.getD role.name) (request.description.getD role.description)

/-- a request that describes the role anew -/
def RoleUpdateRequest.Changes (request : RoleUpdateRequest) (role : Role) : Prop :=
  ¬ (request.name.getD role.name = role.name ∧
    request.description.getD role.description = role.description)

theorem UpdateAdmitted.body (request : RoleUpdateRequest) {locked : LockedSharedRole}
    (h : UpdateAdmitted db context roleId expected locked) :
    updateRoleBody context roleId request expected db =
        .ok (unchangedRole "role_unchanged"
          (roleResponse locked.role locked.roleBefore.permissions), db) ∧
      ¬ request.Changes locked.role ∨
    request.Changes locked.role ∧ updateRoleBody context roleId request expected db =
      (db.updateRole roleId (request.describe locked.role)).map fun db' =>
        (changedRole "role_updated" (roleResponse locked.role locked.roleBefore.permissions)
          (roleResponse ((request.describe locked.role).apply locked.role)
            locked.roleBefore.permissions), db'.bumpEpoch) := by
  unfold updateRoleBody
  rw [h.lock]
  simp only [bind, Except.bind, h.administration, h.version]
  split
  · rename_i hsame
    exact .inl ⟨rfl, fun h => h hsame⟩
  · rename_i hchanges
    refine .inr ⟨hchanges, ?_⟩
    unfold RoleUpdateRequest.describe
    cases db.updateRole roleId _ with
    | error e => rfl
    | ok db' => rfl

theorem updateRoleBody_admitted {outcome : MutationOutcome RoleMutationResponse}
    (h : updateRoleBody context roleId request expected db = .ok (outcome, db')) :
    ∃ locked, UpdateAdmitted db context roleId expected locked := by
  unfold updateRoleBody at h
  simp only [bind_ok] at h
  obtain ⟨locked, hlock, _, hadministration, _, hversion, -⟩ := h
  exact ⟨locked, hlock, hadministration, hversion⟩

theorem UpdateAdmitted.role {locked : LockedSharedRole}
    (h : UpdateAdmitted db context roleId expected locked) :
    db.liveRole? roleId = some locked.role ∧ locked.role.isSystem = false ∧
      locked.roleBefore.permissions = db.rolePermissionKeys roleId := by
  obtain ⟨row, hs⟩ := lockSharedRoleChange_ok h.lock
  refine ⟨hs.role, (requireRoleAdministration_ok hs h.administration).custom, ?_⟩
  rw [hs.grant]
  show db.rolePermissionKeys locked.role.id = _
  rw [Db.id_of_liveRole? hs.role]

theorem GoodRole.described {role : Role} (h : GoodRole alnum role) (hq : request.Accepted)
    (hname : Writable alnum (request.name.getD role.name))
    (hdescription : Writable alnum (request.description.getD role.description)) :
    GoodRole alnum ((request.describe role).apply role) := by
  refine ⟨h.key, ?_, ?_, hname, hdescription⟩
  · show (request.name.getD role.name).toList.length ≤ 160
    cases hn : request.name with
    | none => exact h.nameLength
    | some name => exact (hq.2.1 name hn).2
  · show (request.description.getD role.description).toList.length ≤ 1000
    cases hd : request.description with
    | none => exact h.descriptionLength
    | some description => exact hq.2.2 description hd

theorem goodRoles_updateRole (h : GoodRoles alnum db)
    {outcome : MutationOutcome RoleMutationResponse} (hq : request.Accepted)
    (hbody : updateRoleBody context roleId request expected db = .ok (outcome, db'))
    (hafter : StateWritable alnum outcome.afterState) : GoodRoles alnum db' := by
  obtain ⟨locked, hadmitted⟩ := updateRoleBody_admitted hbody
  have hget := (Db.liveRole?_eq_some.mp hadmitted.role.1).1
  rcases hadmitted.body request with ⟨hsame, -⟩ | ⟨-, hchanged⟩
  · rw [hsame] at hbody
    cases hbody
    exact h
  · rw [hchanged] at hbody
    obtain ⟨db₁, hupdate, he⟩ := (map_ok _ _ _).mp hbody
    cases he
    obtain ⟨roles, -, hmodify, rfl⟩ := Db.updateRole_ok.mp hupdate
    obtain ⟨hname, hdescription⟩ := hafter.role_texts
    have hgood := (h roleId locked.role hget).described hq hname hdescription
    intro id r hr
    rw [show (Db.bumpEpoch { db with roles := roles }).roles = roles from rfl,
      Table.get?_modify? hmodify] at hr
    split at hr
    · rename_i hid
      rw [hid, hget] at hr
      obtain rfl := Option.some.inj hr
      exact hgood
    · exact h id r hr

end

theorem goodRoles_migrated : GoodRoles alnum migratedDb := by
  have hgood (k : SystemRoleKey) (version : Nat) : GoodRole alnum (seededRole k version) :=
    { key := show roleKeyFormat k.value = true by cases k <;> decide +kernel
      nameLength := show (systemRoleSpecs k).name.toList.length ≤ 160 by cases k <;> decide
      descriptionLength := show (systemRoleSpecs k).description.toList.length ≤ 1000 by
        cases k <;> decide
      name := show Writable alnum (systemRoleSpecs k).name from
        ⟨by cases k <;> rfl, by cases k <;> decide +kernel⟩
      description := show Writable alnum (systemRoleSpecs k).description from
        ⟨by cases k <;> rfl, by cases k <;> decide +kernel⟩ }
  intro id r hr
  have hrow : r ∈ [seededRole .superAdmin 1, seededRole .admin 1, seededRole .user 0] :=
    (Table.get?_eq_some.mp hr).1
  simp only [List.mem_cons, List.not_mem_nil, or_false] at hrow
  rcases hrow with rfl | rfl | rfl
  · exact hgood .superAdmin 1
  · exact hgood .admin 1
  · exact hgood .user 0

/-- **every stored role has texts that an audit row can hold** -/
theorem goodRoles_reachable {s : Postgres} (h : Reachable (storedSystem alnum lib) s) :
    GoodRoles alnum s.db := by
  refine h.invariant (P := fun s => GoodRoles alnum s.db) ?_ ?_
  · rintro s rfl
    exact goodRoles_migrated
  · intro s c s' hs hstep
    obtain ⟨haccepted, rfl⟩ := hstep
    cases hop : c.operation with
    | createRole context roleId request =>
      rw [hop] at haccepted
      rcases runAuditedStored_db alnum s with hdb | ⟨outcome, hbody, -, -, hafter⟩
      · exact hs.frame (congrArg Db.roles hdb)
      · exact goodRoles_createRole hs haccepted hbody hafter
    | updateRole context roleId request expected =>
      rw [hop] at haccepted
      rcases runAuditedStored_db alnum s with hdb | ⟨outcome, hbody, -, -, hafter⟩
      · exact hs.frame (congrArg Db.roles hdb)
      · exact goodRoles_updateRole hs haccepted hbody hafter
    | _ =>
      rcases runStored_db alnum lib c.now c.operation s with hdb | hbody
      · rw [hop] at hdb
        exact hs.frame (congrArg Db.roles hdb)
      · rw [← hop]
        exact goodRoles_body hs (by simp [hop]) (by simp [hop]) hbody

end

/-! ## answers -/

/-- an error that the API reports as a refusal -/
def Declined (e : Failure) : Prop := ∃ r, e = .rbac r ∧ r.statusCode < 500

/-- success, or a refusal -/
def Answered {α : Type} (x : Except Failure α) : Prop := ∀ e, x = .error e → Declined e

def failureOf {α : Type} : Except Failure α → Option Failure
  | .ok _ => none
  | .error e => some e

structure CreateAdmitted (db : Db) (context : AuthorizationContext) (request : RoleCreateRequest)
    (actor : AuthoritySnapshot) : Prop where
  row : ∃ row, requireCurrentLockedActorRow
    (db.lockUsers [context.principal.userId] context.principal.userId) context = .ok row
  current : db.requireCurrentActor context.principal.userId context.principal.tokenVersion = .ok actor
  decision : (decideRoleCreate actor request.managementTier).allowed = true
  unreserved : request.key ∉ reservedRoleKeys
  free : db.roles.findBy? request.key = none

section
variable {alnum : Char → Bool} {db : Db} {context : AuthorizationContext} {roleId : Uuid}
  {e : Failure}

theorem declined_unauthenticated (reason : String) : Declined (unauthenticated reason) :=
  ⟨_, rfl, show 401 < 500 by decide⟩

theorem declined_forbidden (reason : String) : Declined (forbidden reason) :=
  ⟨_, rfl, show 403 < 500 by decide⟩

theorem declined_notFound (reason : String) : Declined (notFound reason) :=
  ⟨_, rfl, show 404 < 500 by decide⟩

theorem declined_conflict (reason : String) : Declined (conflict reason) :=
  ⟨_, rfl, show 409 < 500 by decide⟩

theorem declined_row {actorUser : Option User}
    (h : requireCurrentLockedActorRow actorUser context = .error e) : Declined e := by
  unfold requireCurrentLockedActorRow at h
  cases actorUser with
  | none =>
    cases h
    exact declined_unauthenticated _
  | some u =>
    dsimp only at h
    split at h
    · cases h
      exact declined_unauthenticated _
    · cases h

theorem declined_current {userId : Uuid} {tokenVersion : Nat}
    (h : db.requireCurrentActor userId tokenVersion = .error e) : Declined e := by
  rw [Db.requireCurrentActor_error h]
  exact declined_unauthenticated _

theorem declined_lock {required : PermissionKey} {incl : Bool}
    (h : lockSharedRoleChange db context roleId required incl = .error e) : Declined e := by
  unfold lockSharedRoleChange Db.loadRoleGrant at h
  simp only [bind_error, require_error, orRaise_error, pure_error, and_false, exists_false,
    or_false] at h
  rcases h with h | ⟨_, -, h | ⟨_, -, ⟨-, rfl⟩ | ⟨_, -, ⟨-, rfl⟩ | ⟨_, -, ⟨-, rfl⟩ | ⟨_, -, h⟩⟩⟩⟩⟩
  · exact declined_row h
  · exact declined_current h
  · exact declined_forbidden _
  · exact declined_notFound _
  · exact declined_notFound _
  · rcases h with (⟨-, rfl⟩ | ⟨_, -, -, rfl⟩) | ⟨_, -, -, rfl⟩
    · exact declined_notFound _
    · exact declined_notFound _
    · exact declined_notFound _

/-! ## create -/

section
variable {request : RoleCreateRequest}

theorem newRole_checks (hq : request.Accepted) (hkey : request.key ∉ reservedRoleKeys) :
    (newRole roleId request).checks = true := by
  obtain ⟨-, -, -, -, hlow, hhigh⟩ := hq
  have hkeys : request.key ≠ "super_admin" ∧ request.key ≠ "admin" ∧ request.key ≠ "user" := by
    refine ⟨?_, ?_, ?_⟩
    all_goals
      intro he
      rw [he] at hkey
      exact hkey (by decide)
  have htier : request.managementTier ≤ 1000 ∧ request.managementTier < 1000 := by omega
  simp [Role.checks, newRole, hkeys, hlow, hhigh, htier]

theorem CreateAdmitted.run {actor : AuthoritySnapshot}
    (h : CreateAdmitted db context request actor) (roleId : Uuid) :
    createRoleBody context roleId request db =
      (db.insertRole (newRole roleId request)).map fun db' =>
        ({ value := { changed := true, role := roleResponse (newRole roleId request) ∅ }
           reasonCode := "role_created"
           beforeState := none
           afterState := some (.role (roleResponse (newRole roleId request) ∅))
           auditTargetRoleId := none }, db'.bumpEpoch) := by
  obtain ⟨row, hrow⟩ := h.row
  unfold createRoleBody
  show (requireCurrentLockedActorRow _ context >>= fun _ => _) = _
  rw [hrow]
  show (db.requireCurrentActor _ _ >>= fun _ => _) = _
  rw [h.current]
  show (require _ _ >>= fun _ => _) = _
  rw [(require_ok _ _ ()).mpr h.decision]
  show (require _ _ >>= fun _ => _) = _
  rw [(require_ok _ _ ()).mpr h.unreserved]
  show (require _ _ >>= fun _ => _) = _
  rw [(require_ok _ _ ()).mpr h.free]
  cases db.insertRole (newRole roleId request) with
  | ok db' => rfl
  | error e => rfl

theorem createRoleBody_admitted {db' : Db} {outcome : MutationOutcome RoleMutationResponse}
    (h : createRoleBody context roleId request db = .ok (outcome, db')) :
    ∃ actor, CreateAdmitted db context request actor := by
  unfold createRoleBody at h
  simp only [bind_ok, require_ok] at h
  obtain ⟨row, hrow, actor, hactor, _, hdecision, _, hkey, _, hfree, -⟩ := h
  exact ⟨actor, ⟨row, hrow⟩, hactor, hdecision, hkey, hfree⟩

/-- a request that is not admitted is refused -/
theorem createRoleBody_declined (h : ¬ ∃ actor, CreateAdmitted db context request actor)
    (he : createRoleBody context roleId request db = .error e) : Declined e := by
  unfold createRoleBody at he
  simp only [bind_error, require_error, pure_error, and_false, exists_false, or_false,
    require_ok] at he
  rcases he with he | ⟨row, hrow, he | ⟨actor, hactor, ⟨-, rfl⟩ | ⟨_, hdecision, ⟨-, rfl⟩ |
    ⟨_, hkey, ⟨-, rfl⟩ | ⟨_, hfree, -⟩⟩⟩⟩⟩
  · exact declined_row he
  · exact declined_current he
  · exact declined_forbidden _
  · exact declined_conflict _
  · exact declined_conflict _
  · exact absurd ⟨actor, ⟨row, hrow⟩, hactor, hdecision, hkey, hfree⟩ h

end

/-! ## update -/

section
variable {request : RoleUpdateRequest} {expected : Nat}

theorem declined_administration {locked : LockedSharedRole}
    {operation : RoleAdministrationOperation}
    (h : requireRoleAdministration locked operation = .error e) : Declined e := by
  unfold requireRoleAdministration at h
  obtain ⟨-, rfl⟩ := (require_error _ _ _).mp h
  exact declined_forbidden _

theorem declined_version {role : Role} (h : requireExpectedRoleVersion role expected = .error e) :
    Declined e := by
  obtain ⟨-, rfl⟩ := (require_error _ _ _).mp h
  exact ⟨_, rfl, show 409 < 500 by decide⟩

theorem updateRoleBody_declined
    (h : ¬ ∃ locked, UpdateAdmitted db context roleId expected locked)
    (he : updateRoleBody context roleId request expected db = .error e) : Declined e := by
  cases hlock : lockSharedRoleChange db context roleId .rolesUpdate true with
  | error e' =>
    unfold updateRoleBody at he
    rw [hlock] at he
    cases he
    exact declined_lock hlock
  | ok locked =>
    cases hadministration : requireRoleAdministration locked .update with
    | error e' =>
      unfold updateRoleBody at he
      rw [hlock] at he
      simp only [bind, Except.bind, hadministration] at he
      cases he
      exact declined_administration hadministration
    | ok _ =>
      cases hversion : requireExpectedRoleVersion locked.role expected with
      | error e' =>
        unfold updateRoleBody at he
        rw [hlock] at he
        simp only [bind, Except.bind, hadministration, hversion] at he
        cases he
        exact declined_version hversion
      | ok _ => exact absurd ⟨locked, hlock, hadministration, hversion⟩ h

theorem UpdateAdmitted.changed {locked : LockedSharedRole}
    (h : UpdateAdmitted db context roleId expected locked) (hchanges : request.Changes locked.role) :
    ∃ roles, db.roles.modify? roleId (request.describe locked.role) = .ok roles ∧
      updateRoleBody context roleId request expected db =
        .ok (changedRole "role_updated" (roleResponse locked.role locked.roleBefore.permissions)
          (roleResponse ((request.describe locked.role).apply locked.role)
            locked.roleBefore.permissions), ({ db with roles := roles }).bumpEpoch) := by
  have hchecks := Table.check_of_get? (Db.liveRole?_eq_some.mp h.role.1).1
  obtain ⟨roles, hroles, hupdate⟩ :=
    updateRole_isOk (f := request.describe locked.role) h.role.1 h.role.2.1 hchecks
  refine ⟨roles, hroles, ?_⟩
  rcases h.body request with ⟨-, hsame⟩ | ⟨-, hchanged⟩
  · exact absurd hchanges hsame
  · rw [hchanged, hupdate]
    rfl

end

end

/-! ## exactly when a request is answered -/

section
variable {alnum : Char → Bool} {lib : PasswordLibrary} {α : Type} {context : AuthorizationContext}
  {action : String} {tu tr : Option Uuid} {db : Db}
  {operation : Db → Except Failure (MutationOutcome α × Db)} {s : Postgres}

theorem fits_insert {roles : Table Role.id Role.key Role.checks} {role : Role}
    (hfits : db.fits = true) (h : db.roles.insert? role = .ok roles)
    (hversion : role.version ≤ bigintMax) :
    (Db.bumpEpoch { db with roles := roles }).fits = true ↔ db.rbacState.epoch < bigintMax := by
  obtain ⟨-, husers, hroles⟩ := Db.fits_iff.mp hfits
  rw [Db.fits_iff]
  refine ⟨fun h => h.1, fun hepoch => ⟨hepoch, husers, ?_⟩⟩
  intro r hr
  rw [show (Db.bumpEpoch { db with roles := roles }).roles = roles from rfl,
    (Table.rows_insert? h).1] at hr
  rcases List.mem_append.mp hr with hr | hr
  · exact hroles r hr
  · rw [List.mem_singleton.mp hr]
    exact hversion

theorem fits_modify {roles : Table Role.id Role.key Role.checks} {role : Role} {roleId : Uuid}
    {f : RolePatch} (hfits : db.fits = true) (h : db.roles.modify? roleId f = .ok roles)
    (hrole : db.roles.get? roleId = some role) :
    (Db.bumpEpoch { db with roles := roles }).fits = true ↔
      db.rbacState.epoch < bigintMax ∧ (f.apply role).version ≤ bigintMax := by
  obtain ⟨-, husers, hroles⟩ := Db.fits_iff.mp hfits
  have hget := Table.get?_modify? h
  rw [Db.fits_iff]
  constructor
  · rintro ⟨hepoch, -, hafter⟩
    refine ⟨hepoch, hafter _ ?_⟩
    have hnew : roles.get? roleId = some (f.apply role) := by
      rw [hget, if_pos rfl, hrole]
      rfl
    exact (Table.get?_eq_some.mp hnew).1
  · rintro ⟨hepoch, hversion⟩
    refine ⟨hepoch, husers, ?_⟩
    intro r hr
    have hr' := Table.mem_rows_iff.mp hr
    rw [show (Db.bumpEpoch { db with roles := roles }).roles = roles from rfl, hget] at hr'
    split at hr'
    · rename_i hid
      rw [hid, hrole] at hr'
      obtain rfl := Option.some.inj hr'
      exact hversion
    · exact hroles r (Table.get?_eq_some.mp hr').1

/-- a finished operation is answered when its counters fit and its row is stored -/
theorem answered_iff {outcome : MutationOutcome α} {db' : Db}
    (h : operation s.db = .ok (outcome, db'))
    (haction : validateAuditAction action = .ok ())
    (hreason : validateAuditReason outcome.reasonCode = .ok ())
    (hrequest : validateAuditRequestId context.requestId = .ok ()) :
    Answered (runAuditedStored alnum context action tu tr operation s).1 ↔
      db'.fits = true ∧ StateWritable alnum outcome.beforeState ∧
        StateWritable alnum outcome.afterState := by
  by_cases hfits : db'.fits = true
  · obtain ⟨event, hact, hr, hb, ha, hid, hrun⟩ := runAuditedStored_of_ok alnum context action tu tr
      h hfits
    have hstore : event.store alnum = .ok () ↔ StateWritable alnum event.beforeState ∧
        StateWritable alnum event.afterState := store_ok (hact ▸ haction) (hr ▸ hreason) (hid ▸ hrequest)
    rw [hb, ha] at hstore
    rw [hrun]
    cases hs : event.store alnum with
    | ok u =>
      refine ⟨fun _ => ⟨hfits, hstore.mp hs⟩, ?_⟩
      intro _ e he
      cases he
    | error e =>
      constructor
      · intro hanswered
        obtain ⟨r, rfl, -⟩ := hanswered e rfl
        rcases store_error hs with ⟨message, he⟩ | ⟨message, he⟩
        · cases he
        · cases he
      · rintro ⟨-, hw⟩
        rw [hstore.mpr hw] at hs
        cases hs
  · rw [runAuditedStored_of_overflow h hfits]
    constructor
    · intro hanswered
      obtain ⟨r, he, -⟩ := hanswered _ rfl
      cases he
    · rintro ⟨hf, -⟩
      exact absurd hf hfits

theorem Role.tier_le {r : Role} (h : r.checks = true) : r.managementTier ≤ 1000 := by
  simp only [Role.checks, Bool.and_eq_true, decide_eq_true_eq] at h
  exact h.1.1.1.1.1.1.1.1.1.1

theorem GoodRole.bounds {r : Role} {permissions : Finset String} (h : GoodRole alnum r)
    (htier : r.managementTier ≤ 1000) (hversion : r.version ≤ bigintMax)
    (hpermissions : permissions ⊆ superAdminPermissionKeys) :
    RoleBounds (roleResponse r permissions) :=
  ⟨h.key, h.nameLength, h.descriptionLength, htier,
    Nat.lt_of_le_of_lt hversion (by decide), hpermissions⟩

/-- what an admitted creation still needs: a new id, writable texts and an epoch -/
structure CreateStorable (alnum : Char → Bool) (db : Db) (roleId : Uuid)
    (request : RoleCreateRequest) : Prop where
  fresh : db.roles.get? roleId = none
  name : Writable alnum request.name
  description : Writable alnum request.description
  epoch : db.rbacState.epoch < bigintMax

/-- what an admitted update still needs: writable texts, and counters for a change -/
structure UpdateStorable (alnum : Char → Bool) (db : Db) (request : RoleUpdateRequest)
    (role : Role) : Prop where
  name : ∀ name ∈ request.name, Writable alnum name
  description : ∀ description ∈ request.description, Writable alnum description
  counters : request.Changes role → db.rbacState.epoch < bigintMax ∧ role.version < bigintMax

theorem insertRole_error {r : Role} {e : Failure} (h : db.insertRole r = .error e) :
    ∃ name, e = .integrity name := by
  unfold Db.insertRole at h
  cases hinsert : db.roles.insert? r with
  | ok t =>
    rw [hinsert] at h
    cases h
  | error v =>
    rw [hinsert] at h
    cases h
    cases v with
    | primaryKey => exact ⟨_, rfl⟩
    | uniqueColumn => exact ⟨_, rfl⟩
    | check => exact ⟨_, rfl⟩

theorem writable_getD {given : Option String} {stored : String} (h : ∀ text ∈ given, Writable alnum text)
    (hstored : Writable alnum stored) : Writable alnum (given.getD stored) := by
  cases given with
  | none => exact hstored
  | some text => exact h text rfl

theorem Writable.given {given : Option String} {stored : String} (h : Writable alnum (given.getD stored)) :
    ∀ text ∈ given, Writable alnum text := by
  rintro text rfl
  exact h

section
variable (hs : Reachable (storedSystem alnum lib) s)
  (hrequest : validateAuditRequestId context.requestId = .ok ())
include hs hrequest

theorem create_answered_iff {roleId : Uuid} {request : RoleCreateRequest} (hq : request.Accepted) :
    Answered (createRoleStored alnum context roleId request s).1 ↔
      ((∃ actor, CreateAdmitted s.db context request actor) →
        CreateStorable alnum s.db roleId request) := by
  by_cases hadmitted : ∃ actor, CreateAdmitted s.db context request actor
  · obtain ⟨actor, hactor⟩ := hadmitted
    have hrun := hactor.run roleId
    cases hinsert : s.db.insertRole (newRole roleId request) with
    | ok db' =>
      rw [hinsert] at hrun
      obtain ⟨roles, ht, rfl⟩ := Db.insertRole_ok.mp hinsert
      have hfresh := (Table.rows_insert? ht).2.1
      have hbounds : RoleBounds (roleResponse (newRole roleId request) ∅) :=
        { key := hq.1
          name := hq.2.2.1
          description := hq.2.2.2.1
          tier := Nat.le_trans hq.2.2.2.2.2 (by decide)
          version := show 0 < 2 ^ 63 by decide
          permissions := Finset.empty_subset _ }
      have hcounters := fits_insert (reachable_fits hs) ht (Nat.zero_le bigintMax)
      have hreason : validateAuditReason "role_created" = .ok () := ok_of_isOk (by decide +kernel)
      unfold createRoleStored
      rw [answered_iff hrun (ok_of_isOk (by decide +kernel)) hreason hrequest, hcounters,
        stateWritable_role hbounds]
      constructor
      · rintro ⟨hepoch, -, hname, hdescription⟩ -
        exact ⟨hfresh, hname, hdescription, hepoch⟩
      · intro h
        have hstorable := h ⟨actor, hactor⟩
        exact ⟨hstorable.epoch, stateWritable_none, hstorable.name, hstorable.description⟩
    | error e =>
      -- the only constraint that the guards do not cover is the primary key
      rw [hinsert] at hrun
      obtain ⟨name, rfl⟩ := insertRole_error hinsert
      unfold createRoleStored
      rw [runAuditedStored_of_error hrun]
      constructor
      · intro h
        obtain ⟨r, he, -⟩ := h _ rfl
        cases he
      · intro h
        have hstorable := h ⟨actor, hactor⟩
        obtain ⟨roles, ht⟩ := Table.insert?_isOk (r := newRole roleId request) hstorable.fresh
          hactor.free (newRole_checks hq hactor.unreserved)
        rw [Db.insertRole_ok.mpr ⟨roles, ht, rfl⟩] at hinsert
        cases hinsert
  · refine ⟨fun _ h => absurd h hadmitted, fun _ => ?_⟩
    unfold createRoleStored
    cases hbody : createRoleBody context roleId request s.db with
    | ok x =>
      obtain ⟨outcome, db'⟩ := x
      exact absurd (createRoleBody_admitted hbody) hadmitted
    | error e =>
      rw [runAuditedStored_of_error hbody]
      intro e' he
      cases he
      exact createRoleBody_declined hadmitted hbody

theorem update_answered_iff {roleId : Uuid} {request : RoleUpdateRequest} {expected : Nat}
    (hq : request.Accepted) :
    Answered (updateRoleStored alnum context roleId request expected s).1 ↔
      ∀ locked, UpdateAdmitted s.db context roleId expected locked →
        UpdateStorable alnum s.db request locked.role := by
  by_cases hadmitted : ∃ locked, UpdateAdmitted s.db context roleId expected locked
  · obtain ⟨locked, hlocked⟩ := hadmitted
    have honly : (∀ locked, UpdateAdmitted s.db context roleId expected locked →
        UpdateStorable alnum s.db request locked.role) ↔
          UpdateStorable alnum s.db request locked.role := by
      refine ⟨fun h => h locked hlocked, fun h locked' hlocked' => ?_⟩
      have he := hlocked.lock.symm.trans hlocked'.lock
      cases he
      exact h
    obtain ⟨hlive, hcustom, hpermissions⟩ := hlocked.role
    have hget := (Db.liveRole?_eq_some.mp hlive).1
    have hgood := goodRoles_reachable hs roleId locked.role hget
    have hfits := reachable_fits hs
    have htier := Role.tier_le (Table.check_of_get? hget)
    have hversion := (Db.fits_iff.mp hfits).2.2 _ (Table.get?_eq_some.mp hget).1
    have hkeys : locked.roleBefore.permissions ⊆ superAdminPermissionKeys := by
      rw [hpermissions]
      exact ((reachable_stored_standing hs).coherent.customKeys roleId _ hget hcustom).trans
        (Finset.erase_subset _ _)
    have hbefore := hgood.bounds htier hversion hkeys
    have hstored : StateWritable alnum
        (some (.role (roleResponse locked.role locked.roleBefore.permissions))) :=
      (stateWritable_role hbefore).mpr ⟨hgood.name, hgood.description⟩
    rw [honly]
    unfold updateRoleStored
    by_cases hchanges : request.Changes locked.role
    · obtain ⟨roles, ht, hrun⟩ := hlocked.changed hchanges
      have hreason : validateAuditReason "role_updated" = .ok () := ok_of_isOk (by decide +kernel)
      rw [answered_iff hrun (ok_of_isOk (by decide +kernel)) hreason hrequest,
        fits_modify hfits ht hget]
      constructor
      · rintro ⟨⟨hepoch, hnext⟩, -, hafter⟩
        obtain ⟨hname, hdescription⟩ := hafter.role_texts
        exact ⟨Writable.given hname, Writable.given hdescription, fun _ => ⟨hepoch, hnext⟩⟩
      · intro h
        obtain ⟨hepoch, hnext⟩ := h.counters hchanges
        have hafter := (hgood.described hq (writable_getD h.name hgood.name)
          (writable_getD h.description hgood.description)).bounds htier hnext hkeys
        exact ⟨⟨hepoch, hnext⟩, hstored, (stateWritable_role hafter).mpr
          ⟨writable_getD h.name hgood.name, writable_getD h.description hgood.description⟩⟩
    · obtain ⟨hrun, -⟩ := (hlocked.body request).resolve_right fun h => hchanges h.1
      have hreason : validateAuditReason "role_unchanged" = .ok () := ok_of_isOk (by decide +kernel)
      obtain ⟨hname, hdescription⟩ := not_not.mp hchanges
      rw [answered_iff hrun (ok_of_isOk (by decide +kernel)) hreason hrequest]
      refine ⟨fun _ => ⟨Writable.given (hname ▸ hgood.name), Writable.given (hdescription ▸ hgood.description),
        fun h => absurd h hchanges⟩, fun _ => ⟨hfits, hstored, hstored⟩⟩
  · refine ⟨fun _ locked h => absurd ⟨locked, h⟩ hadmitted, fun _ => ?_⟩
    unfold updateRoleStored
    cases hbody : updateRoleBody context roleId request expected s.db with
    | ok x =>
      obtain ⟨outcome, db'⟩ := x
      exact absurd (updateRoleBody_admitted hbody) hadmitted
    | error e =>
      rw [runAuditedStored_of_error hbody]
      intro e' he
      cases he
      exact updateRoleBody_declined hadmitted hbody

end

end

/-! ## every role request -/

/-- **a role request of the schema is answered exactly when a guard refuses it, or its texts can be
stored and the counters hold the change** -/
theorem role_requests_answered {alnum : Char → Bool} {lib : PasswordLibrary} {s : Postgres}
    (hs : Reachable (storedSystem alnum lib) s) (context : AuthorizationContext)
    (hrequest : validateAuditRequestId context.requestId = .ok ()) :
    (∀ roleId (request : RoleCreateRequest), request.Accepted →
      (Answered (createRoleStored alnum context roleId request s).1 ↔
        ((∃ actor, CreateAdmitted s.db context request actor) →
          CreateStorable alnum s.db roleId request))) ∧
    ∀ roleId (request : RoleUpdateRequest) expected, request.Accepted →
      (Answered (updateRoleStored alnum context roleId request expected s).1 ↔
        ∀ locked, UpdateAdmitted s.db context roleId expected locked →
          UpdateStorable alnum s.db request locked.role) :=
  ⟨fun _ _ hq => create_answered_iff hs hrequest hq,
    fun _ _ _ hq => update_answered_iff hs hrequest hq⟩

def appointed : Postgres :=
  ((Operation.bootstrap alice).runStored (fun _ => false) sampleLibrary 1
    ((signUp "alice" alice).runStored (fun _ => false) sampleLibrary 0 migrated).2).2

theorem appointed_reachable :
    Reachable (storedSystem (fun _ => false) sampleLibrary) appointed :=
  .step ⟨1, .bootstrap alice⟩ (.step ⟨0, signUp "alice" alice⟩ (.init rfl) ⟨trivial, rfl⟩)
    ⟨trivial, rfl⟩

def describing (description : String) : RoleCreateRequest :=
  ⟨"editor", "Editor", description, 300⟩

theorem describing_admitted (description : String) : ∃ actor,
    CreateAdmitted appointed.db (bearer alice 0) (describing description) actor := by
  have hrow : (requireCurrentLockedActorRow (appointed.db.lockUsers [alice] alice)
      (bearer alice 0)).isOk = true := by decide +kernel
  have hdecision : ((appointed.db.requireCurrentActor alice 0).map fun actor =>
      (decideRoleCreate actor 300).allowed).toOption = some true := by decide +kernel
  cases hactor : appointed.db.requireCurrentActor alice 0 with
  | error e =>
    rw [hactor] at hdecision
    cases hdecision
  | ok actor =>
    rw [hactor] at hdecision
    cases hr : requireCurrentLockedActorRow (appointed.db.lockUsers [alice] alice)
        (bearer alice 0) with
    | error e =>
      rw [hr] at hrow
      cases hrow
    | ok row =>
      exact ⟨actor, ⟨row, hr⟩, hactor, Option.some.inj hdecision, show "editor" ∉ _ by decide,
        show appointed.db.roles.findBy? "editor" = none by decide +kernel⟩

/-- a role that says what it is for is answered -/
theorem role_requests_answered_describing :
    Answered (createRoleStored (fun _ => false) (bearer alice 0) carol
      (describing "edits the articles") appointed).1 := by
  have hrequest : validateAuditRequestId (bearer alice 0).requestId = .ok () :=
    ok_of_isOk (by decide +kernel)
  obtain ⟨hcreate, -⟩ := role_requests_answered appointed_reachable (bearer alice 0) hrequest
  refine (hcreate carol (describing "edits the articles") ?_).mpr fun _ => ?_
  · exact ⟨by decide +kernel, by decide, by decide, by decide, by decide, by decide⟩
  · exact ⟨by decide +kernel, ⟨by decide +kernel, by decide⟩, ⟨by decide +kernel, by decide⟩,
      by decide +kernel⟩

/-- the same role with a label in its description fails -/
theorem described_password_raises : (describing "password: ask the helpdesk").Accepted ∧
    (∃ actor, CreateAdmitted appointed.db (bearer alice 0)
      (describing "password: ask the helpdesk") actor) ∧
    Reachable (storedSystem (fun _ => false) sampleLibrary) appointed ∧
    failureOf (createRoleStored (fun _ => false) (bearer alice 0) carol
      (describing "password: ask the helpdesk") appointed).1 =
        some (.valueError "audit state contains sensitive text") :=
  ⟨⟨by decide +kernel, by decide, by decide, by decide, by decide, by decide⟩,
    describing_admitted _, appointed_reachable, by decide +kernel⟩

end PgRbac
