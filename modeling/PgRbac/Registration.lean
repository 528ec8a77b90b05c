import PgRbac.Lib.Serial
import PgRbac.Holder

/-!
# Registration and its switch, statement by statement

`set_registration_enabled`, `register` and `create_user_by_administrator` as programs of statements
that any number of sessions run at once.  Each starts with the row of `rbac_state` under
`FOR UPDATE`; the password is hashed outside.

* `registerProgram`, …    the programs, with the bodies of the other modules as their runs;
* `AccountCall`           the calls;
* `registration_runs`     what holds of every interleaving.
-/

set_option linter.unusedVariables false
set_option linter.unusedSectionVars false

namespace PgRbac

open Fallible Store Trace Serial

/-! ## programs -/

abbrev Program (α : Type) := Txn Postgres Failure α

/-- a `SELECT` -/
def select {α : Type} (f : Db → Except Failure α) : Program α := Txn.query fun s => f s.db

/-- an `INSERT` or `UPDATE`, or the deferred triggers -/
def execute (f : Db → Except Failure Db) : Program Unit :=
  Txn.modify fun s => (f s.db).map fun db => ⟨db, s.audit⟩

def addRows (rows : List AuditRow) : Program Unit :=
  Txn.modify fun s => .ok ⟨s.db, s.audit ++ rows⟩

/-- `lock_rbac_state`: the row as it is once the lock is there -/
def Program.lockRbacState : Program RbacState := do
  Txn.guard
  select fun db => .ok db.rbacState

def setRegistrationEnabledProgram (context : AuthorizationContext) (enabled : Bool) :
    Program Bool := do
  let state ← Program.lockRbacState
  let actor ← select fun db =>
    db.requireCurrentActor context.principal.userId context.principal.tokenVersion
  Txn.lift (require
    (actor.isSuperAdmin ∧ PermissionKey.registrationConfigure.value ∈ actor.permissions)
    (forbidden "registration_setting_requires_super_admin"))
  if state.publicRegistrationEnabled = enabled then pure enabled
  else do
    execute fun db =>
      .ok { db with rbacState := { db.rbacState with publicRegistrationEnabled := enabled } }
    addRows [accountEvent "account_security.registration.setting_updated" .succeeded
      "registration_setting_updated" .user (some context.principal.userId) none
      context.auditSource context.requestId]
    pure enabled

def createUserWithDefaultRoleProgram (userName : String) (userId : Uuid)
    (assignedByUserId : Option Uuid) (requestId : String) : Program Provisioned := do
  let normalizedUserName ← Txn.lift (normalizeIdentity userName)
  Txn.lift (require (userId.isV4) (.valueError "user_id must be a UUIDv4 value"))
  let _ ← Program.lockRbacState
  select fun db => require (assignedByUserId.all fun actorId => (db.lockUsers [actorId] actorId).isSome)
    (notFound "provisioning_actor_not_found")
  select fun db =>
    require (db.users.get? userId = none ∧ db.users.findBy? normalizedUserName = none)
      (conflict "user_identity_exists")
  execute fun db => db.insertUser (newUser userId normalizedUserName)
  let stored ← select fun db => orRaise (db.roles.findBy? SystemRoleKey.user.value)
    (notFound "default_user_role_missing")
  let role ← select fun db => orRaise (db.lockRoles [stored.id] stored.id) (.runtimeError "KeyError")
  Txn.lift (require (matchesUserContract role)
    (.runtimeError "default user role does not match the migrated contract"))
  execute fun db => db.assignRoles userId [role.id]
  execute fun db => .ok db.bumpEpoch
  let user := newUser userId normalizedUserName
  pure { user := user, roleId := role.id,
         event := provisionEvent user role.id assignedByUserId requestId }

def registerProgram (userName passwordHash : String) (userId : Uuid) (requestId : String)
    (now : Nat) : Program Uuid := do
  let state ← Program.lockRbacState
  Txn.lift (require (state.publicRegistrationEnabled)
    (.rbac ⟨403, 403001, "error.registration_closed", "public_registration_closed"⟩))
  let new ← createUserWithDefaultRoleProgram userName userId none requestId
  execute fun db => db.updateUser new.user.id (User.rotatePassword passwordHash false now)
  execute fun db => db.commit [new.user.id] [(new.user.id, new.roleId)]
  addRows [.rbac new.event,
    accountEvent "account_security.registration.completed" .succeeded "registration_completed"
      .anonymous none (some new.user.id) .http requestId]
  pure new.user.id

def createUserByAdministratorProgram (context : AuthorizationContext)
    (userName passwordHash : String) (userId : Uuid) (now : Nat) : Program Uuid := do
  let _ ← Program.lockRbacState
  let actor ← select fun db =>
    db.requireCurrentActor context.principal.userId context.principal.tokenVersion
  Txn.lift (require (PermissionKey.usersCreate.value ∈ actor.permissions)
    (forbidden "missing_operation_permission"))
  let new ← createUserWithDefaultRoleProgram userName userId (some context.principal.userId)
    context.requestId
  execute fun db => db.updateUser new.user.id (User.rotatePassword passwordHash true now)
  execute fun db => db.commit [new.user.id] [(new.user.id, new.roleId)]
  addRows [.rbac new.event,
    accountEvent "account_security.registration.admin_created" .succeeded
      "temporary_password_set" .user (some context.principal.userId) (some new.user.id)
      context.auditSource context.requestId]
  pure new.user.id

/-! ## the programs alone -/

section
variable {α β : Type}

@[simp] theorem run_select (f : Db → Except Failure α) (s : Postgres) :
    (select f).run s = (f s.db).map fun a => (a, s) := Txn.run_query _ s

@[simp] theorem run_execute (f : Db → Except Failure Db) (s : Postgres) :
    (execute f).run s = (f s.db).map fun db => ((), ⟨db, s.audit⟩) := by
  unfold execute
  rw [Txn.run_modify]
  cases f s.db <;> rfl

@[simp] theorem run_addRows (rows : List AuditRow) (s : Postgres) :
    (addRows rows).run s = .ok ((), ⟨s.db, s.audit ++ rows⟩) := rfl

@[simp] theorem run_lockRbacState (s : Postgres) :
    Program.lockRbacState.run s = .ok (s.db.rbacState, s) := rfl

theorem map_then {γ : Type} (x : Except Failure α) (f : α → γ) (k : γ → Except Failure β) :
    (x.map f >>= k) = x >>= fun a => k (f a) := by
  cases x <;> rfl

theorem map_of_then {γ : Type} (x : Except Failure α) (k : α → Except Failure β) (f : β → γ) :
    (x >>= k).map f = x >>= fun a => (k a).map f := by
  cases x <;> rfl

theorem ok_then (a : α) (k : α → Except Failure β) : (Except.ok a >>= k) = k a := rfl

theorem run_setRegistrationEnabled (context : AuthorizationContext) (enabled : Bool)
    (s : Postgres) : (setRegistrationEnabledProgram context enabled).run s =
      (setRegistrationEnabledBody context enabled s.db).map fun r =>
        (r.1, ⟨r.2.1, s.audit ++ r.2.2⟩) := by
  unfold setRegistrationEnabledProgram setRegistrationEnabledBody
  simp only [Txn.run_bind, run_lockRbacState, run_select, Txn.run_lift, map_then, map_of_then,
    ok_then]
  congr 1
  funext actor
  congr 1
  funext _
  by_cases hsame : s.db.rbacState.publicRegistrationEnabled = enabled
  · rw [if_pos hsame, if_pos hsame]
    show Except.ok (enabled, s) = .ok (enabled, ⟨s.db, s.audit ++ []⟩)
    rw [List.append_nil]
  · rw [if_neg hsame, if_neg hsame]
    rfl

theorem run_createUserWithDefaultRole (userName : String) (userId : Uuid)
    (assignedByUserId : Option Uuid) (requestId : String) (s : Postgres) :
    (createUserWithDefaultRoleProgram userName userId assignedByUserId requestId).run s =
      (createUserWithDefaultRole s.db userName userId assignedByUserId requestId).map fun r =>
        (r.1, ⟨r.2, s.audit⟩) := by
  unfold createUserWithDefaultRoleProgram createUserWithDefaultRole
  simp only [Txn.run_bind, run_lockRbacState, run_select, run_execute, Txn.run_lift, map_then,
    map_of_then, ok_then]
  rfl

theorem run_register (userName passwordHash : String) (userId : Uuid) (requestId : String)
    (now : Nat) (s : Postgres) : (registerProgram userName passwordHash userId requestId now).run s =
      (registerBody userName passwordHash userId requestId now s.db).map fun r =>
        (r.1, ⟨r.2.1, s.audit ++ r.2.2⟩) := by
  unfold registerProgram registerBody
  simp only [Txn.run_bind, run_lockRbacState, run_createUserWithDefaultRole, run_execute,
    run_addRows, Txn.run_lift, map_then, map_of_then, ok_then]
  rfl

theorem run_createUserByAdministrator (context : AuthorizationContext)
    (userName passwordHash : String) (userId : Uuid) (now : Nat) (s : Postgres) :
    (createUserByAdministratorProgram context userName passwordHash userId now).run s =
      (createUserByAdministratorBody context userName passwordHash userId now s.db).map fun r =>
        (r.1, ⟨r.2.1, s.audit ++ r.2.2⟩) := by
  unfold createUserByAdministratorProgram createUserByAdministratorBody
  simp only [Txn.run_bind, run_lockRbacState, run_select, run_createUserWithDefaultRole,
    run_execute, run_addRows, Txn.run_lift, map_then, map_of_then, ok_then]
  rfl

end

/-! ## calls -/

inductive AccountCall where
  | setRegistrationEnabled (context : AuthorizationContext) (enabled : Bool)
  | register (salt : Nat) (userName password : String) (userId : Uuid) (requestId : String)
      (now : Nat)
  | createUserByAdministrator (salt : Nat) (context : AuthorizationContext)
      (userName temporaryPassword : String) (userId : Uuid) (now : Nat)

inductive AccountResult where
  | switch (enabled : Bool)
  | user (id : Uuid)

namespace AccountCall

/-- the name that a call asks for, and the id that was drawn for it -/
def account? : AccountCall → Option (String × Uuid)
  | setRegistrationEnabled _ _ => none
  | register _ userName _ userId _ _ => some (userName, userId)
  | createUserByAdministrator _ _ userName _ userId _ => some (userName, userId)

def byAdministrator : AccountCall → Bool
  | createUserByAdministrator .. => true
  | _ => false

variable (lib : PasswordLibrary)

/-- the password is hashed before the transaction -/
def prepare : AccountCall → Except Failure (Program AccountResult)
  | setRegistrationEnabled context enabled => .ok do
    let enabled ← setRegistrationEnabledProgram context enabled
    pure (.switch enabled)
  | register salt userName password userId requestId now =>
    match hashNewPassword lib salt password [userName] with
    | .error e => .error e
    | .ok passwordHash => .ok do
      let id ← registerProgram userName passwordHash userId requestId now
      pure (.user id)
  | createUserByAdministrator salt context userName temporaryPassword userId now =>
    match hashNewPassword lib salt temporaryPassword [userName] with
    | .error e => .error e
    | .ok passwordHash => .ok do
      let id ← createUserByAdministratorProgram context userName passwordHash userId now
      pure (.user id)

theorem guarded : Guarded (prepare lib) := by
  intro call program h
  cases call with
  | setRegistrationEnabled context enabled =>
    cases h
    exact ⟨_, rfl⟩
  | register salt userName password userId requestId now =>
    unfold prepare at h
    dsimp only at h
    split at h
    · cases h
    · cases h
      exact ⟨_, rfl⟩
  | createUserByAdministrator salt context userName temporaryPassword userId now =>
    unfold prepare at h
    dsimp only at h
    split at h
    · cases h
    · cases h
      exact ⟨_, rfl⟩

end AccountCall

/-- any number of sessions, from a state of the store -/
def accountSystem (lib : PasswordLibrary) (ι : Type) [DecidableEq ι] (start : Postgres) :
    System (Sessions ι Postgres Failure AccountResult AccountCall) (Serial.Move ι AccountCall) :=
  Serial.system (AccountCall.prepare lib) start

/-! ## what a commit does -/

section
variable {lib : PasswordLibrary} {s s' : Postgres} {a : AccountResult}

/-- the program of a call committed these tables -/
def Made (lib : PasswordLibrary) (call : AccountCall) (s : Postgres) (a : AccountResult)
    (s' : Postgres) : Prop :=
  ∃ program, call.prepare lib = .ok program ∧ program.run s = .ok (a, s')

theorem of_run_then {α : Type} {p : Program α} {f : α → AccountResult}
    {body : Db → Except Failure (α × Db × List AuditRow)}
    (hp : p.run s = (body s.db).map fun r => (r.1, ⟨r.2.1, s.audit ++ r.2.2⟩))
    (h : (p >>= fun x => pure (f x)).run s = .ok (a, s')) :
    ∃ x rows, a = f x ∧ body s.db = .ok (x, s'.db, rows) ∧ s'.audit = s.audit ++ rows := by
  rw [Txn.run_bind, hp] at h
  cases hb : body s.db with
  | error e =>
    rw [hb] at h
    cases h
  | ok r =>
    rw [hb] at h
    cases h
    exact ⟨r.1, r.2.2, rfl, rfl, rfl⟩

theorem made_switch {context : AuthorizationContext} {enabled : Bool}
    (h : Made lib (.setRegistrationEnabled context enabled) s a s') :
    ∃ b rows, setRegistrationEnabledBody context enabled s.db = .ok (b, s'.db, rows) := by
  obtain ⟨program, hp, hrun⟩ := h
  cases hp
  obtain ⟨b, rows, -, hbody, -⟩ := of_run_then (run_setRegistrationEnabled context enabled s) hrun
  exact ⟨b, rows, hbody⟩

theorem made_register {salt now : Nat} {userName password requestId : String} {userId : Uuid}
    (h : Made lib (.register salt userName password userId requestId now) s a s') :
    ∃ hash id rows, registerBody userName hash userId requestId now s.db = .ok (id, s'.db, rows) := by
  obtain ⟨program, hp, hrun⟩ := h
  unfold AccountCall.prepare at hp
  dsimp only at hp
  split at hp
  · cases hp
  · rename_i hash _
    cases hp
    obtain ⟨id, rows, -, hbody, -⟩ :=
      of_run_then (run_register userName hash userId requestId now s) hrun
    exact ⟨hash, id, rows, hbody⟩

theorem made_createUserByAdministrator {salt now : Nat} {context : AuthorizationContext}
    {userName password : String} {userId : Uuid}
    (h : Made lib (.createUserByAdministrator salt context userName password userId now) s a s') :
    ∃ hash id rows, createUserByAdministratorBody context userName hash userId now s.db =
      .ok (id, s'.db, rows) := by
  obtain ⟨program, hp, hrun⟩ := h
  unfold AccountCall.prepare at hp
  dsimp only at hp
  split at hp
  · cases hp
  · rename_i hash _
    cases hp
    obtain ⟨id, rows, -, hbody, -⟩ :=
      of_run_then (run_createUserByAdministrator context userName hash userId now s) hrun
    exact ⟨hash, id, rows, hbody⟩

/-- a call with a name commits one new account -/
theorem made_account {call : AccountCall} (h : Made lib call s a s') {userName : String} {id : Uuid}
    (haccount : call.account? = some (userName, id)) :
    ∃ name hash now role users users' userRoles, normalizeIdentity userName = .ok name ∧
      NewAccount s.db id hash call.byAdministrator now name role users users' userRoles s'.db := by
  cases call with
  | setRegistrationEnabled context enabled => cases haccount
  | register salt userName password userId requestId now =>
    cases haccount
    obtain ⟨hash, _, rows, hbody⟩ := made_register h
    obtain ⟨-, -, name, role, users, users', userRoles, hname, hnew⟩ := registerBody_named hbody
    exact ⟨name, hash, now, role, users, users', userRoles, hname, hnew⟩
  | createUserByAdministrator salt context userName password userId now =>
    cases haccount
    obtain ⟨hash, _, rows, hbody⟩ := made_createUserByAdministrator h
    obtain ⟨-, -, name, role, users, users', userRoles, hname, hnew⟩ :=
      createUserByAdministratorBody_named hbody
    exact ⟨name, hash, now, role, users, users', userRoles, hname, hnew⟩

theorem NewAccount.row {db db' : Db} {userId : Uuid} {hash name : String} {must : Bool} {now : Nat}
    {role : Role} {users users' : Table User.id User.userName User.checks}
    {userRoles : Links Uuid Uuid}
    (h : NewAccount db userId hash must now name role users users' userRoles db') :
    db.users.get? userId = none ∧
      db'.users.get? userId = some ((User.rotatePassword hash must now).apply (newUser userId name)) ∧
      (∀ id, id ≠ userId → db'.users.get? id = db.users.get? id) ∧
      db'.rbacState.publicRegistrationEnabled = db.rbacState.publicRegistrationEnabled := by
  have husers : db'.users = users' := by
    rw [h.result]
    rfl
  have hinserted := Table.get?_insert? h.inserted
  have hrotated := Table.get?_modify? h.rotated
  refine ⟨(Table.rows_insert? h.inserted).2.1, ?_, ?_, ?_⟩
  · rw [husers, hrotated, if_pos rfl, hinserted]
    exact congrArg (Option.map _) (if_pos rfl)
  · intro id hid
    rw [husers, hrotated, if_neg hid, hinserted]
    exact if_neg hid
  · rw [h.result]
    rfl

theorem NewAccount.rights {db db' : Db} {userId : Uuid} {hash name : String} {must : Bool}
    {now : Nat} {role : Role} {users users' : Table User.id User.userName User.checks}
    {userRoles : Links Uuid Uuid} (hc : Coherent db)
    (h : NewAccount db userId hash must now name role users users' userRoles db') :
    db'.userRoles.rights userId = [systemRoleId .user] := by
  have hid : role.id = systemRoleId .user := hc.findBy? .user h.stored
  have hnone : db.userRoles.rights userId = [] := by
    refine List.eq_nil_iff_forall_not_mem.mpr fun r hr => ?_
    exact hc.unlinked (Table.rows_insert? h.inserted).2.1 r (Links.mem_rights.mp hr)
  rw [h.result]
  show userRoles.rights userId = _
  rw [Links.rights_linkAll? h.assigned, if_pos rfl, hnone, hid]
  rfl

theorem Coherent.superAdmin_of_flag {db : Db} (hc : Coherent db) {id : Uuid} {role : Role}
    (h : db.liveRole? id = some role) (hflag : role.isSuperAdmin = true) :
    id = systemRoleId .superAdmin := by
  have hsystem : role.isSystem = true := by
    have hchecks := Db.checks_of_liveRole? h
    unfold Role.checks at hchecks
    simp only [Bool.and_eq_true, Bool.or_eq_true, Bool.not_eq_true', hflag, Bool.true_eq_false,
      false_or, beq_iff_eq] at hchecks
    exact hchecks.1.1.1.2.1.1.1.1.1
  obtain ⟨k, rfl⟩ := hc.systemIds id role (Db.liveRole?_eq_some.mp h).1 hsystem
  obtain ⟨role', hlive', -, -, -, -, -, hflag', -⟩ := hc.systemRole k
  rw [h] at hlive'
  cases hlive'
  rw [hflag] at hflag'
  cases k with
  | superAdmin => rfl
  | admin => cases hflag'
  | user => cases hflag'

theorem setRegistrationEnabledBody_actor {context : AuthorizationContext} {enabled b : Bool}
    {db db' : Db} {rows : List AuditRow} (hc : Coherent db)
    (h : setRegistrationEnabledBody context enabled db = .ok (b, db', rows)) :
    db'.users = db.users ∧ db'.rbacState.publicRegistrationEnabled = enabled ∧
      ∃ row, CurrentActor db context row ∧ Holder db context.principal.userId row := by
  unfold setRegistrationEnabledBody at h
  simp only [bind_ok, require_ok] at h
  obtain ⟨actor, hactor, _, ⟨hsuper, -⟩, h⟩ := h
  obtain ⟨row, hcur, rfl⟩ := requireCurrentActor_current hactor
  have hholds : db.userRoles.Linked context.principal.userId (systemRoleId .superAdmin) := by
    obtain ⟨g, hg, hflag⟩ := List.any_eq_true.mp hsuper
    obtain ⟨role, hlinked, hlive, -, rfl⟩ := Db.mem_roleGrantsForUser.mp hg
    rw [hcur.id] at hlinked
    rw [← hc.superAdmin_of_flag hlive hflag]
    exact hlinked
  have hswitch : db'.users = db.users ∧ db'.rbacState.publicRegistrationEnabled = enabled := by
    split at h
    · rename_i hsame
      cases h
      exact ⟨rfl, hsame⟩
    · cases h
      exact ⟨rfl, rfl⟩
  exact ⟨hswitch.1, hswitch.2, row, hcur, hcur.live, hcur.active, hholds⟩

theorem made_standing (hs : Standing s.db) {call : AccountCall} (h : Made lib call s a s') :
    Standing s'.db := by
  cases call with
  | setRegistrationEnabled context enabled =>
    obtain ⟨b, rows, hbody⟩ := made_switch h
    have hop : (Operation.setRegistrationEnabled context enabled).body lib 0 s.db = .ok s'.db := by
      show (setRegistrationEnabledBody context enabled s.db).map _ = _
      rw [hbody]
      rfl
    exact (kept_body hs hop).standing
  | register salt userName password userId requestId now =>
    obtain ⟨hash, id, rows, hbody⟩ := made_register h
    have hop : (Operation.register userName hash userId requestId).body lib now s.db =
        .ok s'.db := by
      show (registerBody userName hash userId requestId now s.db).map _ = _
      rw [hbody]
      rfl
    exact (kept_body hs hop).standing
  | createUserByAdministrator salt context userName password userId now =>
    obtain ⟨hash, id, rows, hbody⟩ := made_createUserByAdministrator h
    have hop : (Operation.createUserByAdministrator context userName hash userId).body lib now
        s.db = .ok s'.db := by
      show (createUserByAdministratorBody context userName hash userId now s.db).map _ = _
      rw [hbody]
      rfl
    exact (kept_body hs hop).standing

theorem made_keeps_switch {call : AccountCall} (h : Made lib call s a s') {userName : String}
    {id : Uuid} (haccount : call.account? = some (userName, id)) :
    s'.db.rbacState.publicRegistrationEnabled = s.db.rbacState.publicRegistrationEnabled := by
  obtain ⟨name, hash, now, role, users, users', userRoles, -, hnew⟩ := made_account h haccount
  exact hnew.row.2.2.2

end

/-! ## every interleaving -/

section
variable {ι : Type} [DecidableEq ι] {lib : PasswordLibrary} {s₀ : Postgres}
  {st : Nat → Sessions ι Postgres Failure AccountResult AccountCall}
  {lab : Nat → Serial.Move ι AccountCall} {n : Nat}

theorem committed_made (h : IsRun (accountSystem lib ι s₀) st lab n) {i : Nat} (hi : i < n)
    {call : AccountCall} {a : AccountResult} (hcommits : Serial.Commits (st i) (lab i) call a) :
    Made lib call (st i).committed a (st (i + 1)).committed :=
  commit_serial (AccountCall.guarded lib) h hi hcommits

theorem committed_cases (h : IsRun (accountSystem lib ι s₀) st lab n) {i : Nat} (hi : i < n) :
    (st (i + 1)).committed = (st i).committed ∨ ∃ call a, Serial.Commits (st i) (lab i) call a ∧
      Made lib call (st i).committed a (st (i + 1)).committed := by
  rcases serial (AccountCall.guarded lib) h hi with hsame | ⟨call, a, program, hcommits, hp, hrun⟩
  · exact .inl hsame
  · exact .inr ⟨call, a, hcommits, program, hp, hrun⟩

theorem standing_run (hs : Standing s₀.db) (h : IsRun (accountSystem lib ι s₀) st lab n) {i : Nat}
    (hi : i ≤ n) : Standing (st i).committed.db := by
  refine IsRun.history (n := n) (P := fun i => Standing (st i).committed.db) ?_ ?_ hi
  · rw [show st 0 = quiet s₀ from h.start]
    exact hs
  · intro i hi hstanding
    rcases committed_cases h hi with hsame | ⟨call, a, -, hmade⟩
    · rw [hsame]
      exact hstanding
    · exact made_standing hstanding hmade

/-- the switch of a committed state -/
def switchOf (s : Sessions ι Postgres Failure AccountResult AccountCall) : Bool :=
  s.committed.db.rbacState.publicRegistrationEnabled

/-- only a call that sets the switch changes it -/
theorem switch_step (hs : Standing s₀.db) (h : IsRun (accountSystem lib ι s₀) st lab n) {i : Nat}
    (hi : i < n) (hchange : switchOf (st (i + 1)) ≠ switchOf (st i)) :
    ∃ context a row, Serial.Commits (st i) (lab i)
        (.setRegistrationEnabled context (switchOf (st (i + 1)))) a ∧
      CurrentActor (st i).committed.db context row ∧
      Holder (st i).committed.db context.principal.userId row := by
  rcases committed_cases h hi with hsame | ⟨call, a, hcommits, hmade⟩
  · exact absurd (congrArg (fun s : Postgres => s.db.rbacState.publicRegistrationEnabled) hsame)
      hchange
  · cases haccount : call.account? with
    | some account =>
      obtain ⟨userName, id⟩ := account
      exact absurd (made_keeps_switch hmade haccount) hchange
    | none =>
      cases call with
      | setRegistrationEnabled context enabled =>
        obtain ⟨b, rows, hbody⟩ := made_switch hmade
        have hstanding := standing_run hs h (Nat.le_of_lt hi)
        obtain ⟨-, hswitch, row, hcur, hholder⟩ :=
          setRegistrationEnabledBody_actor hstanding.coherent hbody
        refine ⟨context, a, row, ?_, hcur, hholder⟩
        rw [show switchOf (st (i + 1)) = enabled from hswitch]
        exact hcommits
      | register salt userName password userId requestId now => cases haccount
      | createUserByAdministrator salt context userName password userId now => cases haccount

theorem opened_between {i j : Nat} (hij : i ≤ j) (hclosed : switchOf (st i) = false)
    (hopen : switchOf (st j) = true) :
    ∃ m, i ≤ m ∧ m < j ∧ switchOf (st m) = false ∧ switchOf (st (m + 1)) = true := by
  induction j, hij using Nat.le_induction with
  | base =>
    rw [hclosed] at hopen
    cases hopen
  | succ j hij ih =>
    cases hj : switchOf (st j) with
    | false => exact ⟨j, hij, Nat.lt_succ_self j, hj, hopen⟩
    | true =>
      obtain ⟨m, him, hmj, hm⟩ := ih hj
      exact ⟨m, him, Nat.lt_succ_of_lt hmj, hm⟩

/-- **the switch and the names**: a registration commits while the switch is on, and between two
openings none does; names are unique; the super administrator alone changes the switch; a new user
has the base role only, and a temporary password exactly from an administrator -/
theorem registration_runs (hs : Reachable (system lib) s₀)
    (h : IsRun (accountSystem lib ι s₀) st lab n) :
    (∀ i < n, ∀ salt userName password userId requestId now a,
      Serial.Commits (st i) (lab i) (.register salt userName password userId requestId now) a →
        switchOf (st i) = true ∧ switchOf (st (i + 1)) = true) ∧
    (∀ i j, i < j → j < n → switchOf (st (i + 1)) = false →
      ∀ salt userName password userId requestId now a,
        Serial.Commits (st j) (lab j) (.register salt userName password userId requestId now) a →
          ∃ m, i < m ∧ m < j ∧ switchOf (st m) = false ∧ ∃ context b,
            Serial.Commits (st m) (lab m) (.setRegistrationEnabled context true) b) ∧
    (∀ i ≤ n, ∀ u ∈ (st i).committed.db.users.rows, ∀ v ∈ (st i).committed.db.users.rows,
      u.userName = v.userName → u = v) ∧
    (∀ i < n, switchOf (st (i + 1)) ≠ switchOf (st i) → ∃ context a row,
      Serial.Commits (st i) (lab i) (.setRegistrationEnabled context (switchOf (st (i + 1)))) a ∧
        CurrentActor (st i).committed.db context row ∧
        Holder (st i).committed.db context.principal.userId row) ∧
    (∀ i < n, ∀ id u, (st i).committed.db.users.get? id = none →
      (st (i + 1)).committed.db.users.get? id = some u →
        ∃ call a userName, Serial.Commits (st i) (lab i) call a ∧
          call.account? = some (userName, id) ∧ normalizeIdentity userName = .ok u.userName ∧
          u.tokenVersion = 0 ∧ u.deletedAt = none ∧
          (st (i + 1)).committed.db.userRoles.rights id = [systemRoleId .user] ∧
          u.mustChangePassword = call.byAdministrator) ∧
    ∀ i < n, ∀ call a userName id, Serial.Commits (st i) (lab i) call a →
      call.account? = some (userName, id) → (st i).committed.db.users.get? id = none ∧
        ((st (i + 1)).committed.db.users.get? id).isSome = true := by
  have hstanding := reachable_standing hs
  have hopen {i : Nat} (hi : i < n) {salt now : Nat} {userName password requestId : String}
      {userId : Uuid} {a : AccountResult} (hcommits : Serial.Commits (st i) (lab i)
        (.register salt userName password userId requestId now) a) : switchOf (st i) = true := by
    obtain ⟨hash, id, rows, hbody⟩ := made_register (committed_made h hi hcommits)
    exact (registerBody_ok hbody).1
  refine ⟨?_, ?_, ?_, fun i hi => switch_step hstanding h hi, ?_, ?_⟩
  · intro i hi salt userName password userId requestId now a hcommits
    refine ⟨hopen hi hcommits, ?_⟩
    have hkeeps := made_keeps_switch (committed_made h hi hcommits) rfl
    exact hkeeps.trans (hopen hi hcommits)
  · intro i j hij hj hclosed salt userName password userId requestId now a hcommits
    obtain ⟨m, him, hmj, hm, hm'⟩ := opened_between hij hclosed (hopen hj hcommits)
    have hchange : switchOf (st (m + 1)) ≠ switchOf (st m) := by
      rw [hm, hm']
      decide
    obtain ⟨context, b, row, hset, -⟩ := switch_step hstanding h (hmj.trans hj) hchange
    rw [hm'] at hset
    exact ⟨m, him, hmj, hm, context, b, hset⟩
  · intro i hi u hu v hv hname
    exact Table.uniq_inj (Table.mem_rows_iff.mp hu) (Table.mem_rows_iff.mp hv) hname
  · intro i hi id u hnone hsome
    rcases committed_cases h hi with hsame | ⟨call, a, hcommits, hmade⟩
    · rw [hsame, hnone] at hsome
      cases hsome
    · cases haccount : call.account? with
      | none =>
        cases call with
        | setRegistrationEnabled context enabled =>
          obtain ⟨b, rows, hbody⟩ := made_switch hmade
          have hcoherent := (standing_run hstanding h (Nat.le_of_lt hi)).coherent
          rw [(setRegistrationEnabledBody_actor hcoherent hbody).1, hnone] at hsome
          cases hsome
        | register salt userName password userId requestId now => cases haccount
        | createUserByAdministrator salt context userName password userId now => cases haccount
      | some account =>
        obtain ⟨userName, userId⟩ := account
        obtain ⟨name, hash, now, role, users, users', userRoles, hname, hnew⟩ :=
          made_account hmade haccount
        obtain ⟨-, hrow, hothers, -⟩ := hnew.row
        have hid : id = userId := by
          by_contra hne
          rw [hothers id hne, hnone] at hsome
          cases hsome
        subst hid
        rw [hrow] at hsome
        cases hsome
        have hcoherent := (standing_run hstanding h (Nat.le_of_lt hi)).coherent
        exact ⟨call, a, userName, hcommits, haccount, hname, rfl, rfl, hnew.rights hcoherent, rfl⟩
  · intro i hi call a userName id hcommits haccount
    obtain ⟨name, hash, now, role, users, users', userRoles, -, hnew⟩ :=
      made_account (committed_made h hi hcommits) haccount
    obtain ⟨hnone, hrow, -⟩ := hnew.row
    rw [hrow]
    exact ⟨hnone, rfl⟩

end

/-- a registration is hashed while the switch is to be closed, and takes the guard first -/
def contending : List (Serial.Move Bool AccountCall) :=
  [.call true (.register 0 "bob" "CorrectHorseBattery1" bob "request" 7),
    .call false (.setRegistrationEnabled (bearer alice 0) false), .prepare false, .prepare true] ++
    List.replicate 15 (.step true)

/-- and the closing goes on behind it -/
def closingMoves (i : Nat) : Serial.Move Bool AccountCall := contending.getD i (.step false)

def opened : Postgres :=
  PgRbac.states sampleLibrary (script [signUp "alice" alice, .bootstrap alice]) 2

def closingStates : Nat → Sessions Bool Postgres Failure AccountResult AccountCall :=
  Serial.states (AccountCall.prepare sampleLibrary) opened closingMoves

theorem registration_runs_closing :
    (∃ call a userName, Serial.Commits (closingStates 18) (closingMoves 18) call a ∧
      call.account? = some (userName, bob)) ∧
    ∃ context a row, Serial.Commits (closingStates 24) (closingMoves 24)
      (.setRegistrationEnabled context (switchOf (closingStates (24 + 1)))) a ∧
        Holder (closingStates 24).committed.db context.principal.userId row := by
  have hreach : Reachable (PgRbac.system sampleLibrary) opened :=
    (PgRbac.isRun_states sampleLibrary _ 2).reachable (Nat.le_refl 2)
  have hrun : IsRun (accountSystem sampleLibrary Bool opened) closingStates closingMoves 25 := by
    refine Serial.isRun_states ?_
    decide +kernel
  have hbefore : (closingStates 18).committed.db.users.get? bob = none := by decide +kernel
  have hafter : ((closingStates (18 + 1)).committed.db.users.get? bob).isSome = true := by decide +kernel
  have hclosed : switchOf (closingStates (24 + 1)) ≠ switchOf (closingStates 24) := by
    decide +kernel
  obtain ⟨-, -, -, hswitch, hnew, -⟩ := registration_runs hreach hrun
  obtain ⟨u, hu⟩ := Option.isSome_iff_exists.mp hafter
  obtain ⟨call, a, userName, hcommits, haccount, -⟩ := hnew 18 (by decide) bob u hbefore hu
  obtain ⟨context, b, row, hset, -, hholder⟩ := hswitch 24 (by decide) hclosed
  exact ⟨⟨call, a, userName, hcommits, haccount⟩, context, b, row, hset, hholder⟩

end PgRbac
