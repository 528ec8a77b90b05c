import PgRbac.Visibility

/-!
# What a refused command gives away

A command on a role names the version that its caller expects.  Two runs of one command are
compared: with another expected version, on a state with another stored version, or naming another
role or user.

* `RoleCommand`            the commands on a role, with their checks up to the policy's decision;
* `SameButVersion`         two states that differ in the version of one role;
* `judge_congr`            the checks read no version;
* `version_confined`       a refused command ends the same way whatever the versions are, and one
                           without its permission whatever it names.
-/

set_option linter.unusedVariables false

namespace PgRbac

open Fallible Store Trace

/-! ## the commands -/

/-- a command on a role, without the version that it expects -/
inductive RoleCommand where
  | updateRole (request : RoleUpdateRequest)
  | setRoleActive (isActive : Bool)
  | softDeleteRole
  | changeRolePermissions (permissionIds : List Uuid) (operation : RoleOperation)

namespace RoleCommand

def required : RoleCommand → PermissionKey
  | updateRole _ => .rolesUpdate
  | setRoleActive _ => .rolesStatusUpdate
  | softDeleteRole => .rolesDelete
  | changeRolePermissions _ operation => operation.permissionsRequired

/-- only grants are not changed on a disabled role -/
def includeInactive : RoleCommand → Bool
  | changeRolePermissions .. => false
  | _ => true

def action : RoleCommand → String
  | updateRole _ => "role.update"
  | setRoleActive isActive => "role." ++ setRoleActiveVerb isActive
  | softDeleteRole => "role.delete"
  | changeRolePermissions _ operation => "role.permissions." ++ operation.value

def body (context : AuthorizationContext) (roleId : Uuid) (expectedVersion now : Nat) (db : Db) :
    RoleCommand → Except Failure (MutationOutcome RoleMutationResponse × Db)
  | updateRole request => updateRoleBody context roleId request expectedVersion db
  | setRoleActive isActive => setRoleActiveBody context roleId isActive expectedVersion db
  | softDeleteRole => softDeleteRoleBody context roleId expectedVersion now db
  | changeRolePermissions ids operation =>
    changeRolePermissionsBody context roleId ids.dedup operation expectedVersion now db

def run (context : AuthorizationContext) (roleId : Uuid) (expectedVersion now : Nat)
    (s : Postgres) : RoleCommand → Except Failure RoleMutationResponse × Postgres
  | updateRole request => PgRbac.updateRole context roleId request expectedVersion s
  | setRoleActive isActive => PgRbac.setRoleActive context roleId isActive expectedVersion s
  | softDeleteRole => PgRbac.softDeleteRole context roleId expectedVersion now s
  | changeRolePermissions ids operation =>
    PgRbac.changeRolePermissions context roleId ids operation expectedVersion now s

/-- the keys of the permissions that a change of grants names -/
def requestedKeys (db : Db) (ids : List Uuid) : Finset String :=
  ((db.loadPermissionKeys ids.dedup).map Prod.snd).toFinset

/-- what the policy says about a change of grants on a locked role -/
def permissionsDecision (locked : LockedSharedRole) (operation : RoleOperation)
    (requested : Finset String) : PolicyDecision :=
  let permissionKeysAfter := operation.keysAfter locked.roleBefore.permissions requested
  decideRolePermissionsChange operation locked.actor locked.roleBefore permissionKeysAfter
    (locked.affectedIds.contains locked.actor.userId)
    (locked.affectedBefore.map fun s =>
      s.withRole { locked.roleBefore with permissions := permissionKeysAfter })

/-- what the policy says about another change of a locked role -/
def administrationDecision (locked : LockedSharedRole) (operation : RoleAdministrationOperation) :
    PolicyDecision :=
  decideRoleAdministration operation locked.actor locked.roleBefore
    (locked.affectedIds.contains locked.actor.userId) locked.affectedBefore

/-- what the policy says about the command on a locked role -/
def decision (db : Db) (locked : LockedSharedRole) : RoleCommand → PolicyDecision
  | updateRole _ => administrationDecision locked .update
  | setRoleActive isActive => administrationDecision locked (setRoleActiveOperation isActive)
  | softDeleteRole => administrationDecision locked .delete
  | changeRolePermissions ids operation =>
    permissionsDecision locked operation (requestedKeys db ids)

def lock (db : Db) (context : AuthorizationContext) (roleId : Uuid) (command : RoleCommand) :
    Except Failure LockedSharedRole :=
  lockSharedRoleChange db context roleId command.required command.includeInactive

/-- the actor is a current one who finds the role, and the policy allows it the command -/
def Authorised (db : Db) (context : AuthorizationContext) (roleId : Uuid) (command : RoleCommand) :
    Prop :=
  ∃ locked, command.lock db context roleId = .ok locked ∧
    (command.decision db locked).allowed = true

/-- the permissions that the request names exist, in the control plane -/
def checkRequest (db : Db) : RoleCommand → Except Failure Unit
  | changeRolePermissions ids _ => do
    require (ids.dedup.all ((db.loadPermissionKeys ids.dedup).map Prod.fst).contains)
      (invalidRequest "unknown_permission_id")
    require (requestedKeys db ids ⊆ superAdminPermissionKeys)
      (invalidRequest "permission_outside_control_plane")
  | _ => .ok ()

/-- everything that the command checks before it compares the versions -/
def judge (db : Db) (context : AuthorizationContext) (roleId : Uuid) (command : RoleCommand) :
    Except Failure LockedSharedRole := do
  let locked ← command.lock db context roleId
  command.checkRequest db
  let decision := command.decision db locked
  require decision.allowed (forbidden decision.reasonCode)
  pure locked

end RoleCommand

section
variable {db db' : Db} {context : AuthorizationContext} {roleId : Uuid}

theorem judge_error {command : RoleCommand} {e : Failure} :
    command.judge db context roleId = .error e ↔
      command.lock db context roleId = .error e ∨ ∃ locked,
        command.lock db context roleId = .ok locked ∧ (command.checkRequest db = .error e ∨
          command.checkRequest db = .ok () ∧ ¬ (command.decision db locked).allowed = true ∧
            forbidden (command.decision db locked).reasonCode = e) := by
  unfold RoleCommand.judge
  simp only [bind_error, require_error, pure_error, and_false, exists_false, or_false]
  refine or_congr Iff.rfl (exists_congr fun locked => and_congr Iff.rfl (or_congr Iff.rfl ?_))
  constructor
  · intro h
    obtain ⟨_, hr, hd⟩ := h
    exact ⟨hr, hd⟩
  · intro h
    exact ⟨(), h.1, h.2⟩

/-- a command whose decision is a denial ends there -/
theorem error_of_denied {α : Type} {x : Except Failure LockedSharedRole} {locked : LockedSharedRole}
    {operation : RoleAdministrationOperation} {rest : LockedSharedRole → Except Failure α}
    {e : Failure} (hl : x = .ok locked)
    (hd : ¬ (RoleCommand.administrationDecision locked operation).allowed = true ∧
      forbidden (RoleCommand.administrationDecision locked operation).reasonCode = e) :
    (do
      let locked ← x
      requireRoleAdministration locked operation
      rest locked) = .error e := by
  rw [bind_error]
  refine Or.inr ⟨locked, hl, ?_⟩
  rw [bind_error]
  exact Or.inl ((require_error _ _ _).mpr hd)

/-- **the versions are compared after everything else**: what fails before fails the command -/
theorem body_of_judge {command : RoleCommand} {e : Failure}
    (h : command.judge db context roleId = .error e) (expectedVersion now : Nat) :
    command.body context roleId expectedVersion now db = .error e := by
  rcases judge_error.mp h with hl | ⟨locked, hl, hr⟩
  · cases command with
    | updateRole request => exact (bind_error _ _ _).mpr (Or.inl hl)
    | setRoleActive isActive => exact (bind_error _ _ _).mpr (Or.inl hl)
    | softDeleteRole => exact (bind_error _ _ _).mpr (Or.inl hl)
    | changeRolePermissions ids operation => exact (bind_error _ _ _).mpr (Or.inl hl)
  · cases command with
    | updateRole request =>
      rcases hr with hr | ⟨-, hd⟩
      · cases hr
      · exact error_of_denied hl hd
    | setRoleActive isActive =>
      rcases hr with hr | ⟨-, hd⟩
      · cases hr
      · exact error_of_denied hl hd
    | softDeleteRole =>
      rcases hr with hr | ⟨-, hd⟩
      · cases hr
      · exact error_of_denied hl hd
    | changeRolePermissions ids operation =>
      refine (bind_error _ _ _).mpr (Or.inr ⟨locked, hl, ?_⟩)
      unfold RoleCommand.checkRequest at hr
      simp only [bind_error, bind_ok, require_error, require_ok] at hr
      simp only [bind_error, require_error, require_ok]
      rcases hr with (hk | ⟨_, hk, hp⟩) | ⟨⟨_, hk, hp⟩, hd⟩
      · exact Or.inl hk
      · exact Or.inr ⟨(), hk, Or.inl hp⟩
      · exact Or.inr ⟨(), hk, Or.inr ⟨(), hp, Or.inl hd⟩⟩

theorem runAudited_of_error {α : Type} {action : String} {tu tr : Option Uuid}
    {operation : Db → Except Failure (MutationOutcome α × Db)} {audit : List AuditRow} {e : Failure}
    (h : operation db = .error e) :
    runAudited context action tu tr operation ⟨db, audit⟩ =
      (.error e, ⟨db, audit ++ deniedAudit context action tu tr e⟩) := by
  unfold runAudited transact
  dsimp only
  rw [h]
  rfl

/-- what a command answers when the checks before the versions fail -/
def RoleCommand.refusal (e : Failure) : RoleCommand → Failure
  | changeRolePermissions [] _ => invalidRequest "permission_ids_required"
  | _ => e

/-- what it writes then -/
def RoleCommand.denial (context : AuthorizationContext) (roleId : Uuid) (e : Failure) :
    RoleCommand → List AuditRow
  | changeRolePermissions [] _ => []
  | command => deniedAudit context command.action none (some roleId) e

theorem run_of_judge {command : RoleCommand} {e : Failure}
    (h : command.judge db context roleId = .error e) (audit : List AuditRow)
    (expectedVersion now : Nat) :
    command.run context roleId expectedVersion now ⟨db, audit⟩ =
      (.error (command.refusal e), ⟨db, audit ++ command.denial context roleId e⟩) := by
  have hbody := body_of_judge h expectedVersion now
  cases command with
  | updateRole request => exact runAudited_of_error hbody
  | setRoleActive isActive => exact runAudited_of_error hbody
  | softDeleteRole => exact runAudited_of_error hbody
  | changeRolePermissions ids operation =>
    show PgRbac.changeRolePermissions context roleId ids operation expectedVersion now _ = _
    unfold PgRbac.changeRolePermissions
    cases ids with
    | nil =>
      rw [if_pos rfl]
      show _ = (_, (⟨db, audit ++ []⟩ : Postgres))
      rw [List.append_nil]
      rfl
    | cons id ids =>
      rw [if_neg (List.cons_ne_nil id ids)]
      exact runAudited_of_error hbody

theorem not_authorised {command : RoleCommand} (h : ¬ command.Authorised db context roleId) :
    ∃ e, command.judge db context roleId = .error e := by
  cases hj : command.judge db context roleId with
  | error e => exact ⟨e, rfl⟩
  | ok locked =>
    unfold RoleCommand.judge at hj
    simp only [bind_ok, require_ok, pure_ok] at hj
    obtain ⟨_, hl, _, -, _, hd, rfl⟩ := hj
    exact absurd ⟨_, hl, hd⟩ h

end

/-! ## the stored version -/

/-- the row with its version blanked, if it is that of this role -/
def Role.unversioned (roleId : Uuid) (r : Role) : Role :=
  { r with version := if r.id = roleId then 0 else r.version }

/-- two states that are equal but for the version of one role -/
structure SameButVersion (roleId : Uuid) (db db' : Db) : Prop where
  users : db'.users = db.users
  permissions : db'.permissions = db.permissions
  rolePermissions : db'.rolePermissions = db.rolePermissions
  userRoles : db'.userRoles = db.userRoles
  roles : ∀ id, (db'.roles.get? id).map (Role.unversioned roleId) =
    (db.roles.get? id).map (Role.unversioned roleId)

theorem SameButVersion.refl (roleId : Uuid) (db : Db) : SameButVersion roleId db db :=
  ⟨rfl, rfl, rfl, rfl, fun _ => rfl⟩

theorem SameButVersion.bumped {roleId : Uuid} {db : Db}
    {roles : Table Role.id Role.key Role.checks}
    (h : db.roles.modify? roleId Role.bumpVersion = .ok roles) :
    SameButVersion roleId db { db with roles := roles } := by
  refine ⟨rfl, rfl, rfl, rfl, fun id => ?_⟩
  show (roles.get? id).map _ = _
  rw [Table.get?_modify? h]
  by_cases hid : id = roleId
  · rw [if_pos hid]
    cases hrow : db.roles.get? id with
    | none => rfl
    | some r =>
      have hr : r.id = roleId := (Table.key_of_get? hrow).trans hid
      show some (Role.unversioned roleId (Role.bumpVersion.apply r)) = some _
      unfold Role.unversioned
      rw [if_pos hr, if_pos (show (Role.bumpVersion.apply r).id = roleId from hr)]
      rfl
  · rw [if_neg hid]

section
variable {db db' : Db} {context : AuthorizationContext} {roleId : Uuid}

theorem SameButVersion.liveRole? (h : SameButVersion roleId db db') (id : Uuid) :
    (db'.liveRole? id).map (Role.unversioned roleId) =
      (db.liveRole? id).map (Role.unversioned roleId) := by
  have hfilter : ∀ o : Option Role, (o.filter fun r => r.deletedAt.isNone).map
      (Role.unversioned roleId) = (o.map (Role.unversioned roleId)).filter
        fun r => r.deletedAt.isNone := by
    intro o
    cases o with
    | none => rfl
    | some r =>
      show Option.map _ (Option.filter _ (some r)) = Option.filter _ (some (r.unversioned roleId))
      rw [Option.filter_some, Option.filter_some]
      show _ = if r.deletedAt.isNone = true then _ else _
      split <;> rfl
  unfold Db.liveRole?
  rw [hfilter, hfilter, h.roles]

theorem SameButVersion.liveUser? (h : SameButVersion roleId db db') (id : Uuid) :
    db'.liveUser? id = db.liveUser? id := by
  unfold Db.liveUser?
  rw [h.users]

theorem SameButVersion.rolePermissionKeys (h : SameButVersion roleId db db') (id : Uuid) :
    db'.rolePermissionKeys id = db.rolePermissionKeys id := by
  unfold Db.rolePermissionKeys Db.livePermission?
  rw [h.permissions, h.rolePermissions]

theorem SameButVersion.roleGrant (h : SameButVersion roleId db db') (r : Role) :
    db'.roleGrant r = db.roleGrant (r.unversioned roleId) := by
  unfold Db.roleGrant
  rw [h.rolePermissionKeys]
  rfl

theorem SameButVersion.roleGrantsForUser (h : SameButVersion roleId db db') (userId : Uuid)
    (incl : Bool) : db'.roleGrantsForUser userId incl = db.roleGrantsForUser userId incl := by
  have hgrants : ∀ {d : Db}, SameButVersion roleId db d → d.roleGrantsForUser userId incl =
      (((db.userRoles.rights userId).filterMap fun id =>
        (d.liveRole? id).map (Role.unversioned roleId)).filter fun r => incl || r.isActive).map
          db.roleGrant := by
    intro d hd
    unfold Db.roleGrantsForUser Db.assignedRoles
    rw [hd.userRoles, ← List.map_filterMap, List.filter_map, List.map_map]
    refine List.map_congr_left ?_
    intro r _
    exact hd.roleGrant r
  rw [hgrants h, hgrants (SameButVersion.refl roleId db)]
  congr 3
  funext id
  exact h.liveRole? id

theorem SameButVersion.authority (h : SameButVersion roleId db db') (incl : Bool) :
    db'.authority incl = db.authority incl := by
  funext u
  unfold Db.authority
  rw [h.roleGrantsForUser]

theorem SameButVersion.requireCurrentActor (h : SameButVersion roleId db db') :
    db'.requireCurrentActor = db.requireCurrentActor := by
  funext id tokenVersion
  unfold Db.requireCurrentActor Db.loadAuthoritySnapshot
  rw [h.liveUser?, h.authority]

theorem SameButVersion.affectedUsers (h : SameButVersion roleId db db') (id : Uuid) :
    affectedUsers db' id = affectedUsers db id := by
  unfold PgRbac.affectedUsers
  rw [h.userRoles, show db'.liveUser? = db.liveUser? from funext h.liveUser?]

/-- the checks on a found role, once the actor is known -/
def sharedRole (db : Db) (roleId : Uuid) (includeInactive : Bool) (actor : AuthoritySnapshot)
    (role : Role) : Except Failure LockedSharedRole := do
  require (role.deletedAt = none ∧ (includeInactive ∨ role.isActive)) (notFound "role_not_found")
  require (isAdministrativeRoleVisible actor (db.roleGrant role)) (notFound "role_not_found")
  let affected := affectedUsers db roleId
  pure { actor, role, roleBefore := db.roleGrant role
         affectedBefore := affected.map (db.authority true)
         affectedIds := affected.map User.id
         permissionRows := db.rolePermissionKeys roleId }

/-- who the actor of a command is, if it may perform it at all -/
def actorGuard (db : Db) (context : AuthorizationContext) (required : PermissionKey) :
    Except Failure AuthoritySnapshot := do
  let _ ← requireCurrentLockedActorRow (db.liveUser? context.principal.userId) context
  let actor ← db.requireCurrentActor context.principal.userId context.principal.tokenVersion
  require (required.value ∈ actor.permissions) (forbidden "missing_operation_permission")
  pure actor

theorem lockSharedRoleChange_eq {required : PermissionKey} {incl : Bool} :
    lockSharedRoleChange db context roleId required incl = (do
      let actor ← actorGuard db context required
      let role ← orRaise (db.liveRole? roleId) (notFound "role_not_found")
      sharedRole db roleId incl actor role) := by
  unfold lockSharedRoleChange actorGuard sharedRole
  have hlock : ∀ ids : List Uuid, db.lockRoles (ids ++ [roleId]) roleId = db.liveRole? roleId := by
    intro ids
    unfold Db.lockRoles
    rw [if_pos (List.mem_append_right _ (List.mem_singleton.mpr rfl))]
  have huser : ∀ ids : List Uuid, db.lockUsers (context.principal.userId :: ids)
      context.principal.userId = db.liveUser? context.principal.userId := by
    intro ids
    unfold Db.lockUsers
    rw [if_pos List.mem_cons_self]
  simp only [hlock, huser, bind_assoc, pure_bind]
  congr 1
  funext _
  congr 1
  funext actor
  congr 1
  funext _
  cases hr : db.liveRole? roleId with
  | none => rfl
  | some role =>
    show (require _ _ >>= _) = (require _ _ >>= _)
    congr 1
    funext _
    have hg : db.loadRoleGrant roleId true false = .ok (db.roleGrant role) := by
      unfold Db.loadRoleGrant
      rw [if_neg Bool.false_ne_true, hr]
      rfl
    rw [hg]
    rfl

theorem map_bind_congr {α β γ δ : Type} {x y : Except Failure α} {f g : α → Except Failure β}
    {u : α → γ} {v : β → δ} (hxy : x.map u = y.map u)
    (hfg : ∀ a b, u a = u b → (f a).map v = (g b).map v) :
    (x >>= f).map v = (y >>= g).map v := by
  cases x with
  | error e =>
    cases y with
    | error e' => exact congrArg Except.error (Except.error.inj hxy)
    | ok b => cases hxy
  | ok a =>
    cases y with
    | error e' => cases hxy
    | ok b => exact hfg a b (Except.ok.inj hxy)

theorem map_then_congr {α β δ : Type} (x : Except Failure α) {f g : α → Except Failure β} {v : β → δ}
    (hfg : ∀ a, (f a).map v = (g a).map v) : (x >>= f).map v = (x >>= g).map v :=
  map_bind_congr (u := id) rfl fun a b h => (show a = b from h) ▸ hfg a

/-- what a command locks, with the version of the role blanked -/
def LockedSharedRole.unversioned (roleId : Uuid) (locked : LockedSharedRole) : LockedSharedRole :=
  { locked with role := locked.role.unversioned roleId }

theorem SameButVersion.actorGuard (h : SameButVersion roleId db db') (required : PermissionKey) :
    actorGuard db' context required = actorGuard db context required := by
  unfold PgRbac.actorGuard
  rw [h.liveUser?, h.requireCurrentActor]

theorem SameButVersion.sharedRole (h : SameButVersion roleId db db') {incl : Bool}
    {actor : AuthoritySnapshot} {r r' : Role} (hr : r'.unversioned roleId = r.unversioned roleId) :
    (sharedRole db' roleId incl actor r').map (LockedSharedRole.unversioned roleId) =
      (sharedRole db roleId incl actor r).map (LockedSharedRole.unversioned roleId) := by
  have hdeleted : r'.deletedAt = r.deletedAt := (Role.mk.inj hr).2.2.2.2.2.2.2.2.2.2.1
  have hactive : r'.isActive = r.isActive := (Role.mk.inj hr).2.2.2.2.2.1
  have hgrant : db'.roleGrant r' = db.roleGrant r := by
    rw [h.roleGrant, hr]
    rfl
  unfold PgRbac.sharedRole
  rw [hdeleted, hactive, hgrant, h.affectedUsers, h.authority, h.rolePermissionKeys]
  refine map_then_congr _ fun _ => map_then_congr _ fun _ => ?_
  show Except.ok _ = Except.ok _
  unfold LockedSharedRole.unversioned
  rw [hr]

theorem SameButVersion.lock (h : SameButVersion roleId db db') (command : RoleCommand) :
    (command.lock db' context roleId).map (LockedSharedRole.unversioned roleId) =
      (command.lock db context roleId).map (LockedSharedRole.unversioned roleId) := by
  unfold RoleCommand.lock
  rw [lockSharedRoleChange_eq, lockSharedRoleChange_eq, h.actorGuard]
  refine map_then_congr _ fun actor => ?_
  refine map_bind_congr (u := Role.unversioned roleId) ?_ ?_
  · have hlive := h.liveRole? roleId
    cases hr' : db'.liveRole? roleId with
    | none =>
      rw [hr'] at hlive
      rw [Option.map_eq_none_iff.mp hlive.symm]
    | some r' =>
      rw [hr'] at hlive
      obtain ⟨r, hr, hrr⟩ := Option.map_eq_some_iff.mp hlive.symm
      rw [hr]
      exact congrArg Except.ok hrr.symm
  · intro r' r hr
    exact h.sharedRole hr

/-- **the checks before the versions read no version** -/
theorem SameButVersion.judge (h : SameButVersion roleId db db') (context : AuthorizationContext)
    (command : RoleCommand) :
    (command.judge db' context roleId).map (LockedSharedRole.unversioned roleId) =
      (command.judge db context roleId).map (LockedSharedRole.unversioned roleId) := by
  have hkeys : ∀ ids, db'.loadPermissionKeys ids = db.loadPermissionKeys ids := by
    intro ids
    unfold Db.loadPermissionKeys Db.livePermission?
    rw [h.permissions]
  have hcheck : command.checkRequest db' = command.checkRequest db := by
    cases command with
    | changeRolePermissions ids operation =>
      unfold RoleCommand.checkRequest RoleCommand.requestedKeys
      dsimp only
      rw [hkeys]
    | _ => rfl
  have hdecision : ∀ locked locked' : LockedSharedRole,
      locked.unversioned roleId = locked'.unversioned roleId →
      command.decision db' locked = command.decision db locked' := by
    intro locked locked' he
    have hl : command.decision db' (locked.unversioned roleId) =
        command.decision db (locked'.unversioned roleId) := by
      rw [he]
      cases command with
      | changeRolePermissions ids operation =>
        unfold RoleCommand.decision RoleCommand.requestedKeys
        dsimp only
        rw [hkeys]
      | _ => rfl
    cases command <;> exact hl
  unfold RoleCommand.judge
  refine map_bind_congr (h.lock command) ?_
  intro locked locked' he
  rw [hcheck, hdecision locked locked' he]
  exact map_then_congr _ fun _ => map_then_congr _ fun _ => congrArg Except.ok he

theorem SameButVersion.judge_error (h : SameButVersion roleId db db') {command : RoleCommand}
    {e : Failure} (he : command.judge db context roleId = .error e) :
    command.judge db' context roleId = .error e := by
  have hmap := h.judge context command
  rw [he] at hmap
  cases hj : command.judge db' context roleId with
  | error e' =>
    rw [hj] at hmap
    exact hmap
  | ok locked =>
    rw [hj] at hmap
    cases hmap

end

/-! ## an actor without the permission -/

/-- no current actor of this bearer token has the permission -/
def LacksPermission (db : Db) (context : AuthorizationContext) (permission : PermissionKey) : Prop :=
  ∀ actor, db.requireCurrentActor context.principal.userId context.principal.tokenVersion =
    .ok actor → permission.value ∉ actor.permissions

section
variable {db : Db} {context : AuthorizationContext} {required : PermissionKey}

theorem LacksPermission.actorGuard (h : LacksPermission db context required) :
    ∃ e, actorGuard db context required = .error e := by
  cases hg : PgRbac.actorGuard db context required with
  | error e => exact ⟨e, rfl⟩
  | ok actor =>
    unfold PgRbac.actorGuard at hg
    simp only [bind_ok, require_ok, pure_ok] at hg
    obtain ⟨-, -, actor', hactor, -, hp, -⟩ := hg
    exact absurd hp (h actor' hactor)

theorem lockActorAndTargetUser_of_actorGuard {e : Failure}
    (h : actorGuard db context required = .error e) (target : Uuid) (additional : List Uuid) :
    lockActorAndTargetUser db context target required additional = .error e := by
  have huser : db.lockUsers [context.principal.userId, target] context.principal.userId =
      db.liveUser? context.principal.userId := by
    unfold Db.lockUsers
    rw [if_pos List.mem_cons_self]
  unfold actorGuard at h
  unfold lockActorAndTargetUser
  simp only [huser]
  simp only [bind_error, require_error, require_ok, pure_error, and_false, exists_false,
    or_false] at h ⊢
  rcases h with h | ⟨row, hrow, h | ⟨actor, hactor, h⟩⟩
  · exact Or.inl h
  · exact Or.inr ⟨row, hrow, Or.inl h⟩
  · exact Or.inr ⟨row, hrow, Or.inr ⟨actor, hactor, Or.inl h⟩⟩

theorem LacksPermission.resetTarget (h : LacksPermission db context .usersPasswordReset) :
    ∃ e, ∀ target, lockAuthorizedResetTarget db context target = .error e := by
  unfold lockAuthorizedResetTarget
  cases hactor : db.requireCurrentActor context.principal.userId context.principal.tokenVersion with
  | error e => exact ⟨e, fun target => rfl⟩
  | ok actor =>
    refine ⟨forbidden "missing_operation_permission", fun target => ?_⟩
    show (require _ _ >>= _) = _
    rw [require, if_neg (h actor hactor)]
    rfl

theorem RoleCommand.judge_of_actorGuard {command : RoleCommand} {e : Failure}
    (h : actorGuard db context command.required = .error e) (roleId : Uuid) :
    command.judge db context roleId = .error e := by
  refine judge_error.mpr (Or.inl ?_)
  unfold RoleCommand.lock
  rw [lockSharedRoleChange_eq, h]
  rfl

theorem UserCommand.outcome_of_lacks {lib : PasswordLibrary} {s : Postgres}
    (h : LacksPermission s.db context required) :
    ∃ e, ∀ command : UserCommand, command.required = required → ∀ target now,
      command.outcome lib context target now s = .error e := by
  by_cases hreset : required = .usersPasswordReset
  · subst hreset
    obtain ⟨e, he⟩ := h.resetTarget
    refine ⟨e, ?_⟩
    intro command hc target now
    cases command with
    | updateUserStatus a => cases hc
    | revokeUserSessions => cases hc
    | changeUserRoles ids o hne => cases o <;> cases hc
    | resetUserPassword salt password mode =>
      show (PgRbac.resetUserPassword lib salt context target password mode now s).1.map _ = _
      unfold PgRbac.resetUserPassword transact
      dsimp only
      rw [he target]
      rfl
  · obtain ⟨e, he⟩ := h.actorGuard
    refine ⟨e, ?_⟩
    intro command hc target now
    subst hc
    have hlock := lockActorAndTargetUser_of_actorGuard he target
    have hrun : ∀ {α : Type} {action : String} {tu tr : Option Uuid}
        {operation : Db → Except Failure (MutationOutcome α × Db)},
        operation s.db = .error e →
          (runAudited context action tu tr operation s).1.map (fun _ => ()) = .error e := by
      intro α action tu tr operation ho
      rw [show s = ⟨s.db, s.audit⟩ from rfl, runAudited_of_error ho]
      rfl
    cases command with
    | updateUserStatus a =>
      exact hrun ((bind_error _ _ _).mpr (Or.inl (hlock [])))
    | revokeUserSessions =>
      exact hrun ((bind_error _ _ _).mpr (Or.inl (hlock [])))
    | changeUserRoles ids o hne =>
      show (PgRbac.changeUserRoles context target ids o now s).1.map _ = _
      unfold PgRbac.changeUserRoles
      rw [if_neg hne]
      exact hrun ((bind_error _ _ _).mpr (Or.inl (hlock _)))
    | resetUserPassword salt password mode => exact absurd rfl hreset

/-- **a refused command gives no version away**: a command on a role that the policy does not
authorise ends with one error, one denial row and no change, whatever version it expects and
whatever version is stored, and a command without its permission ends with one error whatever role
or user it names -/
theorem version_confined (lib : PasswordLibrary) (s : Postgres) (context : AuthorizationContext) :
    (∀ (command : RoleCommand) (roleId : Uuid), ¬ command.Authorised s.db context roleId →
      ∃ e rows, ∀ expectedVersion now db', SameButVersion roleId s.db db' →
        command.run context roleId expectedVersion now ⟨db', s.audit⟩ =
          (.error e, ⟨db', s.audit ++ rows⟩)) ∧
    ∀ permission, LacksPermission s.db context permission →
      (∀ command : RoleCommand, command.required = permission →
        ∃ e, ∀ roleId expectedVersion now,
          (command.run context roleId expectedVersion now s).1 = .error e) ∧
      ∃ e, ∀ command : UserCommand, command.required = permission → ∀ target now,
        command.outcome lib context target now s = .error e := by
  constructor
  · intro command roleId hnot
    obtain ⟨e, he⟩ := not_authorised hnot
    refine ⟨command.refusal e, command.denial context roleId e, ?_⟩
    intro expectedVersion now db' hsame
    exact run_of_judge (hsame.judge_error he) s.audit expectedVersion now
  · intro permission hlack
    refine ⟨?_, UserCommand.outcome_of_lacks hlack⟩
    intro command hc
    subst hc
    obtain ⟨e, he⟩ := hlack.actorGuard
    refine ⟨command.refusal e, ?_⟩
    intro roleId expectedVersion now
    rw [show s = ⟨s.db, s.audit⟩ from rfl,
      run_of_judge (RoleCommand.judge_of_actorGuard he roleId) s.audit expectedVersion now]

end

/-! ## a refused role -/

/-- the disabled role above the administrator, one version later -/
def reversioned : Db :=
  match shadowed.db.roles.modify? auditorId Role.bumpVersion with
  | .ok roles => { shadowed.db with roles := roles }
  | .error _ => shadowed.db

example : (reversioned.roles.get? auditorId).map Role.version = some 2 := by decide +kernel

theorem sameButVersion_reversioned : SameButVersion auditorId shadowed.db reversioned := by
  unfold reversioned
  cases hroles : shadowed.db.roles.modify? auditorId Role.bumpVersion with
  | error e => exact SameButVersion.refl auditorId shadowed.db
  | ok roles => exact SameButVersion.bumped hroles

theorem version_confined_shadowed :
    (∃ e rows, ∀ expectedVersion,
      (RoleCommand.setRoleActive true).run (bearer bob 0) auditorId expectedVersion 9
        ⟨shadowed.db, shadowed.audit⟩ = (.error e, ⟨shadowed.db, shadowed.audit ++ rows⟩) ∧
      (RoleCommand.setRoleActive true).run (bearer bob 0) auditorId expectedVersion 9
        ⟨reversioned, shadowed.audit⟩ = (.error e, ⟨reversioned, shadowed.audit ++ rows⟩)) ∧
    (∃ e, ∀ roleId expectedVersion, (RoleCommand.softDeleteRole.run (bearer carol 0) roleId
      expectedVersion 9 shadowed).1 = .error e) ∧
    ∃ e, ∀ target, UserCommand.revokeUserSessions.outcome sampleLibrary (bearer carol 0) target 9
      shadowed = .error e := by
  have hnot : ¬ (RoleCommand.setRoleActive true).Authorised shadowed.db (bearer bob 0) auditorId := by
    have hlock : ((RoleCommand.setRoleActive true).lock shadowed.db (bearer bob 0) auditorId).isOk =
        false := by decide +kernel
    rintro ⟨locked, h, -⟩
    rw [h] at hlock
    cases hlock
  have hactor : ((shadowed.db.requireCurrentActor carol 0).toOption.any fun actor =>
      decide (PermissionKey.rolesDelete.value ∉ actor.permissions ∧
        PermissionKey.usersSessionsRevoke.value ∉ actor.permissions)) = true := by decide +kernel
  obtain ⟨actor, hread, hlacking⟩ := (Option.any_eq_true _ _).mp hactor
  have hboth := of_decide_eq_true hlacking
  have hlacks {permission : PermissionKey} (h : permission.value ∉ actor.permissions) :
      LacksPermission shadowed.db (bearer carol 0) permission := by
    intro actor' hactor'
    have hread' : (shadowed.db.requireCurrentActor carol 0).toOption = some actor' := by
      rw [show shadowed.db.requireCurrentActor carol 0 = .ok actor' from hactor']
      rfl
    cases hread.symm.trans hread'
    exact h
  obtain ⟨hrole, -⟩ := version_confined sampleLibrary shadowed (bearer bob 0)
  obtain ⟨e, rows, hrefused⟩ := hrole (.setRoleActive true) auditorId hnot
  refine ⟨⟨e, rows, fun expectedVersion => ?_⟩, ?_⟩
  · exact ⟨hrefused expectedVersion 9 _ (SameButVersion.refl auditorId shadowed.db),
      hrefused expectedVersion 9 _ sameButVersion_reversioned⟩
  obtain ⟨-, hpermission⟩ := version_confined sampleLibrary shadowed (bearer carol 0)
  constructor
  · obtain ⟨e, he⟩ := (hpermission _ (hlacks hboth.1)).1 .softDeleteRole rfl
    exact ⟨e, fun roleId expectedVersion => he roleId expectedVersion 9⟩
  · obtain ⟨e, he⟩ := (hpermission _ (hlacks hboth.2)).2
    exact ⟨e, fun target => he .revokeUserSessions rfl target 9⟩

end PgRbac
