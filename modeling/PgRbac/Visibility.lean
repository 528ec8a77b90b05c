import PgRbac.Dominance

/-!
# Not found means not visible

Whether a target is visible to an administrator is decided in three places: by the SQL predicate on
active roles, by the predicate of the policy on an effective snapshot, and by the password service
on a complete one.  The first two agree; the third also hides a target for its disabled roles.

* `visibleUser_eq`                 the SQL predicate is the policy's on the effective snapshot;
* `visible_complete_iff`           what the complete snapshot hides in addition;
* `lockActorAndTargetUser_eq`, `lockAuthorizedResetTarget_eq`    the two guards, as one case split;
* `UserCommand`, `NotFoundMeansHidden`     the user commands and what their answers should tell;
* `notFoundMeansHidden_iff`        when they do.
-/

set_option linter.unusedVariables false

namespace PgRbac

open Fallible Store Trace

variable {db : Db} {actor : AuthoritySnapshot}

/-! ## the predicates -/

/-- what a subject with these roles has to satisfy to be seen by an ordinary administrator -/
structure Lower (actor : AuthoritySnapshot) (u : User) (roles : List Role) : Prop where
  other : u.id ≠ actor.userId
  unprotected : u.isProtected = false
  positive : 0 < actor.managementTier
  roles : ∀ r ∈ roles, r.isProtected = false ∧ r.managementTier < actor.managementTier

theorem lower_iff (db : Db) {u : User} {roles : List Role} :
    Lower actor u roles ↔ u.id ≠ actor.userId ∧ u.isProtected = false ∧
      (roles.map db.roleGrant).any RoleGrant.isProtected = false ∧
      maxTier (roles.map db.roleGrant) < actor.managementTier := by
  constructor
  · intro ⟨h1, h2, h3, h4⟩
    refine ⟨h1, h2, ?_, (maxTier_lt h3).mpr ?_⟩
    · rw [List.any_map, List.any_eq_false]
      intro r hr
      have hp : (db.roleGrant r).isProtected = false := (h4 r hr).1
      simp [hp]
    · intro g hg
      obtain ⟨r, hr, rfl⟩ := List.mem_map.mp hg
      exact (h4 r hr).2
  · intro ⟨h1, h2, h3, h4⟩
    have hpos : 0 < actor.managementTier := Nat.lt_of_le_of_lt (Nat.zero_le _) h4
    refine ⟨h1, h2, hpos, ?_⟩
    intro r hr
    rw [List.any_map, List.any_eq_false] at h3
    exact ⟨by simpa [Db.roleGrant] using h3 r hr,
      (maxTier_lt hpos).mp h4 _ (List.mem_map_of_mem hr)⟩

theorem isAdministrativeUserVisible_iff {u : User} {incl : Bool} :
    isAdministrativeUserVisible actor (db.authority incl u) = true ↔
      actor.isSuperAdmin = true ∨ Lower actor u (db.assignedRoles u.id incl) := by
  have hprot : (db.authority incl u).isProtected =
      (u.isProtected || ((db.assignedRoles u.id incl).map db.roleGrant).any RoleGrant.isProtected) := rfl
  have htier : (db.authority incl u).managementTier =
      maxTier ((db.assignedRoles u.id incl).map db.roleGrant) := rfl
  have hid : (db.authority incl u).userId = u.id := rfl
  unfold isAdministrativeUserVisible
  rw [lower_iff db, hprot, htier, hid]
  have hne : ¬ actor.userId = u.id ↔ ¬ u.id = actor.userId := ne_comm
  by_cases hs : actor.isSuperAdmin <;> simp [hs, and_assoc, hne]

theorem activeUserAuthority_tier (u : Uuid) :
    ((db.activeUserAuthority u).map Prod.fst).getD 0 =
      maxTier ((db.assignedRoles u false).map db.roleGrant) := by
  unfold Db.activeUserAuthority
  cases db.assignedRoles u false with
  | nil => rfl
  | cons r rs =>
    have hfold : ∀ (n : Nat) (l : List Role), l.foldr (fun r n => max r.managementTier n) n =
        max n (maxTier (l.map db.roleGrant)) := by
      intro n l
      induction l with
      | nil => simp [maxTier]
      | cons x xs ih =>
        show max x.managementTier (xs.foldr _ n) = max n (max x.managementTier (maxTier _))
        rw [ih]
        omega
    exact hfold r.managementTier rs

theorem activeUserAuthority_protected (u : Uuid) :
    ((db.activeUserAuthority u).map Prod.snd).getD false =
      ((db.assignedRoles u false).map db.roleGrant).any RoleGrant.isProtected := by
  unfold Db.activeUserAuthority
  cases db.assignedRoles u false with
  | nil => rfl
  | cons r rs =>
    rw [List.map_cons, List.any_cons, List.any_map]
    rfl

theorem actorIsSuperAdmin_eq {u : User} {incl : Bool} :
    actorIsSuperAdmin (db.authority incl u) = (db.authority incl u).isSuperAdmin := by
  have hflag : (db.authority incl u).isSuperAdmin =
      (db.roleGrantsForUser u.id incl).any RoleGrant.isSuperAdmin := rfl
  rw [Bool.eq_iff_iff, hflag]
  unfold actorIsSuperAdmin
  rw [List.any_eq_true, List.any_eq_true]
  constructor
  · intro ⟨g, hg, h⟩
    exact ⟨g, AuthoritySnapshot.mem_build_roles.mp hg, (Bool.and_eq_true_iff.mp h).2⟩
  · intro ⟨g, hg, h⟩
    obtain ⟨r, -, hr, -, rfl⟩ := Db.mem_roleGrantsForUser.mp hg
    have hkey : r.key = "super_admin" := by
      have hc := Db.checks_of_liveRole? hr
      have hsuper : r.isSuperAdmin = true := h
      unfold Role.checks at hc
      simp only [Bool.and_eq_true, Bool.or_eq_true, Bool.not_eq_true', hsuper, Bool.true_eq_false,
        false_or, beq_iff_eq] at hc
      exact hc.1.1.1.2.1.2
    refine ⟨_, AuthoritySnapshot.mem_build_roles.mpr hg, ?_⟩
    rw [Bool.and_eq_true]
    exact ⟨beq_iff_eq.mpr hkey, h⟩

/-- **the SQL predicate sees what the policy sees of the effective snapshot** -/
theorem visibleUser_eq {row u : User} {incl : Bool} :
    db.visibleUser (db.authority incl row) u =
      isAdministrativeUserVisible (db.authority incl row) (db.authority false u) := by
  rw [Bool.eq_iff_iff, isAdministrativeUserVisible_iff, lower_iff db]
  unfold Db.visibleUser
  rw [activeUserAuthority_tier, activeUserAuthority_protected, actorIsSuperAdmin_eq]
  simp [and_assoc]

/-- a disabled role that reaches the actor's tier -/
def Shadowed (db : Db) (actor : AuthoritySnapshot) (u : Uuid) : Prop :=
  ∃ role, db.userRoles.Linked u role.id ∧ db.liveRole? role.id = some role ∧
    role.isActive = false ∧ actor.managementTier ≤ role.managementTier

theorem active_of_protected {role : Role} (hc : role.checks = true) (hp : role.isProtected = true) :
    role.isActive = true := by
  unfold Role.checks at hc
  simp only [Bool.and_eq_true, Bool.or_eq_true, Bool.not_eq_true', hp, Bool.true_eq_false,
    false_or] at hc
  grind

/-- **what the complete snapshot hides in addition** -/
theorem visible_complete_iff {u : User} :
    isAdministrativeUserVisible actor (db.authority true u) = true ↔
      isAdministrativeUserVisible actor (db.authority false u) = true ∧
        (actor.isSuperAdmin = true ∨ ¬ Shadowed db actor u.id) := by
  rw [isAdministrativeUserVisible_iff, isAdministrativeUserVisible_iff]
  constructor
  · rintro (hs | ⟨h1, h2, h3, h4⟩)
    · exact ⟨Or.inl hs, Or.inl hs⟩
    · refine ⟨Or.inr ⟨h1, h2, h3, ?_⟩, Or.inr ?_⟩
      · intro r hr
        obtain ⟨hl, hlive, -⟩ := Db.mem_assignedRoles.mp hr
        exact h4 r (Db.mem_assignedRoles.mpr ⟨hl, hlive, Or.inl rfl⟩)
      · rintro ⟨r, hl, hlive, -, hle⟩
        have hlt := (h4 r (Db.mem_assignedRoles.mpr ⟨hl, hlive, Or.inl rfl⟩)).2
        omega
  · rintro ⟨(hs | ⟨h1, h2, h3, h4⟩), hshadow⟩
    · exact Or.inl hs
    · rcases hshadow with hs | hshadow
      · exact Or.inl hs
      refine Or.inr ⟨h1, h2, h3, ?_⟩
      intro r hr
      obtain ⟨hl, hlive, -⟩ := Db.mem_assignedRoles.mp hr
      by_cases ha : r.isActive = true
      · exact h4 r (Db.mem_assignedRoles.mpr ⟨hl, hlive, Or.inr ha⟩)
      · have hfalse : r.isActive = false := Bool.eq_false_iff.mpr ha
        constructor
        · by_contra hp
          exact ha (active_of_protected (Db.checks_of_liveRole? hlive) (by simpa using hp))
        · by_contra hle
          exact hshadow ⟨r, hl, hlive, hfalse, Nat.le_of_not_lt hle⟩

/-! ## the two guards -/

section
variable {context : AuthorizationContext} {row : User} {target : Uuid} {required : PermissionKey}

/-- the guard of the administration service hides exactly the invisible targets -/
theorem lockActorAndTargetUser_eq (hcur : CurrentActor db context row)
    (hperm : required.value ∈ (db.authority false row).permissions) (target : Uuid)
    (additional : List Uuid) :
    lockActorAndTargetUser db context target required additional =
      match db.loadVisibleUser (db.authority false row) target with
      | none => .error (notFound "target_user_not_found")
      | some u => .ok
          { actor := db.authority false row
            target := db.authority true u
            targetRow := u
            lockedRoles := db.lockRoles (db.userRoles.rights context.principal.userId ++
              db.userRoles.rights target ++ additional) } := by
  have hactor : db.requireCurrentActor context.principal.userId context.principal.tokenVersion =
      .ok (db.authority false row) :=
    Db.requireCurrentActor_ok.mpr ⟨row, hcur.live, hcur.active, hcur.token, rfl⟩
  have hrow : requireCurrentLockedActorRow
      (db.lockUsers [context.principal.userId, target] context.principal.userId) context = .ok row := by
    simp [Db.lockUsers, hcur.live, requireCurrentLockedActorRow, hcur.active, hcur.token]
  have htarget : db.lockUsers [context.principal.userId, target] target = db.liveUser? target := by
    simp [Db.lockUsers]
  unfold lockActorAndTargetUser
  simp only [hrow, hactor, htarget, Db.loadVisibleUser]
  cases hu : db.liveUser? target with
  | none => simp [require, hperm, orRaise, bind, Except.bind]
  | some u =>
    have hload : ∀ incl, db.loadAuthoritySnapshot target incl = .ok (db.authority incl u) :=
      fun incl => Db.loadAuthoritySnapshot_ok.mpr ⟨u, hu, rfl⟩
    by_cases hv : isAdministrativeUserVisible (db.authority false row) (db.authority false u) = true
    · simp [require, hperm, orRaise, bind, Except.bind, hload, hv, Option.filter, visibleUser_eq,
        pure, Except.pure]
    · simp [require, hperm, orRaise, bind, Except.bind, hload, hv, Option.filter, visibleUser_eq]

/-- the guard of the password service hides more: it judges the complete snapshot -/
theorem lockAuthorizedResetTarget_eq (hcur : CurrentActor db context row)
    (hperm : PermissionKey.usersPasswordReset.value ∈ (db.authority false row).permissions)
    (target : Uuid) :
    lockAuthorizedResetTarget db context target =
      match (db.liveUser? target).filter (fun u =>
        isAdministrativeUserVisible (db.authority false row) (db.authority true u)) with
      | none => .error (notFound "user_not_found")
      | some u =>
        let decision := decideUserPasswordReset (db.authority false row) (db.authority true u)
        if decision.allowed then .ok u else .error (forbidden decision.reasonCode) := by
  have hactor : db.requireCurrentActor context.principal.userId context.principal.tokenVersion =
      .ok (db.authority false row) :=
    Db.requireCurrentActor_ok.mpr ⟨row, hcur.live, hcur.active, hcur.token, rfl⟩
  have htarget : db.lockUsers [context.principal.userId, target] target = db.liveUser? target := by
    simp [Db.lockUsers]
  unfold lockAuthorizedResetTarget
  simp only [hactor, htarget]
  cases hu : db.liveUser? target with
  | none => simp [require, hperm, orRaise, bind, Except.bind]
  | some u =>
    have hload : db.loadAuthoritySnapshot target true = .ok (db.authority true u) :=
      Db.loadAuthoritySnapshot_ok.mpr ⟨u, hu, rfl⟩
    by_cases hv : isAdministrativeUserVisible (db.authority false row) (db.authority true u) = true
    · by_cases hd : (decideUserPasswordReset (db.authority false row)
          (db.authority true u)).allowed = true
      · simp [require, hperm, orRaise, bind, Except.bind, hload, hv, Option.filter, hd, pure,
          Except.pure]
      · simp [require, hperm, orRaise, bind, Except.bind, hload, hv, Option.filter, hd]
    · simp [require, hperm, orRaise, bind, Except.bind, hload, hv, Option.filter]

end

/-! ## the user commands -/

/-- a command on a user, as the request schema admits it: a change of roles names at least one -/
inductive UserCommand where
  | updateUserStatus (isActive : Bool)
  | revokeUserSessions
  | changeUserRoles (roleIds : List Uuid) (operation : RoleOperation) (nonempty : roleIds ≠ [])
  | resetUserPassword (salt : Nat) (newPassword : String) (resetMode : ResetMode)

namespace UserCommand

def required : UserCommand → PermissionKey
  | updateUserStatus _ => .usersStatusUpdate
  | revokeUserSessions => .usersSessionsRevoke
  | changeUserRoles _ operation _ => operation.assignmentPermission
  | resetUserPassword .. => .usersPasswordReset

/-- the answer of the command when its target is not found -/
def targetNotFound : UserCommand → Failure
  | resetUserPassword .. => notFound "user_not_found"
  | _ => notFound "target_user_not_found"

/-- how the command ends -/
def outcome (lib : PasswordLibrary) (context : AuthorizationContext) (target : Uuid) (now : Nat)
    (s : Postgres) : UserCommand → Except Failure Unit
  | updateUserStatus a => (PgRbac.updateUserStatus context target a s).1.map (fun _ => ())
  | revokeUserSessions => (PgRbac.revokeUserSessions context target s).1.map (fun _ => ())
  | changeUserRoles ids o _ =>
    (PgRbac.changeUserRoles context target ids o now s).1.map (fun _ => ())
  | resetUserPassword salt password mode =>
    (PgRbac.resetUserPassword lib salt context target password mode now s).1.map (fun _ => ())

/-- the roles of a request that are all found: live, visible to the actor, and enabled unless the
request takes them away or the target has them already -/
def Resolves (db : Db) (actor : AuthoritySnapshot) (target : Uuid) (ids : List Uuid)
    (operation : RoleOperation) (roles : List Role) : Prop :=
  List.Forall₂ (fun id role => db.liveRole? id = some role ∧
    (operation = .bind → db.userRoles.Linked target id ∨ role.isActive = true)) ids roles ∧
  ∀ role ∈ roles, isAdministrativeRoleVisible actor (db.roleGrant role) = true

/-- the policy denies the command on this target for this reason -/
def Denied (db : Db) (actor : AuthoritySnapshot) (u : User) (reason : String) : UserCommand → Prop
  | updateUserStatus _ => decideUserStatusChange actor (db.authority true u) = deny reason
  | revokeUserSessions => decideUserSessionsRevoke actor (db.authority true u) = deny reason
  | changeUserRoles ids o _ => ∃ roles, Resolves db actor u.id (sortIds ids.dedup) o roles ∧
      decideRoleChange o actor (db.authority true u)
        (o.targetAfter (db.authority true u) (db.loadRoleGrantsForRoles roles))
        (db.loadRoleGrantsForRoles roles) = deny reason
  | resetUserPassword .. => decideUserPasswordReset actor (db.authority true u) = deny reason

/-- the target is not shadowed, where the command judges its complete snapshot -/
def Unshadowed (db : Db) (actor : AuthoritySnapshot) (target : Uuid) : UserCommand → Prop
  | resetUserPassword .. => actor.isSuperAdmin = true ∨ db.loadVisibleUser actor target = none ∨
      ¬ Shadowed db actor target
  | _ => True

end UserCommand

/-- a command answers "not found" exactly for the targets that its actor cannot see, and "forbidden"
where the policy denies a target that it can see -/
structure NotFoundMeansHidden (lib : PasswordLibrary) (s : Postgres) (context : AuthorizationContext)
    (actor : AuthoritySnapshot) (target : Uuid) (now : Nat) (command : UserCommand) : Prop where
  hidden : command.outcome lib context target now s = .error command.targetNotFound ↔
    s.db.loadVisibleUser actor target = none
  denied : ∀ u reason, s.db.loadVisibleUser actor target = some u →
    command.Denied s.db actor u reason →
    command.outcome lib context target now s = .error (forbidden reason)

/-! ## failures of the database are not answers -/

/-- a failure that the application answers with an error code of its own -/
def Failure.IsNotFound (e : Failure) : Prop := ∃ reason, e = notFound reason

theorem orViolation_error {α : Type} {table : String} {x : Except Violation α} {e : Failure}
    (h : orViolation table x = .error e) : ¬ e.IsNotFound := by
  rintro ⟨reason, rfl⟩
  cases x with
  | ok a => cases h
  | error v => cases v <;> cases h

theorem updateUser_error {id : Uuid} {f : UserPatch} {e : Failure}
    (h : db.updateUser id f = .error e) : ¬ e.IsNotFound := by
  unfold Db.updateUser Db.updateUsers at h
  simp only [bind_error, pure_error, and_false, exists_false, or_false] at h
  exact orViolation_error h

theorem assertUserHasBaseRole_error {u : Uuid} {e : Failure}
    (h : db.assertUserHasBaseRole u = .error e) : ¬ e.IsNotFound := by
  rintro ⟨reason, rfl⟩
  unfold Db.assertUserHasBaseRole at h
  rw [require_error] at h
  cases h.2

theorem deferredOnUserRole_error {a : Uuid × Uuid} {e : Failure}
    (h : db.deferredOnUserRole a = .error e) : ¬ e.IsNotFound := by
  unfold Db.deferredOnUserRole at h
  simp only [bind_error] at h
  rcases h with h | ⟨-, -, h | ⟨-, -, h⟩⟩
  · rintro ⟨reason, rfl⟩
    unfold Db.assertUserRoleLimit at h
    rw [require_error] at h
    cases h.2
  · exact assertUserHasBaseRole_error h
  · rintro ⟨reason, rfl⟩
    unfold Db.enforceExactlyOneSuperAdmin at h
    split at h
    · cases h
    · rw [require_error] at h
      cases h.2

theorem commit_error {users : List Uuid} {assignments : List (Uuid × Uuid)} {e : Failure}
    (h : db.commit users assignments = .error e) : ¬ e.IsNotFound := by
  unfold Db.commit at h
  simp only [bind_error, pure_error, and_false, exists_false, or_false] at h
  rcases h with h | ⟨-, -, h⟩
  · obtain ⟨u, -, hu⟩ := checkAll_error _ _ _ h
    exact assertUserHasBaseRole_error hu
  · obtain ⟨a, -, ha⟩ := checkAll_error _ _ _ h
    exact deferredOnUserRole_error ha

theorem writeUserRoles_error {operation : RoleOperation} {target : Uuid} {ids : List Uuid} {now : Nat}
    {e : Failure} (h : writeUserRoles db operation target ids now = .error e) : ¬ e.IsNotFound := by
  rintro ⟨reason, rfl⟩
  cases operation with
  | unbind => cases h
  | bind =>
    unfold writeUserRoles Db.assignRoles at h
    simp only [bind_error, require_error, orRaise_error, pure_error, and_false, exists_false,
      or_false] at h
    rcases h with ⟨-, h⟩ | ⟨-, -, ⟨-, h⟩ | ⟨-, -, -, h⟩⟩ <;> cases h

theorem policyResponse_error {α : Type} {x : Except String α} {e : Failure}
    (h : orPolicyResponse x = .error e) : ¬ e.IsNotFound := by
  rintro ⟨reason, rfl⟩
  cases x with
  | ok a => cases h
  | error code =>
    have he : passwordPolicyResponse code = notFound reason := Except.error.inj h
    unfold passwordPolicyResponse at he
    split at he
    · cases he
    · split at he
      · cases he
      · cases he

theorem forbidden_not_notFound {reason : String} : ¬ (forbidden reason).IsNotFound := by
  rintro ⟨_, h⟩
  cases h

/-! ## how the bodies end once the target is locked -/

section
variable {context : AuthorizationContext} {target : Uuid} {locked : LockedTarget}

theorem updateUserStatusBody_locked (isActive : Bool)
    (h : lockActorAndTargetUser db context target .usersStatusUpdate [] = .ok locked) :
    (∀ reason, decideUserStatusChange locked.actor locked.target = deny reason →
      updateUserStatusBody context target isActive db = .error (forbidden reason)) ∧
      ∀ e, updateUserStatusBody context target isActive db = .error e → ¬ e.IsNotFound := by
  unfold updateUserStatusBody
  rw [h]
  constructor
  · intro reason hd
    simp [bind, Except.bind, hd, require]
  · intro e he
    simp only [bind_error, require_error] at he
    rcases he with he | ⟨_, hl, he⟩
    · cases he
    cases hl
    rcases he with ⟨-, rfl⟩ | ⟨-, -, he⟩
    · exact forbidden_not_notFound
    · split at he
      · cases he
      · simp only [bind_error, pure_error, and_false, exists_false, or_false] at he
        rcases he with he | ⟨_, -, he⟩
        · exact updateUser_error he
        · exact commit_error he

theorem revokeUserSessionsBody_locked
    (h : lockActorAndTargetUser db context target .usersSessionsRevoke [] = .ok locked) :
    (∀ reason, decideUserSessionsRevoke locked.actor locked.target = deny reason →
      revokeUserSessionsBody context target db = .error (forbidden reason)) ∧
      ∀ e, revokeUserSessionsBody context target db = .error e → ¬ e.IsNotFound := by
  unfold revokeUserSessionsBody
  rw [h]
  constructor
  · intro reason hd
    simp [bind, Except.bind, hd, require]
  · intro e he
    simp only [bind_error, require_error, pure_error, and_false, exists_false, or_false] at he
    rcases he with he | ⟨_, hl, he⟩
    · cases he
    cases hl
    rcases he with ⟨-, rfl⟩ | ⟨-, -, he⟩
    · exact forbidden_not_notFound
    · rcases he with he | ⟨_, -, he⟩
      · exact updateUser_error he
      · exact commit_error he

theorem collect_of_resolves {required : PermissionKey} {ids : List Uuid} {operation : RoleOperation}
    {roles : List Role} (h : lockActorAndTargetUser db context target required ids = .ok locked)
    (hr : UserCommand.Resolves db locked.actor target ids operation roles) :
    collect (requestedRole locked.lockedRoles operation
      (ids.filter (fun r => db.userRoles.Linked target r))) ids = .ok roles := by
  obtain ⟨row, -, -, -, -, hlocked⟩ := lockActorAndTargetUser_ok h
  apply collect_of_forall₂
  have hmem := (List.forall₂_and_left (p := (· ∈ ids)) ids roles).mpr ⟨fun _ h => h, hr.1⟩
  refine hmem.imp ?_
  rintro id role ⟨hm, hlive, hbind⟩
  have hrole : locked.lockedRoles id = some role := by
    rw [hlocked]
    unfold Db.lockRoles
    rw [if_pos (List.mem_append_right _ hm)]
    exact hlive
  unfold requestedRole
  rw [hrole]
  refine if_neg ?_
  rintro ⟨ho, hno, hdisabled⟩
  rcases hbind ho with hl | ha
  · exact hno (List.mem_filter.mpr ⟨hm, decide_eq_true hl⟩)
  · exact hdisabled ha

theorem requestedRole_error {lockedRoles : Uuid → Option Role} {operation : RoleOperation}
    {existingIds : List Uuid} {id : Uuid} {e : Failure}
    (h : requestedRole lockedRoles operation existingIds id = .error e) :
    e = notFound "role_not_found" := by
  unfold requestedRole at h
  split at h
  · exact (Except.error.inj h).symm
  · split at h
    · exact (Except.error.inj h).symm
    · cases h

theorem changeUserRolesBody_locked {ids : List Uuid} {operation : RoleOperation} (now : Nat)
    (h : lockActorAndTargetUser db context target operation.assignmentPermission ids = .ok locked) :
    (∀ roles reason, UserCommand.Resolves db locked.actor target ids operation roles →
      decideRoleChange operation locked.actor locked.target
        (operation.targetAfter locked.target (db.loadRoleGrantsForRoles roles))
        (db.loadRoleGrantsForRoles roles) = deny reason →
      changeUserRolesBody context target ids operation now db = .error (forbidden reason)) ∧
      ∀ e, changeUserRolesBody context target ids operation now db = .error e →
        e ≠ notFound "target_user_not_found" := by
  unfold changeUserRolesBody
  rw [h]
  constructor
  · intro roles reason hr hd
    have hvisible : (db.loadRoleGrantsForRoles roles).all
        (isAdministrativeRoleVisible locked.actor) = true := by
      unfold Db.loadRoleGrantsForRoles
      rw [List.all_map, List.all_eq_true]
      exact hr.2
    simp [bind, Except.bind, collect_of_resolves h hr, hd, require, hvisible]
  · intro e he
    have hof : ∀ {e : Failure}, ¬ e.IsNotFound → e ≠ notFound "target_user_not_found" :=
      fun hn he => hn ⟨_, he⟩
    simp only [bind_error, require_error] at he
    rcases he with he | ⟨_, hl, he⟩
    · cases he
    cases hl
    rcases he with he | ⟨roles, -, he⟩
    · obtain ⟨id, -, hid⟩ := collect_error _ _ _ he
      rw [requestedRole_error hid]
      simp [notFound]
    rcases he with ⟨-, rfl⟩ | ⟨-, -, he⟩
    · simp [notFound]
    rcases he with ⟨-, rfl⟩ | ⟨-, -, he⟩
    · exact hof forbidden_not_notFound
    rcases he with ⟨-, rfl⟩ | ⟨-, -, he⟩
    · simp [notFound, conflict]
    split at he
    · cases he
    · simp only [bind_error, pure_error, and_false, exists_false, or_false] at he
      rcases he with he | ⟨_, -, he | ⟨_, -, he⟩⟩
      · exact hof (writeUserRoles_error he)
      · exact hof (updateUser_error he)
      · exact hof (commit_error he)

end

/-! ## how the commands end -/

theorem map_unit_error {α : Type} {x : Except Failure α} {e : Failure} :
    x.map (fun _ => ()) = .error e ↔ x = .error e := by
  cases x <;> simp [Except.map]

theorem runAudited_outcome {α : Type} {context : AuthorizationContext} {action : String}
    {tu tr : Option Uuid} {operation : Db → Except Failure (MutationOutcome α × Db)} {s : Postgres}
    {e : Failure} : (runAudited context action tu tr operation s).1.map (fun _ => ()) = .error e ↔
      operation s.db = .error e := by
  rw [map_unit_error]
  unfold runAudited transact
  cases ho : operation s.db with
  | error e' => simp [ho, bind, Except.bind]
  | ok r => simp [ho, bind, Except.bind, pure, Except.pure]

section
variable {lib : PasswordLibrary} {s : Postgres} {context : AuthorizationContext} {row : User}
  {target : Uuid} {now : Nat}

theorem notFoundMeansHidden_of_body {command : UserCommand} (body : Except Failure Unit)
    (hout : ∀ e, command.outcome lib context target now s = .error e ↔ body = .error e)
    (hhidden : s.db.loadVisibleUser (s.db.authority false row) target = none →
      body = .error command.targetNotFound)
    (hvisible : ∀ u, s.db.loadVisibleUser (s.db.authority false row) target = some u →
      (∀ reason, command.Denied s.db (s.db.authority false row) u reason →
        body = .error (forbidden reason)) ∧ body ≠ .error command.targetNotFound) :
    NotFoundMeansHidden lib s context (s.db.authority false row) target now command where
  hidden := by
    rw [hout]
    refine ⟨?_, hhidden⟩
    intro hb
    cases hu : s.db.loadVisibleUser (s.db.authority false row) target with
    | none => rfl
    | some u => exact absurd hb (hvisible u hu).2
  denied u reason hu hd := (hout _).mpr ((hvisible u hu).1 reason hd)

theorem map_ne_of_locked {α : Type} {x : Except Failure α} {reason : String}
    (h : ∀ e, x = .error e → ¬ e.IsNotFound) :
    x.map (fun _ => ()) ≠ .error (notFound reason) :=
  fun he => h _ (map_unit_error.mp he) ⟨reason, rfl⟩

theorem id_of_loadVisibleUser {db : Db} {u : User} (h : db.loadVisibleUser actor target = some u) :
    u.id = target := Db.id_of_liveUser? (Option.filter_eq_some_iff.mp h).1

theorem notFoundMeansHidden_service {command : UserCommand} (hcur : CurrentActor s.db context row)
    (hperm : command.required.value ∈ (s.db.authority false row).permissions)
    (hservice : ∀ salt password mode, command ≠ .resetUserPassword salt password mode) :
    NotFoundMeansHidden lib s context (s.db.authority false row) target now command := by
  cases command with
  | resetUserPassword salt password mode => exact absurd rfl (hservice salt password mode)
  | updateUserStatus isActive =>
    have hlock := lockActorAndTargetUser_eq hcur hperm target []
    refine notFoundMeansHidden_of_body
      ((updateUserStatusBody context target isActive s.db).map (fun _ => ())) ?_ ?_ ?_
    · intro e
      rw [map_unit_error]
      exact runAudited_outcome
    · intro hv
      rw [hv] at hlock
      exact map_unit_error.mpr ((bind_error _ _ _).mpr (Or.inl hlock))
    · intro u hu
      rw [hu] at hlock
      obtain ⟨hdenied, herr⟩ := updateUserStatusBody_locked isActive hlock
      exact ⟨fun reason hd => map_unit_error.mpr (hdenied reason hd), map_ne_of_locked herr⟩
  | revokeUserSessions =>
    have hlock := lockActorAndTargetUser_eq hcur hperm target []
    refine notFoundMeansHidden_of_body
      ((revokeUserSessionsBody context target s.db).map (fun _ => ())) ?_ ?_ ?_
    · intro e
      rw [map_unit_error]
      exact runAudited_outcome
    · intro hv
      rw [hv] at hlock
      exact map_unit_error.mpr ((bind_error _ _ _).mpr (Or.inl hlock))
    · intro u hu
      rw [hu] at hlock
      obtain ⟨hdenied, herr⟩ := revokeUserSessionsBody_locked hlock
      exact ⟨fun reason hd => map_unit_error.mpr (hdenied reason hd), map_ne_of_locked herr⟩
  | changeUserRoles ids operation nonempty =>
    have hlock := lockActorAndTargetUser_eq hcur hperm target (sortIds ids.dedup)
    refine notFoundMeansHidden_of_body
      ((changeUserRolesBody context target (sortIds ids.dedup) operation now s.db).map
        (fun _ => ())) ?_ ?_ ?_
    · intro e
      rw [map_unit_error]
      show (PgRbac.changeUserRoles context target ids operation now s).1.map _ = _ ↔ _
      unfold PgRbac.changeUserRoles
      rw [if_neg nonempty]
      exact runAudited_outcome
    · intro hv
      rw [hv] at hlock
      exact map_unit_error.mpr ((bind_error _ _ _).mpr (Or.inl hlock))
    · intro u hu
      rw [hu] at hlock
      have hid := id_of_loadVisibleUser hu
      obtain ⟨hdenied, herr⟩ := changeUserRolesBody_locked now hlock
      constructor
      · intro reason hdeny
        obtain ⟨roles, hr, hd⟩ := hdeny
        rw [hid] at hr
        exact map_unit_error.mpr (hdenied roles reason hr hd)
      · exact fun he => herr _ (map_unit_error.mp he) rfl

theorem resetUserPassword_outcome (lib : PasswordLibrary) (s : Postgres)
    (context : AuthorizationContext) (target : Uuid) (now salt : Nat) (password : String)
    (mode : ResetMode) :
    (∀ e, lockAuthorizedResetTarget s.db context target = .error e →
      (PgRbac.resetUserPassword lib salt context target password mode now s).1 = .error e) ∧
      ∀ u, lockAuthorizedResetTarget s.db context target = .ok u →
        ∀ e, (PgRbac.resetUserPassword lib salt context target password mode now s).1 = .error e →
          ¬ e.IsNotFound := by
  unfold PgRbac.resetUserPassword
  cases hl : lockAuthorizedResetTarget s.db context target with
  | error e =>
    constructor
    · intro e' he
      cases he
      simp only [transact, hl, bind, Except.bind]
    · intro u h
      cases h
  | ok u =>
    refine ⟨fun e he => (by cases he), fun _ _ e he => ?_⟩
    have hfirst : ∀ denial, transact
        (fun db => do
          let u ← lockAuthorizedResetTarget db context target
          pure (u, db, [])) denial s = (.ok u, ⟨s.db, s.audit ++ []⟩) := by
      intro denial
      simp [transact, hl, bind, Except.bind, pure, Except.pure]
    simp only [hfirst] at he
    cases hh : hashNewPassword lib salt password [u.userName] with
    | error e' =>
      rw [hh] at he
      cases he
      unfold hashNewPassword at hh
      simp only [bind_error, pure_error, and_false, exists_false, or_false] at hh
      exact policyResponse_error hh
    | ok hash =>
      rw [hh] at he
      simp only at he
      cases hb : resetUserPasswordBody lib context target password hash mode now s.db with
      | ok r =>
        unfold transact at he
        simp only [hb] at he
        cases he
      | error e' =>
        unfold transact at he
        simp only [hb] at he
        cases he
        unfold resetUserPasswordBody at hb
        simp only [bind_error, pure_error, and_false, exists_false, or_false, hl] at hb
        rcases hb with hb | ⟨_, -, hb | ⟨-, -, hb | ⟨_, -, hb⟩⟩⟩
        · cases hb
        · exact policyResponse_error hb
        · exact updateUser_error hb
        · exact commit_error hb

/-- **a reset tells the truth exactly about targets that no disabled role shadows** -/
theorem notFoundMeansHidden_reset {salt : Nat} {password : String} {mode : ResetMode}
    (hcur : CurrentActor s.db context row)
    (hperm : PermissionKey.usersPasswordReset.value ∈ (s.db.authority false row).permissions) :
    NotFoundMeansHidden lib s context (s.db.authority false row) target now
        (.resetUserPassword salt password mode) ↔
      (UserCommand.resetUserPassword salt password mode).Unshadowed s.db (s.db.authority false row)
        target := by
  have hlock := lockAuthorizedResetTarget_eq hcur hperm target
  obtain ⟨hguard, hrest⟩ := resetUserPassword_outcome lib s context target now salt password mode
  have hout : ∀ e, (UserCommand.resetUserPassword salt password mode).outcome lib context target now
      s = .error e ↔
        (PgRbac.resetUserPassword lib salt context target password mode now s).1 = .error e :=
    fun e => map_unit_error
  cases hlive : s.db.liveUser? target with
  | none =>
    rw [hlive] at hlock
    have hhidden : s.db.loadVisibleUser (s.db.authority false row) target = none := by
      rw [Db.loadVisibleUser, hlive]
      rfl
    refine ⟨fun _ => Or.inr (Or.inl hhidden), fun _ => ⟨?_, ?_⟩⟩
    · exact ⟨fun _ => hhidden, fun _ => (hout _).mpr (hguard _ hlock)⟩
    · intro u reason hu
      rw [hhidden] at hu
      cases hu
  | some u =>
    have hid := Db.id_of_liveUser? hlive
    subst hid
    rw [hlive, Option.filter_some] at hlock
    have hvisible : s.db.loadVisibleUser (s.db.authority false row) u.id =
        if isAdministrativeUserVisible (s.db.authority false row) (s.db.authority false u) = true
          then some u else none := by
      rw [Db.loadVisibleUser, hlive, Option.filter_some, visibleUser_eq]
    -- the target is seen as it is; the guard judges it with its disabled roles
    by_cases hv : isAdministrativeUserVisible (s.db.authority false row) (s.db.authority false u) = true
    · rw [if_pos hv] at hvisible
      by_cases hc : isAdministrativeUserVisible (s.db.authority false row) (s.db.authority true u) = true
      · rw [if_pos hc] at hlock
        have hshadow := (visible_complete_iff.mp hc).2
        refine ⟨fun _ => hshadow.imp_right Or.inr, fun _ => ⟨?_, ?_⟩⟩
        · rw [hout, hvisible]
          refine ⟨fun he => ?_, fun he => by cases he⟩
          exfalso
          cases hl : lockAuthorizedResetTarget s.db context u.id with
          | ok x => exact hrest x hl _ he ⟨_, rfl⟩
          | error e =>
            rw [hguard e hl] at he
            cases he
            rw [hl] at hlock
            simp only at hlock
            split at hlock
            · cases hlock
            · cases hlock
        · intro x reason hx hd
          rw [hvisible] at hx
          cases hx
          have hd' : decideUserPasswordReset (s.db.authority false row) (s.db.authority true u) =
            deny reason := hd
          simp only [hd', deny_allowed, Bool.false_eq_true, if_false, deny_reasonCode] at hlock
          exact (hout _).mpr (hguard _ hlock)
      · rw [if_neg hc] at hlock
        constructor
        · intro h
          have hnone := h.hidden.mp ((hout _).mpr (hguard _ hlock))
          rw [hvisible] at hnone
          cases hnone
        · intro h
          refine absurd (visible_complete_iff.mpr ⟨hv, ?_⟩) hc
          rcases h with h | h | h
          · exact Or.inl h
          · rw [hvisible] at h
            cases h
          · exact Or.inr h
    · rw [if_neg hv] at hvisible
      have hc : ¬ isAdministrativeUserVisible (s.db.authority false row) (s.db.authority true u) = true :=
        fun h => hv (visible_complete_iff.mp h).1
      rw [if_neg hc] at hlock
      refine ⟨fun _ => Or.inr (Or.inl hvisible), fun _ => ⟨?_, ?_⟩⟩
      · exact ⟨fun _ => hvisible, fun _ => (hout _).mpr (hguard _ hlock)⟩
      · intro x reason hx
        rw [hvisible] at hx
        cases hx

/-- **the user commands answer truthfully exactly where no disabled role shadows the target of a
reset** -/
theorem notFoundMeansHidden_iff {command : UserCommand}
    (hactor : s.db.requireCurrentActor context.principal.userId context.principal.tokenVersion =
      .ok actor)
    (hperm : command.required.value ∈ actor.permissions) :
    NotFoundMeansHidden lib s context actor target now command ↔
      command.Unshadowed s.db actor target := by
  obtain ⟨row, hcur, rfl⟩ := requireCurrentActor_current hactor
  cases command with
  | resetUserPassword salt password mode => exact notFoundMeansHidden_reset hcur hperm
  | _ =>
    exact ⟨fun _ => trivial, fun _ => notFoundMeansHidden_service hcur hperm (by intros; simp)⟩

end

/-! ## a shadowed target -/

def auditorId : Uuid := 0x44444444444444448444444444444444

/-- a user whose only role above the base role is disabled, and outranks the administrators -/
def shadowing : Nat → Call :=
  script [signUp "alice" alice, .bootstrap alice, signUp "bob" bob,
    .changeUserRoles (bearer alice 0) bob [systemRoleId .admin] .bind, signUp "carol" carol,
    .createRole (bearer alice 0) auditorId ⟨"auditor", "Auditor", "Audits", 600⟩,
    .changeUserRoles (bearer alice 0) carol [auditorId] .bind,
    .setRoleActive (bearer alice 0) auditorId false 0]

def shadowed : Postgres := states sampleLibrary shadowing 8

/-- a reset of the user by an administrator -/
def resetShadowed : UserCommand := .resetUserPassword 0 "CorrectHorseBattery2" .temporary

/-- the reset hides a target that the administrator can see, and that the sibling commands answer
as forbidden -/
theorem reset_hides_visible : Reachable (system sampleLibrary) shadowed ∧
    ∃ actor, shadowed.db.requireCurrentActor bob 0 = .ok actor ∧
      PermissionKey.usersPasswordReset.value ∈ actor.permissions ∧
      (shadowed.db.loadVisibleUser actor carol).isSome ∧
      UserCommand.revokeUserSessions.outcome sampleLibrary (bearer bob 0) carol 8 shadowed =
        .error (forbidden "target_not_strictly_lower") ∧
      resetShadowed.outcome sampleLibrary (bearer bob 0) carol 8 shadowed =
        .error resetShadowed.targetNotFound ∧
      ¬ NotFoundMeansHidden sampleLibrary shadowed (bearer bob 0) actor carol 8 resetShadowed := by
  have heval : (match shadowed.db.requireCurrentActor bob 0 with
      | .ok actor => decide (PermissionKey.usersPasswordReset.value ∈ actor.permissions) &&
          (shadowed.db.loadVisibleUser actor carol).isSome
      | .error _ => false) = true := by decide +kernel
  have hsibling : UserCommand.revokeUserSessions.outcome sampleLibrary (bearer bob 0) carol 8
      shadowed = .error (forbidden "target_not_strictly_lower") := by decide +kernel
  have hreset : resetShadowed.outcome sampleLibrary (bearer bob 0) carol 8 shadowed =
      .error resetShadowed.targetNotFound := by decide +kernel
  refine ⟨(isRun_states sampleLibrary shadowing 8).reachable (Nat.le_refl 8), ?_⟩
  cases hactor : shadowed.db.requireCurrentActor bob 0 with
  | error e =>
    rw [hactor] at heval
    cases heval
  | ok actor =>
    rw [hactor] at heval
    obtain ⟨hperm, hvisible⟩ := Bool.and_eq_true_iff.mp heval
    refine ⟨actor, rfl, of_decide_eq_true hperm, hvisible, hsibling, hreset, ?_⟩
    intro h
    rw [h.hidden.mp hreset] at hvisible
    cases hvisible

/-- the same administrator and target, seen by the session revocation -/
theorem notFoundMeansHidden_shadowed : ∃ actor, shadowed.db.requireCurrentActor bob 0 = .ok actor ∧
    NotFoundMeansHidden sampleLibrary shadowed (bearer bob 0) actor carol 8 .revokeUserSessions := by
  have heval : (match shadowed.db.requireCurrentActor bob 0 with
      | .ok actor => decide (PermissionKey.usersSessionsRevoke.value ∈ actor.permissions)
      | .error _ => false) = true := by decide +kernel
  cases hactor : shadowed.db.requireCurrentActor bob 0 with
  | error e =>
    rw [hactor] at heval
    cases heval
  | ok actor =>
    rw [hactor] at heval
    have hcurrent : shadowed.db.requireCurrentActor (bearer bob 0).principal.userId
        (bearer bob 0).principal.tokenVersion = .ok actor := hactor
    have hperm : UserCommand.revokeUserSessions.required.value ∈ actor.permissions :=
      of_decide_eq_true heval
    have h : NotFoundMeansHidden sampleLibrary shadowed (bearer bob 0) actor carol 8
        .revokeUserSessions := (notFoundMeansHidden_iff hcurrent hperm).mpr trivial
    exact ⟨actor, rfl, h⟩

end PgRbac
