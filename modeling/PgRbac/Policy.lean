import PgRbac.Domain

/-!
# The authorization policy

The decisions of `app/core/security/policy.py`, each a chain of denials with its reason code, and
for each of them what `allowed` says: the whole list of its conditions.
-/

set_option linter.unusedVariables false

namespace PgRbac

structure PolicyDecision where
  allowed : Bool
  reasonCode : String
  deriving DecidableEq, Repr

def allow : PolicyDecision := ⟨true, "allowed"⟩

def deny (reasonCode : String) : PolicyDecision := ⟨false, reasonCode⟩

@[simp] theorem allow_allowed : allow.allowed = true := rfl
@[simp] theorem deny_allowed (c : String) : (deny c).allowed = false := rfl
@[simp] theorem deny_reasonCode (c : String) : (deny c).reasonCode = c := rfl

inductive RoleOperation where
  | bind | unbind
  deriving DecidableEq, Repr

inductive RoleAdministrationOperation where
  | update | enable | disable | delete
  deriving DecidableEq, Repr

/-- `permissions <= superAdminPermissionKeys and permissions <= actor.permissions` -/
def withinActorAuthority (actor : AuthoritySnapshot) (permissions : Finset String) : Prop :=
  permissions ⊆ superAdminPermissionKeys ∧ permissions ⊆ actor.permissions

instance (actor : AuthoritySnapshot) (permissions : Finset String) :
    Decidable (withinActorAuthority actor permissions) :=
  inferInstanceAs (Decidable (_ ∧ _))

def targetIsWithinActorAuthority (actor target : AuthoritySnapshot) : Prop :=
  withinActorAuthority actor target.permissions

instance (actor target : AuthoritySnapshot) : Decidable (targetIsWithinActorAuthority actor target) :=
  inferInstanceAs (Decidable (withinActorAuthority _ _))

def roleIsWithinActorAuthority (actor : AuthoritySnapshot) (role : RoleGrant) : Prop :=
  withinActorAuthority actor role.permissions

instance (actor : AuthoritySnapshot) (role : RoleGrant) :
    Decidable (roleIsWithinActorAuthority actor role) :=
  inferInstanceAs (Decidable (withinActorAuthority _ _))

/-- the denial of an actor that lacks the operation or is inactive -/
def basicActorCheck (actor : AuthoritySnapshot) (required : PermissionKey) :
    Option PolicyDecision :=
  if required.value ∉ actor.permissions then some (deny "missing_operation_permission")
  else if ¬ actor.userIsActive then some (deny "actor_inactive")
  else none

def isAdministrativeUserVisible (actor target : AuthoritySnapshot) : Bool :=
  if actor.isSuperAdmin then true
  else decide (actor.userId ≠ target.userId) && !target.isProtected &&
    decide (target.managementTier < actor.managementTier)

def isAdministrativeRoleVisible (actor : AuthoritySnapshot) (role : RoleGrant) : Bool :=
  if actor.isSuperAdmin then true
  else !role.isProtected && !role.isSuperAdmin &&
    decide (role.managementTier < actor.managementTier)

/-- the loop over the affected subjects: the first one that cannot be managed denies -/
def affectedSubjectsAreManageable (actor : AuthoritySnapshot) :
    List AuthoritySnapshot → PolicyDecision
  | [] => allow
  | subject :: affected =>
    if subject.isProtected ∨ actor.userId = subject.userId then
      deny "affected_subject_not_manageable"
    else if actor.managementTier ≤ subject.managementTier then
      deny "affected_subject_not_strictly_lower"
    else if ¬ targetIsWithinActorAuthority actor subject then
      deny "permission_ceiling_exceeded"
    else affectedSubjectsAreManageable actor affected

/-- the loop over the changed roles of a bind or unbind: the first denial, if any -/
def changedRolesDenial (operation : RoleOperation) (actor : AuthoritySnapshot) :
    List RoleGrant → Option PolicyDecision
  | [] => none
  | role :: roles =>
    if role.key = SystemRoleKey.superAdmin.value ∨ role.isProtected then
      some (deny "super_admin_assignment_offline_only")
    else if operation = .unbind ∧ role.key = SystemRoleKey.user.value then
      some (deny "default_user_role_required")
    else if role.key = SystemRoleKey.admin.value ∧ ¬ actor.isSuperAdmin then
      some (deny "super_admin_required")
    else if ¬ roleIsWithinActorAuthority actor role then
      some (deny "permission_ceiling_exceeded")
    else if actor.managementTier ≤ role.managementTier then
      some (deny "role_not_strictly_lower")
    else changedRolesDenial operation actor roles

def decideRoleChange (operation : RoleOperation) (actor targetBefore targetAfter : AuthoritySnapshot)
    (changedRoles : List RoleGrant) : PolicyDecision :=
  let required : PermissionKey := if operation = .bind then .rolesAssign else .rolesRevoke
  match basicActorCheck actor required with
  | some denial => denial
  | none =>
    if actor.userId = targetBefore.userId then deny "self_management_forbidden"
    else if operation = .bind ∧ ¬ targetBefore.userIsActive then deny "target_inactive"
    else if targetBefore.isProtected then deny "protected_subject"
    else
      match changedRolesDenial operation actor changedRoles with
      | some denial => denial
      | none =>
        if actor.managementTier ≤ targetBefore.managementTier then deny "target_not_strictly_lower"
        else if actor.managementTier ≤ targetAfter.managementTier then
          deny "target_not_strictly_lower"
        else if ¬ targetIsWithinActorAuthority actor targetBefore then
          deny "permission_ceiling_exceeded"
        else if ¬ targetIsWithinActorAuthority actor targetAfter then
          deny "permission_ceiling_exceeded"
        else allow

def decideRoleCreate (actor : AuthoritySnapshot) (managementTier : Nat) : PolicyDecision :=
  match basicActorCheck actor .rolesCreate with
  | some denial => denial
  | none =>
    if managementTier < 1 ∨ managementTier ≥ 1000 then deny "custom_role_tier_out_of_range"
    else if actor.managementTier ≤ managementTier then deny "role_not_strictly_lower"
    else allow

def RoleAdministrationOperation.required : RoleAdministrationOperation → PermissionKey
  | .update => .rolesUpdate
  | .enable => .rolesStatusUpdate
  | .disable => .rolesStatusUpdate
  | .delete => .rolesDelete

def decideRoleAdministration (operation : RoleAdministrationOperation) (actor : AuthoritySnapshot)
    (changedRole : RoleGrant) (actorHoldsRole : Bool) (affected : List AuthoritySnapshot) :
    PolicyDecision :=
  match basicActorCheck actor operation.required with
  | some denial => denial
  | none =>
    if changedRole.isSystem then deny "system_role_immutable"
    else if actorHoldsRole then deny "indirect_self_change_forbidden"
    else if actor.managementTier ≤ changedRole.managementTier then deny "role_not_strictly_lower"
    else if ¬ roleIsWithinActorAuthority actor changedRole then deny "permission_ceiling_exceeded"
    else affectedSubjectsAreManageable actor affected

def RoleOperation.permissionsRequired : RoleOperation → PermissionKey
  | .bind => .rolesPermissionsBind
  | .unbind => .rolesPermissionsUnbind

def decideRolePermissionsChange (operation : RoleOperation) (actor : AuthoritySnapshot)
    (changedRoleBefore : RoleGrant) (permissionKeysAfter : Finset String) (actorHoldsRole : Bool)
    (affectedAfter : List AuthoritySnapshot) : PolicyDecision :=
  match basicActorCheck actor operation.permissionsRequired with
  | some denial => denial
  | none =>
    if changedRoleBefore.isSystem then deny "system_role_immutable"
    else if actorHoldsRole then deny "indirect_self_change_forbidden"
    else if actor.managementTier ≤ changedRoleBefore.managementTier then
      deny "role_not_strictly_lower"
    else if ¬ roleIsWithinActorAuthority actor changedRoleBefore then
      deny "permission_ceiling_exceeded"
    else if ¬ permissionKeysAfter ⊆ superAdminPermissionKeys then
      deny "permission_outside_control_plane"
    else if PermissionKey.registrationConfigure.value ∈ permissionKeysAfter then
      deny "system_only_permission"
    else if ¬ permissionKeysAfter ⊆ actor.permissions then deny "permission_ceiling_exceeded"
    else affectedSubjectsAreManageable actor affectedAfter

def decideUserAdministration (actor targetBefore : AuthoritySnapshot)
    (requiredPermission : PermissionKey) : PolicyDecision :=
  match basicActorCheck actor requiredPermission with
  | some denial => denial
  | none =>
    if actor.userId = targetBefore.userId then deny "self_management_forbidden"
    else if targetBefore.isProtected then deny "protected_subject"
    else if actor.managementTier ≤ targetBefore.managementTier then deny "target_not_strictly_lower"
    else if ¬ targetIsWithinActorAuthority actor targetBefore then
      deny "permission_ceiling_exceeded"
    else allow

def decideUserStatusChange (actor targetBefore : AuthoritySnapshot) : PolicyDecision :=
  decideUserAdministration actor targetBefore .usersStatusUpdate

def decideUserPasswordReset (actor targetBefore : AuthoritySnapshot) : PolicyDecision :=
  decideUserAdministration actor targetBefore .usersPasswordReset

def decideUserSessionsRevoke (actor targetBefore : AuthoritySnapshot) : PolicyDecision :=
  decideUserAdministration actor targetBefore .usersSessionsRevoke

/-! ## what `allowed` says -/

/-- a subject the actor strictly dominates: another, unprotected user of a lower tier, all of
whose permissions the actor has -/
structure Dominated (actor subject : AuthoritySnapshot) : Prop where
  other : actor.userId ≠ subject.userId
  unprotected : subject.isProtected = false
  lower : subject.managementTier < actor.managementTier
  within : subject.permissions ⊆ actor.permissions

theorem basicActorCheck_none {actor : AuthoritySnapshot} {required : PermissionKey} :
    basicActorCheck actor required = none ↔
      required.value ∈ actor.permissions ∧ actor.userIsActive = true := by
  unfold basicActorCheck
  by_cases h : required.value ∈ actor.permissions <;> by_cases h' : actor.userIsActive <;>
    simp [h, h']

theorem basicActorCheck_some {actor : AuthoritySnapshot} {required : PermissionKey}
    {d : PolicyDecision} (h : basicActorCheck actor required = some d) : d.allowed = false := by
  unfold basicActorCheck at h
  split at h
  · cases h; rfl
  · split at h
    · cases h; rfl
    · cases h

theorem affected_allowed {actor : AuthoritySnapshot} {affected : List AuthoritySnapshot}
    (h : (affectedSubjectsAreManageable actor affected).allowed = true) :
    ∀ subject ∈ affected, Dominated actor subject := by
  induction affected with
  | nil => simp
  | cons x xs ih =>
    unfold affectedSubjectsAreManageable at h
    split at h
    · cases h
    · rename_i h1
      split at h
      · cases h
      · rename_i h2
        split at h
        · cases h
        · rename_i h3
          obtain ⟨hp, hu⟩ := not_or.mp h1
          intro subject hs
          rcases List.mem_cons.mp hs with rfl | hs
          · exact ⟨hu, by simpa using hp, not_le.mp h2, (not_not.mp h3).2⟩
          · exact ih h subject hs

theorem changedRolesDenial_none {operation : RoleOperation} {actor : AuthoritySnapshot}
    {roles : List RoleGrant} (h : changedRolesDenial operation actor roles = none) :
    ∀ role ∈ roles, role.key ≠ SystemRoleKey.superAdmin.value ∧ role.isProtected = false ∧
      (operation = .unbind → role.key ≠ SystemRoleKey.user.value) ∧
      role.permissions ⊆ actor.permissions ∧ role.managementTier < actor.managementTier := by
  induction roles with
  | nil => simp
  | cons x xs ih =>
    unfold changedRolesDenial at h
    split at h
    · cases h
    · rename_i h1
      split at h
      · cases h
      · rename_i h2
        split at h
        · cases h
        · split at h
          · cases h
          · rename_i h4
            split at h
            · cases h
            · rename_i h5
              obtain ⟨hk, hp⟩ := not_or.mp h1
              intro role hr
              rcases List.mem_cons.mp hr with rfl | hr
              · exact ⟨hk, by simpa using hp, fun ho hu => h2 ⟨ho, hu⟩, (not_not.mp h4).2,
                  not_le.mp h5⟩
              · exact ih h role hr

theorem changedRolesDenial_some {operation : RoleOperation} {actor : AuthoritySnapshot}
    {roles : List RoleGrant} {d : PolicyDecision}
    (h : changedRolesDenial operation actor roles = some d) : d.allowed = false := by
  induction roles with
  | nil => cases h
  | cons x xs ih =>
    unfold changedRolesDenial at h
    repeat (split at h; · cases h; rfl)
    exact ih h

theorem decideUserAdministration_allowed {actor target : AuthoritySnapshot}
    {required : PermissionKey}
    (h : (decideUserAdministration actor target required).allowed = true) :
    required.value ∈ actor.permissions ∧ actor.userIsActive = true ∧ Dominated actor target := by
  unfold decideUserAdministration at h
  cases hb : basicActorCheck actor required with
  | some d =>
    rw [hb] at h
    rw [basicActorCheck_some hb] at h
    cases h
  | none =>
    rw [hb] at h
    obtain ⟨hr, ha⟩ := basicActorCheck_none.mp hb
    refine ⟨hr, ha, ?_⟩
    simp only at h
    split at h
    · cases h
    · rename_i h1
      split at h
      · cases h
      · rename_i h2
        split at h
        · cases h
        · rename_i h3
          split at h
          · cases h
          · rename_i h4
            exact ⟨h1, by simpa using h2, not_le.mp h3, (not_not.mp h4).2⟩

theorem decideRoleChange_allowed {operation : RoleOperation}
    {actor before after : AuthoritySnapshot} {roles : List RoleGrant}
    (h : (decideRoleChange operation actor before after roles).allowed = true) :
    Dominated actor before ∧ changedRolesDenial operation actor roles = none := by
  unfold decideRoleChange at h
  simp only at h
  split at h
  · rename_i d hb
    rw [basicActorCheck_some hb] at h
    cases h
  · split at h
    · cases h
    · rename_i h1
      split at h
      · cases h
      · split at h
        · cases h
        · rename_i h3
          split at h
          · rename_i d hd
            rw [changedRolesDenial_some hd] at h
            cases h
          · rename_i hd
            split at h
            · cases h
            · rename_i h4
              split at h
              · cases h
              · split at h
                · cases h
                · rename_i h6
                  exact ⟨⟨h1, by simpa using h3, not_le.mp h4, (not_not.mp h6).2⟩, hd⟩

theorem decideRoleCreate_allowed {actor : AuthoritySnapshot} {tier : Nat}
    (h : (decideRoleCreate actor tier).allowed = true) :
    1 ≤ tier ∧ tier < 1000 ∧ tier < actor.managementTier := by
  unfold decideRoleCreate at h
  split at h
  · rename_i d hb
    rw [basicActorCheck_some hb] at h
    cases h
  · split at h
    · cases h
    · rename_i h1
      split at h
      · cases h
      · rename_i h2
        omega

theorem decideRoleAdministration_allowed {operation : RoleAdministrationOperation}
    {actor : AuthoritySnapshot} {role : RoleGrant} {holds : Bool}
    {affected : List AuthoritySnapshot}
    (h : (decideRoleAdministration operation actor role holds affected).allowed = true) :
    role.isSystem = false ∧ holds = false ∧ role.managementTier < actor.managementTier ∧
      role.permissions ⊆ actor.permissions ∧ ∀ subject ∈ affected, Dominated actor subject := by
  unfold decideRoleAdministration at h
  split at h
  · rename_i d hb
    rw [basicActorCheck_some hb] at h
    cases h
  · split at h
    · cases h
    · rename_i h1
      split at h
      · cases h
      · rename_i h2
        split at h
        · cases h
        · rename_i h3
          split at h
          · cases h
          · rename_i h4
            exact ⟨by simpa using h1, by simpa using h2, not_le.mp h3, (not_not.mp h4).2,
              affected_allowed h⟩

theorem decideRolePermissionsChange_allowed {operation : RoleOperation} {actor : AuthoritySnapshot}
    {role : RoleGrant} {keys : Finset String} {holds : Bool} {affected : List AuthoritySnapshot}
    (h : (decideRolePermissionsChange operation actor role keys holds affected).allowed = true) :
    role.isSystem = false ∧ holds = false ∧ role.managementTier < actor.managementTier ∧
      role.permissions ⊆ actor.permissions ∧ keys ⊆ superAdminPermissionKeys ∧
      PermissionKey.registrationConfigure.value ∉ keys ∧ keys ⊆ actor.permissions ∧
      ∀ subject ∈ affected, Dominated actor subject := by
  unfold decideRolePermissionsChange at h
  split at h
  · rename_i d hb
    rw [basicActorCheck_some hb] at h
    cases h
  · split at h
    · cases h
    · rename_i h1
      split at h
      · cases h
      · rename_i h2
        split at h
        · cases h
        · rename_i h3
          split at h
          · cases h
          · rename_i h4
            split at h
            · cases h
            · rename_i h5
              split at h
              · cases h
              · rename_i h6
                split at h
                · cases h
                · rename_i h7
                  exact ⟨by simpa using h1, by simpa using h2, not_le.mp h3, (not_not.mp h4).2,
                    not_not.mp h5, h6, not_not.mp h7, affected_allowed h⟩

end PgRbac
