import Mathlib.Data.Finset.Union
import Mathlib.Data.Finset.Dedup
import Mathlib.Data.List.Sort

/-!
# The authority domain

Permission and system-role vocabulary, role grants, and the authority snapshot of one user
(`app/core/security/domain.py`).  A snapshot is built from a list of role grants: its permissions
are their union, its tier their maximum, its flags their disjunction.
-/

set_option linter.unusedVariables false

namespace PgRbac

/-- a `uuid.UUID`; `sorted(key=str)` is the numeric order of the 128 bits -/
abbrev Uuid := BitVec 128

instance : LawfulBEq Uuid := inferInstance

/-- `value.version == 4`: version nibble 4 and the RFC 4122 variant bits -/
def Uuid.isV4 (u : Uuid) : Bool :=
  (u.toNat >>> 76) % 16 == 4 && (u.toNat >>> 62) % 4 == 2

/-- the hexadecimal digits `i`, `i + 1`, … of the 32, most significant first -/
def Uuid.hexDigits (u : Uuid) (i count : Nat) : List Char :=
  (List.range' i count).map (fun k => Nat.digitChar ((u.toNat >>> (4 * (31 - k))) % 16))

/-- `str(uuid)` -/
def Uuid.text (u : Uuid) : String :=
  String.ofList (u.hexDigits 0 8 ++ '-' :: u.hexDigits 8 4 ++ '-' :: u.hexDigits 12 4 ++
    '-' :: u.hexDigits 16 4 ++ '-' :: u.hexDigits 20 12)

inductive PermissionKey where
  | permissionsRead | rolesRead | rolesCreate | rolesUpdate | rolesStatusUpdate | rolesDelete
  | rolesAssign | rolesRevoke | rolesPermissionsBind | rolesPermissionsUnbind | usersRead
  | usersCreate | usersStatusUpdate | usersPasswordReset | usersSessionsRevoke
  | registrationConfigure | projectsRead | projectsUpdate
  deriving DecidableEq, Repr

def PermissionKey.value : PermissionKey → String
  | .permissionsRead => "permissions:read"
  | .rolesRead => "roles:read"
  | .rolesCreate => "roles:create"
  | .rolesUpdate => "roles:update"
  | .rolesStatusUpdate => "roles:status:update"
  | .rolesDelete => "roles:delete"
  | .rolesAssign => "roles:assign"
  | .rolesRevoke => "roles:revoke"
  | .rolesPermissionsBind => "roles:permissions:bind"
  | .rolesPermissionsUnbind => "roles:permissions:unbind"
  | .usersRead => "users:read"
  | .usersCreate => "users:create"
  | .usersStatusUpdate => "users:status:update"
  | .usersPasswordReset => "users:password:reset"
  | .usersSessionsRevoke => "users:sessions:revoke"
  | .registrationConfigure => "registration:configure"
  | .projectsRead => "projects:read"
  | .projectsUpdate => "projects:update"

inductive SystemRoleKey where
  | superAdmin | admin | user
  deriving DecidableEq, Repr

def SystemRoleKey.value : SystemRoleKey → String
  | .superAdmin => "super_admin"
  | .admin => "admin"
  | .user => "user"

def superAdminPermissionKeys : Finset String :=
  [PermissionKey.permissionsRead, .rolesRead, .rolesCreate, .rolesUpdate, .rolesStatusUpdate,
    .rolesDelete, .rolesAssign, .rolesRevoke, .rolesPermissionsBind, .rolesPermissionsUnbind,
    .usersRead, .usersCreate, .usersStatusUpdate, .usersPasswordReset, .usersSessionsRevoke,
    .registrationConfigure, .projectsRead, .projectsUpdate].map PermissionKey.value |>.toFinset

def adminPermissionKeys : Finset String :=
  [PermissionKey.permissionsRead, .rolesRead, .rolesCreate, .rolesUpdate, .rolesStatusUpdate,
    .rolesAssign, .rolesRevoke, .rolesPermissionsBind, .rolesPermissionsUnbind, .usersRead,
    .usersCreate, .usersStatusUpdate, .usersPasswordReset, .usersSessionsRevoke, .projectsRead,
    .projectsUpdate].map PermissionKey.value |>.toFinset

def userPermissionKeys : Finset String := ∅

structure SystemRoleSpec where
  key : SystemRoleKey
  name : String
  description : String
  managementTier : Nat
  isProtected : Bool
  isSuperAdmin : Bool
  permissions : Finset String

def systemRoleSpecs : SystemRoleKey → SystemRoleSpec
  | .superAdmin =>
    { key := .superAdmin
      name := "Super administrator"
      description := "Sole protected administrator for the application"
      managementTier := 1000
      isProtected := true
      isSuperAdmin := true
      permissions := superAdminPermissionKeys }
  | .admin =>
    { key := .admin
      name := "Administrator"
      description := "Built-in administrator for strictly lower authority"
      managementTier := 500
      isProtected := false
      isSuperAdmin := false
      permissions := adminPermissionKeys }
  | .user =>
    { key := .user
      name := "User"
      description := "Mandatory lowest-authority role for every user"
      managementTier := 0
      isProtected := false
      isSuperAdmin := false
      permissions := userPermissionKeys }

def systemRoleKeys : List String :=
  [SystemRoleKey.superAdmin.value, SystemRoleKey.admin.value, SystemRoleKey.user.value]

def reservedRoleKeys : List String := systemRoleKeys

def maxRolesPerUser : Nat := 10

inductive AuditSource where
  | http | service | job | operator | migration
  deriving DecidableEq, Repr

structure Principal where
  userId : Uuid
  tokenVersion : Nat
  tokenId : Uuid
  issuedAt : Nat
  expiresAt : Nat
  deriving DecidableEq, Repr

structure RoleGrant where
  roleId : Uuid
  key : String
  managementTier : Nat
  permissions : Finset String
  isSystem : Bool
  isProtected : Bool
  isSuperAdmin : Bool
  deriving DecidableEq

/-! ## what a list of grants confers -/

def grantedPermissions (roles : List RoleGrant) : Finset String :=
  roles.foldr (fun r s => r.permissions ∪ s) ∅

/-- `max((role.management_tier for role in roles), default=0)` -/
def maxTier (roles : List RoleGrant) : Nat := roles.foldr (fun r n => max r.managementTier n) 0

@[simp] theorem mem_grantedPermissions {roles : List RoleGrant} {p : String} :
    p ∈ grantedPermissions roles ↔ ∃ r ∈ roles, p ∈ r.permissions := by
  induction roles with
  | nil => simp [grantedPermissions]
  | cons r roles ih =>
    show p ∈ r.permissions ∪ grantedPermissions roles ↔ _
    rw [Finset.mem_union, ih]
    simp

theorem grantedPermissions_subset {roles : List RoleGrant} {s : Finset String} :
    grantedPermissions roles ⊆ s ↔ ∀ r ∈ roles, r.permissions ⊆ s := by
  constructor
  · intro h r hr p hp
    exact h (mem_grantedPermissions.mpr ⟨r, hr, hp⟩)
  · intro h p hp
    obtain ⟨r, hr, hpr⟩ := mem_grantedPermissions.mp hp
    exact h r hr hpr

theorem maxTier_le {roles : List RoleGrant} {n : Nat} :
    maxTier roles ≤ n ↔ ∀ r ∈ roles, r.managementTier ≤ n := by
  induction roles with
  | nil => simp [maxTier]
  | cons r roles ih =>
    show max r.managementTier (maxTier roles) ≤ n ↔ _
    rw [max_le_iff, ih]
    simp

theorem maxTier_lt {roles : List RoleGrant} {n : Nat} (hn : 0 < n) :
    maxTier roles < n ↔ ∀ r ∈ roles, r.managementTier < n := by
  obtain ⟨m, rfl⟩ : ∃ m, n = m + 1 := ⟨n - 1, by omega⟩
  rw [Nat.lt_succ_iff, maxTier_le]
  simp only [Nat.lt_succ_iff]

theorem le_maxTier {roles : List RoleGrant} {r : RoleGrant} (h : r ∈ roles) :
    r.managementTier ≤ maxTier roles := maxTier_le.mp (Nat.le_refl _) r h

/-! ## snapshots -/

structure AuthoritySnapshot where
  userId : Uuid
  userIsActive : Bool
  userIsProtected : Bool
  tokenVersion : Nat
  roles : List RoleGrant
  permissions : Finset String
  managementTier : Nat
  isProtected : Bool
  isSuperAdmin : Bool
  authzVersion : Nat
  deriving DecidableEq

namespace AuthoritySnapshot

def build (userId : Uuid) (userIsActive userIsProtected : Bool) (tokenVersion authzVersion : Nat)
    (roles : List RoleGrant) : AuthoritySnapshot where
  userId := userId
  userIsActive := userIsActive
  userIsProtected := userIsProtected
  tokenVersion := tokenVersion
  roles := roles.insertionSort (fun r r' => r.roleId ≤ r'.roleId)
  permissions := grantedPermissions roles
  managementTier := maxTier roles
  isProtected := userIsProtected || roles.any RoleGrant.isProtected
  isSuperAdmin := roles.any RoleGrant.isSuperAdmin
  authzVersion := authzVersion

/-- the dictionary update `roles[role.role_id] = role` -/
def putRole (role : RoleGrant) (roles : List RoleGrant) : List RoleGrant :=
  if roles.any (fun r => r.roleId = role.roleId)
  then roles.map (fun r => if r.roleId = role.roleId then role else r)
  else roles ++ [role]

def replaceRoles (s : AuthoritySnapshot) (roles : List RoleGrant) : AuthoritySnapshot :=
  build s.userId s.userIsActive s.userIsProtected s.tokenVersion s.authzVersion roles

def withRole (s : AuthoritySnapshot) (role : RoleGrant) : AuthoritySnapshot :=
  s.replaceRoles (putRole role s.roles)

def withoutRole (s : AuthoritySnapshot) (roleId : Uuid) : AuthoritySnapshot :=
  s.replaceRoles (s.roles.filter (fun r => r.roleId ≠ roleId))

@[simp] theorem mem_build_roles {u : Uuid} {a p : Bool} {tv av : Nat} {roles : List RoleGrant}
    {r : RoleGrant} : r ∈ (build u a p tv av roles).roles ↔ r ∈ roles :=
  List.mem_insertionSort _

theorem mem_putRole {role : RoleGrant} {roles : List RoleGrant} {r : RoleGrant} :
    r ∈ putRole role roles ↔ r = role ∨ (r ∈ roles ∧ r.roleId ≠ role.roleId) := by
  unfold putRole
  split
  · rename_i h
    obtain ⟨x, hx, hxe⟩ := List.any_eq_true.mp h
    have hxe' : x.roleId = role.roleId := of_decide_eq_true hxe
    rw [List.mem_map]
    constructor
    · rintro ⟨y, hy, rfl⟩
      by_cases e : y.roleId = role.roleId
      · exact Or.inl (if_pos e)
      · rw [if_neg e]
        exact Or.inr ⟨hy, e⟩
    · rintro (rfl | ⟨hr, hne⟩)
      · exact ⟨x, hx, if_pos hxe'⟩
      · exact ⟨r, hr, if_neg hne⟩
  · rename_i h
    have hno : ∀ x ∈ roles, x.roleId ≠ role.roleId := fun x hx e =>
      h (List.any_eq_true.mpr ⟨x, hx, decide_eq_true e⟩)
    rw [List.mem_append, List.mem_singleton]
    constructor
    · rintro (hr | rfl)
      · exact Or.inr ⟨hr, hno r hr⟩
      · exact Or.inl rfl
    · rintro (rfl | ⟨hr, -⟩)
      · exact Or.inr rfl
      · exact Or.inl hr

end AuthoritySnapshot

structure AuthorizationContext where
  principal : Principal
  authorizationEpoch : Nat
  authority : AuthoritySnapshot
  requestId : String
  auditSource : AuditSource

end PgRbac
