import PgRbac.Policy
import PgRbac.Schema

/-!
# The read side: `app/repositories/access.py`

What the queries return from one database state.  A query that takes row locks returns the rows it
locked; the locks themselves are the subject of `PgRbac.LockOrder`.

* `Db.roleGrant`, `Db.roleGrantsForUser`    what a role, what a user is granted;
* `Db.authority`      the snapshot of a loaded user row: effective, or complete with the disabled
                      roles counted;
* `Db.loadVisibleUser`    the SQL visibility predicate;
* `Db.requireCurrentActor`    the actor behind a bearer token.
-/

set_option linter.unusedVariables false

namespace PgRbac

open Fallible Store

structure UserAccessView where
  userName : String
  assignedRoleIds : List Uuid
  authority : AuthoritySnapshot
  deriving DecidableEq

/-- `sorted(ids, key=str)` -/
def sortIds (ids : List Uuid) : List Uuid := ids.insertionSort (· ≤ ·)

@[simp] theorem mem_sortIds {ids : List Uuid} {id : Uuid} : id ∈ sortIds ids ↔ id ∈ ids :=
  List.mem_insertionSort _

theorem nodup_sortIds {ids : List Uuid} (h : ids.Nodup) : (sortIds ids).Nodup :=
  (List.perm_insertionSort _ ids).nodup_iff.mpr h

@[simp] theorem length_sortIds (ids : List Uuid) : (sortIds ids).length = ids.length :=
  (List.perm_insertionSort _ ids).length_eq

/-- a super administrator by role key and flag, as the SQL predicates ask -/
def actorIsSuperAdmin (actor : AuthoritySnapshot) : Bool :=
  actor.roles.any (fun r => r.key == SystemRoleKey.superAdmin.value && r.isSuperAdmin)

namespace Db

/-! ## grants -/

/-- the keys of the live permissions granted to a role -/
def rolePermissionKeys (db : Db) (roleId : Uuid) : Finset String :=
  (((db.rolePermissions.rights roleId).filterMap db.livePermission?).map Permission.key).toFinset

def roleGrant (db : Db) (role : Role) : RoleGrant where
  roleId := role.id
  key := role.key
  managementTier := role.managementTier
  permissions := db.rolePermissionKeys role.id
  isSystem := role.isSystem
  isProtected := role.isProtected
  isSuperAdmin := role.isSuperAdmin

def loadRoleGrantsForRoles (db : Db) (roles : List Role) : List RoleGrant := roles.map db.roleGrant

/-- the live roles assigned to a user, disabled ones only on request -/
def assignedRoles (db : Db) (userId : Uuid) (includeDisabledRoles : Bool) : List Role :=
  ((db.userRoles.rights userId).filterMap db.liveRole?).filter
    (fun r => includeDisabledRoles || r.isActive)

def roleGrantsForUser (db : Db) (userId : Uuid) (includeDisabledRoles : Bool) : List RoleGrant :=
  (db.assignedRoles userId includeDisabledRoles).map db.roleGrant

def authority (db : Db) (includeDisabledRoles : Bool) (u : User) : AuthoritySnapshot :=
  AuthoritySnapshot.build u.id u.isActive u.isProtected u.tokenVersion u.authzVersion
    (db.roleGrantsForUser u.id includeDisabledRoles)

def loadAuthoritySnapshotsForUsers (db : Db) (users : List User) (includeDisabledRoles : Bool) :
    List AuthoritySnapshot :=
  users.map (db.authority includeDisabledRoles)

def loadAuthoritySnapshot (db : Db) (userId : Uuid) (includeDisabledRoles : Bool) :
    Except Failure AuthoritySnapshot := do
  let u ← orRaise (db.liveUser? userId) (notFound "user_not_found")
  pure (db.authority includeDisabledRoles u)

def requireCurrentActor (db : Db) (actorUserId : Uuid) (tokenVersion : Nat) :
    Except Failure AuthoritySnapshot :=
  match db.liveUser? actorUserId with
  | none => .error (unauthenticated "actor_no_longer_active")
  | some u =>
    if ¬ u.isActive ∨ u.tokenVersion ≠ tokenVersion then
      .error (unauthenticated "actor_no_longer_active")
    else db.loadAuthoritySnapshot actorUserId false

def loadRoleGrant (db : Db) (roleId : Uuid) (includeDisabled includeDeleted : Bool) :
    Except Failure RoleGrant := do
  let role ← orRaise (if includeDeleted then db.roles.get? roleId else db.liveRole? roleId)
    (notFound "role_not_found")
  require (includeDisabled ∨ role.isActive) (notFound "role_not_found")
  pure (db.roleGrant role)

def countLiveUserRoles (db : Db) (userId : Uuid) : Nat := (db.userRoles.rights userId).length

def loadLiveSuperAdminHolderIds (db : Db) : Finset Uuid :=
  match (db.roles.findBy? SystemRoleKey.superAdmin.value).filter (fun r => r.deletedAt.isNone) with
  | some role => (db.userRoles.lefts role.id).toFinset
  | none => ∅

/-- the live permissions among `permissionIds`, with their keys -/
def loadPermissionKeys (db : Db) (permissionIds : List Uuid) : List (Uuid × String) :=
  permissionIds.filterMap fun id => (db.livePermission? id).map fun p => (id, p.key)

/-! ## locking reads -/

/-- `lock_users(session, ids)`: the live ones among them, by id -/
def lockUsers (db : Db) (ids : List Uuid) (id : Uuid) : Option User :=
  if id ∈ ids then db.liveUser? id else none

/-- `lock_roles(session, role_ids=ids)`: the live ones among them, by id -/
def lockRoles (db : Db) (ids : List Uuid) (id : Uuid) : Option Role :=
  if id ∈ ids then db.liveRole? id else none

/-! ## visibility in SQL -/

/-- the subquery `active_user_authority`: the maximal tier and the protection of the active roles,
no row when there is none -/
def activeUserAuthority (db : Db) (userId : Uuid) : Option (Nat × Bool) :=
  match db.assignedRoles userId false with
  | [] => none
  | r :: rs => some (rs.foldr (fun r n => max r.managementTier n) r.managementTier,
      r.isProtected || rs.any Role.isProtected)

def visibleUser (db : Db) (actor : AuthoritySnapshot) (u : User) : Bool :=
  actorIsSuperAdmin actor ||
    (decide (u.id ≠ actor.userId) && !u.isProtected &&
      !((db.activeUserAuthority u.id).map Prod.snd).getD false &&
      decide (((db.activeUserAuthority u.id).map Prod.fst).getD 0 < actor.managementTier))

def loadVisibleUser (db : Db) (actor : AuthoritySnapshot) (userId : Uuid) : Option User :=
  (db.liveUser? userId).filter (db.visibleUser actor)

def visibleRole (actor : AuthoritySnapshot) (r : Role) : Bool :=
  actorIsSuperAdmin actor ||
    (decide (r.managementTier < actor.managementTier) && !r.isProtected && !r.isSuperAdmin)

def loadVisibleRole (db : Db) (actor : AuthoritySnapshot) (roleId : Uuid) : Option Role :=
  (db.liveRole? roleId).filter (visibleRole actor)

/-- the view of a user that the actor sees: assigned roles, and authority, of visible roles only -/
def loadUserAccessView (db : Db) (u : User) (actor : AuthoritySnapshot) : UserAccessView :=
  let rows := (db.assignedRoles u.id true).filter (visibleRole actor)
  { userName := u.userName
    assignedRoleIds := sortIds (rows.map Role.id)
    authority := AuthoritySnapshot.build u.id u.isActive u.isProtected u.tokenVersion
      u.authzVersion ((rows.filter Role.isActive).map db.roleGrant) }

/-! ## what the queries say -/

theorem liveUser?_eq_some {db : Db} {id : Uuid} {u : User} :
    db.liveUser? id = some u ↔ db.users.get? id = some u ∧ u.deletedAt = none := by
  simp [liveUser?, Option.filter_eq_some_iff]

theorem liveRole?_eq_some {db : Db} {id : Uuid} {r : Role} :
    db.liveRole? id = some r ↔ db.roles.get? id = some r ∧ r.deletedAt = none := by
  simp [liveRole?, Option.filter_eq_some_iff]

theorem livePermission?_eq_some {db : Db} {id : Uuid} {p : Permission} :
    db.livePermission? id = some p ↔ db.permissions.get? id = some p ∧ p.deletedAt = none := by
  simp [livePermission?, Option.filter_eq_some_iff]

theorem id_of_liveUser? {db : Db} {id : Uuid} {u : User} (h : db.liveUser? id = some u) :
    u.id = id := Table.key_of_get? (liveUser?_eq_some.mp h).1

theorem id_of_liveRole? {db : Db} {id : Uuid} {r : Role} (h : db.liveRole? id = some r) :
    r.id = id := Table.key_of_get? (liveRole?_eq_some.mp h).1

theorem checks_of_liveRole? {db : Db} {id : Uuid} {r : Role} (h : db.liveRole? id = some r) :
    r.checks = true := Table.check_of_get? (liveRole?_eq_some.mp h).1

@[simp] theorem mem_rolePermissionKeys {db : Db} {roleId : Uuid} {k : String} :
    k ∈ db.rolePermissionKeys roleId ↔
      ∃ id p, db.rolePermissions.Linked roleId id ∧ db.livePermission? id = some p ∧ p.key = k := by
  simp only [rolePermissionKeys, List.mem_toFinset, List.mem_map, List.mem_filterMap,
    Links.mem_rights]
  constructor
  · intro ⟨p, ⟨id, hl, hp⟩, hk⟩
    exact ⟨id, p, hl, hp, hk⟩
  · intro ⟨id, p, hl, hp, hk⟩
    exact ⟨p, ⟨id, hl, hp⟩, hk⟩

theorem mem_assignedRoles {db : Db} {userId : Uuid} {incl : Bool} {r : Role} :
    r ∈ db.assignedRoles userId incl ↔
      db.userRoles.Linked userId r.id ∧ db.liveRole? r.id = some r ∧
        (incl = true ∨ r.isActive = true) := by
  simp only [assignedRoles, List.mem_filter, List.mem_filterMap, Links.mem_rights,
    Bool.or_eq_true]
  constructor
  · intro ⟨⟨id, hl, hr⟩, ha⟩
    have hid := id_of_liveRole? hr
    subst hid
    exact ⟨hl, hr, ha⟩
  · intro ⟨hl, hr, ha⟩
    exact ⟨⟨r.id, hl, hr⟩, ha⟩

/-- **a grant of a user is the grant of a live role assigned to it** -/
theorem mem_roleGrantsForUser {db : Db} {userId : Uuid} {incl : Bool} {g : RoleGrant} :
    g ∈ db.roleGrantsForUser userId incl ↔
      ∃ r, db.userRoles.Linked userId r.id ∧ db.liveRole? r.id = some r ∧
        (incl = true ∨ r.isActive = true) ∧ db.roleGrant r = g := by
  simp only [roleGrantsForUser, List.mem_map, mem_assignedRoles, and_assoc]

theorem roleGrantsForUser_mono {db : Db} {userId : Uuid} {incl : Bool} {g : RoleGrant}
    (h : g ∈ db.roleGrantsForUser userId incl) : g ∈ db.roleGrantsForUser userId true := by
  obtain ⟨r, hl, hr, -, hg⟩ := mem_roleGrantsForUser.mp h
  exact mem_roleGrantsForUser.mpr ⟨r, hl, hr, Or.inl rfl, hg⟩

theorem loadAuthoritySnapshot_ok {db : Db} {userId : Uuid} {incl : Bool} {s : AuthoritySnapshot} :
    db.loadAuthoritySnapshot userId incl = .ok s ↔
      ∃ u, db.liveUser? userId = some u ∧ s = db.authority incl u := by
  unfold loadAuthoritySnapshot
  simp only [bind_ok, orRaise_ok, pure_ok]
  constructor
  · rintro ⟨u, hu, hs⟩
    exact ⟨u, hu, hs.symm⟩
  · rintro ⟨u, hu, hs⟩
    exact ⟨u, hu, hs.symm⟩

theorem requireCurrentActor_ok {db : Db} {id : Uuid} {tokenVersion : Nat} {s : AuthoritySnapshot} :
    db.requireCurrentActor id tokenVersion = .ok s ↔
      ∃ u, db.liveUser? id = some u ∧ u.isActive = true ∧ u.tokenVersion = tokenVersion ∧
        s = db.authority false u := by
  unfold requireCurrentActor
  cases h : db.liveUser? id with
  | none => simp
  | some u =>
    by_cases ha : u.isActive <;> by_cases ht : u.tokenVersion = tokenVersion <;>
      simp [ha, ht, loadAuthoritySnapshot_ok, h]

theorem requireCurrentActor_error {db : Db} {id : Uuid} {tokenVersion : Nat} {e : Failure}
    (h : db.requireCurrentActor id tokenVersion = .error e) :
    e = unauthenticated "actor_no_longer_active" := by
  unfold requireCurrentActor at h
  cases hu : db.liveUser? id with
  | none =>
    simp only [hu] at h
    exact (Except.error.inj h).symm
  | some u =>
    simp only [hu] at h
    split at h
    · exact (Except.error.inj h).symm
    · have hok : db.loadAuthoritySnapshot id false = .ok (db.authority false u) :=
        loadAuthoritySnapshot_ok.mpr ⟨u, hu, rfl⟩
      rw [hok] at h
      cases h

end Db

end PgRbac
