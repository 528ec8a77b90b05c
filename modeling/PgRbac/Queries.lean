import PgRbac.Lib.Groups
import PgRbac.Predictions
import PgRbac.Visibility

/-!
# The queries of the read side, row by row

`app/repositories/access.py` joins assignments, roles and grants in one query, and folds the rows
that come back into one accumulator for each user and role.  Here the joins, the groups and the
loops are written out, with the rows in any order, and shown to give the reads of
`PgRbac.Repository`.

* `Sql.authorityRows`                     the join of the four tables;
* `Sql.loadAuthoritySnapshotsForUsers`, `Sql.loadUserAccessViews`    the two loops over its rows;
* `Sql.selectVisibleUsers`, `Sql.selectVisibleRoles`    the visibility predicates of the lists;
* `sql_visibility`                        what they select is what the policy lets the actor see;
* `response_complete`                     the filtered view of a visible user misses nothing.
-/

set_option linter.unusedVariables false
set_option linter.unusedSectionVars false

namespace PgRbac

open Fallible Store Query Trace AuthoritySnapshot

namespace Sql

/-! ## the join -/

/-- an assignment, its role, and the key of one permission of the role, or `NULL` -/
structure AuthorityRow where
  userId : Uuid
  role : Role
  permissionKey : Option String

/-- the order in which the rows of a query come back -/
structure RowOrder where
  sort : List AuthorityRow → List AuthorityRow
  perm : ∀ rows, (sort rows).Perm rows

/-- `user_roles JOIN roles`, both not deleted, of these users and of the roles that satisfy `p` -/
def assignmentRows (db : Db) (userIds : List Uuid) (p : Role → Bool) : List (Uuid × Role) :=
  (db.userRoles.pairs.filter fun a => decide (a.1 ∈ userIds)).flatMap fun a =>
    ((db.liveRole? a.2).filter p).toList.map fun role => (a.1, role)

/-- … `LEFT JOIN role_permissions LEFT JOIN permissions`, both not deleted -/
def authorityRows (db : Db) (userIds : List Uuid) (p : Role → Bool) : List AuthorityRow :=
  let granted := leftJoin (fun a => db.rolePermissions.rights a.2.id) (assignmentRows db userIds p)
  let named := leftJoin (fun a => (a.2.bind db.livePermission?).toList) granted
  named.map fun row => ⟨row.1.1.1, row.1.1.2, row.2.map Permission.key⟩

/-! ## the accumulators -/

/-- `_RoleAccumulator` with these keys, frozen -/
def freeze (role : Role) (permissions : Finset String) : RoleGrant where
  roleId := role.id
  key := role.key
  managementTier := role.managementTier
  permissions := permissions
  isSystem := role.isSystem
  isProtected := role.isProtected
  isSuperAdmin := role.isSuperAdmin

def roleAccumulator : Accumulator AuthorityRow Uuid RoleGrant where
  key row := row.role.id
  groupKey g := g.roleId
  fresh row := freeze row.role ∅
  add row g :=
    match row.permissionKey with
    | none => g
    | some key => { g with permissions := insert key g.permissions }
  fresh_key _ := rfl
  add_key row g := by
    cases row.permissionKey with
    | none => rfl
    | some key => rfl

/-- `effective_roles[user_id]`, for every user, after the loop over the rows -/
def effectiveRoles (rows : List AuthorityRow) : Uuid → List RoleGrant :=
  rows.foldl (fun dict row =>
    Function.update dict row.userId (roleAccumulator.put row (dict row.userId))) fun _ => []

def loadAuthoritySnapshotsForUsers (order : RowOrder) (db : Db) (users : List User)
    (includeDisabledRoles : Bool) : List (Uuid × AuthoritySnapshot) :=
  let rows := order.sort (authorityRows db (users.map User.id)
    fun role => includeDisabledRoles || role.isActive)
  users.map fun u => (u.id, AuthoritySnapshot.build u.id u.isActive u.isProtected u.tokenVersion
    u.authzVersion (effectiveRoles rows u.id))

def loadAuthoritySnapshot (order : RowOrder) (db : Db) (userId : Uuid)
    (includeDisabledRoles : Bool) : Except Failure AuthoritySnapshot := do
  let u ← orRaise (db.liveUser? userId) (notFound "user_not_found")
  orRaise ((loadAuthoritySnapshotsForUsers order db [u] includeDisabledRoles).lookup userId)
    (.runtimeError "KeyError")

/-- `assigned_role_ids[user_id]`, a set -/
def assignedRoleIds (rows : List AuthorityRow) (userId : Uuid) : List Uuid :=
  ((rows.filter fun row => decide (row.userId = userId)).map fun row => row.role.id).dedup

/-- the views that the actor sees; a disabled role is assigned, but not effective -/
def loadUserAccessViews (order : RowOrder) (db : Db) (users : List User) (actor : AuthoritySnapshot) :
    List (Uuid × UserAccessView) :=
  let rows := order.sort (authorityRows db (users.map User.id) fun role =>
    actorIsSuperAdmin actor || (decide (role.managementTier < actor.managementTier) &&
      !role.isProtected && !role.isSuperAdmin))
  let active := rows.filter fun row => row.role.isActive
  users.map fun u => (u.id,
    { userName := u.userName
      assignedRoleIds := sortIds (assignedRoleIds rows u.id)
      authority := AuthoritySnapshot.build u.id u.isActive u.isProtected u.tokenVersion
        u.authzVersion (effectiveRoles active u.id) })

/-! ## the visibility predicates -/

/-- the subquery `active_user_authority`: one group for each user with an active role -/
def activeAuthority (db : Db) : List (Uuid × Nat × Bool) :=
  let joined := db.userRoles.pairs.flatMap fun a =>
    ((db.liveRole? a.2).filter Role.isActive).toList.map fun role => (a.1, role)
  (joined.map Prod.fst).dedup.map fun userId =>
    let roles := (joined.filter fun a => decide (a.1 = userId)).map Prod.snd
    (userId, (roles.map Role.managementTier).foldr max 0, roles.any Role.isProtected)

def selectVisibleUsers (db : Db) (actor : AuthoritySnapshot) : List User :=
  let live := db.users.rows.filter fun u => u.deletedAt.isNone
  if actorIsSuperAdmin actor then live
  else
    let joined := leftJoin (fun u => (activeAuthority db).filter fun g => decide (g.1 = u.id)) live
    (joined.filter fun row =>
      decide (row.1.id ≠ actor.userId) && !row.1.isProtected &&
        !((row.2.map fun g => g.2.2).getD false) &&
        decide ((row.2.map fun g => g.2.1).getD 0 < actor.managementTier)).map Prod.fst

def selectVisibleRoles (db : Db) (actor : AuthoritySnapshot) : List Role :=
  let live := db.roles.rows.filter fun r => r.deletedAt.isNone
  if actorIsSuperAdmin actor then live
  else live.filter fun r => decide (r.managementTier < actor.managementTier) && !r.isProtected &&
    !r.isSuperAdmin

/-! ## what the join returns -/

variable {db : Db} {userIds : List Uuid} {p : Role → Bool}

theorem mem_assignmentRows {u : Uuid} {role : Role} :
    (u, role) ∈ assignmentRows db userIds p ↔ u ∈ userIds ∧ db.userRoles.Linked u role.id ∧
      db.liveRole? role.id = some role ∧ p role = true := by
  unfold assignmentRows
  rw [List.mem_flatMap]
  constructor
  · intro h
    obtain ⟨a, ha, h⟩ := h
    obtain ⟨ha, hu⟩ := List.mem_filter.mp ha
    obtain ⟨r, hr, he⟩ := List.mem_map.mp h
    obtain ⟨rfl, rfl⟩ := Prod.mk.inj he
    obtain ⟨hr, hp⟩ := (Option.filter_eq_some_iff ..).mp (Option.mem_toList.mp hr)
    have hid : r.id = a.2 := Db.id_of_liveRole? hr
    refine ⟨of_decide_eq_true hu, ?_, ?_, hp⟩
    · rw [hid]
      exact ha
    · rw [hid]
      exact hr
  · intro h
    obtain ⟨hu, hl, hr, hp⟩ := h
    refine ⟨(u, role.id), List.mem_filter.mpr ⟨hl, decide_eq_true hu⟩, List.mem_map.mpr ⟨role, ?_, rfl⟩⟩
    exact Option.mem_toList.mpr ((Option.filter_eq_some_iff ..).mpr ⟨hr, hp⟩)

theorem assigned_of_mem {row : AuthorityRow} (h : row ∈ authorityRows db userIds p) :
    (row.userId, row.role) ∈ assignmentRows db userIds p := by
  unfold authorityRows at h
  obtain ⟨x, hx, rfl⟩ := List.mem_map.mp h
  obtain ⟨a, o⟩ := x
  obtain ⟨b, o'⟩ := a
  exact (mem_leftJoin.mp (mem_leftJoin.mp hx).1).1

theorem mem_of_assigned {u : Uuid} {role : Role} (h : (u, role) ∈ assignmentRows db userIds p) :
    ∃ row ∈ authorityRows db userIds p, row.userId = u ∧ row.role = role := by
  obtain ⟨o, ho⟩ := exists_leftJoin (fun a => db.rolePermissions.rights a.2.id) h
  obtain ⟨o', ho'⟩ := exists_leftJoin (fun a => (a.2.bind db.livePermission?).toList) ho
  exact ⟨_, List.mem_map.mpr ⟨_, ho', rfl⟩, rfl, rfl⟩

theorem key_mem {u : Uuid} {role : Role} {key : String}
    (h : (u, role) ∈ assignmentRows db userIds p) :
    (⟨u, role, some key⟩ : AuthorityRow) ∈ authorityRows db userIds p ↔
      key ∈ db.rolePermissionKeys role.id := by
  unfold authorityRows
  rw [List.mem_map, Db.mem_rolePermissionKeys]
  constructor
  · intro hrow
    obtain ⟨⟨⟨a, o⟩, o'⟩, hx, he⟩ := hrow
    injection he with h1 h2 h3
    obtain ⟨hgranted, ⟨perm, hperm, rfl⟩ | ⟨-, rfl⟩⟩ := mem_leftJoin.mp hx
    · obtain ⟨-, ⟨id, hid, rfl⟩ | ⟨-, rfl⟩⟩ := mem_leftJoin.mp hgranted
      · refine ⟨id, perm, ?_, Option.mem_toList.mp hperm, Option.some.inj h3⟩
        rw [← h2]
        exact Links.mem_rights.mp hid
      · cases hperm
    · cases h3
  · intro hkey
    obtain ⟨id, perm, hl, hperm, rfl⟩ := hkey
    have hgranted : ((u, role), some id) ∈ leftJoin (fun a => db.rolePermissions.rights a.2.id)
        (assignmentRows db userIds p) :=
      mem_leftJoin.mpr ⟨h, Or.inl ⟨id, Links.mem_rights.mpr hl, rfl⟩⟩
    refine ⟨(((u, role), some id), some perm), mem_leftJoin.mpr ⟨hgranted, Or.inl ⟨perm, ?_, rfl⟩⟩, rfl⟩
    exact Option.mem_toList.mpr hperm

/-! ## what the loops collect -/

def keysOf (k : Uuid) (rows : List AuthorityRow) : Finset String :=
  ((rows.filter fun row => decide (row.role.id = k)).filterMap AuthorityRow.permissionKey).toFinset

theorem mem_keysOf {k : Uuid} {rows : List AuthorityRow} {key : String} :
    key ∈ keysOf k rows ↔ ∃ row ∈ rows, row.role.id = k ∧ row.permissionKey = some key := by
  simp [keysOf, and_assoc]

theorem add_none {row : AuthorityRow} {g : RoleGrant} (h : row.permissionKey = none) :
    roleAccumulator.add row g = g := by
  unfold roleAccumulator
  dsimp only
  rw [h]

theorem add_some {row : AuthorityRow} {g : RoleGrant} {key : String}
    (h : row.permissionKey = some key) :
    roleAccumulator.add row g = { g with permissions := insert key g.permissions } := by
  unfold roleAccumulator
  dsimp only
  rw [h]

/-- **one accumulator holds the columns of its role and the keys of all its rows** -/
theorem collected_eq {k : Uuid} {rows : List AuthorityRow} {g : RoleGrant}
    (hsame : ∀ row ∈ rows, ∀ row' ∈ rows, row.role.id = row'.role.id → row.role = row'.role)
    (h : roleAccumulator.collected k rows = some g) :
    ∃ row ∈ rows, row.role.id = k ∧
      g = freeze row.role (keysOf k rows) := by
  induction rows using List.reverseRecOn generalizing g with
  | nil => cases h
  | append_singleton rows row ih =>
    have hbefore : ∀ r ∈ rows, r ∈ rows ++ [row] := fun r hr => List.mem_append_left _ hr
    have hlast : row ∈ rows ++ [row] := List.mem_append_right _ (List.mem_singleton_self _)
    have hkeys : ∀ key, key ∈ keysOf k (rows ++ [row]) ↔
        key ∈ keysOf k rows ∨ (row.role.id = k ∧ row.permissionKey = some key) := by
      intro key
      simp only [mem_keysOf, List.mem_append, List.mem_singleton, or_and_right, exists_or,
        exists_eq_left]
    rw [Accumulator.collected_concat] at h
    by_cases hk : roleAccumulator.key row = k
    · rw [if_pos hk] at h
      have hid : row.role.id = k := hk
      refine ⟨row, hlast, hid, ?_⟩
      -- what the group held before, whether or not the row opens it
      have hheld : (roleAccumulator.collected k rows).getD (roleAccumulator.fresh row) =
          freeze row.role (keysOf k rows) := by
        cases hc : roleAccumulator.collected k rows with
        | none =>
          have hnone := roleAccumulator.collected_eq_none.mp hc
          have hempty : keysOf k rows = ∅ := by
            ext key
            rw [mem_keysOf]
            constructor
            · intro hx
              obtain ⟨r, hr, hrk, -⟩ := hx
              exact absurd hrk (hnone r hr)
            · intro hx
              cases hx
          rw [hempty]
          rfl
        | some g' =>
          obtain ⟨r, hr, hrk, rfl⟩ := ih (fun a ha b hb => hsame a (hbefore a ha) b (hbefore b hb)) hc
          have hrole : r.role = row.role :=
            hsame r (hbefore r hr) row hlast (hrk.trans hid.symm)
          rw [Option.getD_some, hrole]
      rw [hheld] at h
      rw [← Option.some.inj h]
      cases hkey : row.permissionKey with
      | none =>
        have he : keysOf k (rows ++ [row]) = keysOf k rows := by
          ext key
          rw [hkeys, hkey]
          simp
        rw [he, add_none hkey]
      | some key =>
        have he : keysOf k (rows ++ [row]) = insert key (keysOf k rows) := by
          ext key'
          rw [hkeys, hkey, Finset.mem_insert]
          simp [hid, eq_comm, or_comm]
        rw [he, add_some hkey]
        rfl
    · rw [if_neg hk] at h
      have hid : ¬ row.role.id = k := hk
      obtain ⟨r, hr, hrk, hg⟩ := ih (fun a ha b hb => hsame a (hbefore a ha) b (hbefore b hb)) h
      have he : keysOf k (rows ++ [row]) = keysOf k rows := by
        ext key
        rw [hkeys]
        simp [hid]
      rw [he]
      exact ⟨r, hbefore r hr, hrk, hg⟩

theorem effectiveRoles_eq (rows : List AuthorityRow) (u : Uuid) :
    effectiveRoles rows u =
      roleAccumulator.groups (rows.filter fun row => decide (row.userId = u)) := by
  induction rows using List.reverseRecOn with
  | nil => rfl
  | append_singleton rows row ih =>
    have hstep : effectiveRoles (rows ++ [row]) = Function.update (effectiveRoles rows) row.userId
        (roleAccumulator.put row (effectiveRoles rows row.userId)) := by
      unfold effectiveRoles
      rw [List.foldl_append]
      rfl
    rw [hstep, List.filter_append]
    by_cases hu : row.userId = u
    · rw [hu, Function.update_self, ih, List.filter_singleton, decide_eq_true hu, cond_true,
        Accumulator.groups_concat]
    · rw [Function.update_of_ne (Ne.symm hu), ih, List.filter_singleton, decide_eq_false hu, cond_false,
        List.append_nil]

/-- **the accumulators of a user are the grants of its assigned roles** -/
theorem mem_effectiveRoles {rows : List AuthorityRow} {q : Role → Bool} {u : Uuid}
    (hrows : ∀ row, row ∈ rows ↔ row ∈ authorityRows db userIds p ∧ q row.role = true)
    (hu : u ∈ userIds) (g : RoleGrant) :
    g ∈ effectiveRoles rows u ↔ ∃ role, db.userRoles.Linked u role.id ∧
      db.liveRole? role.id = some role ∧ p role = true ∧ q role = true ∧ db.roleGrant role = g := by
  have hassigned : ∀ row ∈ rows, row.userId = u →
      (u, row.role) ∈ assignmentRows db userIds p ∧ q row.role = true := by
    intro row hrow he
    obtain ⟨hrow, hq⟩ := (hrows row).mp hrow
    exact ⟨he ▸ assigned_of_mem hrow, hq⟩
  have hkeys : ∀ role, (u, role) ∈ assignmentRows db userIds p → q role = true →
      keysOf role.id (rows.filter fun row => decide (row.userId = u)) =
        db.rolePermissionKeys role.id := by
    intro role hrole hq
    ext key
    rw [← key_mem hrole, mem_keysOf]
    constructor
    · intro h
      obtain ⟨row, hrow, hid, hkey⟩ := h
      obtain ⟨hrow, hru⟩ := List.mem_filter.mp hrow
      obtain ⟨hassign, -⟩ := hassigned row hrow (of_decide_eq_true hru)
      obtain ⟨-, -, hlive, -⟩ := mem_assignmentRows.mp hassign
      obtain ⟨-, -, hlive', -⟩ := mem_assignmentRows.mp hrole
      rw [hid, hlive'] at hlive
      obtain ⟨userId, r, k⟩ := row
      have hr : role = r := Option.some.inj hlive
      have hw : userId = u := of_decide_eq_true hru
      rw [hr, ← hw, ← show k = some key from hkey]
      exact ((hrows _).mp hrow).1
    · intro h
      exact ⟨_, List.mem_filter.mpr ⟨(hrows _).mpr ⟨h, hq⟩, decide_eq_true rfl⟩, rfl, rfl⟩
  have hsame : ∀ row ∈ rows.filter (fun row => decide (row.userId = u)),
      ∀ row' ∈ rows.filter (fun row => decide (row.userId = u)),
      row.role.id = row'.role.id → row.role = row'.role := by
    intro row hrow row' hrow' hid
    obtain ⟨hrow, hru⟩ := List.mem_filter.mp hrow
    obtain ⟨hrow', hru'⟩ := List.mem_filter.mp hrow'
    obtain ⟨-, -, hlive, -⟩ :=
      mem_assignmentRows.mp (hassigned row hrow (of_decide_eq_true hru)).1
    obtain ⟨-, -, hlive', -⟩ :=
      mem_assignmentRows.mp (hassigned row' hrow' (of_decide_eq_true hru')).1
    rw [hid, hlive'] at hlive
    exact (Option.some.inj hlive).symm
  rw [effectiveRoles_eq, Accumulator.mem_groups]
  constructor
  · intro h
    obtain ⟨row, hrow, hid, hg⟩ := collected_eq hsame h
    obtain ⟨hrow, hru⟩ := List.mem_filter.mp hrow
    obtain ⟨hassign, hq⟩ := hassigned row hrow (of_decide_eq_true hru)
    obtain ⟨-, hl, hlive, hp⟩ := mem_assignmentRows.mp hassign
    refine ⟨row.role, hl, hlive, hp, hq, ?_⟩
    rw [hg, ← hid, hkeys row.role hassign hq]
    rfl
  · intro h
    obtain ⟨role, hl, hlive, hp, hq, rfl⟩ := h
    have hassign : (u, role) ∈ assignmentRows db userIds p :=
      mem_assignmentRows.mpr ⟨hu, hl, hlive, hp⟩
    obtain ⟨row, hrow, hru, hr⟩ := mem_of_assigned hassign
    have hmem : row ∈ rows.filter fun row => decide (row.userId = u) :=
      List.mem_filter.mpr ⟨(hrows row).mpr ⟨hrow, hr ▸ hq⟩, decide_eq_true hru⟩
    show roleAccumulator.collected role.id _ = some (db.roleGrant role)
    cases hc : roleAccumulator.collected role.id (rows.filter fun row => decide (row.userId = u)) with
    | none =>
      have hne : row.role.id ≠ role.id := roleAccumulator.collected_eq_none.mp hc row hmem
      exact absurd (congrArg Role.id hr) hne
    | some g =>
      obtain ⟨row', hrow', hid, hg⟩ := collected_eq hsame hc
      have hr' : row'.role = role := by
        rw [hsame row' hrow' row hmem (hid.trans (congrArg Role.id hr).symm), hr]
      rw [hg, hr', hkeys role hassign hq]
      rfl

theorem nodup_effectiveRoles (rows : List AuthorityRow) (u : Uuid) :
    (roleIds (effectiveRoles rows u)).Nodup := by
  rw [effectiveRoles_eq]
  exact roleAccumulator.keys_nodup _

/-! ## the two loops -/

/-- **the loop over the joined rows loads the snapshots of the tables** -/
theorem loadAuthoritySnapshotsForUsers_eq (order : RowOrder) (db : Db) (users : List User) (incl : Bool) :
    loadAuthoritySnapshotsForUsers order db users incl =
      users.map fun u => (u.id, db.authority incl u) := by
  unfold loadAuthoritySnapshotsForUsers
  apply List.map_congr_left
  intro u hu
  refine congrArg (Prod.mk u.id) (build_congr (nodup_effectiveRoles _ _)
    (nodup_roleGrantsForUser db u.id incl) ?_)
  intro g
  rw [mem_effectiveRoles (q := fun _ => true)
    (fun row => by rw [(order.perm _).mem_iff, and_iff_left rfl]) (List.mem_map_of_mem hu),
    Db.mem_roleGrantsForUser]
  simp only [Bool.or_eq_true, true_and]

theorem loadAuthoritySnapshot_eq (order : RowOrder) (db : Db) (userId : Uuid) (incl : Bool) :
    loadAuthoritySnapshot order db userId incl = db.loadAuthoritySnapshot userId incl := by
  unfold loadAuthoritySnapshot Db.loadAuthoritySnapshot
  cases hu : db.liveUser? userId with
  | none => rfl
  | some u =>
    have hid : u.id = userId := Db.id_of_liveUser? hu
    show orRaise ((loadAuthoritySnapshotsForUsers order db [u] incl).lookup userId) _ = .ok _
    rw [loadAuthoritySnapshotsForUsers_eq, ← hid, List.map_singleton, List.lookup_cons, beq_self_eq_true]
    rfl

theorem mem_assignedRoleIds {rows : List AuthorityRow} {u : Uuid}
    (hrows : ∀ row, row ∈ rows ↔ row ∈ authorityRows db userIds p) (hu : u ∈ userIds) (r : Uuid) :
    r ∈ assignedRoleIds rows u ↔ ∃ role, db.userRoles.Linked u r ∧ db.liveRole? r = some role ∧
      p role = true := by
  unfold assignedRoleIds
  rw [List.mem_dedup, List.mem_map]
  constructor
  · intro h
    obtain ⟨row, hrow, rfl⟩ := h
    obtain ⟨hrow, hru⟩ := List.mem_filter.mp hrow
    obtain ⟨-, hl, hlive, hp⟩ := mem_assignmentRows.mp (assigned_of_mem ((hrows row).mp hrow))
    rw [of_decide_eq_true hru] at hl
    exact ⟨row.role, hl, hlive, hp⟩
  · intro h
    obtain ⟨role, hl, hlive, hp⟩ := h
    have hid : role.id = r := Db.id_of_liveRole? hlive
    obtain ⟨row, hrow, hru, hr⟩ := mem_of_assigned
      (mem_assignmentRows.mpr ⟨hu, hid.symm ▸ hl, hid.symm ▸ hlive, hp⟩)
    exact ⟨row, List.mem_filter.mpr ⟨(hrows row).mpr hrow, decide_eq_true hru⟩, by rw [hr, hid]⟩

theorem sortIds_congr {ids ids' : List Uuid} (h : ids.Perm ids') : sortIds ids = sortIds ids' :=
  sort_by_congr (fun _ _ _ _ he => he) h

theorem mem_visibleRoles {actor : AuthoritySnapshot} {u : Uuid} {role : Role} :
    role ∈ (db.assignedRoles u true).filter (Db.visibleRole actor) ↔
      db.userRoles.Linked u role.id ∧ db.liveRole? role.id = some role ∧
        Db.visibleRole actor role = true := by
  rw [List.mem_filter, Db.mem_assignedRoles]
  simp [and_assoc]

section
variable {actor : AuthoritySnapshot} {rows : List AuthorityRow} {u : User}

theorem assignedRoleIds_eq
    (hrows : ∀ row, row ∈ rows ↔ row ∈ authorityRows db userIds (Db.visibleRole actor))
    (hu : u.id ∈ userIds) : sortIds (assignedRoleIds rows u.id) =
      sortIds (((db.assignedRoles u.id true).filter (Db.visibleRole actor)).map Role.id) := by
  have hnodup : (((db.assignedRoles u.id true).filter (Db.visibleRole actor)).map Role.id).Nodup := by
    have hall := nodup_roleGrantsForUser db u.id true
    unfold roleIds Db.roleGrantsForUser at hall
    rw [List.map_map] at hall
    exact hall.sublist (List.filter_sublist.map Role.id)
  refine sortIds_congr ((List.perm_ext_iff_of_nodup (List.nodup_dedup _) hnodup).mpr ?_)
  intro r
  rw [← assignedRoleIds, mem_assignedRoleIds hrows hu, List.mem_map]
  constructor
  · intro h
    obtain ⟨role, hl, hlive, hp⟩ := h
    have hid : role.id = r := Db.id_of_liveRole? hlive
    exact ⟨role, mem_visibleRoles.mpr ⟨hid.symm ▸ hl, hid.symm ▸ hlive, hp⟩, hid⟩
  · intro h
    obtain ⟨role, hrole, rfl⟩ := h
    obtain ⟨hl, hlive, hp⟩ := mem_visibleRoles.mp hrole
    exact ⟨role, hl, hlive, hp⟩

theorem viewAuthority_eq
    (hrows : ∀ row, row ∈ rows ↔ row ∈ authorityRows db userIds (Db.visibleRole actor))
    (hu : u.id ∈ userIds) :
    build u.id u.isActive u.isProtected u.tokenVersion u.authzVersion
        (effectiveRoles (rows.filter fun row => row.role.isActive) u.id) =
      build u.id u.isActive u.isProtected u.tokenVersion u.authzVersion
        ((((db.assignedRoles u.id true).filter (Db.visibleRole actor)).filter Role.isActive).map
          db.roleGrant) := by
  have hall := nodup_roleGrantsForUser db u.id true
  unfold roleIds Db.roleGrantsForUser at hall
  refine build_congr (nodup_effectiveRoles _ _) (hall.sublist
    (((List.filter_sublist.trans List.filter_sublist).map db.roleGrant).map RoleGrant.roleId)) ?_
  intro g
  rw [mem_effectiveRoles (q := Role.isActive) (fun row => by rw [List.mem_filter, hrows]) hu,
    List.mem_map]
  constructor
  · intro h
    obtain ⟨role, hl, hlive, hp, hq, hg⟩ := h
    exact ⟨role, List.mem_filter.mpr ⟨mem_visibleRoles.mpr ⟨hl, hlive, hp⟩, hq⟩, hg⟩
  · intro h
    obtain ⟨role, hrole, hg⟩ := h
    obtain ⟨hrole, hq⟩ := List.mem_filter.mp hrole
    obtain ⟨hl, hlive, hp⟩ := mem_visibleRoles.mp hrole
    exact ⟨role, hl, hlive, hp, hq, hg⟩

end

/-- **the loop over the rows that the actor sees gives the view of the tables** -/
theorem loadUserAccessViews_eq (order : RowOrder) (db : Db) (users : List User)
    (actor : AuthoritySnapshot) :
    loadUserAccessViews order db users actor =
      users.map fun u => (u.id, db.loadUserAccessView u actor) := by
  unfold loadUserAccessViews
  apply List.map_congr_left
  intro u hu
  have huser : u.id ∈ users.map User.id := List.mem_map_of_mem hu
  have hrows : ∀ row,
      row ∈ order.sort (authorityRows db (users.map User.id) (Db.visibleRole actor)) ↔
        row ∈ authorityRows db (users.map User.id) (Db.visibleRole actor) := fun row =>
    (order.perm _).mem_iff
  unfold Db.loadUserAccessView
  dsimp only
  rw [← assignedRoleIds_eq hrows huser, ← viewAuthority_eq hrows huser]
  rfl

/-! ## the visible users and roles -/

theorem mem_joined {u : Uuid} {role : Role} :
    (u, role) ∈ (db.userRoles.pairs.flatMap fun a =>
        ((db.liveRole? a.2).filter Role.isActive).toList.map fun role => (a.1, role)) ↔
      role ∈ db.assignedRoles u false := by
  rw [List.mem_flatMap, Db.mem_assignedRoles]
  constructor
  · intro h
    obtain ⟨a, ha, h⟩ := h
    obtain ⟨r, hr, he⟩ := List.mem_map.mp h
    obtain ⟨rfl, rfl⟩ := Prod.mk.inj he
    obtain ⟨hr, hactive⟩ := (Option.filter_eq_some_iff ..).mp (Option.mem_toList.mp hr)
    have hid : r.id = a.2 := Db.id_of_liveRole? hr
    rw [hid]
    exact ⟨ha, hr, Or.inr hactive⟩
  · intro h
    obtain ⟨hl, hr, hactive⟩ := h
    have hactive' : role.isActive = true := hactive.resolve_left Bool.false_ne_true
    exact ⟨(u, role.id), hl, List.mem_map.mpr
      ⟨role, Option.mem_toList.mpr ((Option.filter_eq_some_iff ..).mpr ⟨hr, hactive'⟩), rfl⟩⟩

theorem foldr_max_eq {roles roles' : List Role} (h : ∀ r, r ∈ roles ↔ r ∈ roles') :
    (roles.map Role.managementTier).foldr max 0 = maxTier (roles'.map db.roleGrant) := by
  have hle : ∀ (l : List Role) (n : Nat), (l.map Role.managementTier).foldr max 0 ≤ n ↔
      ∀ r ∈ l, r.managementTier ≤ n := by
    intro l n
    induction l with
    | nil => simp
    | cons r l ih => rw [List.map_cons, List.foldr_cons, max_le_iff, ih, List.forall_mem_cons]
  refine le_antisymm ((hle _ _).mpr ?_) (maxTier_le.mpr ?_)
  · intro r hr
    exact le_maxTier (List.mem_map_of_mem (f := db.roleGrant) ((h r).mp hr))
  · intro g hg
    obtain ⟨r, hr, rfl⟩ := List.mem_map.mp hg
    exact (hle _ _).mp (Nat.le_refl _) r ((h r).mpr hr)

theorem joined_authority {u : User} {l : List User} {o : Option (Uuid × Nat × Bool)}
    (h : (u, o) ∈ leftJoin (fun u => (activeAuthority db).filter fun g => decide (g.1 = u.id)) l) :
    (o.map fun g => g.2.1).getD 0 = ((db.activeUserAuthority u.id).map Prod.fst).getD 0 ∧
      (o.map fun g => g.2.2).getD false =
        ((db.activeUserAuthority u.id).map Prod.snd).getD false := by
  rw [activeUserAuthority_tier, activeUserAuthority_protected]
  rcases (mem_leftJoin.mp h).2 with ⟨g, hg, rfl⟩ | ⟨hnone, rfl⟩
  · obtain ⟨hg, hu⟩ := List.mem_filter.mp hg
    unfold activeAuthority at hg
    obtain ⟨x, -, rfl⟩ := List.mem_map.mp hg
    have hx : x = u.id := of_decide_eq_true hu
    have hroles : ∀ r, r ∈ ((db.userRoles.pairs.flatMap fun a =>
        ((db.liveRole? a.2).filter Role.isActive).toList.map fun role => (a.1, role)).filter
          fun a => decide (a.1 = x)).map Prod.snd ↔ r ∈ db.assignedRoles u.id false := by
      intro r
      rw [← mem_joined, List.mem_map, ← hx]
      constructor
      · intro hr
        obtain ⟨a, ha, rfl⟩ := hr
        obtain ⟨ha, hax⟩ := List.mem_filter.mp ha
        rw [← of_decide_eq_true hax]
        exact ha
      · intro hr
        exact ⟨(x, r), List.mem_filter.mpr ⟨hr, decide_eq_true rfl⟩, rfl⟩
    refine ⟨foldr_max_eq hroles, ?_⟩
    show List.any _ Role.isProtected = _
    rw [Bool.eq_iff_iff, List.any_eq_true, List.any_map, List.any_eq_true]
    exact exists_congr fun r => and_congr_left' (hroles r)
  · -- no group: the user has no active role
    have hempty : db.assignedRoles u.id false = [] := by
      rw [List.eq_nil_iff_forall_not_mem]
      intro r hr
      have hmem : ∀ g ∈ activeAuthority db, g.1 ≠ u.id := by
        intro g hg he
        have hf : g ∈ (activeAuthority db).filter fun g => decide (g.1 = u.id) :=
          List.mem_filter.mpr ⟨hg, decide_eq_true he⟩
        rw [hnone] at hf
        cases hf
      unfold activeAuthority at hmem
      exact hmem _ (List.mem_map_of_mem
        (List.mem_dedup.mpr (List.mem_map_of_mem (f := Prod.fst) (mem_joined.mpr hr)))) rfl
    rw [hempty]
    exact ⟨rfl, rfl⟩

theorem mem_liveUsers {u : User} :
    u ∈ db.users.rows.filter (fun u => u.deletedAt.isNone) ↔ db.liveUser? u.id = some u := by
  rw [List.mem_filter, Table.mem_rows_iff, Db.liveUser?_eq_some, Option.isNone_iff_eq_none]

theorem mem_liveRoles {r : Role} :
    r ∈ db.roles.rows.filter (fun r => r.deletedAt.isNone) ↔ db.liveRole? r.id = some r := by
  rw [List.mem_filter, Table.mem_rows_iff, Db.liveRole?_eq_some, Option.isNone_iff_eq_none]

/-- **the query with the outer join selects by the predicate on one user** -/
theorem mem_selectVisibleUsers {actor : AuthoritySnapshot} {u : User} :
    u ∈ selectVisibleUsers db actor ↔
      db.liveUser? u.id = some u ∧ db.visibleUser actor u = true := by
  unfold selectVisibleUsers Db.visibleUser
  by_cases hs : actorIsSuperAdmin actor = true
  · rw [if_pos hs, mem_liveUsers, hs, Bool.true_or, and_iff_left rfl]
  · rw [if_neg hs, (Bool.not_eq_true _).mp hs, Bool.false_or, List.mem_map]
    constructor
    · intro h
      obtain ⟨⟨x, o⟩, hx, rfl⟩ := h
      obtain ⟨hx, hp⟩ := List.mem_filter.mp hx
      obtain ⟨htier, hprotected⟩ := joined_authority hx
      dsimp only at hp
      rw [htier, hprotected] at hp
      exact ⟨mem_liveUsers.mp (mem_leftJoin.mp hx).1, hp⟩
    · intro h
      obtain ⟨hlive, hp⟩ := h
      obtain ⟨o, ho⟩ := exists_leftJoin
        (fun u : User => (activeAuthority db).filter fun g => decide (g.1 = u.id))
        (mem_liveUsers.mpr hlive)
      obtain ⟨htier, hprotected⟩ := joined_authority ho
      refine ⟨(u, o), List.mem_filter.mpr ⟨ho, ?_⟩, rfl⟩
      dsimp only
      rw [htier, hprotected]
      exact hp

theorem mem_selectVisibleRoles {actor : AuthoritySnapshot} {r : Role} :
    r ∈ selectVisibleRoles db actor ↔
      db.liveRole? r.id = some r ∧ Db.visibleRole actor r = true := by
  unfold selectVisibleRoles Db.visibleRole
  by_cases hs : actorIsSuperAdmin actor = true
  · rw [if_pos hs, mem_liveRoles, hs, Bool.true_or, and_iff_left rfl]
  · rw [if_neg hs, (Bool.not_eq_true _).mp hs, Bool.false_or, List.mem_filter, mem_liveRoles]

end Sql

open Sql

section
variable {db : Db} {actor : AuthoritySnapshot}

theorem Role.protected_of_superAdmin {role : Role} (hc : role.checks = true)
    (h : role.isSuperAdmin = true) : role.isProtected = true := by
  unfold Role.checks at hc
  simp only [Bool.and_eq_true, Bool.or_eq_true, Bool.not_eq_true', h, Bool.true_eq_false,
    false_or, beq_iff_eq] at hc
  exact hc.1.1.1.2.1.1.1.1.2

theorem visibleRole_eq {row : User} {incl : Bool} (role : Role) :
    Db.visibleRole (db.authority incl row) role =
      isAdministrativeRoleVisible (db.authority incl row) (db.roleGrant role) := by
  unfold Db.visibleRole isAdministrativeRoleVisible
  rw [actorIsSuperAdmin_eq]
  show (_ || (_ && !role.isProtected && !role.isSuperAdmin)) = _
  by_cases hs : (db.authority incl row).isSuperAdmin = true
  · rw [if_pos hs, hs, Bool.true_or]
  · rw [if_neg hs, (Bool.not_eq_true _).mp hs, Bool.false_or, Bool.and_assoc, Bool.and_comm]
    rfl

/-- **what the queries select is what the policy lets a loaded actor see** -/
theorem sql_visibility (order : RowOrder) {actorId : Uuid} {incl : Bool}
    (h : Sql.loadAuthoritySnapshot order db actorId incl = .ok actor) :
    (∀ u, db.liveUser? u.id = some u → ∃ target,
      Sql.loadAuthoritySnapshot order db u.id false = .ok target ∧
        (u ∈ selectVisibleUsers db actor ↔ isAdministrativeUserVisible actor target = true)) ∧
    ∀ role, db.liveRole? role.id = some role → ∃ grant,
      db.loadRoleGrant role.id true false = .ok grant ∧
        (role ∈ selectVisibleRoles db actor ↔ isAdministrativeRoleVisible actor grant = true) := by
  rw [loadAuthoritySnapshot_eq] at h
  obtain ⟨row, -, rfl⟩ := Db.loadAuthoritySnapshot_ok.mp h
  constructor
  · intro u hu
    refine ⟨db.authority false u, ?_, ?_⟩
    · rw [loadAuthoritySnapshot_eq]
      exact Db.loadAuthoritySnapshot_ok.mpr ⟨u, hu, rfl⟩
    · rw [mem_selectVisibleUsers, visibleUser_eq, and_iff_right hu]
  · intro role hr
    refine ⟨db.roleGrant role, ?_, ?_⟩
    · unfold Db.loadRoleGrant
      rw [if_neg Bool.false_ne_true, hr]
      rfl
    · rw [mem_selectVisibleRoles, visibleRole_eq, and_iff_right hr]

def insertionOrder : RowOrder := ⟨id, fun _ => List.Perm.refl _⟩

/-- an administrator sees a user whose only other role is disabled, and not the super administrator -/
theorem sql_visibility_shadowed : ∃ actor user superAdmin,
    Sql.loadAuthoritySnapshot insertionOrder shadowed.db bob false = .ok actor ∧
      shadowed.db.liveUser? carol = some user ∧ shadowed.db.liveUser? alice = some superAdmin ∧
      user ∈ selectVisibleUsers shadowed.db actor ∧
      superAdmin ∉ selectVisibleUsers shadowed.db actor := by
  have hbob : (shadowed.db.liveUser? bob).isSome = true := by decide +kernel
  have hcarol : (shadowed.db.liveUser? carol).isSome = true := by decide +kernel
  have halice : (shadowed.db.liveUser? alice).isSome = true := by decide +kernel
  have hseen : ((shadowed.db.liveUser? bob).bind fun b => (shadowed.db.liveUser? carol).map fun c =>
      isAdministrativeUserVisible (shadowed.db.authority false b) (shadowed.db.authority false c)) =
        some true := by decide +kernel
  have hunseen : ((shadowed.db.liveUser? bob).bind fun b => (shadowed.db.liveUser? alice).map fun a =>
      isAdministrativeUserVisible (shadowed.db.authority false b) (shadowed.db.authority false a)) =
        some false := by decide +kernel
  obtain ⟨b, hb⟩ := Option.isSome_iff_exists.mp hbob
  obtain ⟨c, hc⟩ := Option.isSome_iff_exists.mp hcarol
  obtain ⟨a, ha⟩ := Option.isSome_iff_exists.mp halice
  rw [hb, hc] at hseen
  rw [hb, ha] at hunseen
  have hload : Sql.loadAuthoritySnapshot insertionOrder shadowed.db bob false =
      .ok (shadowed.db.authority false b) := by
    rw [loadAuthoritySnapshot_eq]
    exact Db.loadAuthoritySnapshot_ok.mpr ⟨b, hb, rfl⟩
  have h := (sql_visibility insertionOrder hload).1
  have htarget : ∀ {u target : _}, shadowed.db.liveUser? u.id = some u →
      Sql.loadAuthoritySnapshot insertionOrder shadowed.db u.id false = .ok target →
      target = shadowed.db.authority false u := by
    intro u target hu ht
    rw [loadAuthoritySnapshot_eq] at ht
    obtain ⟨x, hx, rfl⟩ := Db.loadAuthoritySnapshot_ok.mp ht
    rw [hu] at hx
    rw [Option.some.inj hx]
  have hcid : shadowed.db.liveUser? c.id = some c := Db.id_of_liveUser? hc ▸ hc
  have haid : shadowed.db.liveUser? a.id = some a := Db.id_of_liveUser? ha ▸ ha
  obtain ⟨target, ht, hiff⟩ := h c hcid
  obtain ⟨target', ht', hiff'⟩ := h a haid
  rw [htarget hcid ht] at hiff
  rw [htarget haid ht'] at hiff'
  refine ⟨_, c, a, hload, hc, ha, hiff.mpr (Option.some.inj hseen), ?_⟩
  intro hmem
  exact Bool.false_ne_true ((Option.some.inj hunseen).symm.trans (hiff'.mp hmem))

/-! ## the response about a visible user -/

/-- **nothing that is effective is hidden from an actor who sees the user** -/
theorem visible_active {u : User} (hu : db.visibleUser actor u = true) {role : Role}
    (hr : role ∈ db.assignedRoles u.id false) : Db.visibleRole actor role = true := by
  obtain ⟨hl, hlive, hactive⟩ := Db.mem_assignedRoles.mp hr
  unfold Db.visibleUser at hu
  unfold Db.visibleRole
  by_cases hs : actorIsSuperAdmin actor = true
  · rw [hs, Bool.true_or]
  · rw [(Bool.not_eq_true _).mp hs, Bool.false_or] at hu ⊢
    rw [activeUserAuthority_tier, activeUserAuthority_protected] at hu
    simp only [Bool.and_eq_true, decide_eq_true_eq, Bool.not_eq_true'] at hu
    obtain ⟨⟨-, hprotected⟩, htier⟩ := hu
    have hgrant : db.roleGrant role ∈ (db.assignedRoles u.id false).map db.roleGrant :=
      List.mem_map_of_mem hr
    have hlow : role.managementTier < actor.managementTier :=
      Nat.lt_of_le_of_lt (le_maxTier hgrant) htier
    have hp : role.isProtected = false := by
      rw [List.any_eq_false] at hprotected
      exact (Bool.not_eq_true _).mp (hprotected _ hgrant)
    have hsuper : role.isSuperAdmin = false := by
      by_contra h
      have hflag := Role.protected_of_superAdmin (Db.checks_of_liveRole? hlive)
        ((Bool.not_eq_false _).mp h)
      rw [hp] at hflag
      cases hflag
    rw [decide_eq_true hlow, hp, hsuper]
    rfl

theorem view_authority {u : User} (hu : db.visibleUser actor u = true) :
    (db.loadUserAccessView u actor).authority = db.authority false u := by
  unfold Db.loadUserAccessView Db.authority Db.roleGrantsForUser
  dsimp only
  have hfilter : ((db.assignedRoles u.id true).filter (Db.visibleRole actor)).filter Role.isActive =
      db.assignedRoles u.id false := by
    have hactive : db.assignedRoles u.id false = (db.assignedRoles u.id true).filter Role.isActive := by
      unfold Db.assignedRoles
      rw [List.filter_filter]
      apply List.filter_congr
      intro role _
      simp
    rw [List.filter_comm, ← hactive]
    exact List.filter_eq_self.mpr fun role hr => visible_active hu hr
  rw [hfilter]

theorem lookup_shown {α : Type} {f : User → α} {users : List User}
    (hlive : ∀ x ∈ users, db.liveUser? x.id = some x) {u : User} (hu : u ∈ users) :
    (users.map fun x => (x.id, f x)).lookup u.id = some (f u) := by
  induction users with
  | nil => cases hu
  | cons x xs ih =>
    rw [List.map_cons, List.lookup_cons]
    by_cases he : u.id = x.id
    · have hx := hlive x List.mem_cons_self
      rw [← he, hlive u hu] at hx
      rw [Option.some.inj hx, beq_self_eq_true]
    · have hxs : u ∈ xs := by
        rcases List.mem_cons.mp hu with rfl | h
        · exact absurd rfl he
        · exact h
      rw [beq_eq_false_iff_ne.mpr he]
      exact ih (fun y hy => hlive y (List.mem_cons_of_mem _ hy)) hxs

/-- **the response about a user that the actor sees is complete**: its effective part is that of the
full snapshot, its assigned roles are the visible ones among the live assignments -/
theorem response_complete (order : RowOrder) {users : List User}
    (hshown : ∀ x ∈ users, x ∈ selectVisibleUsers db actor) {u : User} (hu : u ∈ users) :
    ∃ view snapshot,
      (Sql.loadUserAccessViews order db users actor).lookup u.id = some view ∧
      Sql.loadAuthoritySnapshot order db u.id false = .ok snapshot ∧
      (userResponse view).effectiveRoleIds = snapshot.roles.map RoleGrant.roleId ∧
      (userResponse view).effectivePermissions = snapshot.permissions ∧
      (userResponse view).effectiveManagementTier = snapshot.managementTier ∧
      (userResponse view).authzVersion = snapshot.authzVersion ∧
      (userResponse view).assignedRoleIds.Nodup ∧
      ∀ roleId, roleId ∈ (userResponse view).assignedRoleIds ↔ db.userRoles.Linked u.id roleId ∧
        ∃ role, db.liveRole? roleId = some role ∧ role ∈ selectVisibleRoles db actor := by
  obtain ⟨hlive, hvisible⟩ := mem_selectVisibleUsers.mp (hshown u hu)
  have hauthority := view_authority hvisible
  refine ⟨db.loadUserAccessView u actor, db.authority false u, ?_, ?_, ?_, ?_, ?_, ?_, ?_, ?_⟩
  · rw [loadUserAccessViews_eq]
    exact lookup_shown (fun x hx => (mem_selectVisibleUsers.mp (hshown x hx)).1) hu
  · rw [loadAuthoritySnapshot_eq]
    exact Db.loadAuthoritySnapshot_ok.mpr ⟨u, hlive, rfl⟩
  · show (db.loadUserAccessView u actor).authority.roles.map _ = _
    rw [hauthority]
  · show (db.loadUserAccessView u actor).authority.permissions = _
    rw [hauthority]
  · show (db.loadUserAccessView u actor).authority.managementTier = _
    rw [hauthority]
  · show (db.loadUserAccessView u actor).authority.authzVersion = _
    rw [hauthority]
  · have hall := nodup_roleGrantsForUser db u.id true
    unfold roleIds Db.roleGrantsForUser at hall
    rw [List.map_map] at hall
    exact nodup_sortIds (hall.sublist (List.filter_sublist.map Role.id))
  · intro roleId
    show roleId ∈ sortIds (((db.assignedRoles u.id true).filter (Db.visibleRole actor)).map Role.id) ↔ _
    rw [mem_sortIds, List.mem_map]
    constructor
    · intro h
      obtain ⟨role, hrole, rfl⟩ := h
      obtain ⟨hl, hr, hp⟩ := mem_visibleRoles.mp hrole
      exact ⟨hl, role, hr, mem_selectVisibleRoles.mpr ⟨hr, hp⟩⟩
    · intro h
      obtain ⟨hl, role, hr, hselected⟩ := h
      have hid : role.id = roleId := Db.id_of_liveRole? hr
      rw [← hid] at hl hr
      exact ⟨role, mem_visibleRoles.mpr ⟨hl, hr, (mem_selectVisibleRoles.mp hselected).2⟩, hid⟩

/-- an administrator reads the user whose only other role is disabled: the response is complete -/
theorem response_complete_shadowed : ∃ actor user view snapshot,
    user ∈ selectVisibleUsers shadowed.db actor ∧
      (Sql.loadUserAccessViews insertionOrder shadowed.db [user] actor).lookup user.id = some view ∧
      Sql.loadAuthoritySnapshot insertionOrder shadowed.db user.id false = .ok snapshot ∧
      (userResponse view).effectivePermissions = snapshot.permissions := by
  have hbob : (shadowed.db.liveUser? bob).isSome = true := by decide +kernel
  have hcarol : (shadowed.db.liveUser? carol).isSome = true := by decide +kernel
  have hseen : ((shadowed.db.liveUser? bob).bind fun b => (shadowed.db.liveUser? carol).map fun c =>
      shadowed.db.visibleUser (shadowed.db.authority false b) c) = some true := by decide +kernel
  obtain ⟨b, hb⟩ := Option.isSome_iff_exists.mp hbob
  obtain ⟨c, hc⟩ := Option.isSome_iff_exists.mp hcarol
  rw [hb, hc] at hseen
  have hcid : shadowed.db.liveUser? c.id = some c := Db.id_of_liveUser? hc ▸ hc
  have hmem : c ∈ selectVisibleUsers shadowed.db (shadowed.db.authority false b) :=
    mem_selectVisibleUsers.mpr ⟨hcid, Option.some.inj hseen⟩
  have hall : ∀ x ∈ [c], x ∈ selectVisibleUsers shadowed.db (shadowed.db.authority false b) := by
    intro x hx
    rw [List.mem_singleton.mp hx]
    exact hmem
  obtain ⟨view, snapshot, hv, hs, -, hp, -⟩ :=
    response_complete insertionOrder hall (List.mem_singleton.mpr rfl)
  exact ⟨_, c, view, snapshot, hmem, hv, hs, hp⟩

end

end PgRbac
