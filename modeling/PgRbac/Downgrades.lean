import PgRbac.Upgradable

/-!
# Going back to revision 0001, and up again

A downgrade of a store that the application has reached does not fail, and what it leaves can be
upgraded again.  What is lost on the way is what revision 0001 has no column or no row for.

* `Catalogued`              the catalog of permissions and the foreign key of grants, along every run;
* `Reset`, `Reverted`       what the statements of the two revisions leave;
* `Reverted.fit`, `Reverted.seedable`    what was reverted can be upgraded;
* `downgrade_reachable`     the round trip.
-/

set_option linter.unusedVariables false

namespace PgRbac.Migrations

open Fallible Store Trace

/-! ## the catalog along a run -/

/-- nothing writes the catalog, and grants refer to it -/
structure Catalogued (db : Db) : Prop where
  permissions : db.permissions = migratedDb.permissions
  foreignKey : ∀ r p, db.rolePermissions.Linked r p → (db.permissions.get? p).isSome

section
variable {lib : PasswordLibrary} {db db' : Db}

theorem Catalogued.frame (hc : Catalogued db) (hp : db'.permissions = db.permissions)
    (hl : ∀ r p, db'.rolePermissions.Linked r p → db.rolePermissions.Linked r p) :
    Catalogued db' where
  permissions := hp.trans hc.permissions
  foreignKey r p h := hp ▸ hc.foreignKey r p (hl r p h)

theorem Catalogued.changeRolePermissions (hc : Catalogued db) {context : AuthorizationContext}
    {roleId : Uuid} {ids : List Uuid} {operation : RoleOperation} {expected now : Nat}
    {outcome : MutationOutcome RoleMutationResponse}
    (h : changeRolePermissionsBody context roleId ids operation expected now db =
      .ok (outcome, db')) : Catalogued db' := by
  obtain ⟨locked, row, keysAfter, -, -, -, -, -, -, -, -, -, -, -,
    rfl | ⟨rolePermissions, roles, users, hw, -, -, rfl⟩⟩ := changeRolePermissionsBody_ok h
  · exact hc
  · cases operation with
    | bind =>
      refine ⟨hc.permissions, ?_⟩
      intro r p hl
      rcases (Links.linked_linkAll? hw r p).mp hl with hold | ⟨-, hp⟩
      · exact hc.foreignKey r p hold
      · obtain ⟨⟨q, k⟩, hq, rfl⟩ := List.mem_map.mp hp
        obtain ⟨-, perm, hperm, -⟩ := mem_loadPermissionKeys.mp (List.mem_of_mem_filter hq)
        exact Option.isSome_iff_exists.mpr ⟨perm, (Option.filter_eq_some_iff.mp hperm).1⟩
    | unbind =>
      have hw' := hw
      unfold WroteRolePermissions at hw'
      subst hw'
      exact hc.frame rfl fun r p hl => ((Links.linked_tombstone _ _ _ _ _).mp hl).1

theorem Catalogued.softDeleteRole (hc : Catalogued db) {context : AuthorizationContext}
    {roleId : Uuid} {expected now : Nat} {outcome : MutationOutcome RoleMutationResponse}
    (h : softDeleteRoleBody context roleId expected now db = .ok (outcome, db')) :
    Catalogued db' := by
  obtain ⟨locked, row, -, -, roles, users, -, -, rfl⟩ := softDeleteRoleBody_ok h
  exact hc.frame rfl fun r p hl => ((Links.linked_tombstone _ _ _ _ _).mp hl).1

theorem Catalogued.newAccount (hc : Catalogued db) {userId : Uuid} {hash name : String} {must : Bool}
    {now : Nat} {role : Role} {users users' : Table User.id User.userName User.checks}
    {userRoles : Links Uuid Uuid}
    (h : NewAccount db userId hash must now name role users users' userRoles db') :
    Catalogued db' := by
  rw [h.result]
  exact hc.frame rfl fun _ _ => id

theorem catalogued_body (hc : Catalogued db) {now : Nat} {op : Operation}
    (h : op.body lib now db = .ok db') : Catalogued db' := by
  cases op with
  | updateUserStatus c t a =>
    obtain ⟨⟨o, _⟩, ho, rfl⟩ := (map_ok _ _ _).mp h
    obtain ⟨-, -, -, ⟨-, rfl⟩ | ⟨-, users, -, rfl⟩⟩ := updateUserStatusBody_ok ho
    · exact hc
    · exact hc.frame rfl fun _ _ => id
  | revokeUserSessions c t =>
    obtain ⟨⟨o, _⟩, ho, rfl⟩ := (map_ok _ _ _).mp h
    obtain ⟨-, -, -, users, -, rfl⟩ := revokeUserSessionsBody_ok ho
    exact hc.frame rfl fun _ _ => id
  | changeUserRoles c t ids o =>
    simp only [Operation.body] at h
    split at h
    · cases h
    · obtain ⟨⟨o, _⟩, ho, rfl⟩ := (map_ok _ _ _).mp h
      obtain ⟨-, -, -, -, rfl | ⟨userRoles, users, -, -, rfl⟩⟩ := changeUserRolesBody_ok ho
      · exact hc
      · exact hc.frame rfl fun _ _ => id
  | createRole c r q =>
    obtain ⟨⟨o, _⟩, ho, rfl⟩ := (map_ok _ _ _).mp h
    obtain ⟨-, -, -, -, -, roles, -, rfl⟩ := createRoleBody_ok ho
    exact hc.frame rfl fun _ _ => id
  | updateRole c r q v =>
    obtain ⟨⟨o, _⟩, ho, rfl⟩ := (map_ok _ _ _).mp h
    obtain ⟨-, -, -, -, rfl | ⟨-, -, roles, -, rfl⟩⟩ := updateRoleBody_ok ho
    · exact hc
    · exact hc.frame rfl fun _ _ => id
  | setRoleActive c r a v =>
    obtain ⟨⟨o, _⟩, ho, rfl⟩ := (map_ok _ _ _).mp h
    obtain ⟨-, -, -, -, rfl | ⟨roles, users, -, -, rfl⟩⟩ := setRoleActiveBody_ok ho
    · exact hc
    · exact hc.frame rfl fun _ _ => id
  | softDeleteRole c r v =>
    obtain ⟨⟨o, _⟩, ho, rfl⟩ := (map_ok _ _ _).mp h
    exact hc.softDeleteRole ho
  | changeRolePermissions c r ids o v =>
    simp only [Operation.body] at h
    split at h
    · cases h
    · obtain ⟨⟨o, _⟩, ho, rfl⟩ := (map_ok _ _ _).mp h
      exact hc.changeRolePermissions ho
  | setRegistrationEnabled c e =>
    obtain ⟨⟨v, _, rows⟩, ho, rfl⟩ := (map_ok _ _ _).mp h
    obtain ⟨state, -, rfl⟩ := setRegistrationEnabledBody_ok ho
    exact hc.frame rfl fun _ _ => id
  | register n hash u q =>
    obtain ⟨⟨v, _, rows⟩, ho, rfl⟩ := (map_ok _ _ _).mp h
    obtain ⟨-, -, name, role, users, users', userRoles, hnew⟩ := registerBody_ok ho
    exact hc.newAccount hnew
  | createUserByAdministrator c n hash u =>
    obtain ⟨⟨v, _, rows⟩, ho, rfl⟩ := (map_ok _ _ _).mp h
    obtain ⟨-, -, name, role, users, users', userRoles, hnew⟩ := createUserByAdministratorBody_ok ho
    exact hc.newAccount hnew
  | lockedLogin p hash t =>
    obtain ⟨⟨v, _⟩, ho, rfl⟩ := (map_ok _ _ _).mp h
    obtain rfl | ⟨hash', users, -, rfl⟩ := lockedLoginBody_ok ho
    · exact hc
    · exact hc.frame rfl fun _ _ => id
  | changePassword c p hash =>
    obtain ⟨⟨v, _, rows⟩, ho, rfl⟩ := (map_ok _ _ _).mp h
    obtain ⟨-, -, users, -, rfl⟩ := changePasswordBody_ok ho
    exact hc.frame rfl fun _ _ => id
  | completePasswordReset p hash q =>
    obtain ⟨⟨v, _, rows⟩, ho, rfl⟩ := (map_ok _ _ _).mp h
    obtain ⟨-, -, -, users, -, rfl⟩ := completePasswordResetBody_ok ho
    exact hc.frame rfl fun _ _ => id
  | resetUserPassword c t pw hash m =>
    obtain ⟨⟨v, _, rows⟩, ho, rfl⟩ := (map_ok _ _ _).mp h
    obtain ⟨-, -, -, -, -, _, users, -, rfl⟩ := resetUserPasswordBody_ok ho
    exact hc.frame rfl fun _ _ => id
  | operatorReset u pw hash q =>
    obtain ⟨⟨v, _, rows⟩, ho, rfl⟩ := (map_ok _ _ _).mp h
    obtain ⟨-, -, -, users, -, rfl⟩ := operatorResetBody_ok ho
    exact hc.frame rfl fun _ _ => id
  | bootstrap u =>
    obtain ⟨⟨v, _, rows⟩, ho, rfl⟩ := (map_ok _ _ _).mp h
    obtain ⟨-, -, -, -, -, -, ⟨rfl, -⟩ | ⟨-, -, userRoles, users, -, -, rfl⟩⟩ := bootstrapBody_ok ho
    · exact hc
    · exact hc.frame rfl fun _ _ => id
  | handover o n =>
    obtain ⟨⟨v, _, rows⟩, ho, rfl⟩ := (map_ok _ _ _).mp h
    obtain ⟨-, -, -, -, -, -, -, -, -, -, -, -, userRoles, users, -, -, rfl⟩ := handoverBody_ok ho
    exact hc.frame rfl fun _ _ => id

theorem reachable_catalogued {s : Postgres} (h : Reachable (system lib) s) : Catalogued s.db := by
  refine h.invariant (P := fun s => Catalogued s.db) ?_ ?_
  · intro s hs
    rw [show s = migrated from hs]
    refine ⟨rfl, ?_⟩
    intro r p hl
    obtain ⟨l, hm, he⟩ := List.mem_map.mp hl
    have hall : ∀ l ∈ seededGrants, (migratedDb.permissions.get? l.right).isSome = true := by
      decide +kernel
    have hp : l.right = p := congrArg Prod.snd he
    exact hp ▸ hall l (List.mem_of_mem_filter hm)
  · intro s c s' hc hst
    rcases step_db hst with he | hb
    · exact he ▸ hc
    · exact catalogued_body hc hb

end

/-! ## what the two revisions drop -/

theorem not_grantsAny {permissions : Permissions} {keys : List PermissionKey} {r p : Uuid} :
    grantsAny permissions keys (r, p) = false ↔
      ∀ perm, permissions.get? p = some perm → ∀ k ∈ keys, perm.key ≠ k.value := by
  unfold grantsAny
  cases hp : permissions.get? p with
  | none =>
    rw [Option.any_none]
    exact ⟨fun _ perm h => (by cases h), fun _ => rfl⟩
  | some perm =>
    rw [Option.any_some, ← Bool.not_eq_true, List.contains_iff_mem, List.mem_map]
    constructor
    · intro hno perm' he k hk hkey
      cases he
      exact hno ⟨k, hk, hkey.symm⟩
    · rintro hall ⟨k, hk, hkey⟩
      exact hall perm rfl k hk hkey.symm

/-- `downgrade` of 0004 -/
structure Reset (db : Db) (mid : RolesDb) (touched : List Uuid) : Prop where
  written : ∀ u, u ∈ touched ↔ (db.liveUser? u).isSome ∧
    holdsResetRole db.roles db.userRoles u = true
  users : ∀ id, mid.users.get? id = (db.users.get? id).map fun u =>
    if u.id ∈ touched then bumpLegacyAuthz.apply (narrowUser u) else narrowUser u
  roles : ∀ id, mid.roles.get? id = (db.roles.get? id).map fun r =>
    if isResetRole r then Role.bumpVersion.apply r else r
  permissions : ∀ id p, mid.permissions.get? id = some p ↔
    db.permissions.get? id = some p ∧ p.key ≠ PermissionKey.usersPasswordReset.value
  grants : ∀ r p, mid.rolePermissions.Linked r p ↔ db.rolePermissions.Linked r p ∧
    ∀ perm, db.permissions.get? p = some perm → perm.key ≠ PermissionKey.usersPasswordReset.value
  userRoles : mid.userRoles = db.userRoles
  epoch : mid.epoch = db.rbacState.epoch + 1

theorem checks_bumpLegacyAuthz (u : LegacyUser) (h : u.checks = true) :
    (bumpLegacyAuthz.apply u).checks = true := h

theorem get?_narrowUsers (users : Table User.id User.userName User.checks) (id : Uuid) :
    (narrowUsers users).get? id = (users.get? id).map narrowUser :=
  Table.get?_of_rows rfl (fun _ => rfl) id

theorem downgrade0004_isOk (db : Db) : ∃ made, downgrade0004 db = .ok made := by
  obtain ⟨users, husers⟩ := Table.update?_isOk (t := narrowUsers db.users)
    (p := fun u => ((((narrowUsers db.users).rows.filter LegacyUser.isLive).map LegacyUser.id).filter
      (holdsResetRole db.roles db.userRoles)).contains u.id) (f := bumpLegacyAuthz)
    fun u hu _ => checks_bumpLegacyAuthz u ((narrowUsers db.users).checked u hu)
  obtain ⟨roles, hroles⟩ := Table.update?_isOk (t := db.roles) (p := isResetRole)
    (f := Role.bumpVersion) fun r hr _ => checks_bumpVersion r (db.roles.checked r hr)
  unfold downgrade0004
  simp only [bind_ok, orViolation_ok, pure_ok]
  exact ⟨_, users, husers, roles, hroles, rfl⟩

theorem reset_downgrade0004 {db : Db} {mid : RolesDb} {touched : List Uuid}
    (h : downgrade0004 db = .ok (mid, touched)) : Reset db mid touched := by
  unfold downgrade0004 at h
  simp only [bind_ok, orViolation_ok, pure_ok, Prod.mk.injEq] at h
  obtain ⟨users, husers, roles, hroles, rfl, rfl⟩ := h
  refine ⟨?_, ?_, ?_, ?_, ?_, rfl, rfl⟩
  · intro u
    have hlive : u ∈ ((narrowUsers db.users).rows.filter LegacyUser.isLive).map LegacyUser.id ↔
        (db.liveUser? u).isSome := by
      rw [List.mem_map, Option.isSome_iff_exists]
      simp only [List.mem_filter, Table.mem_rows_iff, get?_narrowUsers, Option.map_eq_some_iff,
        Db.liveUser?_eq_some]
      constructor
      · rintro ⟨_, ⟨⟨user, hu, rfl⟩, hlive⟩, rfl⟩
        exact ⟨user, hu, Option.isNone_iff_eq_none.mp hlive⟩
      · rintro ⟨user, hu, hdel⟩
        have hid : user.id = u := Table.key_of_get? hu
        refine ⟨narrowUser user, ⟨⟨user, ?_, rfl⟩, Option.isNone_iff_eq_none.mpr hdel⟩, hid⟩
        show db.users.get? user.id = some user
        rw [hid]
        exact hu
    rw [List.mem_filter]
    exact and_congr_left fun _ => hlive
  · intro id
    refine (Table.get?_update? husers id).trans ?_
    rw [get?_narrowUsers, Option.map_map]
    congr 1
    funext u
    simp only [Function.comp_apply, Patch.on, List.contains_iff_mem]
    rfl
  · exact Table.get?_update? hroles
  · intro id p
    refine (congrArg (· = some p) (Table.get?_remove id)).to_iff.trans ?_
    rw [Option.filter_eq_some_iff, Bool.not_eq_true', beq_eq_false_iff_ne]
  · intro r p
    refine (Links.linked_remove _ _ _ _).trans (and_congr_right fun _ => ?_)
    rw [not_grantsAny]
    simp only [List.mem_singleton, forall_eq]

theorem get?_narrowRoles (roles : Table Role.id Role.key narrowedChecks) (id : Uuid) :
    (narrowRoles roles).get? id = (roles.get? id).map narrowRole :=
  Table.get?_of_rows rfl (fun _ => rfl) id

/-- `downgrade` of 0002 -/
structure Dropped (mid : RolesDb) (back : LegacyTables) : Prop where
  users : back.users = mid.users
  roles : ∀ id r, back.roles.get? id = some r ↔
    ∃ role, mid.roles.get? id = some role ∧ hasSystemKey role = false ∧ r = narrowRole role
  permissions : ∀ id p, back.permissions.get? id = some p ↔
    mid.permissions.get? id = some p ∧ ∀ k ∈ newPermissions, p.key ≠ k.value
  grants : ∀ r p, back.rolePermissions.Linked r p ↔ mid.rolePermissions.Linked r p ∧
    (∀ role, mid.roles.get? r = some role → hasSystemKey role = false) ∧
    ∀ perm, mid.permissions.get? p = some perm → ∀ k ∈ newPermissions, perm.key ≠ k.value
  assignments : ∀ u r, back.userRoles.Linked u r ↔ mid.userRoles.Linked u r ∧
    ∀ role, mid.roles.get? r = some role → hasSystemKey role = false
  epoch : back.epoch = mid.epoch

theorem downgrade0002_isOk {mid : RolesDb}
    (h : ∀ r ∈ mid.roles.rows, hasSystemKey r = false → narrowedChecks r = true) :
    ∃ back, downgrade0002 mid = .ok back := by
  have hchecked : ∀ r ∈ (mid.roles.remove hasSystemKey).rows, narrowedChecks r = true := by
    intro r hr
    obtain ⟨hm, hkey⟩ := List.mem_filter.mp hr
    exact h r hm ((Bool.not_eq_true' _).mp hkey)
  have hkept : ∃ kept : Table Role.id Role.key narrowedChecks,
      (mid.roles.remove hasSystemKey).recheck? = .ok kept := ⟨_, dif_pos hchecked⟩
  obtain ⟨kept, hkept⟩ := hkept
  unfold downgrade0002
  simp only [bind_ok, orViolation_ok, pure_ok]
  exact ⟨_, kept, hkept, rfl⟩

theorem any_eq_false {α : Type} {o : Option α} {f : α → Bool} :
    o.any f = false ↔ ∀ a, o = some a → f a = false := by
  cases o with
  | none => exact ⟨fun _ a h => (by cases h), fun _ => rfl⟩
  | some a => exact ⟨fun h b hb => Option.some.inj hb ▸ h, fun h => h a rfl⟩

theorem dropped_downgrade0002 {mid : RolesDb} {back : LegacyTables}
    (h : downgrade0002 mid = .ok back) : Dropped mid back := by
  unfold downgrade0002 at h
  simp only [bind_ok, orViolation_ok, pure_ok] at h
  obtain ⟨kept, hkept, rfl⟩ := h
  refine ⟨rfl, ?_, ?_, ?_, ?_, rfl⟩
  · intro id r
    refine (congrArg (· = some r) (get?_narrowRoles kept id)).to_iff.trans ?_
    rw [Table.get?_recheck? hkept, Table.get?_remove, Option.map_eq_some_iff]
    simp only [Option.filter_eq_some_iff, Bool.not_eq_true']
    constructor
    · rintro ⟨role, ⟨hrole, hkey⟩, rfl⟩
      exact ⟨role, hrole, hkey, rfl⟩
    · rintro ⟨role, hrole, hkey, rfl⟩
      exact ⟨role, ⟨hrole, hkey⟩, rfl⟩
  · intro id p
    refine (congrArg (· = some p) (Table.get?_remove id)).to_iff.trans ?_
    rw [Option.filter_eq_some_iff]
    refine and_congr_right fun _ => ?_
    rw [Bool.not_eq_true', ← Bool.not_eq_true, List.contains_iff_mem, List.mem_map]
    constructor
    · rintro hno k hk hkey
      exact hno ⟨k, hk, hkey.symm⟩
    · rintro hall ⟨k, hk, hkey⟩
      exact hall k hk hkey.symm
  · intro r p
    refine (Links.linked_remove _ _ _ _).trans ?_
    rw [Links.linked_remove, not_grantsAny, any_eq_false, and_assoc]
  · intro u r
    refine (Links.linked_remove _ _ _ _).trans ?_
    rw [any_eq_false]

/-! ## what is left of a store -/

/-- what a downgrade keeps -/
structure Reverted (db : Db) (back : LegacyTables) : Prop where
  users : ∀ id, back.users.get? id = (db.users.get? id).map fun u =>
    { narrowUser u with authzVersion := u.authzVersion +
        if (db.liveUser? id).isSome ∧ holdsResetRole db.roles db.userRoles id = true then 1 else 0 }
  roles : ∀ id r, back.roles.get? id = some r ↔
    (∀ k, id ≠ systemRoleId k) ∧ ∃ role, db.roles.get? id = some role ∧ r = narrowRole role
  permissions : ∀ id p, back.permissions.get? id = some p ↔
    db.permissions.get? id = some p ∧ ∀ k ∈ restoredKeys, p.key ≠ k.value
  grants : ∀ r p, back.rolePermissions.Linked r p ↔ db.rolePermissions.Linked r p ∧
    (∀ k, r ≠ systemRoleId k) ∧
    ∀ perm, db.permissions.get? p = some perm → ∀ k ∈ restoredKeys, perm.key ≠ k.value
  assignments : ∀ u r, back.userRoles.Linked u r ↔
    db.userRoles.Linked u r ∧ ∀ k, r ≠ systemRoleId k
  epoch : back.epoch = db.rbacState.epoch + 1

section
variable {db : Db} {mid : RolesDb} {back : LegacyTables} {touched : List Uuid}

theorem forall_restoredKeys {P : PermissionKey → Prop} :
    (∀ k ∈ restoredKeys, P k) ↔ P .usersPasswordReset ∧ ∀ k ∈ newPermissions, P k := by
  unfold restoredKeys
  rw [List.forall_mem_append, and_comm]
  simp only [List.mem_singleton, forall_eq]

theorem hasSystemKey_iff {r : Role} : hasSystemKey r = true ↔ ∃ k : SystemRoleKey, r.key = k.value := by
  unfold hasSystemKey systemRoleKeys
  rw [List.contains_iff_mem]
  simp only [List.mem_cons, List.not_mem_nil, or_false]
  constructor
  · rintro (h | h | h)
    · exact ⟨_, h⟩
    · exact ⟨_, h⟩
    · exact ⟨_, h⟩
  · rintro ⟨k, h⟩
    cases k with
    | superAdmin => exact Or.inl h
    | admin => exact Or.inr (Or.inl h)
    | user => exact Or.inr (Or.inr h)

theorem systemKey_of_get? (hc : Coherent db) {id : Uuid} {role : Role}
    (h : db.roles.get? id = some role) : hasSystemKey role = true ↔ ∃ k, id = systemRoleId k := by
  rw [hasSystemKey_iff]
  constructor
  · rintro ⟨k, hkey⟩
    obtain ⟨r, hr, hid, hk, -⟩ := hc.systemRole k
    have hsame : role = r :=
      Table.uniq_inj h (Db.liveRole?_eq_some.mp hr).1 (hkey.trans hk.symm)
    exact ⟨k, (Table.key_of_get? h).symm.trans (hsame ▸ hid)⟩
  · rintro ⟨k, rfl⟩
    obtain ⟨r, hr, -, hk, -⟩ := hc.systemRole k
    rw [(Db.liveRole?_eq_some.mp hr).1, Option.some.injEq] at h
    exact ⟨k, h ▸ hk⟩

theorem isResetRole_systemKey {r : Role} (h : hasSystemKey r = false) : isResetRole r = false := by
  rw [← Bool.not_eq_true] at h ⊢
  intro hreset
  unfold isResetRole at hreset
  simp only [Bool.and_eq_true, List.contains_iff_mem] at hreset
  refine h (hasSystemKey_iff.mpr ?_)
  rcases List.mem_cons.mp hreset.1.1 with hkey | hkey
  · exact ⟨.admin, hkey⟩
  · exact ⟨.superAdmin, List.mem_singleton.mp hkey⟩

theorem hasSystemKey_bump (r : Role) :
    hasSystemKey (if isResetRole r then Role.bumpVersion.apply r else r) = hasSystemKey r := by
  split <;> rfl

theorem Reset.noSystemKey_iff (hc : Coherent db) (hr : Reset db mid touched) (r : Uuid) :
    (∀ role, mid.roles.get? r = some role → hasSystemKey role = false) ↔
      ∀ k, r ≠ systemRoleId k := by
  have hget := hr.roles r
  constructor
  · rintro hno k rfl
    obtain ⟨role, hrole, -⟩ := hc.systemRole k
    have h := (Db.liveRole?_eq_some.mp hrole).1
    rw [h] at hget
    have hkey := hno _ hget
    rw [hasSystemKey_bump, (systemKey_of_get? hc h).mpr ⟨k, rfl⟩] at hkey
    cases hkey
  · intro hne role hrole
    rw [hget, Option.map_eq_some_iff] at hrole
    obtain ⟨before, hbefore, rfl⟩ := hrole
    rw [hasSystemKey_bump, ← Bool.not_eq_true, systemKey_of_get? hc hbefore]
    rintro ⟨k, hk⟩
    exact hne k hk

theorem Dropped.reverted (hc : Coherent db) (hr : Reset db mid touched) (hd : Dropped mid back) :
    Reverted db back where
  users id := by
    rw [hd.users, hr.users]
    cases hu : db.users.get? id with
    | none => rfl
    | some u =>
      have hid : u.id = id := Table.key_of_get? hu
      rw [Option.map_some, Option.map_some, hid]
      by_cases hm : id ∈ touched
      · rw [if_pos hm, if_pos ((hr.written id).mp hm)]
        rfl
      · rw [if_neg hm, if_neg fun h => hm ((hr.written id).mpr h)]
        rfl
  roles id r := by
    rw [hd.roles, hr.roles]
    constructor
    · rintro ⟨role, hrole, hkey, rfl⟩
      obtain ⟨before, hbefore, rfl⟩ := Option.map_eq_some_iff.mp hrole
      rw [hasSystemKey_bump] at hkey
      refine ⟨fun k hk => ?_, before, hbefore, ?_⟩
      · rw [(systemKey_of_get? hc hbefore).mpr ⟨k, hk⟩] at hkey
        cases hkey
      · rw [isResetRole_systemKey hkey]
        rfl
    · rintro ⟨hne, role, hrole, rfl⟩
      have hkey : hasSystemKey role = false := by
        rw [← Bool.not_eq_true, systemKey_of_get? hc hrole]
        rintro ⟨k, hk⟩
        exact hne k hk
      refine ⟨role, ?_, hkey, rfl⟩
      rw [hrole, Option.map_some, isResetRole_systemKey hkey]
      rfl
  permissions id p := by
    rw [hd.permissions, hr.permissions, forall_restoredKeys, and_assoc]
  grants r p := by
    rw [hd.grants, hr.grants, hr.noSystemKey_iff hc]
    constructor
    · rintro ⟨⟨hl, hreset⟩, hne, hnew⟩
      refine ⟨hl, hne, fun perm hperm => forall_restoredKeys.mpr ⟨hreset perm hperm, ?_⟩⟩
      exact hnew perm ((hr.permissions p perm).mpr ⟨hperm, hreset perm hperm⟩)
    · rintro ⟨hl, hne, hall⟩
      refine ⟨⟨hl, fun perm hperm => (forall_restoredKeys.mp (hall perm hperm)).1⟩, hne, ?_⟩
      intro perm hperm
      exact (forall_restoredKeys.mp (hall perm ((hr.permissions p perm).mp hperm).1)).2
  assignments u r := by
    rw [hd.assignments, hr.userRoles, hr.noSystemKey_iff hc]
  epoch := by
    rw [hd.epoch, hr.epoch]

theorem Reverted.custom (hc : Coherent db) (hv : Reverted db back) {id : Uuid} {r : LegacyRole}
    (h : back.roles.get? id = some r) : ∃ role, db.roles.get? id = some role ∧ r = narrowRole role ∧
      role.isSystem = false := by
  obtain ⟨hne, role, hrole, rfl⟩ := (hv.roles id r).mp h
  refine ⟨role, hrole, rfl, ?_⟩
  rw [← Bool.not_eq_true]
  intro hsys
  obtain ⟨k, hk⟩ := hc.systemIds id role hrole hsys
  exact hne k hk

theorem Reverted.legacy (hc : Coherent db) (hcat : Catalogued db) (hv : Reverted db back) :
    ∃ old : LegacyDb, old.toLegacyTables = back := by
  have hrole : ∀ r, (db.liveRole? r).isSome → (∀ k, r ≠ systemRoleId k) →
      (back.roles.get? r).isSome := by
    intro r hlive hne
    obtain ⟨role, hr⟩ := Option.isSome_iff_exists.mp hlive
    exact Option.isSome_iff_exists.mpr
      ⟨_, (hv.roles r _).mpr ⟨hne, role, (Db.liveRole?_eq_some.mp hr).1, rfl⟩⟩
  refine ⟨{ toLegacyTables := back, singleSuperAdmin := ?_, granted := ?_, assigned := ?_, limit := ?_ },
    rfl⟩
  · intro r hr _ _ hsuper _
    obtain ⟨role, -, hnarrow, hsys⟩ := hv.custom hc (Table.mem_rows_iff.mp hr)
    have hcustom : r.isSystem = false := hnarrow ▸ hsys
    rw [LegacyRole.not_superAdmin (back.roles.checked r hr) hcustom] at hsuper
    cases hsuper
  · intro r p hl
    obtain ⟨hl', hne, hkeys⟩ := (hv.grants r p).mp hl
    obtain ⟨perm, hperm⟩ := Option.isSome_iff_exists.mp (hcat.foreignKey r p hl')
    exact ⟨hrole r (hc.granted r p hl') hne, Option.isSome_iff_exists.mpr
      ⟨perm, (hv.permissions p perm).mpr ⟨hperm, hkeys perm hperm⟩⟩⟩
  · intro u r hl
    obtain ⟨hl', hne⟩ := (hv.assignments u r).mp hl
    obtain ⟨huser, hlive⟩ := hc.assigned u r hl'
    refine ⟨?_, hrole r hlive hne⟩
    rw [hv.users, Option.isSome_map]
    exact huser
  · intro u
    exact Nat.le_trans (Links.length_rights_le fun r hl => ((hv.assignments u r).mp hl).1) (hc.limit u)

theorem migrated_permission (k : PermissionKey) :
    migratedDb.permissions.get? (permissionId k) = some (seededPermission k) := by
  cases k <;> decide +kernel

theorem Catalogued.live (hcat : Catalogued db) {id : Uuid} {p : Permission}
    (h : db.permissions.get? id = some p) : p.deletedAt = none := by
  rw [hcat.permissions] at h
  obtain ⟨k, -, rfl⟩ := List.mem_map.mp (Table.get?_eq_some.mp h).1
  rfl

section
variable {old : LegacyDb}

theorem Reverted.fit (hc : Coherent db) (hcat : Catalogued db)
    (hv : Reverted db old.toLegacyTables) : Fit old where
  custom r hr := by
    obtain ⟨role, -, hnarrow, hsys⟩ := hv.custom hc (Table.mem_rows_iff.mp hr)
    exact hnarrow ▸ hsys
  grants r p perm hl hperm := by
    obtain ⟨hl', hne, -⟩ := (hv.grants r p).mp hl
    obtain ⟨hperm', -⟩ := (hv.permissions p perm).mp hperm
    obtain ⟨role, hrole⟩ := Option.isSome_iff_exists.mp (hc.granted r p hl')
    obtain ⟨hget, -⟩ := Db.liveRole?_eq_some.mp hrole
    have hsys : role.isSystem = false := by
      rw [← Bool.not_eq_true]
      intro hsys
      obtain ⟨k, hk⟩ := hc.systemIds r role hget hsys
      exact hne k hk
    refine hc.customKeys r role hget hsys (Db.mem_rolePermissionKeys.mpr ⟨p, perm, hl', ?_, rfl⟩)
    exact Option.filter_eq_some_iff.mpr ⟨hperm', Option.isNone_iff_eq_none.mpr (hcat.live hperm')⟩

theorem Reverted.room (hc : Coherent db) (hv : Reverted db back) {u : Uuid}
    (hbase : db.userRoles.Linked u (systemRoleId .user)) :
    (back.userRoles.rights u).length < maxRolesPerUser := by
  have hsub : (systemRoleId .user :: back.userRoles.rights u) ⊆ db.userRoles.rights u := by
    intro r hr
    rcases List.mem_cons.mp hr with rfl | hr
    · exact Links.mem_rights.mpr hbase
    · exact Links.mem_rights.mpr ((hv.assignments u r).mp (Links.mem_rights.mp hr)).1
  have hnodup : (systemRoleId .user :: back.userRoles.rights u).Nodup := by
    refine List.nodup_cons.mpr ⟨fun hm => ?_, Links.rights_nodup _ _⟩
    exact ((hv.assignments u _).mp (Links.mem_rights.mp hm)).2 .user rfl
  have hlen := (hnodup.subperm hsub).length_le
  exact Nat.lt_of_lt_of_le hlen (hc.limit u)

theorem Reverted.seedable (hc : Coherent db) (hcat : Catalogued db)
    (hv : Reverted db old.toLegacyTables) : Seedable old where
  keys k r hr hkey := by
    obtain ⟨hne, role, hrole, rfl⟩ := (hv.roles r.id r).mp (Table.mem_rows_iff.mp hr)
    obtain ⟨k', hk'⟩ := (systemKey_of_get? hc hrole).mp (hasSystemKey_iff.mpr ⟨k, hkey⟩)
    exact hne k' hk'
  ids k := by
    rw [Option.eq_none_iff_forall_ne_some]
    intro r hr
    exact ((hv.roles _ r).mp hr).1 k rfl
  tiers r hr := by
    obtain ⟨role, hrole, hnarrow, hsys⟩ := hv.custom hc (Table.mem_rows_iff.mp hr)
    rw [hnarrow]
    exact (Role.custom_tier (Table.check_of_get? hrole) hsys).1
  addable k hk _ := by
    rw [Option.eq_none_iff_forall_ne_some]
    intro p hp
    obtain ⟨hp', hkeys⟩ := (hv.permissions _ p).mp hp
    rw [hcat.permissions, migrated_permission, Option.some.injEq] at hp'
    exact hkeys k hk (hp' ▸ rfl)
  catalog k hk := by
    refine Option.isSome_iff_exists.mpr ⟨permissionId k, livePermissionId_eq_some.mpr
      ⟨seededPermission k, (hv.permissions _ _).mpr ⟨?_, ?_⟩, rfl, rfl⟩⟩
    · rw [hcat.permissions]
      exact migrated_permission k
    · intro k' hk' hkey
      exact hk (PermissionKey.value_injective hkey ▸ hk')
  room u user hu hlive := by
    refine hv.room hc (hc.baseRole u ?_)
    rw [hv.users, Option.map_eq_some_iff] at hu
    obtain ⟨user', hu', rfl⟩ := hu
    exact Option.isSome_iff_exists.mpr
      ⟨user', Db.liveUser?_eq_some.mpr ⟨hu', Option.isNone_iff_eq_none.mp hlive⟩⟩

end

/-! ## the round trip -/

theorem narrowedChecks_custom {r : Role} (hc : r.checks = true) (hcustom : r.isSystem = false) :
    narrowedChecks r = true := by
  unfold Role.checks at hc
  simp only [Bool.and_eq_true, Bool.or_eq_true, hcustom, Bool.not_eq_true', Bool.false_eq_true,
    false_and, false_or, or_false] at hc
  obtain ⟨⟨⟨⟨⟨⟨⟨⟨⟨⟨hle, htop⟩, -⟩, hprot⟩, -⟩, -⟩, -⟩, hsuper⟩, -⟩, -⟩, -⟩ := hc
  show (narrowRole r).checks = true
  unfold LegacyRole.checks narrowRole
  simp only [hcustom, hprot, hsuper, Bool.and_eq_true, Bool.or_eq_true, Bool.not_false, beq_self_eq_true,
    true_or, and_true]
  exact ⟨hle, htop.imp_right fun h => (hsuper ▸ h)⟩

theorem Reset.baseRole (hc : Coherent db) (hr : Reset db mid touched) (u : Uuid) :
    mid.widen.assertUserHasBaseRole u = .ok () := by
  unfold Db.assertUserHasBaseRole
  rw [require_ok]
  intro hlive
  have hbefore : (db.liveUser? u).isSome := by
    obtain ⟨user, hu⟩ := Option.isSome_iff_exists.mp hlive
    obtain ⟨hget, hdel⟩ := Db.liveUser?_eq_some.mp hu
    rw [get?_widen_users, hr.users, Option.map_map, Option.map_eq_some_iff] at hget
    obtain ⟨user', hu', rfl⟩ := hget
    refine Option.isSome_iff_exists.mpr ⟨user', Db.liveUser?_eq_some.mpr ⟨hu', ?_⟩⟩
    rw [← hdel, Function.comp_apply]
    split <;> rfl
  obtain ⟨role, hrole, -, hkey, -⟩ := hc.systemRole .user
  obtain ⟨hget, hdel⟩ := Db.liveRole?_eq_some.mp hrole
  have hmid : mid.widen.liveRole? (systemRoleId .user) =
      some (if isResetRole role then Role.bumpVersion.apply role else role) := by
    refine Db.liveRole?_eq_some.mpr ⟨(hr.roles _).trans (congrArg _ hget), ?_⟩
    rw [← hdel]
    split <;> rfl
  unfold Db.hasLiveRole
  refine List.any_eq_true.mpr ⟨systemRoleId .user, Links.mem_rights.mpr ?_, ?_⟩
  · show mid.userRoles.Linked u _
    rw [hr.userRoles]
    exact hc.baseRole u hbefore
  · rw [hmid]
    refine beq_iff_eq.mpr ?_
    rw [← show role.key = "user" from hkey]
    split <;> rfl

/-- a downgrade of a coherent store goes through -/
theorem downgrade_isOk (hc : Coherent db) (hcat : Catalogued db) :
    ∃ old : LegacyDb, downgrade db = .ok old.toLegacyTables ∧ Reverted db old.toLegacyTables := by
  obtain ⟨⟨mid, touched⟩, h₁⟩ := downgrade0004_isOk db
  have hr := reset_downgrade0004 h₁
  obtain ⟨back, h₂⟩ : ∃ back, downgrade0002 mid = .ok back := by
    refine downgrade0002_isOk fun r hm hkey => ?_
    have hget := Table.mem_rows_iff.mp hm
    rw [hr.roles, Option.map_eq_some_iff] at hget
    obtain ⟨before, hbefore, he⟩ := hget
    rw [← he, hasSystemKey_bump] at hkey
    rw [isResetRole_systemKey hkey] at he
    have hsame : before = r := he
    have hcustom : before.isSystem = false := by
      rw [← Bool.not_eq_true]
      intro hsys
      obtain ⟨k, hk⟩ := hc.systemIds _ _ hbefore hsys
      rw [(systemKey_of_get? hc hbefore).mpr ⟨k, hk⟩] at hkey
      cases hkey
    exact hsame ▸ narrowedChecks_custom (Table.check_of_get? hbefore) hcustom
  have hv := (dropped_downgrade0002 h₂).reverted hc hr
  obtain ⟨old, rfl⟩ := hv.legacy hc hcat
  refine ⟨old, ?_, hv⟩
  unfold downgrade
  rw [bind_ok]
  refine ⟨_, h₁, ?_⟩
  rw [bind_ok]
  exact ⟨(), (checkAll_ok _ _ _).mpr fun u _ => hr.baseRole hc u, h₂⟩

end

/-- **A store that the application has reached can be taken down to revision 0001 and up again.**
Neither fails.  Down, the three system roles go with their assignments and grants, the permissions of
the two revisions with every grant of them, and the columns; custom roles, their assignments and
their other grants stay.  Up again, every live user has the base role, nobody is an administrator,
deleted roles are back as disabled ones, and the store invariant holds. -/
theorem downgrade_reachable {lib : PasswordLibrary} {s : Postgres} (now : Nat)
    (h : Reachable (system lib) s) : ∃ (old : LegacyDb) (db : Db),
      downgrade s.db = .ok old.toLegacyTables ∧ Reverted s.db old.toLegacyTables ∧
      upgrade now old = .ok db ∧ Preserved old db ∧ StoreInvariant db ∧
      (∀ id role, s.db.roles.get? id = some role → role.isSystem = false →
        db.roles.get? id = some { role with
          description := ""
          deletedAt := none
          deletedByUserId := none }) ∧
      ∀ u r, db.userRoles.Linked u r ↔ ((s.db.userRoles.Linked u r ∧ ∀ k, r ≠ systemRoleId k) ∨
        ((s.db.liveUser? u).isSome ∧ r = systemRoleId .user)) := by
  have hs := reachable_standing h
  have hcat := reachable_catalogued h
  obtain ⟨old, hdown, hv⟩ := downgrade_isOk hs.coherent hcat
  have fit := hv.fit hs.coherent hcat
  obtain ⟨db, hup⟩ := (hv.seedable hs.coherent hcat).upgrade_isOk fit.custom now
  obtain ⟨hstanding, hpre⟩ := standing_upgrade fit hup
  refine ⟨old, db, hdown, hv, hup, hpre, hstanding.storeInvariant, ?_, ?_⟩
  · intro id role hrole hsys
    have hne : ∀ k, id ≠ systemRoleId k := by
      rintro k rfl
      obtain ⟨r, hr, -, -, hsys', -⟩ := hs.coherent.systemRole k
      rw [(Db.liveRole?_eq_some.mp hr).1, Option.some.injEq] at hrole
      rw [← hrole, hsys'] at hsys
      cases hsys
    exact hpre.roles id _ ((hv.roles id _).mpr ⟨hne, role, hrole, rfl⟩)
  · intro u r
    have hlive : (db.liveUser? u).isSome ↔ (s.db.liveUser? u).isSome := by
      simp only [Option.isSome_iff_exists, Db.liveUser?_eq_some, hpre.users, hv.users,
        Option.map_map, Option.map_eq_some_iff, Function.comp_apply]
      constructor
      · rintro ⟨_, ⟨user, hu, rfl⟩, hdel⟩
        exact ⟨user, hu, hdel⟩
      · rintro ⟨user, hu, hdel⟩
        exact ⟨_, ⟨user, hu, rfl⟩, hdel⟩
    rw [hpre.assignments, hv.assignments, hlive]

/-- an administrator is appointed, and everything is taken back -/
theorem downgrade_reachable_installed : ∃ (old : LegacyDb) (db : Db),
    downgrade (states sampleLibrary installed 2).db = .ok old.toLegacyTables ∧
      upgrade 5 old = .ok db ∧ StoreInvariant db := by
  obtain ⟨old, db, hdown, -, hup, -, hinv, -⟩ := downgrade_reachable 5
    ((isRun_states sampleLibrary installed 2).reachable (Nat.le_refl 2))
  exact ⟨old, db, hdown, hup, hinv⟩

end PgRbac.Migrations
