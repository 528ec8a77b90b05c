import PgRbac.System

/-!
# What every committed statement keeps

The standing invariant of the store, as two structures: `Coherent` about roles, grants and
assignments, `SoleHolder` about the super administrator.  This module shows what each KIND of write
keeps; `PgRbac.Invariants` puts the operations on top.

* `Coherent.updateUsers`, `Coherent.assign`, `Coherent.unassign`    writes on users, assignments;
* `Coherent.insertRole`, `Coherent.modifyRole`, `Coherent.retireRole`    writes on roles;
* `Coherent.grant`, `Coherent.revoke`                                writes on grants;
* `Coherent.newAccount`                                              a new user with its base role.
-/

set_option linter.unusedVariables false

namespace PgRbac

open Fallible Store Trace

structure Coherent (db : Db) : Prop where
  /-- the three system roles keep their definition and their grants -/
  system : ∀ k, ∃ role, db.roles.get? (systemRoleId k) = some role ∧
    { role with version := 0 } = seededRole k 0 ∧
    db.rolePermissionKeys (systemRoleId k) = (systemRoleSpecs k).permissions
  systemIds : ∀ id role, db.roles.get? id = some role → role.isSystem = true →
    ∃ k, id = systemRoleId k
  customKeys : ∀ id role, db.roles.get? id = some role → role.isSystem = false →
    db.rolePermissionKeys id ⊆
      superAdminPermissionKeys.erase PermissionKey.registrationConfigure.value
  assigned : ∀ u r, db.userRoles.Linked u r →
    (db.users.get? u).isSome ∧ (db.liveRole? r).isSome
  granted : ∀ r p, db.rolePermissions.Linked r p → (db.liveRole? r).isSome
  baseRole : ∀ u, (db.liveUser? u).isSome → db.userRoles.Linked u (systemRoleId .user)
  limit : ∀ u, (db.userRoles.rights u).length ≤ maxRolesPerUser

/-- at most one live super administrator assignment, and its holder is live and active -/
structure SoleHolder (db : Db) : Prop where
  atMostOne : (db.userRoles.lefts (systemRoleId .superAdmin)).length ≤ 1
  active : ∀ u, db.userRoles.Linked u (systemRoleId .superAdmin) →
    ∃ user, db.liveUser? u = some user ∧ user.isActive = true

variable {db db' : Db}

theorem systemRoleId_injective : Function.Injective systemRoleId := by
  intro k k' h
  cases k <;> cases k' <;> first | rfl | exact absurd h (by decide)

/-! ## reading the system roles off -/

theorem Coherent.systemRole (hc : Coherent db) (k : SystemRoleKey) :
    ∃ role, db.liveRole? (systemRoleId k) = some role ∧ role.id = systemRoleId k ∧
      role.key = k.value ∧ role.isSystem = true ∧ role.isActive = true ∧
      role.isProtected = (systemRoleSpecs k).isProtected ∧
      role.isSuperAdmin = (systemRoleSpecs k).isSuperAdmin ∧
      role.managementTier = (systemRoleSpecs k).managementTier := by
  obtain ⟨role, hr, he, -⟩ := hc.system k
  have h := Role.mk.inj he
  obtain ⟨h1, h2, -, -, h5, h6, h7, h8, h9, -, h11, -⟩ := h
  exact ⟨role, Db.liveRole?_eq_some.mpr ⟨hr, h11⟩, h1, h2, h8, h6, h7, h9, h5⟩

theorem Coherent.findBy? (hc : Coherent db) (k : SystemRoleKey) {role : Role}
    (h : db.roles.findBy? k.value = some role) : role.id = systemRoleId k := by
  obtain ⟨r, hr, hid, hk, -⟩ := hc.systemRole k
  have hfind : db.roles.findBy? k.value = some r :=
    Table.findBy?_iff_get?.mpr ⟨by rw [hid]; exact (Db.liveRole?_eq_some.mp hr).1, hk⟩
  rw [hfind] at h
  cases h
  exact hid

theorem Coherent.findBy?_some (hc : Coherent db) (k : SystemRoleKey) :
    ∃ role, db.roles.findBy? k.value = some role ∧ role.id = systemRoleId k ∧
      db.liveRole? (systemRoleId k) = some role := by
  obtain ⟨r, hr, hid, hk, -⟩ := hc.systemRole k
  exact ⟨r, Table.findBy?_iff_get?.mpr ⟨by rw [hid]; exact (Db.liveRole?_eq_some.mp hr).1, hk⟩,
    hid, hr⟩

theorem Coherent.ne_systemRoleId (hc : Coherent db) {k : SystemRoleKey} {id : Uuid} {role : Role}
    (h : db.liveRole? id = some role) (hk : role.key ≠ k.value) : id ≠ systemRoleId k := by
  intro e
  subst e
  obtain ⟨r, hr, -, hkey, -⟩ := hc.systemRole k
  rw [hr] at h
  cases h
  exact hk hkey

theorem Coherent.custom_ne (hc : Coherent db) {id : Uuid} {role : Role}
    (h : db.liveRole? id = some role) (hs : role.isSystem = false) (k : SystemRoleKey) :
    id ≠ systemRoleId k := by
  intro e
  subst e
  obtain ⟨r, hr, -, -, hsys, -⟩ := hc.systemRole k
  rw [hr] at h
  cases h
  rw [hsys] at hs
  cases hs

theorem rolePermissionKeys_congr {id : Uuid} (hp : db'.permissions = db.permissions)
    (hl : ∀ p, db'.rolePermissions.Linked id p ↔ db.rolePermissions.Linked id p) :
    db'.rolePermissionKeys id = db.rolePermissionKeys id := by
  ext k
  rw [Db.mem_rolePermissionKeys, Db.mem_rolePermissionKeys]
  unfold Db.livePermission?
  rw [hp]
  simp only [hl]

/-! ## writes on users and the state row -/

section
variable {p : User → Bool} {f : UserPatch} {users : Table User.id User.userName User.checks}
  {state : RbacState}

theorem liveUser?_update? (ht : db.users.update? p f = .ok users)
    (hdel : ∀ u, (f.apply u).deletedAt = u.deletedAt) (id : Uuid) :
    { db with users := users, rbacState := state }.liveUser? id =
      (db.liveUser? id).map (f.on p).apply := by
  unfold Db.liveUser?
  show (users.get? id).filter _ = _
  rw [Table.get?_update? ht]
  cases hg : db.users.get? id with
  | none => rfl
  | some u =>
    have hd : ((f.on p).apply u).deletedAt = u.deletedAt := by
      unfold Patch.on
      by_cases hp : p u <;> simp [hp, hdel]
    by_cases hu : u.deletedAt = none <;> simp [Option.filter, hd, hu]

theorem liveUser?_modify? {target : Uuid} {f : UserPatch} {row : User}
    {users : Table User.id User.userName User.checks} (ht : db.users.modify? target f = .ok users)
    (he : db'.users = users) (hlive : db.liveUser? target = some row)
    (hdel : (f.apply row).deletedAt = row.deletedAt) :
    db'.liveUser? target = some (f.apply row) := by
  obtain ⟨hget, hd⟩ := Db.liveUser?_eq_some.mp hlive
  refine Db.liveUser?_eq_some.mpr ⟨?_, hdel.trans hd⟩
  rw [he, Table.get?_modify? ht, if_pos rfl, hget]
  rfl

theorem Coherent.updateUsers (hc : Coherent db) (ht : db.users.update? p f = .ok users)
    (hdel : ∀ u, (f.apply u).deletedAt = u.deletedAt) :
    Coherent { db with users := users, rbacState := state } where
  system := hc.system
  systemIds := hc.systemIds
  customKeys := hc.customKeys
  assigned u r hl := by
    obtain ⟨h1, h2⟩ := hc.assigned u r hl
    refine ⟨?_, h2⟩
    show (users.get? u).isSome
    rw [Table.get?_update? ht, Option.isSome_map]
    exact h1
  granted := hc.granted
  baseRole u hu := by
    rw [liveUser?_update? ht hdel, Option.isSome_map] at hu
    exact hc.baseRole u hu
  limit := hc.limit

theorem SoleHolder.updateUsers (hs : SoleHolder db) (ht : db.users.update? p f = .ok users)
    (hdel : ∀ u, (f.apply u).deletedAt = u.deletedAt)
    (hact : ∀ u, db.userRoles.Linked u.id (systemRoleId .superAdmin) → db.liveUser? u.id = some u →
      u.isActive = true → p u = true → (f.apply u).isActive = true) :
    SoleHolder { db with users := users, rbacState := state } where
  atMostOne := hs.atMostOne
  active u hl := by
    obtain ⟨user, hu, ha⟩ := hs.active u hl
    have hid := Db.id_of_liveUser? hu
    refine ⟨(f.on p).apply user, by rw [liveUser?_update? ht hdel, hu]; rfl, ?_⟩
    show (if p user then f.apply user else user).isActive = true
    by_cases hp : p user
    · rw [if_pos hp]
      subst hid
      exact hact user hl hu ha hp
    · rw [if_neg hp]
      exact ha

theorem Coherent.withState (hc : Coherent db) : Coherent { db with rbacState := state } :=
  ⟨hc.system, hc.systemIds, hc.customKeys, hc.assigned, hc.granted, hc.baseRole, hc.limit⟩

theorem SoleHolder.frame (hs : SoleHolder db) (hu : db'.users = db.users)
    (hl : db'.userRoles = db.userRoles) : SoleHolder db' where
  atMostOne := by
    rw [hl]
    exact hs.atMostOne
  active u h := by
    rw [hl] at h
    obtain ⟨user, hlive, ha⟩ := hs.active u h
    refine ⟨user, ?_, ha⟩
    unfold Db.liveUser? at hlive ⊢
    rw [hu]
    exact hlive

end

/-! ## writes on assignments -/

section
variable {userRoles : Links Uuid Uuid} {userId : Uuid} {ids : List Uuid}

theorem Coherent.assign (hc : Coherent db) (hl : db.userRoles.linkAll? userId ids = some userRoles)
    (huser : (db.users.get? userId).isSome) (hroles : ∀ r ∈ ids, (db.liveRole? r).isSome)
    (hlimit : (db.userRoles.rights userId).length + ids.length ≤ maxRolesPerUser) :
    Coherent { db with userRoles := userRoles } where
  system := hc.system
  systemIds := hc.systemIds
  customKeys := hc.customKeys
  assigned u r h := by
    rcases (Links.linked_linkAll? hl u r).mp h with h | ⟨rfl, hr⟩
    · exact hc.assigned u r h
    · exact ⟨huser, hroles r hr⟩
  granted := hc.granted
  baseRole u hu := (Links.linked_linkAll? hl _ _).mpr (Or.inl (hc.baseRole u hu))
  limit u := by
    show (userRoles.rights u).length ≤ _
    rw [Links.rights_linkAll? hl]
    by_cases e : u = userId
    · rw [if_pos e, List.length_append]
      exact hlimit
    · rw [if_neg e]
      exact hc.limit u

theorem SoleHolder.assign (hs : SoleHolder db)
    (hl : db.userRoles.linkAll? userId ids = some userRoles)
    (hroles : systemRoleId .superAdmin ∉ ids) : SoleHolder { db with userRoles := userRoles } := by
  have hlinked : ∀ u, userRoles.Linked u (systemRoleId .superAdmin) ↔
      db.userRoles.Linked u (systemRoleId .superAdmin) := by
    intro u
    rw [Links.linked_linkAll? hl]
    exact ⟨fun h => h.resolve_right (fun h => hroles h.2), Or.inl⟩
  constructor
  · have hlen := List.Subperm.length_le ((userRoles.lefts_nodup _).subperm
      (fun u hu => Links.mem_lefts.mpr ((hlinked u).mp (Links.mem_lefts.mp hu))))
    exact le_trans hlen hs.atMostOne
  · intro u h
    exact hs.active u ((hlinked u).mp h)

theorem Coherent.unassign (hc : Coherent db) (now : Nat) (q : Uuid × Uuid → Bool)
    (hbase : ∀ u, q (u, systemRoleId .user) = false) :
    Coherent { db with userRoles := db.userRoles.tombstone now q } where
  system := hc.system
  systemIds := hc.systemIds
  customKeys := hc.customKeys
  assigned u r h := hc.assigned u r ((Links.linked_tombstone _ _ _ _ _).mp h).1
  granted := hc.granted
  baseRole u hu := (Links.linked_tombstone _ _ _ _ _).mpr ⟨hc.baseRole u hu, hbase u⟩
  limit u := by
    show ((db.userRoles.tombstone now q).rights u).length ≤ _
    rw [Links.rights_tombstone]
    exact le_trans (List.length_filter_le _ _) (hc.limit u)

theorem SoleHolder.unassign (hs : SoleHolder db) (now : Nat) (q : Uuid × Uuid → Bool) :
    SoleHolder { db with userRoles := db.userRoles.tombstone now q } := by
  have hlinked : ∀ u, (db.userRoles.tombstone now q).Linked u (systemRoleId .superAdmin) →
      db.userRoles.Linked u (systemRoleId .superAdmin) :=
    fun u h => ((Links.linked_tombstone _ _ _ _ _).mp h).1
  constructor
  · have hlen := List.Subperm.length_le (((db.userRoles.tombstone now q).lefts_nodup
      (systemRoleId .superAdmin)).subperm
        (fun u hu => Links.mem_lefts.mpr (hlinked u (Links.mem_lefts.mp hu))))
    exact le_trans hlen hs.atMostOne
  · intro u h
    exact hs.active u (hlinked u h)

end

/-! ## writes on roles -/

section
variable {roles : Table Role.id Role.key Role.checks} {id : Uuid}

theorem liveRole?_insert? {role : Role} (ht : db.roles.insert? role = .ok roles)
    (hlive : role.deletedAt = none) (r : Uuid) :
    { db with roles := roles }.liveRole? r =
      if r = role.id then some role else db.liveRole? r := by
  show (roles.get? r).filter _ = _
  rw [Table.get?_insert? ht]
  by_cases e : r = role.id
  · rw [if_pos e, if_pos e]
    simp [Option.filter, hlive]
  · rw [if_neg e, if_neg e]
    rfl

theorem Coherent.insertRole (hc : Coherent db) {role : Role}
    (ht : db.roles.insert? role = .ok roles) (hlive : role.deletedAt = none)
    (hsys : role.isSystem = false) : Coherent { db with roles := roles } := by
  have hfresh : db.roles.get? role.id = none := (Table.rows_insert? ht).2.1
  have hget : ∀ r, { db with roles := roles }.roles.get? r =
      if r = role.id then some role else db.roles.get? r := fun r => Table.get?_insert? ht r
  have hne : ∀ r, (db.liveRole? r).isSome → r ≠ role.id := by
    intro r hr e
    obtain ⟨x, hx⟩ := Option.isSome_iff_exists.mp hr
    rw [e] at hx
    have hsome := (Db.liveRole?_eq_some.mp hx).1
    rw [hfresh] at hsome
    cases hsome
  have hold : ∀ r, (db.liveRole? r).isSome → ({ db with roles := roles }.liveRole? r).isSome := by
    intro r hr
    rw [liveRole?_insert? ht hlive, if_neg (hne r hr)]
    exact hr
  constructor
  · intro k
    obtain ⟨r, hr, he, hk⟩ := hc.system k
    refine ⟨r, ?_, he, hk⟩
    have hn : systemRoleId k ≠ role.id := by
      intro e
      rw [e, hfresh] at hr
      cases hr
    rw [hget, if_neg hn]
    exact hr
  · intro r x hx hs
    rw [hget] at hx
    by_cases e : r = role.id
    · rw [if_pos e] at hx
      cases hx
      rw [hsys] at hs
      cases hs
    · rw [if_neg e] at hx
      exact hc.systemIds r x hx hs
  · intro r x hx hs
    rw [hget] at hx
    by_cases e : r = role.id
    · intro k hk
      obtain ⟨p, -, hl, -⟩ := Db.mem_rolePermissionKeys.mp hk
      exact absurd e (hne r (hc.granted r p hl))
    · rw [if_neg e] at hx
      exact hc.customKeys r x hx hs
  · intro u r hl
    obtain ⟨h1, h2⟩ := hc.assigned u r hl
    exact ⟨h1, hold r h2⟩
  · intro r p hl
    exact hold r (hc.granted r p hl)
  · exact hc.baseRole
  · exact hc.limit

theorem Coherent.modifyRole (hc : Coherent db) {f : RolePatch}
    (ht : db.roles.modify? id f = .ok roles) (hcustom : ∀ k, id ≠ systemRoleId k)
    (hsys : ∀ r, (f.apply r).isSystem = r.isSystem)
    (hdel : (∀ r, (f.apply r).deletedAt = r.deletedAt) ∨
      ((∀ u, ¬ db.userRoles.Linked u id) ∧ ∀ p, ¬ db.rolePermissions.Linked id p)) :
    Coherent { db with roles := roles } := by
  have hget : ∀ r, { db with roles := roles }.roles.get? r =
      if r = id then (db.roles.get? r).map f.apply else db.roles.get? r :=
    fun r => Table.get?_modify? ht r
  have hold : ∀ r, (db.liveRole? r).isSome → (r = id → ∀ x, (f.apply x).deletedAt = x.deletedAt) →
      ({ db with roles := roles }.liveRole? r).isSome := by
    intro r hr hk
    obtain ⟨x, hx⟩ := Option.isSome_iff_exists.mp hr
    obtain ⟨hx, hd⟩ := Db.liveRole?_eq_some.mp hx
    by_cases e : r = id
    · have hlive : { db with roles := roles }.liveRole? r = some (f.apply x) := by
        rw [Db.liveRole?_eq_some, hget, if_pos e, hx, hk e]
        exact ⟨rfl, hd⟩
      rw [hlive]
      rfl
    · have hlive : { db with roles := roles }.liveRole? r = some x := by
        rw [Db.liveRole?_eq_some, hget, if_neg e]
        exact ⟨hx, hd⟩
      rw [hlive]
      rfl
  constructor
  · intro k
    obtain ⟨r, hr, he, hk⟩ := hc.system k
    exact ⟨r, by rw [hget, if_neg (hcustom k).symm]; exact hr, he, hk⟩
  · intro r x hx hs
    rw [hget] at hx
    by_cases e : r = id
    · rw [if_pos e] at hx
      obtain ⟨y, hy, rfl⟩ := Option.map_eq_some_iff.mp hx
      rw [hsys] at hs
      exact hc.systemIds r y hy hs
    · rw [if_neg e] at hx
      exact hc.systemIds r x hx hs
  · intro r x hx hs
    rw [hget] at hx
    by_cases e : r = id
    · rw [if_pos e] at hx
      obtain ⟨y, hy, rfl⟩ := Option.map_eq_some_iff.mp hx
      rw [hsys] at hs
      exact hc.customKeys r y hy hs
    · rw [if_neg e] at hx
      exact hc.customKeys r x hx hs
  · intro u r hl
    obtain ⟨h1, h2⟩ := hc.assigned u r hl
    refine ⟨h1, hold r h2 ?_⟩
    intro e
    subst e
    exact hdel.resolve_right (fun h => h.1 u hl)
  · intro r p hl
    refine hold r (hc.granted r p hl) ?_
    intro e
    subst e
    exact hdel.resolve_right (fun h => h.2 p hl)
  · exact hc.baseRole
  · exact hc.limit

end

/-! ## writes on grants -/

section
variable {rolePermissions : Links Uuid Uuid} {roleId : Uuid} {ids : List Uuid}

theorem Coherent.writeGrants (hc : Coherent db) (hcustom : ∀ k, roleId ≠ systemRoleId k)
    (hother : ∀ r p, r ≠ roleId → (rolePermissions.Linked r p ↔ db.rolePermissions.Linked r p))
    (hlive : ∀ p, rolePermissions.Linked roleId p → (db.liveRole? roleId).isSome)
    (hkeys : ∀ role, db.roles.get? roleId = some role → role.isSystem = false →
      { db with rolePermissions := rolePermissions }.rolePermissionKeys roleId ⊆
        superAdminPermissionKeys.erase PermissionKey.registrationConfigure.value) :
    Coherent { db with rolePermissions := rolePermissions } := by
  have hsame : ∀ r, r ≠ roleId →
      { db with rolePermissions := rolePermissions }.rolePermissionKeys r =
        db.rolePermissionKeys r :=
    fun r hr => rolePermissionKeys_congr rfl (fun p => hother r p hr)
  constructor
  · intro k
    obtain ⟨r, hr, he, hk⟩ := hc.system k
    exact ⟨r, hr, he, by rw [hsame _ (hcustom k).symm]; exact hk⟩
  · exact hc.systemIds
  · intro r x hx hs
    by_cases e : r = roleId
    · subst e
      exact hkeys x hx hs
    · rw [hsame r e]
      exact hc.customKeys r x hx hs
  · exact hc.assigned
  · intro r p hl
    by_cases e : r = roleId
    · subst e
      exact hlive p hl
    · exact hc.granted r p ((hother r p e).mp hl)
  · exact hc.baseRole
  · exact hc.limit

theorem Coherent.grant (hc : Coherent db)
    (hl : db.rolePermissions.linkAll? roleId ids = some rolePermissions)
    (hcustom : ∀ k, roleId ≠ systemRoleId k) (hrole : (db.liveRole? roleId).isSome)
    (hkeys : ∀ p ∈ ids, ∀ perm, db.livePermission? p = some perm → perm.key ∈
      superAdminPermissionKeys.erase PermissionKey.registrationConfigure.value) :
    Coherent { db with rolePermissions := rolePermissions } := by
  apply hc.writeGrants hcustom
  · intro r p hr
    rw [Links.linked_linkAll? hl]
    exact ⟨fun h => h.resolve_right (fun h => hr h.1), Or.inl⟩
  · intro p _
    exact hrole
  · intro role hr hs k hk
    obtain ⟨p, perm, hlp, hperm, rfl⟩ := Db.mem_rolePermissionKeys.mp hk
    rcases (Links.linked_linkAll? hl roleId p).mp hlp with h | ⟨-, hp⟩
    · exact hc.customKeys roleId role hr hs (Db.mem_rolePermissionKeys.mpr ⟨p, perm, h, hperm, rfl⟩)
    · exact hkeys p hp perm hperm

theorem Coherent.revoke (hc : Coherent db) (now : Nat) (q : Uuid → Bool)
    (hcustom : ∀ k, roleId ≠ systemRoleId k) :
    Coherent { db with
      rolePermissions := db.rolePermissions.tombstone now (fun l => l.1 = roleId && q l.2) } := by
  apply hc.writeGrants hcustom
  · intro r p hr
    rw [Links.linked_tombstone]
    simp [hr]
  · intro p hp
    exact hc.granted roleId p ((Links.linked_tombstone _ _ _ _ _).mp hp).1
  · intro role hr hs k hk
    obtain ⟨p, perm, hlp, hperm, rfl⟩ := Db.mem_rolePermissionKeys.mp hk
    have hold := ((Links.linked_tombstone _ _ _ _ _).mp hlp).1
    exact hc.customKeys roleId role hr hs (Db.mem_rolePermissionKeys.mpr ⟨p, perm, hold, hperm, rfl⟩)

end

/-! ## new accounts -/

section
variable {userId : Uuid} {passwordHash name : String} {must : Bool} {now : Nat} {role : Role}
  {users users' : Table User.id User.userName User.checks} {userRoles : Links Uuid Uuid}

theorem liveUser?_insert? {u : User} (ht : db.users.insert? u = .ok users)
    (hlive : u.deletedAt = none) (id : Uuid) :
    { db with users := users }.liveUser? id = if id = u.id then some u else db.liveUser? id := by
  show (users.get? id).filter _ = _
  rw [Table.get?_insert? ht]
  by_cases e : id = u.id
  · rw [if_pos e, if_pos e]
    simp [Option.filter, hlive]
  · rw [if_neg e, if_neg e]
    rfl

theorem Coherent.unlinked (hc : Coherent db) (h : db.users.get? userId = none) (r : Uuid) :
    ¬ db.userRoles.Linked userId r := by
  intro hl
  have hs := (hc.assigned userId r hl).1
  rw [h] at hs
  cases hs

theorem Coherent.newAccount (hc : Coherent db) (h : NewAccount db userId passwordHash must now name
    role users users' userRoles db') : Coherent db' := by
  have hfresh : db.users.get? userId = none := (Table.rows_insert? h.inserted).2.1
  have hid : role.id = systemRoleId .user := hc.findBy? .user h.stored
  have hlink : ∀ u r, userRoles.Linked u r ↔
      db.userRoles.Linked u r ∨ (u = userId ∧ r = systemRoleId .user) := by
    intro u r
    rw [Links.linked_linkAll? h.assigned, List.mem_singleton, hid]
  have hget : ∀ u, users.get? u = if u = userId then some (newUser userId name)
      else db.users.get? u := fun u => Table.get?_insert? h.inserted u
  have hbase : Coherent { db with users := users, userRoles := userRoles } := by
    constructor
    · exact hc.system
    · exact hc.systemIds
    · exact hc.customKeys
    · intro u r hl
      rcases (hlink u r).mp hl with hl | ⟨rfl, rfl⟩
      · obtain ⟨h1, h2⟩ := hc.assigned u r hl
        refine ⟨?_, h2⟩
        show (users.get? u).isSome
        rw [hget]
        by_cases e : u = userId
        · rw [if_pos e]; rfl
        · rw [if_neg e]; exact h1
      · obtain ⟨r, hr, -⟩ := hc.systemRole .user
        refine ⟨?_, Option.isSome_iff_exists.mpr ⟨r, hr⟩⟩
        show (users.get? u).isSome
        rw [hget, if_pos rfl]
        rfl
    · exact hc.granted
    · intro u hu
      refine (hlink u _).mpr ?_
      by_cases e : u = userId
      · exact Or.inr ⟨e, rfl⟩
      · refine Or.inl (hc.baseRole u ?_)
        have hl := liveUser?_insert? h.inserted rfl u
        rw [if_neg (show u ≠ (newUser userId name).id from e)] at hl
        rw [← hl]
        exact hu
    · intro u
      show (userRoles.rights u).length ≤ _
      rw [Links.rights_linkAll? h.assigned]
      by_cases e : u = userId
      · subst e
        have hnil : db.userRoles.rights u = [] :=
          List.eq_nil_iff_forall_not_mem.mpr
            (fun r hr => hc.unlinked hfresh r (Links.mem_rights.mp hr))
        rw [if_pos rfl, hnil]
        simp [maxRolesPerUser]
      · rw [if_neg e]
        exact hc.limit u
  rw [h.result]
  exact hbase.updateUsers h.rotated (fun _ => rfl)

theorem SoleHolder.newAccount (hc : Coherent db) (hs : SoleHolder db) (h : NewAccount db userId
    passwordHash must now name role users users' userRoles db') : SoleHolder db' := by
  have hfresh : db.users.get? userId = none := (Table.rows_insert? h.inserted).2.1
  have hid : role.id = systemRoleId .user := hc.findBy? .user h.stored
  have hnot : systemRoleId .superAdmin ∉ [role.id] := by
    rw [hid]
    decide
  have hlinks : SoleHolder { db with userRoles := userRoles } := hs.assign h.assigned hnot
  have hbase : SoleHolder { db with users := users, userRoles := userRoles } := by
    refine ⟨hlinks.atMostOne, ?_⟩
    intro u hl
    obtain ⟨user, hu, ha⟩ := hlinks.active u hl
    have hne : u ≠ userId := by
      intro e
      subst e
      have hsome := (Db.liveUser?_eq_some.mp hu).1
      rw [show db.users.get? u = some user from hsome] at hfresh
      cases hfresh
    refine ⟨user, ?_, ha⟩
    have hl := liveUser?_insert? h.inserted rfl u
    rw [if_neg (show u ≠ (newUser userId name).id from hne)] at hl
    exact hl.trans hu
  rw [h.result]
  exact hbase.updateUsers h.rotated (fun _ => rfl) (fun _ _ _ ha _ => ha)

end

end PgRbac
