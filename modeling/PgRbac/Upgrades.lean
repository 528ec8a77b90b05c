import PgRbac.Allowances
import PgRbac.Migrations

/-!
# The store after the migrations

What the statements of the two revisions write, and that the database they leave is one in which the
standing invariant holds.

* `Extends`                 permissions are added and revived, never changed;
* `ensureSystemRole_ok`, `replaceSystemRoleGrants_ok`    the two helpers of 0002;
* `Prepared`                what a database of revision 0003 keeps, `prepared_upgrade0002`;
* `Prepared.standing`       what 0004 makes of it;
* `upgrade_standing`        both, and every run of the application after them.
-/

set_option linter.unusedVariables false

namespace PgRbac.Migrations

open Fallible Store

/-! ## permissions -/

/-- the permissions of the first table are still there, and live if they were -/
def Extends (t t' : Permissions) : Prop :=
  ∀ id p, t.get? id = some p → ∃ p', t'.get? id = some p' ∧ (p' = p ∨ p' = revive.apply p)

theorem Extends.refl (t : Permissions) : Extends t t := fun _ p h => ⟨p, h, Or.inl rfl⟩

theorem Extends.trans {t t' t'' : Permissions} (h : Extends t t') (h' : Extends t' t'') :
    Extends t t'' := by
  intro id p hp
  obtain ⟨p', hp', rfl | rfl⟩ := h id p hp
  · exact h' id p' hp'
  · obtain ⟨p'', hp'', rfl | rfl⟩ := h' id _ hp'
    · exact ⟨_, hp'', Or.inr rfl⟩
    · exact ⟨_, hp'', Or.inr rfl⟩

theorem livePermissionId_eq_some {t : Permissions} {k : PermissionKey} {id : Uuid} :
    livePermissionId t k = some id ↔
      ∃ p, t.get? id = some p ∧ p.key = k.value ∧ p.deletedAt = none := by
  unfold livePermissionId
  simp only [Option.map_eq_some_iff, Option.filter_eq_some_iff, Permission.isLive,
    Option.isNone_iff_eq_none]
  constructor
  · rintro ⟨p, ⟨hp, hlive⟩, rfl⟩
    obtain ⟨hget, hkey⟩ := Table.findBy?_iff_get?.mp hp
    exact ⟨p, hget, hkey, hlive⟩
  · rintro ⟨p, hget, hkey, hlive⟩
    have hid : p.id = id := Table.key_of_get? hget
    exact ⟨p, ⟨Table.findBy?_iff_get?.mpr ⟨hid ▸ hget, hkey⟩, hlive⟩, hid⟩

theorem Extends.live {t t' : Permissions} (h : Extends t t') {k : PermissionKey} {id : Uuid}
    (hlive : livePermissionId t k = some id) : livePermissionId t' k = some id := by
  obtain ⟨p, hp, hkey, hdel⟩ := livePermissionId_eq_some.mp hlive
  obtain ⟨p', hp', rfl | rfl⟩ := h id p hp
  · exact livePermissionId_eq_some.mpr ⟨_, hp', hkey, hdel⟩
  · exact livePermissionId_eq_some.mpr ⟨_, hp', hkey, rfl⟩

theorem PermissionKey.value_injective : Function.Injective PermissionKey.value := by
  intro k k' h
  cases k <;> cases k' <;> first | rfl | exact absurd h (by decide)

/-- what a row of the statement does: the key is live, and no other key changes -/
structure Restored (k : PermissionKey) (t t' : Permissions) : Prop where
  extends_ : Extends t t'
  live : (livePermissionId t' k).isSome
  others : ∀ id p, t'.get? id = some p → p.key = k.value ∨ t.get? id = some p
  added : ∀ id p, t'.get? id = some p → (t.get? id).isSome ∨ (id = permissionId k ∧ p.key = k.value)

theorem restorePermission_ok {t t' : Permissions} {k : PermissionKey}
    (h : restorePermission t k = .ok t') : Restored k t t' := by
  unfold restorePermission at h
  cases hf : t.findBy? k.value with
  | none =>
    simp only [hf] at h
    rw [orViolation_ok] at h
    have hget := Table.get?_insert? h
    have hnone : t.get? (permissionId k) = none := (Table.rows_insert? h).2.1
    have hnew : t'.get? (permissionId k) = some (seededPermission k) := by
      rw [hget]
      exact if_pos rfl
    have hold : ∀ id, id ≠ permissionId k → t'.get? id = t.get? id := by
      intro id hne
      rw [hget]
      exact if_neg hne
    refine ⟨?_, Option.isSome_iff_exists.mpr ⟨_, livePermissionId_eq_some.mpr
      ⟨_, hnew, rfl, rfl⟩⟩, ?_, ?_⟩
    · intro id p hp
      have hne : id ≠ permissionId k := by
        rintro rfl
        rw [hnone] at hp
        cases hp
      exact ⟨p, (hold id hne).trans hp, Or.inl rfl⟩
    · intro id p hp
      by_cases hid : id = permissionId k
      · rw [hid, hnew] at hp
        cases hp
        exact Or.inl rfl
      · exact Or.inr ((hold id hid).symm.trans hp)
    · intro id p hp
      by_cases hid : id = permissionId k
      · rw [hid, hnew] at hp
        cases hp
        exact Or.inr ⟨hid, rfl⟩
      · exact Or.inl (Option.isSome_iff_exists.mpr ⟨p, (hold id hid).symm.trans hp⟩)
  | some q =>
    simp only [hf] at h
    rw [orViolation_ok] at h
    have hget := Table.get?_update? h
    obtain ⟨hq, hqkey⟩ := Table.findBy?_iff_get?.mp hf
    have hon : ∀ p, (revive.on fun p => decide (p.key = k.value)).apply p =
        if p.key = k.value then revive.apply p else p := by
      intro p
      simp only [Patch.on, decide_eq_true_eq]
    refine ⟨?_, ?_, ?_, ?_⟩
    · intro id p hp
      refine ⟨_, (hget id).trans (congrArg _ hp), ?_⟩
      rw [hon]
      split
      · exact Or.inr rfl
      · exact Or.inl rfl
    · refine Option.isSome_iff_exists.mpr ⟨q.id, livePermissionId_eq_some.mpr
        ⟨revive.apply q, ?_, hqkey, rfl⟩⟩
      rw [hget, hq, Option.map_some, hon, if_pos hqkey]
    · intro id p hp
      rw [hget, Option.map_eq_some_iff] at hp
      obtain ⟨p₀, hp₀, rfl⟩ := hp
      rw [hon]
      split
      · rename_i hkey
        exact Or.inl hkey
      · exact Or.inr hp₀
    · intro id p hp
      rw [hget, Option.map_eq_some_iff] at hp
      obtain ⟨p₀, hp₀, -⟩ := hp
      exact Or.inl (Option.isSome_iff_exists.mpr ⟨p₀, hp₀⟩)

/-- the whole statement: its keys are live, other keys do not change -/
structure RestoredAll (ks : List PermissionKey) (t t' : Permissions) : Prop where
  extends_ : Extends t t'
  live : ∀ k ∈ ks, (livePermissionId t' k).isSome
  others : ∀ id p, t'.get? id = some p → (∃ k ∈ ks, p.key = k.value) ∨ t.get? id = some p
  added : ∀ id p, t'.get? id = some p →
    (t.get? id).isSome ∨ ∃ k ∈ ks, id = permissionId k ∧ p.key = k.value

theorem RestoredAll.nil (t : Permissions) : RestoredAll [] t t where
  extends_ := Extends.refl t
  live k hk := absurd hk List.not_mem_nil
  others id p hp := Or.inr hp
  added id p hp := Or.inl (Option.isSome_iff_exists.mpr ⟨p, hp⟩)

theorem Restored.all {k : PermissionKey} {t t' : Permissions} (h : Restored k t t') :
    RestoredAll [k] t t' where
  extends_ := h.extends_
  live k' hk' := List.mem_singleton.mp hk' ▸ h.live
  others id p hp := (h.others id p hp).imp_left fun hkey => ⟨k, List.mem_singleton_self k, hkey⟩
  added id p hp := (h.added id p hp).imp_right fun ha => ⟨k, List.mem_singleton_self k, ha⟩

theorem RestoredAll.append {ks ks' : List PermissionKey} {t t₁ t' : Permissions}
    (h : RestoredAll ks t t₁) (h' : RestoredAll ks' t₁ t') : RestoredAll (ks ++ ks') t t' where
  extends_ := h.extends_.trans h'.extends_
  live k hk := by
    rcases List.mem_append.mp hk with hk | hk
    · obtain ⟨id, hid⟩ := Option.isSome_iff_exists.mp (h.live k hk)
      exact Option.isSome_iff_exists.mpr ⟨id, h'.extends_.live hid⟩
    · exact h'.live k hk
  others id p hp := by
    rcases h'.others id p hp with ⟨k, hk, hkey⟩ | hp₁
    · exact Or.inl ⟨k, List.mem_append_right _ hk, hkey⟩
    · rcases h.others id p hp₁ with ⟨k, hk, hkey⟩ | hp₀
      · exact Or.inl ⟨k, List.mem_append_left _ hk, hkey⟩
      · exact Or.inr hp₀
  added id p hp := by
    rcases h'.added id p hp with hsome | ⟨k, hk, hid⟩
    · obtain ⟨p₁, hp₁⟩ := Option.isSome_iff_exists.mp hsome
      rcases h.added id p₁ hp₁ with hsome₀ | ⟨k, hk, hid, hkey⟩
      · exact Or.inl hsome₀
      · refine Or.inr ⟨k, List.mem_append_left _ hk, hid, ?_⟩
        obtain ⟨p', hp', hsame⟩ := h'.extends_ id p₁ hp₁
        rw [hp, Option.some.injEq] at hp'
        rcases hsame with rfl | rfl <;> exact hp' ▸ hkey
    · exact Or.inr ⟨k, List.mem_append_right _ hk, hid⟩

theorem restorePermissions_ok {ks : List PermissionKey} {t t' : Permissions}
    (h : ks.foldlM restorePermission t = .ok t') : RestoredAll ks t t' := by
  induction ks generalizing t with
  | nil =>
    rw [List.foldlM_nil, pure_ok] at h
    exact h ▸ RestoredAll.nil t
  | cons k ks ih =>
    rw [List.foldlM_cons, bind_ok] at h
    obtain ⟨t₁, h₁, h₂⟩ := h
    exact (restorePermission_ok h₁).all.append (ih h₂)

/-! ## roles -/

/-- nobody has taken the key for a system role -/
def Unclaimed (roles : OpenRoles) (k : SystemRoleKey) : Prop :=
  ∀ id r, roles.get? id = some r → r.key = k.value → r.isSystem = false

structure Seeds (k : SystemRoleKey) (roles roles' : OpenRoles) : Prop where
  free : roles.get? (systemRoleId k) = none
  keyFree : roles.findBy? k.value = none
  get? : ∀ id, roles'.get? id = if id = systemRoleId k then some (seededRole k 0) else roles.get? id

theorem ensureSystemRole_ok {roles : OpenRoles} {k : SystemRoleKey} {made : OpenRoles × Uuid}
    (hun : Unclaimed roles k) (h : ensureSystemRole roles k = .ok made) :
    made.2 = systemRoleId k ∧ Seeds k roles made.1 := by
  unfold ensureSystemRole at h
  cases hf : roles.findBy? k.value with
  | none =>
    simp only [hf, bind_ok, require_ok, orViolation_ok, pure_ok] at h
    obtain ⟨_, -, roles', hins, rfl⟩ := h
    exact ⟨rfl, (Table.rows_insert? hins).2.1, hf, Table.get?_insert? hins⟩
  | some existing =>
    simp only [hf, bind_ok, require_ok] at h
    obtain ⟨_, ⟨-, -, -, hsys, -⟩, -⟩ := h
    obtain ⟨hget, hkey⟩ := Table.findBy?_iff_get?.mp hf
    rw [hun _ _ hget hkey] at hsys
    cases hsys

theorem SystemRoleKey.value_injective : Function.Injective SystemRoleKey.value := by
  intro k k' h
  cases k <;> cases k' <;> first | rfl | exact absurd h (by decide)

theorem Seeds.unclaimed {k k' : SystemRoleKey} {roles roles' : OpenRoles} (h : Seeds k roles roles')
    (hne : k ≠ k') (hun : Unclaimed roles k') : Unclaimed roles' k' := by
  intro id r hr hkey
  rw [h.get?] at hr
  by_cases hid : id = systemRoleId k
  · rw [if_pos hid] at hr
    cases hr
    exact absurd (SystemRoleKey.value_injective hkey) hne
  · rw [if_neg hid] at hr
    exact hun id r hr hkey

/-! ## grants -/

/-- the ids of the live permissions with these keys -/
def LiveAmong (permissions : Permissions) (keys : List PermissionKey) (p : Uuid) : Prop :=
  ∃ key ∈ keys, livePermissionId permissions key = some p

theorem replaceSystemRoleGrants_ok {now : Nat} {permissions : Permissions}
    {grants grants' : Links Uuid Uuid} {roleId : Uuid} {keys : List PermissionKey}
    (h : replaceSystemRoleGrants now permissions grants roleId keys = .ok grants') :
    (∀ k ∈ keys, (livePermissionId permissions k).isSome) ∧
    ∀ r p, grants'.Linked r p ↔
      if r = roleId then LiveAmong permissions keys p else grants.Linked r p := by
  unfold replaceSystemRoleGrants at h
  simp only [bind_ok, require_ok, pure_ok] at h
  obtain ⟨_, hmissing, rfl⟩ := h
  refine ⟨?_, ?_⟩
  · intro k hk
    by_contra hnone
    have hm : k ∈ keys.filter fun k => (livePermissionId permissions k).isNone :=
      List.mem_filter.mpr ⟨hk, by simpa using hnone⟩
    rw [hmissing] at hm
    exact absurd hm List.not_mem_nil
  · intro r p
    have hdesired : p ∈ keys.filterMap (livePermissionId permissions) ↔
        LiveAmong permissions keys p := List.mem_filterMap
    rw [Links.linked_foldl_right, Links.linked_tombstone, hdesired]
    by_cases hr : r = roleId
    · rw [if_pos hr]
      simp only [hr, decide_true, Bool.true_and, Bool.not_eq_false', List.contains_iff_mem,
        hdesired, true_and]
      exact or_iff_right_of_imp And.right
    · rw [if_neg hr]
      simp only [hr, decide_false, Bool.false_and, and_true, false_and, or_false]

/-! ## revision 0003 -/

/-- what a database of revision 0003 keeps: the invariant of the store, with the grants of 0002 -/
structure Prepared (db : Db) : Prop where
  roles : ∀ k, ∃ role, db.roles.get? (systemRoleId k) = some role ∧
    { role with version := 0 } = seededRole k 0
  live : ∀ k, ∀ key ∈ seededKeys k, (livePermissionId db.permissions key).isSome
  grants : ∀ k p, db.rolePermissions.Linked (systemRoleId k) p ↔
    LiveAmong db.permissions (seededKeys k) p
  systemIds : ∀ id role, db.roles.get? id = some role → role.isSystem = true →
    ∃ k, id = systemRoleId k
  customKeys : ∀ id role, db.roles.get? id = some role → role.isSystem = false →
    db.rolePermissionKeys id ⊆
      superAdminPermissionKeys.erase PermissionKey.registrationConfigure.value
  assigned : ∀ u r, db.userRoles.Linked u r →
    (db.users.get? u).isSome ∧ (db.liveRole? r).isSome
  granted : ∀ r p, db.rolePermissions.Linked r p → (db.liveRole? r).isSome
  baseRole : ∀ u, (db.liveUser? u).isSome → db.userRoles.Linked u (systemRoleId .user)
  limit : ∀ u, (db.userRoles.rights u).length ≤ maxRolesPerUser
  sole : SoleHolder db

/-- nobody has written system roles -/
def LegacyDb.Custom (old : LegacyDb) : Prop := ∀ r ∈ old.roles.rows, r.isSystem = false

/-- what the application asks of a database of revision 0001: custom roles only, with permissions that
a custom role may have -/
structure Fit (old : LegacyDb) : Prop where
  custom : old.Custom
  grants : ∀ r p perm, old.rolePermissions.Linked r p → old.permissions.get? p = some perm →
    perm.key ∈ superAdminPermissionKeys.erase PermissionKey.registrationConfigure.value

/-- what the statements of 0002 leave -/
structure Seeded (old : LegacyDb) (mid : RolesDb) (inserted : List Uuid) : Prop where
  permissions : RestoredAll newPermissions old.permissions mid.permissions
  live : ∀ k, ∀ key ∈ seededKeys k, (livePermissionId mid.permissions key).isSome
  free : ∀ k, old.roles.get? (systemRoleId k) = none
  seeded : ∀ k, mid.roles.get? (systemRoleId k) = some (seededRole k 0)
  others : ∀ id, (∀ k, id ≠ systemRoleId k) →
    mid.roles.get? id = (old.roles.get? id).map widenRole
  granted : ∀ k p, mid.rolePermissions.Linked (systemRoleId k) p ↔
    LiveAmong mid.permissions (seededKeys k) p
  grants : ∀ r p, (∀ k, r ≠ systemRoleId k) →
    (mid.rolePermissions.Linked r p ↔ old.rolePermissions.Linked r p)
  touched : ∀ u, u ∈ inserted ↔ ∃ user, old.users.get? u = some user ∧ user.isLive = true
  users : ∀ id, mid.users.get? id = (old.users.get? id).map fun u =>
    if u.isLive then bumpLegacyAuthz.apply u else u
  assignments : ∀ u r, mid.userRoles.Linked u r ↔
    old.userRoles.Linked u r ∨ (u ∈ inserted ∧ r = systemRoleId .user)
  epoch : mid.epoch = old.epoch + 1

theorem get?_openRoles (roles : LegacyRoles) (id : Uuid) :
    (openRoles roles).get? id = (roles.get? id).map widenRole :=
  Table.get?_of_rows rfl (fun _ => rfl) id

theorem LegacyDb.Custom.unclaimed {old : LegacyDb} (hcustom : old.Custom) (k : SystemRoleKey) :
    Unclaimed (openRoles old.roles) k := by
  intro id r hr hkey
  rw [get?_openRoles, Option.map_eq_some_iff] at hr
  obtain ⟨r₀, hr₀, rfl⟩ := hr
  exact hcustom r₀ (Table.get?_eq_some.mp hr₀).1

theorem LegacyDb.not_assigned {old : LegacyDb} {r : Uuid} (h : old.roles.get? r = none) (u : Uuid) :
    ¬ old.userRoles.Linked u r := by
  intro hl
  have hsome := (old.assigned u r hl).2
  rw [h] at hsome
  cases hsome

theorem systemRole_cases {P : SystemRoleKey → Prop} (h₁ : P .superAdmin) (h₂ : P .admin)
    (h₃ : P .user) (k : SystemRoleKey) : P k := by
  cases k
  · exact h₁
  · exact h₂
  · exact h₃

/-- what the three roles leave, made one after the other -/
structure SeedsAll (roles roles' : OpenRoles) : Prop where
  free : ∀ k, roles.get? (systemRoleId k) = none
  seeded : ∀ k, roles'.get? (systemRoleId k) = some (seededRole k 0)
  others : ∀ id, (∀ k, id ≠ systemRoleId k) → roles'.get? id = roles.get? id

theorem systemRoleId_ne {k k' : SystemRoleKey} (h : k ≠ k') : systemRoleId k ≠ systemRoleId k' :=
  fun e => h (systemRoleId_injective e)

theorem Seeds.all {roles roles₁ roles₂ roles₃ : OpenRoles} (h₁ : Seeds .superAdmin roles roles₁)
    (h₂ : Seeds .admin roles₁ roles₂) (h₃ : Seeds .user roles₂ roles₃) : SeedsAll roles roles₃ where
  free := by
    refine systemRole_cases h₁.free ?_ ?_
    · have hfree := h₂.free
      rw [h₁.get?, if_neg (systemRoleId_ne (by decide))] at hfree
      exact hfree
    · have hfree := h₃.free
      rw [h₂.get?, if_neg (systemRoleId_ne (by decide)), h₁.get?,
        if_neg (systemRoleId_ne (by decide))] at hfree
      exact hfree
  seeded := by
    refine systemRole_cases ?_ ?_ ?_
    · rw [h₃.get?, if_neg (systemRoleId_ne (by decide)), h₂.get?,
        if_neg (systemRoleId_ne (by decide)), h₁.get?, if_pos rfl]
    · rw [h₃.get?, if_neg (systemRoleId_ne (by decide)), h₂.get?, if_pos rfl]
    · rw [h₃.get?, if_pos rfl]
  others id hid := by
    rw [h₃.get?, if_neg (hid _), h₂.get?, if_neg (hid _), h₁.get?, if_neg (hid _)]

theorem LegacyDb.Custom.made {old : LegacyDb} {made₁ made₂ made₃ : OpenRoles × Uuid}
    (hcustom : old.Custom) (h₁ : ensureSystemRole (openRoles old.roles) .superAdmin = .ok made₁)
    (h₂ : ensureSystemRole made₁.1 .admin = .ok made₂)
    (h₃ : ensureSystemRole made₂.1 .user = .ok made₃) :
    made₁.2 = systemRoleId .superAdmin ∧ made₂.2 = systemRoleId .admin ∧
      made₃.2 = systemRoleId .user ∧ SeedsAll (openRoles old.roles) made₃.1 := by
  obtain ⟨hid₁, hseed₁⟩ := ensureSystemRole_ok (hcustom.unclaimed .superAdmin) h₁
  have hun₂ := hseed₁.unclaimed (by decide) (hcustom.unclaimed .admin)
  obtain ⟨hid₂, hseed₂⟩ := ensureSystemRole_ok hun₂ h₂
  have hun₃ := hseed₂.unclaimed (by decide) (hseed₁.unclaimed (by decide) (hcustom.unclaimed .user))
  obtain ⟨hid₃, hseed₃⟩ := ensureSystemRole_ok hun₃ h₃
  exact ⟨hid₁, hid₂, hid₃, hseed₁.all hseed₂ hseed₃⟩

/-- the grants of one system role are replaced -/
def Replaces (permissions : Permissions) (k : SystemRoleKey) (grants grants' : Links Uuid Uuid) : Prop :=
  ∀ r p, grants'.Linked r p ↔
    if r = systemRoleId k then LiveAmong permissions (seededKeys k) p else grants.Linked r p

/-- each replacement leaves the grants of the other roles alone -/
theorem Replaces.all {permissions : Permissions} {grants grants₁ grants₂ grants₃ : Links Uuid Uuid}
    (h₁ : Replaces permissions .superAdmin grants grants₁)
    (h₂ : Replaces permissions .admin grants₁ grants₂)
    (h₃ : Replaces permissions .user grants₂ grants₃) :
    (∀ k p, grants₃.Linked (systemRoleId k) p ↔ LiveAmong permissions (seededKeys k) p) ∧
      ∀ r p, (∀ k, r ≠ systemRoleId k) → (grants₃.Linked r p ↔ grants.Linked r p) := by
  refine ⟨systemRole_cases ?_ ?_ ?_, fun r p hr => ?_⟩
  · intro p
    rw [h₃, if_neg (systemRoleId_ne (by decide)), h₂, if_neg (systemRoleId_ne (by decide)), h₁,
      if_pos rfl]
  · intro p
    rw [h₃, if_neg (systemRoleId_ne (by decide)), h₂, if_pos rfl]
  · intro p
    rw [h₃, if_pos rfl]
  · rw [h₃, if_neg (hr _), h₂, if_neg (hr _), h₁, if_neg (hr _)]

section
variable {old : LegacyDb} {base : Uuid} (hnobody : ∀ u, ¬ old.userRoles.Linked u base)
include hnobody

/-- as nobody has the base role yet, it is given to every live user -/
theorem mem_unassigned (u : Uuid) :
    u ∈ ((old.users.rows.filter LegacyUser.isLive).map LegacyUser.id).filter
      (fun u => !decide (old.userRoles.Linked u base)) ↔
      ∃ user, old.users.get? u = some user ∧ user.isLive = true := by
  simp only [List.mem_filter, List.mem_map, hnobody, decide_false, Bool.not_false, and_true,
    Table.get?_eq_some]
  constructor
  · rintro ⟨user, ⟨hu, hlive⟩, hid⟩
    exact ⟨user, ⟨hu, hid⟩, hlive⟩
  · rintro ⟨user, ⟨hu, hid⟩, hlive⟩
    exact ⟨user, ⟨hu, hlive⟩, hid⟩

theorem get?_bumped {users : LegacyUsers} (h : old.users.update? (fun u =>
      (((old.users.rows.filter LegacyUser.isLive).map LegacyUser.id).filter fun u =>
        !decide (old.userRoles.Linked u base)).contains u.id) bumpLegacyAuthz = .ok users) (id : Uuid) :
    users.get? id = (old.users.get? id).map fun u =>
      if u.isLive then bumpLegacyAuthz.apply u else u := by
  rw [Table.get?_update? h]
  cases hu : old.users.get? id with
  | none => rfl
  | some user =>
    have hid : user.id = id := Table.key_of_get? hu
    have hcontains : (((old.users.rows.filter LegacyUser.isLive).map LegacyUser.id).filter
        (fun u => !decide (old.userRoles.Linked u base))).contains user.id = user.isLive := by
      rw [Bool.eq_iff_iff, List.contains_iff_mem, mem_unassigned hnobody, hid]
      constructor
      · rintro ⟨user', hu', hlive⟩
        rw [hu] at hu'
        cases hu'
        exact hlive
      · exact fun hlive => ⟨user, hu, hlive⟩
    rw [Option.map_some, Option.map_some]
    simp only [Patch.on, hcontains]

end

theorem seeded_upgrade0002 {now : Nat} {old : LegacyDb} {mid : RolesDb} {inserted : List Uuid}
    (hcustom : old.Custom) (h : upgrade0002 now old = .ok (mid, inserted)) :
    Seeded old mid inserted := by
  unfold upgrade0002 at h
  simp only [bind_ok, orViolation_ok, pure_ok, Prod.mk.injEq] at h
  obtain ⟨permissions, hperm, made₁, hmade₁, made₂, hmade₂, made₃, hmade₃, grants₁, hgrants₁,
    grants₂, hgrants₂, grants₃, hgrants₃, users, husers, roles, hroles, rfl, rfl⟩ := h
  obtain ⟨hid₁, hid₂, hid₃, hseeds⟩ := hcustom.made hmade₁ hmade₂ hmade₃
  have hfree : ∀ k, old.roles.get? (systemRoleId k) = none := by
    intro k
    have hopen := hseeds.free k
    rw [get?_openRoles, Option.map_eq_none_iff] at hopen
    exact hopen
  obtain ⟨hlive₁, hl₁⟩ := replaceSystemRoleGrants_ok hgrants₁
  obtain ⟨hlive₂, hl₂⟩ := replaceSystemRoleGrants_ok hgrants₂
  obtain ⟨hlive₃, hl₃⟩ := replaceSystemRoleGrants_ok hgrants₃
  rw [hid₁] at hl₁
  rw [hid₂] at hl₂
  rw [hid₃] at hl₃
  obtain ⟨hgranted, hothers⟩ := Replaces.all hl₁ hl₂ hl₃
  have hnobody : ∀ u, ¬ old.userRoles.Linked u made₃.2 := by
    rw [hid₃]
    exact LegacyDb.not_assigned (hfree .user)
  refine ⟨restorePermissions_ok hperm, systemRole_cases hlive₁ hlive₂ hlive₃, hfree, ?_, ?_, hgranted,
    hothers, mem_unassigned hnobody, get?_bumped hnobody husers, ?_, rfl⟩
  · intro k
    exact (Table.get?_recheck? hroles _).trans (hseeds.seeded k)
  · intro id hid
    exact ((Table.get?_recheck? hroles id).trans (hseeds.others id hid)).trans (get?_openRoles _ _)
  · intro u r
    refine (Links.linked_foldl_left _ _ _ _ _).trans ?_
    rw [hid₃]

section
variable {old : LegacyDb} {mid : RolesDb} {inserted : List Uuid}

theorem get?_widen_users (mid : RolesDb) (id : Uuid) :
    mid.widen.users.get? id = (mid.users.get? id).map widenUser :=
  Table.get?_of_rows rfl (fun _ => rfl) id

theorem Seeded.ne_of_some (hs : Seeded old mid inserted) {id : Uuid} {r : LegacyRole}
    (h : old.roles.get? id = some r) (k : SystemRoleKey) : id ≠ systemRoleId k := by
  rintro rfl
  rw [hs.free] at h
  cases h

theorem Seeded.role_cases (hs : Seeded old mid inserted) {id : Uuid} {role : Role}
    (h : mid.roles.get? id = some role) :
    (∃ k, id = systemRoleId k ∧ role = seededRole k 0) ∨
      ∃ r, old.roles.get? id = some r ∧ role = widenRole r := by
  by_cases hid : ∃ k, id = systemRoleId k
  · obtain ⟨k, rfl⟩ := hid
    rw [hs.seeded] at h
    cases h
    exact Or.inl ⟨k, rfl, rfl⟩
  · rw [hs.others id fun k e => hid ⟨k, e⟩, Option.map_eq_some_iff] at h
    obtain ⟨r, hr, rfl⟩ := h
    exact Or.inr ⟨r, hr, rfl⟩

theorem Seeded.liveRole (hs : Seeded old mid inserted) {r : Uuid} (h : (old.roles.get? r).isSome) :
    (mid.widen.liveRole? r).isSome := by
  obtain ⟨role, hrole⟩ := Option.isSome_iff_exists.mp h
  refine Option.isSome_iff_exists.mpr ⟨widenRole role, Db.liveRole?_eq_some.mpr ⟨?_, rfl⟩⟩
  show mid.roles.get? r = _
  rw [hs.others r (hs.ne_of_some hrole), hrole, Option.map_some]

theorem Seeded.liveSeeded (hs : Seeded old mid inserted) (k : SystemRoleKey) :
    (mid.widen.liveRole? (systemRoleId k)).isSome :=
  Option.isSome_iff_exists.mpr ⟨seededRole k 0, Db.liveRole?_eq_some.mpr ⟨hs.seeded k, rfl⟩⟩

theorem Seeded.live_iff (hs : Seeded old mid inserted) (u : Uuid) :
    (mid.widen.liveUser? u).isSome ↔ u ∈ inserted := by
  rw [hs.touched, Option.isSome_iff_exists]
  simp only [Db.liveUser?_eq_some, get?_widen_users, hs.users]
  constructor
  · rintro ⟨user, hu, hdel⟩
    cases ho : old.users.get? u with
    | none =>
      rw [ho] at hu
      cases hu
    | some o =>
      refine ⟨o, rfl, ?_⟩
      rw [ho, Option.map_some, Option.map_some, Option.some.injEq] at hu
      subst hu
      by_contra hlive
      rw [if_neg hlive] at hdel
      exact hlive (Option.isNone_iff_eq_none.mpr hdel)
  · rintro ⟨o, ho, hlive⟩
    rw [ho, Option.map_some, Option.map_some, if_pos hlive]
    exact ⟨_, rfl, Option.isNone_iff_eq_none.mp hlive⟩

/-- **0002 prepares a database that has no system roles** -/
theorem Seeded.prepared (fit : Fit old) (hs : Seeded old mid inserted)
    (hlimit : ∀ u ∈ inserted, (mid.userRoles.rights u).length ≤ maxRolesPerUser) :
    Prepared mid.widen where
  roles k := ⟨_, hs.seeded k, rfl⟩
  live := hs.live
  grants := hs.granted
  systemIds id role h hsys := by
    obtain ⟨k, hk, -⟩ | ⟨r, hr, rfl⟩ := hs.role_cases h
    · exact ⟨k, hk⟩
    · have hcustom : r.isSystem = false := fit.custom r (Table.get?_eq_some.mp hr).1
      rw [show (widenRole r).isSystem = r.isSystem from rfl, hcustom] at hsys
      cases hsys
  customKeys id role h hsys := by
    obtain ⟨k, -, rfl⟩ | ⟨r, hr, rfl⟩ := hs.role_cases h
    · cases hsys
    · intro key hkey
      obtain ⟨p, perm, hl, hperm, rfl⟩ := Db.mem_rolePermissionKeys.mp hkey
      have hold : old.rolePermissions.Linked id p :=
        (hs.grants id p (hs.ne_of_some hr)).mp hl
      obtain ⟨perm₀, hperm₀⟩ := Option.isSome_iff_exists.mp (old.granted id p hold).2
      have hmem := fit.grants id p perm₀ hold hperm₀
      obtain ⟨perm', hperm', hsame⟩ := hs.permissions.extends_ p perm₀ hperm₀
      have he : perm = perm' := by
        have h₁ := (Option.filter_eq_some_iff.mp hperm).1
        exact Option.some.inj (h₁.symm.trans hperm')
      rcases hsame with rfl | rfl <;> exact he ▸ hmem
  assigned u r hl := by
    rcases (hs.assignments u r).mp hl with hold | ⟨hu, rfl⟩
    · obtain ⟨huser, hrole⟩ := old.assigned u r hold
      refine ⟨?_, hs.liveRole hrole⟩
      rw [get?_widen_users, hs.users, Option.isSome_map, Option.isSome_map]
      exact huser
    · obtain ⟨user, huser, -⟩ := (hs.touched u).mp hu
      refine ⟨?_, hs.liveSeeded .user⟩
      rw [get?_widen_users, hs.users, huser]
      rfl
  granted r p hl := by
    by_cases hr : ∃ k, r = systemRoleId k
    · obtain ⟨k, rfl⟩ := hr
      exact hs.liveSeeded k
    · have hold := (hs.grants r p fun k e => hr ⟨k, e⟩).mp hl
      exact hs.liveRole (old.granted r p hold).1
  baseRole u hu := (hs.assignments u _).mpr (Or.inr ⟨(hs.live_iff u).mp hu, rfl⟩)
  limit u := by
    by_cases hu : u ∈ inserted
    · exact hlimit u hu
    · refine Nat.le_trans (Links.length_rights_le (t := old.userRoles) ?_) (old.limit u)
      intro r hl
      exact ((hs.assignments u r).mp hl).resolve_right fun hnew => hu hnew.1
  sole := by
    have hnone : ∀ u, ¬ mid.userRoles.Linked u (systemRoleId .superAdmin) := by
      intro u hl
      rcases (hs.assignments u _).mp hl with hold | ⟨-, he⟩
      · exact LegacyDb.not_assigned (hs.free .superAdmin) u hold
      · exact absurd (systemRoleId_injective he) (by decide)
    refine ⟨?_, fun u hl => absurd hl (hnone u)⟩
    show (mid.userRoles.lefts _).length ≤ 1
    rw [List.eq_nil_iff_forall_not_mem.mpr fun u hu => hnone u (Links.mem_lefts.mp hu)]
    exact Nat.zero_le 1

end

/-! ## from 0003 to the application -/

section
variable {mid : RolesDb} {db : Db} {touched : List Uuid}

/-- what the statements of 0004 leave -/
structure Finished (mid : RolesDb) (db : Db) (touched : List Uuid) : Prop where
  permissions : Restored .usersPasswordReset mid.permissions db.permissions
  roles : ∀ id, db.roles.get? id = (mid.roles.get? id).map fun r =>
    if isResetRole r then Role.bumpVersion.apply r else r
  written : ∀ u, u ∈ touched ↔ ∃ user, mid.users.get? u = some user ∧ user.isLive = true ∧
    holdsResetRole mid.roles mid.userRoles u = true
  users : ∀ id, db.users.get? id = (mid.users.get? id).map fun u =>
    if u.id ∈ touched then User.bumpAuthz.apply (widenUser u) else widenUser u
  grants : ∀ r p, db.rolePermissions.Linked r p ↔ mid.rolePermissions.Linked r p ∨
    ((∃ role, mid.roles.get? r = some role ∧ isResetRole role = true) ∧
      livePermissionId db.permissions .usersPasswordReset = some p)
  userRoles : db.userRoles = mid.userRoles
  state : db.rbacState = ⟨mid.epoch + 1, true⟩

theorem finished_upgrade0004 (h : upgrade0004 mid = .ok (db, touched)) : Finished mid db touched := by
  unfold upgrade0004 at h
  simp only [bind_ok, orViolation_ok, pure_ok, Prod.mk.injEq] at h
  obtain ⟨permissions, hperm, roles, hroles, users, husers, rfl, rfl⟩ := h
  refine ⟨restorePermission_ok hperm, ?_, ?_, ?_, ?_, rfl, rfl⟩
  · intro id
    exact Table.get?_update? hroles id
  · intro u
    simp only [List.mem_filter, List.mem_map, Table.get?_eq_some]
    constructor
    · rintro ⟨⟨user, ⟨hu, hlive⟩, hid⟩, hholds⟩
      exact ⟨user, ⟨hu, hid⟩, hlive, hholds⟩
    · rintro ⟨user, ⟨hu, hid⟩, hlive, hholds⟩
      exact ⟨⟨user, ⟨hu, hlive⟩, hid⟩, hholds⟩
  · intro id
    refine (Table.get?_update? husers id).trans ?_
    have hwiden := get?_widen_users mid id
    unfold RolesDb.widen at hwiden
    rw [hwiden, Option.map_map]
    congr 1
    funext u
    simp only [Function.comp_apply, Patch.on, List.contains_iff_mem]
    rfl
  · intro r p
    have htarget : r ∈ (mid.roles.rows.filter isResetRole).map Role.id ↔
        ∃ role, mid.roles.get? r = some role ∧ isResetRole role = true := by
      simp only [List.mem_map, List.mem_filter, Table.get?_eq_some]
      constructor
      · rintro ⟨role, ⟨hm, hreset⟩, hid⟩
        exact ⟨role, ⟨hm, hid⟩, hreset⟩
      · rintro ⟨role, ⟨hm, hid⟩, hreset⟩
        exact ⟨role, ⟨hm, hreset⟩, hid⟩
    show Links.Linked (List.foldl _ _ _) r p ↔ _
    cases hlive : livePermissionId permissions .usersPasswordReset with
    | none =>
      show mid.rolePermissions.Linked r p ↔ _
      simp only [reduceCtorEq, and_false, or_false]
    | some id =>
      show Links.Linked (List.foldl (fun links r => links.linkMissing r id) mid.rolePermissions
        ((mid.roles.rows.filter isResetRole).map Role.id)) r p ↔ _
      rw [Links.linked_foldl_left, htarget, Option.some.injEq, eq_comm (a := p)]

theorem Prepared.resetRole (hp : Prepared mid.widen) {id : Uuid} :
    (∃ role, mid.roles.get? id = some role ∧ isResetRole role = true) ↔
      ∃ k, id = systemRoleId k ∧ k ≠ .user := by
  constructor
  · rintro ⟨role, hrole, hreset⟩
    unfold isResetRole at hreset
    simp only [Bool.and_eq_true] at hreset
    obtain ⟨k, rfl⟩ := hp.systemIds id role hrole hreset.1.2
    refine ⟨k, rfl, ?_⟩
    rintro rfl
    obtain ⟨role', hrole', he⟩ := hp.roles .user
    have hsame : role = role' := Option.some.inj (hrole.symm.trans hrole')
    have hkey : role.key = "user" := hsame ▸ congrArg Role.key he
    rw [hkey] at hreset
    exact absurd hreset.1.1 (by decide)
  · rintro ⟨k, rfl, hk⟩
    obtain ⟨role, hrole, he⟩ := hp.roles k
    refine ⟨role, hrole, ?_⟩
    have hsame : isResetRole role = isResetRole { role with version := 0 } := rfl
    rw [hsame, he]
    cases k with
    | superAdmin => decide
    | admin => decide
    | user => exact absurd rfl hk

theorem seededKeys_reset (k : SystemRoleKey) :
    ((seededKeys k).map PermissionKey.value).toFinset ∪
      (if k = .user then ∅ else {PermissionKey.usersPasswordReset.value}) =
      (systemRoleSpecs k).permissions := by
  cases k <;> decide +kernel

theorem Finished.permission_key (hf : Finished mid db touched) {p : Uuid} {perm : Permission}
    (h : db.livePermission? p = some perm) :
    perm.key = PermissionKey.usersPasswordReset.value ∨ mid.widen.livePermission? p = some perm := by
  obtain ⟨hget, hlive⟩ := Option.filter_eq_some_iff.mp h
  rcases hf.permissions.others p perm hget with hkey | hold
  · exact Or.inl hkey
  · exact Or.inr (Option.filter_eq_some_iff.mpr ⟨hold, hlive⟩)

/-- the keys granted to a system role are those of the application -/
theorem Finished.systemKeys (hp : Prepared mid.widen) (hf : Finished mid db touched)
    (k : SystemRoleKey) :
    db.rolePermissionKeys (systemRoleId k) = (systemRoleSpecs k).permissions := by
  have hreset : (∃ role, mid.roles.get? (systemRoleId k) = some role ∧ isResetRole role = true) ↔
      k ≠ .user := by
    rw [hp.resetRole]
    constructor
    · rintro ⟨k', he, hk'⟩
      exact systemRoleId_injective he ▸ hk'
    · exact fun hk => ⟨k, rfl, hk⟩
  have hliveKey : ∀ {id : Uuid} {key : PermissionKey},
      livePermissionId db.permissions key = some id →
        ∃ perm, db.livePermission? id = some perm ∧ perm.key = key.value := by
    intro id key hid
    obtain ⟨perm, hget, hkey, hdel⟩ := livePermissionId_eq_some.mp hid
    exact ⟨perm, Option.filter_eq_some_iff.mpr ⟨hget, Option.isNone_iff_eq_none.mpr hdel⟩, hkey⟩
  rw [← seededKeys_reset]
  ext key
  rw [Db.mem_rolePermissionKeys, Finset.mem_union, List.mem_toFinset, List.mem_map]
  constructor
  · rintro ⟨id, perm, hl, hperm, rfl⟩
    rcases (hf.grants _ _).mp hl with hold | ⟨hrole, hid⟩
    · obtain ⟨key', hkey', hid⟩ := (hp.grants k id).mp hold
      obtain ⟨perm', hperm', hk'⟩ := hliveKey (hf.permissions.extends_.live hid)
      rw [hperm] at hperm'
      cases hperm'
      exact Or.inl ⟨key', hkey', hk'.symm⟩
    · obtain ⟨perm', hperm', hk'⟩ := hliveKey hid
      rw [hperm] at hperm'
      cases hperm'
      rw [if_neg (hreset.mp hrole), Finset.mem_singleton]
      exact Or.inr hk'
  · rintro (⟨key', hkey', rfl⟩ | hkey)
    · obtain ⟨id, hid⟩ := Option.isSome_iff_exists.mp (hp.live k key' hkey')
      obtain ⟨perm, hperm, hk'⟩ := hliveKey (hf.permissions.extends_.live hid)
      exact ⟨id, perm, (hf.grants _ _).mpr (Or.inl ((hp.grants k id).mpr ⟨key', hkey', hid⟩)),
        hperm, hk'⟩
    · by_cases hk : k = .user
      · rw [if_pos hk] at hkey
        exact absurd hkey (Finset.notMem_empty _)
      · rw [if_neg hk, Finset.mem_singleton] at hkey
        subst hkey
        obtain ⟨id, hid⟩ := Option.isSome_iff_exists.mp hf.permissions.live
        obtain ⟨perm, hperm, hk'⟩ := hliveKey hid
        exact ⟨id, perm, (hf.grants _ _).mpr (Or.inr ⟨hreset.mpr hk, hid⟩), hperm, hk'⟩

theorem Finished.role (hf : Finished mid db touched) {id : Uuid} {role : Role}
    (h : db.roles.get? id = some role) : ∃ before, mid.roles.get? id = some before ∧
      { role with version := 0 } = { before with version := 0 } := by
  rw [hf.roles, Option.map_eq_some_iff] at h
  obtain ⟨before, hbefore, rfl⟩ := h
  refine ⟨before, hbefore, ?_⟩
  split <;> rfl

theorem Finished.liveRole (hf : Finished mid db touched) (id : Uuid) :
    (db.liveRole? id).isSome = (mid.widen.liveRole? id).isSome := by
  unfold Db.liveRole?
  rw [hf.roles]
  show _ = ((mid.roles.get? id).filter _).isSome
  cases mid.roles.get? id with
  | none => rfl
  | some r =>
    have hdel : (if isResetRole r then Role.bumpVersion.apply r else r).deletedAt = r.deletedAt := by
      split <;> rfl
    rw [Option.map_some, Option.filter_some, Option.filter_some, hdel]
    split <;> rfl

theorem Finished.user (hf : Finished mid db touched) (id : Uuid) :
    db.users.get? id = (mid.widen.users.get? id).map fun u =>
      if u.id ∈ touched then User.bumpAuthz.apply u else u := by
  rw [hf.users, get?_widen_users, Option.map_map]
  rfl

theorem Finished.liveUser (hf : Finished mid db touched) (id : Uuid) :
    db.liveUser? id = (mid.widen.liveUser? id).map fun u =>
      if u.id ∈ touched then User.bumpAuthz.apply u else u := by
  unfold Db.liveUser?
  rw [hf.user]
  cases mid.widen.users.get? id with
  | none => rfl
  | some u =>
    have hdel : (if u.id ∈ touched then User.bumpAuthz.apply u else u).deletedAt = u.deletedAt := by
      split <;> rfl
    rw [Option.map_some, Option.filter_some, Option.filter_some, hdel]
    split <;> rfl

/-- **0004 leaves the standing invariant** -/
theorem Prepared.standing (hp : Prepared mid.widen) (hf : Finished mid db touched) :
    Standing db where
  coherent :=
    { system := by
        intro k
        obtain ⟨before, hbefore, he⟩ := hp.roles k
        have hget : db.roles.get? (systemRoleId k) =
            some (if isResetRole before then Role.bumpVersion.apply before else before) := by
          rw [hf.roles]
          exact congrArg _ hbefore
        obtain ⟨before', hbefore', hsame⟩ := hf.role hget
        have hb : before' = before := Option.some.inj (hbefore'.symm.trans hbefore)
        exact ⟨_, hget, (hb ▸ hsame).trans he, hf.systemKeys hp k⟩
      systemIds := by
        intro id role h hsys
        obtain ⟨before, hbefore, he⟩ := hf.role h
        exact hp.systemIds id before hbefore ((congrArg Role.isSystem he).symm.trans hsys)
      customKeys := by
        intro id role h hsys key hkey
        obtain ⟨before, hbefore, he⟩ := hf.role h
        have hcustom : before.isSystem = false := (congrArg Role.isSystem he).symm.trans hsys
        obtain ⟨p, perm, hl, hperm, rfl⟩ := Db.mem_rolePermissionKeys.mp hkey
        rcases hf.permission_key hperm with hreset | hold
        · rw [hreset]
          decide +kernel
        · rcases (hf.grants id p).mp hl with hl | ⟨⟨role', hrole', hreset⟩, -⟩
          · exact hp.customKeys id before hbefore hcustom
              (Db.mem_rolePermissionKeys.mpr ⟨p, perm, hl, hold, rfl⟩)
          · rw [hbefore] at hrole'
            cases hrole'
            unfold isResetRole at hreset
            rw [hcustom, Bool.and_false, Bool.false_and] at hreset
            cases hreset
      assigned := by
        intro u r hl
        rw [hf.userRoles] at hl
        obtain ⟨huser, hrole⟩ := hp.assigned u r hl
        refine ⟨?_, (hf.liveRole r).trans hrole⟩
        rw [hf.user, Option.isSome_map]
        exact huser
      granted := by
        intro r p hl
        rw [hf.liveRole]
        rcases (hf.grants r p).mp hl with hold | ⟨⟨role, hrole, hreset⟩, -⟩
        · exact hp.granted r p hold
        · unfold isResetRole at hreset
          rw [Bool.and_eq_true] at hreset
          exact Option.isSome_iff_exists.mpr ⟨role, Db.liveRole?_eq_some.mpr
            ⟨hrole, Option.isNone_iff_eq_none.mp hreset.2⟩⟩
      baseRole := by
        intro u hu
        rw [hf.liveUser, Option.isSome_map] at hu
        rw [hf.userRoles]
        exact hp.baseRole u hu
      limit := by
        intro u
        rw [hf.userRoles]
        exact hp.limit u }
  sole :=
    { atMostOne := by
        rw [hf.userRoles]
        exact hp.sole.atMostOne
      active := by
        intro u hl
        rw [hf.userRoles] at hl
        obtain ⟨user, hu, hact⟩ := hp.sole.active u hl
        refine ⟨_, (hf.liveUser u).trans (congrArg _ hu), ?_⟩
        show (if user.id ∈ touched then User.bumpAuthz.apply user else user).isActive = true
        split
        · exact hact
        · exact hact }

end

/-! ## both revisions -/

/-- what the migrations keep of the database that they find -/
structure Preserved (old : LegacyDb) (db : Db) : Prop where
  users : ∀ id, db.users.get? id = (old.users.get? id).map fun u =>
    { widenUser u with authzVersion := u.authzVersion + if u.isLive then 1 else 0 }
  roles : ∀ id r, old.roles.get? id = some r → db.roles.get? id = some (widenRole r)
  newRoles : ∀ id, (db.roles.get? id).isSome → old.roles.get? id = none → ∃ k, id = systemRoleId k
  permissions : Extends old.permissions db.permissions
  newPermissions : ∀ id p, db.permissions.get? id = some p → old.permissions.get? id = none →
    ∃ k, p = seededPermission k
  grants : ∀ r p, (old.roles.get? r).isSome →
    (db.rolePermissions.Linked r p ↔ old.rolePermissions.Linked r p)
  assignments : ∀ u r, db.userRoles.Linked u r ↔ old.userRoles.Linked u r ∨
    ((db.liveUser? u).isSome ∧ r = systemRoleId .user)
  state : db.rbacState = ⟨old.epoch + 2, true⟩

section
variable {now : Nat} {old : LegacyDb} {mid : RolesDb} {db : Db} {inserted touched : List Uuid}

theorem Seeded.nobody_resets (hs : Seeded old mid inserted) (u : Uuid) :
    holdsResetRole mid.roles mid.userRoles u = false := by
  rw [← Bool.not_eq_true]
  intro h
  unfold holdsResetRole at h
  obtain ⟨r, hr, hrole⟩ := List.any_eq_true.mp h
  have hl := Links.mem_rights.mp hr
  cases hget : mid.roles.get? r with
  | none =>
    rw [hget] at hrole
    cases hrole
  | some role =>
    rw [hget, Option.any_some, Bool.and_eq_true, List.contains_iff_mem] at hrole
    have hkey : ∃ k, k ≠ SystemRoleKey.user ∧ role.key = k.value := by
      rcases List.mem_cons.mp hrole.1 with hkey | hkey
      · exact ⟨.admin, by decide, hkey⟩
      · exact ⟨.superAdmin, by decide, List.mem_singleton.mp hkey⟩
    obtain ⟨k, hk, hkey⟩ := hkey
    have hsame : role = seededRole k 0 := Table.uniq_inj hget (hs.seeded k) hkey
    have hid : r = systemRoleId k := by
      rw [← Table.key_of_get? hget, hsame]
      rfl
    rcases (hs.assignments u r).mp hl with hold | ⟨-, he⟩
    · exact LegacyDb.not_assigned (hid ▸ hs.free k) u hold
    · exact hk (systemRoleId_injective (hid.symm.trans he))

theorem Seeded.untouched (hs : Seeded old mid inserted) (hf : Finished mid db touched) (u : Uuid) :
    u ∉ touched := by
  intro hu
  obtain ⟨user, -, -, hholds⟩ := (hf.written u).mp hu
  rw [hs.nobody_resets u] at hholds
  cases hholds

theorem permission_of_id {p : Permission} {id : Uuid} {k : PermissionKey} (hid : p.id = id)
    (he : id = permissionId k ∧ p.key = k.value) (hlive : p.deletedAt = none) :
    p = seededPermission k := by
  obtain ⟨i, key, del⟩ := p
  obtain ⟨rfl, rfl⟩ := he
  cases hlive
  cases hid
  rfl

theorem live_of_key {t : Permissions} {k : PermissionKey} {id : Uuid} {p : Permission}
    (h : (livePermissionId t k).isSome) (hp : t.get? id = some p) (hkey : p.key = k.value) :
    p.deletedAt = none := by
  obtain ⟨id', hid'⟩ := Option.isSome_iff_exists.mp h
  obtain ⟨p', hp', hkey', hlive⟩ := livePermissionId_eq_some.mp hid'
  rw [Table.uniq_inj hp hp' (hkey.trans hkey'.symm)]
  exact hlive

theorem Seeded.oldRole (hs : Seeded old mid inserted) {id : Uuid} {r : LegacyRole}
    (hr : old.roles.get? id = some r) : mid.roles.get? id = some (widenRole r) := by
  rw [hs.others id (hs.ne_of_some hr), hr, Option.map_some]

theorem Seeded.not_resetRole (hs : Seeded old mid inserted) {id : Uuid} {r : LegacyRole}
    (hr : old.roles.get? id = some r) : isResetRole (widenRole r) = false := by
  rw [← Bool.not_eq_true]
  intro hreset
  unfold isResetRole at hreset
  simp only [Bool.and_eq_true, List.contains_iff_mem] at hreset
  have hkey : ∃ k, (widenRole r).key = SystemRoleKey.value k := by
    rcases List.mem_cons.mp hreset.1.1 with hkey | hkey
    · exact ⟨.admin, hkey⟩
    · exact ⟨.superAdmin, List.mem_singleton.mp hkey⟩
  obtain ⟨k, hkey⟩ := hkey
  have hsame : widenRole r = seededRole k 0 := Table.uniq_inj (hs.oldRole hr) (hs.seeded k) hkey
  refine hs.ne_of_some hr k ?_
  rw [← Table.key_of_get? (hs.oldRole hr), hsame]
  rfl

theorem Seeded.preserved (hs : Seeded old mid inserted) (hf : Finished mid db touched) :
    Preserved old db where
  users id := by
    rw [hf.users, hs.users, Option.map_map]
    congr 1
    funext u
    simp only [Function.comp_apply, if_neg (hs.untouched hf _)]
    by_cases hlive : u.isLive = true
    · rw [if_pos hlive, if_pos hlive]
      rfl
    · rw [if_neg hlive, if_neg hlive]
      rfl
  roles id r hr := by
    rw [hf.roles, hs.oldRole hr, Option.map_some, hs.not_resetRole hr]
    rfl
  newRoles id hsome hnone := by
    by_contra hno
    rw [hf.roles, hs.others id fun k e => hno ⟨k, e⟩, hnone] at hsome
    cases hsome
  permissions := hs.permissions.extends_.trans hf.permissions.extends_
  newPermissions id p hp hnone := by
    have hall := hs.permissions.append hf.permissions.all
    rcases hall.added id p hp with hold | ⟨k, hk, hadded⟩
    · rw [hnone] at hold
      cases hold
    · have hid : p.id = id := Table.key_of_get? hp
      exact ⟨k, permission_of_id hid hadded (live_of_key (hall.live k hk) hp hadded.2)⟩
  grants r p hr := by
    obtain ⟨role, hrole⟩ := Option.isSome_iff_exists.mp hr
    rw [hf.grants, ← hs.grants r p (hs.ne_of_some hrole)]
    refine or_iff_left ?_
    rintro ⟨⟨role', hrole', hreset⟩, -⟩
    rw [hs.oldRole hrole, Option.some.injEq] at hrole'
    rw [← hrole', hs.not_resetRole hrole] at hreset
    cases hreset
  assignments u r := by
    rw [hf.userRoles, hs.assignments, hf.liveUser, Option.isSome_map, hs.live_iff]
  state := by
    rw [hf.state, hs.epoch]

theorem upgrade_ok : upgrade now old = .ok db ↔ ∃ mid inserted touched,
    upgrade0002 now old = .ok (mid, inserted) ∧ upgrade0004 mid = .ok (db, touched) ∧
    (∀ u ∈ inserted, db.assertUserRoleLimit u = .ok ()) ∧
    ∀ u ∈ touched, db.assertUserHasBaseRole u = .ok () := by
  unfold upgrade
  simp only [bind_ok, checkAll_ok, pure_ok]
  constructor
  · rintro ⟨⟨mid, inserted⟩, h₁, ⟨db', touched⟩, h₂, _, hlimit, _, hbase, rfl⟩
    exact ⟨mid, inserted, touched, h₁, h₂, hlimit, hbase⟩
  · rintro ⟨mid, inserted, touched, h₁, h₂, hlimit, hbase⟩
    exact ⟨(mid, inserted), h₁, (db, touched), h₂, (), hlimit, (), hbase, rfl⟩

theorem standing_upgrade (fit : Fit old) (h : upgrade now old = .ok db) :
    Standing db ∧ Preserved old db := by
  obtain ⟨mid, inserted, touched, h₁, h₂, hlimit, -⟩ := upgrade_ok.mp h
  have hs := seeded_upgrade0002 fit.custom h₁
  have hf := finished_upgrade0004 h₂
  have hp : Prepared mid.widen := by
    refine hs.prepared fit fun u hu => ?_
    have hu' := (require_ok _ _ _).mp (hlimit u hu)
    rw [hf.userRoles] at hu'
    exact hu'
  exact ⟨hp.standing hf, hs.preserved hf⟩

/-- **The application can run on what the migrations leave.**  On a database of revision 0001
without system roles, the upgrade keeps every user, role, assignment and grant, adds the three system
roles, their grants and the base role of every live user, raises the authorization version of exactly
the live users, and leaves the standing invariant; every run of the application from there keeps
it. -/
theorem upgrade_standing {lib : PasswordLibrary} (fit : Fit old) (h : upgrade now old = .ok db) :
    Preserved old db ∧ StoreInvariant db ∧
    (∀ u, ¬ db.userRoles.Linked u (systemRoleId .superAdmin)) ∧
    ∀ (st : Nat → Postgres) (lab : Nat → Call) (n : Nat), (st 0).db = db →
      (∀ i, i < n → (system lib).step (st i) (lab i) (st (i + 1))) → ∀ i ≤ n,
        StoreInvariant (st i).db := by
  obtain ⟨hstanding, hpre⟩ := standing_upgrade fit h
  have hnobody : ∀ u, ¬ db.userRoles.Linked u (systemRoleId .superAdmin) := by
    intro u hl
    rcases (hpre.assignments u _).mp hl with hold | ⟨-, he⟩
    · obtain ⟨r, hr⟩ := Option.isSome_iff_exists.mp (old.assigned u _ hold).2
      obtain ⟨role, hrole, hrest⟩ := hstanding.coherent.systemRole .superAdmin
      have hsame := (hpre.roles _ r hr).symm.trans (Db.liveRole?_eq_some.mp hrole).1
      have hsys : r.isSystem = true := by
        rw [← hrest.2.2.1, ← Option.some.inj hsame]
        rfl
      rw [fit.custom r (Table.get?_eq_some.mp hr).1] at hsys
      cases hsys
    · exact absurd (systemRoleId_injective he) (by decide)
  refine ⟨hpre, hstanding.storeInvariant, hnobody, ?_⟩
  intro st lab n hstart hnext i hi
  have hrun : Standing (st i).db := by
    induction i with
    | zero =>
      rw [hstart]
      exact hstanding
    | succ i ih => exact (kept_step (ih (by omega)) (hnext i hi)).standing
  exact hrun.storeInvariant

end

/-- a role of revision 0001 with one permission and one holder -/
def sampleLegacy : LegacyDb where
  users :=
    { rows := [⟨5, "alice", true, false, 0, 3, none⟩]
      key_nodup := by decide
      uniq_nodup := by decide
      checked := by decide }
  roles :=
    { rows := [⟨6, "editor", "Editor", 40, true, false, false, false, 2⟩]
      key_nodup := by decide
      uniq_nodup := by decide
      checked := by decide }
  permissions := freshLegacy.permissions
  rolePermissions :=
    { rows := [⟨6, permissionId .projectsUpdate, none⟩]
      live_nodup := by decide }
  userRoles :=
    { rows := [⟨5, 6, none⟩]
      live_nodup := by decide }
  epoch := 4
  singleSuperAdmin := by decide
  granted := by
    intro r p h
    obtain ⟨rfl, rfl⟩ := Prod.mk.inj (List.mem_singleton.mp h)
    decide
  assigned := by
    intro u r h
    obtain ⟨rfl, rfl⟩ := Prod.mk.inj (List.mem_singleton.mp h)
    decide
  limit := by
    intro u
    unfold Links.rights
    rw [List.length_map]
    exact Nat.le_trans (List.length_filter_le _ _) (show 1 ≤ maxRolesPerUser by decide)

theorem sampleLegacy_fit : Fit sampleLegacy where
  custom := show ∀ r ∈ sampleLegacy.roles.rows, r.isSystem = false by decide
  grants := by
    intro r p perm h hperm
    obtain ⟨rfl, rfl⟩ := Prod.mk.inj (List.mem_singleton.mp h)
    have hp : perm = seededPermission .projectsUpdate := by
      have hget : sampleLegacy.permissions.get? (permissionId .projectsUpdate) =
          some (seededPermission .projectsUpdate) := by decide
      exact Option.some.inj (hperm.symm.trans hget)
    rw [hp]
    decide +kernel

theorem upgrade_standing_sample : ∃ db, upgrade 9 sampleLegacy = .ok db ∧ StoreInvariant db ∧
    db.userRoles.Linked 5 6 ∧ db.userRoles.Linked 5 (systemRoleId .user) := by
  have hok : (upgrade 9 sampleLegacy).toOption.isSome = true := by decide +kernel
  cases h : upgrade 9 sampleLegacy with
  | error e =>
    rw [h] at hok
    cases hok
  | ok db =>
    obtain ⟨hpre, hinv, -⟩ := @upgrade_standing 9 sampleLegacy db sampleLibrary sampleLegacy_fit h
    refine ⟨db, rfl, hinv, (hpre.assignments 5 6).mpr (Or.inl (by decide)), ?_⟩
    refine (hpre.assignments 5 _).mpr (Or.inr ⟨?_, rfl⟩)
    have hu := hpre.users 5
    have hold : sampleLegacy.users.get? 5 = some ⟨5, "alice", true, false, 0, 3, none⟩ := by decide
    rw [hold] at hu
    exact Option.isSome_iff_exists.mpr ⟨_, Db.liveUser?_eq_some.mpr ⟨hu, rfl⟩⟩

/-- an empty database becomes the migrated one, up to the order of the grants -/
example : ((upgrade 0 freshLegacy).toOption.any fun db =>
    decide (db.users.rows = [] ∧ db.roles.rows = migratedDb.roles.rows ∧
      db.permissions.rows = migratedDb.permissions.rows ∧
      db.rolePermissions.rows.Perm migratedDb.rolePermissions.rows ∧ db.userRoles.rows = [] ∧
      db.rbacState = migratedDb.rbacState)) = true := by
  decide +kernel

end PgRbac.Migrations
