import PgRbac.Upgrades

/-!
# Which databases can be upgraded

`upgrade` fails on a database that it does not fit, and then nothing of it is committed.  `Upgradable`
says which databases it takes; the proof follows the statements, once in each direction.

* `restorePermission_isOk`, `ensureSystemRole_isOk`, `replaceSystemRoleGrants_isOk`    the helpers;
* `upgrade0002_isOk`, `upgrade0004_isOk`    the revisions;
* `upgrade_iff`                             the whole.
-/

set_option linter.unusedVariables false

namespace PgRbac.Migrations

open Fallible Store

/-- the permissions that the two revisions restore -/
def restoredKeys : List PermissionKey := newPermissions ++ [.usersPasswordReset]

/-- the id for a missing permission is free -/
def Addable (permissions : Permissions) (k : PermissionKey) : Prop :=
  permissions.findBy? k.value = none → permissions.get? (permissionId k) = none

/-- what the statements need in a database without system roles -/
structure Seedable (old : LegacyDb) : Prop where
  keys : ∀ (k : SystemRoleKey) r, r ∈ old.roles.rows → r.key ≠ k.value
  ids : ∀ k, old.roles.get? (systemRoleId k) = none
  tiers : ∀ r ∈ old.roles.rows, 1 ≤ r.managementTier
  addable : ∀ k ∈ restoredKeys, Addable old.permissions k
  catalog : ∀ k, k ∉ restoredKeys → (livePermissionId old.permissions k).isSome
  room : ∀ u user, old.users.get? u = some user → user.isLive = true →
    (old.userRoles.rights u).length < maxRolesPerUser

/-- and the counters, of which the epoch is raised twice and the authorization version of every live
user once -/
structure Upgradable (old : LegacyDb) : Prop extends Seedable old where
  epoch : old.epoch + 2 ≤ bigintMax
  users : ∀ u ∈ old.users.rows, u.tokenVersion ≤ bigintMax ∧
    u.authzVersion + (if u.isLive then 1 else 0) ≤ bigintMax
  roles : ∀ r ∈ old.roles.rows, r.version ≤ bigintMax

/-! ## permissions -/

theorem permissionId_injective : Function.Injective permissionId := by
  have hnodup : (permissionCatalog.map permissionId).Nodup := by decide +kernel
  have hmem : ∀ k, k ∈ permissionCatalog := by
    intro k
    cases k <;> decide
  intro k k' h
  exact List.inj_on_of_nodup_map hnodup (hmem k) (hmem k') h

theorem restorePermission_isOk {t : Permissions} {k : PermissionKey} (h : Addable t k) :
    ∃ t', restorePermission t k = .ok t' := by
  unfold restorePermission
  cases hf : t.findBy? k.value with
  | none =>
    obtain ⟨t', ht'⟩ := Table.insert?_isOk (r := seededPermission k) (h hf) hf rfl
    exact ⟨t', (orViolation_ok _ _ _).mpr ht'⟩
  | some q =>
    obtain ⟨t', ht'⟩ := Table.update?_isOk (t := t) (p := fun p => p.key = k.value) (f := revive)
      fun _ _ _ => rfl
    exact ⟨t', (orViolation_ok _ _ _).mpr ht'⟩

theorem Extends.findBy? {t t' : Permissions} (h : Extends t t') {key : String}
    (hnone : t'.findBy? key = none) : t.findBy? key = none := by
  cases hf : t.findBy? key with
  | none => rfl
  | some p =>
    obtain ⟨hp, hkey⟩ := Table.findBy?_iff_get?.mp hf
    obtain ⟨p', hp', hsame⟩ := h p.id p hp
    have hkey' : p'.key = key := by
      rcases hsame with rfl | rfl <;> exact hkey
    have hid : p'.id = p.id := Table.key_of_get? hp'
    have hfound : t'.findBy? key = some p' := Table.findBy?_iff_get?.mpr ⟨hid ▸ hp', hkey'⟩
    rw [hnone] at hfound
    cases hfound

theorem live_findBy? {t : Permissions} {k : PermissionKey} (h : (livePermissionId t k).isSome) :
    t.findBy? k.value ≠ none := by
  obtain ⟨id, hid⟩ := Option.isSome_iff_exists.mp h
  obtain ⟨p, hp, hkey, -⟩ := livePermissionId_eq_some.mp hid
  intro hnone
  have hpid : p.id = id := Table.key_of_get? hp
  have hfound : t.findBy? k.value = some p := Table.findBy?_iff_get?.mpr ⟨hpid ▸ hp, hkey⟩
  rw [hnone] at hfound
  cases hfound

theorem Restored.addable {t t' : Permissions} {k k' : PermissionKey} (h : Restored k t t')
    (ha : Addable t k') : Addable t' k' := by
  intro hnone
  have hfree := ha (h.extends_.findBy? hnone)
  cases hget : t'.get? (permissionId k') with
  | none => rfl
  | some p =>
    rcases h.added _ p hget with hsome | ⟨hid, -⟩
    · rw [hfree] at hsome
      cases hsome
    · rw [permissionId_injective hid] at hnone
      exact absurd hnone (live_findBy? h.live)

theorem restorePermissions_isOk {ks : List PermissionKey} {t : Permissions}
    (h : ∀ k ∈ ks, Addable t k) : ∃ t', ks.foldlM restorePermission t = .ok t' := by
  induction ks generalizing t with
  | nil => exact ⟨t, rfl⟩
  | cons k ks ih =>
    obtain ⟨t₁, h₁⟩ := restorePermission_isOk (h k List.mem_cons_self)
    have hr := restorePermission_ok h₁
    obtain ⟨t', h'⟩ := ih fun k' hk' => hr.addable (h k' (List.mem_cons_of_mem _ hk'))
    refine ⟨t', ?_⟩
    rw [List.foldlM_cons, bind_ok]
    exact ⟨t₁, h₁, h'⟩

theorem RestoredAll.addable {ks : List PermissionKey} {t t' : Permissions} {k : PermissionKey}
    (h : RestoredAll ks t t') (ha : Addable t k) : Addable t' k := by
  intro hnone
  have hfree := ha (h.extends_.findBy? hnone)
  cases hget : t'.get? (permissionId k) with
  | none => rfl
  | some p =>
    rcases h.added _ p hget with hsome | ⟨k', hk', hid, -⟩
    · rw [hfree] at hsome
      cases hsome
    · rw [permissionId_injective hid] at hnone
      exact absurd hnone (live_findBy? (h.live k' hk'))

theorem RestoredAll.addable_of_mem {ks : List PermissionKey} {t t' : Permissions}
    {k : PermissionKey} (h : RestoredAll ks t t') (hk : k ∈ ks) : Addable t k := by
  intro hnone
  obtain ⟨id, hid⟩ := Option.isSome_iff_exists.mp (h.live k hk)
  obtain ⟨p, hp, hkey, -⟩ := livePermissionId_eq_some.mp hid
  have hnew : t.get? id = none := by
    cases hold : t.get? id with
    | none => rfl
    | some p₀ =>
      obtain ⟨p', hp', hsame⟩ := h.extends_ id p₀ hold
      rw [hp, Option.some.injEq] at hp'
      have hkey₀ : p₀.key = k.value := by
        rcases hsame with rfl | rfl
        · exact hp' ▸ hkey
        · exact (congrArg Permission.key hp').symm.trans hkey
      have hpid : p₀.id = id := Table.key_of_get? hold
      have hfound : t.findBy? k.value = some p₀ := Table.findBy?_iff_get?.mpr ⟨hpid ▸ hold, hkey₀⟩
      rw [hnone] at hfound
      cases hfound
  rcases h.added id p hp with hsome | ⟨k', -, hid', hkey'⟩
  · rw [hnew] at hsome
    cases hsome
  · have e : k' = k := PermissionKey.value_injective (hkey'.symm.trans hkey)
    rw [← e, ← hid']
    exact hnew

theorem RestoredAll.live_before {ks : List PermissionKey} {t t' : Permissions} {k : PermissionKey}
    (h : RestoredAll ks t t') (hk : k ∉ ks) (hlive : (livePermissionId t' k).isSome) :
    (livePermissionId t k).isSome := by
  obtain ⟨id, hid⟩ := Option.isSome_iff_exists.mp hlive
  obtain ⟨p, hp, hkey, hdel⟩ := livePermissionId_eq_some.mp hid
  rcases h.others id p hp with ⟨k', hk', hkey'⟩ | hold
  · have e : k = k' := PermissionKey.value_injective (hkey.symm.trans hkey')
    exact absurd (e ▸ hk') hk
  · exact Option.isSome_iff_exists.mpr ⟨id, livePermissionId_eq_some.mpr ⟨p, hold, hkey, hdel⟩⟩

/-! ## roles and grants -/

/-- no role with this key or this id, and no second super administrator role -/
structure Room (roles : OpenRoles) (k : SystemRoleKey) : Prop where
  key : roles.findBy? k.value = none
  id : roles.get? (systemRoleId k) = none
  single : (seededRole k 0).isSuperAdmin = false ∨ ∀ r ∈ roles.rows, r.isSuperAdmin = false

theorem openChecks_seededRole (k : SystemRoleKey) : openChecks (seededRole k 0) = true := by
  cases k <;> decide

theorem ensureSystemRole_isOk {roles : OpenRoles} {k : SystemRoleKey} (h : Room roles k) :
    ∃ made, ensureSystemRole roles k = .ok made := by
  obtain ⟨roles', hins⟩ := Table.insert?_isOk (r := seededRole k 0) h.id h.key
    (openChecks_seededRole k)
  refine ⟨(roles', systemRoleId k), ?_⟩
  unfold ensureSystemRole
  simp only [h.key, bind_ok, require_ok, orViolation_ok, pure_ok]
  exact ⟨(), h.single, roles', hins, rfl⟩

theorem Seeds.room {roles roles' : OpenRoles} {k k' : SystemRoleKey} (h : Seeds k roles roles')
    (hne : k ≠ k') (hk' : k' ≠ .superAdmin) (hkey : roles.findBy? k'.value = none)
    (hid : roles.get? (systemRoleId k') = none) : Room roles' k' where
  key := by
    cases hf : roles'.findBy? k'.value with
    | none => rfl
    | some r =>
      obtain ⟨hr, hrkey⟩ := Table.findBy?_iff_get?.mp hf
      rw [h.get?] at hr
      by_cases he : r.id = systemRoleId k
      · rw [if_pos he] at hr
        cases hr
        exact absurd (SystemRoleKey.value_injective hrkey) hne
      · rw [if_neg he] at hr
        have hfound : roles.findBy? k'.value = some r := Table.findBy?_iff_get?.mpr ⟨hr, hrkey⟩
        rw [hkey] at hfound
        cases hfound
  id := by
    rw [h.get?, if_neg fun he => hne (systemRoleId_injective he).symm]
    exact hid
  single := by
    refine Or.inl ?_
    cases k' with
    | superAdmin => exact absurd rfl hk'
    | admin => rfl
    | user => rfl

theorem replaceSystemRoleGrants_isOk {permissions : Permissions} {keys : List PermissionKey}
    (h : ∀ k ∈ keys, (livePermissionId permissions k).isSome) (now : Nat)
    (grants : Links Uuid Uuid) (roleId : Uuid) :
    ∃ grants', replaceSystemRoleGrants now permissions grants roleId keys = .ok grants' := by
  have hmissing : (keys.filter fun k => (livePermissionId permissions k).isNone) = [] := by
    rw [List.filter_eq_nil_iff]
    intro k hk hnone
    obtain ⟨id, hid⟩ := Option.isSome_iff_exists.mp (h k hk)
    rw [hid] at hnone
    cases hnone
  unfold replaceSystemRoleGrants
  simp only [bind_ok, require_ok, pure_ok]
  exact ⟨_, (), hmissing, rfl⟩

theorem checks_widenRole {r : LegacyRole} (hc : r.checks = true) (hcustom : r.isSystem = false)
    (hkey : ∀ k : SystemRoleKey, r.key ≠ k.value) :
    (widenRole r).checks = true ↔ 1 ≤ r.managementTier := by
  have h₁ : (r.key != "super_admin") = true := bne_iff_ne.mpr (hkey .superAdmin)
  have h₂ : (r.key != "admin") = true := bne_iff_ne.mpr (hkey .admin)
  have h₃ : (r.key != "user") = true := bne_iff_ne.mpr (hkey .user)
  unfold LegacyRole.checks at hc
  simp only [Bool.and_eq_true, Bool.or_eq_true, decide_eq_true_eq, beq_iff_eq, hcustom,
    Bool.not_eq_true', Bool.false_eq_true, false_and, or_false] at hc
  obtain ⟨⟨⟨hle, htop⟩, hprot⟩, hsuper⟩ := hc
  rw [hsuper, Bool.false_eq_true, or_false] at htop
  unfold Role.checks widenRole
  simp only [hcustom, ← hprot, hsuper, h₁, h₂, h₃, Bool.and_eq_true, Bool.or_eq_true,
    decide_eq_true_eq, Bool.not_false, Option.isNone_none, true_or, and_true, Bool.false_eq_true,
    false_or, or_false]
  omega

/-! ## the revisions -/

section
variable {old : LegacyDb} {mid : RolesDb} {db : Db} {inserted touched : List Uuid}

theorem Table.findBy?_eq_none {κ μ ρ : Type} [DecidableEq κ] [DecidableEq μ] {key : ρ → κ}
    {uniq : ρ → μ} {check : ρ → Bool} {t : Table key uniq check} {m : μ}
    (h : ∀ r ∈ t.rows, uniq r ≠ m) : t.findBy? m = none := by
  refine List.find?_eq_none.mpr ?_
  intro r hr he
  exact h r hr (of_decide_eq_true he)

theorem Seedable.room_openRoles (up : Seedable old) (k : SystemRoleKey) :
    (openRoles old.roles).findBy? k.value = none ∧
      (openRoles old.roles).get? (systemRoleId k) = none := by
  refine ⟨Table.findBy?_eq_none ?_, ?_⟩
  · intro r hr
    obtain ⟨r₀, hr₀, rfl⟩ := List.mem_map.mp hr
    exact up.keys k r₀ hr₀
  · rw [get?_openRoles, up.ids, Option.map_none]

theorem LegacyRole.not_superAdmin {r : LegacyRole} (hc : r.checks = true)
    (hcustom : r.isSystem = false) : r.isSuperAdmin = false := by
  unfold LegacyRole.checks at hc
  simp only [Bool.and_eq_true, Bool.or_eq_true, hcustom, Bool.not_eq_true', Bool.false_eq_true,
    false_and, or_false] at hc
  exact hc.2

theorem checks_seededRole (k : SystemRoleKey) : (seededRole k 0).checks = true := by
  cases k <;> decide +kernel

/-- after 0002 has restored its permissions, those that the system roles are granted are live -/
theorem Seedable.seeded_live (up : Seedable old) {permissions : Permissions}
    (hr : RestoredAll newPermissions old.permissions permissions) (k : SystemRoleKey) :
    ∀ key ∈ seededKeys k, (livePermissionId permissions key).isSome := by
  intro key hkey
  have hreset : key ≠ .usersPasswordReset := by
    rintro rfl
    cases k <;> exact absurd hkey (by decide)
  by_cases hnew : key ∈ newPermissions
  · exact hr.live key hnew
  · have hold : key ∉ restoredKeys := by
      intro hm
      rcases List.mem_append.mp hm with hm | hm
      · exact hnew hm
      · exact hreset (List.mem_singleton.mp hm)
    obtain ⟨id, hid⟩ := Option.isSome_iff_exists.mp (up.catalog key hold)
    exact Option.isSome_iff_exists.mpr ⟨id, hr.extends_.live hid⟩

/-- the constraints that are put back hold of the system roles and of the custom ones -/
theorem Seedable.checked (up : Seedable old) (hcustom : old.Custom) {roles : OpenRoles}
    (hseeds : SeedsAll (openRoles old.roles) roles) : ∀ r ∈ roles.rows, r.checks = true := by
  intro r hr
  have hget := Table.mem_rows_iff.mp hr
  by_cases hsystem : ∃ k, r.id = systemRoleId k
  · obtain ⟨k, hk⟩ := hsystem
    rw [hk, hseeds.seeded] at hget
    exact Option.some.inj hget ▸ checks_seededRole k
  · rw [hseeds.others _ fun k hk => hsystem ⟨k, hk⟩, get?_openRoles] at hget
    obtain ⟨r₀, hr₀, rfl⟩ := Option.map_eq_some_iff.mp hget
    have hm := (Table.get?_eq_some.mp hr₀).1
    exact (checks_widenRole (old.roles.checked r₀ hm) (hcustom r₀ hm)
      fun k => up.keys k r₀ hm).mpr (up.tiers r₀ hm)

/-- there is room for the three roles, one after the other -/
theorem Seedable.made_isOk (up : Seedable old) (hcustom : old.Custom) :
    ∃ made₁ made₂ made₃, ensureSystemRole (openRoles old.roles) .superAdmin = .ok made₁ ∧
      ensureSystemRole made₁.1 .admin = .ok made₂ ∧ ensureSystemRole made₂.1 .user = .ok made₃ := by
  have hroom := up.room_openRoles
  have hsingle : ∀ r ∈ (openRoles old.roles).rows, r.isSuperAdmin = false := by
    intro r hr
    obtain ⟨r₀, hr₀, rfl⟩ := List.mem_map.mp hr
    exact LegacyRole.not_superAdmin (old.roles.checked r₀ hr₀) (hcustom r₀ hr₀)
  have hroom₁ : Room (openRoles old.roles) .superAdmin := ⟨(hroom _).1, (hroom _).2, Or.inr hsingle⟩
  obtain ⟨made₁, hmade₁⟩ := ensureSystemRole_isOk hroom₁
  obtain ⟨-, hseed₁⟩ := ensureSystemRole_ok (hcustom.unclaimed .superAdmin) hmade₁
  have hroom₂ : Room made₁.1 .admin :=
    hseed₁.room (by decide) (by decide) (hroom _).1 (hroom _).2
  have hroom₃ : Room made₁.1 .user :=
    hseed₁.room (by decide) (by decide) (hroom _).1 (hroom _).2
  obtain ⟨made₂, hmade₂⟩ := ensureSystemRole_isOk hroom₂
  have hun₂ := hseed₁.unclaimed (by decide) (hcustom.unclaimed .admin)
  obtain ⟨-, hseed₂⟩ := ensureSystemRole_ok hun₂ hmade₂
  have hroom₄ : Room made₂.1 .user := hseed₂.room (by decide) (by decide) hroom₃.key hroom₃.id
  obtain ⟨made₃, hmade₃⟩ := ensureSystemRole_isOk hroom₄
  exact ⟨made₁, made₂, made₃, hmade₁, hmade₂, hmade₃⟩

/-- **0002 goes through** on a database that it fits -/
theorem upgrade0002_isOk (now : Nat) (hcustom : old.Custom) (up : Seedable old) :
    ∃ made, upgrade0002 now old = .ok made := by
  have hadd : ∀ k ∈ newPermissions, Addable old.permissions k :=
    fun k hk => up.addable k (List.mem_append_left _ hk)
  obtain ⟨permissions, hperm⟩ := restorePermissions_isOk hadd
  have hseeded := up.seeded_live (restorePermissions_ok hperm)
  obtain ⟨made₁, made₂, made₃, hmade₁, hmade₂, hmade₃⟩ := up.made_isOk hcustom
  obtain ⟨-, -, -, hseeds⟩ := hcustom.made hmade₁ hmade₂ hmade₃
  -- their grants
  obtain ⟨grants₁, hgrants₁⟩ := replaceSystemRoleGrants_isOk (hseeded .superAdmin) now
    old.rolePermissions made₁.2
  obtain ⟨grants₂, hgrants₂⟩ := replaceSystemRoleGrants_isOk (hseeded .admin) now grants₁ made₂.2
  obtain ⟨grants₃, hgrants₃⟩ := replaceSystemRoleGrants_isOk (hseeded .user) now grants₂ made₃.2
  -- the users and the constraints that are put back
  obtain ⟨users, husers⟩ : ∃ users, old.users.update? (fun u =>
      (((old.users.rows.filter LegacyUser.isLive).map LegacyUser.id).filter fun u =>
        !decide (old.userRoles.Linked u made₃.2)).contains u.id) bumpLegacyAuthz = .ok users :=
    Table.update?_isOk fun r hr _ => old.users.checked r hr
  obtain ⟨roles, hroles⟩ : ∃ roles : Table Role.id Role.key Role.checks,
      made₃.1.recheck? = .ok roles := ⟨_, dif_pos (up.checked hcustom hseeds)⟩
  unfold upgrade0002
  simp only [bind_ok, orViolation_ok, pure_ok]
  exact ⟨_, permissions, hperm, made₁, hmade₁, made₂, hmade₂, made₃, hmade₃, grants₁, hgrants₁,
    grants₂, hgrants₂, grants₃, hgrants₃, users, husers, roles, hroles, rfl⟩

theorem checks_bumpVersion (r : Role) (h : r.checks = true) :
    (Role.bumpVersion.apply r).checks = true := h

theorem checks_bumpAuthz (u : User) (h : u.checks = true) : (User.bumpAuthz.apply u).checks = true := h

/-- **0004 goes through** unless another permission has the id of the one it adds -/
theorem upgrade0004_isOk (h : Addable mid.permissions .usersPasswordReset) :
    ∃ made, upgrade0004 mid = .ok made := by
  obtain ⟨permissions, hperm⟩ := restorePermission_isOk h
  obtain ⟨roles, hroles⟩ := Table.update?_isOk (t := mid.roles) (p := isResetRole)
    (f := Role.bumpVersion) fun r hr _ => checks_bumpVersion r (mid.roles.checked r hr)
  have husers : ∃ users, mid.widen.users.update? (fun u =>
      (((mid.users.rows.filter LegacyUser.isLive).map LegacyUser.id).filter
        (holdsResetRole mid.roles mid.userRoles)).contains u.id) User.bumpAuthz = .ok users :=
    Table.update?_isOk fun u hu _ => checks_bumpAuthz u (mid.widen.users.checked u hu)
  obtain ⟨users, husers⟩ := husers
  unfold upgrade0004
  simp only [bind_ok, orViolation_ok, pure_ok]
  exact ⟨_, permissions, hperm, roles, hroles, users, husers, rfl⟩

/-! ## the upgrade -/

theorem Seeded.length_rights (hs : Seeded old mid inserted) {u : Uuid} (hu : u ∈ inserted) :
    (mid.userRoles.rights u).length = (old.userRoles.rights u).length + 1 := by
  refine Links.length_rights_succ (LegacyDb.not_assigned (hs.free .user) u) ?_
  intro r
  rw [hs.assignments]
  exact or_congr_right (and_iff_right hu)

theorem Seeded.seedable (hcustom : old.Custom) (hs : Seeded old mid inserted)
    (hf : Finished mid db touched) (hlimit : ∀ u ∈ inserted, db.assertUserRoleLimit u = .ok ()) :
    Seedable old := by
  have hkeys : ∀ (k : SystemRoleKey) r, r ∈ old.roles.rows → r.key ≠ k.value := by
    intro k r hr hkey
    have hget := Table.mem_rows_iff.mp hr
    have hsame : widenRole r = seededRole k 0 := Table.uniq_inj (hs.oldRole hget) (hs.seeded k) hkey
    have hsys : r.isSystem = true := congrArg Role.isSystem hsame
    rw [hcustom r hr] at hsys
    cases hsys
  refine ⟨hkeys, hs.free, ?_, ?_, ?_, ?_⟩
  · intro r hr
    have hget := Table.mem_rows_iff.mp hr
    exact (checks_widenRole (old.roles.checked r hr) (hcustom r hr) fun k => hkeys k r hr).mp
      (Table.check_of_get? (hs.oldRole hget))
  · intro k hk
    exact (hs.permissions.append hf.permissions.all).addable_of_mem hk
  · intro k hk
    have hne : k ∉ newPermissions := fun hm => hk (List.mem_append_left _ hm)
    refine hs.permissions.live_before hne ?_
    have hmem : k ∈ seededKeys .superAdmin := by
      cases k <;> first | decide | exact absurd (by decide) hk
    exact hs.live .superAdmin k hmem
  · intro u user hu hlive
    have hin : u ∈ inserted := (hs.touched u).mpr ⟨user, hu, hlive⟩
    have hle := (require_ok _ _ _).mp (hlimit u hin)
    rw [hf.userRoles, hs.length_rights hin] at hle
    exact hle

/-- the statements go through on a seedable database -/
theorem Seedable.upgrade_isOk (up : Seedable old) (hcustom : old.Custom) (now : Nat) :
    ∃ db, upgrade now old = .ok db := by
  obtain ⟨⟨mid, inserted⟩, h₁⟩ := upgrade0002_isOk now hcustom up
  have hs := seeded_upgrade0002 hcustom h₁
  have hreset : Addable mid.permissions .usersPasswordReset :=
    hs.permissions.addable (up.addable _ (by decide))
  obtain ⟨⟨db, touched⟩, h₂⟩ := upgrade0004_isOk hreset
  have hf := finished_upgrade0004 h₂
  refine ⟨db, upgrade_ok.mpr ⟨mid, inserted, touched, h₁, h₂, ?_, ?_⟩⟩
  · intro u hu
    obtain ⟨user, huser, hlive⟩ := (hs.touched u).mp hu
    have hroom := up.room u user huser hlive
    rw [← Nat.succ_le_iff, Nat.succ_eq_add_one, ← hs.length_rights hu, ← hf.userRoles] at hroom
    exact (require_ok _ _ _).mpr hroom
  · exact fun u hu => absurd hu (hs.untouched hf u)

theorem Seeded.version_le (hs : Seeded old mid inserted) (hf : Finished mid db touched)
    {k : SystemRoleKey} {role : Role} (h : db.roles.get? (systemRoleId k) = some role) :
    role.version ≤ 1 := by
  rw [hf.roles, hs.seeded, Option.map_some, Option.some.injEq] at h
  rw [← h]
  by_cases hreset : isResetRole (seededRole k 0) = true
  · rw [if_pos hreset]
    exact Nat.le_refl 1
  · rw [if_neg hreset]
    exact Nat.zero_le 1

theorem Seeded.fits_iff (hs : Seeded old mid inserted) (hf : Finished mid db touched) :
    db.fits = true ↔ old.epoch + 2 ≤ bigintMax ∧
      (∀ u ∈ old.users.rows, u.tokenVersion ≤ bigintMax ∧
        u.authzVersion + (if u.isLive then 1 else 0) ≤ bigintMax) ∧
      ∀ r ∈ old.roles.rows, r.version ≤ bigintMax := by
  have hpre := hs.preserved hf
  rw [Db.fits_iff, hpre.state]
  refine and_congr_right fun _ => and_congr ?_ ?_
  · constructor
    · intro h u hu
      have hget := hpre.users u.id
      rw [Table.mem_rows_iff.mp hu] at hget
      exact h _ (Table.get?_eq_some.mp hget).1
    · intro h u hu
      have hget := Table.mem_rows_iff.mp hu
      rw [hpre.users, Option.map_eq_some_iff] at hget
      obtain ⟨before, hbefore, rfl⟩ := hget
      exact h before (Table.get?_eq_some.mp hbefore).1
  · constructor
    · intro h r hr
      exact h _ (Table.get?_eq_some.mp (hpre.roles r.id r (Table.mem_rows_iff.mp hr))).1
    · intro h r hr
      have hget := Table.mem_rows_iff.mp hr
      cases hold : old.roles.get? r.id with
      | some before =>
        rw [hpre.roles _ _ hold, Option.some.injEq] at hget
        rw [← hget]
        exact h before (Table.get?_eq_some.mp hold).1
      | none =>
        obtain ⟨k, hk⟩ := hpre.newRoles r.id (Option.isSome_iff_exists.mpr ⟨r, hget⟩) hold
        rw [hk] at hget
        exact Nat.le_trans (hs.version_le hf hget) (by decide)

/-- **A database without system roles can be upgraded exactly when** nobody has taken the keys or
the ids of the three roles, no role has tier 0, the permissions of revision 0001 that the system
roles are granted are live, the ids of missing permissions are free, every live user has room for
one role more, and no counter is raised beyond its column. -/
theorem upgrade_iff (now : Nat) (hcustom : old.Custom) :
    (∃ db, upgradeStored now old = .ok db) ↔ Upgradable old := by
  have hstored (db : Db) : upgradeStored now old = .ok db ↔
      upgrade now old = .ok db ∧ db.fits = true := by
    unfold upgradeStored
    simp only [bind_ok, require_ok, pure_ok]
    constructor
    · rintro ⟨_, h, _, hfits, rfl⟩
      exact ⟨h, hfits⟩
    · exact fun h => ⟨db, h.1, (), h.2, rfl⟩
  simp only [hstored]
  constructor
  · rintro ⟨db, h, hfits⟩
    obtain ⟨mid, inserted, touched, h₁, h₂, hlimit, -⟩ := upgrade_ok.mp h
    have hs := seeded_upgrade0002 hcustom h₁
    have hf := finished_upgrade0004 h₂
    obtain ⟨hepoch, husers, hroles⟩ := (hs.fits_iff hf).mp hfits
    exact ⟨hs.seedable hcustom hf hlimit, hepoch, husers, hroles⟩
  · intro up
    obtain ⟨db, h⟩ := up.toSeedable.upgrade_isOk hcustom now
    obtain ⟨mid, inserted, touched, h₁, h₂, -⟩ := upgrade_ok.mp h
    have hs := seeded_upgrade0002 hcustom h₁
    exact ⟨db, h, (hs.fits_iff (finished_upgrade0004 h₂)).mpr ⟨up.epoch, up.users, up.roles⟩⟩

theorem upgrade_iff_sample : Upgradable sampleLegacy :=
  (upgrade_iff 9 sampleLegacy_fit.custom).mp (by
    have hok : (upgradeStored 9 sampleLegacy).toOption.isSome = true := by decide +kernel
    cases h : upgradeStored 9 sampleLegacy with
    | error e =>
      rw [h] at hok
      cases hok
    | ok db => exact ⟨db, rfl⟩)

end

end PgRbac.Migrations
