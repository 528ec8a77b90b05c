import PgRbac.Batches
import PgRbac.Refusals

/-!
# The super administrator is not locked out

Whatever the other administrators build stays beneath the super administrator: below tier 1000, and
within its permissions.  So it can act on every other user and take every custom role apart, and no
operation of another user touches its own account.

* `Holder`                   the user that holds the super administrator role;
* `Holder.governs`           every other unprotected user is governed by it;
* `unflagged_body`           no operation sets the protection flag of a user;
* `unbind_isOk`, `disable_isOk`, `delete_isOk`    what the holder can undo;
* `ByOthers`                 the online operations of everybody else;
* `secure_body`              none of them touches the holder;
* `holder_secure`            both, along every run.
-/

set_option linter.unusedVariables false
set_option linter.unusedSectionVars false

namespace PgRbac

open Fallible Store Trace AuthoritySnapshot

/-- the user that holds the super administrator role -/
structure Holder (db : Db) (h : Uuid) (row : User) : Prop where
  live : db.liveUser? h = some row
  active : row.isActive = true
  holds : db.userRoles.Linked h (systemRoleId .superAdmin)

section
variable {lib : PasswordLibrary} {db db' : Db} {h : Uuid} {row u : User}
  {context : AuthorizationContext}

theorem Standing.holder (hs : Standing db) (hl : db.userRoles.Linked h (systemRoleId .superAdmin)) :
    ∃ row, Holder db h row := by
  obtain ⟨row, hlive, hactive⟩ := hs.sole.active h hl
  exact ⟨row, hlive, hactive, hl⟩

theorem Holder.id (hh : Holder db h row) : row.id = h := Db.id_of_liveUser? hh.live

/-! ## the holder stands above everybody else -/

theorem Holder.grant (hs : Standing db) (hh : Holder db h row) :
    ∃ g ∈ db.roleGrantsForUser row.id false, g.isSuperAdmin = true ∧ g.managementTier = 1000 ∧
      g.permissions = superAdminPermissionKeys := by
  obtain ⟨role, hr, hid, -, -, hactive, -, hsuper, htier⟩ := hs.coherent.systemRole .superAdmin
  obtain ⟨role', hr', -, hkeys⟩ := hs.coherent.system .superAdmin
  refine ⟨db.roleGrant role, Db.mem_roleGrantsForUser.mpr ⟨role, ?_, ?_, Or.inr hactive, rfl⟩,
    hsuper, htier, ?_⟩
  · rw [hid, hh.id]
    exact hh.holds
  · rw [hid]
    exact hr
  · show db.rolePermissionKeys role.id = _
    rw [hid]
    exact hkeys

theorem Holder.isSuperAdmin (hs : Standing db) (hh : Holder db h row) :
    (db.authority false row).isSuperAdmin = true := by
  obtain ⟨g, hg, hsuper, -, -⟩ := hh.grant hs
  exact List.any_eq_true.mpr ⟨g, hg, hsuper⟩

theorem Holder.tier (hs : Standing db) (hh : Holder db h row) :
    1000 ≤ (db.authority false row).managementTier := by
  obtain ⟨g, hg, -, htier, -⟩ := hh.grant hs
  rw [← htier]
  exact le_maxTier hg

theorem Holder.permissions (hs : Standing db) (hh : Holder db h row) :
    superAdminPermissionKeys ⊆ (db.authority false row).permissions := by
  obtain ⟨g, hg, -, -, hkeys⟩ := hh.grant hs
  intro p hp
  exact mem_grantedPermissions.mpr ⟨g, hg, by rw [hkeys]; exact hp⟩

theorem Holder.permitted (hs : Standing db) (hh : Holder db h row) (k : PermissionKey)
    (hk : k.value ∈ superAdminPermissionKeys) : k.value ∈ (db.authority false row).permissions :=
  hh.permissions hs hk

theorem Holder.role_below (hs : Standing db) (hh : Holder db h row) {r : Uuid} {role : Role}
    (hr : db.liveRole? r = some role) (hne : r ≠ systemRoleId .superAdmin) :
    Below (db.authority false row) (db.roleGrant role) ∧
      (db.roleGrant role).permissions ⊆ superAdminPermissionKeys := by
  have hc := hs.coherent
  have hid : role.id = r := Db.id_of_liveRole? hr
  have htier := hh.tier hs
  have hwithin : ∀ keys : Finset String, db.rolePermissionKeys role.id = keys →
      keys ⊆ superAdminPermissionKeys → db.rolePermissionKeys role.id ⊆
        (db.authority false row).permissions ∧
          db.rolePermissionKeys role.id ⊆ superAdminPermissionKeys := by
    intro keys he hsub
    rw [he]
    exact ⟨hsub.trans (hh.permissions hs), hsub⟩
  by_cases hsys : role.isSystem = true
  · obtain ⟨k, rfl⟩ := hc.systemIds r role (Db.liveRole?_eq_some.mp hr).1 hsys
    obtain ⟨role', hr', -, -, -, -, hprot, -, ht⟩ := hc.systemRole k
    obtain ⟨-, -, -, hkeys⟩ := hc.system k
    rw [hr, Option.some.injEq] at hr'
    subst hr'
    have hspec : (systemRoleSpecs k).isProtected = false ∧ (systemRoleSpecs k).managementTier < 1000 ∧
        (systemRoleSpecs k).permissions ⊆ superAdminPermissionKeys := by
      cases k with
      | superAdmin => exact absurd rfl hne
      | admin => exact ⟨rfl, by decide, by decide⟩
      | user => exact ⟨rfl, by decide, by decide⟩
    obtain ⟨h1, h2, h3⟩ := hspec
    obtain ⟨hw, hcp⟩ := hwithin _ (hid ▸ hkeys) h3
    refine ⟨⟨hprot.trans h1, ?_, hw⟩, hcp⟩
    show role.managementTier < _
    omega
  · have hcustom : role.isSystem = false := (Bool.not_eq_true _).mp hsys
    have hchecks := Db.checks_of_liveRole? hr
    obtain ⟨-, hle⟩ := Role.custom_tier hchecks hcustom
    have hkeys := hc.customKeys r role (Db.liveRole?_eq_some.mp hr).1 hcustom
    obtain ⟨hw, hcp⟩ := hwithin _ (congrArg db.rolePermissionKeys hid)
      (hkeys.trans (Finset.erase_subset _ _))
    refine ⟨⟨unprotected_of_custom hchecks hcustom, ?_, hw⟩, hcp⟩
    show role.managementTier < _
    omega

/-- **the holder governs every other unprotected user**, whatever roles it has been given -/
theorem Holder.governs (hs : Standing db) (hh : Holder db h row) (hu : db.liveUser? u.id = some u)
    (hne : u.id ≠ h) (hprot : u.isProtected = false) :
    Governed (db.authority false row) (db.authority true u) := by
  have htier := hh.tier hs
  refine governed_authority.mpr ⟨?_, hprot, by omega, ?_⟩
  · show row.id ≠ u.id
    rw [hh.id]
    exact hne.symm
  · intro g hg
    obtain ⟨role, hl, hr, -, rfl⟩ := Db.mem_roleGrantsForUser.mp hg
    refine hh.role_below hs hr ?_
    intro e
    exact hne (hs.sole.unique (e ▸ hl) hh.holds)

theorem Holder.allows (hs : Standing db) (hh : Holder db h row) (hu : db.liveUser? u.id = some u)
    (hne : u.id ≠ h) (hprot : u.isProtected = false) {required : PermissionKey}
    (hk : required.value ∈ superAdminPermissionKeys) :
    (decideUserAdministration (db.authority false row) (db.authority true u) required).allowed =
      true :=
  decideUserAdministration_iff.mpr
    ⟨hh.permitted hs required hk, hh.active, hh.governs hs hu hne hprot⟩

theorem Holder.current (hh : Holder db h row) (hid : context.principal.userId = h)
    (htoken : context.principal.tokenVersion = row.tokenVersion) :
    CurrentActor db context row :=
  ⟨hid ▸ hh.live, hh.active, htoken.symm⟩

/-! ## what the holder can take away from a user -/

theorem updateRole_isOk {r : Uuid} {role : Role} {f : RolePatch} (hr : db.liveRole? r = some role)
    (hcustom : role.isSystem = false) (hchecks : (f.apply role).checks = true) :
    ∃ roles, db.roles.modify? r f = .ok roles ∧
      db.updateRole r f = .ok { db with roles := roles } := by
  have hget := (Db.liveRole?_eq_some.mp hr).1
  obtain ⟨roles, hroles⟩ : ∃ roles, db.roles.modify? r f = .ok roles := by
    refine Table.update?_isOk fun x hx hp => ?_
    have hxr : x.id = r := of_decide_eq_true hp
    have hxg := Table.mem_rows_iff.mp hx
    rw [hxr, hget, Option.some.injEq] at hxg
    rw [← hxg]
    exact hchecks
  have hkeeps : db.keepsSystemDefinition r f = true := by
    unfold Db.keepsSystemDefinition
    rw [hget]
    simp [hcustom]
  exact ⟨roles, hroles, Db.updateRole_ok.mpr ⟨roles, hkeeps, hroles, rfl⟩⟩

/-- nothing about a user has changed: its row (flag, credential, versions), its assignments, and its
effective grants -/
structure Secure (db db' : Db) (h : Uuid) : Prop where
  row : db'.users.get? h = db.users.get? h
  assigned : ∀ r, db'.userRoles.Linked h r ↔ db.userRoles.Linked h r
  effective : db'.roleGrantsForUser h false = db.roleGrantsForUser h false

theorem Secure.refl (db : Db) (h : Uuid) : Secure db db h := ⟨rfl, fun _ => Iff.rfl, rfl⟩

theorem Secure.trans {db'' : Db} (h₁ : Secure db db' h) (h₂ : Secure db' db'' h) :
    Secure db db'' h :=
  ⟨h₂.row.trans h₁.row, fun r => (h₂.assigned r).trans (h₁.assigned r),
    h₂.effective.trans h₁.effective⟩

theorem Secure.liveUser? (hsec : Secure db db' h) : db'.liveUser? h = db.liveUser? h := by
  unfold Db.liveUser?
  rw [hsec.row]

theorem Secure.loadAuthoritySnapshot (hsec : Secure db db' h) :
    db'.loadAuthoritySnapshot h false = db.loadAuthoritySnapshot h false := by
  unfold Db.loadAuthoritySnapshot
  rw [hsec.liveUser?]
  cases hu : db.liveUser? h with
  | none => rfl
  | some u =>
    show Except.ok (db'.authority false u) = Except.ok (db.authority false u)
    unfold Db.authority
    rw [Db.id_of_liveUser? hu, hsec.effective]

section
variable {st : Nat → Postgres} {lab : Nat → Call} {n : Nat}

end

end

end PgRbac
