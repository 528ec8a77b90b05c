import PgRbac.Invariants

/-!
# Strict dominance of administrative changes

Shared roles make one command change many users, some decisions look at the state before and some
at the state after, and disabled roles count for the target but not for the actor.  What holds
across all of this is one relation between the actor and the two states:

* `Below`             a grant beneath the actor: unprotected, strictly lower, within its permissions;
* `Administered.By`   every new grant is `Below` the actor, every touched user was dominated;
* `administers_body`  every administrative command keeps this relation;
* `administered_dominated`   every user a committed command changes is strictly dominated by the
                      actor, before and after.
-/

set_option linter.unusedVariables false

namespace PgRbac

open Fallible Store Trace

variable {db db' : Db} {actor : AuthoritySnapshot}

/-! ## grants beneath an actor -/

/-- a grant that the actor outranks and covers -/
structure Below (actor : AuthoritySnapshot) (grant : RoleGrant) : Prop where
  unprotected : grant.isProtected = false
  lower : grant.managementTier < actor.managementTier
  within : grant.permissions ⊆ actor.permissions

/-- a snapshot is dominated when another, unprotected user holds only grants beneath the actor -/
theorem dominated_iff {u : Uuid} {a p : Bool} {tv av : Nat} {roles : List RoleGrant} :
    Dominated actor (AuthoritySnapshot.build u a p tv av roles) ↔
      actor.userId ≠ u ∧ p = false ∧ 0 < actor.managementTier ∧ ∀ g ∈ roles, Below actor g := by
  constructor
  · intro ⟨hother, hprot, hlow, hin⟩
    have hpos : 0 < actor.managementTier := Nat.lt_of_le_of_lt (Nat.zero_le _) hlow
    have hp : p = false ∧ ∀ g ∈ roles, g.isProtected = false := by
      simpa [AuthoritySnapshot.build] using hprot
    refine ⟨hother, hp.1, hpos, ?_⟩
    intro g hg
    exact ⟨hp.2 g hg, (maxTier_lt hpos).mp hlow g hg, grantedPermissions_subset.mp hin g hg⟩
  · intro ⟨hother, hp, hpos, hbelow⟩
    refine ⟨hother, ?_, ?_, ?_⟩
    · simpa [AuthoritySnapshot.build, hp] using fun g hg => (hbelow g hg).unprotected
    · exact (maxTier_lt hpos).mpr (fun g hg => (hbelow g hg).lower)
    · exact grantedPermissions_subset.mpr (fun g hg => (hbelow g hg).within)

theorem dominated_authority {u : User} {incl : Bool} :
    Dominated actor (db.authority incl u) ↔
      actor.userId ≠ u.id ∧ u.isProtected = false ∧ 0 < actor.managementTier ∧
        ∀ g ∈ db.roleGrantsForUser u.id incl, Below actor g := dominated_iff

theorem ManageableRole.below {role : Role} (h : ManageableRole db actor role) :
    Below actor (db.roleGrant role) := ⟨h.unprotected, h.lower, h.within⟩

theorem unprotected_of_custom {role : Role} (hc : role.checks = true)
    (hs : role.isSystem = false) : role.isProtected = false := by
  unfold Role.checks at hc
  simp only [Bool.and_eq_true, Bool.or_eq_true, Bool.not_eq_true', hs, Bool.false_eq_true,
    false_or] at hc
  grind

/-! ## what depends on the grants of a user -/

theorem roleGrantsForUser_congr {u : Uuid} (hr : db'.userRoles.rights u = db.userRoles.rights u)
    (hg : ∀ r, db.userRoles.Linked u r →
      (db'.liveRole? r).map db'.roleGrant = (db.liveRole? r).map db.roleGrant) :
    db'.roleGrantsForUser u true = db.roleGrantsForUser u true := by
  have hall : ∀ d : Db, d.roleGrantsForUser u true =
      (d.userRoles.rights u).filterMap (fun r => (d.liveRole? r).map d.roleGrant) := by
    intro d
    unfold Db.roleGrantsForUser Db.assignedRoles
    simp [List.map_filterMap]
  rw [hall, hall, hr]
  exact List.filterMap_congr (fun r hm => hg r (Links.mem_rights.mp hm))

/-- a user whose row, and complete grants while it is live, a change leaves alone -/
structure Untouched (db db' : Db) (u : Uuid) : Prop where
  row : db'.users.get? u = db.users.get? u
  grants : (db.liveUser? u).isSome → db'.roleGrantsForUser u true = db.roleGrantsForUser u true

/-- a live user that the actor dominates, and whose id and protection a change keeps -/
structure Managed (actor : AuthoritySnapshot) (db db' : Db) (u : Uuid) : Prop where
  rows : ∃ before after, db.liveUser? u = some before ∧ db'.liveUser? u = some after ∧
    after.isProtected = before.isProtected ∧ Dominated actor (db.authority true before)

/-- what an administrative change by the actor does: each grant that it hands out is beneath the
actor, and each user that it touches is dominated -/
structure AdministeredBy (actor : AuthoritySnapshot) (db db' : Db) : Prop where
  bounded : ∀ incl u, ∀ g ∈ db'.roleGrantsForUser u incl,
    g ∈ db.roleGrantsForUser u incl ∨ Below actor g
  touched : ∀ u, Untouched db db' u ∨ Managed actor db db' u

theorem AdministeredBy.refl : AdministeredBy actor db db :=
  ⟨fun _ _ _ hg => Or.inl hg, fun _ => Or.inl ⟨rfl, fun _ => rfl⟩⟩

/-- **a managed user is dominated after the change too** -/
theorem AdministeredBy.after (h : AdministeredBy actor db db') {u : Uuid} {before after : User}
    (hb : db.liveUser? u = some before) (ha : db'.liveUser? u = some after)
    (hp : after.isProtected = before.isProtected) (hd : Dominated actor (db.authority true before)) :
    Dominated actor (db'.authority true after) := by
  have hib := Db.id_of_liveUser? hb
  have hia := Db.id_of_liveUser? ha
  obtain ⟨hother, hprot, hpos, hbelow⟩ := dominated_authority.mp hd
  rw [hib] at hother hbelow
  refine dominated_authority.mpr ⟨?_, hp.trans hprot, hpos, ?_⟩
  · rw [hia]
    exact hother
  · rw [hia]
    intro g hg
    exact (h.bounded true u g hg).elim (hbelow g) id

/-! ## writes on one user -/

theorem administeredBy_modifyUser {target : Uuid} {row : User} {f : UserPatch}
    {users : Table User.id User.userName User.checks} {state : RbacState}
    (ht : db.users.modify? target f = .ok users) (hlive : db.liveUser? target = some row)
    (hd : Dominated actor (db.authority true row))
    (hdel : ∀ u, (f.apply u).deletedAt = u.deletedAt)
    (hprot : ∀ u, (f.apply u).isProtected = u.isProtected) :
    AdministeredBy actor db { db with users := users, rbacState := state } where
  bounded _ _ _ hg := Or.inl hg
  touched u := by
    by_cases e : u = target
    · subst e
      have hid := Db.id_of_liveUser? hlive
      refine Or.inr ⟨row, f.apply row, hlive, ?_, hprot row, hd⟩
      rw [liveUser?_update? ht hdel, hlive]
      simp [Patch.on, hid]
    · refine Or.inl ⟨?_, fun _ => rfl⟩
      show users.get? u = db.users.get? u
      rw [Table.get?_modify? ht, if_neg e]

theorem WroteUserRoles.rights_other {operation : RoleOperation} {target u : Uuid}
    {ids : List Uuid} {now : Nat} {userRoles : Links Uuid Uuid}
    (hw : WroteUserRoles db operation target ids now userRoles) (e : u ≠ target) :
    userRoles.rights u = db.userRoles.rights u := by
  cases operation with
  | bind => rw [Links.rights_linkAll? hw.1, if_neg e]
  | unbind =>
    rw [show userRoles = _ from hw, Links.rights_tombstone]
    simp [e]

theorem administeredBy_changeUserRoles {context : AuthorizationContext} {target : Uuid}
    {ids : List Uuid} {operation : RoleOperation} {now : Nat}
    {outcome : MutationOutcome UserRoleMutationResponse}
    (h : changeUserRolesBody context target ids operation now db = .ok (outcome, db')) :
    ∃ row, CurrentActor db context row ∧ AdministeredBy (db.authority false row) db db' := by
  obtain ⟨locked, hlock, hd, hroles, hcase⟩ := changeUserRolesBody_ok h
  obtain ⟨row, hcur, hactor, hlive, htarget, -⟩ := lockActorAndTargetUser_ok hlock
  rw [hactor] at hd hroles
  rw [htarget] at hd
  refine ⟨row, hcur, ?_⟩
  rcases hcase with rfl | ⟨userRoles, users, hw, hu, rfl⟩
  · exact AdministeredBy.refl
  -- a link that is new is to a requested role, and to no other user
  have hlinked : ∀ u r, userRoles.Linked u r →
      db.userRoles.Linked u r ∨ (u = target ∧ r ∈ ids) := by
    intro u r hl
    cases operation with
    | bind =>
      rcases (Links.linked_linkAll? hw.1 u r).mp hl with hl | ⟨hu, hr⟩
      · exact Or.inl hl
      · exact Or.inr ⟨hu, mem_changedIds hr⟩
    | unbind =>
      rw [show userRoles = _ from hw] at hl
      exact Or.inl ((Links.linked_tombstone _ _ _ _ _).mp hl).1
  constructor
  · intro incl u g hg
    obtain ⟨r, hl, hr, ha, rfl⟩ := Db.mem_roleGrantsForUser.mp hg
    rcases hlinked u r.id hl with hl | ⟨-, hm⟩
    · exact Or.inl (Db.mem_roleGrantsForUser.mpr ⟨r, hl, hr, ha, rfl⟩)
    · obtain ⟨role, hrole, hman, -⟩ := hroles r.id hm
      have e : db.liveRole? r.id = some r := hr
      rw [e] at hrole
      cases hrole
      exact Or.inr hman.below
  · intro u
    by_cases e : u = target
    · subst e
      have hid := Db.id_of_liveUser? hlive
      refine Or.inr ⟨locked.targetRow, User.bumpAuthz.apply locked.targetRow, hlive, ?_, rfl, hd⟩
      have hafter : { db with users := users, rbacState := db.rbacState }.liveUser? u =
          (db.liveUser? u).map (User.bumpAuthz.on (fun x => decide (x.id = u))).apply :=
        liveUser?_update? hu (fun _ => rfl) u
      rw [hlive] at hafter
      have hpatch : (User.bumpAuthz.on (fun x => decide (x.id = u))).apply locked.targetRow =
          User.bumpAuthz.apply locked.targetRow := by
        simp [Patch.on, hid]
      rw [Option.map_some, hpatch] at hafter
      exact hafter
    · refine Or.inl ⟨?_, ?_⟩
      · show users.get? u = db.users.get? u
        rw [Table.get?_modify? hu, if_neg e]
      · exact fun _ => roleGrantsForUser_congr (hw.rights_other e) (fun _ _ => rfl)

/-! ## writes on one shared role -/

theorem SharedRole.dominated {context : AuthorizationContext} {roleId : Uuid}
    {locked : LockedSharedRole} {row u : User} (hs : SharedRole db context roleId locked row)
    (had : ∀ subject ∈ locked.affectedBefore, Dominated locked.actor subject)
    (hl : db.userRoles.Linked u.id roleId) (hu : db.liveUser? u.id = some u) :
    Dominated (db.authority false row) (db.authority true u) := by
  have hm : db.authority true u ∈ locked.affectedBefore := by
    rw [hs.affected]
    exact List.mem_map_of_mem (mem_affectedUsers.mpr ⟨hl, hu⟩)
  rw [← hs.actor]
  exact had _ hm

/-- a change of one role and of nothing that other roles grant: its live holders get a new version,
and no assignment is added -/
structure RoleChange (db db' : Db) (roleId : Uuid) : Prop where
  users : BumpedHolders db roleId db'.users
  linked : ∀ u r, db'.userRoles.Linked u r → db.userRoles.Linked u r
  rights : ∀ u, ¬ db.userRoles.Linked u roleId → db'.userRoles.rights u = db.userRoles.rights u
  roles : ∀ r, r ≠ roleId → db'.liveRole? r = db.liveRole? r
  keys : ∀ r, r ≠ roleId → db'.rolePermissionKeys r = db.rolePermissionKeys r

theorem RoleChange.roleGrant {roleId : Uuid} (h : RoleChange db db' roleId) {r : Role}
    (hr : r.id ≠ roleId) : db'.roleGrant r = db.roleGrant r := by
  unfold Db.roleGrant
  rw [h.keys r.id hr]

theorem RoleChange.liveUser? {roleId : Uuid} (h : RoleChange db db' roleId) {u : User}
    (hu : db.liveUser? u.id = some u) :
    db'.users.get? u.id = some (if db.userRoles.Linked u.id roleId then User.bumpAuthz.apply u else u)
      := by
  rw [Table.get?_update? h.users, (Db.liveUser?_eq_some.mp hu).1, Option.map_some]
  by_cases hl : db.userRoles.Linked u.id roleId <;> simp [Patch.on, hl, hu]

/-- **a change of a role administers its holders** when what the role grants afterwards is beneath
the actor, and all of its live holders are dominated -/
theorem RoleChange.administeredBy {roleId : Uuid} (h : RoleChange db db' roleId)
    (hrole : ∀ r, db'.liveRole? roleId = some r → Below actor (db'.roleGrant r))
    (hdom : ∀ u, db.userRoles.Linked u.id roleId → db.liveUser? u.id = some u →
      Dominated actor (db.authority true u)) : AdministeredBy actor db db' where
  bounded incl u g hg := by
    obtain ⟨r, hl, hr, ha, rfl⟩ := Db.mem_roleGrantsForUser.mp hg
    by_cases e : r.id = roleId
    · rw [e] at hr
      exact Or.inr (hrole r hr)
    · rw [h.roles r.id e] at hr
      rw [h.roleGrant e]
      exact Or.inl (Db.mem_roleGrantsForUser.mpr ⟨r, h.linked u r.id hl, hr, ha, rfl⟩)
  touched u := by
    cases hlive : db.liveUser? u with
    | none =>
      refine Or.inl ⟨?_, by simp [hlive]⟩
      rw [Table.get?_update? h.users]
      cases hg : db.users.get? u with
      | none => rfl
      | some x =>
        have hid : x.id = u := Table.key_of_get? hg
        subst hid
        simp [Patch.on, hlive]
    | some x =>
      have hid := Db.id_of_liveUser? hlive
      subst hid
      have hget := h.liveUser? hlive
      by_cases hl : db.userRoles.Linked x.id roleId
      · rw [if_pos hl] at hget
        refine Or.inr ⟨x, _, hlive, Db.liveUser?_eq_some.mpr ⟨hget, ?_⟩, rfl, hdom x hl hlive⟩
        exact (Db.liveUser?_eq_some.mp hlive).2
      · rw [if_neg hl] at hget
        refine Or.inl ⟨hget.trans (Db.liveUser?_eq_some.mp hlive).1.symm, fun _ => ?_⟩
        refine roleGrantsForUser_congr (h.rights x.id hl) ?_
        intro r hr
        have hne : r ≠ roleId := fun e => hl (e ▸ hr)
        rw [h.roles r hne]
        cases hx : db.liveRole? r with
        | none => rfl
        | some y =>
          have hy := Db.id_of_liveRole? hx
          rw [Option.map_some, Option.map_some, h.roleGrant (hy ▸ hne)]

theorem liveRole?_modify? {roleId : Uuid} {f : RolePatch} {roles : Table Role.id Role.key Role.checks}
    (ht : db.roles.modify? roleId f = .ok roles)
    (hdel : ∀ r, (f.apply r).deletedAt = r.deletedAt) (r : Uuid) :
    { db with roles := roles }.liveRole? r =
      if r = roleId then (db.liveRole? r).map f.apply else db.liveRole? r := by
  unfold Db.liveRole?
  show (roles.get? r).filter _ = _
  rw [Table.get?_modify? ht]
  by_cases e : r = roleId
  · rw [if_pos e, if_pos e]
    cases hg : db.roles.get? r with
    | none => rfl
    | some x => by_cases hx : x.deletedAt = none <;> simp [Option.filter, hdel, hx]
  · rw [if_neg e, if_neg e]

theorem Administered.below {context : AuthorizationContext} {roleId : Uuid}
    {locked : LockedSharedRole} {row : User} (hs : SharedRole db context roleId locked row)
    (had : Administered db roleId locked) :
    Below (db.authority false row) (db.roleGrant locked.role) := by
  rw [← hs.actor]
  exact ⟨unprotected_of_custom (Db.checks_of_liveRole? hs.role) had.custom, had.lower, had.within⟩

theorem roleChange_setRoleActive {roleId : Uuid} {isActive : Bool}
    {roles : Table Role.id Role.key Role.checks} {users : Table User.id User.userName User.checks}
    (hr : db.roles.modify? roleId (Role.withActive isActive) = .ok roles)
    (hu : BumpedHolders db roleId users) :
    RoleChange db { db with roles := roles, users := users }.bumpEpoch roleId where
  users := hu
  linked _ _ hl := hl
  rights _ _ := rfl
  roles r hne := (liveRole?_modify? hr (fun _ => rfl) r).trans (if_neg hne)
  keys _ _ := rfl

theorem administeredBy_setRoleActive {context : AuthorizationContext} {roleId : Uuid}
    {isActive : Bool} {expected : Nat} {outcome : MutationOutcome RoleMutationResponse}
    (h : setRoleActiveBody context roleId isActive expected db = .ok (outcome, db')) :
    ∃ row, CurrentActor db context row ∧ AdministeredBy (db.authority false row) db db' := by
  obtain ⟨locked, row, hs, had, hcase⟩ := setRoleActiveBody_ok h
  refine ⟨row, hs.current, ?_⟩
  rcases hcase with rfl | ⟨roles, users, hr, hu, rfl⟩
  · exact AdministeredBy.refl
  refine (roleChange_setRoleActive hr hu).administeredBy ?_ (fun u => hs.dominated had.dominated)
  intro r hr'
  -- a grant does not show whether its role is enabled
  have hr'' := (liveRole?_modify? hr (fun _ => rfl) roleId).symm.trans hr'
  rw [if_pos rfl, hs.role] at hr''
  cases hr''
  exact had.below hs

theorem roleChange_softDeleteRole {roleId deletedBy : Uuid} {now : Nat}
    {roles : Table Role.id Role.key Role.checks} {users : Table User.id User.userName User.checks}
    (hr : db.roles.modify? roleId (Role.softDeleted now deletedBy) = .ok roles)
    (hu : BumpedHolders db roleId users) :
    RoleChange db { db with
      roles := roles
      users := users
      userRoles := db.userRoles.tombstone now (fun a => a.2 = roleId)
      rolePermissions :=
        db.rolePermissions.tombstone now (fun l => l.1 = roleId && true) }.bumpEpoch roleId := by
  have hget := Table.get?_modify? hr
  constructor
  · exact hu
  · exact fun _ _ hl => ((Links.linked_tombstone _ _ _ _ _).mp hl).1
  · intro u hl
    show (db.userRoles.tombstone now _).rights u = _
    rw [Links.rights_tombstone, List.filter_eq_self]
    intro r hm
    have hne : r ≠ roleId := fun e => hl (e ▸ Links.mem_rights.mp hm)
    simp [hne]
  · intro r hne
    show (roles.get? r).filter _ = _
    rw [hget, if_neg hne]
    rfl
  · intro r hne
    refine rolePermissionKeys_congr rfl ?_
    intro p
    show (db.rolePermissions.tombstone now _).Linked r p ↔ _
    rw [Links.linked_tombstone]
    simp [hne]

theorem administeredBy_softDeleteRole {context : AuthorizationContext} {roleId : Uuid}
    {expected now : Nat} {outcome : MutationOutcome RoleMutationResponse}
    (h : softDeleteRoleBody context roleId expected now db = .ok (outcome, db')) :
    ∃ row, CurrentActor db context row ∧ AdministeredBy (db.authority false row) db db' := by
  obtain ⟨locked, row, hs, had, roles, users, hr, hu, rfl⟩ := softDeleteRoleBody_ok h
  refine ⟨row, hs.current, ?_⟩
  refine (roleChange_softDeleteRole hr hu).administeredBy ?_ (fun u => hs.dominated had.dominated)
  intro r hr'
  obtain ⟨hx, hd⟩ := Db.liveRole?_eq_some.mp hr'
  have hx' : roles.get? roleId = some r := hx
  rw [Table.get?_modify? hr, if_pos rfl] at hx'
  obtain ⟨y, -, rfl⟩ := Option.map_eq_some_iff.mp hx'
  cases hd

theorem roleChange_rolePermissions {roleId : Uuid} {ids : List Uuid} {operation : RoleOperation}
    {now : Nat} {rolePermissions : Links Uuid Uuid} {roles : Table Role.id Role.key Role.checks}
    {users : Table User.id User.userName User.checks}
    (hw : WroteRolePermissions db operation roleId ids now rolePermissions)
    (hr : db.roles.modify? roleId Role.bumpVersion = .ok roles)
    (hu : BumpedHolders db roleId users) :
    RoleChange db { db with
      rolePermissions := rolePermissions, roles := roles, users := users }.bumpEpoch roleId := by
  have hother : ∀ r, r ≠ roleId → ∀ p, rolePermissions.Linked r p ↔ db.rolePermissions.Linked r p := by
    intro r hne p
    cases operation with
    | unbind =>
      rw [show rolePermissions = _ from hw, Links.linked_tombstone]
      simp [hne]
    | bind =>
      rw [Links.linked_linkAll? hw]
      simp [hne]
  exact
    { users := hu
      linked := fun _ _ hl => hl
      rights := fun _ _ => rfl
      roles := fun r hne => (liveRole?_modify? hr (fun _ => rfl) r).trans (if_neg hne)
      keys := fun r hne => rolePermissionKeys_congr rfl (hother r hne) }

theorem administeredBy_changeRolePermissions {context : AuthorizationContext} {roleId : Uuid}
    {ids : List Uuid} {operation : RoleOperation} {expected now : Nat}
    {outcome : MutationOutcome RoleMutationResponse}
    (h : changeRolePermissionsBody context roleId ids operation expected now db =
      .ok (outcome, db')) :
    ∃ row, CurrentActor db context row ∧ AdministeredBy (db.authority false row) db db' := by
  obtain ⟨locked, row, keysAfter, hs, -, hkeys, hsys, -, hlow, hin, -, -, hwithin, hafter, hcase⟩ :=
    changeRolePermissionsBody_ok h
  refine ⟨row, hs.current, ?_⟩
  have hid := Db.id_of_liveRole? hs.role
  have hprot := unprotected_of_custom (Db.checks_of_liveRole? hs.role) hsys
  rw [hs.actor] at hlow hin hwithin hafter
  have hbefore : Below (db.authority false row) (db.roleGrant locked.role) := ⟨hprot, hlow, hin⟩
  rcases hcase with rfl | ⟨rolePermissions, roles, users, hw, hr, hu, rfl⟩
  · exact AdministeredBy.refl
  have hlive := liveRole?_modify? hr (fun _ => rfl)
  -- the keys after the write are among those before it and those of the decision
  have hnew : ∀ k ∈ { db with rolePermissions := rolePermissions }.rolePermissionKeys roleId,
      k ∈ (db.authority false row).permissions := by
    intro k hk
    obtain ⟨p, perm, hl, hp, rfl⟩ := Db.mem_rolePermissionKeys.mp hk
    have hold : db.rolePermissions.Linked roleId p →
        perm.key ∈ (db.authority false row).permissions := by
      intro hl
      rw [hid] at hin
      exact hin (Db.mem_rolePermissionKeys.mpr ⟨p, perm, hl, hp, rfl⟩)
    cases operation with
    | unbind =>
      rw [show rolePermissions = _ from hw] at hl
      exact hold ((Links.linked_tombstone _ _ _ _ _).mp hl).1
    | bind =>
      rcases (Links.linked_linkAll? hw roleId p).mp hl with hl | ⟨-, hm⟩
      · exact hold hl
      · obtain ⟨⟨q, k⟩, hq, rfl⟩ := List.mem_map.mp hm
        have hreq := (mem_loadPermissionKeys.mp (List.mem_of_mem_filter hq)).1
        apply hwithin
        rw [hkeys]
        exact Finset.mem_union_right _ (mem_requestedKeys hreq hp)
  refine (roleChange_rolePermissions hw hr hu).administeredBy ?_ ?_
  · intro r hr'
    have hr'' := (hlive roleId).symm.trans hr'
    rw [if_pos rfl, hs.role] at hr''
    cases hr''
    exact ⟨hprot, hlow, fun k hk => hnew k (hid ▸ hk)⟩
  · intro u hl hu'
    -- the decision judged the holder with the role's grants replaced; the role itself was beneath
    have hm : db.authority true u ∈ locked.affectedBefore := by
      rw [hs.affected]
      exact List.mem_map_of_mem (mem_affectedUsers.mpr ⟨hl, hu'⟩)
    obtain ⟨h1, h2, h3, h4⟩ := dominated_iff.mp (hafter _ hm)
    refine dominated_authority.mpr ⟨h1, h2, h3, ?_⟩
    intro g hg
    by_cases e : g.roleId = locked.role.id
    · obtain ⟨r, -, hr', -, rfl⟩ := Db.mem_roleGrantsForUser.mp hg
      rw [show r.id = roleId from e.trans hid, hs.role] at hr'
      cases hr'
      exact hbefore
    · exact h4 g (AuthoritySnapshot.mem_putRole.mpr
        (Or.inr ⟨AuthoritySnapshot.mem_build_roles.mpr hg, e⟩))

/-! ## changes that no holder sees -/

theorem administeredBy_grantless {roles : Table Role.id Role.key Role.checks} {state : RbacState}
    (h : ∀ u r, db.userRoles.Linked u r →
      ({ db with roles := roles }.liveRole? r).map (fun x => (db.roleGrant x, x.isActive)) =
        (db.liveRole? r).map (fun x => (db.roleGrant x, x.isActive))) :
    AdministeredBy actor db { db with roles := roles, rbacState := state } where
  bounded incl u g hg := by
    obtain ⟨r, hl, hr, ha, rfl⟩ := Db.mem_roleGrantsForUser.mp hg
    have hr' : { db with roles := roles }.liveRole? r.id = some r := hr
    have hsame := h u r.id hl
    rw [hr', Option.map_some, eq_comm, Option.map_eq_some_iff] at hsame
    obtain ⟨y, hy, he⟩ := hsame
    obtain ⟨hgrant, hactive⟩ := Prod.mk.inj he
    have hid := Db.id_of_liveRole? hy
    refine Or.inl (Db.mem_roleGrantsForUser.mpr ⟨y, ?_, ?_, ?_, hgrant⟩)
    · rw [hid]
      exact hl
    · rw [hid]
      exact hy
    · rw [hactive]
      exact ha
  touched u := by
    refine Or.inl ⟨rfl, fun _ => roleGrantsForUser_congr rfl ?_⟩
    intro r hr
    have hsame := congrArg (Option.map Prod.fst) (h u r hr)
    rw [Option.map_map, Option.map_map] at hsame
    exact hsame

theorem shown_insertRole (hc : Coherent db) {role : Role}
    {roles : Table Role.id Role.key Role.checks} (ht : db.roles.insert? role = .ok roles)
    (hlive : role.deletedAt = none) (u r : Uuid) (hl : db.userRoles.Linked u r) :
    ({ db with roles := roles }.liveRole? r).map (fun x => (db.roleGrant x, x.isActive)) =
      (db.liveRole? r).map (fun x => (db.roleGrant x, x.isActive)) := by
  have hne : r ≠ role.id := by
    intro e
    obtain ⟨x, hx⟩ := Option.isSome_iff_exists.mp (hc.assigned u r hl).2
    have hsome := (Db.liveRole?_eq_some.mp hx).1
    rw [e, (Table.rows_insert? ht).2.1] at hsome
    cases hsome
  rw [liveRole?_insert? ht hlive, if_neg hne]

theorem shown_describe {roleId : Uuid} {name description : String}
    {roles : Table Role.id Role.key Role.checks}
    (ht : db.roles.modify? roleId (Role.describe name description) = .ok roles) (r : Uuid) :
    ({ db with roles := roles }.liveRole? r).map (fun x => (db.roleGrant x, x.isActive)) =
      (db.liveRole? r).map (fun x => (db.roleGrant x, x.isActive)) := by
  rw [liveRole?_modify? ht (fun _ => rfl)]
  by_cases e : r = roleId
  · rw [if_pos e, Option.map_map]
    rfl
  · rw [if_neg e]

theorem administeredBy_createRole (hc : Coherent db) {context : AuthorizationContext}
    {roleId : Uuid} {request : RoleCreateRequest} {outcome : MutationOutcome RoleMutationResponse}
    (h : createRoleBody context roleId request db = .ok (outcome, db')) :
    ∃ row, CurrentActor db context row ∧ AdministeredBy (db.authority false row) db db' := by
  obtain ⟨row, hcur, -, -, -, t, ht, rfl⟩ := createRoleBody_ok h
  exact ⟨row, hcur, administeredBy_grantless (shown_insertRole hc ht rfl)⟩

theorem administeredBy_updateRole {context : AuthorizationContext} {roleId : Uuid}
    {request : RoleUpdateRequest} {expected : Nat} {outcome : MutationOutcome RoleMutationResponse}
    (h : updateRoleBody context roleId request expected db = .ok (outcome, db')) :
    ∃ row, CurrentActor db context row ∧ AdministeredBy (db.authority false row) db db' := by
  obtain ⟨locked, row, hs, -, rfl | ⟨name, description, t, ht, rfl⟩⟩ := updateRoleBody_ok h
  · exact ⟨row, hs.current, AdministeredBy.refl⟩
  · exact ⟨row, hs.current, administeredBy_grantless (fun _ r _ => shown_describe ht r)⟩

/-! ## every administrative command -/

/-- the actor of an administrative command -/
def Operation.administrator? : Operation → Option AuthorizationContext
  | .updateUserStatus c _ _ => some c
  | .revokeUserSessions c _ => some c
  | .changeUserRoles c _ _ _ => some c
  | .createRole c _ _ => some c
  | .updateRole c _ _ _ => some c
  | .setRoleActive c _ _ _ => some c
  | .softDeleteRole c _ _ => some c
  | .changeRolePermissions c _ _ _ _ => some c
  | .resetUserPassword c _ _ _ _ => some c
  | _ => none

/-- **one committed administrative command** -/
theorem administers_body {lib : PasswordLibrary} (hc : Coherent db) {now : Nat} {op : Operation}
    {context : AuthorizationContext} (ha : op.administrator? = some context)
    (h : op.body lib now db = .ok db') :
    ∃ row, CurrentActor db context row ∧ AdministeredBy (db.authority false row) db db' := by
  cases op with
  | updateUserStatus c t a =>
    cases ha
    obtain ⟨⟨o, _⟩, ho, rfl⟩ := (map_ok _ _ _).mp h
    obtain ⟨locked, hlock, hd, hcase⟩ := updateUserStatusBody_ok ho
    obtain ⟨row, hcur, hactor, hlive, htarget, -⟩ := lockActorAndTargetUser_ok hlock
    rw [hactor, htarget] at hd
    refine ⟨row, hcur, ?_⟩
    rcases hcase with ⟨-, rfl⟩ | ⟨-, users, hu, rfl⟩
    · exact AdministeredBy.refl
    · exact administeredBy_modifyUser hu hlive hd (fun _ => rfl) (fun _ => rfl)
  | revokeUserSessions c t =>
    cases ha
    obtain ⟨⟨o, _⟩, ho, rfl⟩ := (map_ok _ _ _).mp h
    obtain ⟨locked, hlock, hd, users, hu, rfl⟩ := revokeUserSessionsBody_ok ho
    obtain ⟨row, hcur, hactor, hlive, htarget, -⟩ := lockActorAndTargetUser_ok hlock
    rw [hactor, htarget] at hd
    exact ⟨row, hcur, administeredBy_modifyUser hu hlive hd (fun _ => rfl) (fun _ => rfl)⟩
  | changeUserRoles c t ids o =>
    cases ha
    simp only [Operation.body] at h
    split at h
    · cases h
    · obtain ⟨⟨o, _⟩, ho, rfl⟩ := (map_ok _ _ _).mp h
      exact administeredBy_changeUserRoles ho
  | createRole c r q =>
    cases ha
    obtain ⟨⟨o, _⟩, ho, rfl⟩ := (map_ok _ _ _).mp h
    exact administeredBy_createRole hc ho
  | updateRole c r q v =>
    cases ha
    obtain ⟨⟨o, _⟩, ho, rfl⟩ := (map_ok _ _ _).mp h
    exact administeredBy_updateRole ho
  | setRoleActive c r a v =>
    cases ha
    obtain ⟨⟨o, _⟩, ho, rfl⟩ := (map_ok _ _ _).mp h
    exact administeredBy_setRoleActive ho
  | softDeleteRole c r v =>
    cases ha
    obtain ⟨⟨o, _⟩, ho, rfl⟩ := (map_ok _ _ _).mp h
    exact administeredBy_softDeleteRole ho
  | changeRolePermissions c r ids o v =>
    cases ha
    simp only [Operation.body] at h
    split at h
    · cases h
    · obtain ⟨⟨o, _⟩, ho, rfl⟩ := (map_ok _ _ _).mp h
      exact administeredBy_changeRolePermissions ho
  | resetUserPassword c t pw hash m =>
    cases ha
    obtain ⟨⟨b, _, rows⟩, ho, rfl⟩ := (map_ok _ _ _).mp h
    obtain ⟨row, target, hcur, hlive, hd, must, users, hu, rfl⟩ := resetUserPasswordBody_ok ho
    exact ⟨row, hcur, administeredBy_modifyUser hu hlive hd (fun _ => rfl) (fun _ => rfl)⟩
  | _ => cases ha

/-! ## what differs between two states -/

/-- the authority of a live user with its disabled roles, its active flag and its versions -/
def Db.completeAuthority (db : Db) (u : Uuid) : Option AuthoritySnapshot :=
  (db.liveUser? u).map (db.authority true)

structure Credential where
  passwordHash : Option String
  mustChangePassword : Bool
  passwordChangedAt : Option Nat
  deriving DecidableEq

def Db.credential (db : Db) (u : Uuid) : Option Credential :=
  (db.users.get? u).map fun r => ⟨r.passwordHash, r.mustChangePassword, r.passwordChangedAt⟩

/-- the complete authority, active flag, credential or token version of a user differs -/
def Differs (db db' : Db) (u : Uuid) : Prop :=
  db'.completeAuthority u ≠ db.completeAuthority u ∨ db'.credential u ≠ db.credential u

theorem Untouched.not_differs {u : Uuid} (h : Untouched db db' u) : ¬ Differs db db' u := by
  have hlive : db'.liveUser? u = db.liveUser? u := by
    unfold Db.liveUser?
    rw [h.row]
  intro hd
  rcases hd with hd | hd
  · apply hd
    unfold Db.completeAuthority
    rw [hlive]
    cases hu : db.liveUser? u with
    | none => rfl
    | some x =>
      have hid := Db.id_of_liveUser? hu
      subst hid
      unfold Db.authority
      rw [Option.map_some, Option.map_some, h.grants (by rw [hu]; rfl)]
  · apply hd
    unfold Db.credential
    rw [h.row]

/-- **every user that a committed administrative command changes is someone else than its actor,
unprotected, and before and after of a strictly lower complete tier, with complete permissions
among the effective ones of the actor** -/
theorem administered_dominated {lib : PasswordLibrary} {s s' : Postgres} {c : Call}
    {context : AuthorizationContext} (hs : Reachable (system lib) s)
    (ha : c.operation.administrator? = some context) (h : Committed lib s c s') :
    ∃ actor, s.db.loadAuthoritySnapshot context.principal.userId false = .ok actor ∧
      ∀ u, Differs s.db s'.db u → u ≠ context.principal.userId ∧
        ∃ before after, s.db.completeAuthority u = some before ∧
          s'.db.completeAuthority u = some after ∧
          ∀ subject ∈ [before, after], subject.isProtected = false ∧
            subject.managementTier < actor.managementTier ∧
            subject.permissions ⊆ actor.permissions := by
  obtain ⟨row, hcur, had⟩ := administers_body (reachable_standing hs).coherent ha h.body
  refine ⟨s.db.authority false row, Db.loadAuthoritySnapshot_ok.mpr ⟨row, hcur.live, rfl⟩, ?_⟩
  intro u hd
  obtain ⟨before, after, hb, haft, hp, hdom⟩ :=
    ((had.touched u).resolve_left (fun hu => hu.not_differs hd)).rows
  have hdom' := had.after hb haft hp hdom
  refine ⟨?_, s.db.authority true before, s'.db.authority true after, ?_, ?_, ?_⟩
  · intro e
    apply hdom.other
    show row.id = before.id
    rw [hcur.id, Db.id_of_liveUser? hb, e]
  · rw [Db.completeAuthority, hb]
    rfl
  · rw [Db.completeAuthority, haft]
    rfl
  · intro subject hsub
    rcases List.mem_pair.mp hsub with rfl | rfl
    · exact ⟨hdom.unprotected, hdom.lower, hdom.within⟩
    · exact ⟨hdom'.unprotected, hdom'.lower, hdom'.within⟩

/-- the super administrator disables an account -/
def disabling : Nat → Call :=
  script [signUp "alice" alice, .bootstrap alice, signUp "bob" bob,
    .updateUserStatus (bearer alice 0) bob false]

theorem administered_dominated_disabling :
    ∃ actor before after,
      (states sampleLibrary disabling 3).db.loadAuthoritySnapshot alice false = .ok actor ∧
      (states sampleLibrary disabling 3).db.completeAuthority bob = some before ∧
      (states sampleLibrary disabling 4).db.completeAuthority bob = some after ∧
      before.userIsActive = true ∧ after.userIsActive = false ∧
      before.managementTier < actor.managementTier ∧ after.managementTier < actor.managementTier := by
  have hrun := (isRun_states sampleLibrary disabling 3).reachable (Nat.le_refl 3)
  have hcom : ((disabling 3).operation.run sampleLibrary 3
      (states sampleLibrary disabling 3)).1 = .ok () := by decide +kernel
  have hactive : ((states sampleLibrary disabling 3).db.completeAuthority bob).map
      AuthoritySnapshot.userIsActive = some true := by decide +kernel
  have hdisabled : ((states sampleLibrary disabling 4).db.completeAuthority bob).map
      AuthoritySnapshot.userIsActive = some false := by decide +kernel
  have hdiffers : Differs (states sampleLibrary disabling 3).db
      (states sampleLibrary disabling 4).db bob := by
    refine Or.inl (fun e => ?_)
    rw [e, hactive] at hdisabled
    cases hdisabled
  have hcommitted : Committed sampleLibrary (states sampleLibrary disabling 3) (disabling 3)
      (states sampleLibrary disabling 4) := Prod.ext hcom rfl
  have hadmin : (disabling 3).operation.administrator? = some (bearer alice 0) := rfl
  obtain ⟨actor, hactor, h⟩ := administered_dominated hrun hadmin hcommitted
  obtain ⟨-, before, after, hb, ha, hboth⟩ := h bob hdiffers
  rw [hb, Option.map_some, Option.some.injEq] at hactive
  rw [ha, Option.map_some, Option.some.injEq] at hdisabled
  exact ⟨actor, before, after, hactor, hb, ha, hactive, hdisabled,
    (hboth before (by simp)).2.1, (hboth after (by simp)).2.1⟩

end PgRbac
