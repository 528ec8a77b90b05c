import PgRbac.Allowances
import PgRbac.Predictions

/-!
# One change of several roles, and several changes of one

`change_user_roles` checks all requested roles at once, and writes them together.  It goes through
exactly when the same change goes through role by role, in any order, and leaves the same
assignments.

* `Changeable`                what a request needs: a condition on the target and one on each role;
* `changeUserRolesBody_iff`   a request succeeds exactly then;
* `Assigned`                  what a request leaves, by membership;
* `changeable_cons`           a request for one more role, as two requests in a row;
* `bulk_one_by_one`           the two ways against each other.
-/

set_option linter.unusedVariables false
set_option linter.unusedSectionVars false

namespace PgRbac

open Fallible Store Trace AuthoritySnapshot

section
variable {lib : PasswordLibrary} {db db' db'' : Db} {context : AuthorizationContext} {target : Uuid}
  {operation : RoleOperation} {ids : List Uuid} {row u : User}

/-! ## what a request needs -/

/-- a role that the actor may bind to the target, or unbind from it -/
def Assignable (db : Db) (operation : RoleOperation) (actor : AuthoritySnapshot)
    (target id : Uuid) : Prop :=
  ∃ role, db.liveRole? id = some role ∧
    (operation = .bind → db.userRoles.Linked target id ∨ role.isActive = true) ∧
    isAdministrativeRoleVisible actor (db.roleGrant role) = true ∧
    GrantChangeable operation actor (db.roleGrant role)

/-- the requested roles that the target does not have yet -/
def newIds (db : Db) (target : Uuid) (ids : List Uuid) : List Uuid :=
  ids.filter fun r => ¬ db.userRoles.Linked target r

/-- what a request needs: `row` is the actor, `u` the target -/
structure Changeable (db : Db) (context : AuthorizationContext) (target : Uuid)
    (operation : RoleOperation) (ids : List Uuid) (row u : User) : Prop where
  current : CurrentActor db context row
  permitted : operation.assignmentPermission.value ∈ (db.authority false row).permissions
  found : db.liveUser? target = some u
  active : operation = .bind → u.isActive = true
  governed : Governed (db.authority false row) (db.authority true u)
  roles : ∀ id ∈ ids, Assignable db operation (db.authority false row) target id
  limit : operation = .bind →
    (db.userRoles.rights target).length + (newIds db target ids).length ≤ maxRolesPerUser

theorem changedIds_bind : RoleOperation.bind.changedIds ids
    (ids.filter fun r => db.userRoles.Linked target r) = newIds db target ids := by
  unfold RoleOperation.changedIds newIds
  refine List.filter_congr fun r hr => ?_
  rw [decide_eq_decide, List.mem_filter]
  simp [hr]

theorem targetAfter_governed {lockedIds existing : List Uuid} {roles : List Role} (hn : ids.Nodup)
    (hc : collect (requestedRole (db.lockRoles lockedIds) operation existing) ids = .ok roles)
    {actor : AuthoritySnapshot} (hu : Governed actor (db.authority true u))
    (hg : ∀ grant ∈ db.loadRoleGrantsForRoles roles, GrantChangeable operation actor grant) :
    Governed actor
      (operation.targetAfter (db.authority true u) (db.loadRoleGrantsForRoles roles)) := by
  obtain ⟨ho, hp, ht, hbelow⟩ := governed_authority.mp hu
  obtain ⟨l, he, -, hm⟩ := targetAfter_mem hn u hc
  rw [he, governed_build]
  refine ⟨ho, hp, ht, ?_⟩
  intro g hgm
  obtain ⟨r, hlinks, hr, rfl⟩ := (hm g).mp hgm
  have hbefore : db.userRoles.Linked u.id r.id →
      Below actor (db.roleGrant r) ∧ (db.roleGrant r).permissions ⊆ superAdminPermissionKeys :=
    fun hl => hbelow _ (Db.mem_roleGrantsForUser.mpr ⟨r, hl, hr, Or.inl rfl, rfl⟩)
  have hrequested : r.id ∈ ids →
      Below actor (db.roleGrant r) ∧ (db.roleGrant r).permissions ⊆ superAdminPermissionKeys := by
    intro hid
    have hchange := hg _ (List.mem_map_of_mem (((requestedRoles_mem hc).2 r).mpr ⟨hid, hr⟩))
    exact ⟨hchange.below, hchange.controlPlane⟩
  cases operation with
  | bind => exact hlinks.elim hbefore hrequested
  | unbind => exact hbefore hlinks.1

/-- **a request that succeeds has what it needs** -/
theorem changeable_of_ok {now : Nat} (hs : Standing db)
    {r : MutationOutcome UserRoleMutationResponse × Db}
    (h : changeUserRolesBody context target ids operation now db = .ok r) :
    ∃ row u, Changeable db context target operation ids row u := by
  unfold changeUserRolesBody at h
  simp only [bind_ok, require_ok] at h
  obtain ⟨locked, hlock, roles, hc, -, hvisible, -, hd, -, hlimit, -⟩ := h
  obtain ⟨row, hcur, hactor, hlive, htarget, hroles⟩ := lockActorAndTargetUser_ok hlock
  rw [hactor] at hvisible hd
  rw [htarget] at hd
  rw [hroles] at hc
  obtain ⟨hperm, -, hactive, hgov, hgrants, -, -⟩ := decideRoleChange_iff.mp hd
  refine ⟨row, locked.targetRow, hcur, hperm, hlive, hactive, hgov, ?_, ?_⟩
  · intro id hid
    obtain ⟨role, hm, hrole⟩ := mem_collect _ _ _ hc id hid
    have hliveRole := requestedRole_ok hrole
    have hgm : db.roleGrant role ∈ db.loadRoleGrantsForRoles roles := List.mem_map_of_mem hm
    refine ⟨role, hliveRole, ?_, List.all_eq_true.mp hvisible _ hgm, hgrants _ hgm⟩
    intro ho
    unfold requestedRole at hrole
    split at hrole
    · cases hrole
    · split at hrole
      · cases hrole
      · rename_i hbound
        cases hrole
        by_contra hno
        obtain ⟨hl, ha⟩ := not_or.mp hno
        exact hbound ⟨ho, fun hm => hl (of_decide_eq_true (List.mem_filter.mp hm).2), ha⟩
  · intro ho
    subst ho
    rw [changedIds_bind] at hlimit
    by_cases hnil : newIds db target ids = []
    · rw [hnil]
      exact hs.coherent.limit target
    · exact hlimit rfl hnil

/-! ## what it needs is enough -/

theorem Assignable.ne_superAdmin (hc : Coherent db) {actor : AuthoritySnapshot} {id : Uuid}
    (h : Assignable db operation actor target id) : id ≠ systemRoleId .superAdmin := by
  obtain ⟨role, hr, -, -, hg⟩ := h
  exact hc.ne_systemRoleId hr hg.notSuperAdmin

theorem writeUserRoles_isOk (hs : Standing db) (hn : ids.Nodup)
    (h : Changeable db context target operation ids row u) (now : Nat) :
    ∃ db₁, writeUserRoles db operation target (operation.changedIds ids
        (ids.filter fun r => db.userRoles.Linked target r)) now = .ok db₁ ∧ Coherent db₁ := by
  have hc := hs.coherent
  cases operation with
  | bind =>
    rw [changedIds_bind]
    have hmem : ∀ r ∈ newIds db target ids, r ∈ ids ∧ ¬ db.userRoles.Linked target r := by
      intro r hr
      obtain ⟨hid, hl⟩ := List.mem_filter.mp hr
      exact ⟨hid, of_decide_eq_true hl⟩
    have huser : (db.users.get? target).isSome = true := by
      rw [(Db.liveUser?_eq_some.mp h.found).1]
      rfl
    have hroles : ∀ r ∈ newIds db target ids, (db.liveRole? r).isSome = true := by
      intro r hr
      obtain ⟨role, hrole, -⟩ := h.roles r (hmem r hr).1
      rw [hrole]
      rfl
    obtain ⟨t, ht⟩ : ∃ t, db.userRoles.linkAll? target (newIds db target ids) = some t :=
      Links.linkAll?_isSome (hn.filter _) fun r hr => (hmem r hr).2
    refine ⟨{ db with userRoles := t }, ?_, hc.assign ht huser hroles (h.limit rfl)⟩
    unfold writeUserRoles Db.assignRoles
    have hrows : ((newIds db target ids).all fun r => (db.roles.get? r).isSome) = true := by
      rw [List.all_eq_true]
      intro r hr
      obtain ⟨role, hrole⟩ := Option.isSome_iff_exists.mp (hroles r hr)
      rw [(Db.liveRole?_eq_some.mp hrole).1]
      rfl
    simp [require, huser, hrows, ht, orRaise, bind, Except.bind, pure, Except.pure]
  | unbind =>
    refine ⟨_, rfl, hc.unassign now _ ?_⟩
    intro v
    rw [Bool.and_eq_false_iff]
    refine Or.inr (Bool.eq_false_iff.mpr fun hm => ?_)
    have hid := mem_changedIds (List.contains_iff_mem.mp hm)
    obtain ⟨role, hr, -, -, hg⟩ := h.roles _ hid
    exact hc.ne_systemRoleId hr (hg.notBase rfl) rfl

theorem bumpAuthz_isOk (db : Db) (id : Uuid) :
    ∃ users, db.users.modify? id User.bumpAuthz = .ok users :=
  Table.update?_isOk fun r hr _ => db.users.checked r hr

theorem exists_forall₂ {α β : Type} {R : α → β → Prop} {l : List α} (h : ∀ a ∈ l, ∃ b, R a b) :
    ∃ bs, List.Forall₂ R l bs := by
  induction l with
  | nil => exact ⟨[], .nil⟩
  | cons a l ih =>
    obtain ⟨b, hb⟩ := h a List.mem_cons_self
    obtain ⟨bs, hbs⟩ := ih fun x hx => h x (List.mem_cons_of_mem a hx)
    exact ⟨b :: bs, .cons hb hbs⟩

/-- **a request that has what it needs succeeds** -/
theorem ok_of_changeable (hs : Standing db) (hn : ids.Nodup)
    (h : Changeable db context target operation ids row u) (now : Nat) :
    ∃ r, changeUserRolesBody context target ids operation now db = .ok r := by
  have hvisible : db.loadVisibleUser (db.authority false row) target = some u := by
    unfold Db.loadVisibleUser
    rw [h.found, Option.filter_some, visibleUser_eq, h.governed.visible]
    rfl
  have hlock := lockActorAndTargetUser_eq h.current h.permitted target ids
  rw [hvisible] at hlock
  -- the requested roles
  obtain ⟨roles, hall⟩ := exists_forall₂ (R := fun id role => (db.liveRole? id = some role ∧
    (operation = .bind → db.userRoles.Linked target id ∨ role.isActive = true)) ∧
    isAdministrativeRoleVisible (db.authority false row) (db.roleGrant role) = true ∧
    GrantChangeable operation (db.authority false row) (db.roleGrant role)) (l := ids) (by
      intro id hid
      obtain ⟨role, hr, hb, hv, hg⟩ := h.roles id hid
      exact ⟨role, ⟨hr, hb⟩, hv, hg⟩)
  have hright : ∀ role ∈ roles,
      isAdministrativeRoleVisible (db.authority false row) (db.roleGrant role) = true ∧
        GrantChangeable operation (db.authority false row) (db.roleGrant role) := by
    intro role hm
    clear hlock hvisible h hn
    induction hall with
    | nil => cases hm
    | cons hhead _ ih =>
      rcases List.mem_cons.mp hm with rfl | hm
      · exact hhead.2
      · exact ih hm
  have hresolves : UserCommand.Resolves db (db.authority false row) target ids operation roles :=
    ⟨hall.imp fun _ _ hr => hr.1, fun role hm => (hright role hm).1⟩
  have hcollect := collect_of_resolves hlock hresolves
  have hshown : (db.loadRoleGrantsForRoles roles).all
      (isAdministrativeRoleVisible (db.authority false row)) = true := by
    unfold Db.loadRoleGrantsForRoles
    rw [List.all_map, List.all_eq_true]
    exact hresolves.2
  have hgrants : ∀ grant ∈ db.loadRoleGrantsForRoles roles,
      GrantChangeable operation (db.authority false row) grant := by
    intro grant hm
    obtain ⟨role, hr, rfl⟩ := List.mem_map.mp hm
    exact (hright role hr).2
  -- the decision
  have hafter := targetAfter_governed hn hcollect h.governed hgrants
  have hdecision : (decideRoleChange operation (db.authority false row) (db.authority true u)
      (operation.targetAfter (db.authority true u) (db.loadRoleGrantsForRoles roles))
      (db.loadRoleGrantsForRoles roles)).allowed = true :=
    decideRoleChange_iff.mpr ⟨h.permitted, h.current.active, h.active, h.governed, hgrants,
      hafter.dominated.lower, hafter.controlPlane, hafter.dominated.within⟩
  have hlimit : operation = .bind →
      ¬ operation.changedIds ids (ids.filter fun r => db.userRoles.Linked target r) = [] →
      db.countLiveUserRoles target + (operation.changedIds ids
        (ids.filter fun r => db.userRoles.Linked target r)).length ≤ maxRolesPerUser := by
    intro ho _
    subst ho
    rw [changedIds_bind]
    exact h.limit rfl
  -- the writes
  obtain ⟨db₁, hwrite, hc₁⟩ := writeUserRoles_isOk hs hn h now
  obtain ⟨users, husers⟩ := bumpAuthz_isOk db₁ target
  have hupdate : db₁.updateUser target User.bumpAuthz = .ok { db₁ with users := users } :=
    Db.updateUser_ok.mpr ⟨users, husers, rfl⟩
  have hc₂ : Coherent { db₁ with users := users }.bumpEpoch :=
    hc₁.updateUsers husers (fun _ => rfl)
  have hassignments : ∀ a ∈ (operation.changedIds ids
      (ids.filter fun r => db.userRoles.Linked target r)).map fun r => (target, r),
      a.2 ≠ systemRoleId .superAdmin := by
    intro a ha
    obtain ⟨r, hr, rfl⟩ := List.mem_map.mp ha
    exact (h.roles r (mem_changedIds hr)).ne_superAdmin hs.coherent
  have hcommit := commit_isOk hc₂ [target] hassignments
  unfold changeUserRolesBody
  rw [hlock]
  dsimp only
  simp only [bind, Except.bind, hcollect, hshown, hdecision, require, if_true]
  rw [if_pos hlimit]
  dsimp only
  by_cases hnil : operation.changedIds ids
      (ids.filter fun r => db.userRoles.Linked target r) = []
  · rw [if_pos hnil]
    exact ⟨_, rfl⟩
  · rw [if_neg hnil, hwrite]
    dsimp only
    rw [hupdate]
    dsimp only
    rw [hcommit]
    exact ⟨_, rfl⟩

/-- **a request succeeds exactly when it has what it needs** -/
theorem changeUserRolesBody_iff (hs : Standing db) (hn : ids.Nodup) (now : Nat) :
    (∃ r, changeUserRolesBody context target ids operation now db = .ok r) ↔
      ∃ row u, Changeable db context target operation ids row u := by
  constructor
  · intro h
    obtain ⟨r, hr⟩ := h
    exact changeable_of_ok hs hr
  · intro h
    obtain ⟨row, u, hch⟩ := h
    exact ok_of_changeable hs hn hch now

/-! ## what a request leaves -/

/-- what a request leaves of the tables, whatever it had to write -/
structure Assigned (db db' : Db) (target : Uuid) (operation : RoleOperation) (ids : List Uuid) :
    Prop where
  roles : db'.roles = db.roles
  permissions : db'.permissions = db.permissions
  rolePermissions : db'.rolePermissions = db.rolePermissions
  others : ∀ v, v ≠ target → db'.users.get? v = db.users.get? v ∧
    db'.userRoles.rights v = db.userRoles.rights v
  account : ∀ u, db.liveUser? target = some u → ∃ u', db'.liveUser? target = some u' ∧
    u'.id = u.id ∧ u'.isActive = u.isActive ∧ u'.isProtected = u.isProtected
  linked : ∀ r, db'.userRoles.Linked target r ↔
    operation.links (db.userRoles.Linked target r) (r ∈ ids)
  count : operation = .bind → (db'.userRoles.rights target).length =
    (db.userRoles.rights target).length + (newIds db target ids).length

theorem assigned_of_ok {now : Nat} {outcome : MutationOutcome UserRoleMutationResponse}
    (h : changeUserRolesBody context target ids operation now db = .ok (outcome, db')) :
    Assigned db db' target operation ids := by
  unfold changeUserRolesBody at h
  simp only [bind_ok, require_ok] at h
  obtain ⟨locked, hlock, roles, hc, -, -, -, -, -, hlimit, h⟩ := h
  split at h
  · rename_i hnil
    simp only [pure_ok, Prod.mk.injEq] at h
    obtain ⟨-, rfl⟩ := h
    refine ⟨rfl, rfl, rfl, fun _ _ => ⟨rfl, rfl⟩, fun u hu => ⟨u, hu, rfl, rfl, rfl⟩,
      linked_unchanged hnil, ?_⟩
    intro ho
    subst ho
    rw [changedIds_bind] at hnil
    rw [hnil]
    rfl
  · rename_i hne
    simp only [bind_ok, Db.updateUser_ok, Db.commit_ok, pure_ok, Prod.mk.injEq] at h
    obtain ⟨db₁, hw, _, ⟨users, hu, rfl⟩, _, ⟨rfl, -, -⟩, -, rfl⟩ := h
    obtain ⟨userRoles, hwrote, rfl⟩ := writeUserRoles_ok hw (fun hb => hlimit hb hne)
    refine ⟨rfl, rfl, rfl, ?_, ?_, hwrote.linked, ?_⟩
    · intro v hv
      refine ⟨?_, hwrote.rights_other hv⟩
      show users.get? v = _
      rw [Table.get?_modify? hu, if_neg hv]
    · intro u hlive
      exact ⟨User.bumpAuthz.apply u, liveUser?_modify? hu rfl hlive rfl, rfl, rfl, rfl⟩
    · intro ho
      subst ho
      obtain ⟨hl, -⟩ := hwrote
      rw [changedIds_bind] at hl
      show (userRoles.rights target).length = _
      rw [Links.rights_linkAll? hl, if_pos rfl, List.length_append]

theorem Assigned.roleGrant (h : Assigned db db' target operation ids) (role : Role) :
    db'.roleGrant role = db.roleGrant role := by
  unfold Db.roleGrant Db.rolePermissionKeys Db.livePermission?
  rw [h.permissions, h.rolePermissions]

theorem Assigned.liveRole? (h : Assigned db db' target operation ids) (id : Uuid) :
    db'.liveRole? id = db.liveRole? id := by
  unfold Db.liveRole?
  rw [h.roles]

theorem Assigned.authority_other (h : Assigned db db' target operation ids) {v : User}
    (hv : v.id ≠ target) (incl : Bool) : db'.authority incl v = db.authority incl v := by
  unfold Db.authority Db.roleGrantsForUser Db.assignedRoles
  rw [(h.others v.id hv).2, show db'.liveRole? = db.liveRole? from funext h.liveRole?,
    show db'.roleGrant = db.roleGrant from funext h.roleGrant]

theorem Assigned.liveUser?_other (h : Assigned db db' target operation ids) {v : Uuid}
    (hv : v ≠ target) : db'.liveUser? v = db.liveUser? v := by
  unfold Db.liveUser?
  rw [(h.others v hv).1]

theorem Assigned.linked_other {id r : Uuid} (h : Assigned db db' target operation [id])
    (hr : r ≠ id) : db'.userRoles.Linked target r ↔ db.userRoles.Linked target r := by
  rw [h.linked, List.mem_singleton]
  cases operation with
  | bind => exact or_iff_left hr
  | unbind => exact and_iff_left hr

theorem Assigned.newIds {id : Uuid} (h : Assigned db db' target operation [id]) (hid : id ∉ ids) :
    newIds db' target ids = newIds db target ids := by
  unfold PgRbac.newIds
  refine List.filter_congr fun r hr => ?_
  have hne : r ≠ id := fun e => hid (e ▸ hr)
  rw [decide_eq_decide, h.linked_other hne]

theorem newIds_cons (id : Uuid) : (newIds db target (id :: ids)).length =
    (newIds db target [id]).length + (newIds db target ids).length := by
  unfold newIds
  rw [← List.length_append, ← List.filter_append]
  rfl

theorem Assigned.trans {id : Uuid} (h : Assigned db db' target operation [id])
    (h' : Assigned db' db'' target operation ids) (hid : id ∉ ids) :
    Assigned db db'' target operation (id :: ids) where
  roles := h'.roles.trans h.roles
  permissions := h'.permissions.trans h.permissions
  rolePermissions := h'.rolePermissions.trans h.rolePermissions
  others v hv := ⟨(h'.others v hv).1.trans (h.others v hv).1,
    (h'.others v hv).2.trans (h.others v hv).2⟩
  account u hu := by
    obtain ⟨u', hu', hi, ha, hp⟩ := h.account u hu
    obtain ⟨u'', hu'', hi', ha', hp'⟩ := h'.account u' hu'
    exact ⟨u'', hu'', hi'.trans hi, ha'.trans ha, hp'.trans hp⟩
  linked r := by
    rw [h'.linked, h.linked]
    cases operation with
    | bind =>
      show (_ ∨ _) ∨ _ ↔ _ ∨ _
      rw [List.mem_singleton, List.mem_cons, or_assoc]
    | unbind =>
      show (_ ∧ ¬ _) ∧ ¬ _ ↔ _ ∧ ¬ _
      rw [List.mem_singleton, List.mem_cons, not_or, and_assoc]
  count ho := by
    subst ho
    rw [h'.count rfl, h.count rfl, h.newIds hid, Nat.add_assoc, ← newIds_cons]

/-! ## one more role -/

theorem Changeable.actor_ne (h : Changeable db context target operation ids row u) :
    row.id ≠ target := by
  intro e
  have hid : u.id = target := Db.id_of_liveUser? h.found
  exact h.governed.dominated.other (e.trans hid.symm)

theorem Assigned.assignable {id r : Uuid} (h : Assigned db db' target operation [id]) (hr : r ≠ id)
    (actor : AuthoritySnapshot) :
    Assignable db' operation actor target r ↔ Assignable db operation actor target r := by
  unfold Assignable
  rw [h.liveRole?, show db'.roleGrant = db.roleGrant from funext h.roleGrant, h.linked_other hr]

theorem Assigned.current (h : Assigned db db' target operation ids) (hne : row.id ≠ target) :
    CurrentActor db' context row ↔ CurrentActor db context row := by
  constructor
  · intro hcur
    refine ⟨?_, hcur.active, hcur.token⟩
    rw [← h.liveUser?_other (hcur.id ▸ hne), hcur.live]
  · intro hcur
    refine ⟨?_, hcur.active, hcur.token⟩
    rw [h.liveUser?_other (hcur.id ▸ hne), hcur.live]

theorem Changeable.rest {id : Uuid} (hid : id ∉ ids)
    (h : Changeable db context target operation (id :: ids) row u)
    (hstep : Assigned db db' target operation [id]) :
    ∃ u', Changeable db' context target operation ids row u' := by
  have hne := h.actor_ne
  have hactor : db'.authority false row = db.authority false row := hstep.authority_other hne false
  obtain ⟨u', hu', hi, ha, hp⟩ := hstep.account u h.found
  have hother : ∀ r ∈ ids, r ≠ id := fun r hr e => hid (e ▸ hr)
  refine ⟨u', (hstep.current hne).mpr h.current, hactor ▸ h.permitted, hu',
    fun ho => ha.trans (h.active ho), ?_, ?_, ?_⟩
  · obtain ⟨ho, hprot, htier, hbelow⟩ := governed_authority.mp h.governed
    rw [hactor, governed_authority]
    refine ⟨hi ▸ ho, hp.trans hprot, htier, ?_⟩
    intro g hg
    obtain ⟨role, hl, hr, -, rfl⟩ := Db.mem_roleGrantsForUser.mp hg
    rw [hi, Db.id_of_liveUser? h.found, hstep.linked] at hl
    rw [hstep.liveRole?] at hr
    rw [hstep.roleGrant]
    have hbefore : db.userRoles.Linked target role.id →
        Below (db.authority false row) (db.roleGrant role) ∧
          (db.roleGrant role).permissions ⊆ superAdminPermissionKeys := by
      intro hl
      rw [← Db.id_of_liveUser? h.found] at hl
      exact hbelow _ (Db.mem_roleGrantsForUser.mpr ⟨role, hl, hr, Or.inl rfl, rfl⟩)
    have hrequested : role.id ∈ [id] → Below (db.authority false row) (db.roleGrant role) ∧
        (db.roleGrant role).permissions ⊆ superAdminPermissionKeys := by
      intro hm
      obtain ⟨role', hr', -, -, hchange⟩ := h.roles id List.mem_cons_self
      rw [← List.mem_singleton.mp hm, hr, Option.some.injEq] at hr'
      subst hr'
      exact ⟨hchange.below, hchange.controlPlane⟩
    cases operation with
    | bind => exact hl.elim hbefore hrequested
    | unbind => exact hbefore hl.1
  · intro r hr
    rw [hactor, hstep.assignable (hother r hr)]
    exact h.roles r (List.mem_cons_of_mem id hr)
  · intro ho
    have hlimit := h.limit ho
    rw [hstep.count ho, hstep.newIds hid, Nat.add_assoc, ← newIds_cons]
    exact hlimit

theorem Changeable.cons {id : Uuid} {row' u' : User} (hid : id ∉ ids)
    (h : Changeable db context target operation [id] row u)
    (hstep : Assigned db db' target operation [id])
    (h' : Changeable db' context target operation ids row' u') :
    Changeable db context target operation (id :: ids) row u := by
  have hne := h.actor_ne
  have hrow : row' = row := by
    have hlive := h'.current.live
    rw [((hstep.current hne).mpr h.current).live] at hlive
    exact (Option.some.inj hlive).symm
  subst hrow
  have hactor := hstep.authority_other hne false
  refine ⟨h.current, h.permitted, h.found, h.active, h.governed, ?_, ?_⟩
  · intro r hr
    rcases List.mem_cons.mp hr with rfl | hr
    · exact h.roles r (List.mem_singleton.mpr rfl)
    · have hr' := h'.roles r hr
      rw [hactor, hstep.assignable (fun e => hid (e ▸ hr))] at hr'
      exact hr'
  · intro ho
    have hlimit := h'.limit ho
    rw [hstep.count ho, hstep.newIds hid, Nat.add_assoc, ← newIds_cons] at hlimit
    exact hlimit

/-! ## the two ways -/

/-- the same change role by role, each at its own time, up to the first that fails -/
def changeOneByOne (context : AuthorizationContext) (target : Uuid) (operation : RoleOperation) :
    List (Uuid × Nat) → Postgres → Except Failure Unit × Postgres
  | [], s => (.ok (), s)
  | (id, now) :: steps, s =>
    match changeUserRoles context target [id] operation now s with
    | (.error e, s') => (.error e, s')
    | (.ok _, s') => changeOneByOne context target operation steps s'

theorem runAudited_isOk {α : Type} {action : String} {tu tr : Option Uuid}
    {body : Db → Except Failure (MutationOutcome α × Db)} {s : Postgres} :
    (∃ v, (runAudited context action tu tr body s).1 = .ok v) ↔ ∃ r, body s.db = .ok r := by
  constructor
  · intro h
    obtain ⟨v, hv⟩ := h
    obtain ⟨outcome, ho, -⟩ := runAudited_ok (Prod.ext hv rfl)
    exact ⟨_, ho⟩
  · intro h
    obtain ⟨r, hr⟩ := h
    cases hres : (runAudited context action tu tr body s).1 with
    | ok v => exact ⟨v, rfl⟩
    | error e =>
      obtain ⟨he, -⟩ := runAudited_error (Prod.ext hres rfl)
      rw [he] at hr
      cases hr

theorem changeUserRoles_ends (context : AuthorizationContext) (target : Uuid)
    (operation : RoleOperation) (s : Postgres) (hne : ids ≠ []) (now : Nat) :
    ((∃ r, (changeUserRoles context target ids operation now s).1 = .ok r) ↔
      ∃ r, changeUserRolesBody context target (sortIds ids.dedup) operation now s.db = .ok r) ∧
    (∀ r, (changeUserRoles context target ids operation now s).1 = .ok r → ∃ outcome,
      changeUserRolesBody context target (sortIds ids.dedup) operation now s.db =
        .ok (outcome, (changeUserRoles context target ids operation now s).2.db)) ∧
    ∀ e, (changeUserRoles context target ids operation now s).1 = .error e →
      (changeUserRoles context target ids operation now s).2.db = s.db := by
  have hrun : changeUserRoles context target ids operation now s =
      runAudited context ("user.roles." ++ operation.value) (some target) none
        (changeUserRolesBody context target (sortIds ids.dedup) operation now) s := if_neg hne
  rw [hrun]
  refine ⟨runAudited_isOk, ?_, ?_⟩
  · intro r hr
    obtain ⟨outcome, ho, -⟩ := runAudited_ok (Prod.ext hr rfl)
    exact ⟨outcome, ho⟩
  · intro e he
    exact (runAudited_error (Prod.ext he rfl)).2

theorem Changeable.perm {ids' : List Uuid} (hp : ids.Perm ids')
    (h : Changeable db context target operation ids row u) :
    Changeable db context target operation ids' row u := by
  refine ⟨h.current, h.permitted, h.found, h.active, h.governed,
    fun id hid => h.roles id (hp.mem_iff.mpr hid), ?_⟩
  intro ho
  rw [show (newIds db target ids').length = (newIds db target ids).length from
    ((hp.filter _).length_eq).symm]
  exact h.limit ho

theorem Changeable.head {id : Uuid} (h : Changeable db context target operation (id :: ids) row u) :
    Changeable db context target operation [id] row u := by
  refine ⟨h.current, h.permitted, h.found, h.active, h.governed,
    fun r hr => h.roles r (List.mem_singleton.mp hr ▸ List.mem_cons_self), ?_⟩
  intro ho
  have hlimit := h.limit ho
  rw [newIds_cons] at hlimit
  omega

/-- **the changes in a row succeed exactly when one change needs no more than there is** -/
theorem oneByOne_iff (context : AuthorizationContext) (target : Uuid) (operation : RoleOperation)
    {steps : List (Uuid × Nat)} {s : Postgres} (hs : Standing s.db)
    (hn : (steps.map Prod.fst).Nodup) (hne : steps ≠ []) :
    ((changeOneByOne context target operation steps s).1 = .ok () ↔
      ∃ row u, Changeable s.db context target operation (steps.map Prod.fst) row u) ∧
    ((changeOneByOne context target operation steps s).1 = .ok () →
      Assigned s.db (changeOneByOne context target operation steps s).2.db target operation
        (steps.map Prod.fst)) := by
  induction steps generalizing s with
  | nil => exact absurd rfl hne
  | cons step steps ih =>
    obtain ⟨id, now⟩ := step
    obtain ⟨hid, hn'⟩ := List.nodup_cons.mp hn
    obtain ⟨hiff, hok, -⟩ := changeUserRoles_ends context target operation s
      (List.cons_ne_nil id []) now
    have hsingle : sortIds [id].dedup = [id] := rfl
    rw [hsingle] at hiff hok
    rw [changeUserRolesBody_iff hs (List.nodup_singleton id)] at hiff
    show ((changeOneByOne context target operation ((id, now) :: steps) s).1 = _ ↔ _) ∧ (_ → _)
    unfold changeOneByOne
    cases hrun : changeUserRoles context target [id] operation now s with
    | mk res s' =>
      rw [hrun] at hiff hok
      cases res with
      | error e =>
        refine ⟨⟨fun h => (by cases h), ?_⟩, fun h => (by cases h)⟩
        intro h
        obtain ⟨row, u, hch⟩ := h
        obtain ⟨r, hr⟩ := hiff.mpr ⟨row, u, hch.head⟩
        cases hr
      | ok r =>
        obtain ⟨row, u, hch⟩ := hiff.mp ⟨r, rfl⟩
        obtain ⟨outcome, hbody⟩ := hok r rfl
        have hstep := assigned_of_ok hbody
        have hs' : Standing s'.db := (kept_changeUserRoles hs hbody).standing
        dsimp only
        cases steps with
        | nil => exact ⟨⟨fun _ => ⟨row, u, hch⟩, fun _ => rfl⟩, fun _ => hstep⟩
        | cons step' steps =>
          obtain ⟨ihiff, ihassigned⟩ := ih hs' hn' (List.cons_ne_nil _ _)
          refine ⟨?_, fun h => hstep.trans (ihassigned h) hid⟩
          rw [ihiff]
          constructor
          · intro h
            obtain ⟨row', u', hrest⟩ := h
            exact ⟨row, u, hch.cons hid hstep hrest⟩
          · intro h
            obtain ⟨row', u', hall⟩ := h
            exact ⟨row', hall.rest hid hstep⟩

theorem Assigned.uncounted {ids' : List Uuid} (h : Assigned db db' target operation ids)
    (h' : Assigned db db'' target operation ids') (hids : ∀ r, r ∈ ids' ↔ r ∈ ids)
    (hu : db.liveUser? target = some u) (incl : Bool) :
    ∃ a b, db'.loadAuthoritySnapshot target incl = .ok a ∧
      db''.loadAuthoritySnapshot target incl = .ok b ∧ b.uncounted = a.uncounted := by
  obtain ⟨v, hv, hi, ha, hp⟩ := h.account u hu
  obtain ⟨w, hw, hi', ha', hp'⟩ := h'.account u hu
  refine ⟨_, _, Db.loadAuthoritySnapshot_ok.mpr ⟨v, hv, rfl⟩,
    Db.loadAuthoritySnapshot_ok.mpr ⟨w, hw, rfl⟩, ?_⟩
  have hmem : ∀ g, g ∈ db''.roleGrantsForUser w.id incl ↔ g ∈ db'.roleGrantsForUser v.id incl := by
    intro g
    rw [Db.mem_roleGrantsForUser, Db.mem_roleGrantsForUser, hi', hi, Db.id_of_liveUser? hu]
    refine exists_congr fun r => ?_
    rw [h.linked, h'.linked, hids, h.liveRole?, h'.liveRole?, h.roleGrant, h'.roleGrant]
  show build w.id w.isActive w.isProtected 0 0 _ = build v.id v.isActive v.isProtected 0 0 _
  rw [hi', hi] at hmem
  rw [hi', ha', hp', hi, ha, hp]
  exact build_congr (nodup_roleGrantsForUser _ _ _) (nodup_roleGrantsForUser _ _ _) hmem

/-- **a bulk change of roles is the same changes one by one**, in any order: it succeeds exactly when
each of them does, and leaves the same assignments and authority, and nothing when it fails -/
theorem bulk_one_by_one {s : Postgres} (hs : Reachable (system lib) s)
    (context : AuthorizationContext) (target : Uuid) (operation : RoleOperation) (now : Nat)
    (hne : ids ≠ []) {steps : List (Uuid × Nat)} (hn : (steps.map Prod.fst).Nodup)
    (hsame : ∀ id, id ∈ steps.map Prod.fst ↔ id ∈ ids) :
    ((∃ r, (changeUserRoles context target ids operation now s).1 = .ok r) ↔
      (changeOneByOne context target operation steps s).1 = .ok ()) ∧
    (∀ r, (changeUserRoles context target ids operation now s).1 = .ok r →
      (∀ v role,
        (changeOneByOne context target operation steps s).2.db.userRoles.Linked v role ↔
          (changeUserRoles context target ids operation now s).2.db.userRoles.Linked v role) ∧
      ∀ incl, ∃ a b,
        (changeUserRoles context target ids operation now s).2.db.loadAuthoritySnapshot target incl =
          .ok a ∧
        (changeOneByOne context target operation steps s).2.db.loadAuthoritySnapshot target incl =
          .ok b ∧ b.uncounted = a.uncounted) ∧
    ∀ e, (changeUserRoles context target ids operation now s).1 = .error e →
      (changeUserRoles context target ids operation now s).2.db = s.db := by
  have hstanding := reachable_standing hs
  have hnodup : (sortIds ids.dedup).Nodup := nodup_sortIds ids.nodup_dedup
  have hmem : ∀ id, id ∈ sortIds ids.dedup ↔ id ∈ steps.map Prod.fst := by
    intro id
    rw [mem_sortIds, List.mem_dedup, hsame]
  have hperm : (sortIds ids.dedup).Perm (steps.map Prod.fst) :=
    (List.perm_ext_iff_of_nodup hnodup hn).mpr hmem
  have hsteps : steps ≠ [] := by
    intro hnil
    obtain ⟨id, hid⟩ := List.exists_mem_of_ne_nil ids hne
    have hm := (hsame id).mpr hid
    rw [hnil] at hm
    cases hm
  obtain ⟨hiff, hok, herror⟩ := changeUserRoles_ends context target operation s hne now
  obtain ⟨hsingles, hassigned⟩ := oneByOne_iff context target operation hstanding hn hsteps
  have hboth : (∃ r, (changeUserRoles context target ids operation now s).1 = .ok r) ↔
      (changeOneByOne context target operation steps s).1 = .ok () := by
    rw [hiff, changeUserRolesBody_iff hstanding hnodup, hsingles]
    constructor
    · intro h
      obtain ⟨row, u, hch⟩ := h
      exact ⟨row, u, hch.perm hperm⟩
    · intro h
      obtain ⟨row, u, hch⟩ := h
      exact ⟨row, u, hch.perm hperm.symm⟩
  refine ⟨hboth, ?_, herror⟩
  intro r hr
  obtain ⟨outcome, hbody⟩ := hok r hr
  have hbulk := assigned_of_ok hbody
  have hrow := hassigned (hboth.mp ⟨r, hr⟩)
  obtain ⟨row, u, hch⟩ := changeable_of_ok hstanding hbody
  refine ⟨?_, hbulk.uncounted hrow (fun id => (hmem id).symm) hch.found⟩
  intro v role
  by_cases hv : v = target
  · subst hv
    rw [hrow.linked, hbulk.linked, hmem]
  · rw [← Links.mem_rights, ← Links.mem_rights, (hrow.others v hv).2, (hbulk.others v hv).2]

/-- an administrator and an editor role, bound at once or one after the other -/
theorem bulk_one_by_one_arranging :
    (∃ r, (changeUserRoles (bearer alice 0) bob [systemRoleId .admin, carol] .bind 4
      (states sampleLibrary arranging 4)).1 = .ok r) ∧
    (changeOneByOne (bearer alice 0) bob .bind [(carol, 5), (systemRoleId .admin, 7)]
      (states sampleLibrary arranging 4)).1 = .ok () := by
  have hreach := (isRun_states sampleLibrary arranging 4).reachable (Nat.le_refl 4)
  have hbulk : ∃ r, (changeUserRoles (bearer alice 0) bob [systemRoleId .admin, carol] .bind 4
      (states sampleLibrary arranging 4)).1 = .ok r := by
    have heval : (changeUserRoles (bearer alice 0) bob [systemRoleId .admin, carol] .bind 4
        (states sampleLibrary arranging 4)).1.toOption.isSome = true := by decide +kernel
    cases hr : (changeUserRoles (bearer alice 0) bob [systemRoleId .admin, carol] .bind 4
        (states sampleLibrary arranging 4)).1 with
    | error e =>
      rw [hr] at heval
      cases heval
    | ok r => exact ⟨r, rfl⟩
  have hids : ∀ id, id ∈ [(carol, 5), (systemRoleId .admin, 7)].map Prod.fst ↔
      id ∈ [systemRoleId .admin, carol] := by
    intro id
    simp [or_comm]
  have hnodup : ([(carol, 5), (systemRoleId .admin, 7)].map Prod.fst).Nodup := by
    rw [List.map_cons, List.map_cons, List.map_nil, List.nodup_cons]
    exact ⟨by decide, List.nodup_singleton _⟩
  exact ⟨hbulk, (bulk_one_by_one hreach (bearer alice 0) bob .bind 4 (List.cons_ne_nil _ _) hnodup
    hids).1.mp hbulk⟩

end

end PgRbac
