import PgRbac.Versions

/-!
# Predicted and reloaded authority

A command decides on an after-state that it computes in memory, writes by separate statements, and
puts the computed value in its audit row and response.  What it computed is what a fresh load of the
written tables returns.

* `build_congr`              a snapshot depends on its grants as a set, not on their order;
* `foldl_withRole`, `foldl_withoutRole`   the simulated bind and unbind, as sets of grants;
* `targetAfter_reloads`      a change of assignments, predicted and reloaded;
* `affectedAfter_reloads`    the same for the holders of a role whose permissions change;
* `predicted_reloaded`       every command of the service.
-/

set_option linter.unusedVariables false

namespace PgRbac

open Fallible Store Trace

variable {db db' : Db} {lib : PasswordLibrary}

/-! ## snapshots of the same grants -/

theorem sort_by_congr {α : Type} {key : α → Uuid} {l l' : List α}
    (hinj : ∀ a ∈ l, ∀ b ∈ l, key a = key b → a = b) (h : l.Perm l') :
    l.insertionSort (fun a b => key a ≤ key b) = l'.insertionSort (fun a b => key a ≤ key b) := by
  have hsort : ∀ m : List α,
      (m.insertionSort (fun a b => key a ≤ key b)).Pairwise (fun a b => key a ≤ key b) := by
    intro m
    have : Std.Total (fun a b : α => key a ≤ key b) := ⟨fun _ _ => BitVec.le_total _ _⟩
    have : IsTrans α (fun a b => key a ≤ key b) := ⟨fun _ _ _ => BitVec.le_trans⟩
    exact List.pairwise_insertionSort _ m
  have hperm := (List.perm_insertionSort (fun a b => key a ≤ key b) l).trans
    (h.trans (List.perm_insertionSort (fun a b => key a ≤ key b) l').symm)
  refine List.Perm.eq_of_pairwise ?_ (hsort l) (hsort l') hperm
  intro a b ha hb h₁ h₂
  exact hinj a ((List.mem_insertionSort _).mp ha) b (h.mem_iff.mpr ((List.mem_insertionSort _).mp hb))
    (BitVec.le_antisymm h₁ h₂)

namespace AuthoritySnapshot

variable {u : Uuid} {a p : Bool} {tv av : Nat}

def roleIds (roles : List RoleGrant) : List Uuid := roles.map RoleGrant.roleId

theorem sort_congr {l l' : List RoleGrant} (hl : (roleIds l).Nodup) (h : List.Perm l l') :
    l.insertionSort (fun r r' => r.roleId ≤ r'.roleId) =
      l'.insertionSort (fun r r' => r.roleId ≤ r'.roleId) :=
  sort_by_congr (fun _ hr _ hr' he => List.inj_on_of_nodup_map hl hr hr' he) h

/-- **a snapshot depends on its grants as a set** -/
theorem build_congr {l l' : List RoleGrant} (hl : (roleIds l).Nodup) (hl' : (roleIds l').Nodup)
    (h : ∀ g, g ∈ l ↔ g ∈ l') : build u a p tv av l = build u a p tv av l' := by
  have hperm : List.Perm l l' :=
    (List.perm_ext_iff_of_nodup hl.of_map hl'.of_map).mpr h
  have hperms : grantedPermissions l = grantedPermissions l' := by
    ext k
    simp only [mem_grantedPermissions, h]
  have htier : maxTier l = maxTier l' :=
    le_antisymm (maxTier_le.mpr fun g hg => le_maxTier ((h g).mp hg))
      (maxTier_le.mpr fun g hg => le_maxTier ((h g).mpr hg))
  unfold build
  rw [sort_congr hl hperm, hperms, htier, hperm.any_eq, hperm.any_eq]

theorem nodup_sorted (u : Uuid) (a p : Bool) (tv av : Nat) {l : List RoleGrant} (hl : (roleIds l).Nodup) :
    (roleIds (build u a p tv av l).roles).Nodup :=
  ((List.perm_insertionSort _ l).map _).nodup_iff.mpr hl

theorem nodup_putRole {role : RoleGrant} {l : List RoleGrant} (hl : (roleIds l).Nodup) :
    (roleIds (putRole role l)).Nodup := by
  unfold putRole
  split
  · have hids : roleIds (l.map (fun r => if r.roleId = role.roleId then role else r)) = roleIds l := by
      unfold roleIds
      rw [List.map_map]
      apply List.map_congr_left
      intro r hr
      by_cases e : r.roleId = role.roleId
      · simp [e]
      · simp [e]
    rw [hids]
    exact hl
  · rename_i hno
    unfold roleIds
    rw [List.map_append, List.nodup_append]
    refine ⟨hl, List.nodup_singleton _, ?_⟩
    intro x hx y hy e
    obtain ⟨r, hr, rfl⟩ := List.mem_map.mp hx
    have hy' : y = role.roleId := by simpa using hy
    exact hno (List.any_eq_true.mpr ⟨r, hr, decide_eq_true (e.trans hy')⟩)

theorem foldl_withRole (u : Uuid) (a p : Bool) (tv av : Nat) (grants : List RoleGrant)
    (hg : (roleIds grants).Nodup)
    {l : List RoleGrant} (hl : (roleIds l).Nodup) :
    ∃ l', grants.foldl withRole (build u a p tv av l) = build u a p tv av l' ∧
      (roleIds l').Nodup ∧
      ∀ g, g ∈ l' ↔ g ∈ grants ∨ (g ∈ l ∧ ∀ x ∈ grants, x.roleId ≠ g.roleId) := by
  induction grants generalizing l with
  | nil => exact ⟨l, rfl, hl, by simp⟩
  | cons x grants ih =>
    obtain ⟨hx, hgrants⟩ := List.nodup_cons.mp hg
    have hput : (roleIds (putRole x (build u a p tv av l).roles)).Nodup :=
      nodup_putRole (nodup_sorted u a p tv av hl)
    obtain ⟨l', he, hn, hm⟩ := ih hgrants hput
    refine ⟨l', he, hn, ?_⟩
    intro g
    rw [hm, mem_putRole, mem_build_roles, List.mem_cons]
    constructor
    · rintro (h | ⟨rfl | ⟨h, hne⟩, hno⟩)
      · exact Or.inl (Or.inr h)
      · exact Or.inl (Or.inl rfl)
      · exact Or.inr ⟨h, List.forall_mem_cons.mpr ⟨fun e => hne e.symm, hno⟩⟩
    · rintro ((rfl | h) | ⟨h, hno⟩)
      · refine Or.inr ⟨Or.inl rfl, ?_⟩
        intro y hy e
        exact hx (List.mem_map.mpr ⟨y, hy, e⟩)
      · exact Or.inl h
      · obtain ⟨hne, hno⟩ := List.forall_mem_cons.mp hno
        exact Or.inr ⟨Or.inr ⟨h, fun e => hne e.symm⟩, hno⟩

theorem foldl_withoutRole (u : Uuid) (a p : Bool) (tv av : Nat) (grants : List RoleGrant)
    {l : List RoleGrant} (hl : (roleIds l).Nodup) :
    ∃ l', grants.foldl (fun s g => s.withoutRole g.roleId) (build u a p tv av l) =
        build u a p tv av l' ∧ (roleIds l').Nodup ∧
      ∀ g, g ∈ l' ↔ g ∈ l ∧ ∀ x ∈ grants, x.roleId ≠ g.roleId := by
  induction grants generalizing l with
  | nil => exact ⟨l, rfl, hl, by simp⟩
  | cons x grants ih =>
    have hfilter : (roleIds ((build u a p tv av l).roles.filter
        (fun r => r.roleId ≠ x.roleId))).Nodup :=
      (nodup_sorted u a p tv av hl).sublist (List.filter_sublist.map _)
    obtain ⟨l', he, hn, hm⟩ := ih hfilter
    refine ⟨l', he, hn, ?_⟩
    intro g
    rw [hm, List.mem_filter, mem_build_roles, List.forall_mem_cons]
    simp only [decide_eq_true_eq, ne_eq]
    constructor
    · rintro ⟨⟨h, hne⟩, hno⟩
      exact ⟨h, fun e => hne e.symm, hno⟩
    · rintro ⟨h, hne, hno⟩
      exact ⟨⟨h, fun e => hne e.symm⟩, hno⟩

end AuthoritySnapshot

open AuthoritySnapshot

theorem nodup_roleGrantsForUser (db : Db) (u : Uuid) (incl : Bool) :
    (roleIds (db.roleGrantsForUser u incl)).Nodup := by
  unfold roleIds Db.roleGrantsForUser Db.assignedRoles
  rw [List.map_map]
  show (List.map Role.id (((db.userRoles.rights u).filterMap db.liveRole?).filter _)).Nodup
  refine List.Nodup.sublist (List.filter_sublist.map _) ?_
  -- the ids of the loaded rows are among the assigned ids
  have hsub : List.Sublist (((db.userRoles.rights u).filterMap db.liveRole?).map Role.id)
      (db.userRoles.rights u) := by
    induction db.userRoles.rights u with
    | nil => exact List.Sublist.slnil
    | cons r l ih =>
      cases hr : db.liveRole? r with
      | none =>
        rw [List.filterMap_cons_none hr]
        exact ih.cons r
      | some role =>
        rw [List.filterMap_cons_some hr, List.map_cons, Db.id_of_liveRole? hr]
        exact ih.cons_cons r
  exact (db.userRoles.rights_nodup u).sublist hsub

/-- a predicted snapshot against the reload, member by member -/
theorem authority_eq_build {u : User} {a p : Bool} {tv av : Nat} {l : List RoleGrant}
    (hl : (roleIds l).Nodup) (hflags : u.isActive = a ∧ u.isProtected = p)
    (h : ∀ g, g ∈ l ↔ g ∈ db'.roleGrantsForUser u.id true) :
    (build u.id a p tv av l).uncounted = (db'.authority true u).uncounted := by
  have hb : build u.id a p 0 0 l = build u.id a p 0 0 (db'.roleGrantsForUser u.id true) :=
    build_congr hl (nodup_roleGrantsForUser db' u.id true) h
  obtain ⟨rfl, rfl⟩ := hflags
  exact hb

theorem snapshotPayload_congr {s s' : AuthoritySnapshot} (h : s.uncounted = s'.uncounted)
    (hv : s.authzVersion = s'.authzVersion) : snapshotPayload s = snapshotPayload s' := by
  obtain ⟨u, a, p, tv, roles, perms, tier, prot, sup, av⟩ := s
  obtain ⟨u', a', p', tv', roles', perms', tier', prot', sup', av'⟩ := s'
  unfold uncounted at h
  injection h with h1 h2 h3 h4 h5 h6 h7 h8 h9 h10
  unfold snapshotPayload
  simp_all

/-! ## a change of assignments -/

/-- the assignments after a request, from those before -/
def RoleOperation.links (operation : RoleOperation) (linked requested : Prop) : Prop :=
  match operation with
  | .bind => linked ∨ requested
  | .unbind => linked ∧ ¬ requested

theorem WroteUserRoles.linked {operation : RoleOperation} {target : Uuid} {ids : List Uuid}
    {now : Nat} {t : Links Uuid Uuid}
    (hw : WroteUserRoles db operation target
      (operation.changedIds ids (ids.filter (fun r => db.userRoles.Linked target r))) now t)
    (r : Uuid) : t.Linked target r ↔ operation.links (db.userRoles.Linked target r) (r ∈ ids) := by
  cases operation with
  | bind =>
    rw [Links.linked_linkAll? hw.1]
    show _ ↔ db.userRoles.Linked target r ∨ r ∈ ids
    by_cases hl : db.userRoles.Linked target r
    · simp [hl]
    · simp [hl, RoleOperation.changedIds]
  | unbind =>
    rw [show t = _ from hw, Links.linked_tombstone]
    show _ ↔ db.userRoles.Linked target r ∧ r ∉ ids
    by_cases hl : db.userRoles.Linked target r
    · simp [hl, RoleOperation.changedIds]
    · simp [hl]

theorem linked_unchanged {operation : RoleOperation} {target : Uuid} {ids : List Uuid}
    (h : operation.changedIds ids (ids.filter (fun r => db.userRoles.Linked target r)) = [])
    (r : Uuid) : db.userRoles.Linked target r ↔
      operation.links (db.userRoles.Linked target r) (r ∈ ids) := by
  cases operation with
  | bind =>
    refine ⟨Or.inl, fun hr => hr.elim id (fun hm => ?_)⟩
    by_contra hno
    have hin : r ∈ RoleOperation.bind.changedIds ids
        (ids.filter (fun r => db.userRoles.Linked target r)) := by
      simp [RoleOperation.changedIds, hm, hno]
    rw [h] at hin
    cases hin
  | unbind =>
    refine ⟨fun hl => ⟨hl, fun hm => ?_⟩, fun hr => hr.1⟩
    have hin : r ∈ RoleOperation.unbind.changedIds ids
        (ids.filter (fun r => db.userRoles.Linked target r)) := by
      simp [RoleOperation.changedIds, hm, hl]
    rw [h] at hin
    cases hin

theorem requestedRoles_mem {ids lockedIds existing : List Uuid} {operation : RoleOperation}
    {roles : List Role}
    (hc : collect (requestedRole (db.lockRoles lockedIds) operation existing) ids = .ok roles) :
    roles.map Role.id = ids ∧ ∀ r, r ∈ roles ↔ r.id ∈ ids ∧ db.liveRole? r.id = some r := by
  have hall := collect_ok _ _ _ hc
  clear hc
  induction hall with
  | nil => exact ⟨rfl, by simp⟩
  | @cons id role ids roles hrole _ ih =>
    have hlive := requestedRole_ok hrole
    have hid := Db.id_of_liveRole? hlive
    obtain ⟨hids, hmem⟩ := ih
    refine ⟨by rw [List.map_cons, hids, hid], ?_⟩
    intro r
    rw [List.mem_cons, hmem, List.mem_cons]
    constructor
    · rintro (rfl | ⟨h1, h2⟩)
      · exact ⟨Or.inl hid, hid ▸ hlive⟩
      · exact ⟨Or.inr h1, h2⟩
    · rintro ⟨h1 | h1, h2⟩
      · rw [h1, hlive] at h2
        exact Or.inl (Option.some.inj h2).symm
      · exact Or.inr ⟨h1, h2⟩

theorem targetAfter_mem {ids lockedIds existing : List Uuid} (hn : ids.Nodup)
    {operation : RoleOperation} {roles : List Role} (row : User)
    (hc : collect (requestedRole (db.lockRoles lockedIds) operation existing) ids = .ok roles) :
    ∃ l, operation.targetAfter (db.authority true row) (db.loadRoleGrantsForRoles roles) =
        build row.id row.isActive row.isProtected row.tokenVersion row.authzVersion l ∧
      (roleIds l).Nodup ∧ ∀ g, g ∈ l ↔ ∃ r,
        operation.links (db.userRoles.Linked row.id r.id) (r.id ∈ ids) ∧
          db.liveRole? r.id = some r ∧ db.roleGrant r = g := by
  obtain ⟨hids, hmem⟩ := requestedRoles_mem hc
  have hgrantIds : roleIds (db.loadRoleGrantsForRoles roles) = ids := by
    unfold roleIds Db.loadRoleGrantsForRoles
    rw [List.map_map, ← hids]
    rfl
  have hbase := nodup_roleGrantsForUser db row.id true
  -- a grant whose id is not requested keeps out of the simulated change
  have hout : ∀ g : RoleGrant, (∀ x ∈ db.loadRoleGrantsForRoles roles, x.roleId ≠ g.roleId) ↔
      g.roleId ∉ ids := by
    intro g
    rw [← hgrantIds]
    unfold roleIds
    simp [eq_comm]
  have hgrant : ∀ g : RoleGrant, g ∈ db.loadRoleGrantsForRoles roles ↔
      ∃ r, r.id ∈ ids ∧ db.liveRole? r.id = some r ∧ db.roleGrant r = g := by
    intro g
    unfold Db.loadRoleGrantsForRoles
    simp only [List.mem_map, hmem, and_assoc]
  cases operation with
  | bind =>
    obtain ⟨l, he, hl, hm⟩ := foldl_withRole row.id row.isActive row.isProtected
      row.tokenVersion row.authzVersion (db.loadRoleGrantsForRoles roles) (hgrantIds ▸ hn) hbase
    refine ⟨l, he, hl, ?_⟩
    intro g
    rw [hm, hgrant, hout, Db.mem_roleGrantsForUser]
    constructor
    · rintro (⟨r, h1, h2, h3⟩ | ⟨⟨r, h1, h2, -, h3⟩, -⟩)
      · exact ⟨r, Or.inr h1, h2, h3⟩
      · exact ⟨r, Or.inl h1, h2, h3⟩
    · rintro ⟨r, hlink, h2, rfl⟩
      by_cases hr : r.id ∈ ids
      · exact Or.inl ⟨r, hr, h2, rfl⟩
      · exact Or.inr ⟨⟨r, hlink.resolve_right hr, h2, Or.inl rfl, rfl⟩, hr⟩
  | unbind =>
    obtain ⟨l, he, hl, hm⟩ := foldl_withoutRole row.id row.isActive row.isProtected
      row.tokenVersion row.authzVersion (db.loadRoleGrantsForRoles roles) hbase
    refine ⟨l, he, hl, ?_⟩
    intro g
    rw [hm, hout, Db.mem_roleGrantsForUser]
    constructor
    · rintro ⟨⟨r, h1, h2, -, rfl⟩, hno⟩
      exact ⟨r, ⟨h1, hno⟩, h2, rfl⟩
    · rintro ⟨r, ⟨h1, hno⟩, h2, rfl⟩
      exact ⟨⟨r, h1, h2, Or.inl rfl, rfl⟩, hno⟩

/-- **the simulated change of assignments is what the written assignments confer** -/
theorem targetAfter_reloads {ids lockedIds existing : List Uuid} (hn : ids.Nodup)
    {operation : RoleOperation} {roles : List Role} {row row' : User}
    {users : Table User.id User.userName User.checks} {userRoles : Links Uuid Uuid}
    {state : RbacState}
    (hc : collect (requestedRole (db.lockRoles lockedIds) operation existing) ids = .ok roles)
    (hid : row'.id = row.id)
    (hflags : row'.isActive = row.isActive ∧ row'.isProtected = row.isProtected)
    (hlinked : ∀ r, userRoles.Linked row.id r ↔
      operation.links (db.userRoles.Linked row.id r) (r ∈ ids)) :
    (operation.targetAfter (db.authority true row) (db.loadRoleGrantsForRoles roles)).uncounted =
      ({ db with users := users, userRoles := userRoles, rbacState := state }.authority true
        row').uncounted := by
  obtain ⟨l, he, hl, hm⟩ := targetAfter_mem hn row hc
  rw [he, ← hid]
  refine authority_eq_build hl hflags ?_
  intro g
  rw [hm, Db.mem_roleGrantsForUser, hid]
  constructor
  · rintro ⟨r, h1, h2, h3⟩
    exact ⟨r, (hlinked r.id).mpr h1, h2, Or.inl rfl, h3⟩
  · rintro ⟨r, h1, h2, -, h3⟩
    exact ⟨r, (hlinked r.id).mp h1, h2, h3⟩

/-! ## a change of permissions -/

theorem mem_requestedKeys_iff {ids : List Uuid} {p : Uuid} {perm : Permission}
    (h : db.livePermission? p = some perm) : perm.key ∈ requestedKeys db ids ↔ p ∈ ids := by
  constructor
  · intro hk
    unfold requestedKeys at hk
    obtain ⟨⟨q, k⟩, hq, rfl⟩ := List.mem_map.mp (List.mem_toFinset.mp hk)
    obtain ⟨hin, perm', hperm', hkey⟩ := mem_loadPermissionKeys.mp hq
    have hp := (Db.livePermission?_eq_some.mp h).1
    have hp' := (Db.livePermission?_eq_some.mp hperm').1
    have he := Table.uniq_inj hp hp' hkey.symm
    have hid : p = q := by
      rw [← Table.key_of_get? hp, ← Table.key_of_get? hp', he]
    rw [hid]
    exact hin
  · intro hp
    exact mem_requestedKeys hp h

/-- **the predicted keys of a role are its keys after the write** -/
theorem keysAfter_reloads {roleId : Uuid} {ids : List Uuid} {operation : RoleOperation} {now : Nat}
    {rolePermissions : Links Uuid Uuid}
    (hw : WroteRolePermissions db operation roleId ids now rolePermissions) :
    { db with rolePermissions := rolePermissions }.rolePermissionKeys roleId =
      operation.keysAfter (db.rolePermissionKeys roleId) (requestedKeys db ids) := by
  ext k
  rw [Db.mem_rolePermissionKeys]
  cases operation with
  | bind =>
    show _ ↔ k ∈ db.rolePermissionKeys roleId ∪ requestedKeys db ids
    rw [Finset.mem_union, Db.mem_rolePermissionKeys]
    constructor
    · rintro ⟨p, perm, hl, hp, rfl⟩
      rcases (Links.linked_linkAll? hw roleId p).mp hl with hl | ⟨-, hm⟩
      · exact Or.inl ⟨p, perm, hl, hp, rfl⟩
      · obtain ⟨⟨q, k⟩, hq, rfl⟩ := List.mem_map.mp hm
        exact Or.inr (mem_requestedKeys (mem_loadPermissionKeys.mp (List.mem_of_mem_filter hq)).1 hp)
    · intro h
      by_cases hold : k ∈ db.rolePermissionKeys roleId
      · obtain ⟨p, perm, hl, hp, rfl⟩ := Db.mem_rolePermissionKeys.mp hold
        exact ⟨p, perm, (Links.linked_linkAll? hw roleId p).mpr (Or.inl hl), hp, rfl⟩
      · have hreq := h.resolve_left (fun hk => hold (Db.mem_rolePermissionKeys.mpr hk))
        unfold requestedKeys at hreq
        obtain ⟨⟨q, k⟩, hq, rfl⟩ := List.mem_map.mp (List.mem_toFinset.mp hreq)
        obtain ⟨-, perm, hperm, hkey⟩ := mem_loadPermissionKeys.mp hq
        refine ⟨q, perm, (Links.linked_linkAll? hw roleId q).mpr (Or.inr ⟨rfl, ?_⟩), hperm, hkey⟩
        exact List.mem_map.mpr ⟨(q, k), List.mem_filter.mpr ⟨hq, by simpa using hold⟩, rfl⟩
  | unbind =>
    have he : rolePermissions = _ := hw
    show _ ↔ k ∈ db.rolePermissionKeys roleId \ requestedKeys db ids
    rw [Finset.mem_sdiff, Db.mem_rolePermissionKeys, he]
    -- a live permission is among the loaded ones exactly when it is requested
    have hloaded : ∀ p perm, db.livePermission? p = some perm →
        (((db.loadPermissionKeys ids).map Prod.fst).contains p = true ↔ p ∈ ids) := by
      intro p perm hp
      rw [List.contains_iff_mem, List.mem_map]
      constructor
      · rintro ⟨⟨q, k⟩, hq, rfl⟩
        exact (mem_loadPermissionKeys.mp hq).1
      · intro hin
        exact ⟨(p, perm.key), mem_loadPermissionKeys.mpr ⟨hin, perm, hp, rfl⟩, rfl⟩
    constructor
    · rintro ⟨p, perm, hl, hp, rfl⟩
      obtain ⟨hl, hno⟩ := (Links.linked_tombstone _ _ _ _ _).mp hl
      have hlive : db.livePermission? p = some perm := hp
      refine ⟨⟨p, perm, hl, hp, rfl⟩, ?_⟩
      rw [mem_requestedKeys_iff hlive, ← hloaded p perm hlive]
      simpa using hno
    · rintro ⟨⟨p, perm, hl, hp, rfl⟩, hno⟩
      refine ⟨p, perm, (Links.linked_tombstone _ _ _ _ _).mpr ⟨hl, ?_⟩, hp, rfl⟩
      rw [mem_requestedKeys_iff hp, ← hloaded p perm hp] at hno
      simpa using hno

theorem affectedAfter_reloads {roleId : Uuid} {role role' : Role} {keys : Finset String}
    {u u' : User} (hrole : db.liveRole? roleId = some role) (hl : db.userRoles.Linked u.id roleId)
    (hid : u'.id = u.id) (hflags : u'.isActive = u.isActive ∧ u'.isProtected = u.isProtected)
    (hlinks : ∀ r, db'.userRoles.Linked u.id r ↔ db.userRoles.Linked u.id r)
    (hrole' : db'.liveRole? roleId = some role')
    (hgrant : db'.roleGrant role' = { db.roleGrant role with permissions := keys })
    (hother : ∀ r, r ≠ roleId → db'.liveRole? r = db.liveRole? r)
    (hkeys : ∀ r, r ≠ roleId → db'.rolePermissionKeys r = db.rolePermissionKeys r) :
    ((db.authority true u).withRole { db.roleGrant role with permissions := keys }).uncounted =
      (db'.authority true u').uncounted := by
  have hbase := nodup_roleGrantsForUser db u.id true
  obtain ⟨l, he, hn, hm⟩ := foldl_withRole u.id u.isActive u.isProtected u.tokenVersion
    u.authzVersion [{ db.roleGrant role with permissions := keys }] (List.nodup_singleton _) hbase
  have he' : (db.authority true u).withRole { db.roleGrant role with permissions := keys } =
      build u.id u.isActive u.isProtected u.tokenVersion u.authzVersion l := he
  have hrid := Db.id_of_liveRole? hrole
  rw [he', ← hid]
  refine authority_eq_build hn hflags ?_
  intro g
  rw [hm, List.mem_singleton, Db.mem_roleGrantsForUser, Db.mem_roleGrantsForUser, hid]
  -- another role grants what it granted
  have hsame : ∀ r : Role, r.id ≠ roleId → db'.roleGrant r = db.roleGrant r := by
    intro r hne
    unfold Db.roleGrant
    rw [hkeys r.id hne]
  constructor
  · rintro (rfl | ⟨⟨r, h1, h2, -, rfl⟩, hno⟩)
    · have hrid' := Db.id_of_liveRole? hrole'
      exact ⟨role', (hlinks _).mpr (hrid'.symm ▸ hl), hrid'.symm ▸ hrole', Or.inl rfl, hgrant⟩
    · have hne : r.id ≠ roleId := by
        intro e
        exact hno _ (List.mem_singleton_self _) (hrid.trans e.symm)
      exact ⟨r, (hlinks _).mpr h1, (hother r.id hne).trans h2, Or.inl rfl, hsame r hne⟩
  · rintro ⟨r, h1, h2, -, rfl⟩
    by_cases e : r.id = roleId
    · rw [e, hrole', Option.some.injEq] at h2
      subst h2
      exact Or.inl hgrant
    · refine Or.inr ⟨⟨r, (hlinks _).mp h1, (hother r.id e).symm.trans h2, Or.inl rfl,
        (hsame r e).symm⟩, ?_⟩
      intro x hx hxe
      rw [List.mem_singleton.mp hx] at hxe
      exact e (hxe.symm.trans hrid)

/-! ## the commands -/

/-- the after snapshots that a command computes in memory -/
def Operation.predictedAfter (db : Db) : Operation → List AuthoritySnapshot
  | .updateUserStatus c t a =>
    match lockActorAndTargetUser db c t .usersStatusUpdate [] with
    | .ok locked => [{ locked.target with userIsActive := a }]
    | .error _ => []
  | .changeUserRoles c t ids o =>
    let requestedIds := sortIds ids.dedup
    match lockActorAndTargetUser db c t o.assignmentPermission requestedIds with
    | .ok locked =>
      match collect (requestedRole locked.lockedRoles o
        (requestedIds.filter (fun r => db.userRoles.Linked t r))) requestedIds with
      | .ok roles => [o.targetAfter locked.target (db.loadRoleGrantsForRoles roles)]
      | .error _ => []
    | .error _ => []
  | .changeRolePermissions c r ids o _ =>
    match lockSharedRoleChange db c r o.permissionsRequired false with
    | .ok locked =>
      let permissionKeysAfter := o.keysAfter locked.roleBefore.permissions
        ((db.loadPermissionKeys ids.dedup).map Prod.snd).toFinset
      let replacement := { locked.roleBefore with permissions := permissionKeysAfter }
      locked.affectedBefore.map (fun s => s.withRole replacement)
    | .error _ => []
  | _ => []

/-- the policy judges a change of assignments by the snapshot that is predicted -/
theorem judged_changeUserRoles {c : AuthorizationContext} {t : Uuid} {ids : List Uuid}
    {o : RoleOperation} {now : Nat} {outcome : MutationOutcome UserRoleMutationResponse}
    (h : changeUserRolesBody c t (sortIds ids.dedup) o now db = .ok (outcome, db')) :
    ∃ actor target after grants,
      (Operation.changeUserRoles c t ids o).predictedAfter db = [after] ∧
        (decideRoleChange o actor target after grants).allowed = true := by
  unfold changeUserRolesBody at h
  simp only [bind_ok, require_ok] at h
  obtain ⟨locked, hlock, roles, hc, _, -, _, hallowed, -⟩ := h
  unfold Operation.predictedAfter
  simp only [hlock, hc]
  exact ⟨_, _, _, _, rfl, hallowed⟩

/-- and a change of permissions by all that are predicted -/
theorem judged_changeRolePermissions {c : AuthorizationContext} {r : Uuid} {ids : List Uuid}
    {o : RoleOperation} {v now : Nat} {outcome : MutationOutcome RoleMutationResponse}
    (h : changeRolePermissionsBody c r ids.dedup o v now db = .ok (outcome, db')) :
    ∃ actor role keysAfter affected, (decideRolePermissionsChange o actor role keysAfter affected
      ((Operation.changeRolePermissions c r ids o v).predictedAfter db)).allowed = true := by
  unfold changeRolePermissionsBody at h
  simp only [bind_ok, require_ok] at h
  obtain ⟨locked, hlock, _, -, _, -, _, hallowed, -⟩ := h
  unfold Operation.predictedAfter
  simp only [hlock]
  exact ⟨_, _, _, _, hallowed⟩

/-- a value is what a fresh load returns -/
def Reloads (db : Db) : AuditState → Prop
  | .snapshot p => ∃ reloaded, db.loadAuthoritySnapshot p.userId true = .ok reloaded ∧
      p = snapshotPayload reloaded
  | .role r => ∃ role grant, db.roles.get? r.id = some role ∧
      db.loadRoleGrant r.id true true = .ok grant ∧ r = roleResponse role grant.permissions
  | _ => True

structure Predicted (db' : Db) (after : List AuthoritySnapshot) (state : Option AuditState) :
    Prop where
  snapshots : ∀ s ∈ after, ∃ reloaded, db'.loadAuthoritySnapshot s.userId true = .ok reloaded ∧
    s.uncounted = reloaded.uncounted
  audit : ∀ x, state = some x → Reloads db' x

theorem predicted_target {target : Uuid} {row : User} {after after' : AuthoritySnapshot}
    (hlive : db'.liveUser? target = some row) (hid : after.userId = target)
    (h : after.uncounted = (db'.authority true row).uncounted)
    (h' : after' = { after with authzVersion := row.authzVersion }) :
    Predicted db' [after] (some (.snapshot (snapshotPayload after'))) where
  snapshots s hs := by
    rw [List.mem_singleton.mp hs, hid]
    exact ⟨_, Db.loadAuthoritySnapshot_ok.mpr ⟨row, hlive, rfl⟩, h⟩
  audit x hx := by
    cases hx
    have hpay : snapshotPayload after' = snapshotPayload (db'.authority true row) := by
      refine snapshotPayload_congr ?_ (by rw [h']; rfl)
      rw [h']
      exact h
    refine ⟨db'.authority true row, ?_, hpay⟩
    rw [show (snapshotPayload after').userId = target by rw [h']; exact hid]
    exact Db.loadAuthoritySnapshot_ok.mpr ⟨row, hlive, rfl⟩

theorem reloads_role {role : Role} {keys : Finset String} (hr : db.roles.get? role.id = some role)
    (hk : db.rolePermissionKeys role.id = keys) : Reloads db (.role (roleResponse role keys)) := by
  refine ⟨role, db.roleGrant role, hr, ?_, ?_⟩
  · unfold Db.loadRoleGrant
    simp only [bind_ok, require_ok, orRaise_ok, pure_ok, if_true]
    exact ⟨role, hr, (), Or.inl trivial, rfl⟩
  · rw [← hk]
    rfl

theorem predicted_updateUserStatus {c : AuthorizationContext} {t : Uuid} {a : Bool}
    {outcome : MutationOutcome UserResponse}
    (h : updateUserStatusBody c t a db = .ok (outcome, db')) :
    Predicted db' ((Operation.updateUserStatus c t a).predictedAfter db) outcome.afterState := by
  unfold updateUserStatusBody at h
  simp only [bind_ok] at h
  obtain ⟨locked, hlock, -, -, h⟩ := h
  obtain ⟨row, -, -, hlive, htarget, -⟩ := lockActorAndTargetUser_ok hlock
  have hid : locked.target.userId = t := by
    rw [htarget]
    exact Db.id_of_liveUser? hlive
  unfold Operation.predictedAfter
  simp only [hlock]
  split at h
  · rename_i hsame
    simp only [pure_ok, Prod.mk.injEq] at h
    obtain ⟨rfl, rfl⟩ := h
    refine predicted_target hlive hid ?_ ?_
    · rw [htarget, ← hsame]
      rfl
    · rw [htarget]
      rfl
  · simp only [bind_ok, Db.updateUser_ok, Db.commit_ok, pure_ok, Prod.mk.injEq] at h
    obtain ⟨_, ⟨users, hu, rfl⟩, _, ⟨rfl, -, -⟩, rfl, rfl⟩ := h
    refine predicted_target (liveUser?_modify? hu rfl hlive rfl) hid ?_ rfl
    rw [htarget]
    rfl

theorem predicted_changeUserRoles {c : AuthorizationContext} {t : Uuid} {ids : List Uuid}
    {o : RoleOperation} {now : Nat} {outcome : MutationOutcome UserRoleMutationResponse}
    (h : changeUserRolesBody c t (sortIds ids.dedup) o now db = .ok (outcome, db')) :
    Predicted db' ((Operation.changeUserRoles c t ids o).predictedAfter db) outcome.afterState := by
  have hn : (sortIds ids.dedup).Nodup := nodup_sortIds ids.nodup_dedup
  unfold changeUserRolesBody at h
  simp only [bind_ok, require_ok] at h
  obtain ⟨locked, hlock, roles, hc, -, -, -, -, -, hlimit, h⟩ := h
  obtain ⟨row, -, -, hlive, htarget, hroles⟩ := lockActorAndTargetUser_ok hlock
  have hid := Db.id_of_liveUser? hlive
  unfold Operation.predictedAfter
  simp only [hlock, hc]
  rw [hroles] at hc
  obtain ⟨l, he, -⟩ := targetAfter_mem hn locked.targetRow hc
  rw [← htarget] at he
  have huser : (o.targetAfter locked.target (db.loadRoleGrantsForRoles roles)).userId = t := by
    rw [he]
    exact hid
  split at h
  · rename_i hnone
    simp only [pure_ok, Prod.mk.injEq] at h
    obtain ⟨rfl, rfl⟩ := h
    refine predicted_target hlive huser ?_ (by rw [he]; rfl)
    rw [htarget]
    exact targetAfter_reloads hn hc rfl ⟨rfl, rfl⟩ (hid ▸ linked_unchanged hnone)
  · rename_i hsome
    simp only [bind_ok, Db.updateUser_ok, Db.commit_ok, pure_ok, Prod.mk.injEq] at h
    obtain ⟨db₁, hw, _, ⟨users, hu, rfl⟩, _, ⟨rfl, -, -⟩, rfl, rfl⟩ := h
    obtain ⟨userRoles, hwrote, rfl⟩ := writeUserRoles_ok hw (fun hb => hlimit hb hsome)
    refine predicted_target (liveUser?_modify? hu rfl hlive rfl) huser ?_ rfl
    rw [htarget]
    exact targetAfter_reloads hn hc rfl ⟨rfl, rfl⟩ (hid ▸ hwrote.linked)

/-- a role command answers, and audits, the role as the store has it afterwards -/
structure AnswersRole (db' : Db) (outcome : MutationOutcome RoleMutationResponse) : Prop where
  audit : outcome.afterState = some (.role outcome.value.role)
  reloads : Reloads db' (.role outcome.value.role)

theorem AnswersRole.predicted {outcome : MutationOutcome RoleMutationResponse}
    (h : AnswersRole db' outcome) : Predicted db' [] outcome.afterState where
  snapshots _ hs := by cases hs
  audit x hx := by
    rw [h.audit] at hx
    cases hx
    exact h.reloads

theorem reloads_modified {roleId : Uuid} {f : RolePatch} {role : Role} {keys : Finset String}
    {roles : Table Role.id Role.key Role.checks} (hr : db.roles.modify? roleId f = .ok roles)
    (he : db'.roles = roles) (hrole : db.liveRole? roleId = some role)
    (hk : db'.rolePermissionKeys roleId = keys) :
    Reloads db' (.role (roleResponse (f.apply role) keys)) := by
  have hid : (f.apply role).id = roleId := (f.key_eq role).trans (Db.id_of_liveRole? hrole)
  refine reloads_role ?_ (hid ▸ hk)
  rw [hid, he, Table.get?_modify? hr, if_pos rfl, (Db.liveRole?_eq_some.mp hrole).1]
  rfl

theorem SharedRole.reloads {context : AuthorizationContext} {roleId : Uuid}
    {locked : LockedSharedRole} {row : User} (hs : SharedRole db context roleId locked row) :
    Reloads db (.role (roleResponse locked.role locked.roleBefore.permissions)) := by
  have hid := Db.id_of_liveRole? hs.role
  refine reloads_role (hid ▸ (Db.liveRole?_eq_some.mp hs.role).1) ?_
  rw [hs.grant]
  rfl

theorem SharedRole.permissions {context : AuthorizationContext} {roleId : Uuid}
    {locked : LockedSharedRole} {row : User} (hs : SharedRole db context roleId locked row) :
    locked.roleBefore.permissions = db.rolePermissionKeys roleId := by
  rw [hs.grant, ← Db.id_of_liveRole? hs.role]
  rfl

theorem answers_createRole (hc : Coherent db) {c : AuthorizationContext} {r : Uuid}
    {q : RoleCreateRequest} {outcome : MutationOutcome RoleMutationResponse}
    (h : createRoleBody c r q db = .ok (outcome, db')) : AnswersRole db' outcome := by
  unfold createRoleBody at h
  simp only [bind_ok, Db.insertRole_ok, pure_ok, Prod.mk.injEq] at h
  obtain ⟨_, _, _, _, _, _, _, _, _, _, _, ⟨roles, ht, rfl⟩, rfl, rfl⟩ := h
  refine ⟨rfl, reloads_role ?_ ?_⟩
  · show roles.get? _ = _
    rw [Table.get?_insert? ht, if_pos rfl]
  · -- nothing is granted to a role before it exists
    refine Finset.eq_empty_of_forall_notMem ?_
    intro k hk
    obtain ⟨p, -, hl, -⟩ := Db.mem_rolePermissionKeys.mp hk
    obtain ⟨x, hx⟩ := Option.isSome_iff_exists.mp (hc.granted _ p hl)
    have hget := (Db.liveRole?_eq_some.mp hx).1
    rw [(Table.rows_insert? ht).2.1] at hget
    cases hget

theorem answers_updateRole {c : AuthorizationContext} {r : Uuid} {q : RoleUpdateRequest} {v : Nat}
    {outcome : MutationOutcome RoleMutationResponse}
    (h : updateRoleBody c r q v db = .ok (outcome, db')) : AnswersRole db' outcome := by
  unfold updateRoleBody at h
  simp only [bind_ok] at h
  obtain ⟨locked, hlock, -, -, -, -, h⟩ := h
  obtain ⟨row, hs⟩ := lockSharedRoleChange_ok hlock
  split at h
  · simp only [pure_ok, Prod.mk.injEq] at h
    obtain ⟨rfl, rfl⟩ := h
    exact ⟨rfl, hs.reloads⟩
  · simp only [bind_ok, Db.updateRole_ok, pure_ok, Prod.mk.injEq] at h
    obtain ⟨_, ⟨roles, -, ht, rfl⟩, rfl, rfl⟩ := h
    exact ⟨rfl, reloads_modified ht rfl hs.role hs.permissions.symm⟩

theorem answers_setRoleActive {c : AuthorizationContext} {r : Uuid} {a : Bool} {v : Nat}
    {outcome : MutationOutcome RoleMutationResponse}
    (h : setRoleActiveBody c r a v db = .ok (outcome, db')) : AnswersRole db' outcome := by
  unfold setRoleActiveBody at h
  simp only [bind_ok] at h
  obtain ⟨locked, hlock, -, -, -, -, h⟩ := h
  obtain ⟨row, hs⟩ := lockSharedRoleChange_ok hlock
  split at h
  · simp only [pure_ok, Prod.mk.injEq] at h
    obtain ⟨rfl, rfl⟩ := h
    exact ⟨rfl, hs.reloads⟩
  · simp only [bind_ok, Db.updateRole_ok, Db.commit_ok, pure_ok, Prod.mk.injEq] at h
    obtain ⟨_, ⟨roles, -, hr, rfl⟩, db₂, hb, _, ⟨rfl, -, -⟩, rfl, rfl⟩ := h
    obtain ⟨users, hu, rfl⟩ := bumpSharedAuthority_ok hb
    exact ⟨rfl, reloads_modified hr rfl hs.role hs.permissions.symm⟩

theorem answers_softDeleteRole {c : AuthorizationContext} {r : Uuid} {v now : Nat}
    {outcome : MutationOutcome RoleMutationResponse}
    (h : softDeleteRoleBody c r v now db = .ok (outcome, db')) : AnswersRole db' outcome := by
  unfold softDeleteRoleBody at h
  simp only [bind_ok, Db.updateRole_ok, Db.commit_ok, pure_ok, Prod.mk.injEq] at h
  obtain ⟨locked, hlock, -, -, -, -, _, ⟨roles, -, hr, rfl⟩, db₂, hrev, db₃, hb, _, ⟨rfl, -, -⟩,
    rfl, rfl⟩ := h
  obtain ⟨row, hs⟩ := lockSharedRoleChange_ok hlock
  have hrev' := Db.revokePermissions_ok hrev
  subst hrev'
  obtain ⟨users, hu, rfl⟩ := bumpSharedAuthority_ok hb
  refine ⟨rfl, reloads_modified hr rfl hs.role ?_⟩
  -- every grant of the role is revoked
  refine Finset.eq_empty_of_forall_notMem ?_
  intro k hk
  obtain ⟨p, -, hl, -⟩ := Db.mem_rolePermissionKeys.mp hk
  have hq := ((Links.linked_tombstone _ _ _ _ _).mp hl).2
  simp at hq

theorem predicted_changeRolePermissions {c : AuthorizationContext} {r : Uuid} {ids : List Uuid}
    {o : RoleOperation} {v now : Nat} {outcome : MutationOutcome RoleMutationResponse}
    (h : changeRolePermissionsBody c r ids.dedup o v now db = .ok (outcome, db')) :
    AnswersRole db' outcome ∧ Predicted db'
      ((Operation.changeRolePermissions c r ids o v).predictedAfter db) outcome.afterState := by
  unfold changeRolePermissionsBody at h
  simp only [bind_ok] at h
  obtain ⟨locked, hlock, -, -, -, -, -, -, -, -, h⟩ := h
  obtain ⟨row, hs⟩ := lockSharedRoleChange_ok hlock
  have hid := Db.id_of_liveRole? hs.role
  unfold Operation.predictedAfter
  simp only [hlock]
  split at h
  · rename_i hsame
    simp only [pure_ok, Prod.mk.injEq] at h
    obtain ⟨rfl, rfl⟩ := h
    have hans : AnswersRole db (unchangedRole "role_permissions_unchanged"
        (roleResponse locked.role locked.roleBefore.permissions)) := ⟨rfl, hs.reloads⟩
    refine ⟨hans, ?_, hans.predicted.audit⟩
    intro s hmem
    rw [← hsame, hs.affected, List.map_map] at hmem
    obtain ⟨u, hu, rfl⟩ := List.mem_map.mp hmem
    obtain ⟨hl, hlive⟩ := mem_affectedUsers.mp hu
    refine ⟨_, Db.loadAuthoritySnapshot_ok.mpr ⟨u, hlive, rfl⟩, ?_⟩
    have hreload : ((db.authority true u).withRole (db.roleGrant locked.role)).uncounted =
        (db.authority true u).uncounted :=
      affectedAfter_reloads hs.role hl rfl ⟨rfl, rfl⟩ (fun _ => Iff.rfl) hs.role rfl
        (fun _ _ => rfl) (fun _ _ => rfl)
    rw [hs.grant]
    exact hreload
  · simp only [bind_ok, Db.updateRole_ok, Db.commit_ok, pure_ok, Prod.mk.injEq] at h
    obtain ⟨db₁, hw, _, ⟨roles, -, hr, rfl⟩, db₂, hb, _, ⟨rfl, -, -⟩, rfl, rfl⟩ := h
    rw [hs.keys] at hw
    obtain ⟨rolePermissions, hwrote, rfl⟩ := writeRolePermissions_ok hw
    obtain ⟨users, hu, rfl⟩ := bumpSharedAuthority_ok hb
    have hbumped := hs.bumpedHolders hu
    have hchange := roleChange_rolePermissions hwrote hr hbumped
    have hkeys := keysAfter_reloads hwrote
    have hans : Reloads { db with
        rolePermissions := rolePermissions, roles := roles, users := users }.bumpEpoch
        (.role (roleResponse (Role.bumpVersion.apply locked.role)
          (o.keysAfter locked.roleBefore.permissions (requestedKeys db ids.dedup)))) :=
      reloads_modified hr rfl hs.role (by rw [hs.permissions]; exact hkeys)
    refine ⟨⟨rfl, hans⟩, ?_, ?_⟩
    · intro s hmem
      rw [hs.affected, List.map_map] at hmem
      obtain ⟨u, hmu, rfl⟩ := List.mem_map.mp hmem
      obtain ⟨hl, hlive⟩ := mem_affectedUsers.mp hmu
      have hget := hchange.liveUser? hlive
      rw [if_pos hl] at hget
      have hlive' := Db.liveUser?_eq_some.mpr ⟨hget, (Db.liveUser?_eq_some.mp hlive).2⟩
      refine ⟨_, Db.loadAuthoritySnapshot_ok.mpr ⟨_, hlive', rfl⟩, ?_⟩
      have hrole' : { db with
          rolePermissions := rolePermissions, roles := roles, users := users }.bumpEpoch.liveRole? r =
            some (Role.bumpVersion.apply locked.role) := by
        refine (liveRole?_modify? hr (fun _ => rfl) r).trans ?_
        rw [if_pos rfl]
        exact congrArg (Option.map Role.bumpVersion.apply) hs.role
      show ((db.authority true u).withRole { locked.roleBefore with permissions := _ }).uncounted = _
      rw [hs.grant]
      refine affectedAfter_reloads hs.role hl rfl ⟨rfl, rfl⟩ (fun _ => Iff.rfl) hrole' ?_
        hchange.roles hchange.keys
      unfold Db.roleGrant
      have hk := hkeys
      rw [← hid] at hk
      exact congrArg (fun k => RoleGrant.mk locked.role.id locked.role.key
        locked.role.managementTier k locked.role.isSystem locked.role.isProtected
        locked.role.isSuperAdmin) hk
    · intro x hx
      cases hx
      exact hans

/-! ## what a command answers -/

/-- the commands of `RbacService` -/
def Operation.isService : Operation → Bool
  | .updateUserStatus .. | .revokeUserSessions .. | .changeUserRoles .. | .createRole ..
  | .updateRole .. | .setRoleActive .. | .softDeleteRole .. | .changeRolePermissions .. => true
  | _ => false

/-- the role in the answer of a role command -/
def Operation.roleResponse? (now : Nat) (s : Postgres) : Operation → Option RoleResponse
  | .createRole c r q => (PgRbac.createRole c r q s).1.toOption.map RoleMutationResponse.role
  | .updateRole c r q v => (PgRbac.updateRole c r q v s).1.toOption.map RoleMutationResponse.role
  | .setRoleActive c r a v =>
    (PgRbac.setRoleActive c r a v s).1.toOption.map RoleMutationResponse.role
  | .softDeleteRole c r v =>
    (PgRbac.softDeleteRole c r v now s).1.toOption.map RoleMutationResponse.role
  | .changeRolePermissions c r ids o v =>
    (PgRbac.changeRolePermissions c r ids o v now s).1.toOption.map RoleMutationResponse.role
  | _ => none

theorem discard_ok {α : Type} {r : Except Failure α × Postgres} {s' : Postgres} :
    discard r = (.ok (), s') ↔ ∃ a, r = (.ok a, s') := by
  obtain ⟨x, s⟩ := r
  unfold discard
  rw [Prod.mk.injEq, map_ok]
  constructor
  · rintro ⟨⟨a, rfl, -⟩, rfl⟩
    exact ⟨a, rfl⟩
  · rintro ⟨a, ha⟩
    cases ha
    exact ⟨⟨a, rfl, rfl⟩, rfl⟩

theorem audited_run {α : Type} {context : AuthorizationContext} {action : String}
    {tu tr : Option Uuid} {operation : Db → Except Failure (MutationOutcome α × Db)}
    {s s' : Postgres} {after : List AuthoritySnapshot}
    (hbody : ∀ outcome db', operation s.db = .ok (outcome, db') →
      Predicted db' after outcome.afterState)
    (h : discard (runAudited context action tu tr operation s) = (.ok (), s')) :
    ∃ event, s'.audit = s.audit ++ [.rbac event] ∧ Predicted s'.db after event.afterState := by
  obtain ⟨v, hv⟩ := discard_ok.mp h
  obtain ⟨outcome, event, ho, -, he, hrow⟩ := runAudited_row hv
  exact ⟨event, hrow, he ▸ hbody outcome _ ho⟩

theorem answers_run {context : AuthorizationContext} {action : String} {tu tr : Option Uuid}
    {operation : Db → Except Failure (MutationOutcome RoleMutationResponse × Db)}
    {s s' : Postgres} {response : RoleResponse}
    (hbody : ∀ outcome db', operation s.db = .ok (outcome, db') → AnswersRole db' outcome)
    (h : discard (runAudited context action tu tr operation s) = (.ok (), s'))
    (hr : (runAudited context action tu tr operation s).1.toOption.map
      RoleMutationResponse.role = some response) : Reloads s'.db (.role response) := by
  obtain ⟨v, hv⟩ := discard_ok.mp h
  obtain ⟨outcome, event, ho, rfl, -, -⟩ := runAudited_row hv
  rw [hv] at hr
  cases hr
  exact (hbody outcome _ ho).reloads

/-- the predictions of a committed command, and its one audit row -/
theorem predicted_run (hc : Coherent db) {s s' : Postgres} {now : Nat} {op : Operation}
    (e : s.db = db) (hop : op.isService = true) (h : op.run lib now s = (.ok (), s')) :
    ∃ event, s'.audit = s.audit ++ [.rbac event] ∧
      Predicted s'.db (op.predictedAfter s.db) event.afterState := by
  subst e
  cases op with
  | updateUserStatus c t a => exact audited_run (fun _ _ ho => predicted_updateUserStatus ho) h
  | revokeUserSessions c t =>
    refine audited_run ?_ h
    intro outcome db' ho
    unfold revokeUserSessionsBody at ho
    simp only [bind_ok, pure_ok, Prod.mk.injEq] at ho
    obtain ⟨_, _, _, _, _, _, _, _, rfl, _⟩ := ho
    refine ⟨fun _ hm => (by cases hm), ?_⟩
    intro x hx
    cases hx
    trivial
  | changeUserRoles c t ids o =>
    by_cases hne : ids = []
    · simp [Operation.run, changeUserRoles, hne, discard, Except.map] at h
    · simp only [Operation.run, changeUserRoles, if_neg hne] at h
      exact audited_run (fun _ _ ho => predicted_changeUserRoles ho) h
  | createRole c r q => exact audited_run (fun _ _ ho => (answers_createRole hc ho).predicted) h
  | updateRole c r q v => exact audited_run (fun _ _ ho => (answers_updateRole ho).predicted) h
  | setRoleActive c r a v =>
    exact audited_run (fun _ _ ho => (answers_setRoleActive ho).predicted) h
  | softDeleteRole c r v =>
    exact audited_run (fun _ _ ho => (answers_softDeleteRole ho).predicted) h
  | changeRolePermissions c r ids o v =>
    by_cases hne : ids = []
    · simp [Operation.run, changeRolePermissions, hne, discard, Except.map] at h
    · simp only [Operation.run, changeRolePermissions, if_neg hne] at h
      exact audited_run (fun _ _ ho => (predicted_changeRolePermissions ho).2) h
  | _ => cases hop

theorem response_reloads (hc : Coherent db) {s s' : Postgres} {now : Nat} {op : Operation}
    {response : RoleResponse} (e : s.db = db) (h : op.run lib now s = (.ok (), s'))
    (hr : op.roleResponse? now s = some response) : Reloads s'.db (.role response) := by
  subst e
  cases op with
  | createRole c r q => exact answers_run (fun _ _ ho => answers_createRole hc ho) h hr
  | updateRole c r q v => exact answers_run (fun _ _ ho => answers_updateRole ho) h hr
  | setRoleActive c r a v => exact answers_run (fun _ _ ho => answers_setRoleActive ho) h hr
  | softDeleteRole c r v => exact answers_run (fun _ _ ho => answers_softDeleteRole ho) h hr
  | changeRolePermissions c r ids o v =>
    by_cases hne : ids = []
    · simp [Operation.run, changeRolePermissions, hne, discard, Except.map] at h
    · simp only [Operation.run, changeRolePermissions, if_neg hne] at h
      simp only [Operation.roleResponse?, changeRolePermissions, if_neg hne] at hr
      exact answers_run (fun _ _ ho => (predicted_changeRolePermissions ho).1) h hr
  | _ => cases hr

/-- **what a command of the service computed in memory, audited and answered is what a fresh load
of the written tables returns** -/
theorem predicted_reloaded {s s' : Postgres} {c : Call} (hs : Reachable (system lib) s)
    (hop : c.operation.isService = true) (h : Committed lib s c s') :
    (∀ after ∈ c.operation.predictedAfter s.db, ∃ reloaded,
      s'.db.loadAuthoritySnapshot after.userId true = .ok reloaded ∧
        after.uncounted = reloaded.uncounted) ∧
    (∃ event, s'.audit = s.audit ++ [.rbac event] ∧
      ∀ x, event.afterState = some x → Reloads s'.db x) ∧
    ∀ response, c.operation.roleResponse? c.now s = some response →
      Reloads s'.db (.role response) := by
  have hc := (reachable_standing hs).coherent
  obtain ⟨event, hrow, hpred⟩ := predicted_run hc rfl hop h
  exact ⟨hpred.snapshots, ⟨event, hrow, hpred.audit⟩, fun _ hr => response_reloads hc rfl h hr⟩

/-- a custom role gets a permission, and is bound with the admin role to an account -/
def arranging : Nat → Call :=
  script [signUp "alice" alice, .bootstrap alice, signUp "bob" bob,
    .createRole (bearer alice 0) carol ⟨"editor", "Editor", "", 300⟩,
    .changeUserRoles (bearer alice 0) bob [systemRoleId .admin, carol] .bind,
    .changeRolePermissions (bearer alice 0) carol [permissionId .projectsRead] .bind 0]

theorem predicted_reloaded_arranging :
    (∃ after ∈ (arranging 4).operation.predictedAfter (states sampleLibrary arranging 4).db,
      after.managementTier = 500 ∧ ∃ reloaded,
        (states sampleLibrary arranging 5).db.loadAuthoritySnapshot bob true = .ok reloaded ∧
          after.uncounted = reloaded.uncounted) ∧
    ∃ response, response.permissions = {"projects:read"} ∧
      Reloads (states sampleLibrary arranging 6).db (.role response) := by
  have hrun := isRun_states sampleLibrary arranging 6
  have hcom : ∀ i ∈ [4, 5], ((arranging i).operation.run sampleLibrary i
      (states sampleLibrary arranging i)).1 = .ok () := by decide +kernel
  have h4 := predicted_reloaded (hrun.reachable (show 4 ≤ 6 by omega)) rfl
    (Prod.ext (hcom 4 (by decide)) rfl : Committed sampleLibrary _ (arranging 4)
      (states sampleLibrary arranging 5))
  have h5 := predicted_reloaded (hrun.reachable (show 5 ≤ 6 by omega)) rfl
    (Prod.ext (hcom 5 (by decide)) rfl : Committed sampleLibrary _ (arranging 5)
      (states sampleLibrary arranging 6))
  constructor
  · have hafter : ((arranging 4).operation.predictedAfter (states sampleLibrary arranging 4).db).map
        (fun p => (p.userId, p.managementTier)) = [(bob, 500)] := by decide +kernel
    obtain ⟨after, hm, he⟩ := List.mem_map.mp (hafter ▸ List.mem_singleton_self (bob, 500))
    obtain ⟨hu, ht⟩ := Prod.mk.inj he
    obtain ⟨reloaded, hload, hsame⟩ := h4.1 after hm
    exact ⟨after, hm, ht, reloaded, hu ▸ hload, hsame⟩
  · have hresponse : ((arranging 5).operation.roleResponse? 5
        (states sampleLibrary arranging 5)).map RoleResponse.permissions =
          some {"projects:read"} := by decide +kernel
    obtain ⟨response, hr, hp⟩ := Option.map_eq_some_iff.mp hresponse
    exact ⟨response, hp, h5.2.2 response hr⟩

end PgRbac
