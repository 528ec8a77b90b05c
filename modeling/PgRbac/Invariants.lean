import PgRbac.Coherence

/-!
# The standing invariant along every run

Every operation keeps `Coherent` and `SoleHolder`, and none removes the super administrator.

* `Kept`                    what one committed transaction keeps;
* `kept_updateUserStatus`, …, `kept_handover`    one lemma for each operation;
* `kept_body`               all of them;
* `reachable_standing`      the invariant of every reachable state;
* `run_keeps_holder`        once there is a super administrator there is one for ever.
-/

set_option linter.unusedVariables false

namespace PgRbac

open Fallible Store Trace

variable {db db' : Db} {lib : PasswordLibrary}

def HasHolder (db : Db) : Prop := ∃ u, db.userRoles.Linked u (systemRoleId .superAdmin)

structure Standing (db : Db) : Prop where
  coherent : Coherent db
  sole : SoleHolder db

structure Kept (db db' : Db) : Prop where
  standing : Standing db'
  holder : HasHolder db → HasHolder db'

theorem Standing.kept (hs : Standing db) : Kept db db := ⟨hs, id⟩

/-! ## commands on a user -/

theorem Coherent.holder_protected (hc : Coherent db) {u : User} {incl : Bool}
    (h : db.userRoles.Linked u.id (systemRoleId .superAdmin)) :
    (db.authority incl u).isProtected = true := by
  obtain ⟨role, hr, hid, -, -, hact, hprot, -⟩ := hc.systemRole .superAdmin
  have hmem : db.roleGrant role ∈ db.roleGrantsForUser u.id incl := by
    rw [Db.mem_roleGrantsForUser]
    exact ⟨role, hid ▸ h, hid ▸ hr, Or.inr hact, rfl⟩
  have hany : (db.roleGrantsForUser u.id incl).any RoleGrant.isProtected = true :=
    List.any_eq_true.mpr ⟨_, hmem, hprot⟩
  show (u.isProtected || _) = true
  rw [hany, Bool.or_true]

theorem kept_updateUserStatus (hs : Standing db) {context : AuthorizationContext}
    {target : Uuid} {isActive : Bool} {outcome : MutationOutcome UserResponse}
    (h : updateUserStatusBody context target isActive db = .ok (outcome, db')) : Kept db db' := by
  obtain ⟨locked, hlock, hd, ⟨-, rfl⟩ | ⟨-, t, ht, rfl⟩⟩ := updateUserStatusBody_ok h
  · exact hs.kept
  · obtain ⟨row, -, -, hlive, htarget, -⟩ := lockActorAndTargetUser_ok hlock
    refine ⟨⟨hs.coherent.updateUsers ht (fun _ => rfl), hs.sole.updateUsers ht (fun _ => rfl) ?_⟩, id⟩
    intro u hl hu ha hp
    have hid : u.id = target := of_decide_eq_true hp
    have hrow : locked.targetRow = u := by
      rw [hid, hlive] at hu
      exact Option.some.inj hu
    have hprot := hd.unprotected
    rw [htarget, hrow, hs.coherent.holder_protected hl] at hprot
    cases hprot

theorem kept_revokeUserSessions (hs : Standing db) {context : AuthorizationContext}
    {target : Uuid} {outcome : MutationOutcome Unit}
    (h : revokeUserSessionsBody context target db = .ok (outcome, db')) : Kept db db' := by
  obtain ⟨-, -, -, t, ht, rfl⟩ := revokeUserSessionsBody_ok h
  exact ⟨⟨hs.coherent.updateUsers ht (fun _ => rfl),
    hs.sole.updateUsers ht (fun _ => rfl) (fun _ _ _ ha _ => ha)⟩, id⟩

theorem mem_changedIds {operation : RoleOperation} {requested existing : List Uuid} {r : Uuid}
    (h : r ∈ operation.changedIds requested existing) : r ∈ requested := by
  cases operation with
  | bind => exact List.mem_of_mem_filter h
  | unbind => exact List.mem_of_mem_filter h

theorem kept_changeUserRoles (hs : Standing db) {context : AuthorizationContext} {target : Uuid}
    {ids : List Uuid} {operation : RoleOperation} {now : Nat}
    {outcome : MutationOutcome UserRoleMutationResponse}
    (h : changeUserRolesBody context target ids operation now db = .ok (outcome, db')) :
    Kept db db' := by
  obtain ⟨locked, hlock, -, hroles, rfl | ⟨userRoles, users, hw, hu, rfl⟩⟩ := changeUserRolesBody_ok h
  · exact hs.kept
  · obtain ⟨row, -, -, hlive, -, -⟩ := lockActorAndTargetUser_ok hlock
    have hc := hs.coherent
    have hne : ∀ r ∈ ids, r ≠ systemRoleId .superAdmin := by
      intro r hr
      obtain ⟨role, hrole, hm, -⟩ := hroles r hr
      exact hc.ne_systemRoleId hrole hm.notSuperAdmin
    cases operation with
    | bind =>
      obtain ⟨hl, hlimit⟩ := hw
      have huser : (db.users.get? target).isSome :=
        Option.isSome_iff_exists.mpr ⟨_, (Db.liveUser?_eq_some.mp hlive).1⟩
      have h1 := hc.assign hl huser
        (fun r hr => by
          obtain ⟨role, hrole, -⟩ := hroles r (mem_changedIds hr)
          exact Option.isSome_iff_exists.mpr ⟨role, hrole⟩) hlimit
      have h2 := hs.sole.assign hl (fun hm => hne _ (mem_changedIds hm) rfl)
      refine ⟨⟨h1.updateUsers hu (fun _ => rfl),
        h2.updateUsers hu (fun _ => rfl) (fun _ _ _ ha _ => ha)⟩, ?_⟩
      intro ⟨u, hul⟩
      exact ⟨u, (Links.linked_linkAll? hl _ _).mpr (Or.inl hul)⟩
    | unbind =>
      have hw' := hw
      unfold WroteUserRoles at hw'
      subst hw'
      let q : Uuid × Uuid → Bool := fun a => decide (a.1 = target) &&
        (RoleOperation.unbind.changedIds ids (ids.filter
          (fun r => db.userRoles.Linked target r))).contains a.2
      -- neither the base role nor the super administrator role is among the changed ones
      have hkeep : ∀ (u : Uuid) (k : SystemRoleKey), k ≠ .admin → q (u, systemRoleId k) = false := by
        intro u k hk
        rw [Bool.and_eq_false_imp]
        intro _
        rw [← Bool.not_eq_true, List.contains_iff_mem]
        intro hm
        obtain ⟨role, hrole, hmr, hkey⟩ := hroles _ (mem_changedIds hm)
        cases k with
        | superAdmin => exact hc.ne_systemRoleId hrole hmr.notSuperAdmin rfl
        | admin => exact hk rfl
        | user => exact hc.ne_systemRoleId hrole (hkey rfl) rfl
      have h1 := hc.unassign now q (fun u => hkeep u .user (by decide))
      have h2 := hs.sole.unassign now q
      refine ⟨⟨h1.updateUsers hu (fun _ => rfl),
        h2.updateUsers hu (fun _ => rfl) (fun _ _ _ ha _ => ha)⟩, ?_⟩
      intro ⟨u, hul⟩
      exact ⟨u, (Links.linked_tombstone _ _ _ _ _).mpr ⟨hul, hkeep u .superAdmin (by decide)⟩⟩

/-! ## commands on a role -/

theorem kept_createRole (hs : Standing db) {context : AuthorizationContext} {roleId : Uuid}
    {request : RoleCreateRequest} {outcome : MutationOutcome RoleMutationResponse}
    (h : createRoleBody context roleId request db = .ok (outcome, db')) : Kept db db' := by
  obtain ⟨-, -, -, -, -, t, ht, rfl⟩ := createRoleBody_ok h
  exact ⟨⟨(hs.coherent.insertRole ht rfl rfl).withState, hs.sole.frame rfl rfl⟩, id⟩

theorem SharedRole.custom_ne {context : AuthorizationContext} {roleId : Uuid}
    {locked : LockedSharedRole} {row : User} (hsr : SharedRole db context roleId locked row)
    (hc : Coherent db) (hsys : locked.role.isSystem = false) (k : SystemRoleKey) :
    roleId ≠ systemRoleId k := hc.custom_ne hsr.role hsys k

theorem kept_updateRole (hs : Standing db) {context : AuthorizationContext} {roleId : Uuid}
    {request : RoleUpdateRequest} {expected : Nat} {outcome : MutationOutcome RoleMutationResponse}
    (h : updateRoleBody context roleId request expected db = .ok (outcome, db')) : Kept db db' := by
  obtain ⟨locked, row, hsr, had, rfl | ⟨name, description, t, ht, rfl⟩⟩ := updateRoleBody_ok h
  · exact hs.kept
  · have hne := hsr.custom_ne hs.coherent had.custom
    exact ⟨⟨(hs.coherent.modifyRole ht hne (fun _ => rfl) (Or.inl fun _ => rfl)).withState,
      hs.sole.frame rfl rfl⟩, id⟩

theorem kept_setRoleActive (hs : Standing db) {context : AuthorizationContext} {roleId : Uuid}
    {isActive : Bool} {expected : Nat} {outcome : MutationOutcome RoleMutationResponse}
    (h : setRoleActiveBody context roleId isActive expected db = .ok (outcome, db')) :
    Kept db db' := by
  obtain ⟨locked, row, hsr, had, rfl | ⟨roles, users, hr, hu, rfl⟩⟩ := setRoleActiveBody_ok h
  · exact hs.kept
  · have hne := hsr.custom_ne hs.coherent had.custom
    have h1 := hs.coherent.modifyRole hr hne (fun _ => rfl) (Or.inl fun _ => rfl)
    have h2 : SoleHolder { db with users := users } :=
      hs.sole.updateUsers hu (fun _ => rfl) (fun _ _ _ ha _ => ha)
    exact ⟨⟨h1.updateUsers hu (fun _ => rfl), h2.frame rfl rfl⟩, id⟩

theorem kept_softDeleteRole (hs : Standing db) {context : AuthorizationContext} {roleId : Uuid}
    {expected now : Nat} {outcome : MutationOutcome RoleMutationResponse}
    (h : softDeleteRoleBody context roleId expected now db = .ok (outcome, db')) :
    Kept db db' := by
  obtain ⟨locked, row, hsr, had, roles, users, hr, hu, rfl⟩ := softDeleteRoleBody_ok h
  have hne := hsr.custom_ne hs.coherent had.custom
  have hkeep : ∀ (u : Uuid) (k : SystemRoleKey), decide ((u, systemRoleId k).2 = roleId) = false :=
    fun u k => decide_eq_false (hne k).symm
  have h1 := hs.coherent.unassign now (fun a => a.2 = roleId) (fun u => hkeep u .user)
  have h2 := h1.revoke now (fun _ => true) hne
  have h3 := h2.modifyRole hr hne (fun _ => rfl) (Or.inr ⟨?_, ?_⟩)
  · have h4 := hs.sole.unassign now (fun a => a.2 = roleId)
    have h5 : SoleHolder { db with
        userRoles := db.userRoles.tombstone now (fun a => a.2 = roleId), users := users } :=
      h4.updateUsers hu (fun _ => rfl) (fun _ _ _ ha _ => ha)
    refine ⟨⟨h3.updateUsers hu (fun _ => rfl), h5.frame rfl rfl⟩, ?_⟩
    intro ⟨u, hul⟩
    exact ⟨u, (Links.linked_tombstone _ _ _ _ _).mpr ⟨hul, hkeep u .superAdmin⟩⟩
  · intro u hl
    have hq := ((Links.linked_tombstone _ _ _ _ _).mp hl).2
    simp at hq
  · intro p hl
    have hq := ((Links.linked_tombstone _ _ _ _ _).mp hl).2
    simp at hq

theorem mem_requestedKeys {ids : List Uuid} {p : Uuid} {perm : Permission} (hp : p ∈ ids)
    (h : db.livePermission? p = some perm) : perm.key ∈ requestedKeys db ids := by
  unfold requestedKeys Db.loadPermissionKeys
  rw [List.mem_toFinset, List.mem_map]
  exact ⟨(p, perm.key), List.mem_filterMap.mpr ⟨p, hp, by rw [h]; rfl⟩, rfl⟩

theorem mem_loadPermissionKeys {ids : List Uuid} {p : Uuid} {k : String} :
    (p, k) ∈ db.loadPermissionKeys ids ↔
      p ∈ ids ∧ ∃ perm, db.livePermission? p = some perm ∧ perm.key = k := by
  unfold Db.loadPermissionKeys
  rw [List.mem_filterMap]
  constructor
  · intro ⟨id, hid, h⟩
    obtain ⟨perm, hperm, he⟩ := Option.map_eq_some_iff.mp h
    cases he
    exact ⟨hid, perm, hperm, rfl⟩
  · intro ⟨hp, perm, hperm, hk⟩
    exact ⟨p, hp, by rw [hperm, ← hk]; rfl⟩

theorem kept_changeRolePermissions (hs : Standing db) {context : AuthorizationContext}
    {roleId : Uuid} {ids : List Uuid} {operation : RoleOperation} {expected now : Nat}
    {outcome : MutationOutcome RoleMutationResponse}
    (h : changeRolePermissionsBody context roleId ids operation expected now db =
      .ok (outcome, db')) : Kept db db' := by
  obtain ⟨locked, row, keysAfter, hsr, -, hkeys, hsys, -, -, -, hplane, hreg, -, -,
    rfl | ⟨rolePermissions, roles, users, hw, hr, hu, rfl⟩⟩ := changeRolePermissionsBody_ok h
  · exact hs.kept
  · have hne := hsr.custom_ne hs.coherent hsys
    have h1 : Coherent { db with rolePermissions := rolePermissions } := by
      cases operation with
      | bind =>
        refine hs.coherent.grant hw hne (Option.isSome_iff_exists.mpr ⟨_, hsr.role⟩) ?_
        intro p hp perm hperm
        obtain ⟨⟨q, k⟩, hq, rfl⟩ := List.mem_map.mp hp
        obtain ⟨hq, -⟩ := mem_loadPermissionKeys.mp (List.mem_of_mem_filter hq)
        have hk : perm.key ∈ keysAfter := by
          rw [hkeys]
          exact Finset.mem_union_right _ (mem_requestedKeys hq hperm)
        rw [Finset.mem_erase]
        exact ⟨fun e => hreg (e ▸ hk), hplane hk⟩
      | unbind =>
        have hw' := hw
        unfold WroteRolePermissions at hw'
        subst hw'
        exact hs.coherent.revoke now _ hne
    have h2 := h1.modifyRole hr hne (fun _ => rfl) (Or.inl fun _ => rfl)
    have h3 : SoleHolder { db with users := users } :=
      hs.sole.updateUsers hu (fun _ => rfl) (fun _ _ _ ha _ => ha)
    exact ⟨⟨h2.updateUsers hu (fun _ => rfl), h3.frame rfl rfl⟩, id⟩

/-! ## accounts -/

theorem kept_newAccount (hs : Standing db) {userId : Uuid} {hash name : String} {must : Bool}
    {now : Nat} {role : Role} {users users' : Table User.id User.userName User.checks}
    {userRoles : Links Uuid Uuid}
    (h : NewAccount db userId hash must now name role users users' userRoles db') : Kept db db' := by
  refine ⟨⟨hs.coherent.newAccount h, SoleHolder.newAccount hs.coherent hs.sole h⟩, ?_⟩
  intro ⟨u, hul⟩
  rw [h.result]
  exact ⟨u, (Links.linked_linkAll? h.assigned _ _).mpr (Or.inl hul)⟩

theorem kept_modifyUser (hs : Standing db) {userId : Uuid} {f : UserPatch}
    {users : Table User.id User.userName User.checks} {state : RbacState}
    (ht : db.users.modify? userId f = .ok users) (hdel : ∀ u, (f.apply u).deletedAt = u.deletedAt)
    (hact : ∀ u, (f.apply u).isActive = u.isActive) :
    Kept db { db with users := users, rbacState := state } :=
  ⟨⟨hs.coherent.updateUsers ht hdel,
    hs.sole.updateUsers ht hdel (fun u _ _ ha _ => (hact u).trans ha)⟩, id⟩

/-! ## operator scripts -/

theorem SoleHolder.install {userRoles : Links Uuid Uuid} {h : Uuid} {user : User}
    (hl : ∀ u, userRoles.Linked u (systemRoleId .superAdmin) ↔ u = h)
    (hlive : db.liveUser? h = some user) (hact : user.isActive = true) :
    SoleHolder { db with userRoles := userRoles } where
  atMostOne := by
    have hsub : userRoles.lefts (systemRoleId .superAdmin) ⊆ [h] := by
      intro u hu
      rw [List.mem_singleton]
      exact (hl u).mp (Links.mem_lefts.mp hu)
    exact List.Subperm.length_le ((userRoles.lefts_nodup _).subperm hsub)
  active u hu := by
    rw [(hl u).mp hu]
    exact ⟨user, hlive, hact⟩

theorem kept_bootstrap (hs : Standing db) {candidate : Uuid} {v : Unit} {rows : List AuditRow}
    (h : bootstrapBody candidate db = .ok (v, db', rows)) : Kept db db' ∧ HasHolder db' := by
  obtain ⟨superRole, user, hrole, huser, hact, hdel, ⟨rfl, hone⟩ | ⟨hnone, hlt, userRoles, users, hl,
    hu, rfl⟩⟩ := bootstrapBody_ok h
  · have hid := hs.coherent.findBy? .superAdmin hrole
    refine ⟨hs.kept, candidate, ?_⟩
    rw [← hid, ← Links.mem_lefts, hone]
    exact List.mem_singleton_self _
  · have hid := hs.coherent.findBy? .superAdmin hrole
    rw [hid] at hl hnone
    have hlive : db.liveUser? candidate = some user := Db.liveUser?_eq_some.mpr ⟨huser, hdel⟩
    have hlink : ∀ u, userRoles.Linked u (systemRoleId .superAdmin) ↔ u = candidate := by
      intro u
      rw [Links.linked_linkAll? hl, ← Links.mem_lefts, hnone]
      simp
    obtain ⟨r, hr, -⟩ := hs.coherent.systemRole .superAdmin
    have h1 := hs.coherent.assign hl (Option.isSome_iff_exists.mpr ⟨_, huser⟩)
      (fun x hx => by
        rw [List.mem_singleton.mp hx]
        exact Option.isSome_iff_exists.mpr ⟨r, hr⟩)
      (show _ + 1 ≤ 10 by omega)
    have h2 : SoleHolder { db with userRoles := userRoles } := SoleHolder.install hlink hlive hact
    have hholder : HasHolder { db with userRoles := userRoles, users := users }.bumpEpoch :=
      ⟨candidate, (hlink candidate).mpr rfl⟩
    exact ⟨⟨⟨h1.updateUsers hu (fun _ => rfl),
      h2.updateUsers hu (fun _ => rfl) (fun _ _ _ ha _ => ha)⟩, fun _ => hholder⟩, hholder⟩

theorem kept_handover (hs : Standing db) {oldUser newUser : Uuid} {now : Nat} {v : Unit}
    {rows : List AuditRow} (h : handoverBody oldUser newUser now db = .ok (v, db', rows)) :
    Kept db db' ∧ HasHolder db' := by
  obtain ⟨superRole, oldHolder, newHolder, hne, hrole, -, -, hnew, hact, hdel, hone, hlt, userRoles,
    users, hl, hu, rfl⟩ := handoverBody_ok h
  have hid := hs.coherent.findBy? .superAdmin hrole
  rw [hid] at hl hone
  have hlive : db.liveUser? newUser = some newHolder := Db.liveUser?_eq_some.mpr ⟨hnew, hdel⟩
  have hlink : ∀ u, userRoles.Linked u (systemRoleId .superAdmin) ↔ u = newUser := by
    intro u
    rw [Links.linked_linkAll? hl, Links.linked_tombstone, ← Links.mem_lefts, hone]
    simp
  obtain ⟨r, hr, -⟩ := hs.coherent.systemRole .superAdmin
  have h1 := hs.coherent.unassign now (fun a => a.1 = oldUser && a.2 = systemRoleId .superAdmin)
    (fun u => by
      have hdiff : systemRoleId .user ≠ systemRoleId .superAdmin := by decide
      simp [hdiff])
  have h2 := h1.assign hl (Option.isSome_iff_exists.mpr ⟨_, hnew⟩)
    (fun x hx => by
      rw [List.mem_singleton.mp hx]
      exact Option.isSome_iff_exists.mpr ⟨r, hr⟩)
    (by
      have hfilter : ((db.userRoles.tombstone now
          (fun a => a.1 = oldUser && a.2 = systemRoleId .superAdmin)).rights newUser).length ≤
            (db.userRoles.rights newUser).length := by
        rw [Links.rights_tombstone]
        exact List.length_filter_le _ _
      show _ + 1 ≤ 10
      exact Nat.succ_le_of_lt (lt_of_le_of_lt hfilter hlt))
  have h3 : SoleHolder { db with userRoles := userRoles } := SoleHolder.install hlink hlive hact
  have hholder : HasHolder { db with userRoles := userRoles, users := users }.bumpEpoch :=
    ⟨newUser, (hlink newUser).mpr rfl⟩
  exact ⟨⟨⟨h2.updateUsers hu (fun _ => rfl),
    h3.updateUsers hu (fun _ => rfl) (fun _ _ _ ha _ => ha)⟩, fun _ => hholder⟩, hholder⟩

/-! ## all operations -/

theorem kept_body (hs : Standing db) {now : Nat} {op : Operation}
    (h : op.body lib now db = .ok db') : Kept db db' := by
  cases op with
  | updateUserStatus c t a =>
    obtain ⟨⟨o, _⟩, ho, rfl⟩ := (map_ok _ _ _).mp h
    exact kept_updateUserStatus hs ho
  | revokeUserSessions c t =>
    obtain ⟨⟨o, _⟩, ho, rfl⟩ := (map_ok _ _ _).mp h
    exact kept_revokeUserSessions hs ho
  | changeUserRoles c t ids o =>
    simp only [Operation.body] at h
    split at h
    · cases h
    · obtain ⟨⟨o, _⟩, ho, rfl⟩ := (map_ok _ _ _).mp h
      exact kept_changeUserRoles hs ho
  | createRole c r q =>
    obtain ⟨⟨o, _⟩, ho, rfl⟩ := (map_ok _ _ _).mp h
    exact kept_createRole hs ho
  | updateRole c r q v =>
    obtain ⟨⟨o, _⟩, ho, rfl⟩ := (map_ok _ _ _).mp h
    exact kept_updateRole hs ho
  | setRoleActive c r a v =>
    obtain ⟨⟨o, _⟩, ho, rfl⟩ := (map_ok _ _ _).mp h
    exact kept_setRoleActive hs ho
  | softDeleteRole c r v =>
    obtain ⟨⟨o, _⟩, ho, rfl⟩ := (map_ok _ _ _).mp h
    exact kept_softDeleteRole hs ho
  | changeRolePermissions c r ids o v =>
    simp only [Operation.body] at h
    split at h
    · cases h
    · obtain ⟨⟨o, _⟩, ho, rfl⟩ := (map_ok _ _ _).mp h
      exact kept_changeRolePermissions hs ho
  | setRegistrationEnabled c e =>
    obtain ⟨⟨v, _, rows⟩, ho, rfl⟩ := (map_ok _ _ _).mp h
    obtain ⟨state, -, rfl⟩ := setRegistrationEnabledBody_ok ho
    exact ⟨⟨hs.coherent.withState, hs.sole.frame rfl rfl⟩, id⟩
  | register n hash u q =>
    obtain ⟨⟨v, _, rows⟩, ho, rfl⟩ := (map_ok _ _ _).mp h
    obtain ⟨-, -, name, role, users, users', userRoles, hnew⟩ := registerBody_ok ho
    exact kept_newAccount hs hnew
  | createUserByAdministrator c n hash u =>
    obtain ⟨⟨v, _, rows⟩, ho, rfl⟩ := (map_ok _ _ _).mp h
    obtain ⟨-, -, name, role, users, users', userRoles, hnew⟩ := createUserByAdministratorBody_ok ho
    exact kept_newAccount hs hnew
  | lockedLogin p hash t =>
    obtain ⟨⟨v, _⟩, ho, rfl⟩ := (map_ok _ _ _).mp h
    obtain rfl | ⟨hash', users, ht, rfl⟩ := lockedLoginBody_ok ho
    · exact hs.kept
    · exact kept_modifyUser hs ht (fun _ => rfl) (fun _ => rfl)
  | changePassword c p hash =>
    obtain ⟨⟨v, _, rows⟩, ho, rfl⟩ := (map_ok _ _ _).mp h
    obtain ⟨-, -, users, ht, rfl⟩ := changePasswordBody_ok ho
    exact kept_modifyUser hs ht (fun _ => rfl) (fun _ => rfl)
  | completePasswordReset p hash q =>
    obtain ⟨⟨v, _, rows⟩, ho, rfl⟩ := (map_ok _ _ _).mp h
    obtain ⟨-, -, -, users, ht, rfl⟩ := completePasswordResetBody_ok ho
    exact kept_modifyUser hs ht (fun _ => rfl) (fun _ => rfl)
  | resetUserPassword c t pw hash m =>
    obtain ⟨⟨v, _, rows⟩, ho, rfl⟩ := (map_ok _ _ _).mp h
    obtain ⟨-, -, -, -, -, _, users, ht, rfl⟩ := resetUserPasswordBody_ok ho
    exact kept_modifyUser hs ht (fun _ => rfl) (fun _ => rfl)
  | operatorReset u pw hash q =>
    obtain ⟨⟨v, _, rows⟩, ho, rfl⟩ := (map_ok _ _ _).mp h
    obtain ⟨-, -, -, users, ht, rfl⟩ := operatorResetBody_ok ho
    exact kept_modifyUser hs ht (fun _ => rfl) (fun _ => rfl)
  | bootstrap u =>
    obtain ⟨⟨v, _, rows⟩, ho, rfl⟩ := (map_ok _ _ _).mp h
    exact (kept_bootstrap hs ho).1
  | handover o n =>
    obtain ⟨⟨v, _, rows⟩, ho, rfl⟩ := (map_ok _ _ _).mp h
    exact (kept_handover hs ho).1

theorem kept_step {s s' : Postgres} {c : Call} (hs : Standing s.db)
    (h : (system lib).step s c s') : Kept s.db s'.db := by
  rcases step_db h with he | hb
  · rw [he]
    exact hs.kept
  · exact kept_body hs hb

/-! ## runs -/

theorem migrated_grants (k : SystemRoleKey) :
    migratedDb.rolePermissionKeys (systemRoleId k) = (systemRoleSpecs k).permissions := by
  cases k <;> decide +kernel

theorem migrated_roles {id : Uuid} {role : Role} (h : migratedDb.roles.get? id = some role) :
    ∃ k, id = systemRoleId k ∧ role.isSystem = true ∧ role.deletedAt = none := by
  obtain ⟨hm, rfl⟩ := Table.get?_eq_some.mp h
  rcases List.mem_cons.mp hm with rfl | hm
  · exact ⟨.superAdmin, rfl, rfl, rfl⟩
  · rcases List.mem_cons.mp hm with rfl | hm
    · exact ⟨.admin, rfl, rfl, rfl⟩
    · rw [List.mem_singleton.mp hm]
      exact ⟨.user, rfl, rfl, rfl⟩

theorem migrated_granted (r p : Uuid) (h : migratedDb.rolePermissions.Linked r p) :
    r = systemRoleId .superAdmin ∨ r = systemRoleId .admin := by
  obtain ⟨l, hl, he⟩ := List.mem_map.mp h
  have hr : l.left = r := congrArg Prod.fst he
  rcases List.mem_append.mp (List.mem_of_mem_filter hl) with hl | hl
  · obtain ⟨k, -, rfl⟩ := List.mem_map.mp hl
    exact Or.inl hr.symm
  · obtain ⟨k, -, rfl⟩ := List.mem_map.mp hl
    exact Or.inr hr.symm

theorem migrated_standing : Standing migratedDb := by
  have hsys : ∀ k, ∃ role, migratedDb.roles.get? (systemRoleId k) = some role ∧
      { role with version := 0 } = seededRole k 0 := by
    intro k
    cases k with
    | superAdmin => exact ⟨seededRole .superAdmin 1, by decide, rfl⟩
    | admin => exact ⟨seededRole .admin 1, by decide, rfl⟩
    | user => exact ⟨seededRole .user 0, by decide, rfl⟩
  refine ⟨⟨?_, ?_, ?_, ?_, ?_, ?_, ?_⟩, ⟨Nat.zero_le _, ?_⟩⟩
  · intro k
    obtain ⟨role, hr, he⟩ := hsys k
    exact ⟨role, hr, he, migrated_grants k⟩
  · intro id role h _
    obtain ⟨k, hk, -⟩ := migrated_roles h
    exact ⟨k, hk⟩
  · intro id role h hn
    obtain ⟨k, -, hs, -⟩ := migrated_roles h
    rw [hs] at hn
    cases hn
  · intro u r h
    cases h
  · intro r p h
    have hlive : ∀ k, (migratedDb.liveRole? (systemRoleId k)).isSome := by
      intro k
      cases k <;> decide
    rcases migrated_granted r p h with rfl | rfl
    · exact hlive .superAdmin
    · exact hlive .admin
  · intro u h
    cases h
  · intro u
    exact Nat.zero_le _
  · intro u h
    cases h

/-- **the standing invariant holds in every reachable state** -/
theorem reachable_standing {s : Postgres} (h : Reachable (system lib) s) : Standing s.db := by
  refine h.invariant (P := fun s => Standing s.db) ?_ ?_
  · intro s hs
    rw [show s = migrated from hs]
    exact migrated_standing
  · intro s c s' hs hst
    exact (kept_step hs hst).standing

section
variable {st : Nat → Postgres} {lab : Nat → Call} {n : Nat}

theorem run_keeps_holder (h : IsRun (system lib) st lab n) {i j : Nat} (hij : i ≤ j) (hj : j ≤ n)
    (hi : HasHolder (st i).db) : HasHolder (st j).db := by
  induction j with
  | zero =>
    have e : i = 0 := by omega
    exact e ▸ hi
  | succ j ih =>
    rcases Nat.eq_or_lt_of_le hij with e | hlt
    · exact e ▸ hi
    · have hprev := ih (by omega) (by omega)
      have hs : Standing (st j).db := reachable_standing (h.reachable (by omega))
      exact (kept_step hs (h.next j (by omega))).holder hprev

/-- a committed bootstrap leaves a super administrator -/
theorem bootstrap_installs {s s' : Postgres} {c : Call} {candidate : Uuid} (hs : Standing s.db)
    (hop : c.operation = .bootstrap candidate) (h : Committed lib s c s') : HasHolder s'.db := by
  have hb := h.body
  rw [hop] at hb
  obtain ⟨⟨v, _, rows⟩, ho, he⟩ := (map_ok _ _ _).mp hb
  have hk := (kept_bootstrap hs ho).2
  rw [show s'.db = _ from he.symm]
  exact hk

/-- what a reader expects of the store in any one state -/
structure StoreInvariant (db : Db) : Prop where
  baseRole : ∀ u user, db.liveUser? u = some user → ∃ role, db.userRoles.Linked u role.id ∧
    db.liveRole? role.id = some role ∧ role.isSystem = true ∧ role.key = "user"
  roleLimit : ∀ u, (db.userRoles.rights u).length ≤ 10
  liveAssignments : ∀ u r, db.userRoles.Linked u r → ∃ role, db.liveRole? r = some role
  liveGrants : ∀ r p, db.rolePermissions.Linked r p → ∃ role, db.liveRole? r = some role
  customTier : ∀ r role, db.roles.get? r = some role → role.isSystem = false →
    1 ≤ role.managementTier ∧ role.managementTier ≤ 999
  customPermissions : ∀ r role, db.roles.get? r = some role → role.isSystem = false →
    db.rolePermissionKeys r ⊆ superAdminPermissionKeys.erase "registration:configure"
  systemRoles : ∀ k, ∃ role, db.roles.findBy? k.value = some role ∧
    { role with version := 0 } = seededRole k 0 ∧
    db.rolePermissionKeys role.id = (systemRoleSpecs k).permissions
  onlySystemRoles : ∀ r role, db.roles.get? r = some role → role.isSystem = true →
    ∃ k : SystemRoleKey, role.key = k.value
  oneSuperAdmin : ∀ u v, db.userRoles.Linked u (systemRoleId .superAdmin) →
    db.userRoles.Linked v (systemRoleId .superAdmin) → u = v
  activeHolder : ∀ u, db.userRoles.Linked u (systemRoleId .superAdmin) →
    ∃ user, db.liveUser? u = some user ∧ user.isActive = true

theorem SoleHolder.unique (hs : SoleHolder db) {u v : Uuid}
    (hu : db.userRoles.Linked u (systemRoleId .superAdmin))
    (hv : db.userRoles.Linked v (systemRoleId .superAdmin)) : u = v := by
  have hlen := hs.atMostOne
  have hmu := Links.mem_lefts.mpr hu
  have hmv := Links.mem_lefts.mpr hv
  cases hl : db.userRoles.lefts (systemRoleId .superAdmin) with
  | nil =>
    rw [hl] at hmu
    cases hmu
  | cons x xs =>
    rw [hl, List.length_cons] at hlen
    have hnil : xs = [] := List.eq_nil_of_length_eq_zero (by omega)
    rw [hl, hnil, List.mem_singleton] at hmu hmv
    rw [hmu, hmv]

theorem Role.custom_tier {role : Role} (hc : role.checks = true) (hs : role.isSystem = false) :
    1 ≤ role.managementTier ∧ role.managementTier ≤ 999 := by
  unfold Role.checks at hc
  simp only [Bool.and_eq_true, Bool.or_eq_true, decide_eq_true_eq, hs, Bool.false_eq_true,
    false_or] at hc
  exact hc.1.1.1.1.1.1.1.1.2

theorem Standing.storeInvariant (hs : Standing db) : StoreInvariant db where
  baseRole u user hu := by
    obtain ⟨role, hr, hid, hk, hsys, -⟩ := hs.coherent.systemRole .user
    have hl := hs.coherent.baseRole u (Option.isSome_iff_exists.mpr ⟨user, hu⟩)
    exact ⟨role, hid ▸ hl, hid ▸ hr, hsys, hk⟩
  roleLimit := hs.coherent.limit
  liveAssignments u r hl := Option.isSome_iff_exists.mp (hs.coherent.assigned u r hl).2
  liveGrants r p hl := Option.isSome_iff_exists.mp (hs.coherent.granted r p hl)
  customTier r role hr hsys := Role.custom_tier (Table.check_of_get? hr) hsys
  customPermissions r role hr hsys := hs.coherent.customKeys r role hr hsys
  systemRoles k := by
    obtain ⟨role, hr, he, hk⟩ := hs.coherent.system k
    have hid : role.id = systemRoleId k := Table.key_of_get? hr
    have hkey : role.key = k.value := congrArg Role.key he
    exact ⟨role, Table.findBy?_iff_get?.mpr ⟨hid ▸ hr, hkey⟩, he, hid ▸ hk⟩
  onlySystemRoles r role hr hsys := by
    obtain ⟨k, rfl⟩ := hs.coherent.systemIds r role hr hsys
    obtain ⟨role', hr', he, -⟩ := hs.coherent.system k
    rw [hr'] at hr
    cases hr
    exact ⟨k, congrArg Role.key he⟩
  oneSuperAdmin u v hu hv := hs.sole.unique hu hv
  activeHolder := hs.sole.active

/-- **along every run the store keeps its invariants, and from the first committed bootstrap on
there is exactly one super administrator, live and active** -/
theorem run_storeInvariant (h : IsRun (system lib) st lab n) {i : Nat} (hi : i ≤ n) :
    StoreInvariant (st i).db ∧
      ((∃ j < i, ∃ candidate, (lab j).operation = .bootstrap candidate ∧
          Committed lib (st j) (lab j) (st (j + 1))) →
        ∃ u, (st i).db.userRoles.Linked u (systemRoleId .superAdmin) ∧
          (∀ v, (st i).db.userRoles.Linked v (systemRoleId .superAdmin) → v = u) ∧
          ∃ user, (st i).db.liveUser? u = some user ∧ user.isActive = true) := by
  have hs : Standing (st i).db := reachable_standing (h.reachable hi)
  refine ⟨hs.storeInvariant, ?_⟩
  intro ⟨j, hj, candidate, hop, hcom⟩
  have hsj : Standing (st j).db := reachable_standing (h.reachable (by omega))
  have hholder : HasHolder (st (j + 1)).db := bootstrap_installs hsj hop hcom
  obtain ⟨u, hu⟩ := run_keeps_holder h (show j + 1 ≤ i from hj) hi hholder
  exact ⟨u, hu, fun v hv => hs.sole.unique hv hu, hs.sole.active u hu⟩

/-- an account registers and is made the super administrator -/
def installed : Nat → Call := script [signUp "alice" alice, .bootstrap alice]

theorem run_storeInvariant_first :
    StoreInvariant (states sampleLibrary installed 2).db ∧
      ∃ u, (states sampleLibrary installed 2).db.userRoles.Linked u (systemRoleId .superAdmin) := by
  have h := run_storeInvariant (isRun_states sampleLibrary installed 2) (Nat.le_refl 2)
  have hcom : ((installed 1).operation.run sampleLibrary 1
      (states sampleLibrary installed 1)).1 = .ok () := by decide +kernel
  obtain ⟨u, hu, -⟩ := h.2 ⟨1, by decide, _, rfl, Prod.ext hcom rfl⟩
  exact ⟨h.1, u, hu⟩

end

end PgRbac
