import PgRbac.Dominance

/-!
# Versions and the epoch

Rows are never removed and their counters only grow; a state that still shows a counter still shows
what it counts.

* `UserGrows`, `RoleGrows`, `Grows`   how one transaction moves the rows and the epoch;
* `grows_body`, `run_grows`           every operation, and every run;
* `Accounted`                         whose authority changed has a new version, and there is a new
                                      epoch;
* `accounted_body`                    every operation;
* `versions_coherent`                 both, and that an unchanged command leaves the tables alone.
-/

set_option linter.unusedVariables false

namespace PgRbac

open Fallible Store Trace

variable {db db' db'' : Db} {lib : PasswordLibrary}

/-! ## rows that only grow -/

structure UserGrows (u u' : User) : Prop where
  token : u.tokenVersion ≤ u'.tokenVersion
  authz : u.authzVersion ≤ u'.authzVersion
  identity : u'.id = u.id ∧ u'.userName = u.userName ∧ u'.deletedAt = u.deletedAt
  same : u'.tokenVersion = u.tokenVersion → u'.isActive = u.isActive ∧
    u'.mustChangePassword = u.mustChangePassword ∧ u'.passwordChangedAt = u.passwordChangedAt

theorem UserGrows.refl (u : User) : UserGrows u u :=
  ⟨Nat.le_refl _, Nat.le_refl _, ⟨rfl, rfl, rfl⟩, fun _ => ⟨rfl, rfl, rfl⟩⟩

theorem UserGrows.trans {u u' u'' : User} (h : UserGrows u u') (h' : UserGrows u' u'') :
    UserGrows u u'' := by
  obtain ⟨h1, h2, ⟨h3, h4, h5⟩, hs⟩ := h
  obtain ⟨h1', h2', ⟨h3', h4', h5'⟩, hs'⟩ := h'
  refine ⟨Nat.le_trans h1 h1', Nat.le_trans h2 h2', ⟨h3'.trans h3, h4'.trans h4, h5'.trans h5⟩, ?_⟩
  intro e
  -- the version between the two is squeezed
  obtain ⟨a, b, c⟩ := hs (by omega)
  obtain ⟨a', b', c'⟩ := hs' (by omega)
  exact ⟨a'.trans a, b'.trans b, c'.trans c⟩

/-- a role row and its permissions, as a version shows them -/
structure RoleGrows (db db' : Db) (id : Uuid) (r r' : Role) : Prop where
  version : r.version ≤ r'.version
  same : r'.version = r.version → r' = r ∧ db'.rolePermissionKeys id = db.rolePermissionKeys id

structure Grows (db db' : Db) : Prop where
  users : ∀ id u, db.users.get? id = some u → ∃ u', db'.users.get? id = some u' ∧ UserGrows u u'
  roles : ∀ id r, db.roles.get? id = some r → ∃ r', db'.roles.get? id = some r' ∧
    RoleGrows db db' id r r'
  epoch : db.rbacState.epoch ≤ db'.rbacState.epoch

theorem Grows.refl (db : Db) : Grows db db :=
  ⟨fun _ u h => ⟨u, h, .refl u⟩, fun _ r h => ⟨r, h, Nat.le_refl _, fun _ => ⟨rfl, rfl⟩⟩,
    Nat.le_refl _⟩

theorem Grows.trans (h : Grows db db') (h' : Grows db' db'') : Grows db db'' where
  users id u hu := by
    obtain ⟨u', hu', hg⟩ := h.users id u hu
    obtain ⟨u'', hu'', hg'⟩ := h'.users id u' hu'
    exact ⟨u'', hu'', hg.trans hg'⟩
  roles id r hr := by
    obtain ⟨r', hr', hv, hs⟩ := h.roles id r hr
    obtain ⟨r'', hr'', hv', hs'⟩ := h'.roles id r' hr'
    refine ⟨r'', hr'', Nat.le_trans hv hv', ?_⟩
    intro e
    obtain ⟨a, b⟩ := hs (by omega)
    obtain ⟨a', b'⟩ := hs' (by omega)
    exact ⟨a'.trans a, b'.trans b⟩
  epoch := Nat.le_trans h.epoch h'.epoch

theorem Grows.liveUser? (h : Grows db db') {id : Uuid} {u : User} (hu : db.liveUser? id = some u) :
    ∃ u', db'.liveUser? id = some u' ∧ UserGrows u u' := by
  obtain ⟨hget, hd⟩ := Db.liveUser?_eq_some.mp hu
  obtain ⟨u', hu', hg⟩ := h.users id u hget
  exact ⟨u', Db.liveUser?_eq_some.mpr ⟨hu', hg.identity.2.2.trans hd⟩, hg⟩

/-! ## writes -/

section
variable {users users' : Table User.id User.userName User.checks}
  {roles : Table Role.id Role.key Role.checks} {userRoles rolePermissions : Links Uuid Uuid}
  {state : RbacState}

theorem growUsers {p : User → Bool} {f : UserPatch} (ht : db.users.update? p f = .ok users)
    (hf : ∀ u, UserGrows u (f.apply u)) {id : Uuid} {u : User} (hu : db.users.get? id = some u) :
    ∃ u', users.get? id = some u' ∧ UserGrows u u' := by
  rw [Table.get?_update? ht, hu]
  refine ⟨_, rfl, ?_⟩
  unfold Patch.on
  by_cases hp : p u
  · simpa [hp] using hf u
  · simpa [hp] using UserGrows.refl u

theorem keepRoles {id : Uuid} {r : Role} (hr : db.roles.get? id = some r)
    (hk : db'.rolePermissionKeys id = db.rolePermissionKeys id)
    (hr' : db'.roles.get? id = some r) :
    ∃ r', db'.roles.get? id = some r' ∧ RoleGrows db db' id r r' :=
  ⟨r, hr', Nat.le_refl _, fun _ => ⟨rfl, hk⟩⟩

theorem grows_users {p : User → Bool} {f : UserPatch} (ht : db.users.update? p f = .ok users)
    (hf : ∀ u, UserGrows u (f.apply u)) (he : db.rbacState.epoch ≤ state.epoch) :
    Grows db { db with users := users, userRoles := userRoles, rbacState := state } where
  users _ _ hu := growUsers ht hf hu
  roles _ _ hr := keepRoles hr rfl hr
  epoch := he

theorem grows_role {roleId : Uuid} {g : RolePatch}
    (hr : db.roles.modify? roleId g = .ok roles)
    (hg : ∀ r, (g.apply r).version = r.version + 1)
    (hk : ∀ r, r ≠ roleId → { db with rolePermissions := rolePermissions }.rolePermissionKeys r =
      db.rolePermissionKeys r)
    (hu : ∀ id u, db.users.get? id = some u → ∃ u', users.get? id = some u' ∧ UserGrows u u')
    (he : db.rbacState.epoch ≤ state.epoch) :
    Grows db { db with
      users := users, roles := roles, rolePermissions := rolePermissions, userRoles := userRoles,
      rbacState := state } where
  users := hu
  roles id r h := by
    have hget : roles.get? id = if id = roleId then (db.roles.get? id).map g.apply
        else db.roles.get? id := Table.get?_modify? hr id
    by_cases e : id = roleId
    · rw [if_pos e, h] at hget
      refine ⟨g.apply r, hget, ?_, ?_⟩
      · rw [hg]
        omega
      · intro hv
        rw [hg] at hv
        omega
    · rw [if_neg e, h] at hget
      exact keepRoles h (hk id e) hget
  epoch := he

theorem UserGrows.bumpAuthz (u : User) : UserGrows u (User.bumpAuthz.apply u) :=
  ⟨Nat.le_refl _, Nat.le_succ _, ⟨rfl, rfl, rfl⟩, fun _ => ⟨rfl, rfl, rfl⟩⟩

theorem UserGrows.upgradeHash (hash : String) (u : User) :
    UserGrows u ((User.upgradeHash hash).apply u) :=
  ⟨Nat.le_refl _, Nat.le_refl _, ⟨rfl, rfl, rfl⟩, fun _ => ⟨rfl, rfl, rfl⟩⟩

theorem UserGrows.ends {f : UserPatch} {u : User} (hid : (f.apply u).id = u.id)
    (hname : (f.apply u).userName = u.userName) (hdel : (f.apply u).deletedAt = u.deletedAt)
    (ht : (f.apply u).tokenVersion = u.tokenVersion + 1)
    (ha : u.authzVersion ≤ (f.apply u).authzVersion) : UserGrows u (f.apply u) := by
  refine ⟨by omega, ha, ⟨hid, hname, hdel⟩, ?_⟩
  intro e
  omega

theorem UserGrows.replacePassword (hash : String) (must : Bool) (now : Nat) (u : User) :
    UserGrows u ((User.replacePassword hash must now).apply u) :=
  .ends rfl rfl rfl rfl (Nat.le_refl _)

theorem BumpedHolders.grow {roleId : Uuid} (h : BumpedHolders db roleId users) (id : Uuid) (u : User)
    (hu : db.users.get? id = some u) : ∃ u', users.get? id = some u' ∧ UserGrows u u' :=
  growUsers h UserGrows.bumpAuthz hu

theorem NewAccount.grows {userId : Uuid} {hash name : String} {must : Bool} {now : Nat}
    {role : Role} (h : NewAccount db userId hash must now name role users users' userRoles db') :
    Grows db db' := by
  rw [h.result]
  refine ⟨?_, fun _ _ hr => keepRoles hr rfl hr, Nat.le_succ _⟩
  intro id u hu
  have hne : id ≠ userId := by
    intro e
    rw [e, show db.users.get? userId = none from (Table.rows_insert? h.inserted).2.1] at hu
    cases hu
  have hnew : id ≠ (newUser userId name).id := hne
  have hget : users'.get? id = some u := by
    rw [Table.get?_modify? h.rotated, if_neg hne, Table.get?_insert? h.inserted, if_neg hnew, hu]
  exact ⟨u, hget, .refl u⟩

end

/-- **every operation lets rows and counters grow** -/
theorem grows_body (hc : Coherent db) {now : Nat} {op : Operation}
    (h : op.body lib now db = .ok db') : Grows db db' := by
  cases op with
  | updateUserStatus c t a =>
    obtain ⟨⟨o, _⟩, ho, rfl⟩ := (map_ok _ _ _).mp h
    obtain ⟨-, -, -, ⟨-, rfl⟩ | ⟨-, t, ht, rfl⟩⟩ := updateUserStatusBody_ok ho
    · exact .refl _
    · exact grows_users ht (fun u => .ends rfl rfl rfl rfl (Nat.le_succ _)) (Nat.le_succ _)
  | revokeUserSessions c t =>
    obtain ⟨⟨o, _⟩, ho, rfl⟩ := (map_ok _ _ _).mp h
    obtain ⟨-, -, -, t, ht, rfl⟩ := revokeUserSessionsBody_ok ho
    exact grows_users ht (fun u => .ends rfl rfl rfl rfl (Nat.le_refl _)) (Nat.le_refl _)
  | changeUserRoles c t ids o =>
    simp only [Operation.body] at h
    split at h
    · cases h
    · obtain ⟨⟨o, _⟩, ho, rfl⟩ := (map_ok _ _ _).mp h
      obtain ⟨-, -, -, -, rfl | ⟨userRoles, users, -, hu, rfl⟩⟩ := changeUserRolesBody_ok ho
      · exact .refl _
      · exact grows_users hu UserGrows.bumpAuthz (Nat.le_succ _)
  | createRole c r q =>
    obtain ⟨⟨o, _⟩, ho, rfl⟩ := (map_ok _ _ _).mp h
    obtain ⟨-, -, -, -, -, t, ht, rfl⟩ := createRoleBody_ok ho
    refine ⟨fun _ u hu => ⟨u, hu, .refl u⟩, ?_, Nat.le_succ _⟩
    intro id r hr
    refine keepRoles hr rfl ?_
    have hget := Table.get?_insert? ht id
    rw [if_neg, hr] at hget
    · exact hget
    · intro e
      rw [e, (Table.rows_insert? ht).2.1] at hr
      cases hr
  | updateRole c r q v =>
    obtain ⟨⟨o, _⟩, ho, rfl⟩ := (map_ok _ _ _).mp h
    obtain ⟨-, -, -, -, rfl | ⟨name, description, t, ht, rfl⟩⟩ := updateRoleBody_ok ho
    · exact .refl _
    · exact grows_role ht (fun _ => rfl) (fun _ _ => rfl)
        (fun _ u hu => ⟨u, hu, .refl u⟩) (Nat.le_succ _)
  | setRoleActive c r a v =>
    obtain ⟨⟨o, _⟩, ho, rfl⟩ := (map_ok _ _ _).mp h
    obtain ⟨-, -, -, -, rfl | ⟨roles, users, hr, hu, rfl⟩⟩ := setRoleActiveBody_ok ho
    · exact .refl _
    · exact grows_role hr (fun _ => rfl) (fun _ _ => rfl)
        hu.grow (Nat.le_succ _)
  | softDeleteRole c r v =>
    obtain ⟨⟨o, _⟩, ho, rfl⟩ := (map_ok _ _ _).mp h
    obtain ⟨locked, -, -, -, roles, users, hr, hu, rfl⟩ := softDeleteRoleBody_ok ho
    exact grows_role hr (fun _ => rfl) (roleChange_softDeleteRole hr hu).keys hu.grow
      (Nat.le_succ _)
  | changeRolePermissions c r ids o v =>
    simp only [Operation.body] at h
    split at h
    · cases h
    · obtain ⟨⟨o, _⟩, ho, rfl⟩ := (map_ok _ _ _).mp h
      obtain ⟨-, -, -, -, -, -, -, -, -, -, -, -, -, -,
        rfl | ⟨rolePermissions, roles, users, hw, hr, hu, rfl⟩⟩ := changeRolePermissionsBody_ok ho
      · exact .refl _
      · exact grows_role hr (fun _ => rfl) (roleChange_rolePermissions hw hr hu).keys hu.grow
          (Nat.le_succ _)
  | setRegistrationEnabled c e =>
    obtain ⟨⟨v, _, rows⟩, ho, rfl⟩ := (map_ok _ _ _).mp h
    obtain ⟨state, he, rfl⟩ := setRegistrationEnabledBody_ok ho
    exact ⟨fun _ u hu => ⟨u, hu, .refl u⟩, fun _ _ hr => keepRoles hr rfl hr, le_of_eq he.symm⟩
  | register n hash u q =>
    obtain ⟨⟨v, _, rows⟩, ho, rfl⟩ := (map_ok _ _ _).mp h
    obtain ⟨-, -, name, role, users, users', userRoles, hnew⟩ := registerBody_ok ho
    exact hnew.grows
  | createUserByAdministrator c n hash u =>
    obtain ⟨⟨v, _, rows⟩, ho, rfl⟩ := (map_ok _ _ _).mp h
    obtain ⟨-, -, name, role, users, users', userRoles, hnew⟩ := createUserByAdministratorBody_ok ho
    exact hnew.grows
  | lockedLogin p hash t =>
    obtain ⟨⟨v, _⟩, ho, rfl⟩ := (map_ok _ _ _).mp h
    obtain rfl | ⟨hash', users, ht, rfl⟩ := lockedLoginBody_ok ho
    · exact .refl _
    · exact grows_users ht (UserGrows.upgradeHash hash') (Nat.le_refl _)
  | changePassword c p hash =>
    obtain ⟨⟨v, _, rows⟩, ho, rfl⟩ := (map_ok _ _ _).mp h
    obtain ⟨-, -, users, ht, rfl⟩ := changePasswordBody_ok ho
    exact grows_users ht (UserGrows.replacePassword _ _ _) (Nat.le_refl _)
  | completePasswordReset p hash q =>
    obtain ⟨⟨v, _, rows⟩, ho, rfl⟩ := (map_ok _ _ _).mp h
    obtain ⟨-, -, -, users, ht, rfl⟩ := completePasswordResetBody_ok ho
    exact grows_users ht (UserGrows.replacePassword _ _ _) (Nat.le_refl _)
  | resetUserPassword c t pw hash m =>
    obtain ⟨⟨v, _, rows⟩, ho, rfl⟩ := (map_ok _ _ _).mp h
    obtain ⟨-, -, -, -, -, _, users, ht, rfl⟩ := resetUserPasswordBody_ok ho
    exact grows_users ht (UserGrows.replacePassword _ _ _) (Nat.le_refl _)
  | operatorReset u pw hash q =>
    obtain ⟨⟨v, _, rows⟩, ho, rfl⟩ := (map_ok _ _ _).mp h
    obtain ⟨-, -, -, users, ht, rfl⟩ := operatorResetBody_ok ho
    exact grows_users ht (UserGrows.replacePassword _ _ _) (Nat.le_refl _)
  | bootstrap u =>
    obtain ⟨⟨v, _, rows⟩, ho, rfl⟩ := (map_ok _ _ _).mp h
    obtain ⟨-, -, -, -, -, -, ⟨rfl, -⟩ | ⟨-, -, userRoles, users, -, hu, rfl⟩⟩ := bootstrapBody_ok ho
    · exact .refl _
    · exact grows_users hu UserGrows.bumpAuthz (Nat.le_succ _)
  | handover o n =>
    obtain ⟨⟨v, _, rows⟩, ho, rfl⟩ := (map_ok _ _ _).mp h
    obtain ⟨-, -, -, -, -, -, -, -, -, -, -, -, userRoles, users, -, hu, rfl⟩ := handoverBody_ok ho
    exact grows_users hu (fun u => .ends rfl rfl rfl rfl (Nat.le_succ _)) (Nat.le_succ _)

theorem grows_step (hs : Standing db) {s s' : Postgres} {c : Call} (e : s.db = db)
    (h : (system lib).step s c s') : Grows s.db s'.db := by
  subst e
  rcases step_db h with he | hb
  · rw [he]
    exact .refl _
  · exact grows_body hs.coherent hb

/-- **along a run everything only grows** -/
theorem run_grows {st : Nat → Postgres} {lab : Nat → Call} {n : Nat}
    (h : IsRun (system lib) st lab n) {i j : Nat} (hij : i ≤ j) (hj : j ≤ n) :
    Grows (st i).db (st j).db := by
  induction j with
  | zero =>
    have e : i = 0 := by omega
    rw [e]
    exact .refl _
  | succ j ih =>
    rcases Nat.eq_or_lt_of_le hij with e | hlt
    · rw [e]
      exact .refl _
    · have hprev := ih (by omega) (by omega)
      exact hprev.trans (grows_step (reachable_standing (h.reachable (by omega))) rfl
        (h.next j (by omega)))

/-! ## whose authority changed -/

/-- a snapshot without its counters -/
def AuthoritySnapshot.uncounted (s : AuthoritySnapshot) : AuthoritySnapshot :=
  { s with tokenVersion := 0, authzVersion := 0 }

/-- a live user whose effective authority a change keeps, up to its counters -/
structure SameAuthority (db db' : Db) (before after : User) : Prop where
  flags : after.isActive = before.isActive ∧ after.isProtected = before.isProtected
  grants : db'.roleGrantsForUser before.id false = db.roleGrantsForUser before.id false

theorem SameAuthority.uncounted {before after : User} (h : SameAuthority db db' before after)
    (hid : after.id = before.id) :
    (db'.authority false after).uncounted = (db.authority false before).uncounted := by
  unfold Db.authority AuthoritySnapshot.uncounted AuthoritySnapshot.build
  rw [hid, h.flags.1, h.flags.2, h.grants]

/-- every live user has a new version with a new epoch, or its authority as it was -/
def Accounted (db db' : Db) : Prop :=
  ∀ u before after, db.liveUser? u = some before → db'.liveUser? u = some after →
    (before.authzVersion < after.authzVersion ∧ db.rbacState.epoch < db'.rbacState.epoch) ∨
      SameAuthority db db' before after

theorem Accounted.refl (db : Db) : Accounted db db := by
  intro u before after hb ha
  rw [hb] at ha
  cases ha
  exact Or.inr ⟨⟨rfl, rfl⟩, rfl⟩

theorem roleGrantsForUser_shown {u : Uuid} (incl : Bool)
    (hr : db'.userRoles.rights u = db.userRoles.rights u)
    (hg : ∀ r, db.userRoles.Linked u r →
      (db'.liveRole? r).map (fun x => (db'.roleGrant x, x.isActive)) =
        (db.liveRole? r).map (fun x => (db.roleGrant x, x.isActive))) :
    db'.roleGrantsForUser u incl = db.roleGrantsForUser u incl := by
  have hall : ∀ d : Db, d.roleGrantsForUser u incl =
      (((d.userRoles.rights u).filterMap (fun r =>
        (d.liveRole? r).map (fun x => (d.roleGrant x, x.isActive)))).filter
          (fun y => incl || y.2)).map Prod.fst := by
    intro d
    unfold Db.roleGrantsForUser Db.assignedRoles
    rw [← List.map_filterMap, List.filter_map, List.map_map]
    rfl
  rw [hall, hall, hr]
  congr 2
  exact List.filterMap_congr (fun r hm => hg r (Links.mem_rights.mp hm))

section
variable {users : Table User.id User.userName User.checks}
  {roles : Table Role.id Role.key Role.checks} {userRoles : Links Uuid Uuid} {state : RbacState}

theorem accounted_users {p : User → Bool} {f : UserPatch}
    (ht : db.users.update? p f = .ok users) (hdel : ∀ u, (f.apply u).deletedAt = u.deletedAt)
    (hp : ∀ u, p u = true → (u.authzVersion < (f.apply u).authzVersion ∧
        db.rbacState.epoch < state.epoch) ∨
      ((f.apply u).isActive = u.isActive ∧ (f.apply u).isProtected = u.isProtected ∧
        userRoles.rights u.id = db.userRoles.rights u.id))
    (hother : ∀ u, p u = false → userRoles.rights u.id = db.userRoles.rights u.id) :
    Accounted db { db with users := users, userRoles := userRoles, rbacState := state } := by
  intro u before after hb ha
  have hrow : { db with users := users, rbacState := state }.liveUser? u =
      (db.liveUser? u).map (f.on p).apply := liveUser?_update? ht hdel u
  have hafter : (db.liveUser? u).map (f.on p).apply = some after := hrow.symm.trans ha
  rw [hb, Option.map_some, Option.some.injEq] at hafter
  have hshown : userRoles.rights before.id = db.userRoles.rights before.id →
      { db with users := users, userRoles := userRoles, rbacState := state }.roleGrantsForUser
        before.id false = db.roleGrantsForUser before.id false :=
    fun hr => roleGrantsForUser_shown false hr (fun _ _ => rfl)
  subst hafter
  unfold Patch.on
  cases hpu : p before with
  | true =>
    simp only [hpu, if_true]
    rcases hp before hpu with hv | ⟨h1, h2, h3⟩
    · exact Or.inl hv
    · exact Or.inr ⟨⟨h1, h2⟩, hshown h3⟩
  | false =>
    simp only [hpu, Bool.false_eq_true, if_false]
    exact Or.inr ⟨⟨rfl, rfl⟩, hshown (hother before hpu)⟩

theorem accounted_modifyUser {target : Uuid} {f : UserPatch}
    (ht : db.users.modify? target f = .ok users)
    (hdel : ∀ u, (f.apply u).deletedAt = u.deletedAt)
    (hact : ∀ u, (f.apply u).isActive = u.isActive ∧ (f.apply u).isProtected = u.isProtected) :
    Accounted db { db with users := users, rbacState := state } :=
  accounted_users ht hdel (fun u _ => Or.inr ⟨(hact u).1, (hact u).2, rfl⟩) (fun _ _ => rfl)

theorem RoleChange.accounted {roleId : Uuid} (h : RoleChange db db' roleId)
    (he : db.rbacState.epoch < db'.rbacState.epoch) : Accounted db db' := by
  intro u before after hb ha
  have hid := Db.id_of_liveUser? hb
  subst hid
  have hget := h.liveUser? hb
  have hafter : db'.users.get? before.id = some after := (Db.liveUser?_eq_some.mp ha).1
  rw [hget, Option.some.injEq] at hafter
  by_cases hl : db.userRoles.Linked before.id roleId
  · rw [if_pos hl] at hafter
    subst hafter
    exact Or.inl ⟨Nat.lt_succ_self _, he⟩
  · rw [if_neg hl] at hafter
    subst hafter
    refine Or.inr ⟨⟨rfl, rfl⟩, roleGrantsForUser_shown false (h.rights before.id hl) ?_⟩
    intro r hr
    have hne : r ≠ roleId := fun e => hl (e ▸ hr)
    rw [h.roles r hne]
    cases hx : db.liveRole? r with
    | none => rfl
    | some y =>
      have hy := Db.id_of_liveRole? hx
      rw [Option.map_some, Option.map_some, h.roleGrant (hy ▸ hne)]

theorem accounted_grantless
    (h : ∀ u r, db.userRoles.Linked u r →
      ({ db with roles := roles }.liveRole? r).map (fun x => (db.roleGrant x, x.isActive)) =
        (db.liveRole? r).map (fun x => (db.roleGrant x, x.isActive))) :
    Accounted db { db with roles := roles, rbacState := state } := by
  intro u before after hb ha
  have ha' : db.liveUser? u = some after := ha
  rw [hb] at ha'
  cases ha'
  exact Or.inr ⟨⟨rfl, rfl⟩, roleGrantsForUser_shown false rfl (h before.id)⟩

end

theorem NewAccount.accounted {userId : Uuid} {hash name : String} {must : Bool} {now : Nat}
    {role : Role} {users users' : Table User.id User.userName User.checks}
    {userRoles : Links Uuid Uuid}
    (h : NewAccount db userId hash must now name role users users' userRoles db') :
    Accounted db db' := by
  intro u before after hb ha
  obtain ⟨hget, hd⟩ := Db.liveUser?_eq_some.mp hb
  have hid := Db.id_of_liveUser? hb
  have hfresh : db.users.get? userId = none := (Table.rows_insert? h.inserted).2.1
  have hne : u ≠ userId := by
    intro e
    rw [e, hfresh] at hget
    cases hget
  have hnew : u ≠ (newUser userId name).id := hne
  rw [h.result] at ha ⊢
  have hafter : users'.get? u = some after := (Db.liveUser?_eq_some.mp ha).1
  rw [Table.get?_modify? h.rotated, if_neg hne, Table.get?_insert? h.inserted, if_neg hnew,
    hget] at hafter
  cases hafter
  refine Or.inr ⟨⟨rfl, rfl⟩, roleGrantsForUser_shown false ?_ (fun _ _ => rfl)⟩
  show userRoles.rights before.id = _
  rw [Links.rights_linkAll? h.assigned, hid, if_neg hne]

/-- **every operation accounts for the authority it changes** -/
theorem accounted_body (hs : Standing db) {now : Nat} {op : Operation}
    (h : op.body lib now db = .ok db') : Accounted db db' := by
  cases op with
  | updateUserStatus c t a =>
    obtain ⟨⟨o, _⟩, ho, rfl⟩ := (map_ok _ _ _).mp h
    obtain ⟨-, -, -, ⟨-, rfl⟩ | ⟨-, t, ht, rfl⟩⟩ := updateUserStatusBody_ok ho
    · exact .refl _
    · exact accounted_users ht (fun _ => rfl)
        (fun _ _ => Or.inl ⟨Nat.lt_succ_self _, Nat.lt_succ_self _⟩) (fun _ _ => rfl)
  | revokeUserSessions c t =>
    obtain ⟨⟨o, _⟩, ho, rfl⟩ := (map_ok _ _ _).mp h
    obtain ⟨-, -, -, t, ht, rfl⟩ := revokeUserSessionsBody_ok ho
    exact accounted_modifyUser ht (fun _ => rfl) (fun _ => ⟨rfl, rfl⟩)
  | changeUserRoles c t ids o =>
    simp only [Operation.body] at h
    split at h
    · cases h
    · obtain ⟨⟨o, _⟩, ho, rfl⟩ := (map_ok _ _ _).mp h
      obtain ⟨-, -, -, -, rfl | ⟨userRoles, users, hw, hu, rfl⟩⟩ := changeUserRolesBody_ok ho
      · exact .refl _
      · refine accounted_users hu (fun _ => rfl)
          (fun _ _ => Or.inl ⟨Nat.lt_succ_self _, Nat.lt_succ_self _⟩) ?_
        intro u hne
        exact hw.rights_other (of_decide_eq_false hne)
  | createRole c r q =>
    obtain ⟨⟨o, _⟩, ho, rfl⟩ := (map_ok _ _ _).mp h
    obtain ⟨-, -, -, -, -, t, ht, rfl⟩ := createRoleBody_ok ho
    exact accounted_grantless (shown_insertRole hs.coherent ht rfl)
  | updateRole c r q v =>
    obtain ⟨⟨o, _⟩, ho, rfl⟩ := (map_ok _ _ _).mp h
    obtain ⟨-, -, -, -, rfl | ⟨name, description, t, ht, rfl⟩⟩ := updateRoleBody_ok ho
    · exact .refl _
    · exact accounted_grantless (fun _ r _ => shown_describe ht r)
  | setRoleActive c r a v =>
    obtain ⟨⟨o, _⟩, ho, rfl⟩ := (map_ok _ _ _).mp h
    obtain ⟨-, -, -, -, rfl | ⟨roles, users, hr, hu, rfl⟩⟩ := setRoleActiveBody_ok ho
    · exact .refl _
    · exact (roleChange_setRoleActive hr hu).accounted (Nat.lt_succ_self _)
  | softDeleteRole c r v =>
    obtain ⟨⟨o, _⟩, ho, rfl⟩ := (map_ok _ _ _).mp h
    obtain ⟨locked, -, -, -, roles, users, hr, hu, rfl⟩ := softDeleteRoleBody_ok ho
    exact (roleChange_softDeleteRole hr hu).accounted (Nat.lt_succ_self _)
  | changeRolePermissions c r ids o v =>
    simp only [Operation.body] at h
    split at h
    · cases h
    · obtain ⟨⟨o, _⟩, ho, rfl⟩ := (map_ok _ _ _).mp h
      obtain ⟨-, -, -, -, -, -, -, -, -, -, -, -, -, -,
        rfl | ⟨rolePermissions, roles, users, hw, hr, hu, rfl⟩⟩ := changeRolePermissionsBody_ok ho
      · exact .refl _
      · exact (roleChange_rolePermissions hw hr hu).accounted (Nat.lt_succ_self _)
  | setRegistrationEnabled c e =>
    obtain ⟨⟨v, _, rows⟩, ho, rfl⟩ := (map_ok _ _ _).mp h
    obtain ⟨state, -, rfl⟩ := setRegistrationEnabledBody_ok ho
    exact accounted_grantless (fun _ _ _ => rfl)
  | register n hash u q =>
    obtain ⟨⟨v, _, rows⟩, ho, rfl⟩ := (map_ok _ _ _).mp h
    obtain ⟨-, -, name, role, users, users', userRoles, hnew⟩ := registerBody_ok ho
    exact hnew.accounted
  | createUserByAdministrator c n hash u =>
    obtain ⟨⟨v, _, rows⟩, ho, rfl⟩ := (map_ok _ _ _).mp h
    obtain ⟨-, -, name, role, users, users', userRoles, hnew⟩ := createUserByAdministratorBody_ok ho
    exact hnew.accounted
  | lockedLogin p hash t =>
    obtain ⟨⟨v, _⟩, ho, rfl⟩ := (map_ok _ _ _).mp h
    obtain rfl | ⟨hash', users, ht, rfl⟩ := lockedLoginBody_ok ho
    · exact .refl _
    · exact accounted_modifyUser ht (fun _ => rfl) (fun _ => ⟨rfl, rfl⟩)
  | changePassword c p hash =>
    obtain ⟨⟨v, _, rows⟩, ho, rfl⟩ := (map_ok _ _ _).mp h
    obtain ⟨-, -, users, ht, rfl⟩ := changePasswordBody_ok ho
    exact accounted_modifyUser ht (fun _ => rfl) (fun _ => ⟨rfl, rfl⟩)
  | completePasswordReset p hash q =>
    obtain ⟨⟨v, _, rows⟩, ho, rfl⟩ := (map_ok _ _ _).mp h
    obtain ⟨-, -, -, users, ht, rfl⟩ := completePasswordResetBody_ok ho
    exact accounted_modifyUser ht (fun _ => rfl) (fun _ => ⟨rfl, rfl⟩)
  | resetUserPassword c t pw hash m =>
    obtain ⟨⟨v, _, rows⟩, ho, rfl⟩ := (map_ok _ _ _).mp h
    obtain ⟨-, -, -, -, -, _, users, ht, rfl⟩ := resetUserPasswordBody_ok ho
    exact accounted_modifyUser ht (fun _ => rfl) (fun _ => ⟨rfl, rfl⟩)
  | operatorReset u pw hash q =>
    obtain ⟨⟨v, _, rows⟩, ho, rfl⟩ := (map_ok _ _ _).mp h
    obtain ⟨-, -, -, users, ht, rfl⟩ := operatorResetBody_ok ho
    exact accounted_modifyUser ht (fun _ => rfl) (fun _ => ⟨rfl, rfl⟩)
  | bootstrap u =>
    obtain ⟨⟨v, _, rows⟩, ho, rfl⟩ := (map_ok _ _ _).mp h
    obtain ⟨superRole, _, _, _, _, _, ⟨rfl, -⟩ | ⟨-, -, userRoles, users, hl, hu, rfl⟩⟩ :=
      bootstrapBody_ok ho
    · exact .refl _
    · refine accounted_users hu (fun _ => rfl)
        (fun _ _ => Or.inl ⟨Nat.lt_succ_self _, Nat.lt_succ_self _⟩) ?_
      intro x hne
      rw [Links.rights_linkAll? hl, if_neg (of_decide_eq_false hne)]
  | handover o n =>
    obtain ⟨⟨v, _, rows⟩, ho, rfl⟩ := (map_ok _ _ _).mp h
    obtain ⟨superRole, _, _, _, _, _, _, _, _, _, _, _, userRoles, users, hl, hu, rfl⟩ :=
      handoverBody_ok ho
    refine accounted_users hu (fun _ => rfl)
      (fun _ _ => Or.inl ⟨Nat.lt_succ_self _, Nat.lt_succ_self _⟩) ?_
    intro x hne
    obtain ⟨ho, hn⟩ := Bool.or_eq_false_iff.mp hne
    rw [Links.rights_linkAll? hl, if_neg (of_decide_eq_false hn), Links.rights_tombstone]
    simp [of_decide_eq_false ho]

/-! ## commands that change nothing -/

/-- the command answers that nothing changed, or finds the status as it is asked for -/
def Operation.Unchanged (now : Nat) (s : Postgres) : Operation → Prop
  | .updateUserStatus c t a => (s.db.liveUser? t).map User.isActive = some a
  | .changeUserRoles c t ids o =>
    ∃ r, (PgRbac.changeUserRoles c t ids o now s).1 = .ok r ∧ r.changed = false
  | .createRole c r q => ∃ v, (PgRbac.createRole c r q s).1 = .ok v ∧ v.changed = false
  | .updateRole c r q e => ∃ v, (PgRbac.updateRole c r q e s).1 = .ok v ∧ v.changed = false
  | .setRoleActive c r a e => ∃ v, (PgRbac.setRoleActive c r a e s).1 = .ok v ∧ v.changed = false
  | .softDeleteRole c r e => ∃ v, (PgRbac.softDeleteRole c r e now s).1 = .ok v ∧ v.changed = false
  | .changeRolePermissions c r ids o e =>
    ∃ v, (PgRbac.changeRolePermissions c r ids o e now s).1 = .ok v ∧ v.changed = false
  | _ => False

theorem runAudited_unchanged {α : Type} {P : α → Prop} {context : AuthorizationContext}
    {action : String} {tu tr : Option Uuid}
    {operation : Db → Except Failure (MutationOutcome α × Db)} {s : Postgres}
    (hbody : ∀ outcome db', operation s.db = .ok (outcome, db') → P outcome.value → db' = s.db)
    (h : ∃ a, (runAudited context action tu tr operation s).1 = .ok a ∧ P a) :
    (runAudited context action tu tr operation s).2.db = s.db ∧
      ∃ row, (runAudited context action tu tr operation s).2.audit = s.audit ++ [row] := by
  obtain ⟨a, ha, hp⟩ := h
  obtain ⟨outcome, event, ho, rfl, -, hrow⟩ := runAudited_row (Prod.ext ha rfl :
    runAudited context action tu tr operation s = (.ok a, _))
  exact ⟨hbody outcome _ ho hp, _, hrow⟩

theorem updateUserStatusBody_unchanged {context : AuthorizationContext} {target : Uuid}
    {isActive : Bool} {outcome : MutationOutcome UserResponse}
    (hsame : (db.liveUser? target).map User.isActive = some isActive)
    (h : updateUserStatusBody context target isActive db = .ok (outcome, db')) : db' = db := by
  obtain ⟨locked, hlock, -, ⟨-, rfl⟩ | ⟨hne, -⟩⟩ := updateUserStatusBody_ok h
  · rfl
  · obtain ⟨-, -, -, hlive, -⟩ := lockActorAndTargetUser_ok hlock
    rw [hlive, Option.map_some, Option.some.injEq] at hsame
    exact absurd hsame hne

theorem changeUserRolesBody_unchanged {context : AuthorizationContext} {target : Uuid}
    {ids : List Uuid} {operation : RoleOperation} {now : Nat}
    {outcome : MutationOutcome UserRoleMutationResponse}
    (h : changeUserRolesBody context target ids operation now db = .ok (outcome, db'))
    (hc : outcome.value.changed = false) : db' = db := by
  unfold changeUserRolesBody at h
  simp only [bind_ok] at h
  obtain ⟨_, _, _, _, _, _, _, _, _, _, h⟩ := h
  split at h
  · simp only [pure_ok, Prod.mk.injEq] at h
    exact h.2.symm
  · simp only [bind_ok, pure_ok, Prod.mk.injEq] at h
    obtain ⟨_, _, _, _, _, _, rfl, _⟩ := h
    cases hc

theorem updateRoleBody_unchanged {context : AuthorizationContext} {roleId : Uuid}
    {request : RoleUpdateRequest} {expected : Nat} {outcome : MutationOutcome RoleMutationResponse}
    (h : updateRoleBody context roleId request expected db = .ok (outcome, db'))
    (hc : outcome.value.changed = false) : db' = db := by
  unfold updateRoleBody at h
  simp only [bind_ok] at h
  obtain ⟨_, _, _, _, _, _, h⟩ := h
  split at h
  · simp only [pure_ok, Prod.mk.injEq] at h
    exact h.2.symm
  · simp only [bind_ok, pure_ok, Prod.mk.injEq] at h
    obtain ⟨_, _, rfl, _⟩ := h
    cases hc

theorem setRoleActiveBody_unchanged {context : AuthorizationContext} {roleId : Uuid}
    {isActive : Bool} {expected : Nat} {outcome : MutationOutcome RoleMutationResponse}
    (h : setRoleActiveBody context roleId isActive expected db = .ok (outcome, db'))
    (hc : outcome.value.changed = false) : db' = db := by
  unfold setRoleActiveBody at h
  simp only [bind_ok] at h
  obtain ⟨_, _, _, _, _, _, h⟩ := h
  split at h
  · simp only [pure_ok, Prod.mk.injEq] at h
    exact h.2.symm
  · simp only [bind_ok, pure_ok, Prod.mk.injEq] at h
    obtain ⟨_, _, _, _, _, _, rfl, _⟩ := h
    cases hc

theorem changeRolePermissionsBody_unchanged {context : AuthorizationContext} {roleId : Uuid}
    {ids : List Uuid} {operation : RoleOperation} {expected now : Nat}
    {outcome : MutationOutcome RoleMutationResponse}
    (h : changeRolePermissionsBody context roleId ids operation expected now db =
      .ok (outcome, db')) (hc : outcome.value.changed = false) : db' = db := by
  unfold changeRolePermissionsBody at h
  simp only [bind_ok] at h
  obtain ⟨_, _, _, _, _, _, _, _, _, _, h⟩ := h
  split at h
  · simp only [pure_ok, Prod.mk.injEq] at h
    exact h.2.symm
  · simp only [bind_ok, pure_ok, Prod.mk.injEq] at h
    obtain ⟨_, _, _, _, _, _, _, _, rfl, _⟩ := h
    cases hc

theorem createRoleBody_changed {context : AuthorizationContext} {roleId : Uuid}
    {request : RoleCreateRequest} {outcome : MutationOutcome RoleMutationResponse}
    (h : createRoleBody context roleId request db = .ok (outcome, db')) :
    outcome.value.changed = true := by
  unfold createRoleBody at h
  simp only [bind_ok, pure_ok, Prod.mk.injEq] at h
  obtain ⟨_, _, _, _, _, _, _, _, _, _, _, _, rfl, _⟩ := h
  rfl

theorem softDeleteRoleBody_changed {context : AuthorizationContext} {roleId : Uuid}
    {expected now : Nat} {outcome : MutationOutcome RoleMutationResponse}
    (h : softDeleteRoleBody context roleId expected now db = .ok (outcome, db')) :
    outcome.value.changed = true := by
  unfold softDeleteRoleBody at h
  simp only [bind_ok, pure_ok, Prod.mk.injEq] at h
  obtain ⟨_, _, _, _, _, _, _, _, _, _, _, _, _, _, rfl, _⟩ := h
  rfl

theorem unchanged_run {now : Nat} {op : Operation} {s : Postgres} (hun : op.Unchanged now s)
    (hok : (op.run lib now s).1 = .ok ()) :
    (op.run lib now s).2.db = s.db ∧ ∃ row, (op.run lib now s).2.audit = s.audit ++ [row] := by
  cases op with
  | updateUserStatus c t a =>
    obtain ⟨v, hv, -⟩ := (map_ok _ _ _).mp hok
    exact runAudited_unchanged (P := fun _ => True)
      (fun o db' ho _ => updateUserStatusBody_unchanged hun ho) ⟨v, hv, trivial⟩
  | changeUserRoles c t ids o =>
    have hne : ids ≠ [] := by
      rintro rfl
      obtain ⟨r, hr, -⟩ := hun
      cases hr
    have hun' := hun
    simp only [Operation.Unchanged, changeUserRoles, if_neg hne] at hun'
    simp only [Operation.run, discard, changeUserRoles, if_neg hne]
    exact runAudited_unchanged (fun _ _ ho hc => changeUserRolesBody_unchanged ho hc) hun'
  | createRole c r q =>
    exact runAudited_unchanged (fun _ _ ho hc => by
      rw [createRoleBody_changed ho] at hc
      cases hc) hun
  | updateRole c r q e => exact runAudited_unchanged (fun _ _ => updateRoleBody_unchanged) hun
  | setRoleActive c r a e => exact runAudited_unchanged (fun _ _ => setRoleActiveBody_unchanged) hun
  | softDeleteRole c r e =>
    exact runAudited_unchanged (fun _ _ ho hc => by
      rw [softDeleteRoleBody_changed ho] at hc
      cases hc) hun
  | changeRolePermissions c r ids o e =>
    have hne : ids ≠ [] := by
      rintro rfl
      obtain ⟨v, hv, -⟩ := hun
      cases hv
    have hun' := hun
    simp only [Operation.Unchanged, changeRolePermissions, if_neg hne] at hun'
    simp only [Operation.run, discard, changeRolePermissions, if_neg hne]
    exact runAudited_unchanged (fun _ _ ho hc => changeRolePermissionsBody_unchanged ho hc) hun'
  | _ => exact hun.elim

/-- **in every committed transaction the counters only grow, whose effective authority differs has a
new version and there is a new epoch, and a command that changes nothing adds its audit row only** -/
theorem versions_coherent {s s' : Postgres} {c : Call} (hs : Reachable (system lib) s)
    (h : Committed lib s c s') :
    (∀ u before after, s.db.liveUser? u = some before → s'.db.liveUser? u = some after →
      (s'.db.authority false after).uncounted ≠ (s.db.authority false before).uncounted →
        before.authzVersion < after.authzVersion ∧
          s.db.rbacState.epoch < s'.db.rbacState.epoch) ∧
    (∀ u before, s.db.users.get? u = some before → ∃ after, s'.db.users.get? u = some after ∧
      before.tokenVersion ≤ after.tokenVersion ∧ before.authzVersion ≤ after.authzVersion) ∧
    (∀ r before, s.db.roles.get? r = some before → ∃ after, s'.db.roles.get? r = some after ∧
      before.version ≤ after.version) ∧
    s.db.rbacState.epoch ≤ s'.db.rbacState.epoch ∧
    (c.operation.Unchanged c.now s →
      s'.db = s.db ∧ ∃ row, s'.audit = s.audit ++ [row]) := by
  have hst := reachable_standing hs
  have hgrows := grows_body hst.coherent h.body
  refine ⟨?_, ?_, ?_, hgrows.epoch, ?_⟩
  · intro u before after hb ha hne
    rcases accounted_body hst h.body u before after hb ha with hv | hsame
    · exact hv
    · have hid := (Db.id_of_liveUser? ha).trans (Db.id_of_liveUser? hb).symm
      exact absurd (hsame.uncounted hid) hne
  · intro u before hb
    obtain ⟨after, ha, hg⟩ := hgrows.users u before hb
    exact ⟨after, ha, hg.token, hg.authz⟩
  · intro r before hb
    obtain ⟨after, ha, hg⟩ := hgrows.roles r before hb
    exact ⟨after, ha, hg.version⟩
  · intro hun
    have hrun : c.operation.run lib c.now s = (.ok (), s') := h
    have hframe := unchanged_run hun (congrArg Prod.fst hrun)
    rw [hrun] at hframe
    exact hframe

/-- the super administrator binds the admin role to an account, twice -/
def promoting : Nat → Call :=
  script [signUp "alice" alice, .bootstrap alice, signUp "bob" bob,
    .changeUserRoles (bearer alice 0) bob [systemRoleId .admin] .bind,
    .changeUserRoles (bearer alice 0) bob [systemRoleId .admin] .bind]

theorem versions_coherent_promoting :
    (∃ before after, (states sampleLibrary promoting 3).db.liveUser? bob = some before ∧
      (states sampleLibrary promoting 4).db.liveUser? bob = some after ∧
      before.authzVersion < after.authzVersion) ∧
    (states sampleLibrary promoting 5).db = (states sampleLibrary promoting 4).db := by
  have hrun := isRun_states sampleLibrary promoting 5
  have hcom : ∀ i ∈ [3, 4], ((promoting i).operation.run sampleLibrary i
      (states sampleLibrary promoting i)).1 = .ok () := by decide +kernel
  have h3 := versions_coherent (hrun.reachable (show 3 ≤ 5 by omega))
    (Prod.ext (hcom 3 (by decide)) rfl : Committed sampleLibrary _ (promoting 3)
      (states sampleLibrary promoting 4))
  have h4 := versions_coherent (hrun.reachable (show 4 ≤ 5 by omega))
    (Prod.ext (hcom 4 (by decide)) rfl : Committed sampleLibrary _ (promoting 4)
      (states sampleLibrary promoting 5))
  constructor
  · have htier : ((states sampleLibrary promoting 3).db.liveUser? bob).map (fun u =>
        ((states sampleLibrary promoting 3).db.authority false u).managementTier) = some 0 := by
      decide +kernel
    have htier' : ((states sampleLibrary promoting 4).db.liveUser? bob).map (fun u =>
        ((states sampleLibrary promoting 4).db.authority false u).managementTier) = some 500 := by
      decide +kernel
    obtain ⟨before, hb, h0⟩ := Option.map_eq_some_iff.mp htier
    obtain ⟨after, ha, h500⟩ := Option.map_eq_some_iff.mp htier'
    refine ⟨before, after, hb, ha, (h3.1 bob before after hb ha ?_).1⟩
    intro e
    have htiers := congrArg AuthoritySnapshot.managementTier e
    have hfive : 500 = 0 := h500.symm.trans (htiers.trans h0)
    omega
  · have hun : (promoting 4).operation.Unchanged 4 (states sampleLibrary promoting 4) := by
      have hchanged : (((PgRbac.changeUserRoles (bearer alice 0) bob [systemRoleId .admin] .bind 4
          (states sampleLibrary promoting 4)).1.toOption).map
            UserRoleMutationResponse.changed) = some false := by decide +kernel
      show ∃ r, (PgRbac.changeUserRoles (bearer alice 0) bob [systemRoleId .admin] .bind 4
        (states sampleLibrary promoting 4)).1 = .ok r ∧ r.changed = false
      cases hr : (PgRbac.changeUserRoles (bearer alice 0) bob [systemRoleId .admin] .bind 4
          (states sampleLibrary promoting 4)).1 with
      | error e =>
        rw [hr] at hchanged
        cases hchanged
      | ok r =>
        rw [hr] at hchanged
        exact ⟨r, rfl, Option.some.inj hchanged⟩
    exact (h4.2.2.2.2 hun).1

end PgRbac
