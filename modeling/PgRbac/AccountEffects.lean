import PgRbac.Effects

/-!
# What a committed account or operator transaction has checked and written

The inversion lemmas of `PgRbac.Effects` for the transactions of `PgRbac.Authentication` and
`PgRbac.Operator`.

* `NewAccount`              what registration and administrator creation leave behind;
* `lockedLoginBody_cases`, `finalLoginBody_some`    the two locked transactions of a login;
* `changePasswordBody_ok`, …, `operatorResetBody_ok`       the transactions that rotate a password;
* `bootstrapBody_ok`, `handoverBody_ok`                    the operator scripts.
-/

set_option linter.unusedVariables false

namespace PgRbac

open Fallible Store

@[simp] theorem Db.lockUsers_self (db : Db) (id : Uuid) : db.lockUsers [id] id = db.liveUser? id := by
  simp [Db.lockUsers]

@[simp] theorem Db.lockRoles_self (db : Db) (id : Uuid) : db.lockRoles [id] id = db.liveRole? id := by
  simp [Db.lockRoles]

/-! ## new accounts -/

/-- one new user row with a password, the live `user` role assigned to it, and a new epoch -/
structure NewAccount (db : Db) (userId : Uuid) (passwordHash : String) (must : Bool) (now : Nat)
    (name : String) (role : Role) (users users' : Table User.id User.userName User.checks)
    (userRoles : Links Uuid Uuid) (db' : Db) : Prop where
  v4 : userId.isV4 = true
  inserted : db.users.insert? (newUser userId name) = .ok users
  stored : db.roles.findBy? SystemRoleKey.user.value = some role
  contract : matchesUserContract role = true
  assigned : db.userRoles.linkAll? userId [role.id] = some userRoles
  rotated : users.modify? userId (User.rotatePassword passwordHash must now) = .ok users'
  result : db' = { db with users := users', userRoles := userRoles }.bumpEpoch

theorem createUserWithDefaultRole_ok {db db' : Db} {userName requestId : String} {userId : Uuid}
    {assignedBy : Option Uuid} {new : Provisioned}
    (h : createUserWithDefaultRole db userName userId assignedBy requestId = .ok (new, db')) :
    ∃ name role users userRoles, userId.isV4 = true ∧ normalizeIdentity userName = .ok name ∧
      db.users.insert? (newUser userId name) = .ok users ∧
      db.roles.findBy? SystemRoleKey.user.value = some role ∧ matchesUserContract role = true ∧
      db.userRoles.linkAll? userId [role.id] = some userRoles ∧
      new.user = newUser userId name ∧ new.roleId = role.id ∧
      db' = { db with users := users, userRoles := userRoles }.bumpEpoch := by
  unfold createUserWithDefaultRole at h
  simp only [bind_ok, require_ok, Db.insertUser_ok, orRaise_ok, Db.lockRoles_self, pure_ok,
    Prod.mk.injEq] at h
  obtain ⟨name, hn, _, hv, -, -, -, -, _, ⟨users, hu, rfl⟩, stored, hs, role, hr, -, hc, db₂, ha,
    rfl, rfl⟩ := h
  have hrole := (Db.liveRole?_eq_some.mp hr).1
  have hstored := (Table.findBy?_iff_get?.mp hs).1
  rw [show db.roles.get? stored.id = some stored from hstored] at hrole
  cases hrole
  obtain ⟨userRoles, hl, -, -, rfl⟩ := Db.assignRoles_ok ha
  exact ⟨name, stored, users, userRoles, hv, hn, hu, hs, hc, hl, rfl, rfl, rfl⟩

theorem registerBody_named {userName passwordHash requestId : String} {userId id : Uuid} {now : Nat}
    {db db' : Db} {rows : List AuditRow}
    (h : registerBody userName passwordHash userId requestId now db = .ok (id, db', rows)) :
    db.rbacState.publicRegistrationEnabled = true ∧ id = userId ∧
      ∃ name role users users' userRoles, normalizeIdentity userName = .ok name ∧
        NewAccount db userId passwordHash false now name role users users' userRoles db' := by
  unfold registerBody at h
  simp only [bind_ok, require_ok, Prod.exists, Db.updateUser_ok, Db.commit_ok, pure_ok,
    Prod.mk.injEq] at h
  obtain ⟨_, he, new, db₁, hc, _, ⟨users', hu', rfl⟩, _, ⟨rfl, -, -⟩, rfl, rfl, -⟩ := h
  obtain ⟨name, role, users, userRoles, hv, hn, hu, hr, hm, hl, hnew, -, rfl⟩ :=
    createUserWithDefaultRole_ok hc
  rw [hnew] at hu' ⊢
  exact ⟨he, rfl, name, role, users, users', userRoles, hn, hv, hu, hr, hm, hl, hu', rfl⟩

theorem registerBody_ok {userName passwordHash requestId : String} {userId id : Uuid} {now : Nat}
    {db db' : Db} {rows : List AuditRow}
    (h : registerBody userName passwordHash userId requestId now db = .ok (id, db', rows)) :
    db.rbacState.publicRegistrationEnabled = true ∧ id = userId ∧
      ∃ name role users users' userRoles,
        NewAccount db userId passwordHash false now name role users users' userRoles db' := by
  obtain ⟨he, hid, name, role, users, users', userRoles, -, hnew⟩ := registerBody_named h
  exact ⟨he, hid, name, role, users, users', userRoles, hnew⟩

theorem createUserByAdministratorBody_named {context : AuthorizationContext}
    {userName passwordHash : String} {userId id : Uuid} {now : Nat} {db db' : Db}
    {rows : List AuditRow}
    (h : createUserByAdministratorBody context userName passwordHash userId now db =
      .ok (id, db', rows)) :
    (∃ row, CurrentActor db context row) ∧ id = userId ∧
      ∃ name role users users' userRoles, normalizeIdentity userName = .ok name ∧
        NewAccount db userId passwordHash true now name role users users' userRoles db' := by
  unfold createUserByAdministratorBody at h
  simp only [bind_ok, require_ok, Prod.exists, Db.updateUser_ok, Db.commit_ok, pure_ok,
    Prod.mk.injEq] at h
  obtain ⟨actor, ha, -, -, new, db₁, hc, _, ⟨users', hu', rfl⟩, _, ⟨rfl, -, -⟩, rfl, rfl, -⟩ := h
  obtain ⟨row, hcur, -⟩ := requireCurrentActor_current ha
  obtain ⟨name, role, users, userRoles, hv, hn, hu, hr, hm, hl, hnew, -, rfl⟩ :=
    createUserWithDefaultRole_ok hc
  rw [hnew] at hu' ⊢
  exact ⟨⟨row, hcur⟩, rfl, name, role, users, users', userRoles, hn, hv, hu, hr, hm, hl, hu', rfl⟩

theorem createUserByAdministratorBody_ok {context : AuthorizationContext}
    {userName passwordHash : String} {userId id : Uuid} {now : Nat} {db db' : Db}
    {rows : List AuditRow}
    (h : createUserByAdministratorBody context userName passwordHash userId now db =
      .ok (id, db', rows)) :
    (∃ row, CurrentActor db context row) ∧ id = userId ∧
      ∃ name role users users' userRoles,
        NewAccount db userId passwordHash true now name role users users' userRoles db' := by
  obtain ⟨hcur, hid, name, role, users, users', userRoles, -, hnew⟩ :=
    createUserByAdministratorBody_named h
  exact ⟨hcur, hid, name, role, users, users', userRoles, hnew⟩

theorem setRegistrationEnabledBody_ok {context : AuthorizationContext} {enabled b : Bool}
    {db db' : Db} {rows : List AuditRow}
    (h : setRegistrationEnabledBody context enabled db = .ok (b, db', rows)) :
    ∃ state : RbacState, state.epoch = db.rbacState.epoch ∧ db' = { db with rbacState := state } := by
  unfold setRegistrationEnabledBody at h
  simp only [bind_ok, require_ok] at h
  obtain ⟨-, -, -, -, h⟩ := h
  split at h
  · simp only [pure_ok, Prod.mk.injEq] at h
    exact ⟨db.rbacState, rfl, h.2.1.symm⟩
  · simp only [pure_ok, Prod.mk.injEq] at h
    exact ⟨{ db.rbacState with publicRegistrationEnabled := enabled }, rfl, h.2.1.symm⟩

/-! ## login -/

/-- **the first locked transaction of a login**: refused, or the row is that of the snapshot and
its hash decides between an answer and a second verification -/
theorem lockedLoginBody_cases {snapshot : PasswordSnapshot} {replacement : Option String}
    {temporary : Bool} {db db' : Db} {step : LoginStep}
    (h : lockedLoginBody snapshot replacement temporary db = .ok (step, db')) :
    (step = .rejected ∧ db' = db) ∨
    ∃ u, db.liveUser? snapshot.userId = some u ∧ sameLoginUserState u snapshot = true ∧
      u.mustChangePassword = snapshot.mustChangePassword ∧
      ((u.passwordHash = snapshot.passwordHash ∧ step = .authenticated (authenticatedUser u) ∧
          ((replacement = none ∧ db' = db) ∨ ∃ hash users, replacement = some hash ∧
            db.users.modify? snapshot.userId (User.upgradeHash hash) = .ok users ∧
            db' = { db with users := users })) ∨
        (step = .concurrentRehash (snapshotFromUser u) ∧ db' = db)) := by
  unfold lockedLoginBody at h
  rw [Db.lockUsers_self] at h
  cases hu : db.liveUser? snapshot.userId with
  | none =>
    rw [hu] at h
    cases h
    exact Or.inl ⟨rfl, rfl⟩
  | some u =>
    rw [hu] at h
    have hid := Db.id_of_liveUser? hu
    simp only at h
    split at h
    · cases h; exact Or.inl ⟨rfl, rfl⟩
    · rename_i hsame
      obtain ⟨hstate, hmust⟩ := not_or.mp hsame
      rw [not_not] at hstate hmust
      split at h
      · cases h; exact Or.inl ⟨rfl, rfl⟩
      · refine Or.imp_right (fun hc => ⟨u, rfl, hstate, hmust, hc⟩) ?_
        split at h
        · rename_i hhash
          refine Or.inr (Or.inl ⟨hhash, ?_⟩)
          split at h
          · cases h
            exact ⟨rfl, Or.inl ⟨rfl, rfl⟩⟩
          · rename_i hash
            simp only [bind_ok, Db.updateUser_ok, Db.commit_ok, pure_ok, Prod.mk.injEq, hid] at h
            obtain ⟨_, ⟨users, hus, rfl⟩, _, ⟨rfl, -, -⟩, rfl, rfl⟩ := h
            exact ⟨rfl, Or.inr ⟨hash, users, rfl, hus, rfl⟩⟩
        · split at h
          · cases h; exact Or.inl ⟨rfl, rfl⟩
          · cases h; exact Or.inr (Or.inr ⟨rfl, rfl⟩)

theorem lockedLoginBody_ok {snapshot : PasswordSnapshot} {replacement : Option String}
    {temporary : Bool} {db db' : Db} {step : LoginStep}
    (h : lockedLoginBody snapshot replacement temporary db = .ok (step, db')) :
    db' = db ∨ ∃ hash users,
      db.users.modify? snapshot.userId (User.upgradeHash hash) = .ok users ∧
      db' = { db with users := users } := by
  rcases lockedLoginBody_cases h with ⟨-, he⟩ | ⟨u, -, -, -, ⟨-, -, ⟨-, he⟩ | hw⟩ | ⟨-, he⟩⟩
  · exact Or.inl he
  · exact Or.inl he
  · obtain ⟨hash, users, -, hus, he⟩ := hw
    exact Or.inr ⟨hash, users, hus, he⟩
  · exact Or.inl he

theorem finalLoginBody_some {snapshot : PasswordSnapshot} {temporary : Bool} {db : Db}
    {user : AuthenticatedPasswordUser} (h : finalLoginBody snapshot temporary db = some user) :
    ∃ u, db.liveUser? snapshot.userId = some u ∧ user = authenticatedUser u ∧
      sameLoginUserState u snapshot = true ∧ samePasswordState u snapshot = true := by
  unfold finalLoginBody at h
  rw [Db.lockUsers_self] at h
  cases hu : db.liveUser? snapshot.userId with
  | none => rw [hu] at h; cases h
  | some u =>
    rw [hu] at h
    simp only at h
    split at h
    · cases h
    · rename_i hsame
      obtain ⟨hstate, hpassword⟩ := not_or.mp hsame
      split at h
      · cases h
      · cases h
        exact ⟨u, rfl, rfl, not_not.mp hstate, not_not.mp hpassword⟩

/-! ## rotations of a password -/

theorem changePasswordBody_ok {context : AuthorizationContext} {snapshot : PasswordSnapshot}
    {newHash : String} {now : Nat} {db db' : Db} {b : Bool} {rows : List AuditRow}
    (h : changePasswordBody context snapshot newHash now db = .ok (b, db', rows)) :
    ∃ row, CurrentActor db context row ∧ ∃ users,
      db.users.modify? context.principal.userId (User.replacePassword newHash false now) =
        .ok users ∧ db' = { db with users := users } := by
  unfold changePasswordBody at h
  simp only [bind_ok, require_ok, orRaise_ok, Db.lockUsers_self, Option.filter_eq_some_iff,
    Bool.and_eq_true, decide_eq_true_eq, Db.updateUser_ok, Db.commit_ok, pure_ok,
    Prod.mk.injEq] at h
  obtain ⟨u, ⟨hu, ⟨ha, ht⟩, -⟩, -, -, _, ⟨users, hus, rfl⟩, _, ⟨rfl, -, -⟩, -, rfl, -⟩ := h
  have hid := Db.id_of_liveUser? hu
  rw [hid] at hus
  exact ⟨u, ⟨hu, ha, ht⟩, users, hus, rfl⟩

theorem completePasswordResetBody_ok {snapshot : PasswordSnapshot} {newHash requestId : String}
    {now : Nat} {db db' : Db} {b : Bool} {rows : List AuditRow}
    (h : completePasswordResetBody snapshot newHash requestId now db = .ok (b, db', rows)) :
    ∃ u, db.liveUser? snapshot.userId = some u ∧ u.isActive = true ∧ ∃ users,
      db.users.modify? snapshot.userId (User.replacePassword newHash false now) = .ok users ∧
      db' = { db with users := users } := by
  unfold completePasswordResetBody at h
  simp only [bind_ok, require_ok, orRaise_ok, Db.lockUsers_self, Option.filter_eq_some_iff,
    Bool.and_eq_true, Db.updateUser_ok, Db.commit_ok, pure_ok, Prod.mk.injEq] at h
  obtain ⟨u, ⟨hu, ha, -⟩, -, -, -, -, _, ⟨users, hus, rfl⟩, _, ⟨rfl, -, -⟩, -, rfl, -⟩ := h
  have hid := Db.id_of_liveUser? hu
  rw [hid] at hus
  exact ⟨u, hu, ha, users, hus, rfl⟩

theorem lockAuthorizedResetTarget_ok {db : Db} {context : AuthorizationContext}
    {targetUserId : Uuid} {targetUser : User}
    (h : lockAuthorizedResetTarget db context targetUserId = .ok targetUser) :
    ∃ row, CurrentActor db context row ∧ db.liveUser? targetUserId = some targetUser ∧
      Dominated (db.authority false row) (db.authority true targetUser) := by
  unfold lockAuthorizedResetTarget at h
  simp only [bind_ok, require_ok, orRaise_ok, pure_ok] at h
  obtain ⟨actor, ha, -, -, u, hu, target, ht, -, -, -, hd, rfl⟩ := h
  obtain ⟨row, hc, rfl⟩ := requireCurrentActor_current ha
  have hlive : db.liveUser? targetUserId = some u := by
    unfold Db.lockUsers at hu
    split at hu
    · exact hu
    · cases hu
  obtain ⟨u', hu', rfl⟩ := Db.loadAuthoritySnapshot_ok.mp ht
  rw [hlive] at hu'
  cases hu'
  exact ⟨row, hc, hlive, (decideUserAdministration_allowed hd).2.2⟩

theorem resetUserPasswordBody_ok {lib : PasswordLibrary} {context : AuthorizationContext}
    {targetUserId : Uuid} {newPassword newHash : String} {mode : ResetMode} {now : Nat}
    {db db' : Db} {b : Bool} {rows : List AuditRow}
    (h : resetUserPasswordBody lib context targetUserId newPassword newHash mode now db =
      .ok (b, db', rows)) :
    ∃ row targetUser, CurrentActor db context row ∧
      db.liveUser? targetUserId = some targetUser ∧
      Dominated (db.authority false row) (db.authority true targetUser) ∧ ∃ must users,
        db.users.modify? targetUserId (User.replacePassword newHash must now) = .ok users ∧
        db' = { db with users := users } := by
  unfold resetUserPasswordBody at h
  simp only [bind_ok, Db.updateUser_ok, Db.commit_ok, pure_ok, Prod.mk.injEq] at h
  obtain ⟨u, hlock, -, -, _, ⟨users, hus, rfl⟩, _, ⟨rfl, -, -⟩, -, rfl, -⟩ := h
  obtain ⟨row, hc, hlive, hd⟩ := lockAuthorizedResetTarget_ok hlock
  have hid := Db.id_of_liveUser? hlive
  rw [hid] at hus
  exact ⟨row, u, hc, hlive, hd, _, users, hus, rfl⟩

theorem operatorResetBody_ok {lib : PasswordLibrary} {userId : Uuid}
    {password hash requestId : String} {now : Nat} {db db' : Db} {b : Bool} {rows : List AuditRow}
    (h : operatorResetBody lib userId password hash requestId now db = .ok (b, db', rows)) :
    ∃ u, db.liveUser? userId = some u ∧ u.isActive = true ∧ ∃ users,
      db.users.modify? userId (User.replacePassword hash true now) = .ok users ∧
      db' = { db with users := users } := by
  unfold operatorResetBody at h
  simp only [bind_ok, require_ok, orRaise_ok, Db.lockUsers_self, Option.filter_eq_some_iff,
    Db.updateUser_ok, Db.commit_ok, pure_ok, Prod.mk.injEq] at h
  obtain ⟨u, ⟨hu, ha⟩, -, -, -, -, -, -, -, -, _, ⟨users, hus, rfl⟩, _, ⟨rfl, -, -⟩, -, rfl, -⟩ := h
  have hid := Db.id_of_liveUser? hu
  rw [hid] at hus
  exact ⟨u, hu, ha, users, hus, rfl⟩

/-! ## operator scripts -/

theorem bootstrapBody_ok {candidateUserId : Uuid} {db db' : Db} {v : Unit} {rows : List AuditRow}
    (h : bootstrapBody candidateUserId db = .ok (v, db', rows)) :
    ∃ superRole candidate, db.roles.findBy? SystemRoleKey.superAdmin.value = some superRole ∧
      db.users.get? candidateUserId = some candidate ∧ candidate.isActive = true ∧
      candidate.deletedAt = none ∧
      ((db' = db ∧ db.userRoles.lefts superRole.id = [candidateUserId]) ∨
        (db.userRoles.lefts superRole.id = [] ∧
          (db.userRoles.rights candidateUserId).length < 10 ∧
          ∃ userRoles users,
            db.userRoles.linkAll? candidateUserId [superRole.id] = some userRoles ∧
            db.users.modify? candidateUserId User.bumpAuthz = .ok users ∧
            db' = { db with userRoles := userRoles, users := users }.bumpEpoch)) := by
  unfold bootstrapBody at h
  simp only [bind_ok, require_ok, orRaise_ok] at h
  obtain ⟨-, -, superRole, hs, userRole, hu, candidate, hc, -, ⟨ha, -, hdel⟩, -, -, -, -, -, -, -, -,
    -, -, -, hcount, -, hsame, h⟩ := h
  have hid : candidate.id = candidateUserId := Table.key_of_get? hc
  refine ⟨superRole, candidate, hs, hc, ha, hdel, ?_⟩
  split at h
  · rename_i hne
    simp only [pure_ok, Prod.mk.injEq] at h
    refine Or.inl ⟨h.2.1.symm, ?_⟩
    obtain ⟨x, l, hl⟩ := List.exists_cons_of_ne_nil hne
    have hlen : l = [] := by
      rw [hl, List.length_cons] at hcount
      exact List.eq_nil_of_length_eq_zero (by omega)
    have hx : x = candidate.id :=
      of_decide_eq_true (List.all_eq_true.mp hsame x (by rw [hl]; exact List.mem_cons_self))
    rw [hl, hlen, hx, hid]
  · rename_i hnil
    simp only [bind_ok, require_ok, Db.updateUser_ok, Db.commit_ok, pure_ok, Prod.mk.injEq, hid] at h
    obtain ⟨-, hlt, db₁, hassign, _, ⟨users, hus, rfl⟩, _, ⟨rfl, -, -⟩, -, rfl, -⟩ := h
    obtain ⟨userRoles, hl, -, -, rfl⟩ := Db.assignRoles_ok hassign
    exact Or.inr ⟨not_not.mp hnil, hlt, userRoles, users, hl, hus, rfl⟩

theorem handoverBody_ok {oldUserId newUserId : Uuid} {now : Nat} {db db' : Db} {v : Unit}
    {rows : List AuditRow} (h : handoverBody oldUserId newUserId now db = .ok (v, db', rows)) :
    ∃ superRole oldHolder newHolder, oldUserId ≠ newUserId ∧
      db.roles.findBy? SystemRoleKey.superAdmin.value = some superRole ∧
      db.users.get? oldUserId = some oldHolder ∧ oldHolder.isActive = true ∧
      db.users.get? newUserId = some newHolder ∧ newHolder.isActive = true ∧
      newHolder.deletedAt = none ∧
      db.userRoles.lefts superRole.id = [oldUserId] ∧
      (db.userRoles.rights newUserId).length < 10 ∧
      ∃ userRoles users,
        (db.userRoles.tombstone now
          (fun a => a.1 = oldUserId && a.2 = superRole.id)).linkAll? newUserId [superRole.id] =
            some userRoles ∧
        db.users.update? (fun u => u.id = oldUserId || u.id = newUserId) User.transfer =
          .ok users ∧
        db' = { db with userRoles := userRoles, users := users }.bumpEpoch := by
  unfold handoverBody at h
  simp only [bind_ok, require_ok, orRaise_ok, Db.updateUsers_ok, Db.commit_ok, pure_ok,
    Prod.mk.injEq] at h
  obtain ⟨-, hne, -, -, oldHolder, ho, newHolder, hn, -, ⟨hoa, -, hna, -, hnd⟩, superRole, hs, -, -, -,
    -, -, ⟨hlen, hlinked⟩, -, -, -, hlt, db₁, hassign, _, ⟨users, hus, rfl⟩, _, ⟨rfl, -, -⟩, -, rfl,
    -⟩ := h
  obtain ⟨userRoles, hl, -, -, rfl⟩ := Db.assignRoles_ok hassign
  refine ⟨superRole, oldHolder, newHolder, hne, hs, ho, hoa, hn, hna, hnd, ?_, hlt, userRoles, users,
    hl, hus, rfl⟩
  obtain ⟨x, hx⟩ := List.length_eq_one_iff.mp hlen
  have hmem : oldUserId ∈ db.userRoles.lefts superRole.id := Links.mem_lefts.mpr hlinked
  rw [hx, List.mem_singleton] at hmem
  rw [hx, hmem]

end PgRbac
