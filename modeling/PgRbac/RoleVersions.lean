import PgRbac.Predictions

/-!
# Optimistic concurrency on roles

A role and its permissions are read by separate statements, each with its own snapshot, so a
response can mix an old row with newer permissions.  The row is read first and every change of what
a response shows raises the row's version, so a response whose version is still current shows the
current role.

* `getRole`, `listRoles`     the reads, as functions of the snapshots of their statements;
* `Obtained`                 the responses that clients hold at a state of a run;
* `optimistic_roles`         a command that passes the version check locks the role that the
                             response shows, and of the commands with one version one changes it.
-/

set_option linter.unusedVariables false

namespace PgRbac

open Fallible Store Trace

variable {db db' : Db} {lib : PasswordLibrary}

/-! ## the reads -/

/-- `get_role`: `load_role_grant` reads the row again into the object of the first read
(`populate_existing`), and then the permissions -/
def getRole (actor : AuthoritySnapshot) (roleId : Uuid) (visibleRead rowRead keysRead : Db) :
    Except Failure RoleResponse := do
  let visible ← orRaise (visibleRead.loadVisibleRole actor roleId) (notFound "role_not_found")
  let role ← orRaise (rowRead.liveRole? visible.id) (notFound "role_not_found")
  pure (roleResponse role (keysRead.rolePermissionKeys visible.id))

/-- the items of `list_roles`; `order` is the index order `(key, id)` under the collation of the
database -/
def listRoles (actor : AuthoritySnapshot) (order : Role → Role → Bool) (page pageSize : Nat)
    (rowsRead keysRead : Db) : List RoleResponse :=
  let visible := rowsRead.roles.rows.filter (fun r => r.deletedAt.isNone && Db.visibleRole actor r)
  let roles := ((visible.mergeSort order).drop ((page - 1) * pageSize)).take pageSize
  roles.map (fun role => roleResponse role (keysRead.rolePermissionKeys role.id))

/-- a response shows a row and the permissions of a role, the row read no later -/
structure ShownBy (rowRead keysRead : Db) (response : RoleResponse) : Prop where
  shown : ∃ role, rowRead.roles.get? response.id = some role ∧
    response = roleResponse role (keysRead.rolePermissionKeys response.id)

theorem getRole_shown {actor : AuthoritySnapshot} {roleId : Uuid} {db₁ db₂ db₃ : Db}
    {response : RoleResponse} (h : getRole actor roleId db₁ db₂ db₃ = .ok response) :
    ShownBy db₂ db₃ response := by
  unfold getRole at h
  simp only [bind_ok, orRaise_ok, pure_ok] at h
  obtain ⟨visible, -, role, hr, rfl⟩ := h
  have hid := Db.id_of_liveRole? hr
  have hget := (Db.liveRole?_eq_some.mp hr).1
  rw [← hid] at hget ⊢
  exact ⟨role, hget, rfl⟩

theorem listRoles_shown {actor : AuthoritySnapshot} {order : Role → Role → Bool}
    {page pageSize : Nat} {db₁ db₂ : Db} {response : RoleResponse}
    (h : response ∈ listRoles actor order page pageSize db₁ db₂) : ShownBy db₁ db₂ response := by
  unfold listRoles at h
  obtain ⟨role, hm, rfl⟩ := List.mem_map.mp h
  have hsorted := List.mem_of_mem_drop (List.mem_of_mem_take hm)
  have hrow := List.mem_of_mem_filter (List.mem_mergeSort.mp hsorted)
  exact ⟨role, Table.mem_rows_iff.mp hrow, rfl⟩

theorem Reloads.shown {response : RoleResponse} (h : Reloads db (.role response)) :
    ShownBy db db response := by
  obtain ⟨role, grant, hr, hg, he⟩ := h
  unfold Db.loadRoleGrant at hg
  simp only [bind_ok, require_ok, orRaise_ok, pure_ok, if_true] at hg
  obtain ⟨role', hr', -, -, rfl⟩ := hg
  rw [hr, Option.some.injEq] at hr'
  subst hr'
  have hid : role.id = response.id := Table.key_of_get? hr
  refine ⟨role, hr, ?_⟩
  rw [← hid]
  exact he

/-! ## versions separate what responses show -/

/-- **a response whose version is still that of the role shows the role** -/
theorem ShownBy.current {rowRead keysRead now : Db} {response : RoleResponse} {role : Role}
    (h : ShownBy rowRead keysRead response) (h1 : Grows rowRead keysRead) (h2 : Grows keysRead now)
    (hr : now.roles.get? response.id = some role) (hv : role.version = response.version) :
    response = roleResponse role (now.rolePermissionKeys response.id) := by
  obtain ⟨shown, hshown, he⟩ := h.shown
  have hversion : response.version = shown.version := by rw [he]; rfl
  -- the row at the read of the permissions lies between the two
  obtain ⟨mid, hmid, hgrow⟩ := h1.roles _ _ hshown
  obtain ⟨last, hlast, hgrow'⟩ := h2.roles _ _ hmid
  rw [hr, Option.some.injEq] at hlast
  subst hlast
  have hle := hgrow.version
  have hle' := hgrow'.version
  obtain ⟨rfl, -⟩ := hgrow.same (by omega)
  obtain ⟨rfl, hkeys⟩ := hgrow'.same (by omega)
  rw [hkeys]
  exact he

/-! ## commands that name a version -/

/-- the role that a command is on, and the version that it expects -/
def Operation.expects? : Operation → Option (Uuid × Nat)
  | .updateRole _ r _ v => some (r, v)
  | .setRoleActive _ r _ v => some (r, v)
  | .softDeleteRole _ r v => some (r, v)
  | .changeRolePermissions _ r _ _ v => some (r, v)
  | _ => none

/-- what such a command locks before it compares the version -/
def Operation.lockRole (db : Db) : Operation → Except Failure LockedSharedRole
  | .updateRole c r _ _ => lockSharedRoleChange db c r .rolesUpdate true
  | .setRoleActive c r _ _ => lockSharedRoleChange db c r .rolesStatusUpdate true
  | .softDeleteRole c r _ => lockSharedRoleChange db c r .rolesDelete true
  | .changeRolePermissions c r _ o _ => lockSharedRoleChange db c r o.permissionsRequired false
  | _ => .error (notFound "role_not_found")

/-- the version check of such a command -/
def PassesVersionCheck (db : Db) (op : Operation) (roleId : Uuid) (expected : Nat)
    (locked : LockedSharedRole) : Prop :=
  op.expects? = some (roleId, expected) ∧ op.lockRole db = .ok locked ∧
    requireExpectedRoleVersion locked.role expected = .ok ()

theorem PassesVersionCheck.role {op : Operation} {roleId : Uuid} {expected : Nat}
    {locked : LockedSharedRole} (h : PassesVersionCheck db op roleId expected locked) :
    db.liveRole? roleId = some locked.role ∧ locked.role.version = expected := by
  obtain ⟨he, hl, hv⟩ := h
  refine ⟨?_, (require_ok _ _ _).mp hv⟩
  cases op with
  | updateRole c r q v =>
    cases he
    obtain ⟨row, hs⟩ := lockSharedRoleChange_ok hl
    exact hs.role
  | setRoleActive c r a v =>
    cases he
    obtain ⟨row, hs⟩ := lockSharedRoleChange_ok hl
    exact hs.role
  | softDeleteRole c r v =>
    cases he
    obtain ⟨row, hs⟩ := lockSharedRoleChange_ok hl
    exact hs.role
  | changeRolePermissions c r ids o v =>
    cases he
    obtain ⟨row, hs⟩ := lockSharedRoleChange_ok hl
    exact hs.role
  | _ => cases he

theorem passesVersionCheck_of_body {op : Operation} {now : Nat} {roleId : Uuid} {expected : Nat}
    (he : op.expects? = some (roleId, expected)) (h : op.body lib now db = .ok db') :
    ∃ locked, PassesVersionCheck db op roleId expected locked := by
  cases op with
  | updateRole c r q v =>
    cases he
    obtain ⟨⟨o, _⟩, ho, -⟩ := (map_ok _ _ _).mp h
    unfold updateRoleBody at ho
    simp only [bind_ok] at ho
    obtain ⟨locked, hlock, -, -, _, hv, -⟩ := ho
    exact ⟨locked, rfl, hlock, hv⟩
  | setRoleActive c r a v =>
    cases he
    obtain ⟨⟨o, _⟩, ho, -⟩ := (map_ok _ _ _).mp h
    unfold setRoleActiveBody at ho
    simp only [bind_ok] at ho
    obtain ⟨locked, hlock, -, -, _, hv, -⟩ := ho
    exact ⟨locked, rfl, hlock, hv⟩
  | softDeleteRole c r v =>
    cases he
    obtain ⟨⟨o, _⟩, ho, -⟩ := (map_ok _ _ _).mp h
    unfold softDeleteRoleBody at ho
    simp only [bind_ok] at ho
    obtain ⟨locked, hlock, -, -, _, hv, -⟩ := ho
    exact ⟨locked, rfl, hlock, hv⟩
  | changeRolePermissions c r ids o v =>
    cases he
    simp only [Operation.body] at h
    split at h
    · cases h
    · obtain ⟨⟨o, _⟩, ho, -⟩ := (map_ok _ _ _).mp h
      unfold changeRolePermissionsBody at ho
      simp only [bind_ok] at ho
      obtain ⟨locked, hlock, -, -, -, -, -, -, _, hv, -⟩ := ho
      exact ⟨locked, rfl, hlock, hv⟩
  | _ => cases he

/-- the row or the permissions of a role differ -/
def RoleChanged (db db' : Db) (id : Uuid) : Prop :=
  db'.roles.get? id ≠ db.roles.get? id ∨ db'.rolePermissionKeys id ≠ db.rolePermissionKeys id

theorem RoleChanged.newer (h : Grows db db') {id : Uuid} {r : Role}
    (hr : db.roles.get? id = some r) (hc : RoleChanged db db' id) :
    ∃ r', db'.roles.get? id = some r' ∧ r.version < r'.version := by
  obtain ⟨r', hr', hg⟩ := h.roles id r hr
  refine ⟨r', hr', lt_of_le_of_ne hg.version ?_⟩
  intro e
  obtain ⟨rfl, hk⟩ := hg.same e.symm
  rcases hc with hc | hc
  · exact hc (hr'.trans hr.symm)
  · exact hc hk

/-! ## runs -/

/-- the responses that a client holds once the run has reached a state -/
inductive Obtained (lib : PasswordLibrary) (st : Nat → Postgres) (lab : Nat → Call) :
    Nat → RoleResponse → Prop
  | got {h i k : Nat} {actor : AuthoritySnapshot} {roleId : Uuid} {response : RoleResponse} :
      h ≤ i → i ≤ k → getRole actor roleId (st h).db (st i).db (st k).db = .ok response →
        Obtained lib st lab k response
  | listed {i k : Nat} {actor : AuthoritySnapshot} {order : Role → Role → Bool}
      {page pageSize : Nat} {response : RoleResponse} :
      i ≤ k → response ∈ listRoles actor order page pageSize (st i).db (st k).db →
        Obtained lib st lab k response
  | answered {k : Nat} {response : RoleResponse} :
      Committed lib (st k) (lab k) (st (k + 1)) →
        (lab k).operation.roleResponse? (lab k).now (st k) = some response →
          Obtained lib st lab (k + 1) response

section
variable {st : Nat → Postgres} {lab : Nat → Call} {n : Nat}

theorem Obtained.shownBy (hrun : IsRun (system lib) st lab n) {k : Nat} {response : RoleResponse}
    (h : Obtained lib st lab k response) (hk : k ≤ n) :
    ∃ i ≤ k, ShownBy (st i).db (st k).db response := by
  cases h with
  | @got h i k actor roleId response hi hik hg => exact ⟨i, hik, getRole_shown hg⟩
  | @listed i k actor order page pageSize response hik hm => exact ⟨i, hik, listRoles_shown hm⟩
  | @answered k response hcom hr =>
    have hc := (reachable_standing (hrun.reachable (show k ≤ n by omega))).coherent
    exact ⟨k + 1, Nat.le_refl _, (response_reloads hc rfl hcom hr).shown⟩

/-- **optimistic concurrency on roles is sound**: a command that names the version of a response
locks the role as the response shows it, and of the commands that name one version of a role at
most one changes the role -/
theorem optimistic_roles (h : IsRun (system lib) st lab n) :
    (∀ k l response op locked, Obtained lib st lab k response → k ≤ l → l ≤ n →
      PassesVersionCheck (st l).db op response.id response.version locked →
        response = roleResponse locked.role ((st l).db.rolePermissionKeys response.id)) ∧
    ∀ k l roleId expected, k < n → l < n →
      (lab k).operation.expects? = some (roleId, expected) →
      (lab l).operation.expects? = some (roleId, expected) →
      Committed lib (st k) (lab k) (st (k + 1)) → Committed lib (st l) (lab l) (st (l + 1)) →
      RoleChanged (st k).db (st (k + 1)).db roleId →
      RoleChanged (st l).db (st (l + 1)).db roleId → k = l := by
  constructor
  · intro k l response op locked hob hkl hl hpass
    obtain ⟨i, hik, hshown⟩ := hob.shownBy h (hkl.trans hl)
    obtain ⟨hlive, hv⟩ := hpass.role
    exact hshown.current (run_grows h hik (hkl.trans hl)) (run_grows h hkl hl)
      (Db.liveRole?_eq_some.mp hlive).1 hv
  · -- the earlier of two changes leaves a newer version, which the later one does not expect
    have hlater : ∀ k l roleId expected, k < l → l < n →
        (lab k).operation.expects? = some (roleId, expected) →
        (lab l).operation.expects? = some (roleId, expected) →
        Committed lib (st k) (lab k) (st (k + 1)) → Committed lib (st l) (lab l) (st (l + 1)) →
        ¬ RoleChanged (st k).db (st (k + 1)).db roleId := by
      intro k l roleId expected hkl hl hek hel hck hcl hchanged
      obtain ⟨locked, hpass⟩ := passesVersionCheck_of_body hek hck.body
      obtain ⟨locked', hpass'⟩ := passesVersionCheck_of_body hel hcl.body
      obtain ⟨hr, hv⟩ := hpass.role
      obtain ⟨hr', hv'⟩ := hpass'.role
      obtain ⟨r, hnew, hlt⟩ := hchanged.newer (run_grows h (Nat.le_succ k) (by omega))
        (Db.liveRole?_eq_some.mp hr).1
      obtain ⟨r', hget, hgrow⟩ := (run_grows h (show k + 1 ≤ l from hkl) (by omega)).roles _ _ hnew
      rw [(Db.liveRole?_eq_some.mp hr').1, Option.some.injEq] at hget
      have hle := hgrow.version
      rw [← hget] at hle
      omega
    intro k l roleId expected hk hl hek hel hck hcl hchk hchl
    rcases Nat.lt_trichotomy k l with hlt | rfl | hlt
    · exact absurd hchk (hlater k l roleId expected hlt hl hek hel hck hcl)
    · rfl
    · exact absurd hchl (hlater l k roleId expected hlt hk hel hek hcl hck)

/-- a role is read, its row first, while its permissions change; the response is refused later -/
def overlapping : Nat → Call :=
  script [signUp "alice" alice, .bootstrap alice,
    .createRole (bearer alice 0) carol ⟨"editor", "Editor", "", 300⟩,
    .updateRole (bearer alice 0) carol ⟨some "Author", none⟩ 0,
    .changeRolePermissions (bearer alice 0) carol [permissionId .projectsRead] .bind 1]

theorem optimistic_roles_overlapping :
    ∃ response locked,
      Obtained sampleLibrary (states sampleLibrary overlapping) overlapping 4 response ∧
      PassesVersionCheck (states sampleLibrary overlapping 4).db (overlapping 4).operation carol 1
        locked ∧
      response = roleResponse locked.role
        ((states sampleLibrary overlapping 4).db.rolePermissionKeys carol) := by
  have hrun := isRun_states sampleLibrary overlapping 5
  have hcom : ((overlapping 4).operation.run sampleLibrary 4
      (states sampleLibrary overlapping 4)).1 = .ok () := by decide +kernel
  have hbody := Committed.body (Prod.ext hcom rfl : Committed sampleLibrary _ (overlapping 4)
    (states sampleLibrary overlapping 5))
  obtain ⟨locked, hpass⟩ : ∃ locked, PassesVersionCheck (states sampleLibrary overlapping 4).db
      (overlapping 4).operation carol 1 locked := passesVersionCheck_of_body rfl hbody
  let reader := AuthoritySnapshot.build alice true false 0 0
    [⟨alice, "reader", 500, ∅, false, false, false⟩]
  have hread : (getRole reader carol (states sampleLibrary overlapping 3).db
      (states sampleLibrary overlapping 4).db (states sampleLibrary overlapping 4).db).toOption.map
        (fun r => (r.id, r.version)) = some (carol, 1) := by decide +kernel
  cases hr : getRole reader carol (states sampleLibrary overlapping 3).db
      (states sampleLibrary overlapping 4).db (states sampleLibrary overlapping 4).db with
  | error e =>
    rw [hr] at hread
    cases hread
  | ok response =>
    rw [hr] at hread
    obtain ⟨hid, hv⟩ := Prod.mk.inj (Option.some.inj hread)
    have hob : Obtained sampleLibrary (states sampleLibrary overlapping) overlapping 4 response :=
      .got (by omega) (Nat.le_refl 4) hr
    have h := (optimistic_roles hrun).1 4 4 response (overlapping 4).operation locked hob
      (Nat.le_refl 4) (by omega) (by rw [hid, hv]; exact hpass)
    rw [hid] at h
    exact ⟨response, locked, hob, hpass, h⟩

end

end PgRbac
