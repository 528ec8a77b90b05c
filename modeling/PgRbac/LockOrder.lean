import PgRbac.Access
import PgRbac.Lib.Locks

/-!
# The lock order of the writers

Every writer of authority takes the single `rbac_state` row first; users, roles and relationship
rows follow.  Besides the explicit `FOR UPDATE`, a statement locks the rows that it writes, the rows
that its foreign keys refer to, and what its triggers ask for: writes on `user_roles` request the
`rbac_state` row before the statement, writes on `users` and `user_roles` request it again at commit.

* `Statement.requests`, `Statement.deferred`    the locks of a statement, and those of its deferred
                        constraint triggers;
* `Writer`, `Writer.statements`    the transactions of the application and of the operator;
* `InOrder`             the canonical order;
* `Orderly`             what a set of concurrent transactions should satisfy;
* `orderly_iff`         it does exactly when no login rewrites its password hash.
-/

set_option linter.unusedVariables false

namespace PgRbac

open Trace Locks

/-! ## rows and locks -/

inductive Row where
  | rbacState
  | user (id : Uuid)
  | role (id : Uuid)
  | permission (id : Uuid)
  | rolePermission (roleId permissionId : Uuid)
  | userRole (userId roleId : Uuid)
  deriving DecidableEq

/-- `FOR UPDATE`, the lock of an `UPDATE` that leaves the keys alone, and the lock that a foreign
key takes on the row it refers to -/
inductive LockMode where
  | forUpdate | forNoKeyUpdate | forKeyShare
  deriving DecidableEq

def LockMode.conflict : LockMode → LockMode → Bool
  | .forUpdate, _ => true
  | _, .forUpdate => true
  | .forNoKeyUpdate, .forNoKeyUpdate => true
  | _, _ => false

structure RowLock where
  row : Row
  mode : LockMode
  deriving DecidableEq

def RowLock.Conflict (a b : RowLock) : Prop := a.row = b.row ∧ a.mode.conflict b.mode = true

/-! ## statements -/

inductive Statement where
  | selectForUpdate (rows : List Row)
  | updateRbacState
  | insertUser (id : Uuid)
  | updateUsers (ids : List Uuid)
  | insertRole (id : Uuid)
  | updateRole (id : Uuid) (deletedBy : Option Uuid)
  | insertUserRoles (userId : Uuid) (roleIds : List Uuid) (assignedBy : Option Uuid)
  | updateUserRoles (assignments : List (Uuid × Uuid)) (deletedBy : Uuid)
  | insertRolePermissions (roleId : Uuid) (permissionIds : List Uuid) (assignedBy : Uuid)
  | updateRolePermissions (roleId : Uuid) (permissionIds : List Uuid) (deletedBy : Uuid)

/-- the check of a foreign key to `users` -/
def referenceUser (id : Option Uuid) : List RowLock :=
  match id with
  | some u => [⟨.user u, .forKeyShare⟩]
  | none => []

/-- the request of `assert_user_has_base_role` and its siblings, and of
`lock_rbac_state_before_user_roles_write` -/
def guardRequest : RowLock := ⟨.rbacState, .forUpdate⟩

namespace Statement

/-- the locks that a statement requests while it runs; an inserted row is seen by nobody else -/
def requests : Statement → List RowLock
  | selectForUpdate rows => rows.map (⟨·, .forUpdate⟩)
  | updateRbacState => [⟨.rbacState, .forNoKeyUpdate⟩]
  | insertUser _ => []
  | updateUsers ids => ids.map (⟨.user ·, .forNoKeyUpdate⟩)
  | insertRole _ => []
  | updateRole id deletedBy => ⟨.role id, .forNoKeyUpdate⟩ :: referenceUser deletedBy
  | insertUserRoles userId roleIds assignedBy =>
    guardRequest :: roleIds.flatMap fun r =>
      ⟨.user userId, .forKeyShare⟩ :: ⟨.role r, .forKeyShare⟩ :: referenceUser assignedBy
  | updateUserRoles assignments deletedBy =>
    guardRequest :: assignments.flatMap fun a =>
      ⟨.userRole a.1 a.2, .forNoKeyUpdate⟩ :: referenceUser (some deletedBy)
  | insertRolePermissions roleId permissionIds assignedBy =>
    permissionIds.flatMap fun p =>
      ⟨.role roleId, .forKeyShare⟩ :: ⟨.permission p, .forKeyShare⟩ ::
        referenceUser (some assignedBy)
  | updateRolePermissions roleId permissionIds deletedBy =>
    permissionIds.flatMap fun p =>
      ⟨.rolePermission roleId p, .forNoKeyUpdate⟩ :: referenceUser (some deletedBy)

/-- the locks that its deferred constraint triggers request at commit -/
def deferred : Statement → List RowLock
  | insertUser _ => [guardRequest]
  | updateUsers ids => ids.map fun _ => guardRequest
  | insertUserRoles _ roleIds _ => roleIds.flatMap fun _ => [guardRequest, guardRequest, guardRequest]
  | updateUserRoles assignments _ =>
    assignments.flatMap fun _ => [guardRequest, guardRequest, guardRequest]
  | _ => []

end Statement

/-- the lock requests of a transaction that commits -/
def requestsOf (statements : List Statement) : List RowLock :=
  statements.flatMap Statement.requests ++ statements.flatMap Statement.deferred

/-! ## the writers -/

section
open Statement

def lockRbacState : Statement := selectForUpdate [.rbacState]

def lockUsersStatement (ids : List Uuid) : Statement :=
  selectForUpdate ((sortIds ids.dedup).map .user)

def lockRolesStatement (ids : List Uuid) : Statement :=
  selectForUpdate ((sortIds ids.dedup).map .role)

def lockActorAndTarget (actor target : Uuid) (assigned additional : List Uuid) : List Statement :=
  [lockRbacState, lockUsersStatement [actor, target], lockRolesStatement (assigned ++ additional)]

def lockSharedRole (actor role : Uuid) (holders assigned grants : List Uuid) : List Statement :=
  [lockRbacState, lockUsersStatement (actor :: holders), lockRolesStatement (assigned ++ [role]),
    selectForUpdate (grants.map (.rolePermission role))]

def bumpShared (role : Uuid) (holders : List Uuid) : List Statement :=
  [Statement.updateRole role none, updateUsers holders, updateRbacState]

/-- `create_user_with_default_role` -/
def provision (userId userRole : Uuid) (assignedBy : Option Uuid) : List Statement :=
  lockRbacState :: (assignedBy.toList.map fun a => lockUsersStatement [a]) ++
    [insertUser userId, lockRolesStatement [userRole],
      insertUserRoles userId [userRole] assignedBy, updateRbacState]

end

/-- a transaction, with the ids that it reads on its way: whatever it read, the locks are these -/
inductive Writer where
  | updateUserStatus (actor target : Uuid) (assigned : List Uuid) (changed : Bool)
  | revokeUserSessions (actor target : Uuid) (assigned : List Uuid)
  | changeUserRoles (actor target : Uuid) (assigned requested existing : List Uuid)
      (operation : RoleOperation)
  | createRole (actor : Uuid) (assigned : List Uuid) (roleId : Uuid)
  | updateRole (actor role : Uuid) (holders assigned grants : List Uuid) (changed : Bool)
  | setRoleActive (actor role : Uuid) (holders assigned grants : List Uuid) (changed : Bool)
  | softDeleteRole (actor role : Uuid) (holders assigned grants assignees : List Uuid)
  | changeRolePermissions (actor role : Uuid) (holders assigned grants permissionIds : List Uuid)
      (operation : RoleOperation) (changed : Bool)
  | setRegistrationEnabled (actor : Uuid) (changed : Bool)
  | register (userId userRole : Uuid)
  | createUserByAdministrator (actor userId userRole : Uuid)
  /-- the first locked transaction of a login or of the verification of a temporary password; with
  `rehash` it writes the upgraded hash.  The second one never writes -/
  | login (userId : Uuid) (rehash : Bool)
  | changePassword (actor : Uuid)
  | completePasswordReset (userId : Uuid)
  | resetUserPassword (actor target : Uuid)
  | operatorReset (userId : Uuid)
  | bootstrap (candidate superRole userRole : Uuid) (holders : List Uuid)
      (grants assignments : List (Uuid × Uuid)) (assign : Bool)
  | handover (oldUser newUser superRole userRole : Uuid) (assignments : List (Uuid × Uuid))

namespace Writer
open Statement

/-- the statements of a writer that commits; one that fails has sent a prefix of them -/
def statements : Writer → List Statement
  | updateUserStatus actor target assigned changed =>
    lockActorAndTarget actor target assigned [] ++
      if changed then [updateUsers [target], updateRbacState] else []
  | revokeUserSessions actor target assigned =>
    lockActorAndTarget actor target assigned [] ++ [updateUsers [target]]
  | changeUserRoles actor target assigned requested existing operation =>
    let changed := operation.changedIds requested existing
    lockActorAndTarget actor target assigned requested ++
      if changed = [] then [] else
        (match operation with
          | .bind => insertUserRoles target changed (some actor)
          | .unbind => updateUserRoles (changed.map (target, ·)) actor) ::
        [updateUsers [target], updateRbacState]
  | createRole actor assigned roleId =>
    [lockRbacState, lockUsersStatement [actor], lockRolesStatement assigned, insertRole roleId,
      updateRbacState]
  | updateRole actor role holders assigned grants changed =>
    lockSharedRole actor role holders assigned grants ++
      if changed then [Statement.updateRole role none, updateRbacState] else []
  | setRoleActive actor role holders assigned grants changed =>
    lockSharedRole actor role holders assigned grants ++
      if changed then bumpShared role holders else []
  | softDeleteRole actor role holders assigned grants assignees =>
    lockSharedRole actor role holders assigned grants ++
      [Statement.updateRole role (some actor), updateUserRoles (assignees.map (·, role)) actor,
        updateRolePermissions role grants actor] ++ bumpShared role holders
  | changeRolePermissions actor role holders assigned grants permissionIds operation changed =>
    lockSharedRole actor role holders assigned grants ++
      if changed then
        (match operation with
          | .bind => insertRolePermissions role permissionIds actor
          | .unbind => updateRolePermissions role permissionIds actor) :: bumpShared role holders
      else []
  | setRegistrationEnabled actor changed =>
    [lockRbacState, lockUsersStatement [actor]] ++ if changed then [updateRbacState] else []
  | register userId userRole =>
    lockRbacState :: provision userId userRole none ++ [updateUsers [userId]]
  | createUserByAdministrator actor userId userRole =>
    [lockRbacState, lockUsersStatement [actor]] ++ provision userId userRole (some actor) ++
      [updateUsers [userId]]
  | login userId rehash =>
    lockUsersStatement [userId] :: if rehash then [updateUsers [userId]] else []
  | changePassword actor => [lockRbacState, lockUsersStatement [actor], updateUsers [actor]]
  | completePasswordReset userId =>
    [lockRbacState, lockUsersStatement [userId], updateUsers [userId]]
  | resetUserPassword actor target =>
    [lockRbacState, lockUsersStatement [actor, target], updateUsers [target]]
  | operatorReset userId => [lockRbacState, lockUsersStatement [userId], updateUsers [userId]]
  | bootstrap candidate superRole userRole holders grants assignments assign =>
    [lockRbacState, lockUsersStatement (candidate :: holders),
      lockRolesStatement [superRole, userRole],
      selectForUpdate (grants.map fun g => .rolePermission g.1 g.2),
      selectForUpdate (assignments.map fun a => .userRole a.1 a.2)] ++
      if assign then
        [insertUserRoles candidate [superRole] none, updateUsers [candidate], updateRbacState]
      else []
  | handover oldUser newUser superRole userRole assignments =>
    [lockRbacState, lockUsersStatement [oldUser, newUser], selectForUpdate [.role superRole],
      selectForUpdate [.role userRole],
      selectForUpdate (assignments.map fun a => .userRole a.1 a.2),
      updateUserRoles [(oldUser, superRole)] oldUser,
      insertUserRoles newUser [superRole] (some oldUser), updateUsers [oldUser, newUser],
      updateRbacState]

def requests (w : Writer) : List RowLock := requestsOf w.statements

def own : Writer → List Row
  | register userId _ => [.user userId]
  | createUserByAdministrator _ userId _ => [.user userId]
  | createRole _ _ roleId => [.role roleId]
  | _ => []

end Writer

/-! ## the canonical order -/

/-- `rbac_state`, then users, then roles, then relationship rows -/
def Row.rank : Row → Nat
  | rbacState => 0
  | user _ => 1
  | role _ => 2
  | permission _ => 3
  | rolePermission _ _ => 3
  | userRole _ _ => 3

/-- users among themselves by id, other rows by their class -/
def Row.notAfter : Row → Row → Prop
  | user u, user v => u ≤ v
  | a, b => a.rank ≤ b.rank

/-- every row, when it is first requested, is not before any row that is held already; the rows
that a transaction inserted are its own -/
def InOrder (own held : List Row) : List Row → Prop
  | [] => True
  | r :: rs => (r ∈ own ∨ r ∈ held ∨ ∀ h ∈ held, h.notAfter r) ∧ InOrder own (r :: held) rs

/-! ## writers keep the order -/

section
variable {own held : List Row}

theorem inOrder_append {xs ys : List Row} :
    InOrder own held (xs ++ ys) ↔ InOrder own held xs ∧ InOrder own (xs.reverse ++ held) ys := by
  induction xs generalizing held with
  | nil => simp [InOrder]
  | cons x xs ih =>
    rw [List.cons_append, InOrder, InOrder, ih, and_assoc, List.reverse_cons, List.append_assoc]
    rfl

theorem Row.notAfter_relation (a : Row) {b : Row} (hb : b.rank = 3) : a.notAfter b := by
  cases b <;> cases hb <;> cases a <;> simp [Row.notAfter, Row.rank]

theorem inOrder_rest {rows : List Row}
    (h : ∀ r ∈ rows, r.rank = 3 ∨ r ∈ own ∨ r ∈ held) : InOrder own held rows := by
  induction rows generalizing held with
  | nil => trivial
  | cons r rs ih =>
    refine ⟨?_, ih ?_⟩
    · rcases h r List.mem_cons_self with h3 | ho | hh
      · exact Or.inr (Or.inr fun a _ => a.notAfter_relation h3)
      · exact Or.inl ho
      · exact Or.inr (Or.inl hh)
    · intro x hx
      rcases h x (List.mem_cons_of_mem _ hx) with h3 | ho | hh
      · exact Or.inl h3
      · exact Or.inr (Or.inl ho)
      · exact Or.inr (Or.inr (List.mem_cons_of_mem _ hh))

theorem inOrder_users {ids : List Uuid} (hs : ids.Pairwise (· ≤ ·))
    (h : ∀ r ∈ held, r = .rbacState ∨ ∃ u, r = .user u ∧ ∀ v ∈ ids, u ≤ v) :
    InOrder own held (ids.map .user) := by
  induction ids generalizing held with
  | nil => trivial
  | cons u us ih =>
    obtain ⟨hu, hus⟩ := List.pairwise_cons.mp hs
    refine ⟨Or.inr (Or.inr ?_), ih hus ?_⟩
    · intro r hr
      rcases h r hr with rfl | ⟨w, rfl, hw⟩
      · simp [Row.notAfter, Row.rank]
      · exact hw u List.mem_cons_self
    · intro r hr
      rcases List.mem_cons.mp hr with rfl | hr
      · exact Or.inr ⟨u, rfl, hu⟩
      · rcases h r hr with rfl | ⟨w, rfl, hw⟩
        · exact Or.inl rfl
        · exact Or.inr ⟨w, rfl, fun v hv => hw v (List.mem_cons_of_mem _ hv)⟩

theorem inOrder_roles {ids : List Uuid} (h : ∀ r ∈ held, r.rank ≤ 2) :
    InOrder own held (ids.map .role) := by
  induction ids generalizing held with
  | nil => trivial
  | cons x xs ih =>
    refine ⟨Or.inr (Or.inr ?_), ih ?_⟩
    · intro r hr
      have hr := h r hr
      cases r <;> simp_all [Row.notAfter, Row.rank]
    · intro r hr
      rcases List.mem_cons.mp hr with rfl | hr
      · simp [Row.rank]
      · exact h r hr

/-- a row that needs no place of its own in the order: a relationship row, a row of the writer, or
one that it has locked already -/
def Settled (own : List Row) (users roles : List Uuid) (r : Row) : Prop :=
  r.rank = 3 ∨ r ∈ own ∨ r = .rbacState ∨ (∃ u ∈ users, r = .user u) ∨ ∃ x ∈ roles, r = .role x

/-- **the shape of a guarded writer**: the guard, users by id, roles, and then settled rows only -/
theorem inOrder_guarded {users roles : List Uuid} {rest : List Row}
    (hrest : ∀ r ∈ rest, Settled own users roles r) :
    InOrder own [] (.rbacState :: ((sortIds users.dedup).map .user ++ (roles.map .role ++ rest))) := by
  have hsorted : (sortIds users.dedup).Pairwise (· ≤ ·) := List.pairwise_insertionSort _ _
  refine ⟨Or.inr (Or.inr (by simp)), ?_⟩
  rw [inOrder_append, inOrder_append]
  refine ⟨inOrder_users hsorted ?_, inOrder_roles ?_, inOrder_rest ?_⟩
  · intro r hr
    exact Or.inl (List.mem_singleton.mp hr)
  · intro r hr
    rcases List.mem_append.mp hr with hr | hr
    · obtain ⟨u, -, rfl⟩ := List.mem_map.mp (List.mem_reverse.mp hr)
      simp [Row.rank]
    · rw [List.mem_singleton.mp hr]
      simp [Row.rank]
  · intro r hr
    rcases hrest r hr with h3 | ho | rfl | ⟨u, hu, rfl⟩ | ⟨x, hx, rfl⟩
    · exact Or.inl h3
    · exact Or.inr (Or.inl ho)
    · simp
    · simp [hu]
    · simp [hx]

end

/-- the rows that the statements of a transaction request, in order -/
def rowsOf (statements : List Statement) : List Row := (requestsOf statements).map RowLock.row

theorem rowsOf_guarded (users roles : List Uuid) (tail : List Statement) :
    rowsOf (lockRbacState :: lockUsersStatement users :: .selectForUpdate (roles.map .role) :: tail) =
      .rbacState :: ((sortIds users.dedup).map .user ++ (roles.map .role ++ rowsOf tail)) := by
  simp [rowsOf, requestsOf, lockRbacState, lockUsersStatement, Statement.requests,
    Statement.deferred, Function.comp_def]

def SettledStatement (own : List Row) (users roles : List Uuid) (st : Statement) : Prop :=
  ∀ l ∈ st.requests ++ st.deferred, Settled own users roles l.row

theorem inOrder_statements {own : List Row} (users roles : List Uuid) {tail : List Statement}
    (h : ∀ st ∈ tail, SettledStatement own users roles st) :
    InOrder own []
      (rowsOf (lockRbacState :: lockUsersStatement users :: .selectForUpdate (roles.map .role) :: tail))
      := by
  rw [rowsOf_guarded]
  refine inOrder_guarded ?_
  intro r hr
  obtain ⟨l, hl, rfl⟩ := List.mem_map.mp hr
  rcases List.mem_append.mp hl with hl | hl
  · obtain ⟨st, hst, hm⟩ := List.mem_flatMap.mp hl
    exact h st hst l (List.mem_append_left _ hm)
  · obtain ⟨st, hst, hm⟩ := List.mem_flatMap.mp hl
    exact h st hst l (List.mem_append_right _ hm)

section
variable {own : List Row} {users roles : List Uuid}

@[simp] theorem settled_rbacState : Settled own users roles .rbacState :=
  Or.inr (Or.inr (Or.inl rfl))

theorem settled_user {u : Uuid} (h : u ∈ users ∨ .user u ∈ own) : Settled own users roles (.user u) := by
  rcases h with h | h
  · exact Or.inr (Or.inr (Or.inr (Or.inl ⟨u, h, rfl⟩)))
  · exact Or.inr (Or.inl h)

theorem settled_role {x : Uuid} (h : x ∈ roles) : Settled own users roles (.role x) :=
  Or.inr (Or.inr (Or.inr (Or.inr ⟨x, h, rfl⟩)))

theorem settled_relation {r : Row} (h : r.rank = 3) : Settled own users roles r := Or.inl h

theorem settled_reference {u : Option Uuid} (h : ∀ a ∈ u, a ∈ users) :
    ∀ l ∈ referenceUser u, Settled own users roles l.row := by
  intro l hl
  cases u with
  | none => cases hl
  | some a =>
    rw [List.mem_singleton.mp hl]
    exact settled_user (Or.inl (h a rfl))

theorem settled_updateRbacState : SettledStatement own users roles .updateRbacState := by
  intro l hl
  rw [List.mem_singleton.mp hl]
  exact settled_rbacState

theorem settled_updateUsers {ids : List Uuid} (h : ∀ u ∈ ids, u ∈ users ∨ .user u ∈ own) :
    SettledStatement own users roles (.updateUsers ids) := by
  intro l hl
  rcases List.mem_append.mp hl with hl | hl
  · obtain ⟨u, hu, rfl⟩ := List.mem_map.mp hl
    exact settled_user (h u hu)
  · obtain ⟨u, hu, rfl⟩ := List.mem_map.mp hl
    exact settled_rbacState

theorem settled_select {rows : List Row} (h : ∀ r ∈ rows, r.rank = 3) :
    SettledStatement own users roles (.selectForUpdate rows) := by
  intro l hl
  rcases List.mem_append.mp hl with hl | hl
  · obtain ⟨r, hr, rfl⟩ := List.mem_map.mp hl
    exact settled_relation (h r hr)
  · cases hl

theorem settled_updateRole {id : Uuid} {by' : Option Uuid} (hid : id ∈ roles)
    (hby : ∀ a ∈ by', a ∈ users) : SettledStatement own users roles (.updateRole id by') := by
  intro l hl
  rcases List.mem_append.mp hl with hl | hl
  · rcases List.mem_cons.mp hl with rfl | hl
    · exact settled_role hid
    · exact settled_reference hby l hl
  · cases hl

theorem settled_deferred {α : Type} {xs : List α} :
    ∀ l ∈ xs.flatMap (fun _ => [guardRequest, guardRequest, guardRequest]),
      Settled own users roles l.row := by
  intro l hl
  obtain ⟨x, -, hm⟩ := List.mem_flatMap.mp hl
  have e : l = guardRequest := by simpa using hm
  rw [e]
  exact settled_rbacState

theorem settled_insertUserRoles {u : Uuid} {ids : List Uuid} {by' : Option Uuid}
    (hu : u ∈ users ∨ .user u ∈ own) (hids : ∀ r ∈ ids, r ∈ roles) (hby : ∀ a ∈ by', a ∈ users) :
    SettledStatement own users roles (.insertUserRoles u ids by') := by
  intro l hl
  rcases List.mem_append.mp hl with hl | hl
  · rcases List.mem_cons.mp hl with rfl | hl
    · exact settled_rbacState
    · obtain ⟨r, hr, hm⟩ := List.mem_flatMap.mp hl
      rcases List.mem_cons.mp hm with rfl | hm
      · exact settled_user hu
      · rcases List.mem_cons.mp hm with rfl | hm
        · exact settled_role (hids r hr)
        · exact settled_reference hby l hm
  · exact settled_deferred l hl

theorem settled_updateUserRoles {as : List (Uuid × Uuid)} {by' : Uuid} (hby : by' ∈ users) :
    SettledStatement own users roles (.updateUserRoles as by') := by
  intro l hl
  rcases List.mem_append.mp hl with hl | hl
  · rcases List.mem_cons.mp hl with rfl | hl
    · exact settled_rbacState
    · obtain ⟨a, ha, hm⟩ := List.mem_flatMap.mp hl
      rcases List.mem_cons.mp hm with rfl | hm
      · exact settled_relation rfl
      · exact settled_reference (by simpa using hby) l hm
  · exact settled_deferred l hl

theorem settled_insertRolePermissions {x by' : Uuid} {ps : List Uuid} (hx : x ∈ roles)
    (hby : by' ∈ users) : SettledStatement own users roles (.insertRolePermissions x ps by') := by
  intro l hl
  rcases List.mem_append.mp hl with hl | hl
  · obtain ⟨p, hp, hm⟩ := List.mem_flatMap.mp hl
    rcases List.mem_cons.mp hm with rfl | hm
    · exact settled_role hx
    · rcases List.mem_cons.mp hm with rfl | hm
      · exact settled_relation rfl
      · exact settled_reference (by simpa using hby) l hm
  · cases hl

theorem settled_updateRolePermissions {x by' : Uuid} {ps : List Uuid} (hby : by' ∈ users) :
    SettledStatement own users roles (.updateRolePermissions x ps by') := by
  intro l hl
  rcases List.mem_append.mp hl with hl | hl
  · obtain ⟨p, hp, hm⟩ := List.mem_flatMap.mp hl
    rcases List.mem_cons.mp hm with rfl | hm
    · exact settled_relation rfl
    · exact settled_reference (by simpa using hby) l hm
  · cases hl

theorem settled_insert {id : Uuid} : SettledStatement own users roles (.insertRole id) := by
  intro l hl
  cases hl

end

theorem inOrder_unroled {own : List Row} (users : List Uuid) {tail : List Statement}
    (h : ∀ st ∈ tail, SettledStatement own users [] st) :
    InOrder own [] (rowsOf (lockRbacState :: lockUsersStatement users :: tail)) := by
  have hrows : rowsOf (lockRbacState :: lockUsersStatement users :: tail) =
      rowsOf (lockRbacState :: lockUsersStatement users :: .selectForUpdate ([].map .role) :: tail) := by
    simp [rowsOf, requestsOf, Statement.requests, Statement.deferred]
  rw [hrows]
  exact inOrder_statements users [] h

theorem settled_bumpShared {own : List Row} {actor role : Uuid} {holders roles : List Uuid}
    (hrole : role ∈ roles) :
    ∀ st ∈ bumpShared role holders, SettledStatement own (actor :: holders) roles st := by
  intro st hst
  simp only [bumpShared, List.mem_cons, List.not_mem_nil, or_false] at hst
  rcases hst with rfl | rfl | rfl
  · exact settled_updateRole hrole (by simp)
  · exact settled_updateUsers (fun u hu => Or.inl (List.mem_cons_of_mem _ hu))
  · exact settled_updateRbacState

theorem inOrder_sharedRole {actor role : Uuid} {holders assigned grants : List Uuid}
    {tail : List Statement}
    (h : ∀ st ∈ tail, SettledStatement [] (actor :: holders)
      (sortIds (assigned ++ [role]).dedup) st) :
    InOrder [] [] (rowsOf (lockSharedRole actor role holders assigned grants ++ tail)) := by
  refine inOrder_statements (actor :: holders) (sortIds (assigned ++ [role]).dedup) ?_
  show ∀ st ∈ _ :: tail, _
  refine List.forall_mem_cons.mpr ⟨settled_select ?_, h⟩
  intro r hr
  obtain ⟨p, -, rfl⟩ := List.mem_map.mp hr
  rfl

theorem inOrder_target {actor target : Uuid} {assigned additional : List Uuid}
    {tail : List Statement}
    (h : ∀ st ∈ tail, SettledStatement [] [actor, target]
      (sortIds (assigned ++ additional).dedup) st) :
    InOrder [] [] (rowsOf (lockActorAndTarget actor target assigned additional ++ tail)) :=
  inOrder_statements [actor, target] (sortIds (assigned ++ additional).dedup) h

theorem Writer.inOrder {w : Writer} (hw : ∀ u, w ≠ .login u true) :
    InOrder w.own [] (rowsOf w.statements) := by
  cases w with
  | updateUserStatus actor target assigned changed =>
    refine inOrder_target ?_
    cases changed with
    | false => simp
    | true =>
      simp only [ite_true, List.forall_mem_cons]
      exact ⟨settled_updateUsers (by simp), settled_updateRbacState, by simp⟩
  | revokeUserSessions actor target assigned =>
    refine inOrder_target ?_
    simpa using settled_updateUsers (by simp)
  | changeUserRoles actor target assigned requested existing operation =>
    refine inOrder_target ?_
    split
    · simp
    · rw [List.forall_mem_cons, List.forall_mem_cons, List.forall_mem_singleton]
      refine ⟨?_, settled_updateUsers (by simp), settled_updateRbacState⟩
      cases operation with
      | bind =>
        refine settled_insertUserRoles (Or.inl (by simp)) ?_ (by simp)
        intro r hr
        have hr' : r ∈ requested := List.mem_of_mem_filter hr
        simp [hr']
      | unbind => exact settled_updateUserRoles (by simp)
  | createRole actor assigned roleId =>
    refine inOrder_statements [actor] (sortIds assigned.dedup) ?_
    rw [List.forall_mem_cons, List.forall_mem_singleton]
    exact ⟨settled_insert, settled_updateRbacState⟩
  | updateRole actor role holders assigned grants changed =>
    refine inOrder_sharedRole ?_
    cases changed with
    | false => simp
    | true =>
      simp only [ite_true, List.forall_mem_cons]
      exact ⟨settled_updateRole (by simp) (by simp), settled_updateRbacState, by simp⟩
  | setRoleActive actor role holders assigned grants changed =>
    refine inOrder_sharedRole ?_
    cases changed with
    | false => simp
    | true => exact settled_bumpShared (by simp)
  | softDeleteRole actor role holders assigned grants assignees =>
    show InOrder [] [] (rowsOf (lockSharedRole actor role holders assigned grants ++ _ ++ _))
    rw [List.append_assoc]
    refine inOrder_sharedRole ?_
    simp only [List.cons_append, List.nil_append, List.forall_mem_cons]
    exact ⟨settled_updateRole (by simp) (by simp), settled_updateUserRoles (by simp),
      settled_updateRolePermissions (by simp), settled_bumpShared (by simp)⟩
  | changeRolePermissions actor role holders assigned grants permissionIds operation changed =>
    refine inOrder_sharedRole ?_
    cases changed with
    | false => simp
    | true =>
      simp only [ite_true, List.forall_mem_cons]
      refine ⟨?_, settled_bumpShared (by simp)⟩
      cases operation with
      | bind => exact settled_insertRolePermissions (by simp) (by simp)
      | unbind => exact settled_updateRolePermissions (by simp)
  | setRegistrationEnabled actor changed =>
    refine inOrder_unroled [actor] ?_
    cases changed with
    | false => simp
    | true => simpa using settled_updateRbacState
  | register userId userRole =>
    simp [Writer.own, Writer.statements, provision, rowsOf, requestsOf, lockRbacState,
      lockRolesStatement, Statement.requests, Statement.deferred, InOrder, guardRequest,
      referenceUser, sortIds, Row.notAfter, Row.rank]
  | createUserByAdministrator actor userId userRole =>
    simp [Writer.own, Writer.statements, provision, rowsOf, requestsOf, lockRbacState,
      lockUsersStatement, lockRolesStatement, Statement.requests, Statement.deferred, InOrder,
      guardRequest, referenceUser, sortIds, Row.notAfter, Row.rank]
  | login userId rehash =>
    cases rehash with
    | true => exact absurd rfl (hw userId)
    | false =>
      simp [Writer.statements, rowsOf, requestsOf, lockUsersStatement, Statement.requests,
        Statement.deferred, InOrder, sortIds]
  | changePassword actor =>
    refine inOrder_unroled [actor] ?_
    simpa using settled_updateUsers (by simp)
  | completePasswordReset userId =>
    refine inOrder_unroled [userId] ?_
    simpa using settled_updateUsers (by simp)
  | resetUserPassword actor target =>
    refine inOrder_unroled [actor, target] ?_
    simpa using settled_updateUsers (by simp)
  | operatorReset userId =>
    refine inOrder_unroled [userId] ?_
    simpa using settled_updateUsers (by simp)
  | bootstrap candidate superRole userRole holders grants assignments assign =>
    refine inOrder_statements (candidate :: holders) (sortIds [superRole, userRole].dedup) ?_
    show ∀ st ∈ _ :: _ :: (if assign then _ else _), _
    rw [List.forall_mem_cons, List.forall_mem_cons]
    refine ⟨settled_select ?_, settled_select ?_, ?_⟩
    · intro r hr
      obtain ⟨g, -, rfl⟩ := List.mem_map.mp hr
      rfl
    · intro r hr
      obtain ⟨a, -, rfl⟩ := List.mem_map.mp hr
      rfl
    · cases assign with
      | false => simp
      | true =>
        simp only [ite_true, List.forall_mem_cons]
        exact ⟨settled_insertUserRoles (Or.inl (by simp)) (by simp) (by simp),
          settled_updateUsers (by simp), settled_updateRbacState, by simp⟩
  | handover oldUser newUser superRole userRole assignments =>
    have hrows : ∀ tail, rowsOf (lockRbacState :: lockUsersStatement [oldUser, newUser] ::
        .selectForUpdate [.role superRole] :: .selectForUpdate [.role userRole] :: tail) =
        rowsOf (lockRbacState :: lockUsersStatement [oldUser, newUser] ::
          .selectForUpdate ([superRole, userRole].map .role) :: tail) := by
      intro tail
      simp [rowsOf, requestsOf, Statement.requests, Statement.deferred]
    unfold Writer.statements
    rw [hrows]
    refine inOrder_statements [oldUser, newUser] [superRole, userRole] ?_
    simp only [List.forall_mem_cons]
    refine ⟨settled_select ?_, settled_updateUserRoles (by simp),
      settled_insertUserRoles (Or.inl (by simp)) (by simp) (by simp),
      settled_updateUsers (by simp), settled_updateRbacState, by simp⟩
    intro r hr
    obtain ⟨a, -, rfl⟩ := List.mem_map.mp hr
    rfl

/-! ## sets of concurrent transactions -/

/-- each transaction requests its locks in the canonical order, and no interleaving of the requests
reaches a cycle of waiting -/
structure Orderly {ι : Type} [DecidableEq ι] (writers : ι → Writer) : Prop where
  inOrder : ∀ i, InOrder (writers i).own [] ((writers i).requests.map RowLock.row)
  deadlockFree : ∀ s, Reachable (locking RowLock.Conflict fun i => (writers i).requests) s →
    ¬ Deadlocked RowLock.Conflict s

theorem conflict_symm (a b : RowLock) (h : a.Conflict b) : b.Conflict a := by
  obtain ⟨hr, hm⟩ := h
  refine ⟨hr.symm, ?_⟩
  cases ha : a.mode <;> cases hb : b.mode <;> rw [ha, hb] at hm <;> first | rfl | cases hm

theorem Writer.guarded {w : Writer} (hw : ∀ u, w ≠ .login u true) :
    w.requests.length ≤ 1 ∨ w.requests.head? = some guardRequest := by
  cases w with
  | login userId rehash =>
    cases rehash with
    | true => exact absurd rfl (hw userId)
    | false =>
      refine Or.inl ?_
      simp [Writer.requests, Writer.statements, requestsOf, lockUsersStatement, Statement.requests,
        Statement.deferred, sortIds]
  | _ => exact Or.inr rfl

/-- a login that rewrites the hash requests the guard last, when it commits -/
theorem requests_login_rehash (u : Uuid) : (Writer.login u true).requests =
    [⟨.user u, .forUpdate⟩, ⟨.user u, .forNoKeyUpdate⟩, guardRequest] := by
  simp [Writer.requests, Writer.statements, requestsOf, lockUsersStatement, Statement.requests,
    Statement.deferred, sortIds]

/-- **the writers respect the lock order and cannot deadlock exactly when no login among them
rewrites its password hash** -/
theorem orderly_iff {ι : Type} [DecidableEq ι] (writers : ι → Writer) :
    Orderly writers ↔ ∀ i u, writers i ≠ .login u true := by
  constructor
  · intro h i u hw
    have hord := h.inOrder i
    rw [hw, requests_login_rehash] at hord
    obtain ⟨-, -, hlast, -⟩ := hord
    rcases hlast with ho | hh | hafter
    · cases ho
    · simp [guardRequest] at hh
    · have hbad := hafter (.user u) List.mem_cons_self
      simp [Row.notAfter, Row.rank, guardRequest] at hbad
  · intro h
    refine ⟨fun i => Writer.inOrder (h i), fun s hs => ?_⟩
    exact no_deadlock_of_guard conflict_symm ⟨rfl, rfl⟩ (fun i => Writer.guarded (h i)) hs

/-- a login that upgrades the hash, and a password change of the same user -/
def upgrading (u : Uuid) : Bool → Writer
  | false => .login u true
  | true => .changePassword u

theorem requests_changePassword (u : Uuid) : (Writer.changePassword u).requests =
    [guardRequest, ⟨.user u, .forUpdate⟩, ⟨.user u, .forNoKeyUpdate⟩, guardRequest] := by
  simp [Writer.requests, Writer.statements, requestsOf, lockRbacState, lockUsersStatement,
    Statement.requests, Statement.deferred, sortIds, guardRequest]

/-- the login locks the user, the password change the guard, and each needs what the other has -/
theorem upgrading_deadlock (u : Uuid) :
    ∃ s, Reachable (locking RowLock.Conflict fun i => (upgrading u i).requests) s ∧
      Deadlocked RowLock.Conflict s := by
  let start : Bool → Txn RowLock := fun i => ⟨[], (upgrading u i).requests⟩
  let s₁ : Bool → Txn RowLock := Function.update start false
    ⟨[⟨.user u, .forUpdate⟩], [⟨.user u, .forNoKeyUpdate⟩, guardRequest]⟩
  let s₂ : Bool → Txn RowLock := Function.update s₁ true
    ⟨[guardRequest], [⟨.user u, .forUpdate⟩, ⟨.user u, .forNoKeyUpdate⟩, guardRequest]⟩
  let s₃ : Bool → Txn RowLock := Function.update s₂ false
    ⟨[⟨.user u, .forNoKeyUpdate⟩, ⟨.user u, .forUpdate⟩], [guardRequest]⟩
  have h₀ : Reachable (locking RowLock.Conflict fun i => (upgrading u i).requests) start :=
    .init fun _ => rfl
  have hlogin : (locking RowLock.Conflict fun i => (upgrading u i).requests).step start
      (.acquire false) s₁ := by
    refine ⟨⟨.user u, .forUpdate⟩, _, requests_login_rehash u, ?_, rfl⟩
    intro j hj h hh
    cases j <;> cases hh
  have hchange : (locking RowLock.Conflict fun i => (upgrading u i).requests).step s₁
      (.acquire true) s₂ := by
    refine ⟨guardRequest, _, requests_changePassword u, ?_, rfl⟩
    intro j hj h hh
    cases j with
    | true => exact absurd rfl hj
    | false =>
      rcases List.mem_singleton.mp hh with rfl
      rintro ⟨hrow, -⟩
      cases hrow
  have hrewrite : (locking RowLock.Conflict fun i => (upgrading u i).requests).step s₂
      (.acquire false) s₃ := by
    refine ⟨⟨.user u, .forNoKeyUpdate⟩, _, rfl, ?_, rfl⟩
    intro j hj h hh
    cases j with
    | false => exact absurd rfl hj
    | true =>
      rcases List.mem_singleton.mp hh with rfl
      rintro ⟨hrow, -⟩
      cases hrow
  refine ⟨s₃, ((h₀.step _ hlogin).step _ hchange).step _ hrewrite, false, ?_⟩
  refine .head (b := true) ⟨by decide, ?_⟩ (.single ⟨by decide, ?_⟩)
  · exact ⟨guardRequest, _, rfl, guardRequest, List.mem_singleton_self _, rfl, rfl⟩
  · exact ⟨⟨.user u, .forUpdate⟩, _, rfl, ⟨.user u, .forUpdate⟩,
      List.mem_cons_of_mem _ (List.mem_singleton_self _), rfl, rfl⟩

/-- a login that upgrades the password hash against a password change of the same user -/
theorem rehash_deadlocks :
    (∃ s, Reachable (locking RowLock.Conflict fun i =>
        (upgrading 0x11111111111141118111111111111111 i).requests) s ∧
      Deadlocked RowLock.Conflict s) ∧ ¬ Orderly (upgrading 0x11111111111141118111111111111111) := by
  obtain ⟨s, hs, hd⟩ := upgrading_deadlock 0x11111111111141118111111111111111
  exact ⟨⟨s, hs, hd⟩, fun h => h.deadlockFree s hs hd⟩

end PgRbac
