import PgRbac.Operator
import PgRbac.Lib.Run
import Mathlib.Data.Finset.Card

/-!
# The triggers of the migrations as a backstop

Concurrent `READ COMMITTED` transactions that insert, update and delete any rows of `users` and
`user_roles`, as an operator with a console could.  A statement on `user_roles` first locks the row
of `rbac_state`; each changed row queues its deferred checks, which run before the commit, under
that lock, on the committed state of their moment with the transaction's own writes.  Unique
indexes, foreign keys and row locks only forbid steps, and are left out.

* `RowChange`, `enforceUserRoleLimit`, `enforceUserBaseRole`, `enforceExactlyOneSuperAdmin`
* `WriterTxn`, `backstop`     the transactions and their steps;
* `WriterInv`              every row that a transaction wrote is covered by a check, and a check
                            that has passed stays true;
* `database_backstop`       what holds of every committed state.
-/

set_option linter.unusedVariables false
set_option linter.unusedSectionVars false

namespace PgRbac

open Trace

/-! ## rows and triggers -/

structure UserRole where
  id : Uuid
  userId : Uuid
  roleId : Uuid
  deletedAt : Option Nat
  deriving DecidableEq, Repr

/-- the two tables, with the primary keys in the rows -/
structure Rows where
  users : Finset User
  userRoles : Finset UserRole
  deriving DecidableEq

/-- one row of an `INSERT`, `UPDATE` or `DELETE`; an update may change any column, the key too -/
inductive RowChange (ρ : Type) where
  | insert (new : ρ)
  | update (old new : ρ)
  | delete (old : ρ)

namespace RowChange
variable {ρ : Type}

def old? : RowChange ρ → Option ρ
  | insert _ => none
  | update old _ => some old
  | delete old => some old

def new? : RowChange ρ → Option ρ
  | insert new => some new
  | update _ new => some new
  | delete _ => none

end RowChange

/-- what a deferred trigger has to find before the commit -/
inductive DeferredCheck where
  /-- `assert_user_role_limit` -/
  | userRoleLimit (userId : Uuid)
  /-- `assert_user_has_base_role` -/
  | userHasBaseRole (userId : Uuid)
  /-- the count of `enforce_exactly_one_super_admin` -/
  | exactlyOneSuperAdmin
  deriving DecidableEq, Repr

def liveUserRoles (rows : Rows) (userId : Uuid) : Finset UserRole :=
  rows.userRoles.filter fun a => a.userId = userId ∧ a.deletedAt = none

def superAdminAssignments (rows : Rows) : Finset UserRole :=
  rows.userRoles.filter fun a => a.roleId = systemRoleId .superAdmin ∧ a.deletedAt = none

def HasBaseRole (rows : Rows) (userId : Uuid) : Prop :=
  (∃ u ∈ rows.users, u.id = userId ∧ u.deletedAt = none) →
    ∃ a ∈ rows.userRoles, a.userId = userId ∧ a.deletedAt = none ∧ a.roleId = systemRoleId .user

instance (rows : Rows) (userId : Uuid) : Decidable (HasBaseRole rows userId) :=
  inferInstanceAs (Decidable (_ → _))

/-- the system roles are immutable, so that a role is named by its id -/
def DeferredCheck.Holds (rows : Rows) : DeferredCheck → Prop
  | userRoleLimit userId => (liveUserRoles rows userId).card ≤ maxRolesPerUser
  | userHasBaseRole userId => HasBaseRole rows userId
  | exactlyOneSuperAdmin => (superAdminAssignments rows).card = 1

instance (rows : Rows) (c : DeferredCheck) : Decidable (c.Holds rows) := by
  cases c with
  | userRoleLimit userId => exact inferInstanceAs (Decidable (_ ≤ _))
  | userHasBaseRole userId => exact inferInstanceAs (Decidable (HasBaseRole rows userId))
  | exactlyOneSuperAdmin => exact inferInstanceAs (Decidable (_ = _))

/-- `ct_user_roles_max_ten_live` -/
def enforceUserRoleLimit : RowChange UserRole → List DeferredCheck
  | .insert new => [.userRoleLimit new.userId]
  | .update old new =>
    .userRoleLimit old.userId ::
      if new.userId ≠ old.userId then [.userRoleLimit new.userId] else []
  | .delete old => [.userRoleLimit old.userId]

/-- `ct_users_require_base_role`; there is no trigger for a `DELETE` -/
def enforceUserBaseRoleOnUsers : RowChange User → List DeferredCheck
  | .insert new => [.userHasBaseRole new.id]
  | .update _ new => [.userHasBaseRole new.id]
  | .delete _ => []

/-- `ct_user_roles_require_base_role` -/
def enforceUserBaseRole : RowChange UserRole → List DeferredCheck
  | .insert new => [.userHasBaseRole new.userId]
  | .update old new => [.userHasBaseRole old.userId, .userHasBaseRole new.userId]
  | .delete old => [.userHasBaseRole old.userId]

/-- `ct_user_roles_exactly_one_super_admin` -/
def enforceExactlyOneSuperAdmin (c : RowChange UserRole) : List DeferredCheck :=
  if c.old?.any (·.roleId = systemRoleId .superAdmin) ∨
      c.new?.any (·.roleId = systemRoleId .superAdmin) then [.exactlyOneSuperAdmin]
  else []

/-- the deferred triggers of one row, by name -/
def userRoleTriggers (c : RowChange UserRole) : List DeferredCheck :=
  enforceExactlyOneSuperAdmin c ++ enforceUserRoleLimit c ++ enforceUserBaseRole c

/-! ## transactions -/

/-- the writes of one table: the rows that are gone and those that are there instead -/
structure Writes (ρ : Type) where
  removed : Finset ρ
  added : Finset ρ

namespace Writes
variable {ρ : Type} [DecidableEq ρ]

def empty : Writes ρ := ⟨∅, ∅⟩

/-- the table as the transaction sees it -/
def view (w : Writes ρ) (rows : Finset ρ) : Finset ρ := (rows \ w.removed) ∪ w.added

def apply (w : Writes ρ) : RowChange ρ → Writes ρ
  | .insert new => ⟨w.removed, insert new w.added⟩
  | .update old new => ⟨insert old w.removed, insert new (w.added.erase old)⟩
  | .delete old => ⟨insert old w.removed, w.added.erase old⟩

theorem mem_view {w : Writes ρ} {rows : Finset ρ} {r : ρ} :
    r ∈ w.view rows ↔ (r ∈ rows ∧ r ∉ w.removed) ∨ r ∈ w.added := by
  rw [view, Finset.mem_union, Finset.mem_sdiff]

theorem mem_apply {w : Writes ρ} {c : RowChange ρ} {r : ρ}
    (h : r ∈ (w.apply c).removed ∨ r ∈ (w.apply c).added) :
    (c.old? = some r ∨ c.new? = some r) ∨ (r ∈ w.removed ∨ r ∈ w.added) := by
  cases c with
  | insert new =>
    rcases h with h | h
    · exact Or.inr (Or.inl h)
    · rcases Finset.mem_insert.mp h with rfl | h
      · exact Or.inl (Or.inr rfl)
      · exact Or.inr (Or.inr h)
  | update old new =>
    rcases h with h | h
    · rcases Finset.mem_insert.mp h with rfl | h
      · exact Or.inl (Or.inl rfl)
      · exact Or.inr (Or.inl h)
    · rcases Finset.mem_insert.mp h with rfl | h
      · exact Or.inl (Or.inr rfl)
      · exact Or.inr (Or.inr (Finset.mem_of_mem_erase h))
  | delete old =>
    rcases h with h | h
    · rcases Finset.mem_insert.mp h with rfl | h
      · exact Or.inl (Or.inl rfl)
      · exact Or.inr (Or.inl h)
    · exact Or.inr (Or.inr (Finset.mem_of_mem_erase h))

theorem mem_apply_added {w : Writes ρ} {c : RowChange ρ} {r : ρ} (h : r ∈ (w.apply c).added) :
    c.new? = some r ∨ r ∈ w.added := by
  cases c with
  | insert new => exact (Finset.mem_insert.mp h).imp (fun e => congrArg some e.symm) id
  | update old new =>
    exact (Finset.mem_insert.mp h).imp (fun e => congrArg some e.symm) Finset.mem_of_mem_erase
  | delete old => exact Or.inr (Finset.mem_of_mem_erase h)

end Writes

/-- one transaction: its writes, and its deferred checks once it commits -/
structure WriterTxn where
  users : Writes User
  userRoles : Writes UserRole
  committing : Bool
  passed : List DeferredCheck
  pending : List DeferredCheck

def WriterTxn.idle : WriterTxn := ⟨.empty, .empty, false, [], []⟩

def WriterTxn.view (t : WriterTxn) (rows : Rows) : Rows :=
  ⟨t.users.view rows.users, t.userRoles.view rows.userRoles⟩

structure Cluster (ι : Type) where
  rows : Rows
  /-- who holds the lock of the `rbac_state` row -/
  lock : Option ι
  session : ι → WriterTxn

inductive WriterStep (ι : Type) where
  /-- `FOR UPDATE` of the `rbac_state` row, by a statement or by a check -/
  | acquire (i : ι)
  | writeUser (i : ι) (c : RowChange User)
  | writeUserRole (i : ι) (c : RowChange UserRole)
  | startCommit (i : ι)
  | check (i : ι)
  | commit (i : ι)
  | rollback (i : ι)

section
variable {ι : Type} [DecidableEq ι]

namespace Cluster

def put (s : Cluster ι) (i : ι) (t : WriterTxn) : Cluster ι :=
  { s with session := Function.update s.session i t }

/-- the end of a transaction: the committed rows it leaves, and its lock free -/
def finish (s : Cluster ι) (i : ι) (rows : Rows) : Cluster ι where
  rows := rows
  lock := if s.lock = some i then none else s.lock
  session := Function.update s.session i .idle

def next (s : Cluster ι) : WriterStep ι → Cluster ι
  | .acquire i => { s with lock := some i }
  | .writeUser i c =>
    let t := s.session i
    s.put i { t with
      users := t.users.apply c, pending := t.pending ++ enforceUserBaseRoleOnUsers c }
  | .writeUserRole i c =>
    let t := s.session i
    s.put i { t with
      userRoles := t.userRoles.apply c, pending := t.pending ++ userRoleTriggers c }
  | .startCommit i => s.put i { s.session i with committing := true }
  | .check i =>
    let t := s.session i
    match t.pending with
    | [] => s
    | c :: rest =>
      if c.Holds (t.view s.rows) then s.put i { t with passed := c :: t.passed, pending := rest }
      else s.finish i s.rows
  | .commit i => s.finish i ((s.session i).view s.rows)
  | .rollback i => s.finish i s.rows

def Enabled (s : Cluster ι) : WriterStep ι → Prop
  | .acquire i => s.lock = none
  | .writeUser i c => (s.session i).committing = false ∧
      c.old?.all (· ∈ ((s.session i).view s.rows).users) = true
  | .writeUserRole i c => (s.session i).committing = false ∧ s.lock = some i ∧
      c.old?.all (· ∈ ((s.session i).view s.rows).userRoles) = true
  | .startCommit i => (s.session i).committing = false
  | .check i => (s.session i).committing = true ∧ s.lock = some i
  | .commit i => (s.session i).committing = true ∧ (s.session i).pending = []
  | .rollback i => True

instance (s : Cluster ι) (e : WriterStep ι) : Decidable (s.Enabled e) := by
  cases e with
  | acquire i => exact inferInstanceAs (Decidable (_ = _))
  | writeUser i c => exact inferInstanceAs (Decidable (_ ∧ _))
  | writeUserRole i c => exact inferInstanceAs (Decidable (_ ∧ _ ∧ _))
  | startCommit i => exact inferInstanceAs (Decidable (_ = _))
  | check i => exact inferInstanceAs (Decidable (_ ∧ _))
  | commit i => exact inferInstanceAs (Decidable (_ ∧ _))
  | rollback i => exact inferInstanceAs (Decidable True)

def after (s : Cluster ι) (steps : Nat → WriterStep ι) : Nat → Cluster ι
  | 0 => s
  | k + 1 => (after s steps k).next (steps k)

end Cluster

/-- what the triggers keep for every user -/
structure Backed (rows : Rows) : Prop where
  base : ∀ u ∈ rows.users, u.deletedAt = none →
    ∃ a ∈ rows.userRoles, a.userId = u.id ∧ a.deletedAt = none ∧ a.roleId = systemRoleId .user
  limit : ∀ userId, (liveUserRoles rows userId).card ≤ maxRolesPerUser

/-- from tables without a transaction in progress -/
def backstop : System (Cluster ι) (WriterStep ι) where
  init s := Backed s.rows ∧ (superAdminAssignments s.rows).card ≤ 1 ∧ s.lock = none ∧
    ∀ i, s.session i = .idle
  step s e s' := s.Enabled e ∧ s' = s.next e

end

/-! ## the invariant -/

/-- a check that the session has to make, or has made -/
def WriterTxn.Registered (t : WriterTxn) (c : DeferredCheck) : Prop := c ∈ t.passed ∨ c ∈ t.pending

/-- a row that the session wrote to `user_roles`, in its old or its new version -/
def WriterTxn.Wrote (t : WriterTxn) (r : UserRole) : Prop :=
  r ∈ t.userRoles.removed ∨ r ∈ t.userRoles.added

/-- the checks that a row of `user_roles` needs -/
structure CheckedRow (registered : DeferredCheck → Prop) (r : UserRole) : Prop where
  limit : registered (.userRoleLimit r.userId)
  base : registered (.userHasBaseRole r.userId)
  superAdmin : r.roleId = systemRoleId .superAdmin → registered .exactlyOneSuperAdmin

theorem CheckedRow.mono {p q : DeferredCheck → Prop} {r : UserRole} (h : CheckedRow p r)
    (hpq : ∀ c, p c → q c) : CheckedRow q r :=
  ⟨hpq _ h.limit, hpq _ h.base, fun hr => hpq _ (h.superAdmin hr)⟩

theorem userRoleTriggers_cover {c : RowChange UserRole} {r : UserRole}
    (h : c.old? = some r ∨ c.new? = some r) : CheckedRow (· ∈ userRoleTriggers c) r := by
  have hsuper : r.roleId = systemRoleId .superAdmin →
      DeferredCheck.exactlyOneSuperAdmin ∈ enforceExactlyOneSuperAdmin c := by
    intro hr
    unfold enforceExactlyOneSuperAdmin
    rw [if_pos]
    · exact List.mem_singleton_self _
    · rcases h with h | h
      · rw [h]
        exact Or.inl (decide_eq_true hr)
      · rw [h]
        exact Or.inr (decide_eq_true hr)
  have hbase : DeferredCheck.userHasBaseRole r.userId ∈ enforceUserBaseRole c := by
    cases c with
    | insert new =>
      rcases h with h | h
      · cases h
      · cases h
        exact List.mem_singleton_self _
    | update old new =>
      rcases h with h | h
      · cases h
        exact List.mem_cons_self
      · cases h
        exact List.mem_cons_of_mem _ (List.mem_singleton_self _)
    | delete old =>
      rcases h with h | h
      · cases h
        exact List.mem_singleton_self _
      · cases h
  have hlimit : DeferredCheck.userRoleLimit r.userId ∈ enforceUserRoleLimit c := by
    cases c with
    | insert new =>
      rcases h with h | h
      · cases h
      · cases h
        exact List.mem_singleton_self _
    | update old new =>
      rcases h with h | h
      · cases h
        exact List.mem_cons_self
      · cases h
        -- an unchanged user is checked as the old one
        by_cases he : r.userId = old.userId
        · rw [he]
          exact List.mem_cons_self
        · show DeferredCheck.userRoleLimit r.userId ∈ DeferredCheck.userRoleLimit old.userId ::
            if r.userId ≠ old.userId then [DeferredCheck.userRoleLimit r.userId] else []
          rw [if_pos he]
          exact List.mem_cons_of_mem _ (List.mem_singleton_self _)
    | delete old =>
      rcases h with h | h
      · cases h
        exact List.mem_singleton_self _
      · cases h
  unfold userRoleTriggers
  exact ⟨List.mem_append_left _ (List.mem_append_right _ hlimit), List.mem_append_right _ hbase,
    fun hr => List.mem_append_left _ (List.mem_append_left _ (hsuper hr))⟩

structure WriterInv {ι : Type} (rows : Rows) (lock : Option ι) (i : ι) (t : WriterTxn) : Prop where
  covered : ∀ r, t.Wrote r → CheckedRow t.Registered r
  users : ∀ u ∈ t.users.added, t.Registered (.userHasBaseRole u.id)
  locked : ∀ r, t.Wrote r → lock = some i
  passedLocked : t.passed ≠ [] → lock = some i
  holds : ∀ c ∈ t.passed, c.Holds (t.view rows)
  running : t.committing = false → t.passed = []

section
variable {ι : Type} [DecidableEq ι] {rows rows' : Rows} {lock lock' : Option ι} {i j : ι}
  {t : WriterTxn} {s s' : Cluster ι}

theorem writerInv_idle : WriterInv rows lock i .idle where
  covered r h := by
    rcases h with h | h
    · exact absurd h (Finset.notMem_empty r)
    · exact absurd h (Finset.notMem_empty r)
  users u h := absurd h (Finset.notMem_empty u)
  locked r h := by
    rcases h with h | h
    · exact absurd h (Finset.notMem_empty r)
    · exact absurd h (Finset.notMem_empty r)
  passedLocked h := absurd rfl h
  holds c h := by cases h
  running _ := rfl

/-- a session that does not hold the lock has nothing that other rows could falsify -/
theorem WriterInv.transfer (h : WriterInv rows lock i t) (hlock : lock = some i → lock' = some i)
    (hholds : lock = some i → ∀ c ∈ t.passed, c.Holds (t.view rows')) :
    WriterInv rows' lock' i t where
  covered := h.covered
  users := h.users
  locked r hr := hlock (h.locked r hr)
  passedLocked hp := hlock (h.passedLocked hp)
  holds c hc := hholds (h.passedLocked (List.ne_nil_of_mem hc)) c hc
  running := h.running

theorem DeferredCheck.Holds.fewer_users {c : DeferredCheck} (h : c.Holds rows)
    (hroles : rows'.userRoles = rows.userRoles) (husers : rows'.users ⊆ rows.users) :
    c.Holds rows' := by
  cases c with
  | userRoleLimit userId =>
    show (liveUserRoles rows' userId).card ≤ maxRolesPerUser
    unfold liveUserRoles
    rw [hroles]
    exact h
  | userHasBaseRole userId =>
    rintro ⟨u, hu, hid⟩
    rw [hroles]
    exact h ⟨u, husers hu, hid⟩
  | exactlyOneSuperAdmin =>
    show (superAdminAssignments rows').card = 1
    unfold superAdminAssignments
    rw [hroles]
    exact h

def ClusterInv (s : Cluster ι) : Prop := ∀ i, WriterInv s.rows s.lock i (s.session i)

theorem ClusterInv.put (h : ClusterInv s) (ht : WriterInv s.rows s.lock i t) :
    ClusterInv (s.put i t) := by
  intro j
  show WriterInv s.rows s.lock j (Function.update s.session i t j)
  by_cases hj : j = i
  · rw [hj, Function.update_self]
    exact ht
  · rw [Function.update_of_ne hj]
    exact h j

theorem ClusterInv.finish (h : ClusterInv s)
    (hrows : ∀ j, j ≠ i → s.lock = some j →
      ∀ c ∈ (s.session j).passed, c.Holds ((s.session j).view rows')) :
    ClusterInv (s.finish i rows') := by
  intro j
  show WriterInv rows' (if s.lock = some i then none else s.lock) j
    (Function.update s.session i .idle j)
  by_cases hj : j = i
  · rw [hj, Function.update_self]
    exact writerInv_idle
  · rw [Function.update_of_ne hj]
    refine (h j).transfer ?_ (hrows j hj)
    intro hl
    rw [if_neg, hl]
    intro hi
    exact hj (Option.some.inj (hl.symm.trans hi))

theorem ClusterInv.rollback (h : ClusterInv s) : ClusterInv (s.finish i s.rows) :=
  h.finish fun j _ _ => (h j).holds

/-! ## one step -/

theorem inv_writeUser (h : ClusterInv s) {c : RowChange User}
    (hrun : (s.session i).committing = false) : ClusterInv (s.next (.writeUser i c)) := by
  have hi := h i
  have hpassed := hi.running hrun
  refine h.put ⟨?_, ?_, hi.locked, hi.passedLocked, ?_, fun _ => hpassed⟩
  · intro r hr
    exact (hi.covered r hr).mono fun c hc => hc.imp_right (List.mem_append_left _)
  · intro u hu
    rcases Writes.mem_apply_added hu with hnew | hold
    · refine Or.inr (List.mem_append_right _ ?_)
      cases c with
      | insert new =>
        cases hnew
        exact List.mem_singleton_self _
      | update old new =>
        cases hnew
        exact List.mem_singleton_self _
      | delete old => cases hnew
    · exact (hi.users u hold).imp_right (List.mem_append_left _)
  · intro c hc
    rw [show _ = [] from hpassed] at hc
    cases hc

theorem inv_writeUserRole (h : ClusterInv s) {c : RowChange UserRole}
    (hrun : (s.session i).committing = false) (hlock : s.lock = some i) :
    ClusterInv (s.next (.writeUserRole i c)) := by
  have hi := h i
  have hpassed := hi.running hrun
  refine h.put ⟨?_, ?_, fun _ _ => hlock, hi.passedLocked, ?_, fun _ => hpassed⟩
  · intro r hr
    rcases Writes.mem_apply hr with hnamed | hold
    · exact (userRoleTriggers_cover hnamed).mono fun c hc => Or.inr (List.mem_append_right _ hc)
    · exact (hi.covered r hold).mono fun c hc => hc.imp_right (List.mem_append_left _)
  · intro u hu
    exact (hi.users u hu).imp_right (List.mem_append_left _)
  · intro c hc
    rw [show _ = [] from hpassed] at hc
    cases hc

theorem inv_startCommit (h : ClusterInv s) : ClusterInv (s.next (.startCommit i)) := by
  have hi := h i
  exact h.put ⟨hi.covered, hi.users, hi.locked, hi.passedLocked, hi.holds, fun hc => by cases hc⟩

theorem inv_check (h : ClusterInv s) (hcommit : (s.session i).committing = true)
    (hlock : s.lock = some i) : ClusterInv (s.next (.check i)) := by
  have hi := h i
  unfold Cluster.next
  dsimp only
  split
  · exact h
  · rename_i c rest hpending
    split
    · rename_i hc
      have hregistered : ∀ d, (s.session i).Registered d →
          d ∈ c :: (s.session i).passed ∨ d ∈ rest := by
        rintro d (hd | hd)
        · exact Or.inl (List.mem_cons_of_mem _ hd)
        · rw [hpending] at hd
          rcases List.mem_cons.mp hd with rfl | hd
          · exact Or.inl List.mem_cons_self
          · exact Or.inr hd
      refine h.put ⟨?_, ?_, fun _ _ => hlock, fun _ => hlock, ?_, ?_⟩
      · intro r hr
        exact (hi.covered r hr).mono hregistered
      · intro u hu
        exact hregistered _ (hi.users u hu)
      · intro d hd
        rcases List.mem_cons.mp hd with rfl | hd
        · exact hc
        · exact hi.holds d hd
      · intro hrun
        rw [show (s.session i).committing = false from hrun] at hcommit
        cases hcommit
    · exact h.rollback

/-- while another session holds the lock, a session that is through with its checks only deleted
users -/
theorem WriterInv.quiet (h : WriterInv rows lock i t) (hpending : t.pending = [])
    (hlock : lock ≠ some i) :
    (t.view rows).userRoles = rows.userRoles ∧ (t.view rows).users ⊆ rows.users := by
  have hnone : t.passed = [] := by
    by_contra hp
    exact hlock (h.passedLocked hp)
  refine ⟨?_, ?_⟩
  · ext r
    show r ∈ t.userRoles.view rows.userRoles ↔ r ∈ rows.userRoles
    rw [Writes.mem_view]
    constructor
    · rintro (⟨hr, -⟩ | hr)
      · exact hr
      · exact absurd (h.locked r (Or.inr hr)) hlock
    · intro hr
      exact Or.inl ⟨hr, fun hremoved => hlock (h.locked r (Or.inl hremoved))⟩
  · intro u hu
    rcases Writes.mem_view.mp hu with ⟨hu, -⟩ | hu
    · exact hu
    · have hregistered := h.users u hu
      unfold WriterTxn.Registered at hregistered
      rw [hnone, hpending] at hregistered
      rcases hregistered with hm | hm
      · cases hm
      · cases hm

theorem view_congr (t : WriterTxn) (hroles : rows'.userRoles = rows.userRoles)
    (husers : rows'.users ⊆ rows.users) :
    (t.view rows').userRoles = (t.view rows).userRoles ∧
      (t.view rows').users ⊆ (t.view rows).users := by
  refine ⟨?_, ?_⟩
  · show t.userRoles.view rows'.userRoles = t.userRoles.view rows.userRoles
    rw [hroles]
  · intro u hu
    rcases Writes.mem_view.mp hu with ⟨hu, hnot⟩ | hu
    · exact Writes.mem_view.mpr (Or.inl ⟨husers hu, hnot⟩)
    · exact Writes.mem_view.mpr (Or.inr hu)

theorem inv_commit (h : ClusterInv s) (hpending : (s.session i).pending = []) :
    ClusterInv (s.next (.commit i)) := by
  refine h.finish ?_
  intro j hj hlock c hc
  have hne : s.lock ≠ some i := by
    intro hi
    exact hj (Option.some.inj (hlock.symm.trans hi))
  obtain ⟨hroles, husers⟩ := (h i).quiet hpending hne
  obtain ⟨hroles', husers'⟩ := view_congr (s.session j) hroles husers
  exact ((h j).holds c hc).fewer_users hroles' husers'

/-- **a step keeps the invariant** -/
theorem inv_next (h : ClusterInv s) {e : WriterStep ι} (he : s.Enabled e) :
    ClusterInv (s.next e) := by
  cases e with
  | acquire i =>
    intro j
    have hnone : s.lock = none := he
    exact (h j).transfer (fun hl => by rw [hnone] at hl; cases hl)
      (fun hl => by rw [hnone] at hl; cases hl)
  | writeUser i c => exact inv_writeUser h he.1
  | writeUserRole i c => exact inv_writeUserRole h he.1 he.2.1
  | startCommit i => exact inv_startCommit h
  | check i => exact inv_check h he.1 he.2
  | commit i => exact inv_commit h he.2
  | rollback i => exact h.rollback

/-! ## committed states -/

theorem WriterInv.passed_of_registered (hpending : t.pending = []) {c : DeferredCheck}
    (h : t.Registered c) : c ∈ t.passed := by
  rcases h with h | h
  · exact h
  · rw [hpending] at h
    cases h

/-- **checks that passed on the written rows carry the backstop over to the new state** -/
theorem WriterInv.backed (h : WriterInv rows lock i t) (hpending : t.pending = [])
    (hb : Backed rows) : Backed (t.view rows) where
  base u hu hlive := by
    by_cases hreg : t.Registered (.userHasBaseRole u.id)
    · exact h.holds _ (passed_of_registered hpending hreg) ⟨u, hu, rfl, hlive⟩
    · have hold : u ∈ rows.users := by
        rcases Writes.mem_view.mp hu with ⟨hu, -⟩ | hu
        · exact hu
        · exact absurd (h.users u hu) hreg
      obtain ⟨a, ha, huser, hlive', hrole⟩ := hb.base u hold hlive
      refine ⟨a, Writes.mem_view.mpr (Or.inl ⟨ha, ?_⟩), huser, hlive', hrole⟩
      intro hremoved
      exact hreg (huser ▸ (h.covered a (Or.inl hremoved)).base)
  limit userId := by
    by_cases hreg : t.Registered (.userRoleLimit userId)
    · exact h.holds _ (passed_of_registered hpending hreg)
    · refine Nat.le_trans (Finset.card_le_card ?_) (hb.limit userId)
      intro r hr
      obtain ⟨hr, huser, hlive⟩ := Finset.mem_filter.mp hr
      refine Finset.mem_filter.mpr ⟨?_, huser, hlive⟩
      rcases Writes.mem_view.mp hr with ⟨hr, -⟩ | hr
      · exact hr
      · exact absurd (huser ▸ (h.covered r (Or.inr hr)).limit) hreg

theorem WriterInv.superAdmins (h : WriterInv rows lock i t) (hpending : t.pending = []) :
    (superAdminAssignments (t.view rows)).card = 1 ∨
      superAdminAssignments (t.view rows) = superAdminAssignments rows := by
  by_cases hreg : t.Registered .exactlyOneSuperAdmin
  · exact Or.inl (h.holds _ (passed_of_registered hpending hreg))
  · right
    ext r
    unfold superAdminAssignments
    rw [Finset.mem_filter, Finset.mem_filter]
    refine and_congr_left ?_
    rintro ⟨hrole, -⟩
    show r ∈ t.userRoles.view rows.userRoles ↔ r ∈ rows.userRoles
    rw [Writes.mem_view]
    constructor
    · rintro (⟨hr, -⟩ | hr)
      · exact hr
      · exact absurd ((h.covered r (Or.inr hr)).superAdmin hrole) hreg
    · intro hr
      exact Or.inl ⟨hr, fun hremoved =>
        hreg ((h.covered r (Or.inl hremoved)).superAdmin hrole)⟩

/-- only a commit changes the committed rows -/
theorem rows_next (s : Cluster ι) (e : WriterStep ι) :
    (s.next e).rows = s.rows ∨
      ∃ i, e = .commit i ∧ (s.next e).rows = (s.session i).view s.rows := by
  cases e with
  | acquire i => exact Or.inl rfl
  | writeUser i c => exact Or.inl rfl
  | writeUserRole i c => exact Or.inl rfl
  | startCommit i => exact Or.inl rfl
  | check i =>
    left
    unfold Cluster.next
    dsimp only
    split
    · rfl
    · split <;> rfl
  | commit i => exact Or.inr ⟨i, rfl, rfl⟩
  | rollback i => exact Or.inl rfl

structure BackstopInv (s : Cluster ι) : Prop where
  sessions : ClusterInv s
  backed : Backed s.rows
  atMostOne : (superAdminAssignments s.rows).card ≤ 1

theorem BackstopInv.step (h : BackstopInv s) {e : WriterStep ι} (hst : backstop.step s e s') :
    BackstopInv s' ∧ ((superAdminAssignments s'.rows).card = 1 ∨
      superAdminAssignments s'.rows = superAdminAssignments s.rows) := by
  obtain ⟨he, rfl⟩ := hst
  have hinv := inv_next h.sessions he
  rcases rows_next s e with hrows | ⟨i, rfl, hrows⟩
  · refine ⟨⟨hinv, ?_, ?_⟩, Or.inr ?_⟩
    · rw [hrows]
      exact h.backed
    · rw [hrows]
      exact h.atMostOne
    · rw [hrows]
  · have hpending : (s.session i).pending = [] := he.2
    have hi := h.sessions i
    have hsuper := hi.superAdmins hpending
    refine ⟨⟨hinv, ?_, ?_⟩, ?_⟩
    · rw [hrows]
      exact hi.backed hpending h.backed
    · rw [hrows]
      rcases hsuper with h1 | h1
      · exact Nat.le_of_eq h1
      · rw [h1]
        exact h.atMostOne
    · rw [hrows]
      exact hsuper

variable {st : Nat → Cluster ι} {lab : Nat → WriterStep ι} {n : Nat}

theorem run_backstopInv (hrun : IsRun backstop st lab n) {k : Nat} (hk : k ≤ n) :
    BackstopInv (st k) := by
  refine hrun.invariant ?_ (fun s e s' h hst => (h.step hst).1) hk
  rintro s ⟨hb, hone, -, hidle⟩
  refine ⟨?_, hb, hone⟩
  intro i
  rw [hidle i]
  exact writerInv_idle

/-- **the triggers keep every committed state**: a base role for each live user, at most ten roles,
and one super_admin for ever once there is one -/
theorem database_backstop (hrun : IsRun backstop st lab n) :
    (∀ k, k ≤ n → Backed (st k).rows) ∧
    ∀ j k, j ≤ k → k ≤ n → 0 < (superAdminAssignments (st j).rows).card →
      (superAdminAssignments (st k).rows).card = 1 := by
  refine ⟨fun k hk => (run_backstopInv hrun hk).backed, ?_⟩
  intro j k hjk hk hpos
  induction k with
  | zero =>
    have hj : j = 0 := by omega
    rw [hj] at hpos
    have := (run_backstopInv hrun hk).atMostOne
    omega
  | succ k ih =>
    rcases Nat.eq_or_lt_of_le hjk with rfl | hlt
    · have := (run_backstopInv hrun hk).atMostOne
      omega
    · have hprev := ih (by omega) (by omega)
      rcases ((run_backstopInv hrun (by omega)).step (hrun.next k (by omega))).2 with h1 | h1
      · exact h1
      · rw [h1]
        exact hprev

end

def emptyCluster : Cluster Bool := ⟨⟨∅, ∅⟩, none, fun _ => .idle⟩

def consoleUser : User where
  id := 0x11111111111141118111111111111111
  userName := "alice"
  isActive := true
  isProtected := false
  tokenVersion := 0
  authzVersion := 0
  passwordHash := none
  mustChangePassword := false
  passwordChangedAt := none
  deletedAt := none

def consoleAssignment (roleId : Uuid) : UserRole :=
  ⟨0x22222222222242228222222222222222, consoleUser.id, roleId, none⟩

/-- a user is inserted with the base role, and the checks run before the commit; then another
session tries to take the role away -/
def console (k : Nat) : WriterStep Bool :=
  [.writeUser true (.insert consoleUser), .acquire true,
    .writeUserRole true (.insert (consoleAssignment (systemRoleId .user))), .startCommit true,
    .check true, .check true, .check true, .commit true, .acquire false,
    .writeUserRole false (.delete (consoleAssignment (systemRoleId .user))), .startCommit false,
    .check false, .check false].getD k (.rollback false)

theorem database_backstop_console :
    Backed (emptyCluster.after console 13).rows ∧
      (emptyCluster.after console 13).rows.users = {consoleUser} := by
  have hrun : IsRun backstop (emptyCluster.after console) console 13 := by
    refine ⟨⟨⟨?_, ?_⟩, ?_, rfl, fun _ => rfl⟩, ?_⟩
    · intro u hu
      exact absurd hu (Finset.notMem_empty u)
    · intro userId
      exact Nat.zero_le _
    · exact Nat.zero_le _
    · intro k hk
      refine ⟨?_, rfl⟩
      revert k
      decide +kernel
  exact ⟨(database_backstop hrun).1 13 (Nat.le_refl 13), by decide +kernel⟩

end PgRbac
