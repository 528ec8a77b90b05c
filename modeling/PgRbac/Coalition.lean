import PgRbac.Dominance
import Mathlib.Data.Finset.Lattice.Fold
import Mathlib.Data.Finset.Union
import Mathlib.Order.Lattice.Nat

/-!
# No escalation by a coalition

Each decision judges one actor, and one target or one shared role; escalation is a property of
whole runs.  Members of a coalition may run any online command, and recruit every account that they
create or whose password they reset.

* `coalition`         the runs of a growing set of members;
* `Confined`          what the members can have reached, relative to the first state;
* `AdministeredBy.effective`    a command hands out nothing that its actor does not have;
* `coalition_confined`          no coalition gets beyond the authority that it started with.
-/

set_option linter.unusedVariables false

namespace PgRbac

open Fallible Store Trace

/-! ## effective authority -/

/-- the authority that requests of a live user are judged by: its active roles -/
def Db.effectiveAuthority (db : Db) (u : Uuid) : Option AuthoritySnapshot :=
  (db.liveUser? u).map (db.authority false)

def Db.effectivePermissions (db : Db) (u : Uuid) : Finset String :=
  ((db.effectiveAuthority u).map AuthoritySnapshot.permissions).getD ∅

def Db.effectiveTier (db : Db) (u : Uuid) : Nat :=
  ((db.effectiveAuthority u).map AuthoritySnapshot.managementTier).getD 0

variable {db db' : Db} {lib : PasswordLibrary}

theorem effective_of_live {u : Uuid} {row : User} (h : db.liveUser? u = some row) :
    db.effectivePermissions u = grantedPermissions (db.roleGrantsForUser u false) ∧
      db.effectiveTier u = maxTier (db.roleGrantsForUser u false) := by
  have hid := Db.id_of_liveUser? h
  subst hid
  unfold Db.effectivePermissions Db.effectiveTier Db.effectiveAuthority
  rw [h]
  exact ⟨rfl, rfl⟩

theorem effective_of_not_live {u : Uuid} (h : db.liveUser? u = none) :
    db.effectivePermissions u = ∅ ∧ db.effectiveTier u = 0 := by
  unfold Db.effectivePermissions Db.effectiveTier Db.effectiveAuthority
  rw [h]
  exact ⟨rfl, rfl⟩

theorem effective_le {u : Uuid} {s : Finset String} {n : Nat}
    (h : ∀ g ∈ db.roleGrantsForUser u false, g.permissions ⊆ s ∧ g.managementTier ≤ n) :
    db.effectivePermissions u ⊆ s ∧ db.effectiveTier u ≤ n := by
  cases hu : db.liveUser? u with
  | none =>
    obtain ⟨hp, ht⟩ := effective_of_not_live hu
    rw [hp, ht]
    exact ⟨Finset.empty_subset _, Nat.zero_le _⟩
  | some row =>
    obtain ⟨hp, ht⟩ := effective_of_live hu
    rw [hp, ht]
    exact ⟨grantedPermissions_subset.mpr (fun g hg => (h g hg).1),
      maxTier_le.mpr (fun g hg => (h g hg).2)⟩

theorem grant_le {u : Uuid} {row : User} (hu : db.liveUser? u = some row) {g : RoleGrant}
    (hg : g ∈ db.roleGrantsForUser u false) :
    g.permissions ⊆ db.effectivePermissions u ∧ g.managementTier ≤ db.effectiveTier u := by
  obtain ⟨hp, ht⟩ := effective_of_live hu
  rw [hp, ht]
  exact ⟨grantedPermissions_subset.mp (Finset.Subset.refl _) g hg, le_maxTier hg⟩

/-! ## what one command can add -/

theorem AdministeredBy.live_before {actor : AuthoritySnapshot} (h : AdministeredBy actor db db')
    {u : Uuid} {after : User} (hu : db'.liveUser? u = some after) :
    ∃ before, db.liveUser? u = some before := by
  rcases h.touched u with hun | hman
  · refine ⟨after, ?_⟩
    rw [Db.liveUser?_eq_some] at hu ⊢
    rw [← hun.row]
    exact hu
  · obtain ⟨before, -, hb, -⟩ := hman.rows
    exact ⟨before, hb⟩

/-- **a command adds to a user nothing that its actor does not have, and no tier that reaches the
actor's** -/
theorem AdministeredBy.effective {row : User} (h : AdministeredBy (db.authority false row) db db')
    (hrow : db.liveUser? row.id = some row) (u : Uuid) :
    db'.effectivePermissions u ⊆ db.effectivePermissions u ∪ db.effectivePermissions row.id ∧
      db'.effectiveTier u ≤ max (db.effectiveTier u) (db.effectiveTier row.id - 1) := by
  cases hu : db'.liveUser? u with
  | none =>
    obtain ⟨hp, ht⟩ := effective_of_not_live hu
    rw [hp, ht]
    exact ⟨Finset.empty_subset _, Nat.zero_le _⟩
  | some after =>
    obtain ⟨before, hb⟩ := h.live_before hu
    obtain ⟨hap, hat⟩ := effective_of_live hrow
    apply effective_le
    intro g hg
    rcases h.bounded false u g hg with hold | hbelow
    · obtain ⟨h1, h2⟩ := grant_le hb hold
      exact ⟨h1.trans Finset.subset_union_left, h2.trans (Nat.le_max_left _ _)⟩
    · have hin : g.permissions ⊆ db.effectivePermissions row.id := hap ▸ hbelow.within
      have hlow : g.managementTier < db.effectiveTier row.id := hat ▸ hbelow.lower
      refine ⟨hin.trans Finset.subset_union_right, ?_⟩
      omega

theorem Dominated.effective {row target : User}
    (h : Dominated (db.authority false row) (db.authority true target))
    (hrow : db.liveUser? row.id = some row) (ht : db.liveUser? target.id = some target) :
    db.effectivePermissions target.id ⊆ db.effectivePermissions row.id ∧
      db.effectiveTier target.id < db.effectiveTier row.id := by
  obtain ⟨hap, hat⟩ := effective_of_live hrow
  obtain ⟨-, -, hpos, hbelow⟩ := dominated_authority.mp h
  have hpos' : 0 < db.effectiveTier row.id := hat ▸ hpos
  obtain ⟨h1, h2⟩ : db.effectivePermissions target.id ⊆ db.effectivePermissions row.id ∧
      db.effectiveTier target.id ≤ db.effectiveTier row.id - 1 := by
    apply effective_le
    intro g hg
    have hg' := hbelow g (Db.roleGrantsForUser_mono hg)
    have hin : g.permissions ⊆ db.effectivePermissions row.id := hap ▸ hg'.within
    have hlow : g.managementTier < db.effectiveTier row.id := hat ▸ hg'.lower
    exact ⟨hin, by omega⟩
  exact ⟨h1, by omega⟩

/-! ## new accounts -/

theorem Coherent.baseGrant (hc : Coherent db) {r : Role}
    (hr : db.liveRole? (systemRoleId .user) = some r) :
    (db.roleGrant r).permissions = ∅ ∧ (db.roleGrant r).managementTier = 0 := by
  obtain ⟨r', hr', hid, -, -, -, -, -, htier⟩ := hc.systemRole .user
  rw [hr] at hr'
  cases hr'
  obtain ⟨-, -, -, hkeys⟩ := hc.system .user
  refine ⟨?_, htier⟩
  show db.rolePermissionKeys r.id = ∅
  rw [hid]
  exact hkeys

theorem NewAccount.effective {userId : Uuid} {passwordHash name : String} {must : Bool} {now : Nat}
    {role : Role} {users users' : Table User.id User.userName User.checks}
    {userRoles : Links Uuid Uuid} (hc : Coherent db)
    (h : NewAccount db userId passwordHash must now name role users users' userRoles db') (u : Uuid) :
    db'.effectivePermissions u ⊆ db.effectivePermissions u ∧
      db'.effectiveTier u ≤ db.effectiveTier u ∧
      (u = userId → db.effectivePermissions u = ∅ ∧ db.effectiveTier u = 0) := by
  have hfresh : db.users.get? userId = none := (Table.rows_insert? h.inserted).2.1
  have hid : role.id = systemRoleId .user := hc.findBy? .user h.stored
  have hlinked : ∀ r, db'.userRoles.Linked u r ↔
      db.userRoles.Linked u r ∨ (u = userId ∧ r = systemRoleId .user) := by
    intro r
    have hl := Links.linked_linkAll? h.assigned u r
    rw [List.mem_singleton, hid] at hl
    rw [h.result]
    exact hl
  have hgrant : ∀ r, db'.roleGrant r = db.roleGrant r := by
    intro r
    rw [h.result]
    rfl
  have hrole : ∀ r, db'.liveRole? r = db.liveRole? r := by
    intro r
    rw [h.result]
    rfl
  by_cases e : u = userId
  · subst e
    have hnone : db.liveUser? u = none := by
      unfold Db.liveUser?
      rw [hfresh]
      rfl
    obtain ⟨hp, ht⟩ := effective_of_not_live hnone
    rw [hp, ht, ← and_assoc]
    refine ⟨effective_le ?_, fun _ => ⟨rfl, rfl⟩⟩
    intro g hg
    obtain ⟨r, hl, hr, -, rfl⟩ := Db.mem_roleGrantsForUser.mp hg
    have hbase : r.id = systemRoleId .user :=
      (((hlinked r.id).mp hl).resolve_left (hc.unlinked hfresh r.id)).2
    rw [hrole, hbase] at hr
    obtain ⟨h1, h2⟩ := hc.baseGrant hr
    rw [hgrant, h1, h2]
    exact ⟨Finset.empty_subset _, Nat.le_refl _⟩
  · rw [← and_assoc]
    refine ⟨?_, fun h => absurd h e⟩
    have hget : db'.users.get? u = db.users.get? u := by
      rw [h.result]
      show users'.get? u = db.users.get? u
      rw [Table.get?_modify? h.rotated, if_neg e, Table.get?_insert? h.inserted]
      exact if_neg e
    have hlive : db'.liveUser? u = db.liveUser? u := by
      unfold Db.liveUser?
      rw [hget]
    cases hu : db.liveUser? u with
    | none =>
      rw [hu] at hlive
      obtain ⟨hp, ht⟩ := effective_of_not_live hlive
      rw [hp, ht]
      exact ⟨Finset.empty_subset _, Nat.zero_le _⟩
    | some row =>
      apply effective_le
      intro g hg
      obtain ⟨r, hl, hr, ha, rfl⟩ := Db.mem_roleGrantsForUser.mp hg
      have hl' := ((hlinked r.id).mp hl).resolve_right (fun h => e h.1)
      rw [hrole] at hr
      rw [hgrant]
      exact grant_le hu (Db.mem_roleGrantsForUser.mpr ⟨r, hl', hr, ha, rfl⟩)

/-! ## the runs of a coalition -/

/-- an online operation under the bearer token of a member, or a registration -/
def Operation.PerformedBy (members : Finset Uuid) : Operation → Prop
  | .createUserByAdministrator c _ _ _ => c.principal.userId ∈ members
  | .register .. => True
  | op => ∃ c, op.administrator? = some c ∧ c.principal.userId ∈ members

/-- the accounts that a committed operation brings under the control of its performer -/
def Operation.recruits : Operation → Finset Uuid
  | .register _ _ u _ => {u}
  | .createUserByAdministrator _ _ _ u => {u}
  | .resetUserPassword _ t _ _ _ => {t}
  | _ => ∅

/-- the members after an operation that ended so -/
def enlarged (members : Finset Uuid) (op : Operation) : Except Failure Unit → Finset Uuid
  | .ok _ => members ∪ op.recruits
  | .error _ => members

/-- the store together with the members of a coalition of live users -/
def coalition (lib : PasswordLibrary) : System (Postgres × Finset Uuid) Call where
  init s := Reachable (system lib) s.1 ∧ ∀ u ∈ s.2, (s.1.db.liveUser? u).isSome
  step s c s' := c.operation.PerformedBy s.2 ∧ (c.operation.run lib c.now s.1).2 = s'.1 ∧
    s'.2 = enlarged s.2 c.operation (c.operation.run lib c.now s.1).1

/-- what the coalition can have reached, relative to a first state: nobody got anything beyond the
permissions `P` of the members or reached their tier `T`, and no member got beyond them -/
structure Confined (P : Finset String) (T : Nat) (first db : Db) (members : Finset Uuid) : Prop where
  users : ∀ u, db.effectivePermissions u ⊆ first.effectivePermissions u ∪ P ∧
    db.effectiveTier u ≤ max (first.effectiveTier u) (T - 1)
  members : ∀ u ∈ members, db.effectivePermissions u ⊆ P ∧ db.effectiveTier u ≤ T

variable {P : Finset String} {T : Nat} {first : Db} {members : Finset Uuid}

/-- a command of a member keeps the coalition confined -/
theorem Confined.administered {row : User} (h : Confined P T first db members)
    (had : AdministeredBy (db.authority false row) db db') (hrow : db.liveUser? row.id = some row)
    (hm : row.id ∈ members) : Confined P T first db' members := by
  obtain ⟨hap, hat⟩ := h.members row.id hm
  constructor
  · intro u
    obtain ⟨h1, h2⟩ := had.effective hrow u
    obtain ⟨h3, h4⟩ := h.users u
    refine ⟨?_, by omega⟩
    exact h1.trans (Finset.union_subset h3 (hap.trans Finset.subset_union_right))
  · intro u hu
    obtain ⟨h1, h2⟩ := had.effective hrow u
    obtain ⟨h3, h4⟩ := h.members u hu
    exact ⟨h1.trans (Finset.union_subset h3 hap), by omega⟩

theorem Confined.recruit (h : Confined P T first db members) {u : Uuid}
    (hp : db.effectivePermissions u ⊆ P) (ht : db.effectiveTier u ≤ T) :
    Confined P T first db (members ∪ {u}) where
  users := h.users
  members v hv := by
    rcases Finset.mem_union.mp hv with hv | hv
    · exact h.members v hv
    · rw [Finset.mem_singleton.mp hv]
      exact ⟨hp, ht⟩

theorem Confined.newAccount (h : Confined P T first db members) (hc : Coherent db) {userId : Uuid}
    {passwordHash name : String} {must : Bool} {now : Nat} {role : Role}
    {users users' : Table User.id User.userName User.checks} {userRoles : Links Uuid Uuid}
    (hn : NewAccount db userId passwordHash must now name role users users' userRoles db') :
    Confined P T first db' (members ∪ {userId}) := by
  have heff := hn.effective hc
  have hold : Confined P T first db' members := by
    constructor
    · intro u
      obtain ⟨h1, h2, -⟩ := heff u
      obtain ⟨h3, h4⟩ := h.users u
      exact ⟨h1.trans h3, h2.trans h4⟩
    · intro u hu
      obtain ⟨h1, h2, -⟩ := heff u
      obtain ⟨h3, h4⟩ := h.members u hu
      exact ⟨h1.trans h3, h2.trans h4⟩
  obtain ⟨h1, h2, h3⟩ := heff userId
  obtain ⟨hp, ht⟩ := h3 rfl
  rw [hp] at h1
  rw [ht] at h2
  exact hold.recruit (h1.trans (Finset.empty_subset _)) (h2.trans (Nat.zero_le _))

/-- **one committed operation of a coalition** -/
theorem Confined.body (h : Confined P T first db members) (hc : Coherent db) {now : Nat}
    {op : Operation} (hop : op.PerformedBy members) (hb : op.body lib now db = .ok db') :
    Confined P T first db' (members ∪ op.recruits) := by
  -- a command of an administrator, before anybody is recruited
  have hadmin : ∀ c, op.administrator? = some c → c.principal.userId ∈ members →
      Confined P T first db' members := by
    intro c ha hm
    obtain ⟨row, hcur, had⟩ := administers_body hc ha hb
    have hid := hcur.id
    rw [← hid] at hm
    exact h.administered had (by rw [hid]; exact hcur.live) hm
  cases op with
  | register n hash u q =>
    obtain ⟨⟨id, _, rows⟩, ho, rfl⟩ := (map_ok _ _ _).mp hb
    obtain ⟨-, -, name, role, users, users', userRoles, hn⟩ := registerBody_ok ho
    exact h.newAccount hc hn
  | createUserByAdministrator c n hash u =>
    obtain ⟨⟨id, _, rows⟩, ho, rfl⟩ := (map_ok _ _ _).mp hb
    obtain ⟨-, -, name, role, users, users', userRoles, hn⟩ := createUserByAdministratorBody_ok ho
    exact h.newAccount hc hn
  | resetUserPassword c t pw hash m =>
    obtain ⟨c', ha, hm⟩ := hop
    cases ha
    obtain ⟨⟨b, _, rows⟩, ho, rfl⟩ := (map_ok _ _ _).mp hb
    obtain ⟨row, target, hcur, hlive, hd, must, users, hu, rfl⟩ := resetUserPasswordBody_ok ho
    have hid := Db.id_of_liveUser? hlive
    have hrow : db.liveUser? row.id = some row := by
      rw [hcur.id]
      exact hcur.live
    subst hid
    obtain ⟨h1, h2⟩ := hd.effective hrow hlive
    obtain ⟨h3, h4⟩ := h.members row.id (hcur.id ▸ hm)
    -- the target was beneath its actor already, so it may be counted as a member from the start
    have hwith := h.recruit (h1.trans h3) (h2.le.trans h4)
    have had : AdministeredBy (db.authority false row) db { db with users := users } :=
      administeredBy_modifyUser hu hlive hd (fun _ => rfl) (fun _ => rfl)
    exact hwith.administered had hrow (Finset.mem_union_left _ (hcur.id ▸ hm))
  | updateUserStatus | revokeUserSessions | changeUserRoles | createRole | updateRole |
    setRoleActive | softDeleteRole | changeRolePermissions =>
    obtain ⟨c, ha, hm⟩ := hop
    show Confined P T first db' (members ∪ ∅)
    rw [Finset.union_empty]
    exact hadmin c ha hm
  | _ =>
    obtain ⟨c, ha, -⟩ := hop
    cases ha

/-- **one step of a coalition** -/
theorem Confined.step {s s' : Postgres × Finset Uuid} {c : Call} (hs : Standing s.1.db)
    (h : Confined P T first s.1.db s.2) (hst : (coalition lib).step s c s') :
    Confined P T first s'.1.db s'.2 := by
  obtain ⟨hop, hrun, hmem⟩ := hst
  have hends := ends_run lib c.now c.operation s.1
  rw [← hrun, hmem]
  rcases hends with ⟨hok, hbody⟩ | ⟨⟨e, herr⟩, hsame⟩
  · rw [hok]
    exact h.body hs.coherent hop hbody
  · rw [herr, hsame]
    exact h

theorem coalition_reachable {s : Postgres × Finset Uuid} (h : Reachable (coalition lib) s) :
    Reachable (system lib) s.1 := by
  induction h with
  | init h => exact h.1
  | step l _ hst ih => exact .step l ih hst.2.1

section
variable {st : Nat → Postgres × Finset Uuid} {lab : Nat → Call} {n : Nat}

/-- **no coalition gets beyond what its members had in the first state**, and nobody else gets
anything beyond it either, or reaches their tier -/
theorem coalition_confined (h : IsRun (coalition lib) st lab n) {i : Nat} (hi : i ≤ n) :
    let P := (st 0).2.biUnion (st 0).1.db.effectivePermissions
    let T := (st 0).2.sup (st 0).1.db.effectiveTier
    (∀ u, (st i).1.db.effectivePermissions u ⊆ (st 0).1.db.effectivePermissions u ∪ P ∧
        (st i).1.db.effectiveTier u ≤ max ((st 0).1.db.effectiveTier u) (T - 1)) ∧
      ∀ u ∈ (st i).2, (st i).1.db.effectivePermissions u ⊆ P ∧
        (st i).1.db.effectiveTier u ≤ T := by
  intro P T
  have hconf : Confined P T (st 0).1.db (st i).1.db (st i).2 := by
    induction i with
    | zero =>
      constructor
      · exact fun u => ⟨Finset.subset_union_left, Nat.le_max_left _ _⟩
      · exact fun u hu => ⟨Finset.subset_biUnion_of_mem _ hu, Finset.le_sup hu⟩
    | succ i ih =>
      have hreach := coalition_reachable (h.reachable (Nat.le_of_succ_le hi))
      exact Confined.step (reachable_standing hreach) (ih (Nat.le_of_succ_le hi)) (h.next i hi)
  exact ⟨hconf.users, hconf.members⟩

/-- an administrator and a user of no authority -/
def staffed : Nat → Call :=
  script [signUp "alice" alice, .bootstrap alice, signUp "bob" bob,
    .changeUserRoles (bearer alice 0) bob [systemRoleId .admin] .bind, signUp "carol" carol]

/-- the administrator takes over the account of the user -/
def takeover : Call :=
  ⟨5, .resetUserPassword (bearer bob 0) carol "CorrectHorseBattery2"
    (sampleLibrary.hash 0 "CorrectHorseBattery2") .temporary⟩

def takeoverStates (i : Nat) : Postgres × Finset Uuid :=
  if i = 0 then (states sampleLibrary staffed 5, {bob})
  else ((takeover.operation.run sampleLibrary 5 (states sampleLibrary staffed 5)).2, {bob, carol})

theorem coalition_confined_takeover :
    (takeoverStates 1).1.db.effectiveTier carol ≤ 500 ∧
      (takeoverStates 1).1.db.effectivePermissions carol ⊆ adminPermissionKeys := by
  have hlive : ((states sampleLibrary staffed 5).db.liveUser? bob).isSome := by decide +kernel
  have hrun : IsRun (coalition sampleLibrary) takeoverStates (fun _ => takeover) 1 := by
    refine ⟨⟨(isRun_states sampleLibrary staffed 5).reachable (Nat.le_refl 5), ?_⟩, ?_⟩
    · intro u hu
      rw [Finset.mem_singleton.mp hu]
      exact hlive
    · intro i hi
      have h0 : i = 0 := by omega
      subst h0
      have hok : (takeover.operation.run sampleLibrary 5 (states sampleLibrary staffed 5)).1 = .ok () := by
        decide +kernel
      refine ⟨⟨bearer bob 0, rfl, Finset.mem_singleton_self bob⟩, rfl, ?_⟩
      show _ = enlarged {bob} takeover.operation (takeover.operation.run sampleLibrary 5
        (states sampleLibrary staffed 5)).1
      rw [hok]
      rfl
  have hP : (states sampleLibrary staffed 5).db.effectivePermissions bob = adminPermissionKeys := by
    decide +kernel
  have hT : (states sampleLibrary staffed 5).db.effectiveTier bob = 500 := by decide +kernel
  have h := (coalition_confined hrun (Nat.le_refl 1)).2 carol (by simp [takeoverStates])
  have hstart : takeoverStates 0 = (states sampleLibrary staffed 5, {bob}) := rfl
  rw [hstart, Finset.singleton_biUnion, Finset.sup_singleton, hP, hT] at h
  exact ⟨h.2, h.1⟩

end

end PgRbac
