import PgRbac.Versions

/-!
# The load of an authorization context

`get_authorization_context` (`app/dependencies/authentication.py`) reads the state row, the user row
and the user's roles by three statements.  Each sees the transactions that were committed when it
started, so any number of them may come between two of the reads.

* `getAuthorizationContext`   the context of a principal, from the states of the three reads;
* `run_accounted`             along a run: a new version with a new epoch, or the same authority;
* `Whole`                     the context shows one committed state;
* `Undisturbed`               what the transactions between the reads must not have done;
* `whole_iff`                 the one holds exactly when the other does.
-/

set_option linter.unusedVariables false

namespace PgRbac

open Fallible Store Trace

/-- the refusal of a principal whose user is gone, disabled or has new versions -/
def identityInactive : Failure := unauthenticated "identity_inactive_or_revoked"

/-- the three statements, each with the state that it reads, and the test of the token's version -/
def getAuthorizationContext (stateRead userRead roleRead : Db) (principal : Principal)
    (requestId : String) : Except Failure AuthorizationContext :=
  match userRead.liveUser? principal.userId with
  | none => .error identityInactive
  | some user =>
    let authority := roleRead.authority false user
    if ¬ authority.userIsActive ∨ authority.tokenVersion ≠ principal.tokenVersion then
      .error identityInactive
    else .ok
      { principal := principal
        authorizationEpoch := stateRead.rbacState.epoch
        authority := authority
        requestId := requestId
        auditSource := .http }

/-! ## what a context shows -/

/-- the roles of a snapshot, in the order of their ids -/
def Db.shownRoles (db : Db) (userId : Uuid) : List RoleGrant :=
  (db.roleGrantsForUser userId false).insertionSort (fun r r' => r.roleId ≤ r'.roleId)

/-- the two counters of a live user -/
def Db.userVersions? (db : Db) (userId : Uuid) : Option (Nat × Nat) :=
  (db.liveUser? userId).map fun u => (u.tokenVersion, u.authzVersion)

theorem AuthoritySnapshot.build_sorted {userId : Uuid} {active isProtected : Bool}
    {tokenVersion authzVersion : Nat} {roles roles' : List RoleGrant}
    (h : roles.insertionSort (fun r r' => r.roleId ≤ r'.roleId) =
      roles'.insertionSort (fun r r' => r.roleId ≤ r'.roleId)) :
    build userId active isProtected tokenVersion authzVersion roles =
      build userId active isProtected tokenVersion authzVersion roles' := by
  have hperm : roles.Perm roles' :=
    (List.perm_insertionSort _ roles).symm.trans (h ▸ List.perm_insertionSort _ roles')
  have hpermissions : grantedPermissions roles = grantedPermissions roles' := by
    apply Finset.ext
    intro p
    rw [mem_grantedPermissions, mem_grantedPermissions]
    simp only [hperm.mem_iff]
  have htier : maxTier roles = maxTier roles' := by
    refine Nat.le_antisymm (maxTier_le.mpr ?_) (maxTier_le.mpr ?_)
    · intro r hr
      exact le_maxTier (hperm.mem_iff.mp hr)
    · intro r hr
      exact le_maxTier (hperm.mem_iff.mpr hr)
  unfold build
  rw [h, hpermissions, htier, hperm.any_eq, hperm.any_eq]

theorem authority_congr {db db' : Db} {u u' : User} (hid : u'.id = u.id)
    (hflags : u'.isActive = u.isActive ∧ u'.isProtected = u.isProtected)
    (hversions : u'.tokenVersion = u.tokenVersion ∧ u'.authzVersion = u.authzVersion)
    (hroles : db'.shownRoles u.id = db.shownRoles u.id) :
    db'.authority false u' = db.authority false u := by
  unfold Db.authority
  rw [hid, hflags.1, hflags.2, hversions.1, hversions.2]
  exact AuthoritySnapshot.build_sorted hroles

theorem getAuthorizationContext_ok {stateRead userRead roleRead : Db} {principal : Principal}
    {requestId : String} {context : AuthorizationContext}
    (h : getAuthorizationContext stateRead userRead roleRead principal requestId = .ok context) :
    ∃ user, userRead.liveUser? principal.userId = some user ∧ user.isActive = true ∧
      user.tokenVersion = principal.tokenVersion ∧ context.principal = principal ∧
      context.authorizationEpoch = stateRead.rbacState.epoch ∧
      context.authority = roleRead.authority false user := by
  unfold getAuthorizationContext at h
  cases hu : userRead.liveUser? principal.userId with
  | none =>
    rw [hu] at h
    cases h
  | some user =>
    rw [hu] at h
    dsimp only at h
    split at h
    · cases h
    · rename_i hok
      obtain ⟨hactive, hversion⟩ := not_or.mp hok
      cases h
      exact ⟨user, rfl, not_not.mp hactive, not_ne_iff.mp hversion, rfl, rfl, rfl⟩

/-! ## authority along a run -/

section
variable {lib : PasswordLibrary} {st : Nat → Postgres} {lab : Nat → Call} {n : Nat}

theorem accounted_step {s s' : Postgres} {c : Call} (hs : Standing s.db)
    (h : (system lib).step s c s') : Accounted s.db s'.db := by
  rcases step_db h with he | hb
  · rw [he]
    exact .refl _
  · exact accounted_body hs hb

/-- **along a run a live user gets new versions with a new epoch, or keeps its authority** -/
theorem run_accounted (hrun : IsRun (system lib) st lab n) {i j : Nat} (hij : i ≤ j) (hj : j ≤ n) :
    Accounted (st i).db (st j).db := by
  induction j with
  | zero =>
    have he : i = 0 := by omega
    rw [he]
    exact .refl _
  | succ j ih =>
    rcases Nat.eq_or_lt_of_le hij with he | hlt
    · rw [he]
      exact .refl _
    · intro u before after hb ha
      have hprev := run_grows hrun (show i ≤ j by omega) (by omega)
      have hnext := run_grows hrun (Nat.le_succ j) hj
      obtain ⟨mid, hm, hgrow⟩ := hprev.liveUser? hb
      obtain ⟨after', ha', hgrow'⟩ := hnext.liveUser? hm
      rw [ha] at ha'
      cases ha'
      have hstep := accounted_step (reachable_standing (hrun.reachable (show j ≤ n by omega)))
        (hrun.next j (by omega))
      rcases ih (by omega) (by omega) u before mid hb hm with hv | hsame
      · exact Or.inl ⟨Nat.lt_of_lt_of_le hv.1 hgrow'.authz, Nat.lt_of_lt_of_le hv.2 hnext.epoch⟩
      · rcases hstep u mid after hm ha with hv | hsame'
        · exact Or.inl ⟨Nat.lt_of_le_of_lt hgrow.authz hv.1, Nat.lt_of_le_of_lt hprev.epoch hv.2⟩
        · refine Or.inr ⟨⟨hsame'.flags.1.trans hsame.flags.1, hsame'.flags.2.trans hsame.flags.2⟩,
            ?_⟩
          have hid : mid.id = before.id := hgrow.identity.1
          rw [← hsame.grants, ← hid]
          exact hsame'.grants

theorem same_of_steady (hrun : IsRun (system lib) st lab n) {a b : Nat} (hab : a ≤ b) (hb : b ≤ n)
    {u : Uuid} {before after : User} (hbefore : (st a).db.liveUser? u = some before)
    (hafter : (st b).db.liveUser? u = some after)
    (h : after.authzVersion = before.authzVersion ∨
      (st b).db.rbacState.epoch = (st a).db.rbacState.epoch) :
    SameAuthority (st a).db (st b).db before after := by
  rcases run_accounted hrun hab hb u before after hbefore hafter with hv | hsame
  · omega
  · exact hsame

theorem shownRoles_of_same {db db' : Db} {before after : User}
    (h : SameAuthority db db' before after) : db'.shownRoles before.id = db.shownRoles before.id := by
  unfold Db.shownRoles
  rw [h.grants]

/-! ## one state -/

/-- one committed state has the epoch and the authority of the context, and its token's version -/
def Whole (st : Nat → Postgres) (n : Nat) (context : AuthorizationContext) : Prop :=
  ∃ m user, m ≤ n ∧ (st m).db.rbacState.epoch = context.authorizationEpoch ∧
    (st m).db.liveUser? context.principal.userId = some user ∧
    user.tokenVersion = context.principal.tokenVersion ∧
    (st m).db.authority false user = context.authority

/-- between the last two reads the user's roles are unchanged, and between the first two no
transaction that ends in a later epoch has raised a version of the user -/
structure Undisturbed (st : Nat → Postgres) (u : Uuid) (i j k : Nat) : Prop where
  roles : (st k).db.shownRoles u = (st j).db.shownRoles u
  versions : ∀ m, i ≤ m → m < j →
    (st (m + 1)).db.rbacState.epoch ≠ (st i).db.rbacState.epoch →
    (st (m + 1)).db.userVersions? u = (st m).db.userVersions? u

theorem last_of_epoch (st : Nat → Postgres) {i j : Nat} (hij : i ≤ j) :
    ∃ m, i ≤ m ∧ m ≤ j ∧ (st m).db.rbacState.epoch = (st i).db.rbacState.epoch ∧
      ∀ l, m < l → l ≤ j → (st l).db.rbacState.epoch ≠ (st i).db.rbacState.epoch := by
  induction j with
  | zero =>
    have he : i = 0 := by omega
    exact ⟨0, by omega, Nat.le_refl 0, by rw [he], fun l hl hl' => absurd hl (by omega)⟩
  | succ j ih =>
    by_cases he : (st (j + 1)).db.rbacState.epoch = (st i).db.rbacState.epoch
    · exact ⟨j + 1, hij, Nat.le_refl _, he, fun l hl hl' => absurd hl (by omega)⟩
    · have hlt : i ≤ j := by
        by_contra hgt
        have hi : i = j + 1 := by omega
        exact he (by rw [hi])
      obtain ⟨m, him, hmj, hm, hlast⟩ := ih hlt
      refine ⟨m, him, by omega, hm, ?_⟩
      intro l hl hl'
      rcases Nat.lt_or_eq_of_le hl' with h | h
      · exact hlast l hl (by omega)
      · rw [h]
        exact he

theorem versions_still {u : Uuid} {m j : Nat} (hmj : m ≤ j)
    (h : ∀ l, m ≤ l → l < j → (st (l + 1)).db.userVersions? u = (st l).db.userVersions? u) :
    (st j).db.userVersions? u = (st m).db.userVersions? u := by
  induction j with
  | zero =>
    have he : m = 0 := by omega
    rw [he]
  | succ j ih =>
    rcases Nat.eq_or_lt_of_le hmj with he | hlt
    · rw [he]
    · rw [h j (by omega) (Nat.lt_succ_self j)]
      exact ih (by omega) fun l hl hl' => h l hl (by omega)

theorem userVersions_some {db : Db} {u : Uuid} {v : Nat × Nat} :
    db.userVersions? u = some v ↔
      ∃ user, db.liveUser? u = some user ∧ (user.tokenVersion, user.authzVersion) = v :=
  Option.map_eq_some_iff

theorem versions_between (hrun : IsRun (system lib) st lab n) {u : Uuid} {a b l : Nat}
    (hal : a ≤ l) (hlb : l ≤ b) (hb : b ≤ n) {before after : User}
    (hbefore : (st a).db.liveUser? u = some before) (hafter : (st b).db.liveUser? u = some after)
    (hsame : after.tokenVersion = before.tokenVersion ∧ after.authzVersion = before.authzVersion) :
    (st l).db.userVersions? u = some (before.tokenVersion, before.authzVersion) := by
  obtain ⟨mid, hm, hgrow⟩ := (run_grows hrun hal (Nat.le_trans hlb hb)).liveUser? hbefore
  obtain ⟨after', ha', hgrow'⟩ := (run_grows hrun hlb hb).liveUser? hm
  rw [hafter] at ha'
  cases ha'
  have ht := hgrow.token
  have ht' := hgrow'.token
  have hz := hgrow.authz
  have hz' := hgrow'.authz
  refine userVersions_some.mpr ⟨mid, hm, ?_⟩
  exact Prod.ext (by omega) (by omega)

/-- **a context shows one committed state exactly when nothing has come between its reads** -/
theorem whole_iff (hrun : IsRun (system lib) st lab n) {i j k : Nat} (hij : i ≤ j) (hjk : j ≤ k)
    (hk : k ≤ n) {principal : Principal} {requestId : String} {context : AuthorizationContext}
    (h : getAuthorizationContext (st i).db (st j).db (st k).db principal requestId = .ok context) :
    Whole st n context ↔ Undisturbed st principal.userId i j k := by
  obtain ⟨user, huser, hactive, htoken, hprincipal, hepoch, hauthority⟩ := getAuthorizationContext_ok h
  have hjn : j ≤ n := Nat.le_trans hjk hk
  have hid : user.id = principal.userId := Db.id_of_liveUser? huser
  constructor
  · rintro ⟨m, x, hm, hme, hx, hxtoken, hxauthority⟩
    rw [hprincipal] at hx
    rw [hepoch] at hme
    have hxid : x.id = principal.userId := Db.id_of_liveUser? hx
    have hshown : (st m).db.authority false x = (st k).db.authority false user :=
      hxauthority.trans hauthority
    have hversions : user.tokenVersion = x.tokenVersion ∧ user.authzVersion = x.authzVersion :=
      ⟨(congrArg AuthoritySnapshot.tokenVersion hshown).symm,
        (congrArg AuthoritySnapshot.authzVersion hshown).symm⟩
    have hroles : (st m).db.shownRoles x.id = (st k).db.shownRoles user.id :=
      congrArg AuthoritySnapshot.roles hshown
    rw [hxid, hid] at hroles
    refine ⟨?_, ?_⟩
    · rw [← hroles]
      rcases Nat.le_total m j with hmj | hjm
      · -- the user's version has been the same from `m` to the read of its row
        have hsame := same_of_steady hrun hmj hjn hx huser (Or.inl hversions.2)
        rw [← hxid]
        exact (shownRoles_of_same hsame).symm
      · -- the epoch has been the same from the read of the state row to `m`
        have h1 := (run_grows hrun hij hjn).epoch
        have h2 := (run_grows hrun hjm hm).epoch
        have hsame := same_of_steady hrun hjm hm huser hx (Or.inr (by omega))
        rw [← hid]
        exact shownRoles_of_same hsame
    · intro l hil hlj hne
      -- `m` comes before the step that ends the epoch
      have hml : m ≤ l := by
        by_contra hlt
        have h1 := (run_grows hrun (show i ≤ l + 1 by omega) (by omega)).epoch
        have h2 := (run_grows hrun (show l + 1 ≤ m by omega) hm).epoch
        omega
      rw [versions_between hrun (show m ≤ l + 1 by omega) hlj hjn hx huser hversions,
        versions_between hrun hml (Nat.le_of_lt hlj) hjn hx huser hversions]
  · intro hundisturbed
    obtain ⟨m, him, hmj, hme, hlast⟩ := last_of_epoch st hij
    have hstill : (st j).db.userVersions? principal.userId =
        (st m).db.userVersions? principal.userId :=
      versions_still hmj fun l hl hl' =>
        hundisturbed.versions l (by omega) hl' (hlast (l + 1) (by omega) hl')
    have hversions := userVersions_some.mpr ⟨user, huser, rfl⟩
    rw [hstill] at hversions
    obtain ⟨x, hx, he⟩ := userVersions_some.mp hversions
    have hxtoken : x.tokenVersion = user.tokenVersion := congrArg Prod.fst he
    have hxauthz : x.authzVersion = user.authzVersion := congrArg Prod.snd he
    have hsame := same_of_steady hrun hmj hjn hx huser (Or.inl hxauthz.symm)
    have hxid : x.id = principal.userId := Db.id_of_liveUser? hx
    have hroles : (st j).db.shownRoles principal.userId = (st m).db.shownRoles principal.userId := by
      rw [← hxid]
      exact shownRoles_of_same hsame
    refine ⟨m, x, Nat.le_trans hmj hjn, by rw [hepoch]; exact hme, by rw [hprincipal]; exact hx,
      by rw [hprincipal, hxtoken]; exact htoken, ?_⟩
    rw [hauthority]
    refine authority_congr (hxid.trans hid.symm) ⟨hsame.flags.1.symm, hsame.flags.2.symm⟩
      ⟨hxtoken, hxauthz⟩ ?_
    rw [hid, hundisturbed.roles, hroles]

end

/-! ## a handover between the reads -/

/-- the super administrator hands over to an account whose request is under way -/
def handingOver : Nat → Call :=
  script [signUp "alice" alice, .bootstrap alice, signUp "bob" bob, .handover alice bob]

def readBefore : Db := (states sampleLibrary handingOver 3).db

def readAfter : Db := (states sampleLibrary handingOver 4).db

theorem whole_iff_before : ∃ context,
    getAuthorizationContext readBefore readBefore readBefore (bearer bob 0).principal "request" =
      .ok context ∧
    Whole (states sampleLibrary handingOver) 4 context := by
  have hok : (getAuthorizationContext readBefore readBefore readBefore (bearer bob 0).principal
      "request").isOk = true := by decide +kernel
  cases hc : getAuthorizationContext readBefore readBefore readBefore (bearer bob 0).principal
      "request" with
  | error e =>
    rw [hc] at hok
    cases hok
  | ok context =>
    refine ⟨context, rfl, ?_⟩
    have hiff := whole_iff (isRun_states sampleLibrary handingOver 4) (Nat.le_refl 3) (Nat.le_refl 3)
      (by omega) hc
    exact hiff.mpr ⟨rfl, fun m hm hm' => absurd hm' (by omega)⟩

/-- an old token of the new holder shows the super administrator's authority -/
theorem torn_by_handover : ∃ context,
    getAuthorizationContext readBefore readBefore readAfter (bearer bob 0).principal "request" =
      .ok context ∧
    context.authority.isSuperAdmin = true ∧
    ∀ m user, m ≤ 4 →
      (states sampleLibrary handingOver m).db.liveUser? context.principal.userId = some user →
      user.tokenVersion = context.principal.tokenVersion →
      (states sampleLibrary handingOver m).db.authority false user ≠ context.authority := by
  have hok : ((getAuthorizationContext readBefore readBefore readAfter (bearer bob 0).principal
      "request").toOption.map fun c => (c.authority.isSuperAdmin, c.principal.userId,
        c.principal.tokenVersion)) = some (true, bob, 0) := by decide +kernel
  have hnever : ∀ m ∈ List.range 5, ((states sampleLibrary handingOver m).db.liveUser? bob).all
      (fun u => u.tokenVersion ≠ 0 ||
        !((states sampleLibrary handingOver m).db.authority false u).isSuperAdmin) = true := by
    decide +kernel
  cases hc : getAuthorizationContext readBefore readBefore readAfter (bearer bob 0).principal
      "request" with
  | error e =>
    rw [hc] at hok
    cases hok
  | ok context =>
    rw [hc] at hok
    have hvalues := Option.some.inj hok
    have hsuper : context.authority.isSuperAdmin = true := congrArg Prod.fst hvalues
    have hbob : context.principal.userId = bob := congrArg (fun x => x.2.1) hvalues
    have hzero : context.principal.tokenVersion = 0 := congrArg (fun x => x.2.2) hvalues
    refine ⟨context, rfl, hsuper, ?_⟩
    intro m user hm hu hv he
    rw [hbob] at hu
    rw [hzero] at hv
    have hall := hnever m (List.mem_range.mpr (by omega))
    rw [hu, Option.all_some, he, hsuper, hv] at hall
    cases hall

end PgRbac
