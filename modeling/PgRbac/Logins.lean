import PgRbac.Versions

/-!
# Password logins, step by step

A login reads the account without a lock, verifies the password outside the database, and compares
the row again under the lock; when another login has upgraded the hash in between it verifies once
more and compares once more.  Anything may commit between two steps.

* `checkLogin`, `recheckLogin`   the two verifications;
* `LoginReturns`                 a login of a run that returns a user, and its last transaction;
* `login_linearised`             the answer is that of the state of this transaction;
* `Contest`, `advance`           any number of logins on one account, one step at a time;
* `Undefeated`                   the hashes that can be stored and the snapshots that can be pending;
* `concurrent_logins`            every correct login succeeds, and the hash changes at most once.
-/

set_option linter.unusedVariables false

namespace PgRbac

open Fallible Store Trace

variable {db db' : Db} {lib : PasswordLibrary}

/-! ## the verifications -/

/-- `_verify_login_snapshot` up to its first lock: the accepted snapshot, and a new hash when the
stored one is outdated -/
def checkLogin (lib : PasswordLibrary) (salt : Nat) (password : String) (requireTemporary : Bool)
    (snapshot : Option PasswordSnapshot) :
    Except Failure (Option (PasswordSnapshot × Option String)) := do
  let v ← verifyPasswordDetails lib password (snapshot.bind PasswordSnapshot.passwordHash)
  pure ((loginSnapshotAccepted snapshot v requireTemporary).map fun s =>
    (s, if v.needsRehash then some (lib.hash salt password) else none))

/-- `_verify_login_snapshot` between its two locks: is the hash that another login stored one of
this password, and current -/
def recheckLogin (lib : PasswordLibrary) (password : String) (snapshot : PasswordSnapshot) :
    Except Failure Bool := do
  let v ← verifyPasswordDetails lib password snapshot.passwordHash
  pure (v.verified && !v.needsRehash && !v.usedDummy)

theorem verifyPasswordDetails_some {password hash : String} {v : PasswordVerification}
    (h : verifyPasswordDetails lib password (some hash) = .ok v) :
    v.verified = lib.verify hash password ∧
      v.needsRehash = (lib.verify hash password && lib.checkNeedsRehash hash) ∧
      v.usedDummy = false := by
  unfold verifyPasswordDetails at h
  split at h
  · cases h
  · simp only [Option.getD_some, Option.isNone_some] at h
    split at h
    · cases h
    · cases h
      simp

theorem verifyPasswordDetails_of {password hash : String}
    (hin : validateLoginPasswordInput password = .ok ()) (hp : lib.parametersUsable hash = true) :
    verifyPasswordDetails lib password (some hash) =
      .ok ⟨lib.verify hash password, lib.verify hash password && lib.checkNeedsRehash hash, false⟩ := by
  unfold verifyPasswordDetails
  simp [hin, hp]

theorem checkLogin_accepted {salt : Nat} {password : String} {temporary : Bool}
    {read : Option PasswordSnapshot} {snapshot : PasswordSnapshot} {replacement : Option String}
    (h : checkLogin lib salt password temporary read = .ok (some (snapshot, replacement))) :
    snapshot.isActive = true ∧
      (∃ hash, snapshot.passwordHash = some hash ∧ lib.verify hash password = true) ∧
      ∀ hash, replacement = some hash → hash = lib.hash salt password := by
  unfold checkLogin at h
  simp only [bind_ok, pure_ok, Option.map_eq_some_iff, Prod.mk.injEq] at h
  obtain ⟨v, hv, s, hs, rfl, hr⟩ := h
  unfold loginSnapshotAccepted at hs
  simp only [Option.filter_eq_some_iff, Bool.and_eq_true] at hs
  obtain ⟨hread, ⟨⟨⟨⟨hver, -⟩, hsome⟩, -⟩, hact⟩, -⟩ := hs
  obtain ⟨hash, hhash⟩ := Option.isSome_iff_exists.mp hsome
  rw [hread, Option.bind_some, hhash] at hv
  refine ⟨hact, ⟨hash, hhash, (verifyPasswordDetails_some hv).1.symm.trans hver⟩, ?_⟩
  intro hash' he
  rw [he] at hr
  split at hr
  · exact (Option.some.inj hr).symm
  · cases hr

theorem recheckLogin_true {password : String} {snapshot : PasswordSnapshot} {hash : String}
    (hs : snapshot.passwordHash = some hash) (h : recheckLogin lib password snapshot = .ok true) :
    lib.verify hash password = true := by
  unfold recheckLogin at h
  simp only [bind_ok, pure_ok, Bool.and_eq_true] at h
  obtain ⟨v, hv, ⟨hver, -⟩, -⟩ := h
  rw [hs] at hv
  exact (verifyPasswordDetails_some hv).1.symm.trans hver

/-! ## the answer of one login -/

/-- a login of the run that returns a user: the states before and after its last locked transaction,
whatever else commits between its steps -/
inductive LoginReturns (lib : PasswordLibrary) (st : Nat → Postgres) (lab : Nat → Call)
    (userName password : String) (requireTemporary : Bool) (user : AuthenticatedPasswordUser) :
    Nat → Nat → Prop
  /-- one locked transaction, after an unlocked read -/
  | first {i j salt : Nat} {snapshot : PasswordSnapshot} {replacement : Option String} :
      i ≤ j →
      checkLogin lib salt password requireTemporary (loadSnapshotByUserName (st i).db userName) =
        .ok (some (snapshot, replacement)) →
      (lab j).operation = .lockedLogin snapshot replacement requireTemporary →
      lockedLogin snapshot replacement requireTemporary (st j) =
        (.ok (.authenticated user), st (j + 1)) →
      LoginReturns lib st lab userName password requireTemporary user j (j + 1)
  /-- a second one, which only reads, after a concurrent rehash -/
  | second {i j k salt : Nat} {snapshot concurrent : PasswordSnapshot}
      {replacement : Option String} :
      i ≤ j →
      checkLogin lib salt password requireTemporary (loadSnapshotByUserName (st i).db userName) =
        .ok (some (snapshot, replacement)) →
      (lab j).operation = .lockedLogin snapshot replacement requireTemporary →
      lockedLogin snapshot replacement requireTemporary (st j) =
        (.ok (.concurrentRehash concurrent), st (j + 1)) →
      recheckLogin lib password concurrent = .ok true →
      j < k →
      finalLoginBody concurrent requireTemporary (st k).db = some user →
      LoginReturns lib st lab userName password requireTemporary user k k

theorem lockedLogin_ok {snapshot : PasswordSnapshot} {replacement : Option String}
    {temporary : Bool} {s s' : Postgres} {step : LoginStep}
    (h : lockedLogin snapshot replacement temporary s = (.ok step, s')) :
    lockedLoginBody snapshot replacement temporary s.db = .ok (step, s'.db) := by
  obtain ⟨rows, hb, -⟩ := transact_ok h
  simp only [bind_ok, Prod.exists, pure_ok, Prod.mk.injEq] at hb
  obtain ⟨step', db', hb, rfl, rfl, -⟩ := hb
  exact hb

theorem sameLoginUserState_iff {u : User} {s : PasswordSnapshot} :
    sameLoginUserState u s = true ↔ u.id = s.userId ∧ u.userName = s.userName ∧
      u.deletedAt = none ∧ u.isActive = s.isActive ∧ u.tokenVersion = s.tokenVersion ∧
      u.passwordChangedAt = s.passwordChangedAt := by
  unfold sameLoginUserState sameIdentity
  simp only [Bool.and_eq_true, decide_eq_true_eq, Option.isNone_iff_eq_none, and_assoc]

theorem samePasswordState_iff {u : User} {s : PasswordSnapshot} :
    samePasswordState u s = true ↔ u.passwordHash.isSome = true ∧
      u.passwordHash = s.passwordHash ∧ u.mustChangePassword = s.mustChangePassword := by
  unfold samePasswordState
  simp only [Bool.and_eq_true, decide_eq_true_eq, and_assoc]

structure ShowsAccount (lib : PasswordLibrary) (password : String)
    (user : AuthenticatedPasswordUser) (u : User) : Prop where
  active : u.isActive = true
  token : user.tokenVersion = u.tokenVersion
  must : user.mustChangePassword = u.mustChangePassword
  verified : ∃ hash, u.passwordHash = some hash ∧ lib.verify hash password = true

theorem LoginReturns.rows {st : Nat → Postgres} {lab : Nat → Call} {userName password : String}
    {requireTemporary : Bool} {user : AuthenticatedPasswordUser} {i j : Nat}
    (h : LoginReturns lib st lab userName password requireTemporary user i j) :
    ∃ before after, (st i).db.liveUser? user.userId = some before ∧
      (st j).db.liveUser? user.userId = some after ∧ before.isActive = true ∧
      before.tokenVersion = user.tokenVersion ∧
      before.mustChangePassword = user.mustChangePassword ∧
      after.isActive = true ∧ user.tokenVersion = after.tokenVersion ∧
      user.mustChangePassword = after.mustChangePassword ∧
      ∃ hash, after.passwordHash = some hash ∧
        (lib.verify hash password = true ∨ ∃ salt, hash = lib.hash salt password) := by
  cases h with
  | @first r j salt snapshot replacement hr hcheck hop hlock =>
    obtain ⟨hact, ⟨hash, hs, hver⟩, hrepl⟩ := checkLogin_accepted hcheck
    rcases lockedLoginBody_cases (lockedLogin_ok hlock) with ⟨he, -⟩ | ⟨u, hlive, hsame, hmust, hc⟩
    · cases he
    obtain ⟨hid, -, -, hactive, -⟩ := sameLoginUserState_iff.mp hsame
    rcases hc with ⟨hpass, he, hw⟩ | ⟨he, -⟩
    · cases he
      have hlive' : (st i).db.liveUser? u.id = some u := hid ▸ hlive
      have hactive' : u.isActive = true := hactive.trans hact
      rcases hw with ⟨-, hdb⟩ | ⟨hash', users, hr, hus, hdb⟩
      · exact ⟨u, u, hlive', hdb ▸ hlive', hactive', rfl, rfl, hactive', rfl, rfl,
          hash, hpass.trans hs, Or.inl hver⟩
      · -- the transaction itself stores a fresh hash of the password
        rw [← hid] at hus
        have hafter := liveUser?_modify? hus (congrArg Db.users hdb) hlive' rfl
        exact ⟨u, _, hlive', hafter, hactive', rfl, rfl, hactive', rfl, rfl, hash', rfl,
          Or.inr ⟨salt, hrepl hash' hr⟩⟩
    · cases he
  | @second r j k salt snapshot concurrent replacement hr hcheck hop hlock hre hjk hfinal =>
    obtain ⟨hact, -, -⟩ := checkLogin_accepted hcheck
    obtain ⟨u, hlive, rfl, hsame, hpass⟩ := finalLoginBody_some hfinal
    obtain ⟨hid, -, -, hactive, -⟩ := sameLoginUserState_iff.mp hsame
    obtain ⟨hsome, hhash', -⟩ := samePasswordState_iff.mp hpass
    obtain ⟨hash, hu⟩ := Option.isSome_iff_exists.mp hsome
    have hver := recheckLogin_true (hhash'.symm.trans hu) hre
    -- the second snapshot is of a row that agreed with the first one
    have hcactive : concurrent.isActive = true := by
      rcases lockedLoginBody_cases (lockedLogin_ok hlock) with ⟨he, -⟩ | ⟨w, -, hw, -, hc⟩
      · cases he
      · obtain ⟨-, -, -, hwactive, -⟩ := sameLoginUserState_iff.mp hw
        rcases hc with ⟨-, he, -⟩ | ⟨he, -⟩
        · cases he
        · cases he
          exact hwactive.trans hact
    have hlive' : (st i).db.liveUser? u.id = some u := hid ▸ hlive
    have hactive' : u.isActive = true := hactive.trans hcactive
    exact ⟨u, u, hlive', hlive', hactive', rfl, rfl, hactive', rfl, rfl, hash, hu, Or.inl hver⟩

/-- **a login is linearised at its last locked transaction** -/
theorem login_linearised {st : Nat → Postgres} {lab : Nat → Call} {n : Nat}
    (hrun : IsRun (system lib) st lab n) {userName password : String} {requireTemporary : Bool}
    {user : AuthenticatedPasswordUser} {i j : Nat}
    (hhash : ∀ salt, lib.verify (lib.hash salt password) password = true)
    (h : LoginReturns lib st lab userName password requireTemporary user i j) (hj : j ≤ n) :
    ∃ before after, (st i).db.liveUser? user.userId = some before ∧
      (st j).db.liveUser? user.userId = some after ∧ before.isActive = true ∧
      before.tokenVersion = user.tokenVersion ∧
      before.mustChangePassword = user.mustChangePassword ∧
      ShowsAccount lib password user after := by
  obtain ⟨before, after, hb, ha, hactive, htoken, hmust, hactive', htoken', hmust', hash, hs, hver⟩ :=
    h.rows
  refine ⟨before, after, hb, ha, hactive, htoken, hmust, hactive', htoken', hmust', hash, hs, ?_⟩
  rcases hver with hver | ⟨salt, he⟩
  · exact hver
  · rw [he]
    exact hhash salt

/-- an account registers and logs in -/
def signingIn : Nat → Call :=
  script [signUp "alice" alice,
    .lockedLogin ⟨alice, "alice", true, false, 0,
      some (sampleLibrary.hash 0 "CorrectHorseBattery1"), some 0, false⟩ none false]

theorem login_linearised_signingIn :
    ∃ after, (states sampleLibrary signingIn 2).db.liveUser? alice = some after ∧
      ShowsAccount sampleLibrary "CorrectHorseBattery1" ⟨alice, 0, false⟩ after := by
  have hrun := isRun_states sampleLibrary signingIn 2
  have hcheck : checkLogin sampleLibrary 0 "CorrectHorseBattery1" false
      (loadSnapshotByUserName (states sampleLibrary signingIn 1).db "alice") =
        .ok (some (⟨alice, "alice", true, false, 0,
          some (sampleLibrary.hash 0 "CorrectHorseBattery1"), some 0, false⟩, none)) := by
    decide +kernel
  have hlock : (lockedLogin ⟨alice, "alice", true, false, 0,
      some (sampleLibrary.hash 0 "CorrectHorseBattery1"), some 0, false⟩ none false
        (states sampleLibrary signingIn 1)).1 = .ok (.authenticated ⟨alice, 0, false⟩) := by
    decide +kernel
  have hreturns : LoginReturns sampleLibrary (states sampleLibrary signingIn) signingIn "alice"
      "CorrectHorseBattery1" false ⟨alice, 0, false⟩ 1 2 :=
    .first (Nat.le_refl 1) hcheck rfl (Prod.ext hlock rfl)
  obtain ⟨-, after, -, ha, -, -, -, hshows⟩ := login_linearised hrun
    (fun _ => (by decide +kernel : sampleLibrary.verify
      (sampleLibrary.hash 0 "CorrectHorseBattery1") "CorrectHorseBattery1" = true))
    hreturns (Nat.le_refl 2)
  exact ⟨after, ha, hshows⟩

/-! ## many logins on one account -/

/-- how far a login has come -/
inductive LoginPhase where
  | started
  | read (snapshot : Option PasswordSnapshot)
  | checked (snapshot : PasswordSnapshot) (replacement : Option String)
  | rehashed (snapshot : PasswordSnapshot)
  | rechecked (snapshot : PasswordSnapshot)
  | returned (user : Option AuthenticatedPasswordUser)
  | failed (e : Failure)

/-- the store and every login -/
structure Contest (ι : Type) where
  store : Postgres
  phase : ι → LoginPhase

structure LoginRequest where
  userName : String
  password : String
  requireTemporary : Bool

section
variable {ι : Type} [DecidableEq ι] (lib : PasswordLibrary) (salt : ι → Nat)
  (request : LoginRequest)

def advancePhase (salt : Nat) (store : Postgres) : LoginPhase → LoginPhase × Postgres
  | .started => (.read (loadSnapshotByUserName store.db request.userName), store)
  | .read snapshot =>
    match checkLogin lib salt request.password request.requireTemporary snapshot with
    | .error e => (.failed e, store)
    | .ok none => (.returned none, store)
    | .ok (some (s, replacement)) => (.checked s replacement, store)
  | .checked snapshot replacement =>
    let r := lockedLogin snapshot replacement request.requireTemporary store
    match r.1 with
    | .error e => (.failed e, r.2)
    | .ok .rejected => (.returned none, r.2)
    | .ok (.authenticated user) => (.returned (some user), r.2)
    | .ok (.concurrentRehash concurrent) => (.rehashed concurrent, r.2)
  | .rehashed snapshot =>
    match recheckLogin lib request.password snapshot with
    | .error e => (.failed e, store)
    | .ok false => (.returned none, store)
    | .ok true => (.rechecked snapshot, store)
  | .rechecked snapshot =>
    (.returned (finalLoginBody snapshot request.requireTemporary store.db), store)
  | .returned user => (.returned user, store)
  | .failed e => (.failed e, store)

def Contest.advance (i : ι) (s : Contest ι) : Contest ι :=
  let r := advancePhase lib request (salt i) s.store (s.phase i)
  ⟨r.2, Function.update s.phase i r.1⟩

/-- one login takes its next step, or something commits elsewhere -/
inductive Move (ι : Type) where
  | login (i : ι)
  | elsewhere (c : Call)

/-- logins on the account of one row, which no other transaction modifies -/
def contest (account : User) : System (Contest ι) (Move ι) where
  init s := Reachable (system lib) s.store ∧ s.store.db.users.get? account.id = some account ∧
    ∀ i, s.phase i = .started
  step s m s' := match m with
    | .login i => s' = s.advance lib salt request i
    | .elsewhere c => (system lib).step s.store c s'.store ∧ s'.phase = s.phase ∧
        s'.store.db.users.get? account.id = s.store.db.users.get? account.id

/-- an active account whose stored hash verifies the requested password, under the assumptions on
the password library -/
structure CorrectLogin (account : User) (hash : String) : Prop where
  live : account.deletedAt = none
  active : account.isActive = true
  name : account.userName = request.userName
  stored : account.passwordHash = some hash
  temporary : request.requireTemporary = true → account.mustChangePassword = true
  input : validateLoginPasswordInput request.password = .ok ()
  usable : lib.parametersUsable hash = true
  verifies : lib.verify hash request.password = true
  freshUsable : ∀ n, lib.parametersUsable (lib.hash n request.password) = true
  freshVerifies : ∀ n, lib.verify (lib.hash n request.password) request.password = true
  freshCurrent : ∀ n, lib.checkNeedsRehash (lib.hash n request.password) = false

/-! ## the invariant -/

def User.withHash (u : User) (hash : String) : User := { u with passwordHash := some hash }

/-- a hash that a pending snapshot can carry: the first one, or the stored one -/
def Pending (first stored : String) (snapshot : PasswordSnapshot) (account : User) : Prop :=
  snapshot = snapshotFromUser (account.withHash first) ∨
    snapshot = snapshotFromUser (account.withHash stored)

/-- what a login can hold while the account's hash is `stored` -/
def PhaseFits (first stored : String) (account : User) (salt : Nat) : LoginPhase → Prop
  | .started => True
  | .read snapshot => ∃ s, snapshot = some s ∧ Pending first stored s account
  | .checked s replacement => Pending first stored s account ∧
      ∃ hash, s.passwordHash = some hash ∧ replacement =
        if lib.checkNeedsRehash hash then some (lib.hash salt request.password) else none
  | .rehashed s => stored ≠ first ∧ s = snapshotFromUser (account.withHash stored)
  | .rechecked s => stored ≠ first ∧ s = snapshotFromUser (account.withHash stored)
  | .returned user => user = some (authenticatedUser account)
  | .failed _ => False

/-- the stored hash is the first one, or one that replaced it because it was outdated -/
structure StoredHash (first stored : String) : Prop where
  fresh : stored = first ∨ (lib.checkNeedsRehash first = true ∧
    ∃ n, stored = lib.hash n request.password)

structure Undefeated (account : User) (first stored : String) (s : Contest ι) : Prop where
  reachable : Reachable (system lib) s.store
  row : s.store.db.users.get? account.id = some (account.withHash stored)
  hash : StoredHash lib request first stored
  phases : ∀ i, PhaseFits lib request first stored account (salt i) (s.phase i)

/-! ## one step -/

variable {lib salt request} {account : User} {first stored stored' : String}

theorem PhaseFits.mono (h : stored' = stored ∨ stored = first) {salt : Nat} {p : LoginPhase}
    (hp : PhaseFits lib request first stored account salt p) :
    PhaseFits lib request first stored' account salt p := by
  have hpending : ∀ s, Pending first stored s account → Pending first stored' s account := by
    intro s hs
    rcases h with rfl | rfl
    · exact hs
    · exact Or.inl (hs.elim id id)
  have hstored : stored ≠ first → stored' = stored := fun hne => h.resolve_right hne
  cases p with
  | started => trivial
  | read snapshot =>
    obtain ⟨s, he, hs⟩ := hp
    exact ⟨s, he, hpending s hs⟩
  | checked s replacement =>
    obtain ⟨hs, hr⟩ := hp
    exact ⟨hpending s hs, hr⟩
  | rehashed s =>
    obtain ⟨hne, he⟩ := hp
    rw [hstored hne]
    exact ⟨hne, he⟩
  | rechecked s =>
    obtain ⟨hne, he⟩ := hp
    rw [hstored hne]
    exact ⟨hne, he⟩
  | returned user => exact hp
  | failed e => exact hp

theorem CorrectLogin.pending {s : PasswordSnapshot} (hc : CorrectLogin lib request account first)
    (hh : StoredHash lib request first stored) (hs : Pending first stored s account) :
    ∃ hash, s = snapshotFromUser (account.withHash hash) ∧ lib.verify hash request.password = true ∧
      lib.parametersUsable hash = true ∧ (hash = stored ∨ hash = first) := by
  rcases hs with rfl | rfl
  · exact ⟨first, rfl, hc.verifies, hc.usable, Or.inr rfl⟩
  · refine ⟨stored, rfl, ?_, ?_, Or.inl rfl⟩
    · rcases hh.fresh with rfl | ⟨-, n, rfl⟩
      · exact hc.verifies
      · exact hc.freshVerifies n
    · rcases hh.fresh with rfl | ⟨-, n, rfl⟩
      · exact hc.usable
      · exact hc.freshUsable n

theorem StoredHash.current (hc : CorrectLogin lib request account first)
    (hh : StoredHash lib request first stored) (hne : stored ≠ first) :
    lib.checkNeedsRehash stored = false := by
  obtain ⟨-, n, rfl⟩ := hh.fresh.resolve_left hne
  exact hc.freshCurrent n

theorem Coherent.assertBaseRole (hc : Coherent db) (u : Uuid) :
    db.assertUserHasBaseRole u = .ok () := by
  unfold Db.assertUserHasBaseRole
  rw [require_ok]
  intro hlive
  obtain ⟨role, hr, hid, hk, -⟩ := hc.systemRole .user
  unfold Db.hasLiveRole
  refine List.any_eq_true.mpr ⟨systemRoleId .user, Links.mem_rights.mpr (hc.baseRole u hlive), ?_⟩
  simp only [hr, hk]
  decide

theorem upgradeHash_commits (hs : Standing db) {u : User} {old : String} (hash : String)
    (hu : db.users.get? u.id = some u) (hold : u.passwordHash = some old) :
    ∃ users, db.users.modify? u.id (User.upgradeHash hash) = .ok users ∧
      (do let db ← db.updateUser u.id (User.upgradeHash hash)
          let db ← db.commit [u.id] []
          pure (LoginStep.authenticated (authenticatedUser u), db)) =
        Except.ok (LoginStep.authenticated (authenticatedUser u), { db with users := users }) := by
  have hcheck := Table.check_of_get? hu
  obtain ⟨users, ht⟩ : ∃ users, db.users.modify? u.id (User.upgradeHash hash) = .ok users := by
    refine Table.update?_isOk ?_
    intro r hr hid
    have hrow : db.users.get? r.id = some r := Table.mem_rows_iff.mp hr
    rw [of_decide_eq_true hid, hu, Option.some.injEq] at hrow
    subst hrow
    -- the checks ask only whether there is a hash
    unfold User.checks at hcheck ⊢
    rw [hold] at hcheck
    exact hcheck
  refine ⟨users, ht, ?_⟩
  have hkept : Kept db { db with users := users, rbacState := db.rbacState } :=
    kept_modifyUser hs ht (fun _ => rfl) (fun _ => rfl)
  simp only [bind_ok, Db.updateUser_ok, Db.commit_ok, pure_ok]
  refine ⟨_, ⟨users, ht, rfl⟩, _, ⟨rfl, ?_, by simp⟩, rfl⟩
  intro x hx
  exact hkept.standing.coherent.assertBaseRole x

theorem lockedLogin_eq {snapshot : PasswordSnapshot} {replacement : Option String}
    {temporary : Bool} {s : Postgres} {step : LoginStep}
    (h : lockedLoginBody snapshot replacement temporary s.db = .ok (step, db')) :
    lockedLogin snapshot replacement temporary s = (.ok step, ⟨db', s.audit ++ []⟩) := by
  unfold lockedLogin transact
  simp only [h]
  rfl

structure PassesLock (u : User) (snapshot : PasswordSnapshot) (temporary : Bool) : Prop where
  state : sameLoginUserState u snapshot = true
  must : u.mustChangePassword = snapshot.mustChangePassword
  temporary : ¬ (temporary = true ∧ ¬ u.mustChangePassword = true)

section
variable {u : User} {snapshot : PasswordSnapshot} {temporary : Bool}

theorem PassesLock.enter (h : PassesLock u snapshot temporary) :
    ¬ (¬ sameLoginUserState u snapshot = true ∨
      u.mustChangePassword ≠ snapshot.mustChangePassword) :=
  fun hno => hno.elim (fun hs => hs h.state) (fun hm => hm h.must)

theorem PassesLock.answer (h : PassesLock u snapshot temporary)
    (hlive : db.liveUser? snapshot.userId = some u) (he : u.passwordHash = snapshot.passwordHash) :
    lockedLoginBody snapshot none temporary db = .ok (.authenticated (authenticatedUser u), db) := by
  unfold lockedLoginBody
  rw [Db.lockUsers_self, hlive]
  simp only
  rw [if_neg h.enter, if_neg h.temporary, if_pos he]

theorem PassesLock.upgrade (h : PassesLock u snapshot temporary) {hash : String}
    (hlive : db.liveUser? snapshot.userId = some u) (he : u.passwordHash = snapshot.passwordHash) :
    lockedLoginBody snapshot (some hash) temporary db = (do
      let db ← db.updateUser u.id (User.upgradeHash hash)
      let db ← db.commit [u.id] []
      pure (LoginStep.authenticated (authenticatedUser u), db)) := by
  unfold lockedLoginBody
  rw [Db.lockUsers_self, hlive]
  simp only
  rw [if_neg h.enter, if_neg h.temporary, if_pos he]

theorem PassesLock.concurrent (h : PassesLock u snapshot temporary) {hash : String}
    (hlive : db.liveUser? snapshot.userId = some u) (he : u.passwordHash ≠ snapshot.passwordHash)
    (hsome : u.passwordHash ≠ none) :
    lockedLoginBody snapshot (some hash) temporary db =
      .ok (.concurrentRehash (snapshotFromUser u), db) := by
  unfold lockedLoginBody
  rw [Db.lockUsers_self, hlive]
  simp only
  rw [if_neg h.enter, if_neg h.temporary, if_neg he, if_neg (not_or.mpr ⟨by simp, hsome⟩)]

end

theorem CorrectLogin.passesLock (hc : CorrectLogin lib request account first) (hash : String) :
    PassesLock (account.withHash stored) (snapshotFromUser (account.withHash hash))
      request.requireTemporary where
  state := sameLoginUserState_iff.mpr ⟨rfl, rfl, hc.live, rfl, rfl, rfl⟩
  must := rfl
  temporary h := h.2 (hc.temporary h.1)

/-- **the first locked transaction of a correct login never refuses it** -/
theorem lockedLogin_undefeated (hc : CorrectLogin lib request account first) {store : Postgres}
    (hr : Reachable (system lib) store)
    (hrow : store.db.users.get? account.id = some (account.withHash stored))
    (hh : StoredHash lib request first stored) {hash : String} {n : Nat}
    {replacement : Option String} (hhash : hash = stored ∨ hash = first)
    (hrepl : replacement =
      if lib.checkNeedsRehash hash then some (lib.hash n request.password) else none) :
    ∃ stored' step db', lockedLoginBody (snapshotFromUser (account.withHash hash)) replacement
        request.requireTemporary store.db = .ok (step, db') ∧
      (stored' = stored ∨ stored = first) ∧
      db'.users.get? account.id = some (account.withHash stored') ∧
      StoredHash lib request first stored' ∧
      (step = .authenticated (authenticatedUser account) ∨
        (stored' ≠ first ∧
          step = .concurrentRehash (snapshotFromUser (account.withHash stored')))) := by
  have hlive : store.db.liveUser? (snapshotFromUser (account.withHash hash)).userId =
      some (account.withHash stored) := Db.liveUser?_eq_some.mpr ⟨hrow, hc.live⟩
  have hpass : PassesLock (account.withHash stored) (snapshotFromUser (account.withHash hash))
      request.requireTemporary := hc.passesLock hash
  by_cases he : stored = hash
  · have hsame : (account.withHash stored).passwordHash =
        (snapshotFromUser (account.withHash hash)).passwordHash := congrArg some he
    by_cases hold : lib.checkNeedsRehash hash = true
    · -- an outdated hash is the first one, and is replaced here
      rw [if_pos hold] at hrepl
      have hfirst : stored = first := by
        by_contra hne
        have hcur := hh.current hc hne
        rw [he, hold] at hcur
        cases hcur
      obtain ⟨users, ht, hdo⟩ := upgradeHash_commits (reachable_standing hr)
        (lib.hash n request.password) (show _ = some (account.withHash stored) from hrow) rfl
      refine ⟨lib.hash n request.password, _, { store.db with users := users }, ?_, Or.inr hfirst,
        ?_, ⟨Or.inr ⟨by rw [← hfirst, he]; exact hold, n, rfl⟩⟩, Or.inl rfl⟩
      · rw [hrepl, hpass.upgrade hlive hsame]
        exact hdo
      · show users.get? account.id = _
        have hget := Table.get?_modify? ht account.id
        rw [if_pos (show account.id = (account.withHash stored).id from rfl), hrow] at hget
        exact hget
    · rw [if_neg hold] at hrepl
      refine ⟨stored, _, store.db, ?_, Or.inl rfl, hrow, hh, Or.inl rfl⟩
      rw [hrepl]
      exact hpass.answer hlive hsame
  · -- the hash of the snapshot has been replaced: it was outdated, so this login has a new one too
    have hfirst : hash = first := hhash.resolve_left (fun e => he e.symm)
    have hne : stored ≠ first := fun e => he (e.trans hfirst.symm)
    obtain ⟨hold, -⟩ := hh.fresh.resolve_left hne
    rw [hfirst, if_pos hold] at hrepl
    refine ⟨stored, _, store.db, ?_, Or.inl rfl, hrow, hh, Or.inr ⟨hne, rfl⟩⟩
    rw [hrepl]
    refine hpass.concurrent hlive ?_ (by simp [User.withHash])
    exact fun e => he (Option.some.inj e)

theorem checkLogin_undefeated (hc : CorrectLogin lib request account first)
    (hh : StoredHash lib request first stored) {s : PasswordSnapshot}
    (hs : Pending first stored s account) (n : Nat) :
    ∃ replacement, checkLogin lib n request.password request.requireTemporary (some s) =
        .ok (some (s, replacement)) ∧
      PhaseFits lib request first stored account n (.checked s replacement) := by
  obtain ⟨hash, hsnap, hver, huse, -⟩ := hc.pending hh hs
  have hhash : s.passwordHash = some hash := by rw [hsnap]; rfl
  refine ⟨if lib.checkNeedsRehash hash then some (lib.hash n request.password) else none, ?_,
    hs, hash, hhash, rfl⟩
  unfold checkLogin
  rw [Option.bind_some, hhash, verifyPasswordDetails_of hc.input huse]
  have haccept : loginSnapshotAccepted (some s)
      ⟨lib.verify hash request.password,
        lib.verify hash request.password && lib.checkNeedsRehash hash, false⟩
      request.requireTemporary = some s := by
    unfold loginSnapshotAccepted
    rw [Option.filter_eq_some_iff]
    refine ⟨rfl, ?_⟩
    rw [hver, hhash, hsnap]
    have ht := hc.temporary
    simp only [snapshotFromUser, User.withHash, hc.live, hc.active]
    cases hr : request.requireTemporary with
    | false => rfl
    | true => simp [ht hr]
  show Except.ok _ = _
  rw [haccept, hver, Bool.true_and]
  rfl

/-- the second verification meets a fresh hash of the same password -/
theorem recheckLogin_undefeated (hc : CorrectLogin lib request account first)
    (hh : StoredHash lib request first stored) (hne : stored ≠ first) :
    recheckLogin lib request.password (snapshotFromUser (account.withHash stored)) = .ok true := by
  have hcur := hh.current hc hne
  obtain ⟨-, n, rfl⟩ := hh.fresh.resolve_left hne
  unfold recheckLogin
  rw [show (snapshotFromUser (account.withHash (lib.hash n request.password))).passwordHash =
    some (lib.hash n request.password) from rfl,
    verifyPasswordDetails_of hc.input (hc.freshUsable n), hc.freshVerifies n, hcur]
  rfl

theorem finalLogin_undefeated (hc : CorrectLogin lib request account first)
    (hrow : db.users.get? account.id = some (account.withHash stored)) :
    finalLoginBody (snapshotFromUser (account.withHash stored)) request.requireTemporary db =
      some (authenticatedUser account) := by
  have hlive : db.liveUser? (snapshotFromUser (account.withHash stored)).userId =
      some (account.withHash stored) := Db.liveUser?_eq_some.mpr ⟨hrow, hc.live⟩
  have hpass : PassesLock (account.withHash stored) (snapshotFromUser (account.withHash stored))
      request.requireTemporary := hc.passesLock stored
  have hsame : samePasswordState (account.withHash stored)
      (snapshotFromUser (account.withHash stored)) = true :=
    samePasswordState_iff.mpr ⟨rfl, rfl, rfl⟩
  unfold finalLoginBody
  rw [Db.lockUsers_self, hlive]
  simp only
  rw [if_neg (not_or.mpr ⟨not_not.mpr hpass.state, not_not.mpr hsame⟩), if_neg hpass.temporary]
  rfl

/-- **one step of one login** keeps the account and what this login holds -/
theorem advancePhase_undefeated (hc : CorrectLogin lib request account first) {store : Postgres}
    (hr : Reachable (system lib) store)
    (hrow : store.db.users.get? account.id = some (account.withHash stored))
    (hh : StoredHash lib request first stored) {n : Nat} {p : LoginPhase}
    (hp : PhaseFits lib request first stored account n p) :
    ∃ stored', (stored' = stored ∨ stored = first) ∧
      Reachable (system lib) (advancePhase lib request n store p).2 ∧
      (advancePhase lib request n store p).2.db.users.get? account.id =
        some (account.withHash stored') ∧
      StoredHash lib request first stored' ∧
      PhaseFits lib request first stored' account n (advancePhase lib request n store p).1 := by
  cases p with
  | started =>
    have hfind : store.db.users.findBy? request.userName = some (account.withHash stored) :=
      Table.findBy?_iff_get?.mpr ⟨hrow, hc.name⟩
    refine ⟨stored, Or.inl rfl, hr, hrow, hh, snapshotFromUser (account.withHash stored), ?_,
      Or.inr rfl⟩
    unfold loadSnapshotByUserName
    rw [hfind]
    rfl
  | read snapshot =>
    obtain ⟨s, rfl, hs⟩ := hp
    obtain ⟨replacement, he, hfits⟩ := checkLogin_undefeated hc hh hs n
    unfold advancePhase
    simp only [he]
    exact ⟨stored, Or.inl rfl, hr, hrow, hh, hfits⟩
  | checked s replacement =>
    obtain ⟨hs, hash, hhash, hrepl⟩ := hp
    obtain ⟨hash', rfl, -, -, hone⟩ := hc.pending hh hs
    cases hhash
    obtain ⟨stored', step, db', hbody, hkeep, hrow', hh', hstep⟩ :=
      lockedLogin_undefeated hc hr hrow hh hone hrepl
    have hlocked := lockedLogin_eq hbody
    have hreach : Reachable (system lib) ⟨db', store.audit ++ []⟩ := by
      refine .step ⟨0, .lockedLogin (snapshotFromUser (account.withHash hash)) replacement
        request.requireTemporary⟩ hr ?_
      show (discard (lockedLogin (snapshotFromUser (account.withHash hash)) replacement
        request.requireTemporary store)).2 = _
      rw [hlocked]
      rfl
    unfold advancePhase
    simp only [hlocked]
    rcases hstep with rfl | ⟨hne, rfl⟩
    · exact ⟨stored', hkeep, hreach, hrow', hh', rfl⟩
    · exact ⟨stored', hkeep, hreach, hrow', hh', hne, rfl⟩
  | rehashed s =>
    obtain ⟨hne, rfl⟩ := hp
    unfold advancePhase
    simp only [recheckLogin_undefeated hc hh hne]
    exact ⟨stored, Or.inl rfl, hr, hrow, hh, hne, rfl⟩
  | rechecked s =>
    obtain ⟨hne, rfl⟩ := hp
    exact ⟨stored, Or.inl rfl, hr, hrow, hh, finalLogin_undefeated hc hrow⟩
  | returned user => exact ⟨stored, Or.inl rfl, hr, hrow, hh, hp⟩
  | failed e => exact hp.elim

theorem Undefeated.step (hc : CorrectLogin lib request account first) {s s' : Contest ι}
    {m : Move ι} (h : Undefeated lib salt request account first stored s)
    (hs : (contest lib salt request account).step s m s') :
    ∃ stored', (stored' = stored ∨ stored = first) ∧
      Undefeated lib salt request account first stored' s' := by
  cases m with
  | login i =>
    obtain ⟨stored', hkeep, hr, hrow, hh, hfits⟩ :=
      advancePhase_undefeated hc h.reachable h.row h.hash (h.phases i)
    have hs' : s' = s.advance lib salt request i := hs
    rw [hs']
    refine ⟨stored', hkeep, hr, hrow, hh, ?_⟩
    intro j
    by_cases e : j = i
    · rw [e]
      show PhaseFits _ _ _ _ _ _ (Function.update s.phase i _ i)
      rw [Function.update_self]
      exact hfits
    · show PhaseFits _ _ _ _ _ _ (Function.update s.phase i _ j)
      rw [Function.update_of_ne e]
      exact (h.phases j).mono hkeep
  | elsewhere c =>
    obtain ⟨hstep, hphase, hrow⟩ := hs
    refine ⟨stored, Or.inl rfl, .step c h.reachable hstep, hrow.trans h.row, h.hash, ?_⟩
    intro j
    rw [hphase]
    exact h.phases j

/-! ## runs of many logins -/

/-- how many steps a login has taken in the first moves of a run -/
def Move.isLogin (i : ι) : Move ι → Bool
  | .login j => decide (j = i)
  | .elsewhere _ => false

def turns (moves : Nat → Move ι) (i : ι) : Nat → Nat
  | 0 => 0
  | m + 1 => turns moves i m + if (moves m).isLogin i then 1 else 0

/-- the steps that a login in this phase has behind it, of at most five -/
def LoginPhase.rank : LoginPhase → Nat
  | .started => 0
  | .read _ => 1
  | .checked _ _ => 2
  | .rehashed _ => 3
  | .rechecked _ => 4
  | .returned _ => 5
  | .failed _ => 5

/-- every step of a login brings it nearer to its end -/
theorem rank_advancePhase (n : Nat) (store : Postgres) (p : LoginPhase) :
    min 5 (p.rank + 1) ≤ (advancePhase lib request n store p).1.rank := by
  cases p with
  | started => exact Nat.le_refl 1
  | read snapshot =>
    cases hcheck : checkLogin lib n request.password request.requireTemporary snapshot with
    | error e => simp [advancePhase, hcheck, LoginPhase.rank]
    | ok r =>
      cases r with
      | none => simp [advancePhase, hcheck, LoginPhase.rank]
      | some r => simp [advancePhase, hcheck, LoginPhase.rank]
  | checked s replacement =>
    cases hlock : (lockedLogin s replacement request.requireTemporary store).1 with
    | error e => simp [advancePhase, hlock, LoginPhase.rank]
    | ok step => cases step <;> simp [advancePhase, hlock, LoginPhase.rank]
  | rehashed s =>
    cases hcheck : recheckLogin lib request.password s with
    | error e => simp [advancePhase, hcheck, LoginPhase.rank]
    | ok b => cases b <;> simp [advancePhase, hcheck, LoginPhase.rank]
  | rechecked s => exact Nat.le_refl 5
  | returned user => exact Nat.min_le_left 5 6
  | failed e => exact Nat.min_le_left 5 6

section
variable {st : Nat → Contest ι} {moves : Nat → Move ι} {n : Nat}

theorem turns_le_rank (h : IsRun (contest lib salt request account) st moves n) (i : ι) {m : Nat}
    (hm : m ≤ n) : min 5 (turns moves i m) ≤ ((st m).phase i).rank := by
  induction m with
  | zero => exact Nat.min_le_right 5 0 |>.trans (Nat.zero_le _)
  | succ m ih =>
    have hprev := ih (by omega)
    have hstep := h.next m (by omega)
    unfold turns
    cases hmove : moves m with
    | login j =>
      rw [hmove] at hstep
      have hs' : st (m + 1) = (st m).advance lib salt request j := hstep
      rw [hs']
      by_cases e : j = i
      · subst e
        have hrank : min 5 (((st m).phase j).rank + 1) ≤
            (advancePhase lib request (salt j) (st m).store ((st m).phase j)).1.rank :=
          rank_advancePhase (salt j) (st m).store ((st m).phase j)
        show _ ≤ (Function.update (st m).phase j _ j).rank
        rw [Function.update_self]
        simp only [Move.isLogin, decide_true, if_true]
        omega
      · show _ ≤ (Function.update (st m).phase j _ i).rank
        rw [Function.update_of_ne (fun he => e he.symm)]
        simp only [Move.isLogin, e, decide_false, Bool.false_eq_true, if_false, Nat.add_zero]
        exact hprev
    | elsewhere c =>
      rw [hmove] at hstep
      rw [hstep.2.1]
      simp only [Move.isLogin, Bool.false_eq_true, if_false, Nat.add_zero]
      exact hprev

theorem run_undefeated (hc : CorrectLogin lib request account first)
    (h : IsRun (contest lib salt request account) st moves n) {m : Nat} (hm : m ≤ n) :
    ∃ stored, Undefeated lib salt request account first stored (st m) := by
  induction m with
  | zero =>
    obtain ⟨hr, hrow, hphase⟩ := h.start
    refine ⟨first, hr, ?_, ⟨Or.inl rfl⟩, fun i => by rw [hphase i]; trivial⟩
    rw [hrow]
    obtain ⟨id, name, active, prot, token, authz, pw, must, changed, deleted⟩ := account
    have hpw : pw = some first := hc.stored
    rw [hpw]
    rfl
  | succ m ih =>
    obtain ⟨stored, hprev⟩ := ih (by omega)
    obtain ⟨stored', -, hnext⟩ := hprev.step hc (h.next m (by omega))
    exact ⟨stored', hnext⟩

theorem run_settled (hc : CorrectLogin lib request account first)
    (h : IsRun (contest lib salt request account) st moves n) {k l : Nat} (hkl : k ≤ l) (hl : l ≤ n)
    (hk : Undefeated lib salt request account first stored (st k)) (hne : stored ≠ first) :
    Undefeated lib salt request account first stored (st l) := by
  induction l with
  | zero =>
    have e : k = 0 := by omega
    exact e ▸ hk
  | succ l ih =>
    rcases Nat.eq_or_lt_of_le hkl with e | hlt
    · exact e ▸ hk
    · obtain ⟨stored', hkeep, hnext⟩ := (ih (by omega) (by omega)).step hc (h.next l (by omega))
      rw [hkeep.resolve_right hne] at hnext
      exact hnext

def HashChanged (db db' : Db) (id : Uuid) : Prop :=
  (db'.users.get? id).map User.passwordHash ≠ (db.users.get? id).map User.passwordHash

/-- **logins with the correct password on one active account never defeat each other**: none fails
or is refused, each returns the account within five of its own steps, the row keeps its token version
and the time of its password, and its hash changes at most once -/
theorem concurrent_logins (hc : CorrectLogin lib request account first)
    (h : IsRun (contest lib salt request account) st moves n) :
    (∀ m ≤ n, ∀ i, 5 ≤ turns moves i m → (st m).phase i = .returned (some (authenticatedUser account)))
      ∧
    (∀ m ≤ n, ∀ i, (∀ e, (st m).phase i ≠ .failed e) ∧
      ∀ r, (st m).phase i = .returned r → r = some (authenticatedUser account)) ∧
    (∀ m ≤ n, ∃ row, (st m).store.db.users.get? account.id = some row ∧
      row.tokenVersion = account.tokenVersion ∧
      row.passwordChangedAt = account.passwordChangedAt) ∧
    ∀ k l, k < n → l < n → HashChanged (st k).store.db (st (k + 1)).store.db account.id →
      HashChanged (st l).store.db (st (l + 1)).store.db account.id → k = l := by
  have hphase : ∀ m ≤ n, ∀ i, (∀ e, (st m).phase i ≠ .failed e) ∧
      ∀ r, (st m).phase i = .returned r → r = some (authenticatedUser account) := by
    intro m hm i
    obtain ⟨stored, hu⟩ := run_undefeated hc h hm
    have hfits := hu.phases i
    constructor
    · intro e he
      rw [he] at hfits
      exact hfits
    · intro r hr
      rw [hr] at hfits
      exact hfits
  refine ⟨?_, hphase, ?_, ?_⟩
  · intro m hm i hturns
    obtain ⟨hfail, hret⟩ := hphase m hm i
    have hrank := turns_le_rank h i hm
    rw [Nat.min_eq_left hturns] at hrank
    cases hp : (st m).phase i with
    | returned r => rw [hret r hp]
    | failed e => exact absurd hp (hfail e)
    | started => rw [hp] at hrank; simp [LoginPhase.rank] at hrank
    | read _ => rw [hp] at hrank; simp [LoginPhase.rank] at hrank
    | checked _ _ => rw [hp] at hrank; simp [LoginPhase.rank] at hrank
    | rehashed _ => rw [hp] at hrank; simp [LoginPhase.rank] at hrank
    | rechecked _ => rw [hp] at hrank; simp [LoginPhase.rank] at hrank
  · intro m hm
    obtain ⟨stored, hu⟩ := run_undefeated hc h hm
    exact ⟨_, hu.row, rfl, rfl⟩
  · -- the first change leaves a hash that stays
    have honce : ∀ k l, k < l → l < n →
        HashChanged (st k).store.db (st (k + 1)).store.db account.id →
        ¬ HashChanged (st l).store.db (st (l + 1)).store.db account.id := by
      intro k l hkl hl hk hchanged
      obtain ⟨stored, hu⟩ := run_undefeated hc h (show k ≤ n by omega)
      obtain ⟨stored', hkeep, hnext⟩ := hu.step hc (h.next k (by omega))
      have hdiff : stored' ≠ stored := by
        intro e
        apply hk
        rw [hu.row, hnext.row, e]
      have hfirst := hkeep.resolve_left hdiff
      have hne : stored' ≠ first := fun e => hdiff (e.trans hfirst.symm)
      have hsettled := run_settled hc h (show k + 1 ≤ l from hkl) (by omega) hnext hne
      have hsettled' := run_settled hc h (show k + 1 ≤ l + 1 by omega) (by omega) hnext hne
      apply hchanged
      rw [hsettled.row, hsettled'.row]
    intro k l hk hl hck hcl
    rcases Nat.lt_trichotomy k l with hlt | rfl | hlt
    · exact absurd hcl (honce k l hlt hl hck)
    · rfl
    · exact absurd hck (honce l k hlt hk hcl)

end

end

/-- `CorrectHorseBattery1` under a salt of eight bytes, half of what is drawn today -/
def agedHash : String :=
  "$argon2id$v=19$m=65536,t=3,p=4$c2FsdHNhbHQ$zuvpE/OmRgIsmSKbXgP+97lVzNbQdrkAl1hN+bgDb3Y"

/-- the library, which knows this hash too -/
def agedLibrary : PasswordLibrary :=
  { sampleLibrary with
    verify := fun encoded password =>
      sampleLibrary.verify encoded password ||
        (encoded == agedHash && password == "CorrectHorseBattery1")
    checkNeedsRehash := fun encoded => encoded == agedHash
    parametersUsable := fun encoded => encoded == agedHash || sampleLibrary.parametersUsable encoded }

def agedRequest : LoginRequest := ⟨"alice", "CorrectHorseBattery1", false⟩

def agedAccount : User :=
  ⟨alice, "alice", true, false, 0, 1, some agedHash, false, some 0, none⟩

/-- two logins take turns on an outdated hash -/
def duel : Nat → Contest Bool
  | 0 => ⟨states agedLibrary (script [.register "alice" agedHash alice "request"]) 1,
      fun _ => .started⟩
  | m + 1 => (duel m).advance agedLibrary (fun _ => 0) agedRequest (m % 2 == 0)

theorem concurrent_logins_duel :
    (∀ i, (duel 10).phase i = .returned (some ⟨alice, 0, false⟩)) ∧
      HashChanged (duel 4).store.db (duel 5).store.db alice := by
  have hcorrect : CorrectLogin agedLibrary agedRequest agedAccount agedHash :=
    { live := rfl
      active := rfl
      name := rfl
      stored := rfl
      temporary := fun h => by cases h
      input := by decide +kernel
      usable := by decide +kernel
      verifies := by decide +kernel
      freshUsable := fun _ => (by decide +kernel :
        agedLibrary.parametersUsable (sampleLibrary.hash 0 "CorrectHorseBattery1") = true)
      freshVerifies := fun _ => (by decide +kernel :
        agedLibrary.verify (sampleLibrary.hash 0 "CorrectHorseBattery1") "CorrectHorseBattery1" = true)
      freshCurrent := fun _ => (by decide +kernel :
        agedLibrary.checkNeedsRehash (sampleLibrary.hash 0 "CorrectHorseBattery1") = false) }
  have hrun : IsRun (contest agedLibrary (fun _ => 0) agedRequest agedAccount) duel
      (fun m => .login (m % 2 == 0)) 10 := by
    refine ⟨⟨?_, by decide +kernel, fun _ => rfl⟩, fun _ _ => rfl⟩
    exact (isRun_states agedLibrary _ 1).reachable (Nat.le_refl 1)
  refine ⟨?_, by unfold HashChanged; decide +kernel⟩
  intro i
  refine (concurrent_logins hcorrect hrun).1 10 (Nat.le_refl 10) i ?_
  cases i <;> decide

end PgRbac
