import PgRbac.Logins

/-!
# Credential commands are compare-and-set

`change_password` and `complete_password_reset` verify the submitted password against an unlocked
read, hash the new password, and only then lock the row and compare it with what they read.  The
two compare different fields; with the checks on the read they come to the same.

* `CredentialCommand`     the two commands, and what each does before its lock;
* `Commits`               a command of a run whose locked transaction commits;
* `Swaps`                 the row it finds is the one it verified, and its version grows;
* `credential_commands`   so one state of the row serves at most one command.
-/

set_option linter.unusedVariables false

namespace PgRbac

open Fallible Store Trace

variable {db db' : Db} {lib : PasswordLibrary}

/-! ## before the lock -/

/-- a refused verification of `_reauthenticate_actor` is answered as a wrong current password -/
def currentPasswordVerified :
    Except Failure (Option PasswordSnapshot) → Except Failure PasswordSnapshot
  | .ok (some snapshot) => .ok snapshot
  | .ok none => .error (forbidden "current_password_invalid")
  | .error .invalidCredentials => .error (forbidden "current_password_invalid")
  | .error e => .error e

@[simp] theorem currentPasswordVerified_ok {x : Except Failure (Option PasswordSnapshot)}
    {snapshot : PasswordSnapshot} :
    currentPasswordVerified x = .ok snapshot ↔ x = .ok (some snapshot) := by
  rcases x with e | (_ | s)
  · cases e <;> simp [currentPasswordVerified]
  · simp [currentPasswordVerified]
  · simp [currentPasswordVerified]

/-- `change_password` up to its lock: the snapshot it verified, and the new hash -/
def prepareChange (lib : PasswordLibrary) (salt : Nat) (context : AuthorizationContext)
    (currentPassword newPassword : String) (read : Option PasswordSnapshot) :
    Except Failure (PasswordSnapshot × String) := do
  require (currentPassword ≠ newPassword) (invalidRequest "new_password_must_differ")
  let snapshot ← currentPasswordVerified do
    let v ← verifyPasswordDetails lib currentPassword (read.bind PasswordSnapshot.passwordHash)
    pure (reauthenticated context read v.verified)
  let newHash ← hashNewPassword lib salt newPassword [snapshot.userName]
  pure (snapshot, newHash)

/-- `complete_password_reset` up to its lock -/
def prepareCompletion (lib : PasswordLibrary) (salt : Nat)
    (temporaryPassword newPassword : String) (read : Option PasswordSnapshot) :
    Except Failure (PasswordSnapshot × String) := do
  require (temporaryPassword ≠ newPassword) (invalidRequest "new_password_must_differ")
  let v ← verifyPasswordDetails lib temporaryPassword (read.bind PasswordSnapshot.passwordHash)
  let snapshot ← orRaise (temporaryAccepted read v.verified) .invalidCredentials
  let newHash ← hashNewPassword lib salt newPassword [snapshot.userName]
  pure (snapshot, newHash)

inductive CredentialCommand where
  | changePassword (context : AuthorizationContext) (currentPassword newPassword : String)
  | completePasswordReset (userName temporaryPassword newPassword requestId : String)

namespace CredentialCommand

/-- the password that the command verifies -/
def submitted : CredentialCommand → String
  | changePassword _ currentPassword _ => currentPassword
  | completePasswordReset _ temporaryPassword _ _ => temporaryPassword

/-- is the submitted password a temporary one -/
def completes : CredentialCommand → Bool
  | changePassword .. => false
  | completePasswordReset .. => true

/-- the unlocked read -/
def load (db : Db) : CredentialCommand → Option PasswordSnapshot
  | changePassword context _ _ => loadSnapshotByUserId db context.principal.userId
  | completePasswordReset userName _ _ _ => loadSnapshotByUserName db userName

def prepare (lib : PasswordLibrary) (salt : Nat) (read : Option PasswordSnapshot) :
    CredentialCommand → Except Failure (PasswordSnapshot × String)
  | changePassword context currentPassword newPassword =>
    prepareChange lib salt context currentPassword newPassword read
  | completePasswordReset _ temporaryPassword newPassword _ =>
    prepareCompletion lib salt temporaryPassword newPassword read

/-- the locked transaction -/
def commit (snapshot : PasswordSnapshot) (newHash : String) : CredentialCommand → Operation
  | changePassword context _ _ => .changePassword context snapshot newHash
  | completePasswordReset _ _ _ requestId => .completePasswordReset snapshot newHash requestId

end CredentialCommand

/-- what the accepted snapshot of a command is known to be -/
structure Verified (lib : PasswordLibrary) (cmd : CredentialCommand)
    (snapshot : PasswordSnapshot) : Prop where
  active : snapshot.isActive = true
  must : snapshot.mustChangePassword = cmd.completes
  password : ∃ hash, snapshot.passwordHash = some hash ∧ lib.verify hash cmd.submitted = true
  bearer : ∀ context current new, cmd = .changePassword context current new →
    snapshot.tokenVersion = context.principal.tokenVersion

theorem verified_hash {password : String} {snapshot : PasswordSnapshot} {v : PasswordVerification}
    (hv : verifyPasswordDetails lib password snapshot.passwordHash = .ok v)
    (hsome : snapshot.passwordHash.isSome = true) (hver : v.verified = true) :
    ∃ hash, snapshot.passwordHash = some hash ∧ lib.verify hash password = true := by
  obtain ⟨hash, hhash⟩ := Option.isSome_iff_exists.mp hsome
  rw [hhash] at hv
  exact ⟨hash, hhash, (verifyPasswordDetails_some hv).1.symm.trans hver⟩

theorem prepareChange_ok {salt : Nat} {context : AuthorizationContext} {current new : String}
    {read : Option PasswordSnapshot} {snapshot : PasswordSnapshot} {newHash : String}
    (h : prepareChange lib salt context current new read = .ok (snapshot, newHash)) :
    Verified lib (.changePassword context current new) snapshot := by
  unfold prepareChange at h
  simp only [bind_ok, require_ok, currentPasswordVerified_ok, pure_ok, Prod.mk.injEq] at h
  obtain ⟨-, -, s, ⟨v, hv, hs⟩, hash', -, rfl, -⟩ := h
  unfold reauthenticated at hs
  simp only [Option.filter_eq_some_iff, Bool.and_eq_true, Bool.not_eq_true',
    decide_eq_true_eq] at hs
  obtain ⟨rfl, ⟨⟨⟨⟨hver, hsome⟩, -⟩, hact⟩, hmust⟩, htoken⟩ := hs
  refine ⟨hact, hmust, verified_hash hv hsome hver, ?_⟩
  intro context' current' new' he
  cases he
  exact htoken

theorem prepareCompletion_ok {salt : Nat} {userName temporary new requestId : String}
    {read : Option PasswordSnapshot} {snapshot : PasswordSnapshot} {newHash : String}
    (h : prepareCompletion lib salt temporary new read = .ok (snapshot, newHash)) :
    Verified lib (.completePasswordReset userName temporary new requestId) snapshot := by
  unfold prepareCompletion at h
  simp only [bind_ok, require_ok, orRaise_ok, pure_ok, Prod.mk.injEq] at h
  obtain ⟨-, -, v, hv, s, hs, hash', -, rfl, -⟩ := h
  unfold temporaryAccepted at hs
  simp only [Option.filter_eq_some_iff, Bool.and_eq_true] at hs
  obtain ⟨rfl, ⟨⟨⟨hver, hsome⟩, -⟩, hact⟩, hmust⟩ := hs
  refine ⟨hact, hmust, verified_hash hv hsome hver, ?_⟩
  intro context' current' new' he
  cases he

theorem prepare_ok {salt : Nat} {cmd : CredentialCommand} {read : Option PasswordSnapshot}
    {snapshot : PasswordSnapshot} {newHash : String}
    (h : cmd.prepare lib salt read = .ok (snapshot, newHash)) : Verified lib cmd snapshot := by
  cases cmd with
  | changePassword context current new => exact prepareChange_ok h
  | completePasswordReset userName temporary new requestId => exact prepareCompletion_ok h

/-! ## the locked comparison -/

/-- the row under the lock is the one of the snapshot, and the write ends its logins -/
structure Swaps (db db' : Db) (snapshot : PasswordSnapshot) (row row' : User) : Prop where
  before : db.liveUser? snapshot.userId = some row
  after : db'.liveUser? snapshot.userId = some row'
  hash : row.passwordHash = snapshot.passwordHash
  must : row.mustChangePassword = snapshot.mustChangePassword
  token : row.tokenVersion = snapshot.tokenVersion
  active : row.isActive = snapshot.isActive
  ended : row.tokenVersion < row'.tokenVersion
  permanent : row'.mustChangePassword = false

theorem changePasswordBody_swaps {context : AuthorizationContext} {snapshot : PasswordSnapshot}
    {newHash : String} {now : Nat} {b : Bool} {rows : List AuditRow}
    (h : changePasswordBody context snapshot newHash now db = .ok (b, db', rows))
    (hact : snapshot.isActive = true)
    (htoken : snapshot.tokenVersion = context.principal.tokenVersion) :
    ∃ row row', Swaps db db' snapshot row row' := by
  unfold changePasswordBody at h
  simp only [bind_ok, require_ok, orRaise_ok, Db.lockUsers_self, Option.filter_eq_some_iff,
    Bool.and_eq_true, decide_eq_true_eq, Db.updateUser_ok, Db.commit_ok, pure_ok,
    Prod.mk.injEq] at h
  obtain ⟨u, ⟨hu, ⟨ha, ht⟩, hsame⟩, -, hpass, _, ⟨users, hus, rfl⟩, _, ⟨rfl, -, -⟩, -, rfl, -⟩ := h
  unfold sameIdentity at hsame
  simp only [Bool.and_eq_true, decide_eq_true_eq] at hsame
  have hid := Db.id_of_liveUser? hu
  have hkey : context.principal.userId = snapshot.userId := hid.symm.trans hsame.1.1
  obtain ⟨-, hhash, hmust⟩ := samePasswordState_iff.mp hpass
  rw [hid, hkey] at hus
  rw [hkey] at hu
  exact ⟨u, _, hu, liveUser?_modify? hus rfl hu rfl, hhash, hmust, ht.trans htoken.symm,
    ha.trans hact.symm, Nat.lt_succ_self _, rfl⟩

theorem completePasswordResetBody_swaps {snapshot : PasswordSnapshot}
    {newHash requestId : String} {now : Nat} {b : Bool} {rows : List AuditRow}
    (h : completePasswordResetBody snapshot newHash requestId now db = .ok (b, db', rows)) :
    ∃ row row', Swaps db db' snapshot row row' := by
  unfold completePasswordResetBody at h
  simp only [bind_ok, require_ok, orRaise_ok, Db.lockUsers_self, Option.filter_eq_some_iff,
    Db.updateUser_ok, Db.commit_ok, pure_ok, Prod.mk.injEq] at h
  obtain ⟨u, ⟨hu, -⟩, -, ⟨hstate, hpass⟩, -, -, _, ⟨users, hus, rfl⟩, _, ⟨rfl, -, -⟩, -, rfl, -⟩ := h
  obtain ⟨hid, -, -, hact, htoken, -⟩ := sameLoginUserState_iff.mp hstate
  obtain ⟨-, hhash, hmust⟩ := samePasswordState_iff.mp hpass
  rw [hid] at hus
  exact ⟨u, _, hu, liveUser?_modify? hus rfl hu rfl, hhash, hmust, htoken, hact,
    Nat.lt_succ_self _, rfl⟩

theorem commit_swaps {cmd : CredentialCommand} {snapshot : PasswordSnapshot} {newHash : String}
    {s s' : Postgres} {c : Call} (hver : Verified lib cmd snapshot)
    (hop : c.operation = cmd.commit snapshot newHash) (h : Committed lib s c s') :
    ∃ row row', Swaps s.db s'.db snapshot row row' := by
  have hb := h.body
  rw [hop] at hb
  cases cmd with
  | changePassword context current new =>
    obtain ⟨r, hr, he⟩ := (map_ok _ _ _).mp hb
    obtain ⟨b, db', rows⟩ := r
    obtain rfl : db' = s'.db := he
    exact changePasswordBody_swaps hr hver.active (hver.bearer context current new rfl)
  | completePasswordReset userName temporary new requestId =>
    obtain ⟨r, hr, he⟩ := (map_ok _ _ _).mp hb
    obtain ⟨b, db', rows⟩ := r
    obtain rfl : db' = s'.db := he
    exact completePasswordResetBody_swaps hr

/-! ## commands of a run -/

/-- a command that commits at step `j`: it read the account at some earlier moment, and anything
may have committed since -/
inductive Commits (lib : PasswordLibrary) (st : Nat → Postgres) (lab : Nat → Call)
    (cmd : CredentialCommand) (snapshot : PasswordSnapshot) (j : Nat) : Prop
  | intro (i salt : Nat) (newHash : String) :
      i ≤ j →
      cmd.prepare lib salt (cmd.load (st i).db) = .ok (snapshot, newHash) →
      (lab j).operation = cmd.commit snapshot newHash →
      Committed lib (st j) (lab j) (st (j + 1)) →
      Commits lib st lab cmd snapshot j

theorem Commits.verified {st : Nat → Postgres} {lab : Nat → Call} {cmd : CredentialCommand}
    {snapshot : PasswordSnapshot} {j : Nat} (h : Commits lib st lab cmd snapshot j) :
    Verified lib cmd snapshot := by
  obtain ⟨i, salt, newHash, -, hp, -, -⟩ := h
  exact prepare_ok hp

theorem Commits.swaps {st : Nat → Postgres} {lab : Nat → Call} {cmd : CredentialCommand}
    {snapshot : PasswordSnapshot} {j : Nat} (h : Commits lib st lab cmd snapshot j) :
    ∃ row row', Swaps (st j).db (st (j + 1)).db snapshot row row' := by
  have hver := h.verified
  obtain ⟨i, salt, newHash, -, -, hop, hc⟩ := h
  exact commit_swaps hver hop hc

section
variable {st : Nat → Postgres} {lab : Nat → Call} {n : Nat} {cmd cmd' : CredentialCommand}
  {snapshot snapshot' : PasswordSnapshot} {j k : Nat}

/-- a later command on the user verified a later version -/
theorem Commits.token_lt (hrun : IsRun (system lib) st lab n)
    (h : Commits lib st lab cmd snapshot j) (h' : Commits lib st lab cmd' snapshot' k)
    (huser : snapshot'.userId = snapshot.userId) (hjk : j < k) (hk : k < n) :
    snapshot.tokenVersion < snapshot'.tokenVersion := by
  obtain ⟨row, row', hs⟩ := h.swaps
  obtain ⟨later, later', hs'⟩ := h'.swaps
  obtain ⟨u, hu, hg⟩ := (run_grows hrun (show j + 1 ≤ k from hjk) (by omega)).liveUser? hs.after
  have he : u = later := Option.some.inj (hu.symm.trans (huser ▸ hs'.before))
  subst he
  calc snapshot.tokenVersion = row.tokenVersion := hs.token.symm
    _ < row'.tokenVersion := hs.ended
    _ ≤ u.tokenVersion := hg.token
    _ = snapshot'.tokenVersion := hs'.token

/-- where a flag is lowered and raised again, some step raises it -/
theorem raised {f : Nat → Bool} (hj : f j = false) (hjk : j ≤ k) (hk : f k = true) :
    ∃ m, j ≤ m ∧ m < k ∧ f m = false ∧ f (m + 1) = true := by
  induction k with
  | zero =>
    have e : j = 0 := by omega
    rw [← e, hj] at hk
    cases hk
  | succ k ih =>
    have hle : j ≤ k := by
      by_contra hlt
      have e : j = k + 1 := by omega
      rw [← e, hj] at hk
      cases hk
    cases hf : f k with
    | false => exact ⟨k, hle, Nat.lt_succ_self k, hf, hk⟩
    | true =>
      obtain ⟨m, h1, h2, h3⟩ := ih hle hf
      exact ⟨m, h1, Nat.lt_succ_of_lt h2, h3⟩

/-- a step that sets a new temporary password: the flag goes up with the version -/
structure SetsTemporary (db db' : Db) (userId : Uuid) (u u' : User) : Prop where
  before : db.liveUser? userId = some u
  after : db'.liveUser? userId = some u'
  permanent : u.mustChangePassword = false
  temporary : u'.mustChangePassword = true
  ended : u.tokenVersion < u'.tokenVersion

theorem Commits.temporary_between (hrun : IsRun (system lib) st lab n)
    (h : Commits lib st lab cmd snapshot j) (h' : Commits lib st lab cmd' snapshot' k)
    (hcompletes : cmd'.completes = true) (huser : snapshot'.userId = snapshot.userId)
    (hjk : j < k) (hk : k < n) :
    ∃ m, j < m ∧ m < k ∧ ∃ u u', SetsTemporary (st m).db (st (m + 1)).db snapshot.userId u u' := by
  obtain ⟨row, row', hs⟩ := h.swaps
  obtain ⟨later, later', hs'⟩ := h'.swaps
  let f (i : Nat) : Bool :=
    (((st i).db.liveUser? snapshot.userId).map User.mustChangePassword).getD false
  have hlow : f (j + 1) = false := by
    show (((st (j + 1)).db.liveUser? _).map User.mustChangePassword).getD false = false
    rw [hs.after]
    exact hs.permanent
  have hhigh : f k = true := by
    show (((st k).db.liveUser? _).map User.mustChangePassword).getD false = true
    rw [← huser, hs'.before]
    exact (hs'.must.trans h'.verified.must).trans hcompletes
  obtain ⟨m, hm, hmk, hf, hf'⟩ := raised hlow (show j + 1 ≤ k from hjk) hhigh
  obtain ⟨u, hu, -⟩ := (run_grows hrun hm (by omega)).liveUser? hs.after
  obtain ⟨u', hu', hg⟩ := (run_grows hrun (Nat.le_succ m) (by omega)).liveUser? hu
  have hperm : u.mustChangePassword = false := by
    have e : f m = u.mustChangePassword := by
      show (((st m).db.liveUser? _).map User.mustChangePassword).getD false = _
      rw [hu]
      rfl
    exact e.symm.trans hf
  have htemp : u'.mustChangePassword = true := by
    have e : f (m + 1) = u'.mustChangePassword := by
      show (((st (m + 1)).db.liveUser? _).map User.mustChangePassword).getD false = _
      rw [hu']
      rfl
    exact e.symm.trans hf'
  -- an unchanged version would show the same flag
  have hlt : u.tokenVersion < u'.tokenVersion := by
    rcases Nat.lt_or_eq_of_le hg.token with hlt | he
    · exact hlt
    · have hsame := (hg.same he.symm).2.1
      rw [hperm, htemp] at hsame
      cases hsame
  exact ⟨m, hm, hmk, u, u', hu, hu', hperm, htemp, hlt⟩

/-- **credential commands are compare-and-set**: each finds the row it verified, two that verified
one version of a user are one, and a temporary password completes one reset -/
theorem credential_commands (hrun : IsRun (system lib) st lab n) :
    (∀ cmd snapshot j, Commits lib st lab cmd snapshot j → j < n →
      ∃ row row', Swaps (st j).db (st (j + 1)).db snapshot row row' ∧
        row.mustChangePassword = cmd.completes ∧
        ∃ hash, row.passwordHash = some hash ∧ lib.verify hash cmd.submitted = true) ∧
    (∀ cmd cmd' snapshot snapshot' j k, Commits lib st lab cmd snapshot j → j < n →
      Commits lib st lab cmd' snapshot' k → k < n → snapshot'.userId = snapshot.userId →
      snapshot'.tokenVersion = snapshot.tokenVersion → k = j) ∧
    (∀ cmd cmd' snapshot snapshot' j k, Commits lib st lab cmd snapshot j →
      Commits lib st lab cmd' snapshot' k → cmd.completes = true → cmd'.completes = true →
      snapshot'.userId = snapshot.userId → j < k → k < n →
      ∃ m, j < m ∧ m < k ∧
        ∃ u u', SetsTemporary (st m).db (st (m + 1)).db snapshot.userId u u') := by
  refine ⟨?_, ?_, ?_⟩
  · intro cmd snapshot j h hj
    obtain ⟨row, row', hs⟩ := h.swaps
    obtain ⟨hash, hhash, hver⟩ := h.verified.password
    exact ⟨row, row', hs, hs.must.trans h.verified.must, hash, hs.hash.trans hhash, hver⟩
  · intro cmd cmd' snapshot snapshot' j k h hj h' hk huser htoken
    rcases Nat.lt_trichotomy k j with hlt | he | hlt
    · have := h'.token_lt hrun h huser.symm hlt hj
      omega
    · exact he
    · have := h.token_lt hrun h' huser hlt hk
      omega
  · intro cmd cmd' snapshot snapshot' j k h h' _ hcompletes huser hjk hk
    exact h.temporary_between hrun h' hcompletes huser hjk hk

end

/-- an account registers and changes its password -/
def rotating : Nat → Call :=
  script [signUp "alice" alice,
    .changePassword (bearer alice 0) ⟨alice, "alice", true, false, 0,
      some (sampleLibrary.hash 0 "CorrectHorseBattery1"), some 0, false⟩
      (sampleLibrary.hash 0 "AnotherStaple7")]

theorem credential_commands_rotating :
    ∃ row row', Swaps (states sampleLibrary rotating 1).db (states sampleLibrary rotating 2).db
      ⟨alice, "alice", true, false, 0, some (sampleLibrary.hash 0 "CorrectHorseBattery1"), some 0,
        false⟩ row row' := by
  have hprepare : prepareChange sampleLibrary 0 (bearer alice 0) "CorrectHorseBattery1"
      "AnotherStaple7" (loadSnapshotByUserId (states sampleLibrary rotating 1).db alice) =
        .ok (⟨alice, "alice", true, false, 0, some (sampleLibrary.hash 0 "CorrectHorseBattery1"),
          some 0, false⟩, sampleLibrary.hash 0 "AnotherStaple7") := by
    decide +kernel
  have hcommitted : ((rotating 1).operation.run sampleLibrary (rotating 1).now
      (states sampleLibrary rotating 1)).1 = .ok () := by
    decide +kernel
  have hcommits : Commits sampleLibrary (states sampleLibrary rotating) rotating
      (.changePassword (bearer alice 0) "CorrectHorseBattery1" "AnotherStaple7")
      ⟨alice, "alice", true, false, 0, some (sampleLibrary.hash 0 "CorrectHorseBattery1"), some 0,
        false⟩ 1 :=
    .intro 1 0 _ (Nat.le_refl 1) hprepare rfl (Prod.ext hcommitted rfl)
  have hrun := isRun_states sampleLibrary rotating 2
  obtain ⟨row, row', hs, -⟩ := (credential_commands hrun).1 _ _ 1 hcommits (by omega)
  exact ⟨row, row', hs⟩

end PgRbac
