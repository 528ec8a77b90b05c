import PgRbac.Contexts
import PgRbac.Logins
import PgRbac.Tokens

/-!
# Revocation of bearer tokens

The store and the registry together.  A login reads and locks the account, then registers its token;
a request checks the registry, then reads the database by three statements; either may be overtaken
by any transaction of the store and by any script on the registry.

* `Operation.endsLogins`    the transactions that end the logins of a user;
* `Deployment`, `deployed`  the system: a place in a run of the store, the registry, and the calls;
* `SignedIn`                a login has returned this version of the user;
* `Sound`                   whatever is registered, checked or read is of such a login;
* `accepted_since_login`    an accepted token's login has not been ended, and what the cleanup
                            removes would not have been accepted again.
-/

set_option linter.unusedVariables false
set_option linter.unusedSectionVars false

namespace PgRbac

open Fallible Store Trace Redis

/-! ## transactions that end logins -/

/-- a password change, reset or completion, an enabling or disabling, a session revocation or a
handover that concerns the user -/
def Operation.endsLogins (db : Db) (u : Uuid) : Operation → Prop
  | .changePassword context _ _ => context.principal.userId = u
  | .completePasswordReset snapshot _ _ => snapshot.userId = u
  | .resetUserPassword _ targetUserId _ _ _ => targetUserId = u
  | .operatorReset userId _ _ _ => userId = u
  | .updateUserStatus _ targetUserId isActive =>
    targetUserId = u ∧ ∃ row, db.liveUser? u = some row ∧ row.isActive ≠ isActive
  | .revokeUserSessions _ targetUserId => targetUserId = u
  | .handover oldUserId newUserId => oldUserId = u ∨ newUserId = u
  | _ => False

section
variable {lib : PasswordLibrary}

theorem raises_modify {db db' : Db} {u : Uuid} {f : UserPatch} {row : User}
    {users : Table User.id User.userName User.checks} (ht : db.users.modify? u f = .ok users)
    (he : db'.users = users) (hrow : db.liveUser? u = some row)
    (hdel : (f.apply row).deletedAt = row.deletedAt)
    (hlt : row.tokenVersion < (f.apply row).tokenVersion) :
    ∃ row', db'.liveUser? u = some row' ∧ row.tokenVersion < row'.tokenVersion :=
  ⟨_, liveUser?_modify? ht he hrow hdel, hlt⟩

/-- **a transaction that ends logins raises the version** -/
theorem endsLogins_raises {s s' : Postgres} {c : Call} {u : Uuid} {row : User}
    (h : Committed lib s c s') (hends : c.operation.endsLogins s.db u)
    (hrow : s.db.liveUser? u = some row) :
    ∃ row', s'.db.liveUser? u = some row' ∧ row.tokenVersion < row'.tokenVersion := by
  have hb := h.body
  cases hop : c.operation with
  | changePassword context snapshot newHash =>
    rw [hop] at hb hends
    obtain ⟨⟨v, _, rows⟩, ho, rfl⟩ := (map_ok _ _ _).mp hb
    obtain ⟨-, -, users, ht, he⟩ := changePasswordBody_ok ho
    have hu : context.principal.userId = u := hends
    rw [hu] at ht
    exact raises_modify ht (congrArg Db.users he) hrow rfl (Nat.lt_succ_self _)
  | completePasswordReset snapshot newHash requestId =>
    rw [hop] at hb hends
    obtain ⟨⟨v, _, rows⟩, ho, rfl⟩ := (map_ok _ _ _).mp hb
    obtain ⟨-, -, -, users, ht, he⟩ := completePasswordResetBody_ok ho
    have hu : snapshot.userId = u := hends
    rw [hu] at ht
    exact raises_modify ht (congrArg Db.users he) hrow rfl (Nat.lt_succ_self _)
  | resetUserPassword context targetUserId newPassword newHash mode =>
    rw [hop] at hb hends
    obtain ⟨⟨v, _, rows⟩, ho, rfl⟩ := (map_ok _ _ _).mp hb
    obtain ⟨-, -, -, -, -, _, users, ht, he⟩ := resetUserPasswordBody_ok ho
    have hu : targetUserId = u := hends
    rw [hu] at ht
    exact raises_modify ht (congrArg Db.users he) hrow rfl (Nat.lt_succ_self _)
  | operatorReset userId password hash requestId =>
    rw [hop] at hb hends
    obtain ⟨⟨v, _, rows⟩, ho, rfl⟩ := (map_ok _ _ _).mp hb
    obtain ⟨-, -, -, users, ht, he⟩ := operatorResetBody_ok ho
    have hu : userId = u := hends
    rw [hu] at ht
    exact raises_modify ht (congrArg Db.users he) hrow rfl (Nat.lt_succ_self _)
  | updateUserStatus context targetUserId isActive =>
    rw [hop] at hb hends
    obtain ⟨hu, row', hrow', hne⟩ := hends
    obtain ⟨⟨o, _⟩, ho, rfl⟩ := (map_ok _ _ _).mp hb
    obtain ⟨locked, hlock, -, ⟨hsame, -⟩ | ⟨-, users, ht, he⟩⟩ := updateUserStatusBody_ok ho
    · obtain ⟨-, -, -, hlive, -⟩ := lockActorAndTargetUser_ok hlock
      rw [hu, hrow'] at hlive
      exact absurd ((congrArg User.isActive (Option.some.inj hlive)).trans hsame) hne
    · rw [hu] at ht
      exact raises_modify ht (congrArg Db.users he) hrow rfl (Nat.lt_succ_self _)
  | revokeUserSessions context targetUserId =>
    rw [hop] at hb hends
    obtain ⟨⟨o, _⟩, ho, rfl⟩ := (map_ok _ _ _).mp hb
    obtain ⟨-, -, -, users, ht, he⟩ := revokeUserSessionsBody_ok ho
    have hu : targetUserId = u := hends
    rw [hu] at ht
    exact raises_modify ht (congrArg Db.users he) hrow rfl (Nat.lt_succ_self _)
  | handover oldUserId newUserId =>
    rw [hop] at hb hends
    obtain ⟨⟨v, _, rows⟩, ho, rfl⟩ := (map_ok _ _ _).mp hb
    obtain ⟨-, -, -, -, -, -, -, -, -, -, -, -, userRoles, users, -, ht, he⟩ := handoverBody_ok ho
    have hid : row.id = u := Db.id_of_liveUser? hrow
    have hp : (decide (row.id = oldUserId) || decide (row.id = newUserId)) = true := by
      rw [hid, Bool.or_eq_true, decide_eq_true_eq, decide_eq_true_eq]
      exact hends.imp Eq.symm Eq.symm
    obtain ⟨hget, hd⟩ := Db.liveUser?_eq_some.mp hrow
    refine ⟨User.transfer.apply row, Db.liveUser?_eq_some.mpr ⟨?_, hd⟩, Nat.lt_succ_self _⟩
    rw [congrArg Db.users he]
    show users.get? u = _
    rw [Table.get?_update? ht, hget, Option.map_some]
    show some (if (decide (row.id = oldUserId) || decide (row.id = newUserId)) = true then _ else _) = _
    rw [if_pos hp]
  | _ =>
    rw [hop] at hends
    exact hends.elim

end

/-! ## logins that have returned a version -/

section
variable {lib : PasswordLibrary} {st : Nat → Postgres} {lab : Nat → Call} {n : Nat}

/-- some login of the user has returned this version by state `t`, and needs no new password -/
def SignedIn (lib : PasswordLibrary) (st : Nat → Postgres) (lab : Nat → Call) (u : Uuid) (v t : Nat) :
    Prop :=
  ∃ userName password user i j, LoginReturns lib st lab userName password false user i j ∧ j ≤ t ∧
    user.mustChangePassword = false ∧ user.userId = u ∧ user.tokenVersion = v

theorem SignedIn.later {u : Uuid} {v t t' : Nat} (h : SignedIn lib st lab u v t) (hle : t ≤ t') :
    SignedIn lib st lab u v t' := by
  obtain ⟨userName, password, user, i, j, hl, hj, hrest⟩ := h
  exact ⟨userName, password, user, i, j, hl, Nat.le_trans hj hle, hrest⟩

theorem LoginReturns.since (hrun : IsRun (system lib) st lab n) {userName password : String}
    {temporary : Bool} {user : AuthenticatedPasswordUser} {i j b : Nat}
    (h : LoginReturns lib st lab userName password temporary user i j) (hjb : j ≤ b) (hb : b ≤ n) :
    ∃ row, (st b).db.liveUser? user.userId = some row ∧ user.tokenVersion ≤ row.tokenVersion ∧
      (row.tokenVersion = user.tokenVersion →
        row.isActive = true ∧ row.mustChangePassword = user.mustChangePassword) := by
  obtain ⟨-, after, -, ha, -, -, -, hactive, htoken, hmust, -⟩ := h.rows
  obtain ⟨row, hrow, hgrow⟩ := (run_grows hrun hjb hb).liveUser? ha
  have hle := hgrow.token
  refine ⟨row, hrow, by omega, ?_⟩
  intro he
  obtain ⟨hactive', hmust', -⟩ := hgrow.same (by omega)
  exact ⟨hactive'.trans hactive, hmust'.trans hmust.symm⟩

theorem SignedIn.since (hrun : IsRun (system lib) st lab n) {u : Uuid} {v t b : Nat}
    (h : SignedIn lib st lab u v t) (htb : t ≤ b) (hb : b ≤ n) :
    ∃ row, (st b).db.liveUser? u = some row ∧ v ≤ row.tokenVersion ∧
      (row.tokenVersion = v → row.isActive = true ∧ row.mustChangePassword = false) := by
  obtain ⟨userName, password, user, i, j, hl, hj, hmust, hu, hv⟩ := h
  obtain ⟨row, hrow, hle, hsame⟩ := hl.since hrun (Nat.le_trans hj htb) hb
  rw [hu] at hrow
  rw [hv] at hle hsame
  rw [hmust] at hsame
  exact ⟨row, hrow, hle, hsame⟩

theorem LoginReturns.not_ended (hrun : IsRun (system lib) st lab n) {userName password : String}
    {temporary : Bool} {user : AuthenticatedPasswordUser} {i j b m : Nat} {row : User}
    (h : LoginReturns lib st lab userName password temporary user i j) (hjm : j ≤ m) (hmb : m < b)
    (hb : b ≤ n) (hrow : (st b).db.liveUser? user.userId = some row)
    (hversion : row.tokenVersion = user.tokenVersion)
    (hcommit : Committed lib (st m) (lab m) (st (m + 1))) :
    ¬ (lab m).operation.endsLogins (st m).db user.userId := by
  intro hends
  obtain ⟨before, hbefore, hle, -⟩ := h.since hrun hjm (show m ≤ n by omega)
  obtain ⟨after, hafter, hlt⟩ := endsLogins_raises hcommit hends hbefore
  obtain ⟨row', hrow', hgrow⟩ := (run_grows hrun (show m + 1 ≤ b from hmb) hb).liveUser? hafter
  rw [hrow] at hrow'
  have he : row = row' := Option.some.inj hrow'
  have hge := hgrow.token
  rw [← he] at hge
  omega

end

/-! ## the system -/

/-- a request with its decoded bearer token -/
structure BearerRequest where
  claims : AccessTokenClaims
  requestId : String

inductive TokenPhase where
  | authenticating
  | issuing (user : AuthenticatedPasswordUser) (attempt : Nat)
  | finished (outcome : Except Failure AccessTokenClaims)

/-- how far a request has come, with the states that its statements have seen -/
inductive RequestPhase where
  | start
  | checked (principal : Principal)
  | stateRead (principal : Principal) (stateAt : Nat)
  | userRead (principal : Principal) (stateAt userAt : Nat)
  | accepted (context : AuthorizationContext) (userAt : Nat)
  | rejected (principal : Principal) (userAt : Nat)
  | finished (outcome : Except Failure Unit)

structure Deployment (F ι κ : Type) where
  position : Nat
  clock : Nat
  registry : Uuid → SessionKeys F
  issuing : ι → TokenPhase
  requests : κ → RequestPhase

inductive Happening (ι κ : Type) where
  | transaction
  | signedIn (i : ι) (userName password : String) (user : AuthenticatedPasswordUser)
  | register (i : ι) (tokenId : Uuid) (now : Nat)
  | check (k : κ)
  | readState (k : κ)
  | readUser (k : κ)
  | readRoles (k : κ)
  | logout (k : κ)
  | cleanUp (k : κ)
  | listSessions (k : κ)

structure Occurrence (ι κ : Type) where
  clock : Nat
  delivery : Delivery
  happening : Happening ι κ

def jtiIssuanceAttempts : Nat := 2

def registryUnavailable : Failure := unavailable "active_token_registry_unavailable"

/-- the end of a login: no token for a temporary password -/
def afterLogin (user : AuthenticatedPasswordUser) : TokenPhase :=
  if user.mustChangePassword then
    .finished (.error (passwordChangeRequired "temporary_password_must_be_changed"))
  else if ¬ user.userId.isV4 then
    .finished (.error (.valueError "the issuer requires a UUIDv4 user and valid token version"))
  else .issuing user 0

/-- what `issue_access_token` makes of a reply -/
def afterRegister (user : AuthenticatedPasswordUser) (attempt : Nat) (claims : AccessTokenClaims) :
    Option Reply → TokenPhase
  | some (.integer 1) => .finished (.ok claims)
  | some (.integer (-2)) => .finished (.error (unauthenticated "token_version_changed"))
  | some (.integer 0) =>
    if attempt + 1 < jtiIssuanceAttempts then .issuing user (attempt + 1)
    else .finished (.error (unavailable "access_token_issuance_conflict"))
  | _ => .finished (.error registryUnavailable)

def principalOf (claims : AccessTokenClaims) (tokenVersion : Nat) : Principal :=
  ⟨claims.userId, tokenVersion, claims.tokenId, claims.issuedAt, claims.expiresAt⟩

def claimsOf (principal : Principal) : AccessTokenClaims :=
  ⟨principal.userId, principal.tokenId, principal.issuedAt, principal.expiresAt⟩

/-- `revoke_active_jti`: every reply but 1 is a failure -/
def afterRevoke : Option Reply → Except Failure Unit
  | some (.integer 1) => .ok ()
  | some _ => .error (unauthenticated "inactive_access_token")
  | none => .error registryUnavailable

section
variable {F ι κ : Type} [LinearOrder F] [DecidableEq ι] [DecidableEq κ]

/-- a script on the keys of one user, and the reply that arrives -/
def runScript (decode : String → Option DecodedRecord) (argument : Nat → String) (u : Uuid)
    (call : ScriptCall F) (clock : Nat) (delivery : Delivery) (registry : Uuid → SessionKeys F) :
    Option Reply × (Uuid → SessionKeys F) :=
  let (reply, keys) := call.eval decode argument clock (registry u)
  match delivery with
  | .answered => (some reply, Function.update registry u keys)
  | .unanswered => (none, Function.update registry u keys)
  | .unexecuted => (none, registry)

structure TokenTraffic (F κ : Type) where
  tokens : TokenRegistry F
  /-- the text that `redis.call` makes of a number -/
  argument : Nat → String
  bearer : κ → BearerRequest

section
variable (c : TokenTraffic F κ) (st : Nat → Postgres)

namespace TokenTraffic

def afterCheck (claims : AccessTokenClaims) : Option Reply → RequestPhase
  | some (.value v) =>
    match c.tokens.checkActiveJti claims v with
    | .ok tokenVersion => .checked (principalOf claims tokenVersion)
    | .error e => .finished (.error e)
  | _ => .finished (.error registryUnavailable)

def afterUserRead (principal : Principal) (stateAt userAt : Nat) : RequestPhase :=
  match (st userAt).db.liveUser? principal.userId with
  | none => .rejected principal userAt
  | some _ => .userRead principal stateAt userAt

def afterRolesRead (requestId : String) (principal : Principal) (stateAt userAt rolesAt : Nat) :
    RequestPhase :=
  match getAuthorizationContext (st stateAt).db (st userAt).db (st rolesAt).db principal requestId with
  | .ok context => .accepted context userAt
  | .error _ => .rejected principal userAt

def registerNext (i : ι) (tokenId : Uuid) (now clock : Nat) (delivery : Delivery)
    (d : Deployment F ι κ) : Deployment F ι κ :=
  match d.issuing i with
  | .issuing user attempt =>
    let claims := c.tokens.claims user.userId tokenId now
    let (reply, registry) := runScript c.tokens.cjsonDecode c.argument user.userId
      (.activate (c.tokens.activation claims user.tokenVersion)) clock delivery d.registry
    { d with
      registry := registry
      issuing := Function.update d.issuing i (afterRegister user attempt claims reply) }
  | _ => d

def requestScript (k : κ) (u : Uuid) (call : ScriptCall F) (clock : Nat) (delivery : Delivery)
    (after : Option Reply → RequestPhase) (d : Deployment F ι κ) : Deployment F ι κ :=
  let (reply, registry) := runScript c.tokens.cjsonDecode c.argument u call clock delivery d.registry
  { d with registry := registry, requests := Function.update d.requests k (after reply) }

def setRequest (k : κ) (phase : RequestPhase) (d : Deployment F ι κ) : Deployment F ι κ :=
  { d with requests := Function.update d.requests k phase }

def requestNext (e : Occurrence ι κ) (d : Deployment F ι κ) : Deployment F ι κ :=
  match e.happening with
  | .check k =>
    match d.requests k with
    | .start =>
      let claims := (c.bearer k).claims
      c.requestScript k claims.userId (c.tokens.checkCall claims) e.clock e.delivery
        (c.afterCheck claims) d
    | _ => d
  | .readState k =>
    match d.requests k with
    | .checked principal => setRequest k (.stateRead principal d.position) d
    | _ => d
  | .readUser k =>
    match d.requests k with
    | .stateRead principal stateAt => setRequest k (afterUserRead st principal stateAt d.position) d
    | _ => d
  | .readRoles k =>
    match d.requests k with
    | .userRead principal stateAt userAt =>
      setRequest k (afterRolesRead st (c.bearer k).requestId principal stateAt userAt d.position) d
    | _ => d
  | .logout k =>
    match d.requests k with
    | .checked principal =>
      c.requestScript k principal.userId
        (c.tokens.revokeCall (claimsOf principal) principal.tokenVersion) e.clock e.delivery
        (fun reply => .finished (afterRevoke reply)) d
    | _ => d
  | .cleanUp k =>
    match d.requests k with
    | .rejected principal _ =>
      c.requestScript k principal.userId
        (c.tokens.revokeCall (claimsOf principal) principal.tokenVersion) e.clock e.delivery
        (fun _ => .finished (.error identityInactive)) d
    | _ => d
  | .listSessions k =>
    match d.requests k with
    | .accepted context _ =>
      c.requestScript k context.principal.userId (.list context.principal.tokenVersion) e.clock
        e.delivery (fun _ => .finished (.ok ())) d
    | _ => d
  | _ => d

def next (e : Occurrence ι κ) (d : Deployment F ι κ) : Deployment F ι κ :=
  let d := { d with clock := e.clock }
  match e.happening with
  | .transaction => { d with position := d.position + 1 }
  | .signedIn i _ _ user =>
    match d.issuing i with
    | .authenticating => { d with issuing := Function.update d.issuing i (afterLogin user) }
    | _ => d
  | .register i tokenId now => c.registerNext i tokenId now e.clock e.delivery d
  | _ => c.requestNext st e d

end TokenTraffic

/-- a transaction is the next one of the store's run, and a login has returned what it says -/
def Permitted (lib : PasswordLibrary) (lab : Nat → Call) (n : Nat) (e : Occurrence ι κ)
    (d : Deployment F ι κ) : Prop :=
  match e.happening with
  | .transaction => d.position < n
  | .signedIn _ userName password user =>
    ∃ i j, LoginReturns lib st lab userName password false user i j ∧ j ≤ d.position
  | _ => True

def deployed (lib : PasswordLibrary) (lab : Nat → Call) (n : Nat) :
    System (Deployment F ι κ) (Occurrence ι κ) where
  init d := d.position = 0 ∧ (∀ u, d.registry u = SessionKeys.missing) ∧
    (∀ i, d.issuing i = .authenticating) ∧ ∀ k, d.requests k = .start
  step d e d' := d.clock ≤ e.clock ∧ Permitted st lib lab n e d ∧ d' = c.next st e d

end

end

/-! ## what the calls rest on -/

/-- the user row of state `t` is not one that the principal's token is good for -/
def Refused (st : Nat → Postgres) (principal : Principal) (t : Nat) : Prop :=
  ∀ row, (st t).db.liveUser? principal.userId = some row → row.isActive = true →
    row.tokenVersion ≠ principal.tokenVersion

theorem getAuthorizationContext_error {stateRead userRead roleRead : Db} {principal : Principal}
    {requestId : String} {e : Failure}
    (h : getAuthorizationContext stateRead userRead roleRead principal requestId = .error e)
    {row : User} (hrow : userRead.liveUser? principal.userId = some row)
    (hactive : row.isActive = true) : row.tokenVersion ≠ principal.tokenVersion := by
  unfold getAuthorizationContext at h
  rw [hrow] at h
  dsimp only at h
  split at h
  · rename_i hbad
    rcases hbad with hinactive | hversion
    · exact absurd hactive hinactive
    · exact hversion
  · cases h

section
variable (lib : PasswordLibrary) (st : Nat → Postgres) (lab : Nat → Call)

def Registered {F : Type} [LinearOrder F] (registry : Uuid → SessionKeys F) (t : Nat) : Prop :=
  ∀ u f value, (registry u).records.lookup (.jti f) = some value →
    ∃ claims v, value = activeJtiValue claims v ∧ claims.userId = u ∧ SignedIn lib st lab u v t

def PhaseSound (t : Nat) : RequestPhase → Prop
  | .checked p => SignedIn lib st lab p.userId p.tokenVersion t
  | .stateRead p a => SignedIn lib st lab p.userId p.tokenVersion a ∧ a ≤ t
  | .userRead p _ b => SignedIn lib st lab p.userId p.tokenVersion b ∧ b ≤ t
  | .accepted context b =>
    SignedIn lib st lab context.principal.userId context.principal.tokenVersion b ∧ b ≤ t ∧
      ∃ row, (st b).db.liveUser? context.principal.userId = some row ∧ row.isActive = true ∧
        row.tokenVersion = context.principal.tokenVersion
  | .rejected p b => SignedIn lib st lab p.userId p.tokenVersion b ∧ b ≤ t ∧ Refused st p b
  | .start | .finished _ => True

structure Sound {F ι κ : Type} [LinearOrder F] (n : Nat) (d : Deployment F ι κ) : Prop where
  position : d.position ≤ n
  registered : Registered lib st lab d.registry d.position
  issuing : ∀ i user attempt, d.issuing i = .issuing user attempt →
    SignedIn lib st lab user.userId user.tokenVersion d.position
  requests : ∀ k, PhaseSound lib st lab d.position (d.requests k)

end

section
variable {F ι κ : Type} [LinearOrder F] [DecidableEq ι] [DecidableEq κ] {lib : PasswordLibrary}
  {st : Nat → Postgres} {lab : Nat → Call} {n : Nat} {c : TokenTraffic F κ} {d : Deployment F ι κ}

theorem Registered.later {registry : Uuid → SessionKeys F} {t t' : Nat}
    (h : Registered lib st lab registry t) (hle : t ≤ t') : Registered lib st lab registry t' := by
  intro u f value hv
  obtain ⟨claims, v, he, hu, hs⟩ := h u f value hv
  exact ⟨claims, v, he, hu, hs.later hle⟩

theorem PhaseSound.later {t t' : Nat} {phase : RequestPhase} (h : PhaseSound lib st lab t phase)
    (hle : t ≤ t') : PhaseSound lib st lab t' phase := by
  cases phase with
  | start => exact trivial
  | finished outcome => exact trivial
  | checked p => exact SignedIn.later h hle
  | stateRead p a => exact ⟨h.1, Nat.le_trans h.2 hle⟩
  | userRead p a b => exact ⟨h.1, Nat.le_trans h.2 hle⟩
  | accepted context b => exact ⟨h.1, Nat.le_trans h.2.1 hle, h.2.2⟩
  | rejected p b => exact ⟨h.1, Nat.le_trans h.2.1 hle, h.2.2⟩

theorem Registered.runScript {decode : String → Option DecodedRecord} {argument : Nat → String}
    {registry : Uuid → SessionKeys F} {t : Nat} (h : Registered lib st lab registry t) {u : Uuid}
    {call : ScriptCall F} {clock : Nat} {delivery : Delivery}
    (hact : ∀ a, call = .activate a → ∃ claims v, a.record = activeJtiValue claims v ∧
      claims.userId = u ∧ SignedIn lib st lab u v t) :
    Registered lib st lab (runScript decode argument u call clock delivery registry).2 t := by
  have hupdate : Registered lib st lab
      (Function.update registry u (call.eval decode argument clock (registry u)).2) t := by
    intro u' f value hv
    by_cases hu : u' = u
    · rw [hu, Function.update_self] at hv
      rw [hu]
      rcases record_eval hv with hold | ⟨a, hcall, -, hvalue⟩
      · exact h u f value hold
      · obtain ⟨claims, v, he, hclaims, hs⟩ := hact a hcall
        exact ⟨claims, v, hvalue.trans he, hclaims, hs⟩
    · rw [Function.update_of_ne hu] at hv
      exact h u' f value hv
  cases delivery with
  | answered => exact hupdate
  | unanswered => exact hupdate
  | unexecuted => exact h

theorem Sound.setRequest (h : Sound lib st lab n d) {k : κ} {phase : RequestPhase}
    (hphase : PhaseSound lib st lab d.position phase) :
    Sound lib st lab n (TokenTraffic.setRequest k phase d) := by
  refine ⟨h.position, h.registered, h.issuing, ?_⟩
  intro k'
  show PhaseSound lib st lab d.position (Function.update d.requests k phase k')
  by_cases hk : k' = k
  · rw [hk, Function.update_self]
    exact hphase
  · rw [Function.update_of_ne hk]
    exact h.requests k'

theorem Sound.requestScript (h : Sound lib st lab n d) {k : κ} {u : Uuid} {call : ScriptCall F}
    {clock : Nat} {delivery : Delivery} {after : Option Reply → RequestPhase}
    (hcall : ∀ a, call ≠ .activate a)
    (hafter : PhaseSound lib st lab d.position
      (after (runScript c.tokens.cjsonDecode c.argument u call clock delivery d.registry).1)) :
    Sound lib st lab n (c.requestScript k u call clock delivery after d) := by
  have hset := h.setRequest (k := k) hafter
  exact ⟨h.position, h.registered.runScript fun a ha => absurd ha (hcall a), h.issuing, hset.requests⟩

/-- a token that the registry confirms is of a login that has returned its version -/
theorem afterCheck_sound {t : Nat} {claims : AccessTokenClaims} {clock : Nat} {delivery : Delivery}
    {registry : Uuid → SessionKeys F} (h : Registered lib st lab registry t) :
    PhaseSound lib st lab t (c.afterCheck claims (runScript c.tokens.cjsonDecode c.argument claims.userId
      (c.tokens.checkCall claims) clock delivery registry).1) := by
  have hanswered : PhaseSound lib st lab t (c.afterCheck claims
      (some (.value (readActiveJti c.tokens.cjsonDecode (c.tokens.field claims.tokenId) clock
        ((registry claims.userId).alive (clock / 1000))).1))) := by
    unfold TokenTraffic.afterCheck
    dsimp only
    cases hcheck : c.tokens.checkActiveJti claims (readActiveJti c.tokens.cjsonDecode
        (c.tokens.field claims.tokenId) clock ((registry claims.userId).alive (clock / 1000))).1 with
    | error e => exact trivial
    | ok version =>
      obtain ⟨hrecord, -⟩ := readActiveJti_some (checkActiveJti_ok hcheck)
      obtain ⟨claims', v, hvalue, hu, hs⟩ := h claims.userId _ _ (Slot.lookup_of_alive hrecord)
      obtain ⟨-, -, hv⟩ := activeJtiValue_inj hu hvalue
      show SignedIn lib st lab claims.userId version t
      rw [hv]
      exact hs
  cases delivery with
  | answered => exact hanswered
  | unanswered => exact trivial
  | unexecuted => exact trivial

theorem Sound.requestNext (h : Sound lib st lab n d) (e : Occurrence ι κ) :
    Sound lib st lab n (c.requestNext st e d) := by
  unfold TokenTraffic.requestNext
  cases e.happening with
  | transaction => exact h
  | signedIn i userName password user => exact h
  | register i tokenId now => exact h
  | check k =>
    dsimp only
    split
    · exact h.requestScript (fun a he => by cases he) (afterCheck_sound h.registered)
    · exact h
  | readState k =>
    have hk := h.requests k
    dsimp only
    split
    · rename_i p hp
      rw [hp] at hk
      exact h.setRequest ⟨hk, Nat.le_refl _⟩
    · exact h
  | readUser k =>
    have hk := h.requests k
    dsimp only
    split
    · rename_i p a hp
      rw [hp] at hk
      have hs := SignedIn.later hk.1 hk.2
      refine h.setRequest ?_
      unfold TokenTraffic.afterUserRead
      cases hu : (st d.position).db.liveUser? p.userId with
      | none =>
        refine ⟨hs, Nat.le_refl _, ?_⟩
        intro row hrow
        rw [hu] at hrow
        cases hrow
      | some row => exact ⟨hs, Nat.le_refl _⟩
    · exact h
  | readRoles k =>
    have hk := h.requests k
    dsimp only
    split
    · rename_i p a b hp
      rw [hp] at hk
      refine h.setRequest ?_
      unfold TokenTraffic.afterRolesRead
      cases hc : getAuthorizationContext (st a).db (st b).db (st d.position).db p
          (c.bearer k).requestId with
      | error e =>
        exact ⟨hk.1, hk.2, fun row hrow hactive => getAuthorizationContext_error hc hrow hactive⟩
      | ok context =>
        obtain ⟨row, hrow, hactive, htoken, hprincipal, -⟩ := getAuthorizationContext_ok hc
        show SignedIn lib st lab context.principal.userId context.principal.tokenVersion b ∧ _
        rw [hprincipal]
        exact ⟨hk.1, hk.2, row, hrow, hactive, htoken⟩
    · exact h
  | logout k =>
    dsimp only
    split
    · exact h.requestScript (fun a he => by cases he) trivial
    · exact h
  | cleanUp k =>
    dsimp only
    split
    · exact h.requestScript (fun a he => by cases he) trivial
    · exact h
  | listSessions k =>
    dsimp only
    split
    · exact h.requestScript (fun a he => by cases he) trivial
    · exact h

theorem afterLogin_issuing {user user' : AuthenticatedPasswordUser} {attempt : Nat}
    (h : afterLogin user = .issuing user' attempt) :
    user' = user ∧ user.mustChangePassword = false := by
  unfold afterLogin at h
  split at h
  · cases h
  · rename_i hmust
    split at h
    · cases h
    · cases h
      exact ⟨rfl, Bool.eq_false_iff.mpr hmust⟩

theorem afterRegister_issuing {user user' : AuthenticatedPasswordUser} {attempt attempt' : Nat}
    {claims : AccessTokenClaims} {reply : Option Reply}
    (h : afterRegister user attempt claims reply = .issuing user' attempt') : user' = user := by
  unfold afterRegister at h
  split at h
  · cases h
  · cases h
  · split at h
    · cases h
      rfl
    · cases h
  · cases h

theorem Sound.registerNext (h : Sound lib st lab n d) {i : ι} {tokenId : Uuid} {now clock : Nat}
    {delivery : Delivery} : Sound lib st lab n (c.registerNext i tokenId now clock delivery d) := by
  unfold TokenTraffic.registerNext
  split
  · rename_i user attempt hi
    have hs := h.issuing i user attempt hi
    refine ⟨h.position, h.registered.runScript ?_, ?_, h.requests⟩
    · intro a ha
      cases ha
      exact ⟨_, user.tokenVersion, rfl, rfl, hs⟩
    · intro i' user' attempt' hi'
      dsimp only at hi'
      by_cases he : i' = i
      · rw [he, Function.update_self] at hi'
        rw [afterRegister_issuing hi']
        exact hs
      · rw [Function.update_of_ne he] at hi'
        exact h.issuing i' user' attempt' hi'
  · exact h

/-- **no step of the deployment rests on anything but logins that have returned** -/
theorem Sound.next (h : Sound lib st lab n d) {e : Occurrence ι κ}
    (hp : Permitted st lib lab n e d) : Sound lib st lab n (c.next st e d) := by
  have hclock : Sound lib st lab n { d with clock := e.clock } :=
    ⟨h.position, h.registered, h.issuing, h.requests⟩
  unfold Permitted at hp
  unfold TokenTraffic.next
  dsimp only
  cases hhappening : e.happening with
  | transaction =>
    rw [hhappening] at hp
    have hle := Nat.le_succ d.position
    refine ⟨hp, h.registered.later hle, ?_, ?_⟩
    · intro i user attempt hi
      exact (h.issuing i user attempt hi).later hle
    · intro k
      exact (h.requests k).later hle
  | signedIn i userName password user =>
    rw [hhappening] at hp
    obtain ⟨r, j, hlogin, hj⟩ := hp
    dsimp only
    split
    · refine ⟨h.position, h.registered, ?_, h.requests⟩
      intro i' user' attempt hi'
      dsimp only at hi'
      by_cases he : i' = i
      · rw [he, Function.update_self] at hi'
        obtain ⟨huser, hmust⟩ := afterLogin_issuing hi'
        rw [huser]
        exact ⟨userName, password, user, r, j, hlogin, hj, hmust, rfl, rfl⟩
      · rw [Function.update_of_ne he] at hi'
        exact h.issuing i' user' attempt hi'
    · exact hclock
  | register i tokenId now => exact hclock.registerNext
  | check k => exact hclock.requestNext e
  | readState k => exact hclock.requestNext e
  | readUser k => exact hclock.requestNext e
  | readRoles k => exact hclock.requestNext e
  | logout k => exact hclock.requestNext e
  | cleanUp k => exact hclock.requestNext e
  | listSessions k => exact hclock.requestNext e

variable {dep : Nat → Deployment F ι κ} {ev : Nat → Occurrence ι κ} {N : Nat}

theorem sound (hdep : IsRun (deployed c st lib lab n) dep ev N) {t : Nat} (ht : t ≤ N) :
    Sound lib st lab n (dep t) := by
  refine hdep.invariant ?_ ?_ ht
  · rintro d ⟨hposition, hregistry, hissuing, hrequests⟩
    refine ⟨by omega, ?_, ?_, ?_⟩
    · intro u f value hv
      rw [hregistry] at hv
      cases hv
    · intro i user attempt hi
      rw [hissuing] at hi
      cases hi
    · intro k
      rw [hrequests]
      exact trivial
  · intro d e d' hs hstep
    rw [hstep.2.2]
    exact hs.next hstep.2.1

/-! ## the cleanup -/

theorem cleanUp_registry {e : Occurrence ι κ} {k : κ} {p : Principal} {b : Nat}
    (he : e.happening = .cleanUp k) (hk : d.requests k = .rejected p b) :
    (c.next st e d).registry = (runScript c.tokens.cjsonDecode c.argument p.userId
      (c.tokens.revokeCall (claimsOf p) p.tokenVersion) e.clock e.delivery d.registry).2 := by
  unfold TokenTraffic.next TokenTraffic.requestNext
  dsimp only
  rw [he]
  dsimp only
  rw [hk]
  rfl

/-- an entry that a cleanup removes is that of its token, or it has expired -/
theorem cleanUp_removes {decode : String → Option DecodedRecord} {argument : Nat → String}
    {p : Principal} {clock : Nat} {delivery : Delivery} {registry : Uuid → SessionKeys F} {u : Uuid}
    {f : F} {value : String}
    (hbefore : ((registry u).alive (clock / 1000)).records.lookup (.jti f) = some value)
    (hafter : ((runScript decode argument p.userId (c.tokens.revokeCall (claimsOf p) p.tokenVersion)
      clock delivery registry).2 u).records.lookup (.jti f) = none) :
    (u = p.userId ∧ value = activeJtiValue (claimsOf p) p.tokenVersion) ∨
      ∀ expiry, ((registry u).alive (clock / 1000)).expires.lookup f = some expiry →
        expiry ≤ clock / 1000000 := by
  have hkept := Slot.lookup_of_alive hbefore
  have hupdate : (Function.update registry p.userId (compareAndDelete
      (c.tokens.field (claimsOf p).tokenId) (activeJtiValue (claimsOf p) p.tokenVersion) clock
        ((registry p.userId).alive (clock / 1000))).2 u).records.lookup (.jti f) = none →
      (u = p.userId ∧ value = activeJtiValue (claimsOf p) p.tokenVersion) ∨
        ∀ expiry, ((registry u).alive (clock / 1000)).expires.lookup f = some expiry →
          expiry ≤ clock / 1000000 := by
    intro hgone
    by_cases hu : u = p.userId
    · rw [hu, Function.update_self] at hgone
      rw [hu] at hbefore ⊢
      obtain ⟨-, hvalue | hexpired⟩ := compareAndDelete_removes hbefore hgone
      · exact Or.inl ⟨rfl, hvalue⟩
      · exact Or.inr hexpired
    · rw [Function.update_of_ne hu, hkept] at hgone
      cases hgone
  cases delivery with
  | answered => exact hupdate hafter
  | unanswered => exact hupdate hafter
  | unexecuted =>
    have hsame : (registry u).records.lookup (.jti f) = none := hafter
    rw [hkept] at hsame
    cases hsame

theorem refused_later (hrun : IsRun (system lib) st lab n) {p : Principal} {b m : Nat}
    (hs : SignedIn lib st lab p.userId p.tokenVersion b) (hrefused : Refused st p b) (hbm : b ≤ m)
    (hm : m ≤ n) {row : User} (hrow : (st m).db.liveUser? p.userId = some row) :
    row.tokenVersion ≠ p.tokenVersion := by
  obtain ⟨row', hrow', hle, hsame⟩ := hs.since hrun (Nat.le_refl b) (Nat.le_trans hbm hm)
  have hlt : p.tokenVersion < row'.tokenVersion := by
    rcases Nat.eq_or_lt_of_le hle with he | hlt
    · exact absurd he.symm (hrefused row' hrow' (hsame he.symm).1)
    · exact hlt
  obtain ⟨later, hlater, hgrow⟩ := (run_grows hrun hbm hm).liveUser? hrow'
  rw [hrow] at hlater
  have he : row = later := Option.some.inj hlater
  have hge := hgrow.token
  rw [← he] at hge
  omega

/-- **the login of an accepted token has not been ended, and the cleanup of a rejected one removes
nothing that would be accepted later** -/
theorem accepted_since_login (hrun : IsRun (system lib) st lab n)
    (hdep : IsRun (deployed c st lib lab n) dep ev N) :
    (∀ t k context b, t ≤ N → (dep t).requests k = .accepted context b →
      SignedIn lib st lab context.principal.userId context.principal.tokenVersion b ∧
      (∃ row, (st b).db.liveUser? context.principal.userId = some row ∧ row.isActive = true ∧
        row.mustChangePassword = false ∧ row.tokenVersion = context.principal.tokenVersion) ∧
      ∀ userName password temporary user i j,
        LoginReturns lib st lab userName password temporary user i j → j ≤ b →
        user.userId = context.principal.userId →
        user.tokenVersion = context.principal.tokenVersion →
        ∀ m, j ≤ m → m < b → Committed lib (st m) (lab m) (st (m + 1)) →
          ¬ (lab m).operation.endsLogins (st m).db context.principal.userId) ∧
    (∀ t k p b u f value, t < N → (ev t).happening = .cleanUp k →
      (dep t).requests k = .rejected p b →
      (((dep t).registry u).alive ((ev t).clock / 1000)).records.lookup (.jti f) = some value →
      ((dep (t + 1)).registry u).records.lookup (.jti f) = none →
      ∀ clock m, (ev t).clock ≤ clock → (dep t).position ≤ m → m ≤ n →
        ∀ claims version, c.tokens.field claims.tokenId = f → claims.userId = u →
        c.tokens.requireActiveJti claims clock ((dep t).registry u) = .ok version →
        ∀ stateRead roleRead principal requestId context, principal.userId = u →
          principal.tokenVersion = version →
          getAuthorizationContext stateRead (st m).db roleRead principal requestId ≠
            .ok context) := by
  constructor
  · intro t k context b ht hk
    have hs := sound hdep ht
    have hphase := hs.requests k
    rw [hk] at hphase
    obtain ⟨hsigned, hb, row, hrow, hactive, htoken⟩ := hphase
    have hbn : b ≤ n := Nat.le_trans hb hs.position
    refine ⟨hsigned, ⟨row, hrow, hactive, ?_, htoken⟩, ?_⟩
    · obtain ⟨row', hrow', -, hsame⟩ := hsigned.since hrun (Nat.le_refl b) hbn
      rw [hrow] at hrow'
      have he : row = row' := Option.some.inj hrow'
      rw [he] at htoken ⊢
      exact (hsame htoken).2
    · intro userName password temporary user i j hlogin hj hu hv m hjm hmb hcommit
      have hrow' : (st b).db.liveUser? user.userId = some row := by
        rw [hu]
        exact hrow
      rw [← hu]
      exact hlogin.not_ended hrun hjm hmb hbn hrow' (htoken.trans hv.symm) hcommit
  · intro t k p b u f value ht he hk hbefore hafter clock m hclock hposition hm claims version hf hu
      hrequire stateRead roleRead principal requestId context hprincipal hversion haccept
    have hphase := (sound hdep (Nat.le_of_lt ht)).requests k
    rw [hk] at hphase
    obtain ⟨hsigned, hb, hrefused⟩ := hphase
    have hnext : dep (t + 1) = c.next st (ev t) (dep t) := (hdep.next t ht).2.2
    rw [hnext, cleanUp_registry he hk] at hafter
    -- what the entry would have been read as at the later time
    obtain ⟨hrecord, expiry, hexpires, hlive⟩ := readActiveJti_some (checkActiveJti_ok hrequire)
    rcases cleanUp_removes hbefore hafter with ⟨huser, hvalue⟩ | hexpired
    · rw [hf] at hrecord
      have hsame := (Slot.lookup_of_alive hbefore).symm.trans (Slot.lookup_of_alive hrecord)
      rw [hvalue] at hsame
      obtain ⟨-, -, hv⟩ := activeJtiValue_inj (show claims.userId = (claimsOf p).userId from
        hu.trans huser) (Option.some.inj hsame)
      obtain ⟨row, hrow, -, htoken, -⟩ := getAuthorizationContext_ok haccept
      rw [hprincipal, huser] at hrow
      refine refused_later hrun hsigned hrefused (Nat.le_trans hb hposition) hm hrow ?_
      rw [htoken, hversion, hv]
    · rw [hf] at hexpires
      have hnow := hexpired expiry
        (Slot.lookup_alive_earlier (Nat.div_le_div_right hclock) hexpires)
      have hdiv : (ev t).clock / 1000000 ≤ clock / 1000000 := Nat.div_le_div_right hclock
      omega

end

/-! ## a request that a password change overtakes -/

/-- an account registers, logs in and changes its password -/
def changingPassword : Nat → Call :=
  script [signUp "alice" alice,
    .lockedLogin ⟨alice, "alice", true, false, 0,
      some (sampleLibrary.hash 0 "CorrectHorseBattery1"), some 0, false⟩ none false,
    .changePassword (bearer alice 0) ⟨alice, "alice", true, false, 0,
      some (sampleLibrary.hash 0 "CorrectHorseBattery1"), some 0, false⟩
      (sampleLibrary.hash 1 "AnotherHorseBattery2")]

def aliceToken : AccessTokenClaims := ⟨alice, bob, 100, 86500⟩

/-- two requests with the token of one login -/
def tokenTraffic : TokenTraffic Nat Bool where
  tokens :=
    { field := BitVec.toNat
      accessTokenTtlSeconds := 86400
      maxActiveSessionsPerUser := 5
      cjsonDecode := fun text =>
        if text = activeJtiValue aliceToken 0 then some ⟨some 0, some 86500, some 100⟩ else none
      parse := fun text =>
        if text = activeJtiValue aliceToken 0 then some (alice, 0, 100, 86500) else none }
  argument := Nat.repr
  bearer := fun _ => ⟨aliceToken, "request"⟩

/-- the first request is accepted, the second one is overtaken by the password change -/
def overtaken (t : Nat) : Occurrence Unit Bool where
  clock := 100000000
  delivery := .answered
  happening := ([.transaction, .transaction,
    .signedIn () "alice" "CorrectHorseBattery1" ⟨alice, 0, false⟩, .register () bob 100,
    .check false, .check true, .readState false, .readUser false, .readRoles false,
    .readState true, .transaction, .readUser true, .readRoles true] : List (Happening Unit Bool)).getD t
      (.cleanUp true)

def overtakenStates : Nat → Deployment Nat Unit Bool
  | 0 => ⟨0, 0, fun _ => .missing, fun _ => .authenticating, fun _ => .start⟩
  | t + 1 => tokenTraffic.next (states sampleLibrary changingPassword) (overtaken t) (overtakenStates t)

def RequestPhase.userVersion? : RequestPhase → Option (Bool × Nat × Nat)
  | .accepted context userAt => some (true, context.principal.tokenVersion, userAt)
  | .rejected principal userAt => some (false, principal.tokenVersion, userAt)
  | _ => none

theorem RequestPhase.accepted_of {phase : RequestPhase} {v b : Nat}
    (h : phase.userVersion? = some (true, v, b)) :
    ∃ context, phase = .accepted context b ∧ context.principal.tokenVersion = v := by
  cases phase with
  | accepted context userAt =>
    cases h
    exact ⟨context, rfl, rfl⟩
  | _ => cases h

theorem RequestPhase.rejected_of {phase : RequestPhase} {v b : Nat}
    (h : phase.userVersion? = some (false, v, b)) :
    ∃ principal, phase = .rejected principal b ∧ principal.tokenVersion = v := by
  cases phase with
  | rejected principal userAt =>
    cases h
    exact ⟨principal, rfl, rfl⟩
  | _ => cases h

def Happening.unguarded {ι κ : Type} (position n : Nat) : Happening ι κ → Bool
  | .transaction => decide (position < n)
  | .signedIn .. => false
  | _ => true

theorem permitted_of_unguarded {F ι κ : Type} [LinearOrder F] [DecidableEq ι] [DecidableEq κ]
    {lib : PasswordLibrary} {st : Nat → Postgres} {lab : Nat → Call} {n : Nat}
    {e : Occurrence ι κ} {d : Deployment F ι κ} (h : e.happening.unguarded d.position n = true) :
    Permitted st lib lab n e d := by
  unfold Permitted
  cases hhappening : e.happening with
  | transaction =>
    rw [hhappening] at h
    exact of_decide_eq_true h
  | signedIn i userName password user =>
    rw [hhappening] at h
    cases h
  | _ => exact trivial

theorem overtaken_run : IsRun (deployed tokenTraffic (states sampleLibrary changingPassword)
    sampleLibrary changingPassword 3) overtakenStates overtaken 14 := by
  have hclock : ∀ t ∈ List.range 14, (overtakenStates t).clock ≤ 100000000 := by decide +kernel
  have hfree : ∀ t ∈ List.range 14, t ≠ 2 →
      (overtaken t).happening.unguarded (overtakenStates t).position 3 = true := by decide +kernel
  refine ⟨⟨rfl, fun u => rfl, fun i => rfl, fun k => rfl⟩, ?_⟩
  intro t ht
  refine ⟨hclock t (List.mem_range.mpr ht), ?_, rfl⟩
  by_cases h2 : t = 2
  · rw [h2]
    have hcheck : checkLogin sampleLibrary 0 "CorrectHorseBattery1" false
        (loadSnapshotByUserName (states sampleLibrary changingPassword 1).db "alice") =
          .ok (some (⟨alice, "alice", true, false, 0,
            some (sampleLibrary.hash 0 "CorrectHorseBattery1"), some 0, false⟩, none)) := by
      decide +kernel
    have hlock : (lockedLogin ⟨alice, "alice", true, false, 0,
        some (sampleLibrary.hash 0 "CorrectHorseBattery1"), some 0, false⟩ none false
          (states sampleLibrary changingPassword 1)).1 = .ok (.authenticated ⟨alice, 0, false⟩) := by
      decide +kernel
    exact ⟨1, 2, .first (Nat.le_refl 1) hcheck rfl (Prod.ext hlock rfl), Nat.le_refl 2⟩
  · exact permitted_of_unguarded (hfree t (List.mem_range.mpr ht) h2)

/-- the accepted request rests on the login; the record that the other one's cleanup removes is of a
version that no later state has -/
theorem accepted_since_login_overtaken :
    (∃ context, (overtakenStates 9).requests false = .accepted context 2 ∧
      SignedIn sampleLibrary (states sampleLibrary changingPassword) changingPassword
        context.principal.userId 0 2) ∧
    ∀ clock, 100000000 ≤ clock → ∀ claims, claims.userId = alice → claims.tokenId = bob →
      tokenTraffic.tokens.requireActiveJti claims clock ((overtakenStates 13).registry alice) = .ok 0 →
      ∀ db principal requestId context, principal.userId = alice → principal.tokenVersion = 0 →
        getAuthorizationContext db (states sampleLibrary changingPassword 3).db db principal
          requestId ≠ .ok context := by
  have h := accepted_since_login (isRun_states sampleLibrary changingPassword 3) overtaken_run
  constructor
  · have hphase : ((overtakenStates 9).requests false).userVersion? = some (true, 0, 2) := by
      decide +kernel
    obtain ⟨context, hk, hv⟩ := RequestPhase.accepted_of hphase
    refine ⟨context, hk, ?_⟩
    rw [← hv]
    exact (h.1 9 false context 2 (by omega) hk).1
  · intro clock hclock claims hu hf hrequire db principal requestId context hp hv
    have hphase : ((overtakenStates 13).requests true).userVersion? = some (false, 0, 3) := by
      decide +kernel
    have hbefore : (((overtakenStates 13).registry alice).alive (100000000 / 1000)).records.lookup
        (.jti bob.toNat) = some (activeJtiValue aliceToken 0) := by decide +kernel
    have hafter : ((overtakenStates 14).registry alice).records.lookup (.jti bob.toNat) = none := by
      decide +kernel
    obtain ⟨rejected, hk, -⟩ := RequestPhase.rejected_of hphase
    exact h.2 13 true rejected 3 alice bob.toNat _ (by omega) rfl hk hbefore hafter clock 3 hclock
      (Nat.le_refl 3) (Nat.le_refl 3) claims 0 (by rw [hf]; rfl) hu hrequire db db principal requestId
      context hp hv

end PgRbac
