import PgRbac.RateLimit
import PgRbac.Passwords
import PgRbac.Provisioning

/-!
# The limiter before and after the database

A request with a valid token is inspected against the window of its operation and actor before the
database is read, and charged after that: by `enforce_principal_rate_limit`, or, where it creates a
CAPTCHA, by the window of the scene that its body names.  The bucket is chosen by three pieces of
code.

* `inspectionPolicyFor`, `rateLimitPolicyFor`, `checkCaptchaCreate`, `checkRejectedCaptchaScene`
* `Admission`                 a request as the limiter sees it: its inspections and charges;
* `authenticatedRequest`      one request, from the token to the end of its route;
* `inspect_agrees`            at one moment the two scripts give the same decision;
* `precheck_agrees`           and they are run on the same bucket, at most one charge a request.
-/

set_option linter.unusedVariables false

namespace PgRbac

open Redis Fallible

/-! ## settings and policies -/

structure LimiterSettings where
  rateLimitEnabled : Bool
  namespace_ : String
  hmacKey : String
  captchaCreatePerFiveMinutes : Nat
  authenticatedReadPerMinute : Nat
  managementReadPerMinute : Nat
  ordinaryWritePerMinute : Nat
  authorizationWritePerMinute : Nat
  loginIpPerFiveMinutes : Nat
  registrationIpPerHour : Nat
  temporaryCompleteIpPerFiveMinutes : Nat

/-- `RateLimitPolicy.__post_init__` -/
def RateLimitPolicy.make (name : String) (limit windowSeconds : Nat) :
    Except LimiterError RateLimitPolicy :=
  if hn : isIdentifier name = true then
    if hl : 1 ≤ limit ∧ limit ≤ maxLimit then
      if hw : 1 ≤ windowSeconds ∧ windowSeconds ≤ maxWindowSeconds then
        .ok ⟨name, limit, windowSeconds, hn, hl, hw⟩
      else .error (.valueError "window_seconds must be an integer between 1 and 2592000")
    else .error (.valueError "limit must be an integer between 1 and 1000000")
  else .error (.valueError "policy name must be a static lowercase ASCII identifier")

structure SecurityPolicies where
  captchaCreate : RateLimitPolicy
  login : RateLimitPolicy
  registration : RateLimitPolicy
  temporaryComplete : RateLimitPolicy
  authenticatedRead : RateLimitPolicy
  managementRead : RateLimitPolicy
  ordinaryWrite : RateLimitPolicy
  authorizationWrite : RateLimitPolicy

def SecurityPolicies.fromSettings (s : LimiterSettings) : Except LimiterError SecurityPolicies := do
  let captchaCreate ← RateLimitPolicy.make "captcha_create" s.captchaCreatePerFiveMinutes 300
  let login ← RateLimitPolicy.make "login" s.loginIpPerFiveMinutes 300
  let registration ← RateLimitPolicy.make "register" s.registrationIpPerHour 3600
  let temporaryComplete ←
    RateLimitPolicy.make "temporary_complete" s.temporaryCompleteIpPerFiveMinutes 300
  let authenticatedRead ← RateLimitPolicy.make "authenticated_read" s.authenticatedReadPerMinute 60
  let managementRead ← RateLimitPolicy.make "management_read" s.managementReadPerMinute 60
  let ordinaryWrite ← RateLimitPolicy.make "ordinary_write" s.ordinaryWritePerMinute 60
  let authorizationWrite ←
    RateLimitPolicy.make "authorization_write" s.authorizationWritePerMinute 60
  pure { captchaCreate, login, registration, temporaryComplete, authenticatedRead, managementRead,
         ordinaryWrite, authorizationWrite }

/-! ## keys -/

def rateLimitKeyPrefix : String := "rl:v2"

/-- `hmac` is the hexadecimal HMAC-SHA256 of a message under a secret -/
def buildRateLimitKey (hmac : String → String → String) (namespace_ : String)
    (policy : RateLimitPolicy) (subjectType subject keySecret : String) :
    Except LimiterError String := do
  require (isIdentifier namespace_ = true)
    (.valueError "namespace must be a static lowercase ASCII identifier")
  require (isIdentifier subjectType = true)
    (.valueError "subject type must be a static lowercase ASCII identifier")
  require (subject ≠ "" ∧ encodedLength subject ≤ maxSubjectBytes)
    (.valueError "subject must be a non-empty bounded string")
  require (32 ≤ encodedLength keySecret)
    (.valueError "rate-limit key secret must contain at least 32 bytes")
  let message := "\x00".intercalate
    [rateLimitKeyPrefix, namespace_, policy.name, subjectType, subject]
  pure (rateLimitKeyPrefix ++ ":" ++ namespace_ ++ ":" ++ policy.name ++ ":" ++ subjectType ++ ":" ++
    hmac keySecret message)

/-! ## requests -/

structure HttpRequest (β : Type) where
  operationId : Option String
  method : String
  contentType : String
  body : β

structure CaptchaCreateRequest where
  scene : String
  previousCaptchaId : Option Uuid

def isJsonMediaType (contentType : String) : Bool :=
  let mediaType := (asciiCasefold (strip
    (String.ofList (contentType.toList.takeWhile (· ≠ ';'))))).toList
  decide (mediaType = "application/json".toList) ||
    ("application/".toList.isPrefixOf mediaType && "+json".toList.isSuffixOf mediaType)

variable {β : Type}

/-- `json` reads a body and validates it as a request of the API -/
def parseCaptchaCreateRequest (json : β → Option CaptchaCreateRequest) (request : HttpRequest β) :
    Option CaptchaCreateRequest :=
  if isJsonMediaType request.contentType then json request.body else none

/-! ## the policy of an operation -/

inductive ActorQuotaName where
  | authenticatedRead | managementRead | ordinaryWrite | authorizationWrite
  deriving DecidableEq, Repr

def authenticatedRateLimitRules : List (String × String × ActorQuotaName) :=
  [("logout_current_access_token", "POST", .ordinaryWrite),
    ("get_my_access", "GET", .authenticatedRead),
    ("my_active_sessions", "GET", .authenticatedRead),
    ("list_permissions", "GET", .managementRead),
    ("get_permission", "GET", .managementRead),
    ("list_roles", "GET", .managementRead),
    ("get_role", "GET", .managementRead),
    ("list_users", "GET", .managementRead),
    ("get_user", "GET", .managementRead),
    ("change_my_password", "POST", .ordinaryWrite),
    ("create_role", "POST", .authorizationWrite),
    ("update_role", "POST", .authorizationWrite),
    ("disable_role", "POST", .authorizationWrite),
    ("enable_role", "POST", .authorizationWrite),
    ("delete_role", "POST", .authorizationWrite),
    ("bind_role_permissions", "POST", .authorizationWrite),
    ("unbind_role_permissions", "POST", .authorizationWrite),
    ("bind_user_roles", "POST", .authorizationWrite),
    ("unbind_user_roles", "POST", .authorizationWrite),
    ("disable_user", "POST", .authorizationWrite),
    ("enable_user", "POST", .authorizationWrite),
    ("reset_user_password", "POST", .authorizationWrite),
    ("create_user", "POST", .authorizationWrite),
    ("revoke_user_sessions", "POST", .authorizationWrite),
    ("update_registration_policy", "POST", .authorizationWrite)]

/-- each scene of the authenticated CAPTCHA route has a quota of its own -/
def authenticatedRateLimitExemptOperations : List (String × String) :=
  [("create_authenticated_captcha", "POST")]

def privateCaptchaScenes : List String := ["admin_create", "admin_reset", "self_change"]

def operationIdOf (request : HttpRequest β) : String := request.operationId.getD ""

def SecurityPolicies.quota (policies : SecurityPolicies) : ActorQuotaName → RateLimitPolicy
  | .authenticatedRead => policies.authenticatedRead
  | .managementRead => policies.managementRead
  | .ordinaryWrite => policies.ordinaryWrite
  | .authorizationWrite => policies.authorizationWrite

def methodMismatch : LimiterError :=
  .unavailable "protected operation method does not match policy"

/-- a `ValueError` of an operation's policy is reported as a missing limiter -/
def orInvalidIdentifier {α : Type} : Except LimiterError α → Except LimiterError α
  | .error (.valueError _) => .error (.unavailable "protected operation has invalid identifier")
  | x => x

def actorPolicyFor (request : HttpRequest β) (settings : LimiterSettings) :
    Except LimiterError RateLimitPolicy := do
  let policies ← SecurityPolicies.fromSettings settings
  let operationId := operationIdOf request
  let (expectedMethod, quotaName) ← orRaise (authenticatedRateLimitRules.lookup operationId)
    (.unavailable "protected operation needs a stable identifier")
  require (request.method = expectedMethod) methodMismatch
  let quota := policies.quota quotaName
  orInvalidIdentifier (RateLimitPolicy.make operationId quota.limit quota.windowSeconds)

def rateLimitPolicyFor (request : HttpRequest β) (settings : LimiterSettings) :
    Except LimiterError (Option RateLimitPolicy) :=
  match authenticatedRateLimitExemptOperations.lookup (operationIdOf request) with
  | some exemptMethod =>
    if request.method = exemptMethod then .ok none else .error methodMismatch
  | none => (actorPolicyFor request settings).map some

/-- the name of the window that a CAPTCHA body is inspected against -/
def inspectedCaptchaName : Option CaptchaCreateRequest → String
  | none => "captcha_rejected_scene"
  | some body =>
    if body.scene ∈ privateCaptchaScenes then "captcha_create_" ++ body.scene
    else "captcha_rejected_scene"

def inspectionPolicyFor (json : β → Option CaptchaCreateRequest) (request : HttpRequest β)
    (settings : LimiterSettings) : Except LimiterError (Option RateLimitPolicy) :=
  if operationIdOf request ≠ "create_authenticated_captcha" then rateLimitPolicyFor request settings
  else if request.method ≠ "POST" then .error methodMismatch
  else do
    let policyName := inspectedCaptchaName (parseCaptchaCreateRequest json request)
    let quota := (← SecurityPolicies.fromSettings settings).captchaCreate
    let policy ← RateLimitPolicy.make policyName quota.limit quota.windowSeconds
    pure (some policy)

/-! ## the calls of a request -/

/-- one key of the limiter with the arguments of its script -/
structure QuotaBucket where
  key : String
  limit : Nat
  windowSeconds : Nat
  deriving DecidableEq, Repr

inductive BucketOp where
  | inspect (bucket : QuotaBucket)
  | charge (bucket : QuotaBucket)
  deriving DecidableEq, Repr

inductive AdmissionError where
  | limiter (e : LimiterError)
  /-- `unavailable("rate_limit_registry_unavailable")` -/
  | registryUnavailable
  | exceeded (policyName : String) (result : RateLimitResult)
  | database (e : Failure)
  | validation
  | request (reasonCode : String)

/-- a computation that runs scripts of the limiter and may raise -/
def Admission (α : Type) := List BucketOp → Except AdmissionError α × List BucketOp

namespace Admission

def pure' {α : Type} (a : α) : Admission α := fun log => (.ok a, log)

def andThen {α γ : Type} (m : Admission α) (f : α → Admission γ) : Admission γ := fun log =>
  match m log with
  | (.ok a, log) => f a log
  | (.error e, log) => (.error e, log)

instance : Monad Admission where
  pure := pure'
  bind := andThen

def lift {α : Type} (x : Except AdmissionError α) : Admission α := fun log => (x, log)

end Admission

/-- what the route of the model is run with: the limiter's settings, the hash of its keys, its
answers, the reader of a JSON body and the one of the framework -/
structure Limits (β : Type) where
  settings : LimiterSettings
  hmac : String → String → String
  /-- the answer to a call after the given ones -/
  answers : List BucketOp → BucketOp → Except LimiterError RateLimitResult
  json : β → Option CaptchaCreateRequest
  framework : HttpRequest β → Option CaptchaCreateRequest

namespace Limits
variable (l : Limits β)

def bucket (policy : RateLimitPolicy) (subjectType subject : String) :
    Except LimiterError QuotaBucket := do
  let key ← buildRateLimitKey l.hmac l.settings.namespace_ policy subjectType subject
    l.settings.hmacKey
  pure ⟨key, policy.limit, policy.windowSeconds⟩

/-- `check_rate_limit` or `inspect_rate_limit` -/
def call (op : QuotaBucket → BucketOp) (onError : LimiterError → AdmissionError)
    (policy : RateLimitPolicy) (subjectType subject : String) : Admission RateLimitResult :=
  fun log =>
    match l.bucket policy subjectType subject with
    | .error e => (.error (onError e), log)
    | .ok b => ((l.answers log (op b)).mapError onError, log ++ [op b])

/-- `_raise_rate_limit_unavailable`; a `ValueError` is not caught -/
def registryError : LimiterError → AdmissionError
  | .unavailable _ => .registryUnavailable
  | .valueError message => .limiter (.valueError message)

def denyExhausted (policy : RateLimitPolicy) (result : RateLimitResult) : Admission Unit :=
  if result.allowed then .lift (.ok ()) else .lift (.error (.exceeded policy.name result))

/-- an inspection or a charge of the actor's window, and the denial of an exhausted one -/
def actorLimit (op : QuotaBucket → BucketOp)
    (policy : Except LimiterError (Option RateLimitPolicy)) (userId : Uuid) : Admission Unit :=
  if ¬ l.settings.rateLimitEnabled then .lift (.ok ())
  else do
    let policy ← .lift (policy.mapError registryError)
    match policy with
    | none => .lift (.ok ())
    | some policy => do
      let result ← l.call op registryError policy "actor" userId.text
      denyExhausted policy result

def precheckPrincipalRateLimit (request : HttpRequest β) (userId : Uuid) : Admission Unit :=
  l.actorLimit .inspect (inspectionPolicyFor l.json request l.settings) userId

def enforcePrincipalRateLimit (request : HttpRequest β) (userId : Uuid) : Admission Unit :=
  l.actorLimit .charge (rateLimitPolicyFor request l.settings) userId

/-! ## `AbuseDefenseService` -/

def check (policy : RateLimitPolicy) (subjectType subject : String) : Admission Unit := do
  let result ← l.call .charge .limiter policy subjectType subject
  denyExhausted policy result

def abusePrivateCaptchaScenes : List String := ["admin_create", "admin_reset", "self_change"]

/-- every CAPTCHA window has one quota -/
def captchaWindow (name : String) (policies : SecurityPolicies) :
    Except LimiterError RateLimitPolicy :=
  RateLimitPolicy.make name policies.captchaCreate.limit policies.captchaCreate.windowSeconds

/-- for an authenticated owner; the policies are those of the constructor -/
def checkCaptchaCreate (scene userId : String) : Admission Unit := do
  let policies ← .lift ((SecurityPolicies.fromSettings l.settings).mapError .limiter)
  if scene ∈ abusePrivateCaptchaScenes ∧ userId ≠ "" ∧ encodedLength userId ≤ 1024 then do
    let policy ← .lift ((captchaWindow ("captcha_create_" ++ scene) policies).mapError .limiter)
    l.check policy "actor" userId
  else .lift (.error (.limiter
    (.valueError "captcha scene and authenticated subject do not match")))

def checkRejectedCaptchaScene (userId : String) : Admission Unit := do
  let policies ← .lift ((SecurityPolicies.fromSettings l.settings).mapError .limiter)
  if userId ≠ "" ∧ encodedLength userId ≤ 1024 then do
    let policy ← .lift ((captchaWindow "captcha_rejected_scene" policies).mapError .limiter)
    l.check policy "actor" userId
  else .lift (.error (.limiter (.valueError "rejected captcha needs one trusted subject")))

/-! ## the authenticated CAPTCHA route -/

def admitRejectedCaptchaScene (ownerId : Uuid) : Admission Unit :=
  if ¬ l.settings.rateLimitEnabled then .lift (.ok ())
  else l.checkRejectedCaptchaScene ownerId.text

def precheckCaptchaBody (request : HttpRequest β) (ownerId : Uuid) : Admission Unit :=
  if (parseCaptchaCreateRequest l.json request).isSome then .lift (.ok ())
  else l.admitRejectedCaptchaScene ownerId

/-- `_issue_captcha` up to the image -/
def issueCaptcha (body : CaptchaCreateRequest) (ownerId : Uuid) : Admission Unit :=
  if l.settings.rateLimitEnabled then l.checkCaptchaCreate body.scene ownerId.text
  else .lift (.ok ())

def createAuthenticatedCaptcha (body : CaptchaCreateRequest) (ownerId : Uuid) : Admission Unit :=
  if body.scene ∉ ["admin_create", "admin_reset", "self_change"] then do
    l.admitRejectedCaptchaScene ownerId
    .lift (.error (.request "captcha_scene_is_public"))
  else l.issueCaptcha body ownerId

/-! ## a request -/

/-- with any answer of the database -/
def getAuthorizationContext (database : Except Failure Unit) (request : HttpRequest β)
    (userId : Uuid) : Admission Unit := do
  l.precheckPrincipalRateLimit request userId
  .lift (database.mapError .database)
  l.enforcePrincipalRateLimit request userId

/-- what follows on the route; only the CAPTCHA route uses the limiter again -/
def route (request : HttpRequest β) (userId : Uuid) : Admission Unit :=
  if operationIdOf request ≠ "create_authenticated_captcha" then .lift (.ok ())
  else do
    l.precheckCaptchaBody request userId
    match l.framework request with
    | none => .lift (.error .validation)
    | some body => l.createAuthenticatedCaptcha body userId

def authenticatedRequest (database : Except Failure Unit) (request : HttpRequest β)
    (userId : Uuid) : Admission Unit := do
  l.getAuthorizationContext database request userId
  l.route request userId

end Limits

/-! ## one moment of the store -/

/-- the limiter lets a request through -/
def Admits (x : Except LimiterError RateLimitResult) : Prop := ∃ r, x = .ok r ∧ r.allowed = true

theorem admits_result {policy : RateLimitPolicy} {count ttl : Int} (hcount : 1 ≤ count)
    (ht : 0 < ttl) :
    Admits (parseResult policy (count, ttl)) ↔
      ttl ≤ policy.windowSeconds * 1000 ∧ count ≤ policy.limit := by
  unfold parseResult Admits
  dsimp only
  by_cases hspan : ttl ≤ policy.windowSeconds * 1000
  · rw [if_neg (by omega)]
    constructor
    · rintro ⟨r, hr, hallowed⟩
      cases hr
      exact ⟨hspan, of_decide_eq_true hallowed⟩
    · rintro ⟨-, hle⟩
      exact ⟨_, rfl, decide_eq_true hle⟩
  · rw [if_pos (by omega)]
    constructor
    · rintro ⟨r, hr, -⟩
      cases hr
    · rintro ⟨h, -⟩
      exact absurd h hspan

theorem admits_inspection {policy : RateLimitPolicy} {count ttl : Int} (hcount : 1 ≤ count)
    (ht : 0 < ttl) :
    Admits (parseInspection policy (count, ttl)) ↔
      ttl ≤ policy.windowSeconds * 1000 ∧ count < policy.limit := by
  unfold parseInspection Admits
  dsimp only
  rw [if_neg (by omega)]
  by_cases hspan : ttl ≤ policy.windowSeconds * 1000
  · rw [if_neg (by omega)]
    constructor
    · rintro ⟨r, hr, hallowed⟩
      cases hr
      exact ⟨hspan, of_decide_eq_true hallowed⟩
    · rintro ⟨-, hlt⟩
      exact ⟨_, rfl, decide_eq_true hlt⟩
  · rw [if_pos (by omega)]
    constructor
    · rintro ⟨r, hr, -⟩
      cases hr
    · rintro ⟨h, -⟩
      exact absurd h hspan

theorem common_state {policy : RateLimitPolicy} {other : String → Option Int} {now : Nat} {c : Cell String}
    {raw raw' : Int × Int} {e : Entry String} (he : c.alive now = some e)
    (hi : inspectFixedWindowScript other now c = .ok raw)
    (hc : (fixedWindowScript policy.limit policy.windowSeconds now c).1 = .ok raw') :
    ∃ n d : Nat, c = some ⟨Int.repr n, some d⟩ ∧ now ≤ d ∧ 1 ≤ n ∧ n < 2 ^ 63 - 1 := by
  obtain ⟨hcell, hdeadline⟩ := Cell.alive_eq_some.mp he
  obtain ⟨value, deadline⟩ := e
  have hl := policy.limit_ok.1
  have hw := policy.window_ok.1
  unfold fixedWindowScript at hc
  rw [if_neg (by omega)] at hc
  cases deadline with
  | none =>
    have hpttl : c.pttl now = -1 := by rw [Cell.pttl, he]
    rw [if_pos hpttl] at hc
    cases hc
  | some d =>
    have hd : now ≤ d := hdeadline d rfl
    have hpttl : c.pttl now = d - now := by rw [Cell.pttl, he]
    rw [hpttl, if_neg (by omega)] at hc
    cases hn : Cell.string2ll value with
    | none =>
      have hincr : c.incr now = none := by
        rw [Cell.incr, he]
        simp only [hn]
      rw [hincr] at hc
      cases hc
    | some n =>
      obtain ⟨rfl, hlow, hhigh⟩ := Cell.string2ll_eq_some.mp hn
      have hmax : n ≠ 2 ^ 63 - 1 := by
        intro hfull
        have hincr : c.incr now = none := by
          rw [Cell.incr, he]
          simp only [hn]
          rw [if_pos hfull]
        rw [hincr] at hc
        cases hc
      have hpos : 1 ≤ n := by
        by_contra hle
        have hcount : doubleInt n < 1 := by
          rcases Int.lt_or_eq_of_le (show n ≤ 0 by omega) with hneg | hzero
          · have := doubleInt_of_neg hneg
            omega
          · rw [hzero]
            decide +kernel
        unfold inspectFixedWindowScript at hi
        rw [Cell.get, he] at hi
        simp only [Option.map_some, wholeNumber, hn] at hi
        rw [if_pos hcount] at hi
        cases hi
      refine ⟨n.toNat, d, ?_, hd, by omega, by omega⟩
      rw [hcell, Int.toNat_of_nonneg (by omega)]

/-- **at one moment an inspection admits what a call would** -/
theorem inspect_agrees {policy : RateLimitPolicy} {other : String → Option Int} {now : Nat}
    {c : Cell String} {raw raw' : Int × Int} (hi : inspectFixedWindowScript other now c = .ok raw)
    (hc : (fixedWindowScript policy.limit policy.windowSeconds now c).1 = .ok raw') :
    Admits (inspectRateLimit other policy now c) ↔ Admits (checkRateLimit policy now c).1 := by
  have hlimit := policy.limit_lt
  cases he : c.alive now with
  | none =>
    have hspan := policy.span_pos
    have hscript := script_missing policy he
    have hone : (1 : Int) = (double 1 : Nat) := by
      rw [double_eq_self (by omega)]
      rfl
    have hcheck : (checkRateLimit policy now c).1 = .ok (policy.answer 1 policy.span) := by
      unfold checkRateLimit
      rw [hscript, hone]
      exact parseResult_answer policy (Nat.le_refl 1) hspan (Nat.le_refl _)
    have hinspect : inspectRateLimit other policy now c = .ok ⟨true, policy.limit, policy.limit, 0, 0⟩ := by
      unfold inspectRateLimit
      rw [inspect_missing he]
      rfl
    rw [hinspect, hcheck]
    exact iff_of_true ⟨_, rfl, rfl⟩ ⟨_, rfl, decide_eq_true policy.limit_ok.1⟩
  | some e =>
    obtain ⟨n, d, hcell, hd, hn, hfull⟩ := common_state he hi hc
    rw [hcell] at hi hc
    rw [inspect_alive other hn (by omega) hd] at hi
    have hlt : now < d := by
      by_contra hge
      rw [if_neg hge] at hi
      cases hi
    have hscript := script_alive policy hn hfull hd
    have hinspect := inspect_alive other hn (by omega) hd
    rw [if_pos hlt] at hscript hinspect
    unfold checkRateLimit inspectRateLimit
    rw [hcell, hscript, hinspect]
    show Admits (parseInspection policy ((double n : Nat), (double (d - now) : Nat))) ↔
      Admits (parseResult policy ((double (n + 1) : Nat), (double (d - now) : Nat)))
    -- the count of an inspection is one behind that of a call
    have hnext : ((double (n + 1) : Nat) : Int) ≤ policy.limit ↔ n + 1 ≤ policy.limit := by
      rw [Int.ofNat_le]
      exact double_le_iff hlimit
    have hnow : ((double n : Nat) : Int) < policy.limit ↔ n < policy.limit := by
      have := double_le_iff (n := n) (show policy.limit - 1 < 2 ^ 53 by omega)
      have := policy.limit_ok.1
      omega
    have hpos := double_pos hn
    have hpos' := double_pos (show 0 < n + 1 by omega)
    have hleft := double_pos (show 0 < d - now by omega)
    rw [admits_inspection (by omega) (by omega), admits_result (by omega) (by omega), hnext, hnow]
    exact Iff.rfl

/-! ## what a request runs -/

namespace Admission
variable {α γ : Type}

theorem bind_apply (m : Admission α) (f : α → Admission γ) (log : List BucketOp) :
    (m >>= f) log = match m log with
      | (.ok a, log) => f a log
      | (.error e, log) => (.error e, log) := rfl

theorem bind_of_ok {m : Admission α} (f : α → Admission γ) {log log' : List BucketOp} {a : α}
    (h : m log = (.ok a, log')) : (m >>= f) log = f a log' := by
  rw [bind_apply, h]

theorem bind_of_error {m : Admission α} (f : α → Admission γ) {log log' : List BucketOp}
    {e : AdmissionError} (h : m log = (.error e, log')) : (m >>= f) log = (.error e, log') := by
  rw [bind_apply, h]

@[simp] theorem lift_apply (x : Except AdmissionError α) (log : List BucketOp) :
    lift x log = (x, log) := rfl

end Admission

namespace Limits
variable {l : Limits β} {request : HttpRequest β} {userId : Uuid} {log : List BucketOp}

open Admission

theorem call_admit {op : QuotaBucket → BucketOp} {onError : LimiterError → AdmissionError}
    {policy : RateLimitPolicy} {subjectType subject : String} {b : QuotaBucket}
    (hb : l.bucket policy subjectType subject = .ok b) :
    ((l.call op onError policy subjectType subject >>= denyExhausted policy) log).2 = log ++ [op b] := by
  have hcall : l.call op onError policy subjectType subject log =
      ((l.answers log (op b)).mapError onError, log ++ [op b]) := by
    unfold call
    rw [hb]
  cases ha : (l.answers log (op b)).mapError onError with
  | error e =>
    rw [ha] at hcall
    rw [bind_of_error _ hcall]
  | ok result =>
    rw [ha] at hcall
    rw [bind_of_ok _ hcall]
    unfold denyExhausted
    split <;> rfl

theorem call_admit_error {op : QuotaBucket → BucketOp} {onError : LimiterError → AdmissionError}
    {policy : RateLimitPolicy} {subjectType subject : String} {e : LimiterError}
    (hb : l.bucket policy subjectType subject = .error e) :
    (l.call op onError policy subjectType subject >>= denyExhausted policy) log =
      (.error (onError e), log) := by
  have hcall : l.call op onError policy subjectType subject log = (.error (onError e), log) := by
    unfold call
    rw [hb]
  exact bind_of_error _ hcall

theorem actorLimit_disabled {op : QuotaBucket → BucketOp}
    {policy : Except LimiterError (Option RateLimitPolicy)}
    (h : l.settings.rateLimitEnabled = false) :
    l.actorLimit op policy userId log = (.ok (), log) := by
  unfold actorLimit
  simp [h]

theorem actorLimit_none {op : QuotaBucket → BucketOp} :
    l.actorLimit op (.ok none) userId log = (.ok (), log) := by
  unfold actorLimit
  split <;> rfl

theorem actorLimit_some (op : QuotaBucket → BucketOp) (log : List BucketOp)
    {policy : RateLimitPolicy} {b : QuotaBucket}
    (h : l.settings.rateLimitEnabled = true) (hb : l.bucket policy "actor" userId.text = .ok b) :
    (l.actorLimit op (.ok (some policy)) userId log).2 = log ++ [op b] := by
  unfold actorLimit
  rw [if_neg (by simp [h])]
  exact call_admit hb

theorem actorLimit_cases (op : QuotaBucket → BucketOp)
    (policy : Except LimiterError (Option RateLimitPolicy)) (userId : Uuid) (log : List BucketOp)
    (h : l.settings.rateLimitEnabled = true) :
    (∃ e, l.actorLimit op policy userId log = (.error e, log)) ∨ policy = .ok none ∨
      ∃ p b, policy = .ok (some p) ∧ l.bucket p "actor" userId.text = .ok b := by
  rcases policy with e | (_ | p)
  · refine Or.inl ⟨registryError e, ?_⟩
    unfold actorLimit
    rw [if_neg (by simp [h])]
    rfl
  · exact Or.inr (Or.inl rfl)
  · cases hb : l.bucket p "actor" userId.text with
    | ok b => exact Or.inr (Or.inr ⟨p, b, rfl, hb⟩)
    | error e =>
      refine Or.inl ⟨registryError e, ?_⟩
      unfold actorLimit
      rw [if_neg (by simp [h])]
      exact call_admit_error hb

/-! ## the CAPTCHA route -/

theorem inspection_captcha {policy : Option RateLimitPolicy}
    (hop : operationIdOf request = "create_authenticated_captcha")
    (h : inspectionPolicyFor l.json request l.settings = .ok policy) :
    request.method = "POST" ∧ ∃ policies p, policy = some p ∧
      SecurityPolicies.fromSettings l.settings = .ok policies ∧
      captchaWindow (inspectedCaptchaName (parseCaptchaCreateRequest l.json request)) policies =
        .ok p := by
  unfold inspectionPolicyFor at h
  rw [if_neg (not_not.mpr hop)] at h
  split at h
  · cases h
  · rename_i hmethod
    simp only [bind_ok, pure_ok] at h
    obtain ⟨policies, hs, p, hp, rfl⟩ := h
    exact ⟨not_not.mp hmethod, policies, p, rfl, hs, hp⟩

theorem exempt_captcha (hop : operationIdOf request = "create_authenticated_captcha")
    (hmethod : request.method = "POST") : rateLimitPolicyFor request l.settings = .ok none := by
  unfold rateLimitPolicyFor
  rw [hop, hmethod]
  rfl

theorem bucket_subject {policy : RateLimitPolicy} {subjectType subject : String} {b : QuotaBucket}
    (h : l.bucket policy subjectType subject = .ok b) :
    subject ≠ "" ∧ encodedLength subject ≤ 1024 := by
  unfold bucket at h
  rw [bind_ok] at h
  obtain ⟨key, hkey, -⟩ := h
  unfold buildRateLimitKey at hkey
  simp only [bind_ok, require_ok] at hkey
  obtain ⟨-, -, -, -, -, hsubject, -⟩ := hkey
  exact hsubject

theorem check_log {name : String} {policies : SecurityPolicies} {p : RateLimitPolicy}
    {b : QuotaBucket} (hp : captchaWindow name policies = .ok p)
    (hb : l.bucket p "actor" userId.text = .ok b) :
    ((Admission.lift ((captchaWindow name policies).mapError .limiter) >>= fun policy =>
      l.check policy "actor" userId.text) log).2 = log ++ [.charge b] := by
  rw [hp]
  exact call_admit hb

theorem admitRejected_log {policies : SecurityPolicies} {p : RateLimitPolicy} {b : QuotaBucket}
    (h : l.settings.rateLimitEnabled = true)
    (hs : SecurityPolicies.fromSettings l.settings = .ok policies)
    (hp : captchaWindow "captcha_rejected_scene" policies = .ok p)
    (hb : l.bucket p "actor" userId.text = .ok b) :
    (l.admitRejectedCaptchaScene userId log).2 = log ++ [.charge b] := by
  unfold admitRejectedCaptchaScene checkRejectedCaptchaScene
  rw [if_neg (by simp [h]), hs]
  show ((if _ then _ else _ : Admission Unit) log).2 = _
  rw [if_pos (bucket_subject hb)]
  exact check_log hp hb

theorem bind_lift_log {α γ : Type} (m : Admission α) (x : Except AdmissionError γ) :
    ((m >>= fun _ => Admission.lift x) log).2 = (m log).2 := by
  rw [bind_apply]
  rcases m log with ⟨e | a, log'⟩
  · rfl
  · rfl

/-- **the CAPTCHA route charges the window that was inspected** -/
theorem route_captcha (hop : operationIdOf request = "create_authenticated_captcha")
    (hframework : l.framework request = parseCaptchaCreateRequest l.json request)
    (h : l.settings.rateLimitEnabled = true) {policies : SecurityPolicies} {p : RateLimitPolicy}
    {b : QuotaBucket} (hs : SecurityPolicies.fromSettings l.settings = .ok policies)
    (hp : captchaWindow (inspectedCaptchaName (parseCaptchaCreateRequest l.json request)) policies =
      .ok p)
    (hb : l.bucket p "actor" userId.text = .ok b) :
    (l.route request userId log).2 = log ++ [.charge b] := by
  unfold route precheckCaptchaBody
  rw [if_neg (not_not.mpr hop), hframework]
  cases hbody : parseCaptchaCreateRequest l.json request with
  | none =>
    -- a malformed body is charged, and only then rejected
    rw [hbody] at hp
    exact (bind_lift_log _ _).trans (admitRejected_log h hs hp hb)
  | some body =>
    rw [hbody] at hp
    show (l.createAuthenticatedCaptcha body userId log).2 = _
    unfold createAuthenticatedCaptcha
    unfold inspectedCaptchaName at hp
    dsimp only at hp
    by_cases hscene : body.scene ∈ ["admin_create", "admin_reset", "self_change"]
    · rw [if_pos (show body.scene ∈ privateCaptchaScenes from hscene)] at hp
      rw [if_neg (not_not.mpr hscene)]
      unfold issueCaptcha checkCaptchaCreate
      rw [if_pos h, hs]
      show ((if _ then _ else _ : Admission Unit) log).2 = _
      rw [if_pos ⟨show body.scene ∈ abusePrivateCaptchaScenes from hscene, bucket_subject hb⟩]
      exact check_log hp hb
    · rw [if_neg (show body.scene ∉ privateCaptchaScenes from hscene)] at hp
      rw [if_pos hscene]
      exact (bind_lift_log _ _).trans (admitRejected_log h hs hp hb)

/-! ## every route -/

/-- the policy that is inspected, and the charge that follows it -/
theorem enforced (log : List BucketOp) {p : RateLimitPolicy} {b : QuotaBucket}
    (hframework : l.framework request = parseCaptchaCreateRequest l.json request)
    (h : l.settings.rateLimitEnabled = true)
    (hp : inspectionPolicyFor l.json request l.settings = .ok (some p))
    (hb : l.bucket p "actor" userId.text = .ok b) :
    ((l.enforcePrincipalRateLimit request userId >>= fun _ => l.route request userId) log).2 =
      log ++ [.charge b] := by
  unfold enforcePrincipalRateLimit
  by_cases hop : operationIdOf request = "create_authenticated_captcha"
  · obtain ⟨hmethod, policies, p', he, hs, hp'⟩ := inspection_captcha hop hp
    cases he
    rw [exempt_captcha hop hmethod, bind_of_ok _ actorLimit_none]
    exact route_captcha hop hframework h hs hp' hb
  · have hsame : rateLimitPolicyFor request l.settings = .ok (some p) := by
      unfold inspectionPolicyFor at hp
      rwa [if_pos hop] at hp
    have hroute : l.route request userId = .lift (.ok ()) := by
      unfold route
      rw [if_pos hop]
    rw [hsame, hroute, bind_lift_log]
    exact actorLimit_some .charge log h hb

theorem inspection_ne_none : inspectionPolicyFor l.json request l.settings ≠ .ok none := by
  intro h
  by_cases hop : operationIdOf request = "create_authenticated_captcha"
  · obtain ⟨-, -, p, he, -⟩ := inspection_captcha hop h
    cases he
  · unfold inspectionPolicyFor at h
    rw [if_pos hop] at h
    unfold rateLimitPolicyFor at h
    have hlookup : authenticatedRateLimitExemptOperations.lookup (operationIdOf request) = none := by
      unfold authenticatedRateLimitExemptOperations
      rw [List.lookup_cons, beq_eq_false_iff_ne.mpr hop]
      rfl
    rw [hlookup] at h
    cases hx : actorPolicyFor request l.settings with
    | ok p =>
      rw [hx] at h
      cases h
    | error e =>
      rw [hx] at h
      cases h

theorem admitRejected_disabled (h : l.settings.rateLimitEnabled = false) :
    l.admitRejectedCaptchaScene userId log = (.ok (), log) := by
  unfold admitRejectedCaptchaScene
  simp [h]

/-- without the limiter no route runs a script -/
theorem route_disabled (h : l.settings.rateLimitEnabled = false) :
    (l.route request userId log).2 = log := by
  unfold route precheckCaptchaBody
  split
  · rfl
  · have hpre : (if (parseCaptchaCreateRequest l.json request).isSome then Admission.lift (.ok ())
        else l.admitRejectedCaptchaScene userId) log = (.ok (), log) := by
      split
      · rfl
      · exact admitRejected_disabled h
    rw [bind_of_ok _ hpre]
    cases l.framework request with
    | none => rfl
    | some body =>
      dsimp only
      unfold createAuthenticatedCaptcha issueCaptcha
      split
      · rw [bind_lift_log, admitRejected_disabled h]
      · simp [h]

theorem request_disabled (database : Except Failure Unit)
    (h : l.settings.rateLimitEnabled = false) :
    (l.authenticatedRequest database request userId []).2 = [] := by
  have hpre : l.precheckPrincipalRateLimit request userId [] = (.ok (), []) := actorLimit_disabled h
  have hpost : l.enforcePrincipalRateLimit request userId [] = (.ok (), []) := actorLimit_disabled h
  unfold authenticatedRequest getAuthorizationContext
  rw [bind_apply, bind_of_ok _ hpre]
  cases database with
  | error e => rfl
  | ok u =>
    have hdb : Admission.lift ((Except.ok u : Except Failure Unit).mapError .database) [] =
        (.ok u, []) := rfl
    rw [bind_of_ok _ hdb, hpost]
    exact route_disabled h

/-- a request is inspected, and then charged if its context is accepted -/
theorem request_ops (database : Except Failure Unit)
    (hframework : l.framework request = parseCaptchaCreateRequest l.json request)
    (h : l.settings.rateLimitEnabled = true) :
    ((l.getAuthorizationContext database request userId []).1 ≠ .ok () ∧
        (l.authenticatedRequest database request userId []).2 = []) ∨
      ∃ b, ((l.getAuthorizationContext database request userId []).1 ≠ .ok () ∧
          (l.authenticatedRequest database request userId []).2 = [.inspect b]) ∨
        (l.authenticatedRequest database request userId []).2 = [.inspect b, .charge b] := by
  unfold authenticatedRequest getAuthorizationContext precheckPrincipalRateLimit
  rcases actorLimit_cases .inspect (inspectionPolicyFor l.json request l.settings) userId [] h with
    ⟨e, he⟩ | hnone | ⟨p, b, hp, hb⟩
  · refine Or.inl ?_
    rw [bind_of_error _ (bind_of_error _ he), bind_of_error _ he]
    exact ⟨nofun, rfl⟩
  · exact absurd hnone inspection_ne_none
  · refine Or.inr ⟨b, ?_⟩
    have hlog := actorLimit_some .inspect [] h hb
    rw [← hp, List.nil_append] at hlog
    cases hpre : l.actorLimit .inspect (inspectionPolicyFor l.json request l.settings) userId [] with
    | mk r log' =>
    obtain rfl : log' = [.inspect b] := by
      rw [hpre] at hlog
      exact hlog
    cases r with
    | error e =>
      refine Or.inl ?_
      rw [bind_of_error _ (bind_of_error _ hpre), bind_of_error _ hpre]
      exact ⟨nofun, rfl⟩
    | ok u =>
      cases database with
      | error e =>
        have hdb : (Admission.lift ((Except.error e : Except Failure Unit).mapError .database) >>=
            fun _ => l.enforcePrincipalRateLimit request userId) [.inspect b] =
              (.error (.database e), [.inspect b]) := rfl
        refine Or.inl ?_
        have hcontext := (bind_of_ok (fun _ =>
          Admission.lift ((Except.error e : Except Failure Unit).mapError .database) >>=
            fun _ => l.enforcePrincipalRateLimit request userId) hpre).trans hdb
        rw [bind_of_error _ hcontext, hcontext]
        exact ⟨nofun, rfl⟩
      | ok v =>
        -- the charge follows in the same state
        have hcontext := bind_of_ok (fun _ =>
          Admission.lift ((Except.ok v : Except Failure Unit).mapError .database) >>=
            fun _ => l.enforcePrincipalRateLimit request userId) hpre
        refine Or.inr ?_
        have hcharge := enforced [.inspect b] hframework h hp hb
        rw [bind_apply, hcontext]
        exact hcharge

end Limits

/-- **the precheck agrees with the charge** -/
theorem precheck_agrees (l : Limits β)
    (hframework : ∀ request, l.framework request = parseCaptchaCreateRequest l.json request)
    (database : Except Failure Unit) (request : HttpRequest β) (userId : Uuid) :
    ((l.authenticatedRequest database request userId []).2 = [] ∨
      ∃ b, (l.authenticatedRequest database request userId []).2 = [.inspect b] ∨
        (l.authenticatedRequest database request userId []).2 = [.inspect b, .charge b]) ∧
    (l.settings.rateLimitEnabled = true →
      (l.getAuthorizationContext database request userId []).1 = .ok () →
      ∃ b, (l.authenticatedRequest database request userId []).2 = [.inspect b, .charge b]) ∧
    ∀ (policy : RateLimitPolicy) (other : String → Option Int) (now : Nat) (c : Cell String)
      (raw raw' : Int × Int), inspectFixedWindowScript other now c = .ok raw →
      (fixedWindowScript policy.limit policy.windowSeconds now c).1 = .ok raw' →
      (Admits (inspectRateLimit other policy now c) ↔ Admits (checkRateLimit policy now c).1) := by
  refine ⟨?_, ?_, fun policy other now c raw raw' => inspect_agrees⟩
  · cases h : l.settings.rateLimitEnabled with
    | true =>
      rcases Limits.request_ops database (hframework request) h with ⟨-, hops⟩ | ⟨b, ⟨-, hops⟩ | hops⟩
      · exact Or.inl hops
      · exact Or.inr ⟨b, Or.inl hops⟩
      · exact Or.inr ⟨b, Or.inr hops⟩
    | false => exact Or.inl (Limits.request_disabled database h)
  · intro h haccepted
    rcases Limits.request_ops database (hframework request) h with
      ⟨hrejected, -⟩ | ⟨b, ⟨hrejected, -⟩ | hops⟩
    · exact absurd haccepted hrejected
    · exact absurd haccepted hrejected
    · exact ⟨b, hops⟩

/-- the JSON body of a private scene without an earlier challenge -/
def sceneBody (body : String) : Option CaptchaCreateRequest :=
  (privateCaptchaScenes.find? fun scene => body = "\x7b\"scene\": \"" ++ scene ++ "\"\x7d").map
    fun scene => ⟨scene, none⟩

/-- the digest of the sample's key, and of no other message -/
def sampleHmac (secret message : String) : String :=
  if secret = "D7vL3qN9xR2mK8pT5sW1cF6hJ4yB0uGz" ∧
      message = "rl:v2\x00example\x00captcha_create_self_change\x00actor\x00" ++
        "11111111-1111-4111-8111-111111111111" then
    "0356694740a4d0afb7be044f9c3dc642d8ad45af03f97fa4fe86b1e6fb3aa954"
  else ""

/-- the default quotas and an open limiter -/
def sampleLimits : Limits String where
  settings :=
    { rateLimitEnabled := true
      namespace_ := "example"
      hmacKey := "D7vL3qN9xR2mK8pT5sW1cF6hJ4yB0uGz"
      captchaCreatePerFiveMinutes := 10
      authenticatedReadPerMinute := 600
      managementReadPerMinute := 300
      ordinaryWritePerMinute := 120
      authorizationWritePerMinute := 60
      loginIpPerFiveMinutes := 20
      registrationIpPerHour := 5
      temporaryCompleteIpPerFiveMinutes := 20 }
  hmac := sampleHmac
  answers _ _ := .ok ⟨true, 10, 9, 0, 300000⟩
  json := sceneBody
  framework := parseCaptchaCreateRequest sceneBody

/-- a private scene, sent by an account -/
def captchaRequest : HttpRequest String where
  operationId := some "create_authenticated_captcha"
  method := "POST"
  contentType := "application/json"
  body := "\x7b\"scene\": \"self_change\"\x7d"

theorem ok_of_isOk {ε : Type} {x : Except ε Unit} (h : x.isOk = true) : x = .ok () := by
  cases x with
  | ok u => rfl
  | error e => cases h

theorem captchaRequest_accepted : (sampleLimits.getAuthorizationContext (.ok ()) captchaRequest
    0x11111111111141118111111111111111 []).1 = .ok () :=
  ok_of_isOk (by decide +kernel)

theorem sampleLimits_framework (request : HttpRequest String) :
    sampleLimits.framework request = parseCaptchaCreateRequest sampleLimits.json request := by
  simp only [sampleLimits]

theorem precheck_agrees_captcha :
    ∃ b, (sampleLimits.authenticatedRequest (.ok ()) captchaRequest
      0x11111111111141118111111111111111 []).2 = [.inspect b, .charge b] := by
  obtain ⟨-, haccepted, -⟩ := precheck_agrees sampleLimits sampleLimits_framework (.ok ())
    captchaRequest 0x11111111111141118111111111111111
  exact haccepted (show true = true from rfl) captchaRequest_accepted

end PgRbac
