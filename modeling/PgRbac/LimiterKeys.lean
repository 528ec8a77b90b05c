import PgRbac.Lib.IpAddress
import PgRbac.Lib.Words
import PgRbac.Admission
import PgRbac.Uuids

/-!
# Settings and the keys of the limiter

The settings check the namespace of the limiter with one pattern, and `build_rate_limit_key` checks
it with another.

* `Settings`               values that pass validation, as far as the limiter reads them;
* `Subject`                a client address or an account;
* `LimitedRequest`, `Limits.serve`    every route that uses the limiter, up to its callback;
* `key_iff`                when a key is built;
* `serve_iff`              when a request does not end in a `ValueError`;
* `limiter_keys`           both, for all settings and requests;
* `key_injective`          different buckets have different keys.
-/

set_option linter.unusedVariables false
set_option linter.unusedSectionVars false

namespace PgRbac

open Redis Fallible Ip

/-! ## secrets -/

def publicSecuritySecretPlaceholders : List String :=
  ["change-me-change-me-change-me-change-me",
    "replace-this-with-at-least-32-random-bytes",
    "super-secret-super-secret-super-secret",
    "your-secret-key-your-secret-key-your-secret-key",
    "replace-this-with-a-rate-limit-hmac-secret",
    "replace-this-with-a-verification-hmac-secret"]

def minimumSecretUniqueCharacters : Nat := 8
def maximumSecuritySecretUtf8Bytes : Nat := 4096

/-- `(value + value).find(value, 1) != len(value)` -/
def isRepeatedPattern (value : List Char) : Bool :=
  value ≠ [] && decide ((List.range' 1 value.length).find? (fun i =>
    value.isPrefixOf ((value ++ value).drop i)) ≠ some value.length)

/-- `_validate_security_secret`; `casefold` is the one of Unicode -/
def validateSecuritySecret (casefold : String → String) (secret fieldName : String) :
    Except String Unit := do
  let normalized := casefold (strip secret)
  require (normalized ∉ publicSecuritySecretPlaceholders)
    (fieldName ++ " must not use the public example placeholder; " ++
      "generate a unique random secret before startup")
  require (32 ≤ encodedLength secret) (fieldName ++ " must contain at least 32 UTF-8 bytes")
  require (encodedLength secret ≤ maximumSecuritySecretUtf8Bytes)
    (fieldName ++ " must contain at most 4096 UTF-8 bytes")
  require (normalized ≠ "" ∧ secret = strip secret ∧
      secret.toList.all (fun c => !isPySpace c && !isControl c) = true ∧
      minimumSecretUniqueCharacters ≤ secret.toList.dedup.length ∧
      isRepeatedPattern secret.toList = false)
    (fieldName ++ " is obviously weak; generate it with a cryptographically " ++
      "secure random generator")

/-! ## settings -/

/-- `^[a-z0-9][a-z0-9_-]{0,n}$` -/
def lowercaseName (n : Nat) (s : String) : Bool :=
  match s.toList with
  | [] => false
  | c :: cs => (c.isLower || c.isDigit) && decide (cs.length ≤ n) &&
      cs.all fun c => c.isLower || c.isDigit || c == '_' || c == '-'

def rateLimitDisableEnvironments : List String := ["dev", "development", "local", "test", "testing"]

structure SettingsValues extends LimiterSettings where
  appEnvironment : String
  jwtSecret : String

def SettingsValues.quotas (s : SettingsValues) : List Nat :=
  [s.captchaCreatePerFiveMinutes, s.authenticatedReadPerMinute, s.managementReadPerMinute,
    s.ordinaryWritePerMinute, s.authorizationWritePerMinute, s.loginIpPerFiveMinutes,
    s.registrationIpPerHour, s.temporaryCompleteIpPerFiveMinutes]

/-- values that pass validation -/
structure Settings (casefold : String → String) extends SettingsValues where
  environment_ok : lowercaseName 31 appEnvironment = true
  namespace_ok : lowercaseName 47 namespace_ = true
  quotas_ok : ∀ quota ∈ toSettingsValues.quotas, 1 ≤ quota
  jwt_ok : validateSecuritySecret casefold jwtSecret "jwt_secret" = .ok ()
  hmac_ok : validateSecuritySecret casefold hmacKey "rate_limit_hmac_key" = .ok ()
  enabled_ok : rateLimitEnabled = true ∨ appEnvironment ∈ rateLimitDisableEnvironments
  distinct_ok : jwtSecret ≠ hmacKey

/-- the namespaces that the limiter takes too -/
def firstIsLetter (namespace_ : String) : Bool := namespace_.toList.head?.any Char.isLower

theorem isIdentifier_namespace {s : String} (h : lowercaseName 47 s = true) :
    isIdentifier s = firstIsLetter s := by
  unfold lowercaseName at h
  unfold isIdentifier firstIsLetter
  cases hs : s.toList with
  | nil => rfl
  | cons c cs =>
    rw [hs] at h
    simp only [Bool.and_eq_true, decide_eq_true_eq, List.all_eq_true, Bool.or_eq_true] at h
    obtain ⟨⟨-, hlength⟩, hall⟩ := h
    have hrest : (cs.all fun c => c.isLower || c.isDigit || c == '.' || c == '_' || c == '-') = true := by
      rw [List.all_eq_true]
      intro d hd
      simp only [Bool.or_eq_true]
      rcases hall d hd with ((hlower | hdigit) | hline) | hdash
      · exact .inl (.inl (.inl (.inl hlower)))
      · exact .inl (.inl (.inl (.inr hdigit)))
      · exact .inl (.inr hline)
      · exact .inr hdash
    show (c.isLower && decide (cs.length ≤ 63) && cs.all _) = c.isLower
    rw [hrest, decide_eq_true (show cs.length ≤ 63 by omega), Bool.and_true, Bool.and_true]

theorem secret_length {casefold : String → String} {secret fieldName : String}
    (h : validateSecuritySecret casefold secret fieldName = .ok ()) : 32 ≤ encodedLength secret := by
  unfold validateSecuritySecret at h
  simp only [bind_ok, require_ok] at h
  obtain ⟨-, -, -, hlength, -⟩ := h
  exact hlength

/-! ## subjects -/

/-- whom a window counts: a client address or an account -/
inductive Subject where
  | ip (address : IpAddress)
  | actor (userId : Uuid)

namespace Subject

def kind : Subject → String
  | .ip _ => "ip"
  | .actor _ => "actor"

def text : Subject → String
  | .ip address => address.compressed
  | .actor userId => userId.text

def Bounded (subject : Subject) : Prop := encodedLength subject.text ≤ maxSubjectBytes

instance decidableBounded (subject : Subject) : Decidable subject.Bounded := Nat.decLe _ _

end Subject

theorem encodedLength_of_brief {s : String} {n : Nat} (h : Brief n s.toList) :
    encodedLength s ≤ n := by
  have hsum (text : List Char) (hascii : ∀ c ∈ text, c.toNat < 128) :
      (text.map Char.utf8Size).sum = text.length := by
    induction text with
    | nil => rfl
    | cons c text ih =>
      have hone : c.utf8Size = 1 := by
        have hc := hascii c List.mem_cons_self
        exact Char.utf8Size_eq_one_iff.mpr (by
          show c.val.toNat ≤ 127
          exact Nat.le_of_lt_succ hc)
      rw [List.map_cons, List.sum_cons, List.length_cons, hone,
        ih fun d hd => hascii d (List.mem_cons_of_mem _ hd)]
      omega
  unfold encodedLength
  rw [hsum _ h.2]
  exact h.1

theorem brief_uuid (u : Uuid) : Brief 36 u.text.toList :=
  ⟨Nat.le_of_eq (length_uuid u), uuid_characters (by decide) (by decide) u⟩

theorem bounded_of_no_zone : ∀ subject : Subject,
    (∀ address, subject = .ip address → address.zone = none) → subject.Bounded
  | .ip address, h =>
    (encodedLength_of_brief (compressed_brief (h address rfl))).trans (by decide)
  | .actor userId, _ => (encodedLength_of_brief (brief_uuid userId)).trans (by decide)

theorem subject_ne_empty (subject : Subject) : subject.text ≠ "" := by
  cases subject with
  | ip address => exact compressed_ne_empty address
  | actor userId =>
    intro h
    have hnil := String.ofList_eq_empty_iff.mp (show String.ofList _ = "" from h)
    simp at hnil

/-! ## keys -/

namespace Limits
variable {β : Type}

def key (l : Limits β) (policy : RateLimitPolicy) (subject : Subject) : Except LimiterError String :=
  buildRateLimitKey l.hmac l.settings.namespace_ policy subject.kind subject.text l.settings.hmacKey

section
variable {casefold : String → String} (s : Settings casefold) {l : Limits β}
  (hl : l.settings = s.toLimiterSettings)
include hl

/-- **the keys of accepted settings** -/
theorem key_iff (policy : RateLimitPolicy) (subject : Subject) :
    (∃ key, l.key policy subject = .ok key) ↔
      firstIsLetter s.namespace_ = true ∧ subject.Bounded := by
  have hname := isIdentifier_namespace s.namespace_ok
  have hsecret := secret_length s.hmac_ok
  have hkind : isIdentifier subject.kind = true := by
    cases subject with
    | ip address => exact show isIdentifier "ip" = true by decide +kernel
    | actor userId => exact show isIdentifier "actor" = true by decide +kernel
  unfold key buildRateLimitKey
  rw [hl]
  constructor
  · rintro ⟨key, h⟩
    simp only [bind_ok, require_ok] at h
    obtain ⟨-, hidentifier, -, -, -, hsubject, -⟩ := h
    exact ⟨hname ▸ hidentifier, hsubject.2⟩
  · rintro ⟨hletter, hbounded⟩
    have hidentifier : isIdentifier s.namespace_ = true := hname.trans hletter
    simp only [bind_ok, require_ok, pure_ok]
    exact ⟨_, (), hidentifier, (), hkind, (), ⟨subject_ne_empty subject, hbounded⟩, (), hsecret, rfl⟩

theorem key_valueError (policy : RateLimitPolicy) (subject : Subject)
    (h : ¬ (firstIsLetter s.namespace_ = true ∧ subject.Bounded)) :
    ∃ message, l.key policy subject = .error (.valueError message) := by
  cases hkey : l.key policy subject with
  | ok key => exact absurd ((key_iff s hl policy subject).mp ⟨key, hkey⟩) h
  | error e =>
    unfold key buildRateLimitKey at hkey
    simp only [bind_error, require_error, pure_error, exists_false, and_false, or_false] at hkey
    rcases hkey with ⟨-, rfl⟩ | ⟨-, -, ⟨-, rfl⟩ | ⟨-, -, ⟨-, rfl⟩ | ⟨-, -, -, rfl⟩⟩⟩
    all_goals exact ⟨_, rfl⟩

end

end Limits

/-! ## anonymous clients -/

def canonicalClientIp (value : String) : Except LimiterError String :=
  orRaise ((ipAddress value).map IpAddress.compressed)
    (.unavailable "trusted client address is unavailable")

/-- the peer of a connection; a missing or an invalid one is empty -/
def trustedClientIp (client : Option String) : String :=
  ((ipAddress (client.getD "")).map IpAddress.compressed).getD ""

def publicCaptchaScenes : List String := ["login", "register"]

namespace Limits
variable {β : Type} (l : Limits β)

/-- a charge on the window of a client -/
def chargeClient (policy : Except LimiterError RateLimitPolicy) (clientIp : String) :
    Admission Unit := do
  let subject ← .lift ((canonicalClientIp clientIp).mapError .limiter)
  let policy ← .lift (policy.mapError .limiter)
  l.check policy "ip" subject

/-- the same under a policy that the constructor of `AbuseDefenseService` builds -/
def clientLimit (policyOf : SecurityPolicies → Except LimiterError RateLimitPolicy)
    (clientIp : String) : Admission Unit := do
  let policies ← .lift ((SecurityPolicies.fromSettings l.settings).mapError .limiter)
  l.chargeClient (policyOf policies) clientIp

def checkLoginAttempt (clientIp : String) : Admission Unit :=
  l.clientLimit (fun policies => .ok policies.login) clientIp

def checkRegistrationAttempt (clientIp : String) : Admission Unit :=
  l.clientLimit (fun policies => .ok policies.registration) clientIp

def checkTemporaryPasswordCompletion (clientIp : String) : Admission Unit :=
  l.clientLimit (fun policies => .ok policies.temporaryComplete) clientIp

/-- `check_captcha_create` for a client without an account -/
def checkPublicCaptchaCreate (scene clientIp : String) : Admission Unit := do
  let policies ← .lift ((SecurityPolicies.fromSettings l.settings).mapError .limiter)
  if scene ∈ publicCaptchaScenes then
    l.chargeClient (captchaWindow ("captcha_create_" ++ scene) policies) clientIp
  else .lift (.error (.limiter
    (.valueError "captcha scene and authenticated subject do not match")))

/-- `check_rejected_captcha_scene` for a client without an account -/
def checkRejectedPublicScene (clientIp : String) : Admission Unit :=
  l.clientLimit (captchaWindow "captcha_rejected_scene") clientIp

/-- `_admit_rejected_captcha_scene` -/
def admitRejectedPublicScene (client : Option String) : Admission Unit :=
  if ¬ l.settings.rateLimitEnabled then .lift (.ok ())
  else l.checkRejectedPublicScene (trustedClientIp client)

def precheckPublicCaptchaBody (request : HttpRequest β) (client : Option String) : Admission Unit :=
  if (parseCaptchaCreateRequest l.json request).isSome then .lift (.ok ())
  else l.admitRejectedPublicScene client

def createPublicCaptcha (body : CaptchaCreateRequest) (client : Option String) : Admission Unit :=
  if body.scene ∉ ["login", "register"] then do
    l.admitRejectedPublicScene client
    .lift (.error (.request "captcha_scene_requires_authentication"))
  else if l.settings.rateLimitEnabled then
    l.checkPublicCaptchaCreate body.scene (trustedClientIp client)
  else .lift (.ok ())

/-- the route with its dependency -/
def publicCaptcha (request : HttpRequest β) (client : Option String) : Admission Unit := do
  l.precheckPublicCaptchaBody request client
  match l.framework request with
  | none => .lift (.error .validation)
  | some body => l.createPublicCaptcha body client

/-- `_identity_abuse_flow` is missing when the limiter is off -/
def identityFlow (check : String → Admission Unit) (client : Option String) : Admission Unit :=
  if ¬ l.settings.rateLimitEnabled then .lift (.ok ()) else check (trustedClientIp client)

end Limits

/-! ## every route -/

inductive LimitedRequest (β : Type) where
  | authenticated (database : Except Failure Unit) (request : HttpRequest β) (userId : Uuid)
  | publicCaptcha (request : HttpRequest β) (client : Option String)
  | login (client : Option String)
  | register (client : Option String)
  | completePasswordReset (client : Option String)

namespace LimitedRequest
variable {β : Type}

def subject : LimitedRequest β → Option Subject
  | authenticated _ _ userId => some (.actor userId)
  | publicCaptcha _ client => (ipAddress (trustedClientIp client)).map .ip
  | login client => (ipAddress (trustedClientIp client)).map .ip
  | register client => (ipAddress (trustedClientIp client)).map .ip
  | completePasswordReset client => (ipAddress (trustedClientIp client)).map .ip

/-- a request that is answered without a key: its operation has no policy, or the framework refuses
the body that the precheck could read -/
def Turned (l : Limits β) : LimitedRequest β → Prop
  | authenticated _ request _ =>
    ∃ message, inspectionPolicyFor l.json request l.settings = .error (.unavailable message)
  | publicCaptcha request _ =>
    (parseCaptchaCreateRequest l.json request).isSome = true ∧ l.framework request = none
  | _ => False

end LimitedRequest

namespace Limits
variable {β : Type} (l : Limits β)

/-- a request up to the work behind its admission -/
def serve : LimitedRequest β → Admission Unit
  | .authenticated database request userId => l.authenticatedRequest database request userId
  | .publicCaptcha request client => l.publicCaptcha request client
  | .login client => l.identityFlow l.checkLoginAttempt client
  | .register client => l.identityFlow l.checkRegistrationAttempt client
  | .completePasswordReset client => l.identityFlow l.checkTemporaryPasswordCompletion client

/-- the store is lost, or it answers with the result of a script on some cell -/
def Answering : Prop := ∀ log op,
  (∃ message, l.answers log op = .error (.unavailable message)) ∨
    (∃ policy now c, l.answers log op = (checkRateLimit policy now c).1) ∨
    ∃ other policy now c, l.answers log op = inspectRateLimit other policy now c

end Limits

/-- an error that no handler of the application knows -/
def AdmissionError.unhandled : AdmissionError → Bool
  | .limiter (.valueError _) => true
  | _ => false

/-! ## errors that are handled -/

namespace Admission
variable {α γ : Type}

/-- no run ends in an error without a handler -/
def Handled (m : Admission α) : Prop := ∀ log e, (m log).1 = .error e → e.unhandled = false

theorem Handled.bind {m : Admission α} {f : α → Admission γ} (hm : m.Handled)
    (hf : ∀ a, (f a).Handled) : (m >>= f).Handled := by
  intro log e h
  cases hrun : m log with
  | mk result log' =>
  cases result with
  | error e' =>
    rw [bind_of_error f hrun] at h
    cases h
    exact hm log e (by rw [hrun])
  | ok a =>
    rw [bind_of_ok f hrun] at h
    exact hf a log' e h

theorem handled_ok (a : α) : (lift (.ok a) : Admission α).Handled := nofun

theorem handled_error {e : AdmissionError} (h : e.unhandled = false) :
    (lift (.error e) : Admission α).Handled := by
  intro log e' he
  cases he
  exact h

theorem Handled.ite {c : Prop} [Decidable c] {m m' : Admission α} (hm : c → m.Handled)
    (hm' : ¬ c → m'.Handled) : (if c then m else m').Handled := by
  split
  · exact hm ‹_›
  · exact hm' ‹_›

end Admission

theorem orUnavailable_error {α : Type} {x : Except String α} {e : LimiterError}
    (h : orUnavailable x = .error e) : ∃ message, e = .unavailable message := by
  cases x with
  | ok a => cases h
  | error m =>
    cases h
    exact ⟨_, rfl⟩

theorem limiterCall_error {policy : RateLimitPolicy} {e : LimiterError}
    (h : (∃ now c, (checkRateLimit policy now c).1 = .error e) ∨
      ∃ other now c, inspectRateLimit other policy now c = .error e) :
    ∃ message, e = .unavailable message := by
  rcases h with ⟨now, c, h⟩ | ⟨other, now, c, h⟩
  · rcases (bind_error _ _ _).mp h with h | ⟨raw, -, h⟩
    · exact orUnavailable_error h
    · unfold parseResult at h
      dsimp only at h
      split at h
      · cases h
        exact ⟨_, rfl⟩
      · cases h
  · rcases (bind_error _ _ _).mp h with h | ⟨raw, -, h⟩
    · exact orUnavailable_error h
    · unfold parseInspection at h
      dsimp only at h
      split at h
      · cases h
      · split at h
        · cases h
          exact ⟨_, rfl⟩
        · cases h

namespace Limits
variable {β : Type} {l : Limits β}

theorem Answering.unavailable (h : l.Answering) {log : List BucketOp} {op : BucketOp}
    {e : LimiterError} (he : l.answers log op = .error e) : ∃ message, e = .unavailable message := by
  rcases h log op with ⟨message, hlost⟩ | ⟨policy, now, c, hcall⟩ | ⟨other, policy, now, c, hinspect⟩
  · rw [hlost] at he
    cases he
    exact ⟨message, rfl⟩
  · exact limiterCall_error (.inl ⟨now, c, hcall ▸ he⟩)
  · exact limiterCall_error (.inr ⟨other, now, c, hinspect ▸ he⟩)

def Reports (onError : LimiterError → AdmissionError) : Prop :=
  ∀ message, (onError (.unavailable message)).unhandled = false

theorem reports_limiter : Reports .limiter := fun _ => rfl

theorem reports_registry : Reports registryError := fun _ => rfl

theorem handled_call (h : l.Answering) (op : QuotaBucket → BucketOp)
    {onError : LimiterError → AdmissionError} (hon : Reports onError) {policy : RateLimitPolicy}
    {subject : Subject} {key : String} (hkey : l.key policy subject = .ok key) :
    (l.call op onError policy subject.kind subject.text).Handled := by
  have hb : l.bucket policy subject.kind subject.text =
      .ok ⟨key, policy.limit, policy.windowSeconds⟩ := by
    unfold bucket
    rw [show buildRateLimitKey l.hmac l.settings.namespace_ policy subject.kind subject.text
      l.settings.hmacKey = .ok key from hkey]
    rfl
  intro log e he
  unfold call at he
  rw [hb] at he
  dsimp only at he
  cases ha : l.answers log (op ⟨key, policy.limit, policy.windowSeconds⟩) with
  | ok result =>
    rw [ha] at he
    cases he
  | error e' =>
    obtain ⟨message, rfl⟩ := h.unavailable ha
    rw [ha] at he
    cases he
    exact hon message

theorem handled_deny (policy : RateLimitPolicy) (result : RateLimitResult) :
    (denyExhausted policy result).Handled :=
  .ite (fun _ => Admission.handled_ok ()) fun _ => Admission.handled_error rfl

theorem handled_check (h : l.Answering) {policy : RateLimitPolicy} {subject : Subject} {key : String}
    (hkey : l.key policy subject = .ok key) :
    (l.check policy subject.kind subject.text).Handled :=
  (handled_call h .charge reports_limiter hkey).bind (handled_deny policy)

theorem call_valueError {op : QuotaBucket → BucketOp} {onError : LimiterError → AdmissionError}
    {policy : RateLimitPolicy} {subject : Subject} {e : LimiterError}
    (hkey : l.key policy subject = .error e) (log : List BucketOp) :
    (l.call op onError policy subject.kind subject.text >>= denyExhausted policy) log =
      (.error (onError e), log) := by
  refine call_admit_error ?_
  unfold bucket
  rw [show buildRateLimitKey l.hmac l.settings.namespace_ policy subject.kind subject.text
    l.settings.hmacKey = .error e from hkey]
  rfl

end Limits

/-! ## the policies of the application -/

section
variable {β : Type} {l : Limits β} {policies : SecurityPolicies}
  (hp : SecurityPolicies.fromSettings l.settings = .ok policies)

theorem make_quota {name : String} (hname : isIdentifier name = true) (quota : RateLimitPolicy) :
    ∃ policy, RateLimitPolicy.make name quota.limit quota.windowSeconds = .ok policy := by
  unfold RateLimitPolicy.make
  rw [dif_pos hname, dif_pos quota.limit_ok, dif_pos quota.window_ok]
  exact ⟨_, rfl⟩

theorem isIdentifier_scene {scene : String} (h : scene ∈ privateCaptchaScenes ++ publicCaptchaScenes) :
    isIdentifier ("captcha_create_" ++ scene) = true := by
  have hall : ((privateCaptchaScenes ++ publicCaptchaScenes).all fun scene =>
      isIdentifier ("captcha_create_" ++ scene)) = true := by decide +kernel
  exact List.all_eq_true.mp hall scene h

theorem isIdentifier_rejected : isIdentifier "captcha_rejected_scene" = true := by decide +kernel

theorem isIdentifier_inspected (body : Option CaptchaCreateRequest) :
    isIdentifier (inspectedCaptchaName body) = true := by
  cases body with
  | none => exact isIdentifier_rejected
  | some body =>
    unfold inspectedCaptchaName
    dsimp only
    split
    · exact isIdentifier_scene (List.mem_append_left _ ‹_›)
    · exact isIdentifier_rejected

/-- a policy that cannot be chosen is reported as an unavailable limiter -/
def Unraised {α : Type} (x : Except LimiterError α) : Prop :=
  ∀ e, x = .error e → ∃ message, e = .unavailable message

theorem Unraised.ok {α : Type} (a : α) : Unraised (.ok a : Except LimiterError α) := nofun

include hp

theorem actorPolicyFor_unraised (request : HttpRequest β) :
    Unraised (actorPolicyFor request l.settings) := by
  intro e h
  unfold actorPolicyFor at h
  rw [hp] at h
  simp only [bind_error, orRaise_error, require_error, reduceCtorEq, false_or, Except.ok.injEq,
    exists_eq_left'] at h
  rcases h with ⟨-, rfl⟩ | ⟨rule, -, ⟨-, rfl⟩ | ⟨-, -, h⟩⟩
  · exact ⟨_, rfl⟩
  · exact ⟨_, rfl⟩
  · rcases hmake : RateLimitPolicy.make (operationIdOf request) (policies.quota rule.2).limit
        (policies.quota rule.2).windowSeconds with e' | policy
    · rw [hmake] at h
      cases e' with
      | unavailable message =>
        cases h
        exact ⟨_, rfl⟩
      | valueError message =>
        cases h
        exact ⟨_, rfl⟩
    · rw [hmake] at h
      cases h

theorem rateLimitPolicyFor_unraised (request : HttpRequest β) :
    Unraised (rateLimitPolicyFor request l.settings) := by
  intro e h
  unfold rateLimitPolicyFor at h
  split at h
  · split at h
    · cases h
    · cases h
      exact ⟨_, rfl⟩
  · cases hx : actorPolicyFor request l.settings with
    | ok policy =>
      rw [hx] at h
      cases h
    | error e' =>
      rw [hx] at h
      cases h
      exact actorPolicyFor_unraised hp request e hx

theorem inspectionPolicyFor_unraised (request : HttpRequest β) :
    Unraised (inspectionPolicyFor l.json request l.settings) := by
  unfold inspectionPolicyFor
  split
  · exact rateLimitPolicyFor_unraised hp request
  · split
    · intro e h
      cases h
      exact ⟨_, rfl⟩
    · obtain ⟨policy, hpolicy⟩ := make_quota
        (isIdentifier_inspected (parseCaptchaCreateRequest l.json request)) policies.captchaCreate
      intro e h
      simp only [hp, bind_error, pure_error, reduceCtorEq, Except.ok.injEq,
        exists_eq_left', and_false, exists_false, or_false, hpolicy] at h

end

namespace Limits
variable {β : Type} {l : Limits β} {policies : SecurityPolicies}

def Keyed (l : Limits β) (subject : Subject) : Prop :=
  l.settings.rateLimitEnabled = true → ∀ policy, ∃ key, l.key policy subject = .ok key

section
variable (hstore : l.Answering) (hp : SecurityPolicies.fromSettings l.settings = .ok policies)

theorem handled_lift {α γ : Type} {x : Except LimiterError α} (h : Unraised x)
    {onError : LimiterError → AdmissionError} (hon : Reports onError) {f : α → Admission γ}
    (hf : ∀ a, x = .ok a → (f a).Handled) :
    (Admission.lift (x.mapError onError) >>= f).Handled := by
  cases x with
  | ok a => exact hf a rfl
  | error e =>
    obtain ⟨message, rfl⟩ := h e rfl
    exact Admission.handled_error (hon message)

include hstore in
theorem handled_actorLimit (op : QuotaBucket → BucketOp)
    {policy : Except LimiterError (Option RateLimitPolicy)} (hpolicy : Unraised policy)
    {userId : Uuid} (hkey : l.Keyed (.actor userId)) : (l.actorLimit op policy userId).Handled := by
  unfold actorLimit
  refine .ite (fun _ => Admission.handled_ok ()) fun henabled => ?_
  refine handled_lift hpolicy reports_registry fun chosen _ => ?_
  cases chosen with
  | none => exact Admission.handled_ok ()
  | some policy =>
    obtain ⟨key, hk⟩ := hkey (not_not.mp henabled) policy
    exact (handled_call hstore op reports_registry hk).bind (handled_deny policy)

include hp in
theorem handled_policies {α : Type} {f : SecurityPolicies → Admission α} (h : (f policies).Handled) :
    (Admission.lift ((SecurityPolicies.fromSettings l.settings).mapError .limiter) >>= f).Handled := by
  rw [hp]
  exact h

include hstore in
theorem handled_captchaWindow {name : String} (hname : isIdentifier name = true) {userId : Uuid}
    (hkey : ∀ policy, ∃ key, l.key policy (.actor userId) = .ok key) :
    (Admission.lift ((captchaWindow name policies).mapError .limiter) >>= fun policy =>
      l.check policy "actor" userId.text).Handled := by
  obtain ⟨policy, hpolicy⟩ := make_quota hname policies.captchaCreate
  unfold captchaWindow
  refine handled_lift (by rw [hpolicy]; exact .ok policy) reports_limiter fun policy _ => ?_
  obtain ⟨key, hk⟩ := hkey policy
  have hcheck := handled_check hstore hk
  exact hcheck

include hstore hp

theorem handled_admitRejected {userId : Uuid} (hkey : l.Keyed (.actor userId)) :
    (l.admitRejectedCaptchaScene userId).Handled := by
  have hsubject : userId.text ≠ "" ∧ encodedLength userId.text ≤ 1024 :=
    ⟨subject_ne_empty (.actor userId), bounded_of_no_zone (.actor userId) nofun⟩
  unfold admitRejectedCaptchaScene checkRejectedCaptchaScene
  refine .ite (fun _ => Admission.handled_ok ()) fun henabled => handled_policies hp ?_
  rw [if_pos hsubject]
  exact handled_captchaWindow hstore isIdentifier_rejected (hkey (not_not.mp henabled))

theorem handled_route (request : HttpRequest β) {userId : Uuid} (hkey : l.Keyed (.actor userId)) :
    (l.route request userId).Handled := by
  have hsubject : userId.text ≠ "" ∧ encodedLength userId.text ≤ 1024 :=
    ⟨subject_ne_empty (.actor userId), bounded_of_no_zone (.actor userId) nofun⟩
  unfold route
  refine .ite (fun _ => Admission.handled_ok ()) fun _ => ?_
  refine Admission.Handled.bind ?_ fun _ => ?_
  · exact .ite (fun _ => Admission.handled_ok ()) fun _ => handled_admitRejected hstore hp hkey
  · cases l.framework request with
    | none => exact Admission.handled_error rfl
    | some body =>
      dsimp only
      unfold createAuthenticatedCaptcha
      refine .ite (fun _ => ?_) fun hscene => ?_
      · exact (handled_admitRejected hstore hp hkey).bind fun _ => Admission.handled_error rfl
      · have hprivate : body.scene ∈ abusePrivateCaptchaScenes := not_not.mp hscene
        unfold issueCaptcha checkCaptchaCreate
        refine .ite (fun henabled => handled_policies hp ?_) fun _ => Admission.handled_ok ()
        rw [if_pos ⟨hprivate, hsubject⟩]
        exact handled_captchaWindow hstore (isIdentifier_scene (List.mem_append_left _ hprivate))
          (hkey henabled)

theorem handled_authenticated (database : Except Failure Unit) (request : HttpRequest β)
    {userId : Uuid} (hkey : l.Keyed (.actor userId)) :
    (l.authenticatedRequest database request userId).Handled := by
  have hdatabase : (Admission.lift (database.mapError .database)).Handled := by
    cases database with
    | ok u => exact Admission.handled_ok u
    | error e => exact Admission.handled_error rfl
  refine Admission.Handled.bind ?_ fun _ => handled_route hstore hp request hkey
  refine Admission.Handled.bind ?_ fun _ => hdatabase.bind fun _ => ?_
  · exact handled_actorLimit hstore .inspect (inspectionPolicyFor_unraised hp request) hkey
  · exact handled_actorLimit hstore .charge (rateLimitPolicyFor_unraised hp request) hkey

omit hstore hp in
theorem canonicalClientIp_unraised (clientIp : String) : Unraised (canonicalClientIp clientIp) := by
  intro e h
  obtain ⟨-, rfl⟩ := (orRaise_error _ _ _).mp h
  exact ⟨_, rfl⟩

omit hp in
theorem handled_chargeClient {policy : Except LimiterError RateLimitPolicy} (hpolicy : Unraised policy)
    {clientIp : String}
    (hkey : ∀ a, ipAddress clientIp = some a → ∀ policy, ∃ key, l.key policy (.ip a) = .ok key) :
    (l.chargeClient policy clientIp).Handled := by
  unfold chargeClient
  refine handled_lift (canonicalClientIp_unraised clientIp) reports_limiter fun subject hsubject => ?_
  obtain ⟨a, ha, rfl⟩ := Option.map_eq_some_iff.mp ((orRaise_ok _ _ _).mp hsubject)
  refine handled_lift hpolicy reports_limiter fun policy _ => ?_
  obtain ⟨key, hk⟩ := hkey a ha policy
  have hcheck := handled_check hstore hk
  exact hcheck

theorem handled_clientLimit {policyOf : SecurityPolicies → Except LimiterError RateLimitPolicy}
    (hpolicy : Unraised (policyOf policies)) {clientIp : String}
    (hkey : ∀ a, ipAddress clientIp = some a → ∀ policy, ∃ key, l.key policy (.ip a) = .ok key) :
    (l.clientLimit policyOf clientIp).Handled :=
  handled_policies hp (handled_chargeClient hstore hpolicy hkey)

omit hstore hp in
theorem captchaWindow_unraised {name : String} (hname : isIdentifier name = true)
    (policies : SecurityPolicies) : Unraised (captchaWindow name policies) := by
  obtain ⟨policy, hpolicy⟩ := make_quota hname policies.captchaCreate
  unfold captchaWindow
  rw [hpolicy]
  exact .ok policy

theorem handled_identityFlow {check : String → Admission Unit} {client : Option String}
    (h : l.settings.rateLimitEnabled = true → (check (trustedClientIp client)).Handled) :
    (l.identityFlow check client).Handled :=
  .ite (fun _ => Admission.handled_ok ()) fun henabled => h (not_not.mp henabled)

theorem handled_publicCaptcha (request : HttpRequest β) {client : Option String}
    (hkey : ∀ a, ipAddress (trustedClientIp client) = some a → l.Keyed (.ip a)) :
    (l.publicCaptcha request client).Handled := by
  have hrejected : (l.admitRejectedPublicScene client).Handled :=
    .ite (fun _ => Admission.handled_ok ()) fun henabled =>
      handled_clientLimit hstore hp (captchaWindow_unraised isIdentifier_rejected policies)
        fun a ha => hkey a ha (not_not.mp henabled)
  unfold publicCaptcha
  refine Admission.Handled.bind ?_ fun _ => ?_
  · exact .ite (fun _ => Admission.handled_ok ()) fun _ => hrejected
  · cases l.framework request with
    | none => exact Admission.handled_error rfl
    | some body =>
      dsimp only
      unfold createPublicCaptcha
      refine .ite (fun _ => ?_) fun hscene => ?_
      · exact hrejected.bind fun _ => Admission.handled_error rfl
      · have hpublic : body.scene ∈ publicCaptchaScenes := not_not.mp hscene
        unfold checkPublicCaptchaCreate
        refine .ite (fun henabled => handled_policies hp ?_) fun _ => Admission.handled_ok ()
        rw [if_pos hpublic]
        exact handled_chargeClient hstore (captchaWindow_unraised
          (isIdentifier_scene (List.mem_append_right _ hpublic)) policies)
          fun a ha => hkey a ha henabled

/-- with a key for its subject no request ends in a `ValueError` -/
theorem handled_serve (r : LimitedRequest β) (h : ∀ subject ∈ r.subject, l.Keyed subject) :
    (l.serve r).Handled := by
  have hclient {client : Option String}
      (h : ∀ subject ∈ (ipAddress (trustedClientIp client)).map Subject.ip, l.Keyed subject)
      (a : IpAddress) (ha : ipAddress (trustedClientIp client) = some a) : l.Keyed (.ip a) :=
    h (.ip a) (Option.map_eq_some_iff.mpr ⟨a, ha, rfl⟩)
  cases r with
  | authenticated database request userId =>
    exact handled_authenticated hstore hp database request (h _ rfl)
  | publicCaptcha request client => exact handled_publicCaptcha hstore hp request (hclient h)
  | login client =>
    exact handled_identityFlow hstore hp fun henabled =>
      handled_clientLimit hstore hp (.ok policies.login) fun a ha => hclient h a ha henabled
  | register client =>
    exact handled_identityFlow hstore hp fun henabled =>
      handled_clientLimit hstore hp (.ok policies.registration) fun a ha => hclient h a ha henabled
  | completePasswordReset client =>
    exact handled_identityFlow hstore hp fun henabled =>
      handled_clientLimit hstore hp (.ok policies.temporaryComplete)
        fun a ha => hclient h a ha henabled

end

/-! ## requests without a key -/

/-- every run ends in a `ValueError`, before any script -/
def Raises {α : Type} (m : Admission α) : Prop :=
  ∃ message, ∀ log, m log = (.error (.limiter (.valueError message)), log)

theorem Raises.bind {α γ : Type} {m : Admission α} (h : Raises m) (f : α → Admission γ) :
    Raises (m >>= f) := by
  obtain ⟨message, h⟩ := h
  exact ⟨message, fun log => Admission.bind_of_error f (h log)⟩

theorem Raises.after {α γ : Type} {m : Admission α} {a : α} (hm : ∀ log, m log = (.ok a, log))
    {f : α → Admission γ} (h : Raises (f a)) : Raises (m >>= f) := by
  obtain ⟨message, h⟩ := h
  exact ⟨message, fun log => (Admission.bind_of_ok f (hm log)).trans (h log)⟩

theorem Raises.not_handled {α : Type} {m : Admission α} (h : Raises m) :
    ∃ e, (m []).1 = .error e ∧ e.unhandled = true := by
  obtain ⟨message, h⟩ := h
  exact ⟨_, by rw [h []], rfl⟩

def Keyless (l : Limits β) (subject : Subject) : Prop :=
  ∀ policy, ∃ message, l.key policy subject = .error (.valueError message)

theorem raises_call (op : QuotaBucket → BucketOp) (onError : LimiterError → AdmissionError)
    (hon : ∀ message, onError (.valueError message) = .limiter (.valueError message))
    {subject : Subject} (h : l.Keyless subject) (policy : RateLimitPolicy) :
    Raises (l.call op onError policy subject.kind subject.text >>= denyExhausted policy) := by
  obtain ⟨message, hkey⟩ := h policy
  exact ⟨message, fun log => by rw [call_valueError hkey log, hon]⟩

section
variable (hp : SecurityPolicies.fromSettings l.settings = .ok policies)
  (henabled : l.settings.rateLimitEnabled = true)
include hp henabled

theorem raises_authenticated (database : Except Failure Unit) {request : HttpRequest β}
    {userId : Uuid} (h : l.Keyless (.actor userId))
    (hturned : ¬ ∃ message, inspectionPolicyFor l.json request l.settings =
      .error (.unavailable message)) :
    Raises (l.authenticatedRequest database request userId) := by
  have hprecheck : Raises (l.precheckPrincipalRateLimit request userId) := by
    cases hpolicy : inspectionPolicyFor l.json request l.settings with
    | error e =>
      obtain ⟨message, rfl⟩ := inspectionPolicyFor_unraised hp request e hpolicy
      exact absurd ⟨message, hpolicy⟩ hturned
    | ok chosen =>
      cases chosen with
      | none => exact absurd hpolicy inspection_ne_none
      | some policy =>
        unfold precheckPrincipalRateLimit actorLimit
        rw [if_neg (by simp [henabled]), hpolicy]
        have hcall := raises_call BucketOp.inspect registryError (fun _ => rfl) h policy
        exact hcall
  exact (hprecheck.bind _).bind _

omit hp henabled in
theorem raises_chargeClient {policy : RateLimitPolicy} {clientIp : String} {a : IpAddress}
    (ha : ipAddress clientIp = some a) (h : l.Keyless (.ip a)) :
    Raises (l.chargeClient (.ok policy) clientIp) := by
  have hsubject : canonicalClientIp clientIp = .ok a.compressed := by
    unfold canonicalClientIp
    rw [ha]
    rfl
  have hcall := raises_call BucketOp.charge .limiter (fun _ => rfl) h policy
  unfold chargeClient
  refine Raises.after (a := a.compressed) (fun log => by rw [hsubject]; rfl) ?_
  exact Raises.after (a := policy) (fun log => rfl) hcall

omit henabled in
theorem raises_clientLimit {policyOf : SecurityPolicies → Except LimiterError RateLimitPolicy}
    {policy : RateLimitPolicy} (hpolicy : policyOf policies = .ok policy) {clientIp : String}
    {a : IpAddress} (ha : ipAddress clientIp = some a) (h : l.Keyless (.ip a)) :
    Raises (l.clientLimit policyOf clientIp) := by
  refine Raises.after (a := policies) (fun log => by rw [hp]; rfl) ?_
  rw [hpolicy]
  exact raises_chargeClient ha h

theorem raises_captchaWindow {name : String} (hname : isIdentifier name = true) {clientIp : String}
    {a : IpAddress} (ha : ipAddress clientIp = some a) (h : l.Keyless (.ip a)) :
    Raises (l.clientLimit (captchaWindow name) clientIp) := by
  obtain ⟨policy, hpolicy⟩ := make_quota hname policies.captchaCreate
  exact raises_clientLimit hp hpolicy ha h

theorem raises_publicCaptcha {request : HttpRequest β} {client : Option String} {a : IpAddress}
    (ha : ipAddress (trustedClientIp client) = some a) (h : l.Keyless (.ip a))
    (hturned : ¬ ((parseCaptchaCreateRequest l.json request).isSome = true ∧
      l.framework request = none)) : Raises (l.publicCaptcha request client) := by
  have hrejected : Raises (l.admitRejectedPublicScene client) := by
    unfold admitRejectedPublicScene
    rw [if_neg (by simp [henabled])]
    exact raises_captchaWindow hp henabled isIdentifier_rejected ha h
  unfold publicCaptcha precheckPublicCaptchaBody
  by_cases hparsed : (parseCaptchaCreateRequest l.json request).isSome = true
  · rw [if_pos hparsed]
    refine Raises.after (a := ()) (fun log => rfl) ?_
    cases hbody : l.framework request with
    | none => exact absurd ⟨hparsed, hbody⟩ hturned
    | some body =>
      show Raises (l.createPublicCaptcha body client)
      unfold createPublicCaptcha
      by_cases hscene : body.scene ∈ ["login", "register"]
      · have hpublic : body.scene ∈ publicCaptchaScenes := hscene
        unfold checkPublicCaptchaCreate
        obtain ⟨policy, hpolicy⟩ := make_quota
          (isIdentifier_scene (List.mem_append_right _ hpublic)) policies.captchaCreate
        rw [if_neg (not_not.mpr hscene), if_pos henabled]
        refine Raises.after (a := policies) (fun log => by rw [hp]; rfl) ?_
        rw [if_pos hpublic]
        unfold captchaWindow
        rw [hpolicy]
        exact raises_chargeClient ha h
      · rw [if_pos hscene]
        exact hrejected.bind _
  · rw [if_neg hparsed]
    exact hrejected.bind _

/-- without a key a request that is not turned away before ends in a `ValueError` -/
theorem raises_serve {r : LimitedRequest β} (hturned : ¬ r.Turned l) {subject : Subject}
    (hsubject : subject ∈ r.subject) (h : l.Keyless subject) : Raises (l.serve r) := by
  have hflow {check : String → Admission Unit} {client : Option String}
      (hcheck : Raises (check (trustedClientIp client))) : Raises (l.identityFlow check client) := by
    unfold identityFlow
    rwa [if_neg (by simp [henabled])]
  cases r with
  | authenticated database request userId =>
    cases hsubject
    exact raises_authenticated hp henabled database h hturned
  | publicCaptcha request client =>
    obtain ⟨a, ha, rfl⟩ := Option.map_eq_some_iff.mp hsubject
    exact raises_publicCaptcha hp henabled ha h hturned
  | login client =>
    obtain ⟨a, ha, rfl⟩ := Option.map_eq_some_iff.mp hsubject
    exact hflow (raises_clientLimit hp rfl ha h)
  | register client =>
    obtain ⟨a, ha, rfl⟩ := Option.map_eq_some_iff.mp hsubject
    exact hflow (raises_clientLimit hp rfl ha h)
  | completePasswordReset client =>
    obtain ⟨a, ha, rfl⟩ := Option.map_eq_some_iff.mp hsubject
    exact hflow (raises_clientLimit hp rfl ha h)

end

theorem handled_turned {r : LimitedRequest β} (henabled : l.settings.rateLimitEnabled = true)
    (h : r.Turned l) : (l.serve r).Handled := by
  have hfirst {α γ : Type} {m : Admission α} (f : α → Admission γ) {e : AdmissionError}
      (he : e.unhandled = false) (hm : ∀ log, m log = (.error e, log)) : (m >>= f).Handled := by
    intro log e' h'
    rw [Admission.bind_of_error f (hm log)] at h'
    cases h'
    exact he
  cases r with
  | authenticated database request userId =>
    obtain ⟨message, hpolicy⟩ := h
    have hprecheck (log : List BucketOp) : l.precheckPrincipalRateLimit request userId log =
        (.error .registryUnavailable, log) := by
      unfold precheckPrincipalRateLimit actorLimit
      rw [if_neg (by simp [henabled]), hpolicy]
      rfl
    exact hfirst _ rfl fun log => Admission.bind_of_error _ (hprecheck log)
  | publicCaptcha request client =>
    obtain ⟨hparsed, hbody⟩ := h
    show (l.publicCaptcha request client).Handled
    unfold publicCaptcha precheckPublicCaptchaBody
    rw [if_pos hparsed, hbody]
    exact (Admission.handled_ok ()).bind fun _ => Admission.handled_error rfl
  | login client => exact h.elim
  | register client => exact h.elim
  | completePasswordReset client => exact h.elim

theorem serve_iff {casefold : String → String} (s : Settings casefold)
    (hl : l.settings = s.toLimiterSettings) (hstore : l.Answering)
    (hp : SecurityPolicies.fromSettings l.settings = .ok policies) (r : LimitedRequest β) :
    (∀ e, (l.serve r []).1 = .error e → e.unhandled = false) ↔
      l.settings.rateLimitEnabled = false ∨ r.Turned l ∨
        ∀ subject ∈ r.subject, firstIsLetter s.namespace_ = true ∧ subject.Bounded := by
  constructor
  · intro hhandled
    by_contra hnot
    simp only [not_or, not_forall, Bool.not_eq_false] at hnot
    obtain ⟨henabled, hturned, subject, hsubject, hbad⟩ := hnot
    obtain ⟨e, he, hunhandled⟩ := (raises_serve hp henabled hturned hsubject
      fun policy => key_valueError s hl policy subject hbad).not_handled
    rw [hhandled e he] at hunhandled
    cases hunhandled
  · intro h e he
    by_cases henabled : l.settings.rateLimitEnabled = true
    · rcases h with hdisabled | hturned | hgood
      · rw [hdisabled] at henabled
        cases henabled
      · exact handled_turned henabled hturned [] e he
      · exact handled_serve hstore hp r (fun subject hsubject _ policy =>
          (key_iff s hl policy subject).mpr (hgood subject hsubject)) [] e he
    · exact handled_serve hstore hp r (fun subject _ hon => absurd hon henabled) [] e he

end Limits

/-- **accepted settings yield the keys of the limiter exactly when their namespace starts with a
letter and the subject fits** -/
theorem limiter_keys {casefold : String → String} (s : Settings casefold) {β : Type} (l : Limits β)
    (hl : l.settings = s.toLimiterSettings) (hstore : l.Answering) (policies : SecurityPolicies)
    (hp : SecurityPolicies.fromSettings l.settings = .ok policies) :
    (∀ (policy : RateLimitPolicy) (subject : Subject),
      (∃ key, l.key policy subject = .ok key) ↔
        firstIsLetter s.namespace_ = true ∧ subject.Bounded) ∧
    (∀ subject : Subject, (∀ address, subject = .ip address → address.zone = none) →
      subject.Bounded) ∧
    ∀ r : LimitedRequest β,
      (∀ e, (l.serve r []).1 = .error e → e.unhandled = false) ↔
        l.settings.rateLimitEnabled = false ∨ r.Turned l ∨
          ∀ subject ∈ r.subject, firstIsLetter s.namespace_ = true ∧ subject.Bounded :=
  ⟨Limits.key_iff s hl, bounded_of_no_zone, Limits.serve_iff s hl hstore hp⟩

/-- the defaults under a namespace; both secrets are random -/
def sampleSettings (namespace_ : String) : SettingsValues where
  toLimiterSettings := { sampleLimits.settings with namespace_ := namespace_ }
  appEnvironment := "production"
  jwtSecret := "k4Zt8Qw2Xn6Vb1Hs9Dy3Gf7Lc5Mj0RaE"

theorem isIdentifier_login : isIdentifier "login" = true := by decide +kernel

/-- the digest of a login's key, and of no other message -/
def loginHmac (secret message : String) : String :=
  if secret = "D7vL3qN9xR2mK8pT5sW1cF6hJ4yB0uGz" ∧
      message = "rl:v2\x00rbac_2024\x00login\x00ip\x00127.0.0.1" then
    "e7b3a6dcdd5daa49f0108cb4c5eb7c8cfcb7cb9222aad9fe411c1b53273fa734"
  else ""

/-- what a store without keys answers to a login -/
def freshLimits (settings : LimiterSettings) : Limits String :=
  { sampleLimits with
    settings := settings
    hmac := loginHmac
    answers := fun _ _ => (checkRateLimit ⟨"login", 20, 300, isIdentifier_login, by decide, by decide⟩
      0 none).1 }

def acceptedSettings (namespace_ : String) (h : lowercaseName 47 namespace_ = true) :
    Settings asciiCasefold where
  toSettingsValues := sampleSettings namespace_
  environment_ok := show lowercaseName 31 "production" = true by decide +kernel
  namespace_ok := h
  quotas_ok := show ∀ quota ∈ [10, 600, 300, 120, 60, 20, 5, 20], 1 ≤ quota by decide
  jwt_ok := ok_of_isOk (show (validateSecuritySecret asciiCasefold
    "k4Zt8Qw2Xn6Vb1Hs9Dy3Gf7Lc5Mj0RaE" "jwt_secret").isOk = true by decide +kernel)
  hmac_ok := ok_of_isOk (show (validateSecuritySecret asciiCasefold
    "D7vL3qN9xR2mK8pT5sW1cF6hJ4yB0uGz" "rate_limit_hmac_key").isOk = true by decide +kernel)
  enabled_ok := .inl rfl
  distinct_ok := show "k4Zt8Qw2Xn6Vb1Hs9Dy3Gf7Lc5Mj0RaE" ≠ "D7vL3qN9xR2mK8pT5sW1cF6hJ4yB0uGz" by decide

def localhost : IpAddress := .v4 ⟨0x7f000001⟩

def digitSettings : Settings asciiCasefold := acceptedSettings "2024_rbac" (by decide +kernel)

def letterSettings : Settings asciiCasefold := acceptedSettings "rbac_2024" (by decide +kernel)

def endsUnhandled : Except AdmissionError Unit → Bool
  | .error e => e.unhandled
  | .ok _ => false

theorem unhandled_of_error {x : Except AdmissionError Unit} (h : endsUnhandled x = true) :
    ∃ e, x = .error e ∧ e.unhandled = true := by
  cases x with
  | ok u => cases h
  | error e => exact ⟨e, rfl, h⟩

/-- **a namespace that starts with a digit has no keys**: every login raises -/
theorem digit_namespace_raises :
    ∃ policies, SecurityPolicies.fromSettings digitSettings.toLimiterSettings = .ok policies ∧
      (freshLimits digitSettings.toLimiterSettings).key policies.login (.ip localhost) =
        .error (.valueError "namespace must be a static lowercase ASCII identifier") ∧
      ∃ e, ((freshLimits digitSettings.toLimiterSettings).serve (.login (some "127.0.0.1")) []).1 =
        .error e ∧ e.unhandled = true := by
  refine ⟨_, rfl, rfl, unhandled_of_error ?_⟩
  decide +kernel

theorem limiter_keys_login :
    ∃ policies, SecurityPolicies.fromSettings letterSettings.toLimiterSettings = .ok policies ∧
      (∃ key, (freshLimits letterSettings.toLimiterSettings).key policies.login (.ip localhost) =
        .ok key) ∧
      ∀ e, ((freshLimits letterSettings.toLimiterSettings).serve (.login (some "127.0.0.1")) []).1 =
        .error e → e.unhandled = false := by
  have hstore : (freshLimits letterSettings.toLimiterSettings).Answering :=
    fun _ _ => .inr (.inl ⟨_, _, _, rfl⟩)
  have hletter : firstIsLetter letterSettings.namespace_ = true := by decide +kernel
  obtain ⟨hkeys, hbounded, hrequests⟩ := limiter_keys letterSettings
    (freshLimits letterSettings.toLimiterSettings) rfl hstore _ rfl
  have hlocal : (Subject.ip localhost).Bounded := hbounded _ fun address h => by
    cases h
    rfl
  refine ⟨_, rfl, (hkeys _ _).mpr ⟨hletter, hlocal⟩, (hrequests _).mpr (.inr (.inr ?_))⟩
  intro subject hsubject
  refine ⟨hletter, ?_⟩
  have hparsed : ipAddress (trustedClientIp (some "127.0.0.1")) = some localhost := by decide +kernel
  have hone : (ipAddress (trustedClientIp (some "127.0.0.1"))).map Subject.ip = some subject :=
    hsubject
  rw [hparsed] at hone
  cases hone
  exact hlocal

/-! ## keys of different buckets -/

theorem isIdentifier_characters {s : String} (h : isIdentifier s = true) :
    ∀ c ∈ s.toList, (c.isLower || c.isDigit || c == '.' || c == '_' || c == '-') = true := by
  unfold isIdentifier at h
  cases hs : s.toList with
  | nil =>
    rw [hs] at h
    cases h
  | cons c cs =>
    rw [hs] at h
    simp only [Bool.and_eq_true, List.all_eq_true] at h
    intro d hd
    rcases List.mem_cons.mp hd with rfl | hd
    · simp [h.1.1]
    · exact h.2 d hd

theorem separators_notMem {s : String} (h : isIdentifier s = true) :
    '\x00' ∉ s.toList ∧ ':' ∉ s.toList := by
  constructor
  · intro hmem
    exact absurd (isIdentifier_characters h _ hmem) (by decide)
  · intro hmem
    exact absurd (isIdentifier_characters h _ hmem) (by decide)

theorem cut_parts {c : Char} {a b d a' b' d' : String} {r r' : List Char}
    (ha : c ∉ a.toList) (hb : c ∉ b.toList) (hd : c ∉ d.toList)
    (ha' : c ∉ a'.toList) (hb' : c ∉ b'.toList) (hd' : c ∉ d'.toList)
    (h : a.toList ++ c :: (b.toList ++ c :: (d.toList ++ c :: r)) =
      a'.toList ++ c :: (b'.toList ++ c :: (d'.toList ++ c :: r'))) :
    a = a' ∧ b = b' ∧ d = d' ∧ r = r' := by
  obtain ⟨hfirst, hrest⟩ := Words.cut_at ha ha' h
  obtain ⟨hsecond, hrest'⟩ := Words.cut_at hb hb' hrest
  obtain ⟨hthird, hlast⟩ := Words.cut_at hd hd' hrest'
  exact ⟨String.toList_inj.mp hfirst, String.toList_inj.mp hsecond, String.toList_inj.mp hthird, hlast⟩

theorem buildRateLimitKey_ok {hmac : String → String → String} {namespace_ : String}
    {policy : RateLimitPolicy} {subjectType subject keySecret key : String}
    (h : buildRateLimitKey hmac namespace_ policy subjectType subject keySecret = .ok key) :
    isIdentifier namespace_ = true ∧ isIdentifier subjectType = true ∧
      key = rateLimitKeyPrefix ++ ":" ++ namespace_ ++ ":" ++ policy.name ++ ":" ++ subjectType ++
        ":" ++ hmac keySecret ("\x00".intercalate
          [rateLimitKeyPrefix, namespace_, policy.name, subjectType, subject]) := by
  unfold buildRateLimitKey at h
  simp only [bind_ok, require_ok, pure_ok] at h
  obtain ⟨_, hnamespace, _, htype, _, -, _, -, hkey⟩ := h
  exact ⟨hnamespace, htype, hkey.symm⟩

theorem message_parts (namespace_ name subjectType subject : String) :
    ("\x00".intercalate [rateLimitKeyPrefix, namespace_, name, subjectType, subject]).toList =
      rateLimitKeyPrefix.toList ++ '\x00' :: (namespace_.toList ++ '\x00' :: (name.toList ++
        '\x00' :: (subjectType.toList ++ '\x00' :: subject.toList))) := by
  show (rateLimitKeyPrefix ++ "\x00" ++ namespace_ ++ "\x00" ++ name ++ "\x00" ++ subjectType ++
    "\x00" ++ subject).toList = _
  simp only [String.toList_append, List.append_assoc]
  rfl

theorem key_parts (namespace_ name subjectType digest : String) :
    (rateLimitKeyPrefix ++ ":" ++ namespace_ ++ ":" ++ name ++ ":" ++ subjectType ++ ":" ++
      digest).toList = rateLimitKeyPrefix.toList ++ ':' :: (namespace_.toList ++ ':' ::
        (name.toList ++ ':' :: (subjectType.toList ++ ':' :: digest.toList))) := by
  simp only [String.toList_append, List.append_assoc]
  rfl

/-- **two accepted calls return one key only for one namespace, policy name, subject type and
subject**, whatever the subject holds -/
theorem key_injective {hmac : String → String → String} {keySecret : String}
    (hinjective : Function.Injective (hmac keySecret)) {namespace_ namespace' : String}
    {policy policy' : RateLimitPolicy} {subjectType subjectType' subject subject' key : String}
    (h : buildRateLimitKey hmac namespace_ policy subjectType subject keySecret = .ok key)
    (h' : buildRateLimitKey hmac namespace' policy' subjectType' subject' keySecret = .ok key) :
    namespace_ = namespace' ∧ policy.name = policy'.name ∧ subjectType = subjectType' ∧
      subject = subject' := by
  obtain ⟨hnamespace, htype, hkey⟩ := buildRateLimitKey_ok h
  obtain ⟨hnamespace', htype', hkey'⟩ := buildRateLimitKey_ok h'
  obtain ⟨hn0, hn⟩ := separators_notMem hnamespace
  obtain ⟨hn0', hn'⟩ := separators_notMem hnamespace'
  obtain ⟨hp0, hp⟩ := separators_notMem policy.name_ok
  obtain ⟨hp0', hp'⟩ := separators_notMem policy'.name_ok
  obtain ⟨ht0, ht⟩ := separators_notMem htype
  obtain ⟨ht0', ht'⟩ := separators_notMem htype'
  have htexts := congrArg String.toList (hkey.symm.trans hkey')
  rw [key_parts, key_parts] at htexts
  have hprinted := List.tail_eq_of_cons_eq (List.append_cancel_left htexts)
  obtain ⟨-, -, -, hdigest⟩ := cut_parts hn hp ht hn' hp' ht' hprinted
  -- equal digests are digests of one message
  have hmessage := congrArg String.toList (hinjective (String.toList_inj.mp hdigest))
  rw [message_parts, message_parts] at hmessage
  have hjoined := List.tail_eq_of_cons_eq (List.append_cancel_left hmessage)
  obtain ⟨hsame, hname, hkind, hsubject⟩ := cut_parts hn0 hp0 ht0 hn0' hp0' ht0' hjoined
  exact ⟨hsame, hname, hkind, String.toList_inj.mp hsubject⟩

/-- the digest of one message as it is, any other one told apart by its message -/
def sampleDigest (secret message : String) : String :=
  if message = "rl:v2\x00app\x00login\x00ip\x00192.0.2.1" then
    "9e7430aab79aaf62fe063c26f8015e264ee5a041a321d8c72f2181f7fd068b13"
  else "message:" ++ message

theorem sampleDigest_injective (secret : String) : Function.Injective (sampleDigest secret) := by
  intro m m' h
  have hhead (text : String) : "9e7430aab79aaf62fe063c26f8015e264ee5a041a321d8c72f2181f7fd068b13" ≠
      "message:" ++ text := by
    intro heq
    have hlist := congrArg (fun s => s.toList.head?) heq
    rw [String.toList_append] at hlist
    cases hlist
  unfold sampleDigest at h
  split at h
  · rename_i hm
    split at h
    · rename_i hm'
      rw [hm, hm']
    · exact absurd h (hhead m')
  · split at h
    · exact absurd h.symm (hhead m)
    · exact (String.append_right_inj _).mp h

def loginPolicy : RateLimitPolicy := ⟨"login", 20, 300, isIdentifier_login, by decide, by decide⟩

theorem key_injective_login :
    ("app" : String) = "app" ∧ loginPolicy.name = loginPolicy.name ∧ ("ip" : String) = "ip" ∧
      ("192.0.2.1" : String) = "192.0.2.1" :=
  have hkey : buildRateLimitKey sampleDigest "app" loginPolicy "ip" "192.0.2.1"
      "0123456789abcdefghijABCDEFGHIJ-+" = .ok
        "rl:v2:app:login:ip:9e7430aab79aaf62fe063c26f8015e264ee5a041a321d8c72f2181f7fd068b13" := by
    rfl
  key_injective (sampleDigest_injective _) hkey hkey

end PgRbac
