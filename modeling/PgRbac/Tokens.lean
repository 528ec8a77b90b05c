import PgRbac.Lib.Words
import PgRbac.Schema
import PgRbac.Watermark

/-!
# Bearer tokens and their records

The client side of the registry (`app/core/security/tokens.py`): an access token is registered under
a field of its id with a record of its claims and the user's token version, and a request is checked
against this record before the database is read.

* `activeJtiValue`                 the record, which determines the version;
* `TokenRegistry.activation`       what `issue_access_token` registers;
* `TokenRegistry.requireActiveJti` what `require_active_jti` makes of the script's reply;
* `record_eval`                    a record that a script leaves was there, or is the one registered;
* `compareAndDelete_removes`       the revoking script removes its own record, or an expired session.

Decoded claims are given; the JSON readers of Python and of the scripts are parameters.
-/

set_option linter.unusedSectionVars false
set_option linter.unusedVariables false

namespace PgRbac

open Redis

/-! ## records -/

structure AccessTokenClaims where
  userId : Uuid
  tokenId : Uuid
  issuedAt : Nat
  expiresAt : Nat
  deriving DecidableEq, Repr

/-- `_active_jti_value`: the JSON text with sorted keys -/
def activeJtiValue (claims : AccessTokenClaims) (userTokenVersion : Nat) : String :=
  "\x7b\"exp\":" ++ (Nat.repr claims.expiresAt ++ ("," ++ ("\"iat\":" ++
    (Nat.repr claims.issuedAt ++ ("," ++ ("\"sub\":\"" ++ (claims.userId.text ++
      ("\",\"token_version\":" ++ (Nat.repr userTokenVersion ++ ("," ++
        "\"typ\":\"access\"\x7d"))))))))))

theorem comma_notMem_repr (n : Nat) : ',' ∉ (Nat.repr n).toList := by
  intro hmem
  rw [Nat.repr, String.toList_ofList] at hmem
  have hdigit := Nat.isDigit_of_mem_toDigits (by omega) (by omega) hmem
  cases hdigit

theorem cut_repr {a b : Nat} {t t' : String} (h : Nat.repr a ++ ("," ++ t) = Nat.repr b ++ ("," ++ t')) :
    a = b ∧ t = t' := by
  have hlist : (Nat.repr a).toList ++ ',' :: t.toList = (Nat.repr b).toList ++ ',' :: t'.toList := by
    have htext := congrArg String.toList h
    rw [String.toList_append, String.toList_append, String.toList_append, String.toList_append]
      at htext
    exact htext
  obtain ⟨hrepr, hrest⟩ := Words.cut_at (comma_notMem_repr a) (comma_notMem_repr b) hlist
  refine ⟨?_, String.toList_inj.mp hrest⟩
  have hread := congrArg decimal? (String.toList_inj.mp hrepr)
  rw [decimal?_repr, decimal?_repr] at hread
  exact Option.some.inj hread

theorem activeJtiValue_inj {claims claims' : AccessTokenClaims} {v v' : Nat}
    (huser : claims'.userId = claims.userId) (h : activeJtiValue claims v = activeJtiValue claims' v') :
    claims.expiresAt = claims'.expiresAt ∧ claims.issuedAt = claims'.issuedAt ∧ v = v' := by
  unfold activeJtiValue at h
  rw [huser] at h
  obtain ⟨hexp, hrest⟩ := cut_repr ((String.append_right_inj _).mp h)
  obtain ⟨hiat, hrest'⟩ := cut_repr ((String.append_right_inj _).mp hrest)
  have hversion := (String.append_right_inj _).mp
    ((String.append_right_inj _).mp ((String.append_right_inj _).mp hrest'))
  obtain ⟨hv, -⟩ := cut_repr hversion
  exact ⟨hexp, hiat, hv⟩

/-! ## the client -/

variable {F : Type} [LinearOrder F]

/-- the settings of the registry, and the readers of its records -/
structure TokenRegistry (F : Type) where
  field : Uuid → F
  accessTokenTtlSeconds : Nat
  maxActiveSessionsPerUser : Nat
  cjsonDecode : String → Option DecodedRecord
  /-- `_parse_active_jti_value`: subject, version, issue time and expiry of a record -/
  parse : String → Option (Uuid × Nat × Nat × Nat)

namespace TokenRegistry
variable (r : TokenRegistry F)

/-- the claims of a new token -/
def claims (userId tokenId : Uuid) (now : Nat) : AccessTokenClaims :=
  ⟨userId, tokenId, now, now + r.accessTokenTtlSeconds⟩

def activation (claims : AccessTokenClaims) (userTokenVersion : Nat) : Activation F where
  field := r.field claims.tokenId
  record := activeJtiValue claims userTokenVersion
  expiresAt := claims.expiresAt
  version := userTokenVersion
  maximum := r.maxActiveSessionsPerUser

/-- `require_active_jti` on the reply of its script -/
def checkActiveJti (claims : AccessTokenClaims) (value : Option String) : Except Failure Nat :=
  match value with
  | none => .error (unauthenticated "inactive_access_token")
  | some value =>
    match r.parse value with
    | none => .error (unauthenticated "active_token_record_mismatch")
    | some (userId, tokenVersion, issuedAt, expiresAt) =>
      if userId ≠ claims.userId ∨ issuedAt ≠ claims.issuedAt ∨ expiresAt ≠ claims.expiresAt then
        .error (unauthenticated "active_token_record_mismatch")
      else if value ≠ activeJtiValue claims tokenVersion then
        .error (unauthenticated "active_token_record_mismatch")
      else .ok tokenVersion

def requireActiveJti (claims : AccessTokenClaims) (clock : Nat) (k : SessionKeys F) :
    Except Failure Nat :=
  r.checkActiveJti claims (readActiveJti r.cjsonDecode (r.field claims.tokenId) clock
    (k.alive (clock / 1000))).1

def checkCall (claims : AccessTokenClaims) : ScriptCall F := .read (r.field claims.tokenId)

def revokeCall (claims : AccessTokenClaims) (userTokenVersion : Nat) : ScriptCall F :=
  .revoke (r.field claims.tokenId) (activeJtiValue claims userTokenVersion)

end TokenRegistry

/-! ## which records a script leaves -/

theorem record_storeSession {a : Activation F} {clock : Nat} {k : SessionKeys F} {f : F}
    {value : String} (h : (storeSession a clock k).records.lookup (.jti f) = some value) :
    k.records.lookup (.jti f) = some value ∨ (f = a.field ∧ value = a.record) := by
  unfold storeSession at h
  dsimp only at h
  obtain ⟨fs, hfs⟩ := evictOldest_eq
    ⟨(k.records.hset (.jti a.field) a.record).hset .version (Nat.repr a.version),
      k.order.zadd a.field (activationScore clock k.order),
      k.expires.zadd a.field (tonumber a.expiresAt)⟩
    (tonumber a.maximum) (k.order.zadd a.field (activationScore clock k.order)).card
  rw [hfs, record_removeSessions] at h
  split at h
  · cases h
  · have hset : ((k.records.hset (.jti a.field) a.record).hset .version
        (Nat.repr a.version)).lookup (.jti f) = some value := h
    rw [Slot.lookup_hset, if_neg (fun e => by cases e), Slot.lookup_hset] at hset
    by_cases hf : f = a.field
    · rw [if_pos (congrArg Field.jti hf)] at hset
      exact Or.inr ⟨hf, (Option.some.inj hset).symm⟩
    · rw [if_neg (fun e => hf (Field.jti.inj e))] at hset
      exact Or.inl hset

theorem record_of_removeSessions {k : SessionKeys F} {fs : List F} {f : F} {value : String}
    (h : (removeSessions k fs).records.lookup (.jti f) = some value) :
    k.records.lookup (.jti f) = some value := by
  rw [record_removeSessions] at h
  split at h
  · cases h
  · exact h

theorem record_registerSession {argument : Nat → String} {a : Activation F} {version : Option String}
    {clock : Nat} {k : SessionKeys F} {f : F} {value : String}
    (h : (registerSession argument a version clock k).2.records.lookup (.jti f) = some value) :
    k.records.lookup (.jti f) = some value ∨ (f = a.field ∧ value = a.record) := by
  unfold registerSession at h
  dsimp only at h
  split at h
  · exact Or.inl (record_of_removeSessions h)
  · generalize hbase : (if version ≠ some (Nat.repr a.version) then SessionKeys.missing
      else pruneExpired k (clock / 1000000)) = base at h
    have hkept : base.records.lookup (.jti f) = some value →
        k.records.lookup (.jti f) = some value := by
      intro hold
      rw [← hbase] at hold
      split at hold
      · cases hold
      · exact record_of_removeSessions hold
    split at h
    · exact Or.inl (hkept h)
    · -- the record has been stored, whether `PEXPIREAT` fails or not
      have hstored : (storeSession a clock base).records.lookup (.jti f) = some value := by
        split at h
        · exact h
        · exact Slot.lookup_of_pexpireat h
      exact (record_storeSession hstored).imp_left hkept

theorem record_activateJti {argument : Nat → String} {a : Activation F} {clock : Nat}
    {k : SessionKeys F} {f : F} {value : String}
    (h : (activateJti argument a clock k).2.records.lookup (.jti f) = some value) :
    k.records.lookup (.jti f) = some value ∨ (f = a.field ∧ value = a.record) := by
  unfold activateJti at h
  split at h
  · exact Or.inl h
  · split at h
    · exact Or.inl h
    · split at h
      · exact record_registerSession h
      · split at h
        · exact Or.inl h
        · split at h
          · exact Or.inl h
          · exact record_registerSession h

/-- **a record that a script leaves was there before, or is the one that it registers** -/
theorem record_eval {decode : String → Option DecodedRecord} {argument : Nat → String}
    {call : ScriptCall F} {clock : Nat} {k : SessionKeys F} {f : F} {value : String}
    (h : (call.eval decode argument clock k).2.records.lookup (.jti f) = some value) :
    k.records.lookup (.jti f) = some value ∨
      ∃ a, call = .activate a ∧ f = a.field ∧ value = a.record := by
  by_cases hact : ∀ a, call ≠ .activate a
  · obtain ⟨fs, hfs⟩ := eval_removes decode hact argument clock k
    rw [hfs] at h
    exact Or.inl (Slot.lookup_of_alive (record_of_removeSessions h))
  · rw [not_forall] at hact
    obtain ⟨a, hact⟩ := hact
    have hca : call = .activate a := not_not.mp hact
    subst hca
    rcases record_activateJti h with hold | hnew
    · exact Or.inl (Slot.lookup_of_alive hold)
    · exact Or.inr ⟨a, rfl, hnew⟩

/-! ## reading and revoking -/

/-- a record that the reading script returns is stored and has not expired -/
theorem readActiveJti_some {decode : String → Option DecodedRecord} {field : F} {clock : Nat}
    {k : SessionKeys F} {value : String} (h : (readActiveJti decode field clock k).1 = some value) :
    k.records.lookup (.jti field) = some value ∧
      ∃ expiry, k.expires.lookup field = some expiry ∧ clock / 1000000 < expiry := by
  unfold readActiveJti at h
  cases he : k.expires.lookup field with
  | none =>
    rw [he] at h
    cases h
  | some expiry =>
    rw [he] at h
    dsimp only at h
    split at h
    · cases h
    · rename_i hlive
      cases hr : k.records.lookup (.jti field) with
      | none =>
        rw [hr] at h
        cases h
      | some stored =>
        rw [hr] at h
        dsimp only at h
        split at h
        · exact ⟨h, expiry, rfl, Nat.not_le.mp hlive⟩
        · cases h

theorem checkActiveJti_ok {r : TokenRegistry F} {claims : AccessTokenClaims}
    {value : Option String} {version : Nat} (h : r.checkActiveJti claims value = .ok version) :
    value = some (activeJtiValue claims version) := by
  unfold TokenRegistry.checkActiveJti at h
  cases value with
  | none => cases h
  | some value =>
    dsimp only at h
    cases hp : r.parse value with
    | none =>
      rw [hp] at h
      cases h
    | some fields =>
      obtain ⟨userId, tokenVersion, issuedAt, expiresAt⟩ := fields
      rw [hp] at h
      dsimp only at h
      split at h
      · cases h
      · split at h
        · cases h
        · rename_i hcanonical
          cases h
          rw [not_ne_iff.mp hcanonical]

theorem compareAndDelete_removes {field : F} {record : String} {clock : Nat} {k : SessionKeys F}
    {f : F} {value : String} (hbefore : k.records.lookup (.jti f) = some value)
    (hafter : (compareAndDelete field record clock k).2.records.lookup (.jti f) = none) :
    f = field ∧ (value = record ∨
      ∀ expiry, k.expires.lookup f = some expiry → expiry ≤ clock / 1000000) := by
  have hfield : ∀ k' : SessionKeys F, k' = removeSession k field →
      k'.records.lookup (.jti f) = none → f = field := by
    intro k' hk' hgone
    by_contra hne
    rw [hk', record_removeSession, if_neg hne, hbefore] at hgone
    cases hgone
  unfold compareAndDelete at hafter
  cases he : k.expires.lookup field with
  | none =>
    rw [he] at hafter
    have hf := hfield _ rfl hafter
    refine ⟨hf, Or.inr ?_⟩
    intro expiry hexp
    rw [hf, he] at hexp
    cases hexp
  | some expiry =>
    rw [he] at hafter
    dsimp only at hafter
    split at hafter
    · rename_i hexpired
      have hf := hfield _ rfl hafter
      refine ⟨hf, Or.inr ?_⟩
      intro expiry' hexp
      rw [hf, he] at hexp
      rw [← Option.some.inj hexp]
      exact hexpired
    · cases hr : k.records.lookup (.jti field) with
      | none =>
        rw [hr] at hafter
        dsimp only at hafter
        rw [hbefore] at hafter
        cases hafter
      | some current =>
        rw [hr] at hafter
        dsimp only at hafter
        split at hafter
        · rw [hbefore] at hafter
          cases hafter
        · rename_i hsame
          have hf := hfield _ rfl hafter
          refine ⟨hf, Or.inl ?_⟩
          rw [hf, hr] at hbefore
          rw [← Option.some.inj hbefore]
          exact not_ne_iff.mp hsame

end PgRbac
