import PgRbac.Tokens
import PgRbac.Uuids
import PgRbac.Lib.JsonReadback

/-!
# Registry records as texts

What `require_active_jti` makes of a text that the registry holds under a token
(`app/core/security/tokens.py`): the text is read as JSON, its fields are compared with the claims
of the token, and the text with the one that would be registered for them.

* `decodeAccessToken`     the claims of a token;
* `activeJtiValue`        the record that is registered for claims and a version;
* `parseActiveJtiValue`   the fields of a text;
* `requireActiveJti`      the version of a record, or how the request ends;
* `checkRecord_ok_iff`    only the registered text has a version;
* `activeJtiValue_fields` a record determines its claims and its version.

`jwt.decode` is a parameter, as are the values of digits and spaces outside of ASCII.
-/

set_option linter.unusedSectionVars false
set_option linter.unusedVariables false

namespace PgRbac.TokenRecords

open JsonReader Fallible

/-! ## exceptions -/

/-- what is raised; `unfinished` stands for a reader that was cut off -/
inductive Raised where
  | keyError
  | typeError
  | valueError
  | overflowError
  | pyJwtError
  | recursionError
  | unfinished
  | uncaught (name : String)
deriving DecidableEq, Repr

/-- `JSONDecodeError` is a `ValueError` -/
def Raised.ofReading : JsonReader.Error → Raised
  | .malformed => .valueError
  | .recursion => .recursionError
  | .unfinished => .unfinished

/-- an error of the API, or an exception that is not handled -/
inductive Ending where
  | api (failure : Failure)
  | unhandled (exception : Raised)
deriving DecidableEq, Repr

/-- `try: … except caught: raise failure` -/
def handled {α : Type} (caught : List Raised) (failure : Failure) (body : Except Raised α) :
    Except Ending α :=
  match body with
  | .ok a => .ok a
  | .error e => if e ∈ caught then .error (.api failure) else .error (.unhandled e)

/-! ## fields -/

abbrev Payload := List (Points × Value)

/-- `payload[key]` -/
def getItem (payload : Payload) (key : String) : Except Raised Value :=
  orRaise (payload.lookup (points key)) .keyError

/-- `set(payload) == keys` -/
def hasKeys (payload : Payload) (keys : List String) : Bool :=
  (payload.map Prod.fst).all (keys.map points).contains &&
    (keys.map points).all (payload.map Prod.fst).contains

/-- `value == text` -/
def isText (value : Value) (text : String) : Bool :=
  match value with
  | .str s => s == points text
  | _ => false

def uuid4 (ascii : Nat → Char) (value : Value) : Except Raised Uuid :=
  match value with
  | .str text =>
    match Uuid.parse ascii text with
    | none => .error .valueError
    | some parsed =>
      if parsed.isV4 = false ∨ points parsed.text ≠ text then .error .valueError else .ok parsed
  | _ => .error .valueError

/-- `_integer_numeric_date`; a boolean is not an integer here -/
def integerNumericDate (value : Value) : Except Raised Int :=
  match value with
  | .int n => .ok n
  | _ => .error .valueError

/-! ## claims -/

structure AccessTokenClaims where
  userId : Uuid
  tokenId : Uuid
  issuedAt : Int
  expiresAt : Int
deriving DecidableEq, Repr

structure TokenSettings where
  jwtSecret : String
  jwtIssuer : Option String
  jwtAudience : Option String
  jwtAccessTokenTtlSeconds : Int

def requiredAccessClaims : List String := ["sub", "jti", "iat", "exp", "token_type"]

def optionalAccessScopeClaims : List String := ["iss", "aud"]

def expectedAccessClaims (settings : TokenSettings) : List String :=
  match settings.jwtIssuer with
  | none => requiredAccessClaims
  | some _ => requiredAccessClaims ++ optionalAccessScopeClaims

/-- `jwt.decode` with the secret, the issuer and the audience of the settings -/
abbrev JwtDecode := TokenSettings → String → Except Raised Payload

section
variable (ascii : Nat → Char)

def claimsOf (settings : TokenSettings) (payload : Payload) : Except Raised AccessTokenClaims := do
  require (hasKeys payload (expectedAccessClaims settings) = true) .valueError
  let tokenType ← getItem payload "token_type"
  require (isText tokenType "access" = true) .valueError
  let issuedAt ← getItem payload "iat" >>= integerNumericDate
  let expiresAt ← getItem payload "exp" >>= integerNumericDate
  require (¬ (expiresAt ≤ issuedAt ∨
    settings.jwtAccessTokenTtlSeconds < expiresAt - issuedAt)) .valueError
  let userId ← getItem payload "sub" >>= uuid4 ascii
  let tokenId ← getItem payload "jti" >>= uuid4 ascii
  .ok ⟨userId, tokenId, issuedAt, expiresAt⟩

def decodeAccessToken (jwt : JwtDecode) (token : String) (settings : TokenSettings) :
    Except Ending AccessTokenClaims :=
  handled [.pyJwtError, .keyError, .overflowError, .typeError, .valueError]
    (unauthenticated "invalid_access_token") (jwt settings token >>= claimsOf ascii settings)

/-! ## records -/

def record (claims : AccessTokenClaims) (userTokenVersion : Int) : JsonValue :=
  .object [("exp", .int claims.expiresAt), ("iat", .int claims.issuedAt),
    ("sub", .str claims.userId.text), ("token_version", .int userTokenVersion),
    ("typ", .str "access")]

/-- `_active_jti_value`: an integer of too many digits has no text -/
def activeJtiValue (claims : AccessTokenClaims) (userTokenVersion : Int) : Except Raised String :=
  if ShortInt claims.expiresAt ∧ ShortInt claims.issuedAt ∧ ShortInt userTokenVersion then
    .ok (String.ofList ((record claims userTokenVersion).text JsonValue.compact))
  else .error .valueError

/-- `token_version` of a record -/
def tokenVersionOf (value : Value) : Except Raised Int :=
  match value with
  | .int n => if n < 0 then .error .valueError else .ok n
  | _ => .error .valueError

def fieldsOf (payload : Payload) : Except Raised (Uuid × Int × Int × Int) := do
  require (hasKeys payload ["exp", "iat", "sub", "token_version", "typ"] = true) .valueError
  let typ ← getItem payload "typ"
  require (isText typ "access" = true) .valueError
  let tokenVersion ← getItem payload "token_version" >>= tokenVersionOf
  let expiresAt ← getItem payload "exp" >>= integerNumericDate
  let issuedAt ← getItem payload "iat" >>= integerNumericDate
  let userId ← getItem payload "sub" >>= uuid4 ascii
  .ok (userId, tokenVersion, issuedAt, expiresAt)

/-- `_parse_active_jti_value`; `limit` containers may stand in each other -/
def parseActiveJtiValue (limit : Nat) (value : String) : Except Raised (Uuid × Int × Int × Int) :=
  match loads limit value.toList with
  | .error e => .error (Raised.ofReading e)
  | .ok (.object payload) => fieldsOf ascii payload
  | .ok _ => .error .valueError

/-- the comparison of a record with the claims of a token -/
def checkRecord (limit : Nat) (claims : AccessTokenClaims) (value : String) :
    Except Raised Int := do
  let parsed ← parseActiveJtiValue ascii limit value
  require (parsed.1 = claims.userId ∧ parsed.2.2.1 = claims.issuedAt ∧
    parsed.2.2.2 = claims.expiresAt) .valueError
  let canonical ← activeJtiValue claims parsed.2.1
  require (value = canonical) .valueError
  .ok parsed.2.1

/-- what the call of the read script gives -/
inductive Reply where
  | redisError
  | text (value : String)
  | noText

def requireActiveJti (limit : Nat) (claims : AccessTokenClaims) : Reply → Except Ending Int
  | .redisError => .error (.api (unavailable "active_token_registry_unavailable"))
  | .noText => .error (.api (unauthenticated "inactive_access_token"))
  | .text value =>
    handled [.keyError, .typeError, .valueError] (unauthenticated "active_token_record_mismatch")
      (checkRecord ascii limit claims value)

end

/-! ## ids -/

section
variable {ascii : Nat → Char}

theorem uuid4_ok {value : Value} {u : Uuid} :
    uuid4 ascii value = .ok u ↔ u.isV4 = true ∧ value = .str (points u.text) := by
  constructor
  · intro h
    unfold uuid4 at h
    split at h
    · rename_i text
      split at h
      · cases h
      · rename_i parsed hparsed
        split at h
        · cases h
        · rename_i hcanonical
          rw [not_or, not_not, Bool.not_eq_false] at hcanonical
          cases h
          exact ⟨hcanonical.1, congrArg Value.str hcanonical.2.symm⟩
    · cases h
  · rintro ⟨hversion, rfl⟩
    unfold uuid4
    dsimp only
    rw [Uuid.parse_text]
    dsimp only
    refine if_neg fun h => ?_
    rcases h with h | h
    · rw [hversion] at h
      cases h
    · exact h rfl

theorem isV4_of_decode {jwt : JwtDecode} {token : String} {settings : TokenSettings}
    {claims : AccessTokenClaims} (h : decodeAccessToken ascii jwt token settings = .ok claims) :
    claims.userId.isV4 = true := by
  unfold decodeAccessToken handled at h
  split at h
  · rename_i decoded hdecoded
    cases h
    unfold claimsOf at hdecoded
    simp only [bind_ok, require_ok] at hdecoded
    obtain ⟨payload, -, -, -, tokenType, -, -, -, iat, -, exp, -, -, -, userId, hsub, tokenId, -,
      hclaims⟩ := hdecoded
    cases hclaims
    obtain ⟨value, -, hvalue⟩ := hsub
    exact (uuid4_ok.mp hvalue).1
  · split at h <;> cases h

/-! ## failures -/

theorem failsIn_uuid4 (value : Value) :
    FailsIn [.keyError, .typeError, .valueError] (uuid4 ascii value) := by
  have hvalue : Raised.valueError ∈ [.keyError, .typeError, .valueError] := by decide
  unfold uuid4
  split
  · split
    · exact failsIn_error hvalue
    · split
      · exact failsIn_error hvalue
      · exact failsIn_ok _
  · exact failsIn_error hvalue

theorem failsIn_integerNumericDate (value : Value) :
    FailsIn [.keyError, .typeError, .valueError] (integerNumericDate value) := by
  unfold integerNumericDate
  split
  · exact failsIn_ok _
  · exact failsIn_error (by decide)

theorem failsIn_tokenVersionOf (value : Value) :
    FailsIn [.keyError, .typeError, .valueError] (tokenVersionOf value) := by
  unfold tokenVersionOf
  split
  · split
    · exact failsIn_error (by decide)
    · exact failsIn_ok _
  · exact failsIn_error (by decide)

theorem failsIn_getItem (payload : Payload) (key : String) :
    FailsIn [.keyError, .typeError, .valueError] (getItem payload key) :=
  failsIn_orRaise (by decide)

theorem failsIn_fieldsOf (payload : Payload) :
    FailsIn [.keyError, .typeError, .valueError] (fieldsOf ascii payload) := by
  unfold fieldsOf
  refine (failsIn_require (by decide)).bind fun _ => ?_
  refine (failsIn_getItem payload "typ").bind fun typ => ?_
  refine (failsIn_require (by decide)).bind fun _ => ?_
  refine ((failsIn_getItem _ _).bind failsIn_tokenVersionOf).bind fun tokenVersion => ?_
  refine ((failsIn_getItem _ _).bind failsIn_integerNumericDate).bind fun expiresAt => ?_
  refine ((failsIn_getItem _ _).bind failsIn_integerNumericDate).bind fun issuedAt => ?_
  exact ((failsIn_getItem _ _).bind failsIn_uuid4).bind fun userId => failsIn_ok _

theorem failsIn_parse {limit : Nat} {value : String} (h : nesting value.toList ≤ limit) :
    FailsIn [.keyError, .typeError, .valueError] (parseActiveJtiValue ascii limit value) := by
  unfold parseActiveJtiValue
  split
  · rename_i e he
    rw [loads_error h he]
    exact failsIn_error (by decide)
  · exact failsIn_fieldsOf _
  · exact failsIn_error (by decide)

theorem failsIn_activeJtiValue (claims : AccessTokenClaims) (v : Int) :
    FailsIn [.keyError, .typeError, .valueError] (activeJtiValue claims v) := by
  unfold activeJtiValue
  split
  · exact failsIn_ok _
  · exact failsIn_error (by decide)

/-- **every failure of the comparison is handled** -/
theorem failsIn_checkRecord {limit : Nat} (claims : AccessTokenClaims) {value : String}
    (h : nesting value.toList ≤ limit) :
    FailsIn [.keyError, .typeError, .valueError] (checkRecord ascii limit claims value) := by
  unfold checkRecord
  refine (failsIn_parse h).bind fun parsed => ?_
  refine (failsIn_require (by decide)).bind fun _ => ?_
  refine (failsIn_activeJtiValue claims _).bind fun canonical => ?_
  exact (failsIn_require (by decide)).bind fun _ => failsIn_ok _

/-! ## the registered record -/

theorem legible_record {claims : AccessTokenClaims} {v : Int} (hexp : ShortInt claims.expiresAt)
    (hiat : ShortInt claims.issuedAt) (hv : ShortInt v) (limit : Nat) :
    Legible (limit + 1) (record claims v) := by
  have hkeys : ["exp", "iat", "sub", "token_version", "typ"].Nodup := by decide
  refine .object hkeys ?_
  intro field hfield
  simp only [List.mem_cons, List.not_mem_nil, or_false] at hfield
  rcases hfield with rfl | rfl | rfl | rfl | rfl
  · exact .int hexp
  · exact .int hiat
  · exact .str _
  · exact .int hv
  · exact .str _

theorem activeJtiValue_ok {claims : AccessTokenClaims} {v : Int} {s : String} :
    activeJtiValue claims v = .ok s ↔
      (ShortInt claims.expiresAt ∧ ShortInt claims.issuedAt ∧ ShortInt v) ∧
        s.toList = (record claims v).text JsonValue.compact := by
  unfold activeJtiValue
  split
  · rename_i hshort
    rw [Except.ok.injEq]
    constructor
    · rintro rfl
      exact ⟨hshort, String.toList_ofList⟩
    · rintro ⟨-, hs⟩
      rw [← hs, String.ofList_toList]
  · rename_i hshort
    constructor
    · intro h
      cases h
    · intro h
      exact absurd h.1 hshort

theorem loads_record {claims : AccessTokenClaims} {v : Int} {s : String}
    (h : activeJtiValue claims v = .ok s) (limit : Nat) :
    loads (limit + 1) s.toList = .ok (decoded (record claims v)) := by
  obtain ⟨⟨hexp, hiat, hv⟩, htext⟩ := activeJtiValue_ok.mp h
  rw [htext]
  exact loads_text (legible_record hexp hiat hv limit)

/-- **a record determines its claims and its version**, the id of the token apart -/
theorem activeJtiValue_fields {claims claims' : AccessTokenClaims} {v v' : Int} {s : String}
    (h : activeJtiValue claims v = .ok s) (h' : activeJtiValue claims' v' = .ok s) :
    claims.userId = claims'.userId ∧ claims.issuedAt = claims'.issuedAt ∧
      claims.expiresAt = claims'.expiresAt ∧ v = v' := by
  have hsame := (loads_record h 0).symm.trans (loads_record h' 0)
  unfold record at hsame
  simp only [decoded, decodedFields, Except.ok.injEq, Value.object.injEq, List.cons.injEq,
    Prod.mk.injEq, Value.int.injEq, Value.str.injEq, true_and, and_true] at hsame
  obtain ⟨hexp, hiat, hsub, hv⟩ := hsame
  exact ⟨Uuid.text_injective (points_injective hsub), hiat, hexp, hv⟩

theorem nesting_record {claims : AccessTokenClaims} {v : Int} {s : String}
    (h : activeJtiValue claims v = .ok s) : 1 ≤ nesting s.toList := by
  rw [(activeJtiValue_ok.mp h).2]
  exact deepest_bracket (.inr rfl) rfl 0

def recordPayload (claims : AccessTokenClaims) (v : Int) : Payload :=
  [(points "exp", .int claims.expiresAt), (points "iat", .int claims.issuedAt),
    (points "sub", .str (points claims.userId.text)), (points "token_version", .int v),
    (points "typ", .str (points "access"))]

theorem fieldsOf_record {claims : AccessTokenClaims} (hversion : claims.userId.isV4 = true) {v : Int}
    (hv : 0 ≤ v) : fieldsOf ascii (recordPayload claims v) =
      .ok (claims.userId, v, claims.issuedAt, claims.expiresAt) := by
  have hkeys : hasKeys (recordPayload claims v) ["exp", "iat", "sub", "token_version", "typ"] =
      true := rfl
  have htyp : getItem (recordPayload claims v) "typ" = .ok (.str (points "access")) := rfl
  have hnat : getItem (recordPayload claims v) "token_version" = .ok (.int v) := rfl
  have hexp : getItem (recordPayload claims v) "exp" = .ok (.int claims.expiresAt) := rfl
  have hiat : getItem (recordPayload claims v) "iat" = .ok (.int claims.issuedAt) := rfl
  have hsub : getItem (recordPayload claims v) "sub" =
      .ok (.str (points claims.userId.text)) := rfl
  have huser : uuid4 ascii (.str (points claims.userId.text)) = .ok claims.userId :=
    uuid4_ok.mpr ⟨hversion, rfl⟩
  refine (bind_ok _ _ _).mpr ⟨(), (require_ok _ _ _).mpr hkeys, ?_⟩
  refine (bind_ok _ _ _).mpr ⟨_, htyp, ?_⟩
  refine (bind_ok _ _ _).mpr ⟨(), (require_ok _ _ _).mpr rfl, ?_⟩
  refine (bind_ok _ _ _).mpr ⟨v, (bind_ok _ _ _).mpr ⟨_, hnat, if_neg (not_lt.mpr hv)⟩, ?_⟩
  refine (bind_ok _ _ _).mpr ⟨_, (bind_ok _ _ _).mpr ⟨_, hexp, rfl⟩, ?_⟩
  refine (bind_ok _ _ _).mpr ⟨_, (bind_ok _ _ _).mpr ⟨_, hiat, rfl⟩, ?_⟩
  exact (bind_ok _ _ _).mpr ⟨_, (bind_ok _ _ _).mpr ⟨_, hsub, huser⟩, rfl⟩

theorem nonneg_of_fieldsOf {payload : Payload} {fields : Uuid × Int × Int × Int}
    (h : fieldsOf ascii payload = .ok fields) : 0 ≤ fields.2.1 := by
  unfold fieldsOf at h
  simp only [bind_ok, require_ok, Except.ok.injEq] at h
  obtain ⟨_, -, typ, -, _, -, tokenVersion, hversion, expiresAt, -, issuedAt, -, userId, -, rfl⟩ := h
  obtain ⟨value, -, hvalue⟩ := hversion
  unfold tokenVersionOf at hvalue
  split at hvalue
  · split at hvalue
    · cases hvalue
    · rename_i hneg
      cases hvalue
      exact not_lt.mp hneg
  · cases hvalue

/-- **only the registered record has a version** -/
theorem checkRecord_ok_iff {limit : Nat} {claims : AccessTokenClaims}
    (hversion : claims.userId.isV4 = true) {s : String} (hnest : nesting s.toList ≤ limit)
    {v : Int} :
    checkRecord ascii limit claims s = .ok v ↔ 0 ≤ v ∧ activeJtiValue claims v = .ok s := by
  constructor
  · intro h
    unfold checkRecord at h
    simp only [bind_ok, require_ok, Except.ok.injEq] at h
    obtain ⟨fields, hparse, _, -, canonical, hcanonical, _, rfl, rfl⟩ := h
    refine ⟨?_, hcanonical⟩
    unfold parseActiveJtiValue at hparse
    split at hparse
    · cases hparse
    · exact nonneg_of_fieldsOf hparse
    · cases hparse
  · rintro ⟨hv, hs⟩
    obtain ⟨limit, rfl⟩ : ∃ n, limit = n + 1 :=
      ⟨limit - 1, by have := nesting_record hs; omega⟩
    have hparse : parseActiveJtiValue ascii (limit + 1) s =
        .ok (claims.userId, v, claims.issuedAt, claims.expiresAt) := by
      unfold parseActiveJtiValue
      rw [loads_record hs limit]
      exact fieldsOf_record hversion hv
    refine (bind_ok _ _ _).mpr ⟨_, hparse, ?_⟩
    refine (bind_ok _ _ _).mpr ⟨(), (require_ok _ _ _).mpr ⟨rfl, rfl, rfl⟩, ?_⟩
    refine (bind_ok _ _ _).mpr ⟨s, hs, ?_⟩
    exact (bind_ok _ _ _).mpr ⟨(), (require_ok _ _ _).mpr rfl, rfl⟩

/-! ## the registry of the model -/

/-- claims with times behind the epoch -/
def ofNat (claims : PgRbac.AccessTokenClaims) : AccessTokenClaims :=
  ⟨claims.userId, claims.tokenId, claims.issuedAt, claims.expiresAt⟩

/-- the fields of a record with times behind the epoch -/
def parseRecord (ascii : Nat → Char) (limit : Nat) (value : String) :
    Option (Uuid × Nat × Nat × Nat) :=
  match parseActiveJtiValue ascii limit value with
  | .ok fields =>
    if 0 ≤ fields.2.2.1 ∧ 0 ≤ fields.2.2.2 then
      some (fields.1, fields.2.1.toNat, fields.2.2.1.toNat, fields.2.2.2.toNat)
    else none
  | .error _ => none

theorem quote_uuid (u : Uuid) : JsonValue.quote u.text = '"' :: (u.text.toList ++ ['"']) := by
  have hplain : u.text.toList.flatMap JsonValue.escape = u.text.toList := by
    have hall := uuid_characters (P := fun c => JsonValue.escape c = [c]) (by decide) (by decide) u
    rw [List.flatMap_congr hall]
    exact List.flatMap_singleton' _
  rw [JsonValue.quote, hplain]

theorem activeJtiValue_ofNat {claims : PgRbac.AccessTokenClaims} {v : Nat}
    (hexp : ShortInt claims.expiresAt) (hiat : ShortInt claims.issuedAt) (hv : ShortInt v) :
    activeJtiValue (ofNat claims) v = .ok (PgRbac.activeJtiValue claims v) := by
  refine activeJtiValue_ok.mpr ⟨⟨hexp, hiat, hv⟩, ?_⟩
  unfold PgRbac.activeJtiValue record ofNat
  simp only [String.toList_append, JsonValue.text, JsonValue.fieldsText]
  rw [quote_uuid]
  simp only [List.append_assoc, List.cons_append, List.nil_append]
  rfl

theorem handled_ok {α : Type} {caught : List Raised} {failure : Failure} {body : Except Raised α}
    {a : α} : handled caught failure body = .ok a ↔ body = .ok a := by
  cases body with
  | ok b =>
    show (Except.ok b : Except Ending α) = .ok a ↔ _
    rw [Except.ok.injEq, Except.ok.injEq]
  | error e =>
    show (if e ∈ caught then Except.error (Ending.api failure) else .error (.unhandled e)) = .ok a ↔ _
    split
    · exact ⟨(nomatch ·), (nomatch ·)⟩
    · exact ⟨(nomatch ·), (nomatch ·)⟩

theorem handled_error {α : Type} {caught : List Raised} {failure : Failure} {body : Except Raised α}
    (h : FailsIn caught body) (hnot : ∀ a, body ≠ .ok a) :
    handled caught failure body = .error (.api failure) := by
  cases body with
  | ok b => exact absurd rfl (hnot b)
  | error e => exact if_pos (h e rfl)

theorem requireActiveJti_ok_iff {limit : Nat} {claims : AccessTokenClaims}
    (hversion : claims.userId.isV4 = true) {s : String} (hnest : nesting s.toList ≤ limit)
    {v : Int} : requireActiveJti ascii limit claims (.text s) = .ok v ↔
      0 ≤ v ∧ activeJtiValue claims v = .ok s := by
  rw [← checkRecord_ok_iff hversion hnest]
  exact handled_ok

/-- **the client of the registry is this reader** -/
theorem checkActiveJti_ok_iff {F : Type} [LinearOrder F] {limit : Nat} {r : TokenRegistry F}
    (hread : r.parse = parseRecord ascii limit) {claims : PgRbac.AccessTokenClaims}
    (hversion : claims.userId.isV4 = true) (hexp : ShortInt claims.expiresAt)
    (hiat : ShortInt claims.issuedAt) {v : Nat} (hv : ShortInt v) {s : String}
    (hnest : nesting s.toList ≤ limit) : r.checkActiveJti claims (some s) = .ok v ↔
      requireActiveJti ascii limit (ofNat claims) (.text s) = .ok (v : Int) := by
  have hrecord := activeJtiValue_ofNat hexp hiat hv
  have hrandom : (ofNat claims).userId.isV4 = true := hversion
  rw [requireActiveJti_ok_iff hrandom hnest, hrecord]
  constructor
  · intro h
    rw [← Option.some.inj (checkActiveJti_ok h)]
    exact ⟨Int.natCast_nonneg v, rfl⟩
  · rintro ⟨-, hs⟩
    have hs' := Except.ok.inj hs
    subst hs'
    obtain ⟨n, rfl⟩ : ∃ n, limit = n + 1 :=
      ⟨limit - 1, by have := nesting_record hrecord; omega⟩
    have hparse : r.parse (PgRbac.activeJtiValue claims v) =
        some (claims.userId, v, claims.issuedAt, claims.expiresAt) := by
      have hfields : parseActiveJtiValue ascii (n + 1) (PgRbac.activeJtiValue claims v) =
          .ok (claims.userId, (v : Int), (claims.issuedAt : Int), (claims.expiresAt : Int)) := by
        unfold parseActiveJtiValue
        rw [loads_record hrecord n]
        exact fieldsOf_record hrandom (Int.natCast_nonneg v)
      rw [hread, parseRecord, hfields]
      dsimp only
      rw [if_pos ⟨Int.natCast_nonneg _, Int.natCast_nonneg _⟩]
      rfl
    unfold TokenRegistry.checkActiveJti
    dsimp only
    rw [hparse]
    dsimp only
    rw [if_neg (by simp), if_neg (fun hne => hne rfl)]

end

/-! ## only the canonical record -/

/-- **a text has the version of a token exactly when it is the record that is registered for the
token with this version, every other text is refused, and a record determines its claims** -/
theorem canonical_record_only (ascii : Nat → Char) (jwt : JwtDecode) (token : String)
    (settings : TokenSettings) (claims : AccessTokenClaims) (limit : Nat)
    (hclaims : decodeAccessToken ascii jwt token settings = .ok claims) :
    (∀ s : String, nesting s.toList ≤ limit →
      (∀ v : Int, requireActiveJti ascii limit claims (.text s) = .ok v ↔
        0 ≤ v ∧ activeJtiValue claims v = .ok s) ∧
      ((∀ v : Int, 0 ≤ v → activeJtiValue claims v ≠ .ok s) →
        requireActiveJti ascii limit claims (.text s) =
          .error (.api (unauthenticated "active_token_record_mismatch")))) ∧
    ∀ (claims₁ claims₂ : AccessTokenClaims) (v₁ v₂ : Int) (s : String),
      activeJtiValue claims₁ v₁ = .ok s → activeJtiValue claims₂ v₂ = .ok s →
        claims₁.userId = claims₂.userId ∧ claims₁.issuedAt = claims₂.issuedAt ∧
          claims₁.expiresAt = claims₂.expiresAt ∧ v₁ = v₂ := by
  have hversion := isV4_of_decode hclaims
  refine ⟨fun s hnest => ⟨fun v => requireActiveJti_ok_iff hversion hnest, fun hother => ?_⟩,
    fun claims₁ claims₂ v₁ v₂ s h₁ h₂ => activeJtiValue_fields h₁ h₂⟩
  refine handled_error (failsIn_checkRecord claims hnest) fun v hv => ?_
  obtain ⟨hnonneg, hrecord⟩ := (checkRecord_ok_iff hversion hnest).mp hv
  exact hother v hnonneg hrecord

/-- a token signed with HS256 under the secret of the settings -/
def sampleToken : String :=
  "eyJhbGciOiJIUzI1NiIsInR5cCI6IkpXVCJ9." ++
    "eyJzdWIiOiIxMTExMTExMS0xMTExLTQxMTEtODExMS0xMTExMTExMTExMTEiLCJqdGkiOiIyMjIyMjIyMi0y" ++
    "MjIyLTQyMjItODIyMi0yMjIyMjIyMjIyMjIiLCJpYXQiOjE3NjAwMDAwMDAsImV4cCI6MTc2MDAwMDkwMCwi" ++
    "dG9rZW5fdHlwZSI6ImFjY2VzcyJ9._gEorPQQB1O-l8MYAq-gAxFVkjoQsnxPdpotzMKvDH8"

def sampleClaims : AccessTokenClaims :=
  ⟨0x11111111111141118111111111111111#128, 0x22222222222242228222222222222222#128, 1760000000,
    1760000900⟩

def sampleSettings : TokenSettings := ⟨"k4Zt8Qw2Xn6Vb1Hs9Dy3Gf7Lc5Mj0RaE", none, none, 900⟩

/-- the library on that token before it expires; no other one has its signature -/
def sampleJwt : JwtDecode := fun settings token =>
  if settings.jwtSecret = "k4Zt8Qw2Xn6Vb1Hs9Dy3Gf7Lc5Mj0RaE" ∧ token = sampleToken then
    .ok [(points "sub", .str (points "11111111-1111-4111-8111-111111111111")),
      (points "jti", .str (points "22222222-2222-4222-8222-222222222222")),
      (points "iat", .int 1760000000), (points "exp", .int 1760000900),
      (points "token_type", .str (points "access"))]
  else .error .pyJwtError

def sampleRecord : String :=
  "\x7b\"exp\":1760000900,\"iat\":1760000000,\"sub\":\"11111111-1111-4111-8111-111111111111\"," ++
    "\"token_version\":3,\"typ\":\"access\"\x7d"

theorem canonical_record_only_sample :
    requireActiveJti Char.ofNat 1 sampleClaims (.text sampleRecord) = .ok 3 ∧
      requireActiveJti Char.ofNat 1 sampleClaims (.text (" " ++ sampleRecord)) =
        .error (.api (unauthenticated "active_token_record_mismatch")) := by
  have hclaims : decodeAccessToken Char.ofNat sampleJwt sampleToken sampleSettings =
      .ok sampleClaims := by
    decide +kernel
  have h := (canonical_record_only Char.ofNat sampleJwt sampleToken sampleSettings sampleClaims 1
    hclaims).1
  refine ⟨((h sampleRecord (by decide +kernel)).1 3).mpr ⟨by decide, by decide +kernel⟩,
    (h (" " ++ sampleRecord) (by decide +kernel)).2 fun v hv hrecord => ?_⟩
  have htext := (activeJtiValue_ok.mp hrecord).2
  rw [String.toList_append] at htext
  cases htext

end PgRbac.TokenRecords
