import PgRbac.PayloadSize
import PgRbac.Sanitizer
import PgRbac.Uuids

/-!
# Business audit events

`BusinessAuditWriter.build_event` puts an event together from a catalog of actions and the facts of
one call; the constructor of the row validates every column again, and the table
`business_audit_events` has its own column types and constraints.

* `CheckedSpec`, `BusinessAuditWriter`    the catalog;
* `buildEvent`                  the event of a call;
* `shapeChecks`, `sizeChecks`, `violations`   what the table asks of a row;
* `construct_described`         the constructor refuses what the first look at a payload did not open;
* `business_event_stored`       what an event is, and when it can be stored.
-/

set_option linter.unusedVariables false

namespace PgRbac.BusinessAudit

open Fallible Payloads Pattern

/-! ## names -/

private def nameCharacter (c : Char) : Bool := c.isLower || c.isDigit || c == '_'

private def identifierCharacter (c : Char) : Bool := c.isAlphanum || [':', '_', '-'].contains c

def domainRe : Pattern := seq (set Char.isLower) (between (set nameCharacter) 0 63)

/-- `BUSINESS_AUDIT_ACTION_PATTERN` -/
def actionPattern : Pattern :=
  let name := seq (set Char.isLower) (star (set nameCharacter))
  let part := seq (set (· == '.')) name
  seq name (seq part (seq part (star part)))

def identifierRe : Pattern := seq (set Char.isAlphanum) (between (set identifierCharacter) 0 127)

def matchesRe (pattern : Pattern) (value : String) : Bool := pattern.fullmatch value.toList

example : matchesRe actionPattern "orders.refund.approve" = true := by decide +kernel
example : matchesRe actionPattern "orders.refund" = false := by decide +kernel

def maxContextBytes : Int := 4 * 1024
def maxBusinessStateBytes : Int := 16 * 1024

inductive BusinessAuditOutcome where
  | succeeded
  | failed
  | denied
deriving DecidableEq, Repr

def BusinessAuditOutcome.value : BusinessAuditOutcome → String
  | .succeeded => "succeeded"
  | .failed => "failed"
  | .denied => "denied"

inductive BusinessAuditActorType where
  | user
  | service
  | system
  | job
  | operator
deriving DecidableEq, Repr

def BusinessAuditActorType.value : BusinessAuditActorType → String
  | .user => "user"
  | .service => "service"
  | .system => "system"
  | .job => "job"
  | .operator => "operator"

def sourceValue : AuditSource → String
  | .http => "http"
  | .service => "service"
  | .job => "job"
  | .operator => "operator"
  | .migration => "migration"

def requireBusinessMachineName (value field : String) : Except String Unit :=
  require (matchesRe domainRe value = true) ("invalid business audit " ++ field)

def requireBusinessIdentifier (value field : String) : Except String Unit :=
  require (matchesRe identifierRe value = true) ("invalid business audit " ++ field)

def requireBusinessEventId (id : Uuid) : Except String Unit :=
  require (id.isV4 = true) "business audit event ID must be UUIDv4"

def requireBusinessAction (value : String) : Except String Unit :=
  require (value.toList.length ≤ 120 ∧ matchesRe actionPattern value = true)
    "invalid business audit action"

/-- `action.split(".", 1)[0]`, and `split_part(action, '.', 1)` -/
def firstPart (action : String) : String := String.ofList (action.toList.takeWhile (· != '.'))

/-! ## the catalog -/

structure BusinessAuditActor where
  actorType : BusinessAuditActorType
  id : Option String
deriving DecidableEq, Repr

def BusinessAuditActor.postInit (actor : BusinessAuditActor) : Except String Unit :=
  if actor.actorType = .system then
    require (actor.id = none) "system business audit actor must not have an ID"
  else
    match actor.id with
    | none => .error "non-system business audit actor requires an ID"
    | some id => requireBusinessIdentifier id "actor ID"

/-- an actor that exists -/
structure CheckedActor extends BusinessAuditActor where
  valid : toBusinessAuditActor.postInit = .ok ()

structure BusinessAuditActionSpec where
  domain : String
  action : String
  resourceType : String
  allowedOutcomes : List BusinessAuditOutcome
  reasonCodes : List String
  actorTypes : List BusinessAuditActorType
  beforeFields : List String
  afterFields : List String
  contextFields : List String
  schemaVersion : Int
deriving DecidableEq, Repr

section
variable (casefold : String → String) (alnum : Char → Bool)

def BusinessAuditActionSpec.postInit (spec : BusinessAuditActionSpec) : Except String Unit := do
  requireBusinessMachineName spec.domain "domain"
  requireBusinessAction spec.action
  require (firstPart spec.action = spec.domain) "business audit action must start with its domain"
  requireBusinessMachineName spec.resourceType "resource type"
  require (spec.allowedOutcomes ≠ []) "business audit action requires an allowed outcome"
  require (spec.reasonCodes ≠ []) "business audit action requires a reason code"
  require (spec.actorTypes ≠ []) "business audit action requires an actor type"
  checkAll validateAuditReason spec.reasonCodes
  require (1 ≤ spec.schemaVersion) "business audit schema version must be a positive integer"
  checkAll (fun field => do
      let _ ← sanitizeBusiness casefold alnum maxContextBytes (.mapping [(.str field, .none)])
      return ())
    (spec.beforeFields ++ spec.afterFields ++ spec.contextFields)

/-- an entry that exists -/
structure CheckedSpec extends BusinessAuditActionSpec where
  valid : toBusinessAuditActionSpec.postInit casefold alnum = .ok ()

structure BusinessAuditWriter where
  actionSpecs : List (String × CheckedSpec casefold alnum)
  filled : actionSpecs ≠ []
  keyed : ∀ entry ∈ actionSpecs, entry.1 = entry.2.action

variable {casefold alnum}

def BusinessAuditWriter.init (actionSpecs : List (String × CheckedSpec casefold alnum)) :
    Except String (BusinessAuditWriter casefold alnum) :=
  if hfilled : actionSpecs = [] then .error "business audit action catalog cannot be empty"
  else if hkeyed : ∀ entry ∈ actionSpecs, entry.1 = entry.2.action then
    .ok ⟨actionSpecs, hfilled, hkeyed⟩
  else .error "business audit catalog key must match its action"

/-- `self._action_specs.get(action)` -/
def BusinessAuditWriter.get? (writer : BusinessAuditWriter casefold alnum) (action : String) :
    Option (CheckedSpec casefold alnum) :=
  (writer.actionSpecs.find? fun entry => entry.1 == action).map Prod.snd

end

/-! ## an event -/

/-- the items of a mapping -/
abbrev Payload := List (PyKey × PyValue)

structure BusinessAuditFacts where
  eventId : Uuid
  action : String
  actor : CheckedActor
  resourceId : String
  reasonCode : String
  source : AuditSource
  requestId : String
  beforeState : Option Payload
  afterState : Option Payload
  context : Option Payload

/-- the columns; `created_at` is the server's -/
structure BusinessAuditEvent where
  id : Uuid
  domain : String
  action : String
  outcome : String
  reasonCode : String
  actorType : String
  actorId : Option String
  resourceType : String
  resourceId : String
  source : String
  schemaVersion : Int
  beforeState : Option JsonValue
  afterState : Option JsonValue
  context : JsonValue
  requestId : String

section
variable (casefold : String → String) (alnum : Char → Bool)

def safePayload (state : Option Payload) (allowedFields : List String) (maxBytes : Int) :
    Except String (Option JsonValue) :=
  match state with
  | none => .ok none
  | some items => do
    require (∀ key ∈ items.map Prod.fst, key ∈ allowedFields.map PyKey.str)
      "business audit payload contains a non-allowlisted field"
    let sanitized ← sanitizeBusiness casefold alnum maxBytes (.mapping items)
    return some sanitized

/-- `BusinessAuditOutcome(value)` and its like, for the values of an enumeration -/
def requireMember (members : List String) (className value : String) : Except String Unit :=
  require (value ∈ members) ("'" ++ value ++ "' is not a valid " ++ className)

def outcomes : List String := ["succeeded", "failed", "denied"]
def actorTypes : List String := ["user", "service", "system", "job", "operator"]
def sources : List String := ["http", "service", "job", "operator", "migration"]

/-- `validate_state` -/
def validatePayload (maxBytes : Int) : Option JsonValue → Except String (Option JsonValue)
  | none => .ok none
  | some state => do
    let sanitized ← sanitizeBusiness casefold alnum maxBytes (embed state)
    return some sanitized

/-- the constructor of the row: the validators of the columns, in the order of its arguments -/
def BusinessAuditEvent.construct (event : BusinessAuditEvent) : Except String BusinessAuditEvent := do
  requireBusinessEventId event.id
  requireBusinessMachineName event.domain "domain"
  requireBusinessAction event.action
  requireMember outcomes "BusinessAuditOutcome" event.outcome
  validateAuditReason event.reasonCode
  requireMember actorTypes "BusinessAuditActorType" event.actorType
  checkAll (fun id => requireBusinessIdentifier id "actor ID") event.actorId.toList
  requireBusinessMachineName event.resourceType "resource type"
  requireBusinessIdentifier event.resourceId "resource ID"
  requireMember sources "AuditSource" event.source
  require (1 ≤ event.schemaVersion) "business audit schema version must be a positive integer"
  let beforeState ← validatePayload casefold alnum maxBusinessStateBytes event.beforeState
  let afterState ← validatePayload casefold alnum maxBusinessStateBytes event.afterState
  let context ← sanitizeBusiness casefold alnum maxContextBytes (embed event.context)
  validateAuditRequestId event.requestId
  return { event with
    beforeState := beforeState
    afterState := afterState
    context := context }

variable {casefold alnum}

/-- `build_event` up to the constructor: its arguments -/
def BusinessAuditWriter.describe (writer : BusinessAuditWriter casefold alnum)
    (facts : BusinessAuditFacts) (outcome : BusinessAuditOutcome) :
    Except String BusinessAuditEvent := do
  let spec ← orRaise (writer.get? facts.action) "business audit action is not registered"
  require (outcome ∈ spec.allowedOutcomes) "business audit outcome is not allowed for this action"
  require (facts.reasonCode ∈ spec.reasonCodes)
    "business audit reason is not registered for this action"
  require (facts.actor.actorType ∈ spec.actorTypes)
    "business audit actor type is not allowed for this action"
  require (outcome = .succeeded ∨ facts.afterState = none)
    "denied and failed events cannot claim an after state"
  requireBusinessEventId facts.eventId
  requireBusinessIdentifier facts.resourceId "resource ID"
  validateAuditRequestId facts.requestId
  let beforeState ← safePayload casefold alnum facts.beforeState spec.beforeFields
    maxBusinessStateBytes
  let afterState ← safePayload casefold alnum facts.afterState spec.afterFields maxBusinessStateBytes
  let context ← safePayload casefold alnum (some (facts.context.getD [])) spec.contextFields
    maxContextBytes
  let context ← orRaise context "assert context is not None"
  return { id := facts.eventId
           domain := spec.domain
           action := spec.action
           outcome := outcome.value
           reasonCode := facts.reasonCode
           actorType := facts.actor.actorType.value
           actorId := facts.actor.id
           resourceType := spec.resourceType
           resourceId := facts.resourceId
           source := sourceValue facts.source
           schemaVersion := spec.schemaVersion
           beforeState := beforeState
           afterState := afterState
           context := context
           requestId := facts.requestId }

def BusinessAuditWriter.buildEvent (writer : BusinessAuditWriter casefold alnum)
    (facts : BusinessAuditFacts) (outcome : BusinessAuditOutcome) :
    Except String BusinessAuditEvent := do
  let event ← writer.describe facts outcome
  event.construct casefold alnum

end

/-! ## the table -/

/-- how PostgreSQL keeps a `jsonb` value: with its fields in an order of its own -/
structure Jsonb where
  store : JsonValue → JsonValue
  reordered : ∀ j, JsonValue.Reordered j (store j)

def BusinessAuditEvent.states (event : BusinessAuditEvent) : List JsonValue :=
  event.beforeState.toList ++ event.afterState.toList ++ [event.context]

/-- the columns of type `varchar`, with their lengths -/
def BusinessAuditEvent.columns (event : BusinessAuditEvent) : List (Nat × String) :=
  [(64, event.domain), (120, event.action), (16, event.outcome), (80, event.reasonCode),
    (16, event.actorType), (64, event.resourceType), (128, event.resourceId), (16, event.source),
    (128, event.requestId)] ++ event.actorId.toList.map fun id => (128, id)

def isObject : JsonValue → Bool
  | .object _ => true
  | .null => false
  | .bool _ => false
  | .int _ => false
  | .float _ => false
  | .str _ => false
  | .array _ => false

private def hexCharacter (c : Char) : Bool := c.isDigit || decide ('a' ≤ c ∧ c ≤ 'f')

/-- the pattern of `ck_business_audit_id_uuid4` -/
def uuid4Re : Pattern :=
  let hex (n : Nat) := List.replicate n hexCharacter
  chain ((hex 8 ++ (· == '-') :: hex 4 ++ (· == '-') :: (· == '4') :: hex 3 ++
    (· == '-') :: ['8', '9', 'a', 'b'].contains :: hex 3 ++ (· == '-') :: hex 12).map set)

/-- the pattern of `ck_business_audit_reason_format` -/
def storedReasonRe : Pattern := seq (set Char.isLower) (between (set nameCharacter) 1 78)

example : matchesRe storedReasonRe "ok" = true := by decide +kernel
example : matchesRe storedReasonRe "o" = false := by decide +kernel

/-- the pattern of `ck_business_audit_request_id_format` -/
def storedRequestIdRe : Pattern :=
  seq (set Char.isAlphanum)
    (between (set fun c => c.isAlphanum || [':', '.', '_', '-'].contains c) 0 127)

/-- the constraints on a stored row but for its size -/
def shapeChecks : List (String × (BusinessAuditEvent → Bool)) :=
  [("ck_business_audit_id_uuid4", fun row => matchesRe uuid4Re row.id.text),
    ("ck_business_audit_domain_format", fun row => matchesRe domainRe row.domain),
    ("ck_business_audit_action_format", fun row =>
      matchesRe actionPattern row.action && decide (row.action.toList.length ≤ 120)),
    ("ck_business_audit_action_domain", fun row => firstPart row.action == row.domain),
    ("ck_business_audit_outcome", fun row => outcomes.contains row.outcome),
    ("ck_business_audit_reason_format", fun row => matchesRe storedReasonRe row.reasonCode),
    ("ck_business_audit_actor_type", fun row => actorTypes.contains row.actorType),
    ("ck_business_audit_actor_presence", fun row =>
      (row.actorType == "system" && row.actorId.isNone) ||
        (row.actorType != "system" && row.actorId.isSome)),
    ("ck_business_audit_actor_id_format", fun row => row.actorId.all (matchesRe identifierRe)),
    ("ck_business_audit_resource_type_format", fun row => matchesRe domainRe row.resourceType),
    ("ck_business_audit_resource_id_format", fun row => matchesRe identifierRe row.resourceId),
    ("ck_business_audit_source", fun row => sources.contains row.source),
    ("ck_business_audit_schema_version", fun row => decide (0 < row.schemaVersion)),
    ("ck_business_audit_before_object", fun row => row.beforeState.all isObject),
    ("ck_business_audit_after_object", fun row => row.afterState.all isObject),
    ("ck_business_audit_context_object", fun row => isObject row.context),
    ("ck_business_audit_non_success_after", fun row =>
      row.outcome == "succeeded" || row.afterState.isNone),
    ("ck_business_audit_request_id_format", fun row => matchesRe storedRequestIdRe row.requestId)]

def sizeChecks : List (String × (BusinessAuditEvent → Bool)) :=
  [("ck_business_audit_before_size", fun row =>
      row.beforeState.all fun state => decide (jsonbOctets state ≤ 16384)),
    ("ck_business_audit_after_size", fun row =>
      row.afterState.all fun state => decide (jsonbOctets state ≤ 16384)),
    ("ck_business_audit_context_size", fun row => decide (jsonbOctets row.context ≤ 4096))]

/-- why a row is not stored -/
inductive Violation where
  /-- a text with `U+0000` -/
  | untranslatable
  /-- `varchar(n)` -/
  | tooLong
  /-- `smallint` -/
  | outOfRange
  | check (name : String)
  /-- `pk_business_audit_events` -/
  | duplicate
deriving DecidableEq, Repr

def maxSmallint : Int := 32767

section
variable (jsonb : Jsonb)

/-- the row as it is kept -/
def BusinessAuditEvent.stored (event : BusinessAuditEvent) : BusinessAuditEvent :=
  { event with
    beforeState := event.beforeState.map jsonb.store
    afterState := event.afterState.map jsonb.store
    context := jsonb.store event.context }

def violations (rows : List BusinessAuditEvent) (event : BusinessAuditEvent) : List Violation :=
  (if (event.columns.map Prod.snd ++ event.states.flatMap JsonValue.texts).all storableText then []
    else [.untranslatable]) ++
  (if event.columns.all fun column => decide (column.2.toList.length ≤ column.1) then []
    else [.tooLong]) ++
  (if event.schemaVersion ≤ maxSmallint then [] else [.outOfRange]) ++
  (((shapeChecks ++ sizeChecks).filter fun check => !check.2 (event.stored jsonb)).map fun check =>
    .check check.1) ++
  (if event.id ∈ rows.map BusinessAuditEvent.id then [.duplicate] else [])

/-- one `INSERT`; of several violations one is reported -/
def insertEvent (rows : List BusinessAuditEvent) (event : BusinessAuditEvent) :
    Except Violation (List BusinessAuditEvent) :=
  match violations jsonb rows event with
  | [] => .ok (rows ++ [event.stored jsonb])
  | violation :: _ => .error violation

theorem insertEvent_ok {rows rows' : List BusinessAuditEvent} {event : BusinessAuditEvent} :
    insertEvent jsonb rows event = .ok rows' ↔
      (∀ v, v ∉ violations jsonb rows event) ∧ rows' = rows ++ [event.stored jsonb] := by
  unfold insertEvent
  cases hv : violations jsonb rows event with
  | nil => simp [eq_comm]
  | cons violation rest =>
    refine iff_of_false (fun h => nomatch h) fun h => ?_
    exact absurd List.mem_cons_self (h.1 violation)

theorem insertEvent_error {rows : List BusinessAuditEvent} {event : BusinessAuditEvent}
    {v : Violation} (h : insertEvent jsonb rows event = .error v) :
    v ∈ violations jsonb rows event := by
  unfold insertEvent at h
  cases hv : violations jsonb rows event with
  | nil =>
    rw [hv] at h
    cases h
  | cons violation rest =>
    rw [hv] at h
    cases h
    exact List.mem_cons_self

end

/-! ## texts in patterns -/

section
variable {value : String}

theorem headed_length {p q : Char → Bool} {n m : Nat}
    (h : matchesRe (seq (set p) (between (set q) n m)) value = true) :
    value.toList.length ≤ n + m + 1 := by
  obtain ⟨c, t, e, -, -, -, hm⟩ := (fullmatch_between n m).mp h
  rw [e]
  exact Nat.succ_le_succ hm

theorem storableText_of_matches {pattern : Pattern} (h : matchesRe pattern value = true)
    (hnul : pattern.allows '\x00' = false) : storableText value = true := by
  unfold storableText
  rw [Bool.not_eq_true', List.contains_eq_mem, decide_eq_false_iff_not]
  intro hmem
  exact absurd (hnul.symm.trans (fullmatch_allows h _ hmem)) Bool.false_ne_true

theorem validText_ok {least most : Nat} {pattern : Pattern} {message : String}
    (h : validText least most pattern message value = .ok ()) :
    least ≤ value.toList.length ∧ value.toList.length ≤ most ∧ matchesRe pattern value = true :=
  (require_ok _ _ ()).mp h

theorem storedReasonRe_of (h : validateAuditReason value = .ok ()) :
    matchesRe storedReasonRe value = true := by
  obtain ⟨hleast, hmost, hmatch⟩ := validText_ok h
  exact fullmatch_headed hmatch hleast hmost

theorem storedRequestIdRe_of (h : validateAuditRequestId value = .ok ()) :
    matchesRe storedRequestIdRe value = true := by
  obtain ⟨hleast, hmost, hmatch⟩ := validText_ok h
  exact fullmatch_headed hmatch hleast hmost

theorem hexDigits_forall₂ (u : Uuid) (i count : Nat) :
    List.Forall₂ (fun p c => p c = true) (List.replicate count hexCharacter)
      (u.hexDigits i count) := by
  have hhex : ∀ d < 16, hexCharacter (Nat.digitChar d) = true := by decide
  unfold Uuid.hexDigits
  induction count generalizing i with
  | zero => exact .nil
  | succ count ih =>
    rw [List.replicate_succ, List.range'_succ, List.map_cons]
    exact .cons (hhex _ (Nat.mod_lt _ (by decide))) (ih (i + 1))

theorem hexDigits_cons (u : Uuid) (i count : Nat) :
    u.hexDigits i (count + 1) =
      Nat.digitChar ((u.toNat >>> (4 * (31 - i))) % 16) :: u.hexDigits (i + 1) count := by
  unfold Uuid.hexDigits
  rw [List.range'_succ, List.map_cons]

theorem uuid4Re_text {u : Uuid} (h : u.isV4 = true) : matchesRe uuid4Re u.text = true := by
  unfold Uuid.isV4 at h
  rw [Bool.and_eq_true, beq_iff_eq, beq_iff_eq] at h
  have hversion : Nat.digitChar ((u.toNat >>> (4 * (31 - 12))) % 16) = '4' := by
    rw [show 4 * (31 - 12) = 76 from rfl, h.1]
    rfl
  have hvariant : ['8', '9', 'a', 'b'].contains (Nat.digitChar ((u.toNat >>> (4 * (31 - 16))) % 16)) =
      true := by
    have hsmall : ∀ d < 16, d / 4 = 2 → ['8', '9', 'a', 'b'].contains (Nat.digitChar d) = true := by decide
    refine hsmall _ (Nat.mod_lt _ (by decide)) ?_
    have hshift := h.2
    rw [Nat.shiftRight_eq_div_pow] at hshift ⊢
    omega
  have hdigits := hexDigits_forall₂ u
  unfold matchesRe Uuid.text uuid4Re
  rw [String.toList_ofList, fullmatch, fits_chain, hexDigits_cons u 12 3, hexDigits_cons u 16 3, hversion]
  refine List.rel_append (List.rel_append (List.rel_append (List.rel_append (hdigits 0 8) ?_) ?_) ?_) ?_
  · exact .cons rfl (hdigits 8 4)
  · exact .cons rfl (.cons rfl (hdigits 13 3))
  · exact .cons rfl (.cons hvariant (hdigits 17 3))
  · exact .cons rfl (hdigits 20 12)

end

/-! ## a payload that is looked at again -/

section
variable {casefold : String → String} {alnum : Char → Bool} {maxBytes : Int}

theorem hiddenCleanItems_embed {items : List JsonValue}
    (h : ∀ item ∈ items, hiddenClean casefold (embed item) = true) :
    hiddenCleanItems casefold (embed.embedItems items) = true := by
  induction items with
  | nil => rfl
  | cons item rest ih =>
    rw [List.forall_mem_cons] at h
    rw [embed.embedItems, hiddenCleanItems, h.1, ih h.2]
    rfl

theorem hiddenCleanEntries_embed {fields : List (String × JsonValue)}
    (h : ∀ field ∈ fields, hiddenClean casefold (embed field.2) = true) :
    hiddenCleanEntries casefold (embed.embedFields fields) = true := by
  induction fields with
  | nil => rfl
  | cons field rest ih =>
    rw [List.forall_mem_cons] at h
    rw [embed.embedFields, hiddenCleanEntries, h.1, ih h.2, Bool.or_true]
    rfl

theorem hiddenClean_embed (j : JsonValue) : hiddenClean casefold (embed j) = true := by
  induction j using JsonValue.recursion with
  | null => rfl
  | bool b => rfl
  | int n => rfl
  | float f => rfl
  | str s => rfl
  | array items ih =>
    simp only [embed, hiddenClean]
    exact hiddenCleanItems_embed ih
  | object fields ih =>
    simp only [embed, hiddenClean]
    exact hiddenCleanEntries_embed ih

/-- a sanitized payload is clean when the first walk missed nothing -/
theorem clean_iff {state : PyValue} {j : JsonValue}
    (h : sanitizeBusiness casefold alnum maxBytes state = .ok j) :
    Clean casefold j ↔ hiddenClean casefold state = true := by
  obtain ⟨hreject, hstate, -⟩ := sanitizeBusiness_ok.mp h
  rw [← rejectSensitive_hidden state hreject]
  exact auditValue_clean state (sanitizeState_ok.mp hstate).1

/-- the second look finds what the first one missed, and changes nothing -/
theorem sanitize_again {state : PyValue} {j j' : JsonValue}
    (h : sanitizeBusiness casefold alnum maxBytes state = .ok j) :
    sanitizeBusiness casefold alnum maxBytes (embed j) = .ok j' ↔
      j' = j ∧ hiddenClean casefold state = true := by
  obtain ⟨-, hstate, hsize⟩ := sanitizeBusiness_ok.mp h
  have hsame := sanitizeState_embed hstate
  rw [sanitizeBusiness_ok, hsame, ← clean_iff h]
  constructor
  · intro hagain
    obtain ⟨hreject, hj, -⟩ := hagain
    have hall := rejectSensitive_hidden (embed j) hreject
    rw [hiddenClean_embed] at hall
    exact ⟨(Except.ok.inj hj).symm, (auditValue_clean (embed j) (sanitizeState_ok.mp hsame).1).mpr hall⟩
  · intro hclean
    obtain ⟨rfl, hclean⟩ := hclean
    exact ⟨rejectSensitive_embed _ hclean, rfl, hsize⟩

theorem safePayload_some {items : Payload} {allowed : List String} {stored : Option JsonValue} :
    safePayload casefold alnum (some items) allowed maxBytes = .ok stored ↔
      (∀ key ∈ items.map Prod.fst, key ∈ allowed.map PyKey.str) ∧
        ∃ j, stored = some j ∧ sanitizeBusiness casefold alnum maxBytes (.mapping items) = .ok j := by
  simp only [safePayload, bind_ok, require_ok, pure_ok]
  constructor
  · intro h
    obtain ⟨_, hkeys, j, hj, rfl⟩ := h
    exact ⟨hkeys, j, rfl, hj⟩
  · intro h
    obtain ⟨hkeys, j, rfl, hj⟩ := h
    exact ⟨(), hkeys, j, hj, rfl⟩

theorem validatePayload_again {state : Option Payload} {allowed : List String}
    {stored stored' : Option JsonValue}
    (h : safePayload casefold alnum state allowed maxBytes = .ok stored) :
    validatePayload casefold alnum maxBytes stored = .ok stored' ↔
      stored' = stored ∧ ∀ items ∈ state, hiddenClean casefold (.mapping items) = true := by
  cases state with
  | none =>
    cases h
    simp only [validatePayload, Except.ok.injEq]
    exact ⟨fun e => ⟨e.symm, fun items hitems => nomatch hitems⟩, fun e => e.1.symm⟩
  | some items =>
    obtain ⟨-, j, rfl, hj⟩ := safePayload_some.mp h
    simp only [validatePayload, bind_ok, pure_ok]
    constructor
    · intro hagain
      obtain ⟨j', hj', rfl⟩ := hagain
      obtain ⟨rfl, hclean⟩ := (sanitize_again hj).mp hj'
      exact ⟨rfl, fun items' hitems => Option.some.inj hitems ▸ hclean⟩
    · intro hclean
      exact ⟨j, (sanitize_again hj).mpr ⟨rfl, hclean.2 items rfl⟩, hclean.1.symm⟩

theorem auditEntries_keys {items : List (PyKey × PyValue)} (depth : Nat) :
    ∀ {result fields : List (String × JsonValue)},
      auditEntries casefold alnum depth result items = .ok fields →
      ∀ key ∈ fields.map Prod.fst,
        key ∈ result.map Prod.fst ∨ PyKey.str key ∈ items.map Prod.fst := by
  induction items with
  | nil =>
    intro result fields h key hkey
    cases h
    exact .inl hkey
  | cons item rest ih =>
    obtain ⟨key, item⟩ := item
    intro result fields h
    cases key with
    | other => cases h
    | str key =>
      simp only [auditEntries, bind_ok] at h
      obtain ⟨_, -, value, -, hrest⟩ := h
      intro key' hkey'
      rcases ih hrest key' hkey' with hold | hnew
      · rw [keys_setKey] at hold
        split at hold
        · exact .inl hold
        · rcases List.mem_append.mp hold with hold | hkey
          · exact .inl hold
          · rw [List.mem_singleton.mp hkey]
            exact .inr List.mem_cons_self
      · exact .inr (List.mem_cons_of_mem _ hnew)

end

/-! ## a described event -/

def fieldNames : JsonValue → List String
  | .object fields => fields.map Prod.fst
  | .null => []
  | .bool _ => []
  | .int _ => []
  | .float _ => []
  | .str _ => []
  | .array _ => []

section
variable {casefold : String → String} {alnum : Char → Bool}

/-- what the event of a call says: the entry of its action, and the facts -/
structure Described (spec : CheckedSpec casefold alnum) (facts : BusinessAuditFacts)
    (outcome : BusinessAuditOutcome) (event : BusinessAuditEvent) : Prop where
  domain : event.domain = spec.domain
  action : event.action = spec.action
  resourceType : event.resourceType = spec.resourceType
  schemaVersion : event.schemaVersion = spec.schemaVersion
  allowedOutcome : outcome ∈ spec.allowedOutcomes
  unclaimed : outcome = .succeeded ∨ facts.afterState = none
  reasonCode : event.reasonCode = facts.reasonCode
  knownReason : facts.reasonCode ∈ spec.reasonCodes
  actorType : event.actorType = facts.actor.actorType.value
  allowedActor : facts.actor.actorType ∈ spec.actorTypes
  actorId : event.actorId = facts.actor.id
  id : event.id = facts.eventId
  version : facts.eventId.isV4 = true
  resourceId : event.resourceId = facts.resourceId
  identifier : requireBusinessIdentifier facts.resourceId "resource ID" = .ok ()
  source : event.source = sourceValue facts.source
  requestId : event.requestId = facts.requestId
  request : validateAuditRequestId facts.requestId = .ok ()
  result : event.outcome = outcome.value
  beforeState : safePayload casefold alnum facts.beforeState spec.beforeFields
    maxBusinessStateBytes = .ok event.beforeState
  afterState : safePayload casefold alnum facts.afterState spec.afterFields
    maxBusinessStateBytes = .ok event.afterState
  context : safePayload casefold alnum (some (facts.context.getD [])) spec.contextFields
    maxContextBytes = .ok (some event.context)

variable {writer : BusinessAuditWriter casefold alnum} {facts : BusinessAuditFacts}
variable {outcome : BusinessAuditOutcome} {event event' : BusinessAuditEvent}
variable {spec : CheckedSpec casefold alnum}

theorem describe_ok (h : writer.describe facts outcome = .ok event) :
    ∃ spec, writer.get? facts.action = some spec ∧ Described spec facts outcome event := by
  simp only [BusinessAuditWriter.describe, bind_ok, orRaise_ok, require_ok, pure_ok] at h
  obtain ⟨spec, hspec, _, houtcome, _, hreason, _, hactor, _, hafter, _, hid, _, hresource, _,
    hrequest, before, hbefore, after, hafterState, context, hcontext, context', rfl, rfl⟩ := h
  exact ⟨spec, hspec, { domain := rfl
                        action := rfl
                        resourceType := rfl
                        schemaVersion := rfl
                        result := rfl
                        allowedOutcome := houtcome
                        reasonCode := rfl
                        knownReason := hreason
                        actorType := rfl
                        allowedActor := hactor
                        actorId := rfl
                        id := rfl
                        version := (require_ok _ _ ()).mp hid
                        resourceId := rfl
                        identifier := hresource
                        source := rfl
                        requestId := rfl
                        request := hrequest
                        unclaimed := hafter
                        beforeState := hbefore
                        afterState := hafterState
                        context := hcontext }⟩

/-- what the checks of a catalog entry say -/
structure SpecChecked (spec : BusinessAuditActionSpec) : Prop where
  domain : matchesRe domainRe spec.domain = true
  short : spec.action.toList.length ≤ 120
  action : matchesRe actionPattern spec.action = true
  first : firstPart spec.action = spec.domain
  resourceType : matchesRe domainRe spec.resourceType = true
  reasonCodes : ∀ reason ∈ spec.reasonCodes, validateAuditReason reason = .ok ()
  schemaVersion : 1 ≤ spec.schemaVersion

theorem CheckedSpec.checked (spec : CheckedSpec casefold alnum) :
    SpecChecked spec.toBusinessAuditActionSpec := by
  have h := spec.valid
  simp only [BusinessAuditActionSpec.postInit, requireBusinessMachineName, requireBusinessAction,
    bind_ok, require_ok, checkAll_ok] at h
  obtain ⟨_, hdomain, _, haction, _, hfirst, _, hresource, _, -, _, -, _, -, _, hreasons, _, hversion,
    -⟩ := h
  exact ⟨hdomain, haction.1, haction.2, hfirst, hresource, hreasons, hversion⟩

theorem CheckedActor.presence (actor : CheckedActor) :
    (actor.actorType = .system ∧ actor.id = none) ∨
      (actor.actorType ≠ .system ∧ ∃ id, actor.id = some id ∧ matchesRe identifierRe id = true) := by
  have h := actor.valid
  unfold BusinessAuditActor.postInit at h
  by_cases hsystem : actor.actorType = .system
  · rw [if_pos hsystem, require_ok] at h
    exact .inl ⟨hsystem, h⟩
  · rw [if_neg hsystem] at h
    cases hid : actor.id with
    | none =>
      rw [hid] at h
      cases h
    | some id =>
      rw [hid] at h
      exact .inr ⟨hsystem, id, rfl, (require_ok _ _ ()).mp h⟩

theorem CheckedActor.identifier (actor : CheckedActor) :
    ∀ id ∈ actor.id, matchesRe identifierRe id = true := by
  intro id hid
  rcases actor.presence with h | h
  · rw [h.2] at hid
    cases hid
  · obtain ⟨-, id', hid', hmatches⟩ := h
    rw [hid'] at hid
    exact Option.some.inj hid ▸ hmatches

def BusinessAuditFacts.payloads (facts : BusinessAuditFacts) : List Payload :=
  facts.beforeState.toList ++ facts.afterState.toList ++ facts.context.toList

/-- nothing is hidden from the walk over the payloads -/
def Open (casefold : String → String) (facts : BusinessAuditFacts) : Prop :=
  ∀ items ∈ facts.payloads, hiddenClean casefold (.mapping items) = true

theorem open_iff : Open casefold facts ↔
    (∀ items ∈ facts.beforeState, hiddenClean casefold (.mapping items) = true) ∧
      (∀ items ∈ facts.afterState, hiddenClean casefold (.mapping items) = true) ∧
      hiddenClean casefold (.mapping (facts.context.getD [])) = true := by
  have hcontext : (∀ items ∈ facts.context.toList, hiddenClean casefold (.mapping items) = true) ↔
      hiddenClean casefold (.mapping (facts.context.getD [])) = true := by
    cases facts.context with
    | none => exact iff_of_true (fun items hitems => absurd hitems List.not_mem_nil) rfl
    | some items => exact List.forall_mem_singleton
  unfold Open BusinessAuditFacts.payloads
  simp only [List.forall_mem_append, Option.mem_toList] at hcontext ⊢
  rw [← hcontext, and_assoc]
  exact Iff.rfl

/-- **the constructor refuses a described event exactly when something is hidden in its payloads**,
and otherwise keeps it as it is -/
theorem construct_described (hd : Described spec facts outcome event) :
    event.construct casefold alnum = .ok event' ↔ event' = event ∧ Open casefold facts := by
  have hspec := spec.checked
  have houtcome : event.outcome ∈ outcomes := by
    rw [hd.result]
    cases outcome <;> decide
  have hactor : event.actorType ∈ actorTypes := by
    rw [hd.actorType]
    cases facts.actor.actorType <;> decide
  have hsource : event.source ∈ sources := by
    rw [hd.source]
    cases facts.source <;> decide
  have hreason := hspec.reasonCodes _ hd.knownReason
  obtain ⟨-, context, hsome, hcontext⟩ := safePayload_some.mp hd.context
  obtain rfl := Option.some.inj hsome
  rw [open_iff]
  simp only [BusinessAuditEvent.construct, bind_ok, pure_ok, requireBusinessEventId,
    requireBusinessMachineName, requireBusinessAction, requireMember, require_ok, checkAll_ok,
    validatePayload_again hd.beforeState, validatePayload_again hd.afterState]
  constructor
  · intro h
    obtain ⟨_, -, _, -, _, -, _, -, _, -, _, -, _, -, _, -, _, -, _, -, _, -, before, hbefore, after,
      hafter, context, hagain, _, -, rfl⟩ := h
    obtain ⟨rfl, hbefore⟩ := hbefore
    obtain ⟨rfl, hafter⟩ := hafter
    obtain ⟨rfl, hcontext⟩ := (sanitize_again hcontext).mp hagain
    exact ⟨rfl, hbefore, hafter, hcontext⟩
  · intro h
    obtain ⟨rfl, hbefore, hafter, hclean⟩ := h
    refine ⟨(), ?_, (), ?_, (), ?_, (), houtcome, (), ?_, (), hactor, (), ?_, (), ?_, (), ?_, (),
      hsource, (), ?_, _, ⟨rfl, hbefore⟩, _, ⟨rfl, hafter⟩, _, (sanitize_again hcontext).mpr
      ⟨rfl, hclean⟩, (), ?_, rfl⟩
    · rw [hd.id]
      exact hd.version
    · rw [hd.domain]
      exact hspec.domain
    · rw [hd.action]
      exact ⟨hspec.short, hspec.action⟩
    · rw [hd.reasonCode]
      exact hreason
    · intro id hid
      rw [hd.actorId, Option.mem_toList] at hid
      exact (require_ok _ _ ()).mpr (facts.actor.identifier id hid)
    · rw [hd.resourceType]
      exact hspec.resourceType
    · rw [hd.resourceId]
      exact hd.identifier
    · rw [hd.schemaVersion]
      exact hspec.schemaVersion
    · rw [hd.requestId]
      exact hd.request

theorem buildEvent_ok (h : writer.buildEvent facts outcome = .ok event) :
    (∃ spec, writer.get? facts.action = some spec ∧ Described spec facts outcome event) ∧
      Open casefold facts := by
  simp only [BusinessAuditWriter.buildEvent, bind_ok] at h
  obtain ⟨described, hdescribe, hconstruct⟩ := h
  obtain ⟨spec, hspec, hd⟩ := describe_ok hdescribe
  obtain ⟨rfl, hopen⟩ := (construct_described hd).mp hconstruct
  exact ⟨⟨spec, hspec, hd⟩, hopen⟩

/-! ## what the table says to it -/

theorem isObject_reordered {a b : JsonValue} (h : JsonValue.Reordered a b) :
    isObject a = isObject b := by
  induction h with
  | refl j => rfl
  | trans _ _ iha ihb => exact iha.trans ihb
  | fields hperm => rfl
  | item h ih => rfl
  | field h ih => rfl

theorem state_of_safePayload {state : Option Payload} {allowed : List String} {maxBytes : Int}
    {stored : Option JsonValue} {j : JsonValue}
    (h : safePayload casefold alnum state allowed maxBytes = .ok stored) (hj : stored = some j)
    (hopen : ∀ items ∈ state, hiddenClean casefold (.mapping items) = true) :
    isObject j = true ∧ (∀ field ∈ fieldNames j, field ∈ allowed) ∧ Clean casefold j ∧
      Admissible casefold alnum 0 j := by
  cases state with
  | none =>
    cases h
    cases hj
  | some items =>
    obtain ⟨hkeys, j', hstored, hs⟩ := safePayload_some.mp h
    obtain rfl : j = j' := Option.some.inj (hj.symm.trans hstored)
    obtain ⟨-, hstate, -⟩ := sanitizeBusiness_ok.mp hs
    obtain ⟨hvalue, ⟨fields, rfl⟩, -⟩ := sanitizeState_ok.mp hstate
    refine ⟨rfl, ?_, (clean_iff hs).mpr (hopen items rfl), auditValue_admissible _ hvalue⟩
    intro field hfield
    simp only [auditValue, bind_ok, require_ok, pure_ok, JsonValue.object.injEq] at hvalue
    obtain ⟨_, -, _, -, result, hentries, rfl⟩ := hvalue
    rcases auditEntries_keys _ hentries field hfield with hnone | hkey
    · cases hnone
    · obtain ⟨field', hallowed, e⟩ := List.mem_map.mp (hkeys _ hkey)
      exact PyKey.str.inj e ▸ hallowed

/-- the octets that `sanitize_business_payload` counts -/
def measured (state : JsonValue) : Int :=
  JsonValue.octets (state.text (JsonValue.spaced Flonum.repr))

/-- a payload that the server writes with more octets than were counted, and too many -/
def Outgrown (items : Payload) (state : JsonValue) (limit : Int) : Prop :=
  limit < measured state + growth (.mapping items)

/-- what is left for the table to object to -/
inductive Objection (facts : BusinessAuditFacts) (event : BusinessAuditEvent)
    (rows : List BusinessAuditEvent) : Violation → Prop
  | untranslatable {state : JsonValue} {text : String} : state ∈ event.states → text ∈ state.texts →
      storableText text = false → Objection facts event rows .untranslatable
  | outOfRange : maxSmallint < event.schemaVersion → Objection facts event rows .outOfRange
  | duplicate : facts.eventId ∈ rows.map BusinessAuditEvent.id →
      Objection facts event rows .duplicate
  | before {items : Payload} {state : JsonValue} : facts.beforeState = some items →
      event.beforeState = some state → Outgrown items state maxBusinessStateBytes →
      Objection facts event rows (.check "ck_business_audit_before_size")
  | after {items : Payload} {state : JsonValue} : facts.afterState = some items →
      event.afterState = some state → Outgrown items state maxBusinessStateBytes →
      Objection facts event rows (.check "ck_business_audit_after_size")
  | context : Outgrown (facts.context.getD []) event.context maxContextBytes →
      Objection facts event rows (.check "ck_business_audit_context_size")

section
variable {jsonb : Jsonb} {rows : List BusinessAuditEvent}

theorem Described.columns_storable (hd : Described spec facts outcome event) :
    ∀ column ∈ event.columns, storableText column.2 = true ∧ column.2.toList.length ≤ column.1 := by
  have hspec := spec.checked
  have hreason := validText_ok (hspec.reasonCodes _ hd.knownReason)
  have hrequest := validText_ok hd.request
  have hresource := (require_ok _ _ ()).mp hd.identifier
  have hid : ∀ id ∈ facts.actor.id, storableText id = true ∧ id.toList.length ≤ 128 := by
    intro id hid
    have h := facts.actor.identifier id hid
    exact ⟨storableText_of_matches h (by decide +kernel), headed_length h⟩
  unfold BusinessAuditEvent.columns
  rw [hd.domain, hd.action, hd.result, hd.reasonCode, hd.actorType, hd.resourceType, hd.resourceId,
    hd.source, hd.requestId, hd.actorId, List.forall_mem_append]
  refine ⟨?_, ?_⟩
  · simp only [List.forall_mem_cons]
    refine ⟨⟨storableText_of_matches hspec.domain (by decide +kernel), headed_length hspec.domain⟩,
      ⟨storableText_of_matches hspec.action (by decide +kernel), hspec.short⟩, ?_,
      ⟨storableText_of_matches hreason.2.2 (by decide +kernel), hreason.2.1⟩, ?_,
      ⟨storableText_of_matches hspec.resourceType (by decide +kernel), headed_length hspec.resourceType⟩,
      ⟨storableText_of_matches hresource (by decide +kernel), headed_length hresource⟩, ?_,
      ⟨storableText_of_matches hrequest.2.2 (by decide +kernel), hrequest.2.1⟩,
      fun column hcolumn => absurd hcolumn List.not_mem_nil⟩
    · cases outcome <;> decide
    · cases facts.actor.actorType <;> decide
    · cases facts.source <;> decide
  · intro column hcolumn
    obtain ⟨id, hmem, rfl⟩ := List.mem_map.mp hcolumn
    exact hid id (Option.mem_toList.mp hmem)

theorem Described.shape (hd : Described spec facts outcome event) (hopen : Open casefold facts) :
    ∀ check ∈ shapeChecks, check.2 (event.stored jsonb) = true := by
  have hspec := spec.checked
  have hopened := open_iff.mp hopen
  have hresource := (require_ok _ _ ()).mp hd.identifier
  have hbefore : event.beforeState.all (fun state => isObject (jsonb.store state)) = true := by
    cases hstate : event.beforeState with
    | none => rfl
    | some state =>
      exact (isObject_reordered (jsonb.reordered state)).symm.trans
        (state_of_safePayload hd.beforeState hstate hopened.1).1
  have hafter : event.afterState.all (fun state => isObject (jsonb.store state)) = true := by
    cases hstate : event.afterState with
    | none => rfl
    | some state =>
      exact (isObject_reordered (jsonb.reordered state)).symm.trans
        (state_of_safePayload hd.afterState hstate hopened.2.1).1
  have hcontext : isObject (jsonb.store event.context) = true :=
    (isObject_reordered (jsonb.reordered event.context)).symm.trans
      (state_of_safePayload hd.context rfl fun items hitems =>
        Option.some.inj hitems ▸ hopened.2.2).1
  have hafterless : (event.outcome == "succeeded" || event.afterState.isNone) = true := by
    rcases hd.unclaimed with h | h
    · rw [hd.result, h]
      rfl
    · have hnone := hd.afterState
      rw [h] at hnone
      rw [← Except.ok.inj hnone, Option.isNone_none, Bool.or_true]
  have hpresence : ((event.actorType == "system" && event.actorId.isNone) ||
      (event.actorType != "system" && event.actorId.isSome)) = true := by
    rw [hd.actorType, hd.actorId]
    rcases facts.actor.presence with ⟨htype, hid⟩ | ⟨htype, id, hid, -⟩
    · rw [htype, hid]
      rfl
    · rw [hid]
      cases hsystem : facts.actor.actorType with
      | system => exact absurd hsystem htype
      | user => rfl
      | service => rfl
      | job => rfl
      | operator => rfl
  simp only [shapeChecks, List.forall_mem_cons, BusinessAuditEvent.stored, Option.all_map,
    Option.isNone_map]
  refine ⟨?_, ?_, ?_, ?_, ?_, ?_, ?_, hpresence, ?_, ?_, ?_, ?_, ?_, hbefore, hafter, hcontext,
    hafterless, ?_, fun check hcheck => absurd hcheck List.not_mem_nil⟩
  · rw [hd.id]
    exact uuid4Re_text hd.version
  · rw [hd.domain]
    exact hspec.domain
  · rw [hd.action, hspec.action, decide_eq_true hspec.short]
    rfl
  · rw [hd.action, hd.domain, hspec.first, beq_self_eq_true]
  · rw [hd.result]
    cases outcome <;> decide
  · rw [hd.reasonCode]
    exact storedReasonRe_of (hspec.reasonCodes _ hd.knownReason)
  · rw [hd.actorType]
    cases facts.actor.actorType <;> decide
  · rw [hd.actorId, Option.all_eq_true]
    exact facts.actor.identifier
  · rw [hd.resourceType]
    exact hspec.resourceType
  · rw [hd.resourceId]
    exact hresource
  · rw [hd.source]
    cases facts.source <;> decide
  · rw [hd.schemaVersion]
    exact decide_eq_true (Int.lt_of_lt_of_le Int.zero_lt_one hspec.schemaVersion)
  · rw [hd.requestId]
    exact storedRequestIdRe_of hd.request

theorem oversized_iff {state : Option Payload} {allowed : List String} {maxBytes : Int} {limit : Nat}
    {stored : Option JsonValue} (h : safePayload casefold alnum state allowed maxBytes = .ok stored) :
    ((stored.map jsonb.store).all fun j => decide (jsonbOctets j ≤ limit)) = false ↔
      ∃ items j, state = some items ∧ stored = some j ∧ Outgrown items j limit := by
  cases state with
  | none =>
    cases h
    refine iff_of_false (fun hall => nomatch hall) ?_
    intro hsome
    obtain ⟨items, j, hitems, -⟩ := hsome
    cases hitems
  | some items =>
    obtain ⟨-, j, rfl, hj⟩ := safePayload_some.mp h
    have hoctets : (jsonbOctets (jsonb.store j) : Int) = measured j + growth (.mapping items) :=
      jsonbOctets_eq hj (jsonb.reordered j)
    rw [Option.map_some, Option.all_some, decide_eq_false_iff_not, Nat.not_le]
    unfold Outgrown
    constructor
    · intro hlarge
      exact ⟨items, j, rfl, rfl, by omega⟩
    · intro hsome
      obtain ⟨items', j', hitems, hj', hlarge⟩ := hsome
      obtain rfl := Option.some.inj hitems
      obtain rfl := Option.some.inj hj'
      omega

theorem mem_unless {c : Prop} [Decidable c] {v w : Violation} :
    v ∈ (if c then [] else [w]) ↔ ¬ c ∧ v = w := by
  by_cases h : c
  · rw [if_pos h]
    exact iff_of_false List.not_mem_nil fun hv => hv.1 h
  · rw [if_neg h, List.mem_singleton]
    exact ⟨fun hv => ⟨h, hv⟩, And.right⟩

/-- the sizes of a stored event -/
theorem Described.sizes (hd : Described spec facts outcome event) {name : String} :
    (∃ check ∈ sizeChecks, check.2 (event.stored jsonb) = false ∧ check.1 = name) ↔
      (name = "ck_business_audit_before_size" ∧ ∃ items state, facts.beforeState = some items ∧
        event.beforeState = some state ∧ Outgrown items state maxBusinessStateBytes) ∨
      (name = "ck_business_audit_after_size" ∧ ∃ items state, facts.afterState = some items ∧
        event.afterState = some state ∧ Outgrown items state maxBusinessStateBytes) ∨
      (name = "ck_business_audit_context_size" ∧
        Outgrown (facts.context.getD []) event.context maxContextBytes) := by
  have hbefore : ((event.beforeState.map jsonb.store).all fun j => decide (jsonbOctets j ≤ 16384)) =
      false ↔ ∃ items state, facts.beforeState = some items ∧ event.beforeState = some state ∧
        Outgrown items state maxBusinessStateBytes := oversized_iff hd.beforeState
  have hafter : ((event.afterState.map jsonb.store).all fun j => decide (jsonbOctets j ≤ 16384)) =
      false ↔ ∃ items state, facts.afterState = some items ∧ event.afterState = some state ∧
        Outgrown items state maxBusinessStateBytes := oversized_iff hd.afterState
  have hcontext : decide (jsonbOctets (jsonb.store event.context) ≤ 4096) = false ↔
      Outgrown (facts.context.getD []) event.context maxContextBytes := by
    have h : (((some event.context).map jsonb.store).all fun j => decide (jsonbOctets j ≤ 4096)) =
        false ↔ ∃ items state, some (facts.context.getD []) = some items ∧
          some event.context = some state ∧ Outgrown items state maxContextBytes :=
      oversized_iff hd.context
    rw [Option.map_some, Option.all_some] at h
    rw [h]
    constructor
    · intro hsome
      obtain ⟨items, state, hitems, hstate, hlarge⟩ := hsome
      obtain rfl := Option.some.inj hitems
      obtain rfl := Option.some.inj hstate
      exact hlarge
    · exact fun hlarge => ⟨_, _, rfl, rfl, hlarge⟩
  constructor
  · intro h
    obtain ⟨check, hmem, hfail, rfl⟩ := h
    simp only [sizeChecks, List.mem_cons, List.not_mem_nil, or_false] at hmem
    rcases hmem with rfl | rfl | rfl
    · exact .inl ⟨rfl, hbefore.mp hfail⟩
    · exact .inr (.inl ⟨rfl, hafter.mp hfail⟩)
    · exact .inr (.inr ⟨rfl, hcontext.mp hfail⟩)
  · intro h
    rcases h with ⟨rfl, h⟩ | ⟨rfl, h⟩ | ⟨rfl, h⟩
    · exact ⟨_, List.mem_cons_self, hbefore.mpr h, rfl⟩
    · exact ⟨_, List.mem_cons_of_mem _ List.mem_cons_self, hafter.mpr h, rfl⟩
    · exact ⟨_, List.mem_cons_of_mem _ (List.mem_cons_of_mem _ List.mem_cons_self), hcontext.mpr h, rfl⟩

/-- the CHECKs that fail are those of sizes -/
theorem mem_failed_checks (hd : Described spec facts outcome event) (hopen : Open casefold facts)
    {v : Violation} :
    v ∈ (((shapeChecks ++ sizeChecks).filter fun check =>
      !check.2 (event.stored jsonb)).map fun check => Violation.check check.1) ↔
      ∃ name, v = .check name ∧
        ∃ check ∈ sizeChecks, check.2 (event.stored jsonb) = false ∧ check.1 = name := by
  rw [List.mem_map]
  constructor
  · intro h
    obtain ⟨check, hmem, rfl⟩ := h
    obtain ⟨hmem, hfail⟩ := List.mem_filter.mp hmem
    rw [Bool.not_eq_true'] at hfail
    rcases List.mem_append.mp hmem with hshape | hsize
    · exact absurd (hfail.symm.trans (hd.shape hopen check hshape)) Bool.false_ne_true
    · exact ⟨_, rfl, check, hsize, hfail, rfl⟩
  · intro h
    obtain ⟨name, rfl, check, hsize, hfail, rfl⟩ := h
    refine ⟨check, List.mem_filter.mpr ⟨List.mem_append_right _ hsize, ?_⟩, rfl⟩
    rw [hfail]
    rfl

theorem violations_parts (hd : Described spec facts outcome event) (hopen : Open casefold facts)
    {v : Violation} : v ∈ violations jsonb rows event ↔
      ((¬ ∀ state ∈ event.states, ∀ text ∈ state.texts, storableText text = true) ∧
        v = .untranslatable) ∨ (maxSmallint < event.schemaVersion ∧ v = .outOfRange) ∨
      (∃ name, v = .check name ∧
        ∃ check ∈ sizeChecks, check.2 (event.stored jsonb) = false ∧ check.1 = name) ∨
      (facts.eventId ∈ rows.map BusinessAuditEvent.id ∧ v = .duplicate) := by
  have hcolumns := hd.columns_storable
  have hfits : (event.columns.all fun column => decide (column.2.toList.length ≤ column.1)) = true :=
    List.all_eq_true.mpr fun column hcolumn => decide_eq_true (hcolumns column hcolumn).2
  have htexts : ((event.columns.map Prod.snd ++
      event.states.flatMap JsonValue.texts).all storableText) = true ↔
      ∀ state ∈ event.states, ∀ text ∈ state.texts, storableText text = true := by
    rw [List.all_append, Bool.and_eq_true, List.all_eq_true, List.all_eq_true]
    simp only [List.forall_mem_map, List.forall_mem_flatMap]
    exact and_iff_right fun column hcolumn => (hcolumns column hcolumn).1
  have hduplicate : v ∈ (if event.id ∈ rows.map BusinessAuditEvent.id then [Violation.duplicate]
      else []) ↔ facts.eventId ∈ rows.map BusinessAuditEvent.id ∧ v = .duplicate := by
    rw [hd.id]
    by_cases h : facts.eventId ∈ rows.map BusinessAuditEvent.id
    · rw [if_pos h, List.mem_singleton]
      exact ⟨fun hv => ⟨h, hv⟩, And.right⟩
    · rw [if_neg h]
      exact iff_of_false List.not_mem_nil fun hv => h hv.1
  unfold violations
  rw [List.mem_append, List.mem_append, List.mem_append, List.mem_append,
    mem_failed_checks hd hopen, if_pos hfits, mem_unless, htexts, mem_unless, hduplicate, Int.not_le]
  simp only [List.not_mem_nil, or_false, or_assoc]

theorem mem_violations (hd : Described spec facts outcome event) (hopen : Open casefold facts)
    {v : Violation} : v ∈ violations jsonb rows event ↔ Objection facts event rows v := by
  rw [violations_parts hd hopen]
  constructor
  · intro h
    rcases h with ⟨hnul, rfl⟩ | ⟨hrange, rfl⟩ | ⟨name, rfl, hsize⟩ | ⟨hduplicate, rfl⟩
    · simp only [not_forall, Bool.not_eq_true] at hnul
      obtain ⟨state, hstate, text, htext, hnul⟩ := hnul
      exact .untranslatable hstate htext hnul
    · exact .outOfRange hrange
    · rcases hd.sizes.mp hsize with ⟨rfl, items, state, hitems, hstate, hlarge⟩ |
        ⟨rfl, items, state, hitems, hstate, hlarge⟩ | ⟨rfl, hlarge⟩
      · exact .before hitems hstate hlarge
      · exact .after hitems hstate hlarge
      · exact .context hlarge
    · exact .duplicate hduplicate
  · intro h
    cases h with
    | untranslatable hstate htext hnul =>
      refine .inl ⟨fun hall => ?_, rfl⟩
      exact absurd (hnul.symm.trans (hall _ hstate _ htext)) Bool.false_ne_true
    | outOfRange hrange => exact .inr (.inl ⟨hrange, rfl⟩)
    | duplicate hduplicate => exact .inr (.inr (.inr ⟨hduplicate, rfl⟩))
    | before hitems hstate hlarge =>
      exact .inr (.inr (.inl ⟨_, rfl, hd.sizes.mpr (.inl ⟨rfl, _, _, hitems, hstate, hlarge⟩)⟩))
    | after hitems hstate hlarge =>
      exact .inr (.inr (.inl ⟨_, rfl, hd.sizes.mpr (.inr (.inl ⟨rfl, _, _, hitems, hstate, hlarge⟩))⟩))
    | context hlarge =>
      exact .inr (.inr (.inl ⟨_, rfl, hd.sizes.mpr (.inr (.inr ⟨rfl, hlarge⟩))⟩))

theorem not_outgrown {state : Option Payload} {allowed : List String} {maxBytes : Int}
    {items : Payload} {j : JsonValue} (hitems : state = some items)
    (h : safePayload casefold alnum state allowed maxBytes = .ok (some j))
    (hgrowth : growth (.mapping items) ≤ 0) : ¬ Outgrown items j maxBytes := by
  subst hitems
  obtain ⟨-, j', hj, hs⟩ := safePayload_some.mp h
  obtain rfl := Option.some.inj hj
  have hsize := (sanitizeBusiness_ok.mp hs).2.2
  unfold Outgrown measured
  omega

/-- **What an event is, and when it can be stored.**  An event comes from the entry of its action and
the facts of the call.  Whatever its payloads hide from the walk over them, the payloads of the event
name only allowed fields and hold no address and no secret.  The table objects to a character that
it cannot hold, to a schema version beyond a `smallint`, to an id that it has, and to a payload that
it writes longer than it was measured, which takes numbers that grow; to nothing else.  An event
that it does not object to is stored, and what it reports of another is one of its objections. -/
theorem business_event_stored (h : writer.buildEvent facts outcome = .ok event) :
    (∃ spec, writer.get? facts.action = some spec ∧ Described spec facts outcome event ∧
      (∀ state ∈ event.beforeState, ∀ field ∈ fieldNames state, field ∈ spec.beforeFields) ∧
      (∀ state ∈ event.afterState, ∀ field ∈ fieldNames state, field ∈ spec.afterFields) ∧
      ∀ field ∈ fieldNames event.context, field ∈ spec.contextFields) ∧
    (∀ state ∈ event.states, Clean casefold state ∧ Admissible casefold alnum 0 state) ∧
    (∀ jsonb rows v, v ∈ violations jsonb rows event ↔ Objection facts event rows v) ∧
    (∀ jsonb rows rows', insertEvent jsonb rows event = .ok rows' ↔
      (∀ v, ¬ Objection facts event rows v) ∧ rows' = rows ++ [event.stored jsonb]) ∧
    (∀ jsonb rows v, insertEvent jsonb rows event = .error v → Objection facts event rows v) ∧
    ((∀ items ∈ facts.payloads, growth (.mapping items) ≤ 0) →
      ∀ jsonb rows name, .check name ∉ violations jsonb rows event) := by
  obtain ⟨⟨spec, hspec, hd⟩, hopen⟩ := buildEvent_ok h
  have hopened := open_iff.mp hopen
  have hbefore : ∀ state ∈ event.beforeState, _ := fun state hstate =>
    state_of_safePayload hd.beforeState hstate hopened.1
  have hafter : ∀ state ∈ event.afterState, _ := fun state hstate =>
    state_of_safePayload hd.afterState hstate hopened.2.1
  have hcontext := state_of_safePayload hd.context rfl fun items hitems =>
    Option.some.inj hitems ▸ hopened.2.2
  refine ⟨⟨spec, hspec, hd, fun state hstate => (hbefore state hstate).2.1,
    fun state hstate => (hafter state hstate).2.1, hcontext.2.1⟩, ?_,
    fun jsonb rows v => mem_violations hd hopen, ?_,
    fun jsonb rows v hv => (mem_violations hd hopen).mp (insertEvent_error jsonb hv), ?_⟩
  · intro state hstate
    simp only [BusinessAuditEvent.states, List.mem_append, Option.mem_toList, List.mem_singleton] at hstate
    rcases hstate with (hstate | hstate) | rfl
    · exact (hbefore state hstate).2.2
    · exact (hafter state hstate).2.2
    · exact hcontext.2.2
  · intro jsonb rows rows'
    rw [insertEvent_ok]
    exact and_congr_left fun _ => forall_congr' fun v => not_congr (mem_violations hd hopen)
  · intro hgrowth jsonb rows name hcheck
    simp only [BusinessAuditFacts.payloads, List.forall_mem_append, Option.mem_toList] at hgrowth
    cases (mem_violations hd hopen).mp hcheck with
    | before hitems hstate hlarge =>
      exact not_outgrown hitems (hstate ▸ hd.beforeState) (hgrowth.1.1 _ hitems) hlarge
    | after hitems hstate hlarge =>
      exact not_outgrown hitems (hstate ▸ hd.afterState) (hgrowth.1.2 _ hitems) hlarge
    | context hlarge =>
      refine not_outgrown rfl hd.context ?_ hlarge
      cases hcontext : facts.context with
      | none => exact Int.le_refl 0
      | some items => exact hgrowth.2 items hcontext

end

end

/-- a catalog with one action, and a call for it -/
def refundSpec : CheckedSpec asciiCasefold fun _ => false where
  domain := "orders"
  action := "orders.refund.approve"
  resourceType := "order"
  allowedOutcomes := [.succeeded, .denied]
  reasonCodes := ["manual_review"]
  actorTypes := [.user]
  beforeFields := ["status"]
  afterFields := ["status", "amount"]
  contextFields := []
  schemaVersion := 1
  valid := by decide +kernel

def refundWriter : BusinessAuditWriter asciiCasefold fun _ => false where
  actionSpecs := [("orders.refund.approve", refundSpec)]
  filled := List.cons_ne_nil _ _
  keyed := by
    intro entry hentry
    rw [List.mem_singleton.mp hentry]
    rfl

def refundFacts : BusinessAuditFacts where
  eventId := 0x11111111111141118111111111111111
  action := "orders.refund.approve"
  actor :=
    { actorType := .user
      id := some "user-7"
      valid := by decide +kernel }
  resourceId := "order-12"
  reasonCode := "manual_review"
  source := .http
  requestId := "request-1"
  beforeState := some [(.str "status", .str "paid")]
  afterState := some [(.str "status", .enum (.str "refunded")), (.str "amount", .int 250)]
  context := none

theorem business_event_stored_refund : ∃ event,
    refundWriter.buildEvent refundFacts .succeeded = .ok event ∧
      (∀ jsonb, insertEvent jsonb [] event = .ok [event.stored jsonb]) ∧
      ∀ jsonb rows name, .check name ∉ violations jsonb rows event := by
  have hbuilt : ((refundWriter.buildEvent refundFacts .succeeded).toOption.any fun event =>
      decide (event.schemaVersion ≤ maxSmallint) &&
        (event.states.flatMap JsonValue.texts).all storableText) = true := by decide +kernel
  obtain ⟨event, h, hrange, htexts⟩ : ∃ event,
      refundWriter.buildEvent refundFacts .succeeded = .ok event ∧
        event.schemaVersion ≤ maxSmallint ∧
        ∀ text ∈ event.states.flatMap JsonValue.texts, storableText text = true := by
    cases hbuild : refundWriter.buildEvent refundFacts .succeeded with
    | ok event =>
      rw [hbuild] at hbuilt
      obtain ⟨hrange, htexts⟩ := (Bool.and_eq_true _ _).mp hbuilt
      exact ⟨event, rfl, of_decide_eq_true hrange, List.all_eq_true.mp htexts⟩
    | error e =>
      rw [hbuild] at hbuilt
      cases hbuilt
  have hstored := business_event_stored h
  have hnumbers : ∀ items ∈ refundFacts.payloads, growth (.mapping items) ≤ 0 := by
    intro items hitems
    simp only [BusinessAuditFacts.payloads, refundFacts, Option.toList_some, Option.toList_none,
      List.mem_append, List.mem_singleton, List.not_mem_nil, or_false] at hitems
    rcases hitems with rfl | rfl
    · decide +kernel
    · decide +kernel
  have hsizes := hstored.2.2.2.2.2 hnumbers
  refine ⟨event, h, fun jsonb => (hstored.2.2.2.1 jsonb [] _).mpr ⟨?_, rfl⟩, hsizes⟩
  intro v hv
  have hmem := (hstored.2.2.1 jsonb [] v).mpr hv
  cases hv with
  | untranslatable hstate htext hnul =>
    exact absurd (hnul.symm.trans (htexts _ (List.mem_flatMap.mpr ⟨_, hstate, htext⟩)))
      Bool.false_ne_true
  | outOfRange hlarge => exact absurd hlarge (Int.not_lt.mpr hrange)
  | duplicate hduplicate => exact absurd hduplicate List.not_mem_nil
  | before hitems hstate hlarge => exact absurd hmem (hsizes jsonb [] _)
  | after hitems hstate hlarge => exact absurd hmem (hsizes jsonb [] _)
  | context hlarge => exact absurd hmem (hsizes jsonb [] _)

end PgRbac.BusinessAudit
