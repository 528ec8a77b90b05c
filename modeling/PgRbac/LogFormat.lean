import PgRbac.Lib.Json
import PgRbac.Lib.ObjectGraph
import PgRbac.Redaction

/-!
# Formatting a log record

`SafeJsonFormatter.format` of `app/core/observability.py`: the extra fields of a record are copied
into a line of JSON, nested values up to a depth and a number of items, and what is stored under a
sensitive name is replaced.

* `safeValue`, `format`        the copy of a value, and the line of a record;
* `hidden`                     the keys whose values count not;
* `safeValue_alike`            alike values have the same copy;
* `format_noninterference`     alike records have the same line.

Objects are references into a heap, so that they may contain each other.  The alphanumeric
characters and the case folding beyond ASCII and the notation of times are parameters.
-/

set_option linter.unusedSectionVars false
set_option linter.unusedVariables false

namespace PgRbac.Logging

open ObjectGraph

/-! ## values -/

/-- what is no dictionary, list or tuple; only the exact types are supported -/
inductive Scalar where
  | none
  | bool (b : Bool)
  | int (n : Int)
  | float (f : Flonum)
  | str (s : String)
  /-- a text whose type is a subclass of `str` -/
  | subclass (s : String)
  | uuid (u : Uuid)
  | datetime (text : String)
  | unsupported
deriving DecidableEq, Repr

inductive Key where
  | str (s : String)
  | subclass (s : String)
  | other
deriving DecidableEq, Repr

/-- the text of a key that is an instance of `str` -/
def Key.text? : Key → Option String
  | .str s => some s
  | .subclass s => some s
  | .other => Option.none

abbrev LogValue := ObjectGraph.Value Scalar

abbrev LogHeap := Heap Key Scalar

/-! ## names -/

def maxStringLength : Nat := 2048
def maxEventNameLength : Nat := 128
def maxFieldNameLength : Nat := 128
def maxCollectionItems : Nat := 100
def maxNestingDepth : Nat := 5

/-- the names that an audit state must not hold either -/
def sensitiveFieldNames : List String := sensitiveKeys

/-- the attributes of a `LogRecord`, with `asctime` and `message` -/
def standardRecordFields : List String :=
  ["name", "msg", "args", "levelname", "levelno", "pathname", "filename", "module", "exc_info",
    "exc_text", "stack_info", "lineno", "funcName", "created", "msecs", "relativeCreated",
    "thread", "threadName", "processName", "process", "taskName", "asctime", "message"]

def basePayloadFields : List String :=
  ["timestamp", "level", "event", "logger", "service", "service_version", "environment",
    "request_id", "message_template", "message_parameters", "_oversized_fields_omitted"]

/-- `^[a-z][a-z0-9_]*(?:\.[a-z][a-z0-9_]*)+$` -/
def eventNameRe : Pattern :=
  let name := Pattern.seq (.set Char.isLower)
    (.star (.set fun c => c.isLower || c.isDigit || c == '_'))
  .seq name (.plus (.seq (.set (· == '.')) name))

section
variable (alnum : Char → Bool) (fold : Char → List Char)

/-- `name.casefold()`, character by character -/
def casefold (name : String) : List Char :=
  name.toList.flatMap fun c => if c.toNat < 128 then [c.toLower] else fold c

def isSensitiveField (name : String) : Bool :=
  let normalized := (casefold fold name).map fun c => if c = '-' then '_' else c
  sensitiveFieldNames.any fun fragment => decide (fragment.toList <:+: normalized)

/-! ## the copy of a value -/

def signedBigint (n : Int) : Bool := decide (-2 ^ 63 ≤ n ∧ n ≤ 2 ^ 63 - 1)

def safeScalar : Scalar → JsonValue
  | .none => .null
  | .bool b => .bool b
  | .int n => if signedBigint n then .int n else .str "[OUT_OF_RANGE]"
  | .float .nan => .str "NaN"
  | .float (.infinity negative) => .str (if negative then "-Infinity" else "Infinity")
  | .float f => .float f
  | .str s => .str (redactText alnum maxStringLength s)
  | .subclass _ => .str "[UNSUPPORTED]"
  | .uuid u => .str u.text
  | .datetime text => .str text
  | .unsupported => .str "[UNSUPPORTED]"

/-- the result of a loop over a dictionary, with what it left out -/
structure Mapping where
  result : List (String × JsonValue)
  omittedKeys : Nat
  oversizedKeys : Nat

def mappingItems (safe : String → LogValue → JsonValue) :
    Nat → List (Key × LogValue) → Mapping → Mapping
  | _, [], m => m
  | index, (key, item) :: rest, m =>
    if maxCollectionItems ≤ index then
      { m with result := setKey m.result "_truncated" (.bool true) }
    else match key with
      | .str name =>
        if maxFieldNameLength < name.length then
          mappingItems safe (index + 1) rest { m with oversizedKeys := m.oversizedKeys + 1 }
        else
          mappingItems safe (index + 1) rest
            { m with result := setKey m.result name (safe name item) }
      | _ => mappingItems safe (index + 1) rest { m with omittedKeys := m.omittedKeys + 1 }

def reported (fields : List (String × JsonValue)) (key : String) (count : Nat) :
    List (String × JsonValue) := if count = 0 then fields else setKey fields key (.int count)

def safeMapping (safe : String → LogValue → JsonValue) (items : List (Key × LogValue)) : JsonValue :=
  let m := mappingItems safe 0 items ⟨[], 0, 0⟩
  .object (reported (reported m.result "_non_string_keys_omitted" m.omittedKeys)
    "_oversized_keys_omitted" m.oversizedKeys)

def safeSequence (safe : LogValue → JsonValue) (items : List LogValue) : JsonValue :=
  .array ((items.take maxCollectionItems).map safe ++
    if maxCollectionItems < items.length then [.str "[TRUNCATED]"] else [])

/-- `_safe_value` with `left` levels below `_MAX_NESTING_DEPTH`, inside the objects `seen` -/
def safeValue (heap : LogHeap) : Nat → List Nat → String → LogValue → JsonValue
  | 0, _, fieldName, _ =>
    if isSensitiveField fold fieldName then .str "[REDACTED]" else .str "[MAX_DEPTH]"
  | left + 1, seen, fieldName, value =>
    if isSensitiveField fold fieldName then .str "[REDACTED]"
    else match value with
      | .scalar s => safeScalar alnum s
      | .ref i =>
        if i ∈ seen then .str "[CYCLE]"
        else match heap i with
          | .dict items => safeMapping (safeValue heap left (i :: seen)) items
          | .list items => safeSequence (safeValue heap left (i :: seen) fieldName) items
          | .tuple items => safeSequence (safeValue heap left (i :: seen) fieldName) items

/-! ## the line of a record -/

/-- what `format` reads of a record: its attributes by name, and all of them in their order; an
exception is given by its metadata -/
structure LogRecord where
  created : Flonum
  levelname : String
  name : String
  msg : LogValue
  args : LogValue
  excInfo : Option (List (String × LogValue))
  dict : List (Key × LogValue)

structure SafeJsonFormatter where
  serviceName : String
  serviceVersion : String
  environment : String
  includeExceptionDetails : Bool

def invalidEvent : String := "logging.invalid_event"

/-- the event of a record; no other message is written -/
def eventOf (record : LogRecord) : Option String :=
  match record.msg with
  | .scalar (.str message) =>
    if message.length ≤ maxEventNameLength ∧
        eventNameRe.fullmatch message.toList = true then some message
    else none
  | _ => none

/-- `type(args) is tuple and len(args) == 0` -/
def emptyArgs (heap : LogHeap) (args : LogValue) : Bool :=
  match args with
  | .ref i =>
    match heap i with
    | .tuple [] => true
    | _ => false
  | .scalar _ => false

def messageFields (heap : LogHeap) (record : LogRecord) : String × List (String × JsonValue) :=
  let parameters := if emptyArgs heap record.args then []
    else [("message_parameters", .str "[OMITTED]")]
  match eventOf record with
  | some message => (message, ("message_template", .str message) :: parameters)
  | none => (invalidEvent, ("message_template", .str "[OMITTED]") :: parameters)

/-- `getattr(record, "request_id", None)`, when it is a text -/
def recordRequestId (record : LogRecord) : Option String :=
  match record.dict.find? fun entry => entry.1.text? == some "request_id" with
  | some (_, .scalar (.str s)) => some s
  | some (_, .scalar (.subclass s)) => some s
  | _ => none

/-- the request id of the context, or of the record, unless it is empty -/
def requestIdOf (current : Option String) (record : LogRecord) : Option String :=
  match current.filter (· ≠ "") with
  | some requestId => some requestId
  | none => (recordRequestId record).filter (· ≠ "")

/-- the loop over the attributes of a record: the payload, and how many names are too long -/
def extraFields (heap : LogHeap) :
    List (Key × LogValue) → List (String × JsonValue) × Nat → List (String × JsonValue) × Nat
  | [], state => state
  | (key, value) :: rest, state =>
    match key.text? with
    | none => extraFields heap rest state
    | some name =>
      if standardRecordFields.contains name || basePayloadFields.contains name then
        extraFields heap rest state
      else if maxFieldNameLength < name.length then extraFields heap rest (state.1, state.2 + 1)
      else
        extraFields heap rest (setKey state.1 name
          (safeValue alnum fold heap (maxNestingDepth + 1) [] name value), state.2)

def exceptionFields (heap : LogHeap) (payload : List (String × JsonValue)) :
    List (String × LogValue) → List (String × JsonValue)
  | [] => payload
  | (name, value) :: rest =>
    if name ∈ payload.map Prod.fst then exceptionFields heap payload rest
    else exceptionFields heap (setKey payload name
      (safeValue alnum fold heap (maxNestingDepth + 1) [] name value)) rest

variable (isoformat : Flonum → String)

def payloadOf (f : SafeJsonFormatter) (current : Option String) (heap : LogHeap)
    (record : LogRecord) : List (String × JsonValue) :=
  let message := messageFields heap record
  let base := [("timestamp", .str (isoformat record.created)), ("level", .str record.levelname),
    ("event", .str message.1), ("logger", .str record.name), ("service", .str f.serviceName),
    ("service_version", .str f.serviceVersion), ("environment", .str f.environment)] ++ message.2
  let withRequest := match requestIdOf current record with
    | some requestId => setKey base "request_id" (.str (redactText alnum 128 requestId))
    | none => base
  let extra := extraFields alnum fold heap record.dict (withRequest, 0)
  let payload := reported extra.1 "_oversized_fields_omitted" extra.2
  match record.excInfo with
  | some metadata =>
    if f.includeExceptionDetails then exceptionFields alnum fold heap payload metadata
    else payload
  | none => payload

/-- `SafeJsonFormatter.format`, for the request id of the context -/
def format (f : SafeJsonFormatter) (current : Option String) (heap : LogHeap) (record : LogRecord) :
    String :=
  String.ofList ((JsonValue.object (payloadOf alnum fold isoformat f current heap record)).text
    JsonValue.compact)

end

/-! ## alike values have the same copy -/

section
variable (fold : Char → List Char)

/-- a value under a text with a sensitive name counts not -/
def hidden (key : Key) : Prop := ∃ name, key.text? = some name ∧ isSensitiveField fold name = true

end

section
variable {alnum : Char → Bool} {fold : Char → List Char} {heap heap' : LogHeap}

theorem safeValue_sensitive {name : String} (h : isSensitiveField fold name = true) (heap : LogHeap)
    (left : Nat) (seen : List Nat) (value : LogValue) :
    safeValue alnum fold heap left seen name value = .str "[REDACTED]" := by
  cases left with
  | zero => exact if_pos h
  | succ left => exact if_pos h

theorem mappingItems_congr {safe safe' : String → LogValue → JsonValue}
    {items items' : List (Key × LogValue)}
    (h : List.Forall₂ (fun entry entry' => entry.1 = entry'.1 ∧
      ∀ name, entry.1 = .str name → safe name entry.2 = safe' name entry'.2) items items')
    (index : Nat) (m : Mapping) :
    mappingItems safe index items m = mappingItems safe' index items' m := by
  induction h generalizing index m with
  | nil => rfl
  | @cons entry entry' rest rest' hentry _ ih =>
    obtain ⟨key, item⟩ := entry
    obtain ⟨key', item'⟩ := entry'
    obtain ⟨rfl, hitem⟩ := hentry
    unfold mappingItems
    by_cases hindex : maxCollectionItems ≤ index
    · rw [if_pos hindex, if_pos hindex]
    · rw [if_neg hindex, if_neg hindex]
      cases key with
      | str name =>
        dsimp only
        rw [ih, ih, hitem name rfl]
      | subclass name => exact ih (index + 1) _
      | other => exact ih (index + 1) _

theorem safeMapping_congr {safe safe' : String → LogValue → JsonValue}
    {items items' : List (Key × LogValue)}
    (h : List.Forall₂ (fun entry entry' => entry.1 = entry'.1 ∧
      ∀ name, entry.1 = .str name → safe name entry.2 = safe' name entry'.2) items items') :
    safeMapping safe items = safeMapping safe' items' := by
  unfold safeMapping
  rw [mappingItems_congr h]

theorem safeSequence_congr {safe safe' : LogValue → JsonValue} {items items' : List LogValue}
    (h : List.Forall₂ (fun item item' => safe item = safe' item') items items') :
    safeSequence safe items = safeSequence safe' items' := by
  have hmap : items.map safe = items'.map safe' := by
    induction h with
    | nil => rfl
    | cons hitem _ ih => rw [List.map_cons, List.map_cons, hitem, ih]
  unfold safeSequence
  rw [List.map_take, List.map_take, hmap, h.length_eq]

theorem mem_above {above : List (Nat × Nat)} {i i' : Nat}
    (h : ∀ pair ∈ above, pair.1 = i ↔ pair.2 = i') :
    i ∈ above.map Prod.fst ↔ i' ∈ above.map Prod.snd := by
  rw [List.mem_map, List.mem_map]
  constructor
  · rintro ⟨pair, hpair, hi⟩
    exact ⟨pair, hpair, (h pair hpair).mp hi⟩
  · rintro ⟨pair, hpair, hi⟩
    exact ⟨pair, hpair, (h pair hpair).mpr hi⟩

/-- **alike values have the same copy**, by induction on the levels that are left -/
theorem safeValue_alike (left n : Nat) (hn : left ≤ n) {above : List (Nat × Nat)}
    {value value' : LogValue} (h : alikeTo (hidden fold) heap heap' n above value value')
    (name : String) :
    safeValue alnum fold heap left (above.map Prod.fst) name value =
      safeValue alnum fold heap' left (above.map Prod.snd) name value' := by
  induction left generalizing n above value value' name with
  | zero => rfl
  | succ left ih =>
    obtain ⟨n, rfl⟩ : ∃ m, n = m + 1 := ⟨n - 1, by omega⟩
    by_cases hname : isSensitiveField fold name = true
    · rw [safeValue_sensitive hname, safeValue_sensitive hname]
    · unfold safeValue
      rw [if_neg hname, if_neg hname]
      cases h with
      | scalar s => rfl
      | @ref i i' hsame hobject =>
        have hmem := mem_above hsame
        have hbelow {item item' : LogValue}
            (hitem : alikeTo (hidden fold) heap heap' n ((i, i') :: above) item item')
            (name : String) : safeValue alnum fold heap left (i :: above.map Prod.fst) name item =
              safeValue alnum fold heap' left (i' :: above.map Prod.snd) name item' :=
          ih n (by omega) hitem name
        dsimp only
        by_cases hcycle : i ∈ above.map Prod.fst
        · rw [if_pos hcycle, if_pos (hmem.mp hcycle)]
        · rw [if_neg hcycle, if_neg fun hi' => hcycle (hmem.mpr hi')]
          generalize heap i = object at hobject
          generalize heap' i' = object' at hobject
          cases hobject with
          | dict hitems =>
            refine safeMapping_congr (hitems.imp fun entry entry' hentry => ⟨hentry.1, ?_⟩)
            intro field hfield
            rcases hentry.2 with ⟨hiddenName, htext, hsensitive⟩ | hitem
            · rw [hfield] at htext
              cases htext
              rw [safeValue_sensitive hsensitive, safeValue_sensitive hsensitive]
            · exact hbelow hitem field
          | list hitems =>
            exact safeSequence_congr (hitems.imp fun item item' hitem => hbelow hitem name)
          | tuple hitems =>
            exact safeSequence_congr (hitems.imp fun item item' hitem => hbelow hitem name)

/-! ## alike records have the same line -/

/-- two records that are equal, values under sensitive names apart -/
structure AlikeRecord (fold : Char → List Char) (heap heap' : LogHeap) (record record' : LogRecord) :
    Prop where
  created : record.created = record'.created
  levelname : record.levelname = record'.levelname
  name : record.name = record'.name
  msg : Alike (hidden fold) heap heap' record.msg record'.msg
  args : Alike (hidden fold) heap heap' record.args record'.args
  dict : List.Forall₂ (fun entry entry' => entry.1 = entry'.1 ∧
    (hidden fold entry.1 ∨ Alike (hidden fold) heap heap' entry.2 entry'.2)) record.dict record'.dict

variable {record record' : LogRecord}

theorem eventOf_alike (h : AlikeRecord fold heap heap' record record') :
    eventOf record = eventOf record' := by
  have hmsg := h.msg 1
  unfold eventOf
  generalize record.msg = msg at hmsg
  generalize record'.msg = msg' at hmsg
  cases hmsg with
  | scalar s => rfl
  | ref hsame hobject => rfl

theorem emptyArgs_alike (h : AlikeRecord fold heap heap' record record') :
    emptyArgs heap record.args = emptyArgs heap' record'.args := by
  have hargs := h.args 1
  generalize record.args = args at hargs
  generalize record'.args = args' at hargs
  cases hargs with
  | scalar s => rfl
  | @ref i i' hsame hobject =>
    unfold emptyArgs
    dsimp only
    generalize heap i = object at hobject
    generalize heap' i' = object' at hobject
    cases hobject with
    | dict hitems => rfl
    | list hitems => rfl
    | tuple hitems =>
      cases hitems with
      | nil => rfl
      | cons hitem hrest => rfl

theorem messageFields_alike (h : AlikeRecord fold heap heap' record record') :
    messageFields heap record = messageFields heap' record' := by
  unfold messageFields
  rw [eventOf_alike h, emptyArgs_alike h]

theorem requestId_public (fold : Char → List Char) :
    isSensitiveField fold "request_id" = false := by
  have hfolded : casefold fold "request_id" = "request_id".toList := rfl
  unfold isSensitiveField
  rw [hfolded]
  decide +kernel

theorem recordRequestId_alike (h : AlikeRecord fold heap heap' record record') :
    recordRequestId record = recordRequestId record' := by
  have hdict := h.dict
  unfold recordRequestId
  generalize record.dict = dict at hdict
  generalize record'.dict = dict' at hdict
  induction hdict with
  | nil => rfl
  | @cons entry entry' rest rest' hentry _ ih =>
    obtain ⟨key, value⟩ := entry
    obtain ⟨key', value'⟩ := entry'
    obtain ⟨rfl, hvalue⟩ := hentry
    rw [List.find?_cons, List.find?_cons]
    cases hkey : key.text? == some "request_id" with
    | false => exact ih
    | true =>
      have hpublic : ¬ hidden fold key := by
        rintro ⟨name, htext, hsensitive⟩
        rw [beq_iff_eq.mp hkey] at htext
        cases htext
        rw [requestId_public] at hsensitive
        cases hsensitive
      have hone := hvalue.resolve_left hpublic 1
      dsimp only at hone ⊢
      cases hone with
      | scalar s => rfl
      | ref hsame hobject => rfl

theorem extraFields_alike {dict dict' : List (Key × LogValue)}
    (h : List.Forall₂ (fun entry entry' => entry.1 = entry'.1 ∧
      (hidden fold entry.1 ∨ Alike (hidden fold) heap heap' entry.2 entry'.2)) dict dict')
    (state : List (String × JsonValue) × Nat) :
    extraFields alnum fold heap dict state = extraFields alnum fold heap' dict' state := by
  induction h generalizing state with
  | nil => rfl
  | @cons entry entry' rest rest' hentry _ ih =>
    obtain ⟨key, value⟩ := entry
    obtain ⟨key', value'⟩ := entry'
    obtain ⟨rfl, hvalue⟩ := hentry
    unfold extraFields
    cases htext : key.text? with
    | none => exact ih state
    | some name =>
      have hsafe : safeValue alnum fold heap (maxNestingDepth + 1) [] name value =
          safeValue alnum fold heap' (maxNestingDepth + 1) [] name value' := by
        rcases hvalue with ⟨hiddenName, hhidden, hsensitive⟩ | halike
        · rw [htext] at hhidden
          cases hhidden
          rw [safeValue_sensitive hsensitive, safeValue_sensitive hsensitive]
        · exact safeValue_alike _ _ (Nat.le_refl _) (halike (maxNestingDepth + 1)) name
      dsimp only
      rw [ih, ih, ih, hsafe]

/-- **records without an exception that are equal, values under sensitive names apart, have the same
line** -/
theorem format_noninterference (alnum : Char → Bool) (fold : Char → List Char)
    (isoformat : Flonum → String) (f : SafeJsonFormatter) (current : Option String)
    (heap heap' : LogHeap) (record record' : LogRecord) (hexc : record.excInfo = none)
    (hexc' : record'.excInfo = none) (h : AlikeRecord fold heap heap' record record') :
    format alnum fold isoformat f current heap record =
      format alnum fold isoformat f current heap' record' := by
  have hrequest : requestIdOf current record = requestIdOf current record' := by
    unfold requestIdOf
    rw [recordRequestId_alike h]
  have hpayload : payloadOf alnum fold isoformat f current heap record =
      payloadOf alnum fold isoformat f current heap' record' := by
    unfold payloadOf
    rw [messageFields_alike h, hrequest, h.created, h.levelname, h.name, hexc, hexc']
    dsimp only
    rw [extraFields_alike h.dict]
  unfold format
  rw [hpayload]

end

/-- a dictionary that contains itself, a secret and a tuple -/
def sampleHeap (secret : LogValue) : LogHeap := fun i =>
  if i = 0 then .dict [(.str "self", .ref 0), (.str "user-Password", secret), (.str "codes", .ref 1)]
  else .tuple []

def sampleLog (secret : LogValue) : LogRecord where
  created := .zero false
  levelname := "INFO"
  name := "app.test"
  msg := .scalar (.str "safe.event")
  args := .ref 1
  excInfo := none
  dict := [(.str "details", .ref 0), (.str "api_token", secret)]

theorem format_noninterference_sample :
    format Char.isAlphanum (fun c => [c]) (fun f => String.ofList f.repr) ⟨"api", "1", "test", true⟩
        none (sampleHeap (.scalar (.str "hunter2"))) (sampleLog (.scalar (.int 7))) =
      format Char.isAlphanum (fun c => [c]) (fun f => String.ofList f.repr) ⟨"api", "1", "test", true⟩
        none (sampleHeap (.ref 0)) (sampleLog (.ref 1)) := by
  have hpassword : hidden (fun c => [c]) (.str "user-Password") :=
    ⟨"user-Password", rfl, by decide +kernel⟩
  have htoken : hidden (fun c => [c]) (.str "api_token") := ⟨"api_token", rfl, by decide +kernel⟩
  have hheap : Correspondence (hidden fun c => [c]) (sampleHeap (.scalar (.str "hunter2")))
      (sampleHeap (.ref 0)) Eq := by
    refine ⟨fun h h' => by rw [h, h'], fun {i i'} h => ?_⟩
    subst h
    unfold sampleHeap
    by_cases hi : i = 0
    · rw [if_pos hi, if_pos hi]
      exact .dict (.cons ⟨rfl, .inr (.ref rfl)⟩ (.cons ⟨rfl, .inl hpassword⟩
        (.cons ⟨rfl, .inr (.ref rfl)⟩ .nil)))
    · rw [if_neg hi, if_neg hi]
      exact .tuple .nil
  refine format_noninterference _ _ _ _ _ _ _ _ _ rfl rfl
    ⟨rfl, rfl, rfl, hheap.alike (.scalar _), hheap.alike (.ref rfl), ?_⟩
  exact .cons ⟨rfl, .inr (hheap.alike (.ref rfl))⟩ (.cons ⟨rfl, .inl htoken⟩ .nil)

end PgRbac.Logging
