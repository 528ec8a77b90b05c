import PgRbac.AuditTexts
import PgRbac.Lib.Json

/-!
# Audit states of arbitrary values

`sanitize_audit_state` of `app/core/audit.py` on every kind of Python value that it tells apart.
A value is given by what `isinstance` finds first: members of an enumeration of texts or numbers are
texts or numbers.  Members of an enumeration that are themselves mappings or sequences are left out:
here they count as members, the walk over business payloads opens them.

* `PyValue`, `Timestamp`        values;
* `auditValue`, `sanitizeState` the conversion, and the whole check;
* `Admissible`                  what the result is, at every depth;
* `audit_state_sound`           the result is admissible, and converts into itself.

`str.casefold` and the alphanumeric characters beyond ASCII are parameters.
-/

set_option linter.unusedVariables false

namespace PgRbac.Payloads

open Fallible

/-! ## values -/

/-- a time in UTC; the bounds are those of its digits -/
structure UtcTime where
  year : Fin 10000
  month : Fin 100
  day : Fin 100
  hour : Fin 100
  minute : Fin 100
  second : Fin 100
  microsecond : Fin 1000000
deriving DecidableEq, Repr

/-- a `datetime`: without a time zone, with one, or out of the calendar in UTC -/
inductive Timestamp where
  | naive
  | aware (utc : UtcTime)
  | outOfRange
deriving DecidableEq, Repr

/-- a number with leading zeros -/
def padded (width n : Nat) : List Char :=
  List.replicate (width - (Nat.toDigits 10 n).length) '0' ++ Nat.toDigits 10 n

/-- `isoformat().replace("+00:00", "Z")` -/
def UtcTime.text (t : UtcTime) : List Char :=
  padded 4 t.year.val ++ '-' :: padded 2 t.month.val ++ '-' :: padded 2 t.day.val ++
    'T' :: padded 2 t.hour.val ++ ':' :: padded 2 t.minute.val ++ ':' :: padded 2 t.second.val ++
    (if t.microsecond.val = 0 then [] else '.' :: padded 6 t.microsecond.val) ++ ['Z']

/-- the key of a mapping: a text or something else -/
inductive PyKey where
  | str (s : String)
  | other
deriving DecidableEq, Repr

inductive SequenceKind where
  | list
  | tuple
  /-- any other `Sequence`, but no text and no bytes -/
  | other
deriving DecidableEq, Repr

inductive PyValue where
  | none
  | bool (b : Bool)
  | int (n : Int)
  | str (s : String)
  | float (f : Flonum)
  | uuid (id : Uuid)
  | datetime (t : Timestamp)
  /-- a member of an enumeration that is no text, number, mapping or sequence -/
  | enum (value : PyValue)
  | mapping (items : List (PyKey × PyValue))
  | sequence (kind : SequenceKind) (items : List PyValue)
  | other (typeName : String)

/-- induction over a value -/
theorem PyValue.recursion {P : PyValue → Prop} (none : P .none) (bool : ∀ b, P (.bool b))
    (int : ∀ n, P (.int n)) (str : ∀ s, P (.str s)) (float : ∀ f, P (.float f))
    (uuid : ∀ id, P (.uuid id)) (datetime : ∀ t, P (.datetime t))
    (enum : ∀ value, P value → P (.enum value))
    (mapping : ∀ items, (∀ item ∈ items, P item.2) → P (.mapping items))
    (sequence : ∀ kind items, (∀ item ∈ items, P item) → P (.sequence kind items))
    (other : ∀ typeName, P (.other typeName)) : ∀ v, P v
  | .none => none
  | .bool b => bool b
  | .int n => int n
  | .str s => str s
  | .float f => float f
  | .uuid id => uuid id
  | .datetime t => datetime t
  | .enum value =>
    enum value (recursion none bool int str float uuid datetime enum mapping sequence other value)
  | .mapping items => mapping items fun item hitem =>
    recursion none bool int str float uuid datetime enum mapping sequence other item.2
  | .sequence kind items => sequence kind items fun item hitem =>
    recursion none bool int str float uuid datetime enum mapping sequence other item
  | .other typeName => other typeName
termination_by v => sizeOf v
decreasing_by
  · simp
  · have := List.sizeOf_lt_of_mem hitem
    have hpair : sizeOf item = 1 + sizeOf item.1 + sizeOf item.2 := by
      cases item
      rfl
    simp
    omega
  · have := List.sizeOf_lt_of_mem hitem
    simp
    omega

/-! ## conversion -/

def maxDepth : Nat := 6
def maxCollectionItems : Nat := 100
def maxStateBytes : Nat := 16 * 1024

section
variable (casefold : String → String) (alnum : Char → Bool)

/-- a key in the form in which it is looked up -/
def normalizedKey (key : String) : String :=
  String.ofList ((casefold key).toList.map fun c => if c = '-' then '_' else c)

/-- a key that an audit state must not hold -/
def sensitiveKey (key : String) : Bool :=
  sensitiveKeys.contains (normalizedKey casefold key) ||
    sensitiveSuffixes.any fun suffix => suffix.toList.isSuffixOf (normalizedKey casefold key).toList

/-- `_require_safe_key` -/
def requireKey (key : String) : Except String Unit := do
  require (sensitiveKey casefold key = false)
    ("audit state contains forbidden sensitive field: " ++ key)
  require (key ≠ "" ∧ key.toList.length ≤ maxKeyLength)
    "audit state keys must contain 1 to 120 characters"
where
  maxKeyLength : Nat := 120

-- `_audit_json`
mutual
def auditValue (depth : Nat) (value : PyValue) : Except String JsonValue := do
  require (depth ≤ maxDepth) "audit state exceeds the maximum nesting depth"
  match value with
  | .none => .ok .null
  | .bool b => .ok (.bool b)
  | .int n => .ok (.int n)
  | .str s => do
    require (sensitiveText alnum s = false) "audit state contains sensitive text"
    return .str s
  | .float f => do
    require (f.isFinite = true) "audit state cannot contain non-finite numbers"
    return .float f
  | .uuid id => .ok (.str id.text)
  | .datetime .naive => .error "audit timestamps must include a timezone"
  | .datetime .outOfRange => .error "date value out of range"
  | .datetime (.aware utc) => .ok (.str (String.ofList utc.text))
  | .enum value => auditValue (depth + 1) value
  | .mapping items => do
    require (items.length ≤ maxCollectionItems) "audit state contains too many object fields"
    let result ← auditEntries (depth + 1) [] items
    return .object result
  | .sequence _ items => do
    require (items.length ≤ maxCollectionItems) "audit state contains too many array items"
    let result ← auditSequence (depth + 1) items
    return .array result
  | .other typeName => .error ("unsupported audit state value: " ++ typeName)

/-- the loop over the items of a mapping, with the result so far -/
def auditEntries (depth : Nat) (result : List (String × JsonValue)) :
    List (PyKey × PyValue) → Except String (List (String × JsonValue))
  | [] => .ok result
  | (.other, _) :: _ => .error "audit state object keys must be strings"
  | (.str key, item) :: rest => do
    requireKey casefold key
    let value ← auditValue depth item
    auditEntries depth (setKey result key value) rest

def auditSequence (depth : Nat) : List PyValue → Except String (List JsonValue)
  | [] => .ok []
  | item :: rest => do
    let value ← auditValue depth item
    let values ← auditSequence depth rest
    return value :: values
end

-- an `int` of more than 4300 digits has no text
mutual
def printable : JsonValue → Bool
  | .int n => decide (n.natAbs < 10 ^ 4300)
  | .array items => printableItems items
  | .object fields => printableFields fields
  | .null => true
  | .bool _ => true
  | .float _ => true
  | .str _ => true

def printableItems : List JsonValue → Bool
  | [] => true
  | item :: rest => printable item && printableItems rest

def printableFields : List (String × JsonValue) → Bool
  | [] => true
  | (_, item) :: rest => printable item && printableFields rest
end

/-- `sanitize_audit_state` of a state that is not `None` -/
def sanitizeState (state : PyValue) : Except String JsonValue := do
  let value ← auditValue casefold alnum 0 state
  match value with
  | .object fields => do
    require (printable (.object fields) = true) "Exceeds the limit (4300 digits)"
    require (JsonValue.octets (JsonValue.text JsonValue.compact (.object fields)) ≤ maxStateBytes)
      "audit state exceeds 16 KiB"
    return .object fields
  | _ => .error "audit state must be a JSON object"

end

/-! ## what a result is -/

/-- a value as it comes back -/
def embed : JsonValue → PyValue
  | .null => .none
  | .bool b => .bool b
  | .int n => .int n
  | .float f => .float f
  | .str s => .str s
  | .array items => .sequence .list (embedItems items)
  | .object fields => .mapping (embedFields fields)
where
  embedItems : List JsonValue → List PyValue
    | [] => []
    | item :: rest => embed item :: embedItems rest
  embedFields : List (String × JsonValue) → List (PyKey × PyValue)
    | [] => []
    | (key, item) :: rest => (.str key, embed item) :: embedFields rest

section
variable (casefold : String → String) (alnum : Char → Bool)

structure SafeKey (key : String) : Prop where
  filled : key ≠ ""
  length : key.toList.length ≤ 120
  plain : sensitiveKey casefold key = false

-- what holds at every depth of a result
mutual
def Admissible (depth : Nat) : JsonValue → Prop
  | .null => depth ≤ maxDepth
  | .bool _ => depth ≤ maxDepth
  | .int _ => depth ≤ maxDepth
  | .float f => depth ≤ maxDepth ∧ f.isFinite = true
  | .str s => depth ≤ maxDepth ∧ sensitiveText alnum s = false
  | .array items =>
    depth ≤ maxDepth ∧ items.length ≤ maxCollectionItems ∧ AdmissibleItems (depth + 1) items
  | .object fields =>
    depth ≤ maxDepth ∧ fields.length ≤ maxCollectionItems ∧ (fields.map Prod.fst).Nodup ∧
      AdmissibleFields (depth + 1) fields

def AdmissibleItems (depth : Nat) : List JsonValue → Prop
  | [] => True
  | item :: rest => Admissible depth item ∧ AdmissibleItems depth rest

def AdmissibleFields (depth : Nat) : List (String × JsonValue) → Prop
  | [] => True
  | (key, item) :: rest =>
    SafeKey casefold key ∧ Admissible depth item ∧ AdmissibleFields depth rest
end

end

/-! ## lists of values -/

section
variable {casefold : String → String} {alnum : Char → Bool} {depth : Nat}

theorem admissibleItems {items : List JsonValue} :
    AdmissibleItems casefold alnum depth items ↔
      ∀ item ∈ items, Admissible casefold alnum depth item := by
  induction items with
  | nil => simp [AdmissibleItems]
  | cons item rest ih => rw [AdmissibleItems, ih, List.forall_mem_cons]

theorem admissibleFields {fields : List (String × JsonValue)} :
    AdmissibleFields casefold alnum depth fields ↔
      ∀ field ∈ fields, SafeKey casefold field.1 ∧ Admissible casefold alnum depth field.2 := by
  induction fields with
  | nil => simp [AdmissibleFields]
  | cons field rest ih =>
    rw [AdmissibleFields, ih, List.forall_mem_cons, and_assoc]

theorem requireKey_ok {key : String} : requireKey casefold key = .ok () ↔ SafeKey casefold key := by
  unfold requireKey
  simp only [bind_ok, require_ok]
  constructor
  · intro h
    obtain ⟨_, hplain, hfilled, hlength⟩ := h
    exact ⟨hfilled, hlength, hplain⟩
  · intro h
    exact ⟨(), h.plain, h.filled, h.length⟩

theorem Admissible.higher {j : JsonValue} : ∀ {depth depth' : Nat}, depth' ≤ depth →
    Admissible casefold alnum depth j → Admissible casefold alnum depth' j := by
  induction j using JsonValue.recursion with
  | null =>
    intro depth depth' hle h
    exact hle.trans h
  | bool b =>
    intro depth depth' hle h
    exact hle.trans h
  | int n =>
    intro depth depth' hle h
    exact hle.trans h
  | float f =>
    intro depth depth' hle h
    exact ⟨hle.trans h.1, h.2⟩
  | str s =>
    intro depth depth' hle h
    exact ⟨hle.trans h.1, h.2⟩
  | array items ih =>
    intro depth depth' hle h
    rw [Admissible, admissibleItems] at h ⊢
    exact ⟨hle.trans h.1, h.2.1, fun item hitem =>
      ih item hitem (Nat.succ_le_succ hle) (h.2.2 item hitem)⟩
  | object fields ih =>
    intro depth depth' hle h
    rw [Admissible, admissibleFields] at h ⊢
    exact ⟨hle.trans h.1, h.2.1, h.2.2.1, fun field hfield =>
      ⟨(h.2.2.2 field hfield).1, ih field hfield (Nat.succ_le_succ hle) (h.2.2.2 field hfield).2⟩⟩

/-! ## texts of times -/

/-- the characters of a time -/
def timeCharacter (c : Char) : Bool := "0123456789-:.TZ".toList.contains c

theorem digit_timeCharacter {c : Char} (h : c.isDigit = true) : timeCharacter c = true := by
  have hall : ((List.range 58).all fun n =>
      !(Char.ofNat n).isDigit || timeCharacter (Char.ofNat n)) = true := by decide +kernel
  have hlt : c.toNat < 58 := Nat.lt_succ_of_le (Char.isDigit_iff_toNat.mp h).2
  have hc := List.all_eq_true.mp hall c.toNat (List.mem_range.mpr hlt)
  rw [Char.ofNat_toNat, h] at hc
  exact hc

theorem padded_digits (width n : Nat) : ∀ c ∈ padded width n, c.isDigit = true := by
  intro c hc
  rcases List.mem_append.mp hc with hzero | hdigit
  · rw [List.eq_of_mem_replicate hzero]
    decide
  · exact Nat.isDigit_of_mem_toDigits (by omega) (by omega) hdigit

theorem padded_ne_nil (width n : Nat) : padded width n ≠ [] := fun h =>
  Nat.toDigits_ne_nil (List.append_eq_nil_iff.mp h).2

theorem padded_characters (width n : Nat) : ∀ c ∈ padded width n, timeCharacter c = true :=
  fun c hc => digit_timeCharacter (padded_digits width n c hc)

theorem UtcTime.characters (t : UtcTime) : ∀ c ∈ t.text, timeCharacter c = true := by
  have hfraction : ∀ c ∈ (if t.microsecond.val = 0 then [] else '.' :: padded 6 t.microsecond.val),
      timeCharacter c = true := by
    by_cases h : t.microsecond.val = 0
    · rw [if_pos h]
      exact fun c hc => absurd hc List.not_mem_nil
    · rw [if_neg h, List.forall_mem_cons]
      exact ⟨by decide, padded_characters _ _⟩
  have hlast : timeCharacter 'Z' = true ∧ ∀ c ∈ [], timeCharacter c = true :=
    ⟨by decide, fun c hc => absurd hc List.not_mem_nil⟩
  unfold UtcTime.text
  simp only [List.append_assoc, List.cons_append, List.forall_mem_append, List.forall_mem_cons]
  exact ⟨padded_characters _ _, by decide, padded_characters _ _, by decide, padded_characters _ _,
    by decide, padded_characters _ _, by decide, padded_characters _ _, by decide,
    padded_characters _ _, hfraction, hlast⟩

theorem timeCharacter_folded {c d : Char}
    (hc : ("0123456789-:.TZ".toList.all fun e => ignoreCase e != c) = true)
    (hd : ignoreCase d = c) : (!timeCharacter d) = true := by
  rw [Bool.not_eq_true']
  unfold timeCharacter
  rw [List.contains_eq_mem, decide_eq_false_iff_not]
  intro hmem
  have hne := List.all_eq_true.mp hc d hmem
  rw [hd, bne_self_eq_false] at hne
  cases hne

open Pattern in
theorem sensitiveTextRe_needs_other (word : Char → Bool) :
    Needs (fun c => !timeCharacter c) (sensitiveTextRe word) := by
  have hneeds (text : String) (c : Char) (hc : c ∈ text.toList)
      (hno : ("0123456789-:.TZ".toList.all fun e => ignoreCase e != c) = true) :
      Needs (fun c => !timeCharacter c) (literal ignoreCase text.toList) :=
    .literal hc fun d hd => timeCharacter_folded hno hd
  have hwords : Needs (fun c => !timeCharacter c)
      (oneOf [literal ignoreCase "password".toList, literal ignoreCase "secret".toList,
        literal ignoreCase "token".toList, seq (literal ignoreCase "api".toList)
          (seq (opt (Pattern.set fun c => c == '_' || c == '-')) (literal ignoreCase "key".toList)),
        literal ignoreCase "authorization".toList]) :=
    .alt (hneeds "password" 'p' (by decide) (by decide +kernel))
      (.alt (hneeds "secret" 's' (by decide) (by decide +kernel))
        (.alt (hneeds "token" 'o' (by decide) (by decide +kernel))
          (.alt (.left (hneeds "api" 'a' (by decide) (by decide +kernel)))
            (hneeds "authorization" 'a' (by decide) (by decide +kernel)))))
  unfold sensitiveTextRe
  refine .alt ?_ (.alt ?_ (.alt ?_ ?_))
  · exact .right (.left (hneeds "bearer" 'b' (by decide) (by decide +kernel)))
  · exact .left (hneeds "-----begin " 'b' (by decide) (by decide +kernel))
  · exact .right (.left hwords)
  · exact .right (.right (.right (.left (hneeds "://" '/' (by decide) (by decide +kernel)))))

theorem sensitiveText_time (alnum : Char → Bool) (t : UtcTime) :
    sensitiveText alnum (String.ofList t.text) = false := by
  unfold sensitiveText
  rw [String.toList_ofList, (sensitiveTextRe_needs_other _).search fun c hc => by
    rw [t.characters c hc]
    rfl, Bool.and_false]

/-! ## the result of the conversion -/

theorem auditEntries_admissible {items : List (PyKey × PyValue)} (depth : Nat)
    (hitems : ∀ item ∈ items, ∀ j, auditValue casefold alnum depth item.2 = .ok j →
      Admissible casefold alnum depth j) :
    ∀ {result fields : List (String × JsonValue)},
      auditEntries casefold alnum depth result items = .ok fields →
      (result.map Prod.fst).Nodup → AdmissibleFields casefold alnum depth result →
      fields.length ≤ result.length + items.length ∧ (fields.map Prod.fst).Nodup ∧
        AdmissibleFields casefold alnum depth fields := by
  induction items with
  | nil =>
    intro result fields h hnodup hresult
    cases h
    exact ⟨Nat.le_refl _, hnodup, hresult⟩
  | cons item rest ih =>
    obtain ⟨key, item⟩ := item
    intro result fields h hnodup hresult
    cases key with
    | other => cases h
    | str key =>
      rw [List.forall_mem_cons] at hitems
      simp only [auditEntries, bind_ok] at h
      obtain ⟨_, hkey, value, hvalue, hrest⟩ := h
      have hset : AdmissibleFields casefold alnum depth (setKey result key value) := by
        rw [admissibleFields] at hresult ⊢
        intro field hfield
        rcases mem_setKey hfield with hold | hnew
        · exact hresult field hold
        · rw [hnew]
          exact ⟨requireKey_ok.mp hkey, hitems.1 value hvalue⟩
      have hlast := ih hitems.2 hrest (nodup_setKey hnodup) hset
      have hlength : (setKey result key value).length ≤ result.length + 1 := length_setKey
      refine ⟨?_, hlast.2⟩
      rw [List.length_cons]
      omega

theorem auditSequence_admissible {items : List PyValue} (depth : Nat)
    (hitems : ∀ item ∈ items, ∀ j, auditValue casefold alnum depth item = .ok j →
      Admissible casefold alnum depth j) :
    ∀ {values : List JsonValue}, auditSequence casefold alnum depth items = .ok values →
      values.length = items.length ∧ AdmissibleItems casefold alnum depth values := by
  induction items with
  | nil =>
    intro values h
    cases h
    exact ⟨rfl, trivial⟩
  | cons item rest ih =>
    intro values h
    rw [List.forall_mem_cons] at hitems
    simp only [auditSequence, bind_ok, pure_ok] at h
    obtain ⟨value, hvalue, values', hrest, rfl⟩ := h
    obtain ⟨hlength, hall⟩ := ih hitems.2 hrest
    exact ⟨congrArg Nat.succ hlength, hitems.1 value hvalue, hall⟩

/-- what is converted at a depth is admissible there -/
theorem auditValue_admissible (v : PyValue) : ∀ {depth : Nat} {j : JsonValue},
    auditValue casefold alnum depth v = .ok j → Admissible casefold alnum depth j := by
  induction v using PyValue.recursion with
  | none =>
    intro depth j h
    simp only [auditValue, bind_ok, require_ok] at h
    obtain ⟨_, hdepth, ⟨⟩⟩ := h
    exact hdepth
  | bool b =>
    intro depth j h
    simp only [auditValue, bind_ok, require_ok] at h
    obtain ⟨_, hdepth, ⟨⟩⟩ := h
    exact hdepth
  | int n =>
    intro depth j h
    simp only [auditValue, bind_ok, require_ok] at h
    obtain ⟨_, hdepth, ⟨⟩⟩ := h
    exact hdepth
  | str s =>
    intro depth j h
    simp only [auditValue, bind_ok, require_ok, pure_ok] at h
    obtain ⟨_, hdepth, _, htext, rfl⟩ := h
    exact ⟨hdepth, htext⟩
  | float f =>
    intro depth j h
    simp only [auditValue, bind_ok, require_ok, pure_ok] at h
    obtain ⟨_, hdepth, _, hfinite, rfl⟩ := h
    exact ⟨hdepth, hfinite⟩
  | uuid id =>
    intro depth j h
    simp only [auditValue, bind_ok, require_ok] at h
    obtain ⟨_, hdepth, ⟨⟩⟩ := h
    exact ⟨hdepth, (writable_uuid alnum id).1⟩
  | datetime t =>
    intro depth j h
    cases t with
    | naive =>
      simp only [auditValue, bind_ok, reduceCtorEq, and_false, exists_false] at h
    | outOfRange =>
      simp only [auditValue, bind_ok, reduceCtorEq, and_false, exists_false] at h
    | aware utc =>
      simp only [auditValue, bind_ok, require_ok] at h
      obtain ⟨_, hdepth, ⟨⟩⟩ := h
      exact ⟨hdepth, sensitiveText_time alnum utc⟩
  | enum value ih =>
    intro depth j h
    simp only [auditValue, bind_ok, require_ok] at h
    obtain ⟨_, hdepth, hvalue⟩ := h
    exact (ih hvalue).higher (Nat.le_succ depth)
  | mapping items ih =>
    intro depth j h
    simp only [auditValue, bind_ok, require_ok, pure_ok] at h
    obtain ⟨_, hdepth, _, hlength, fields, hfields, rfl⟩ := h
    have hall := auditEntries_admissible (depth + 1) (fun item hitem j hj => ih item hitem hj)
      hfields List.nodup_nil trivial
    rw [List.length_nil, Nat.zero_add] at hall
    exact ⟨hdepth, hall.1.trans hlength, hall.2⟩
  | sequence kind items ih =>
    intro depth j h
    simp only [auditValue, bind_ok, require_ok, pure_ok] at h
    obtain ⟨_, hdepth, _, hlength, values, hvalues, rfl⟩ := h
    have hall := auditSequence_admissible (depth + 1) (fun item hitem j hj => ih item hitem hj)
      hvalues
    exact ⟨hdepth, hall.1 ▸ hlength, hall.2⟩
  | other typeName =>
    intro depth j h
    simp only [auditValue, bind_ok, reduceCtorEq, and_false, exists_false] at h

/-! ## the second conversion -/

theorem length_embedItems (items : List JsonValue) :
    (embed.embedItems items).length = items.length := by
  induction items with
  | nil => rfl
  | cons item rest ih => exact congrArg Nat.succ ih

theorem length_embedFields (fields : List (String × JsonValue)) :
    (embed.embedFields fields).length = fields.length := by
  induction fields with
  | nil => rfl
  | cons field rest ih => exact congrArg Nat.succ ih

theorem auditSequence_embed {items : List JsonValue}
    (h : ∀ item ∈ items, auditValue casefold alnum depth (embed item) = .ok item) :
    auditSequence casefold alnum depth (embed.embedItems items) = .ok items := by
  induction items with
  | nil => rfl
  | cons item rest ih =>
    rw [List.forall_mem_cons] at h
    simp only [embed.embedItems, auditSequence, bind_ok, pure_ok]
    exact ⟨item, h.1, rest, ih h.2, rfl⟩

theorem auditEntries_embed {fields : List (String × JsonValue)}
    (h : ∀ field ∈ fields, SafeKey casefold field.1 ∧
      auditValue casefold alnum depth (embed field.2) = .ok field.2) :
    ∀ result : List (String × JsonValue), ((result ++ fields).map Prod.fst).Nodup →
      auditEntries casefold alnum depth result (embed.embedFields fields) =
        .ok (result ++ fields) := by
  induction fields with
  | nil =>
    intro result hnodup
    rw [List.append_nil]
    rfl
  | cons field rest ih =>
    intro result hnodup
    obtain ⟨key, item⟩ := field
    rw [List.forall_mem_cons] at h
    have hnew : key ∉ result.map Prod.fst := by
      rw [List.map_append, List.map_cons] at hnodup
      intro hmem
      exact (List.nodup_append.mp hnodup).2.2 key hmem key List.mem_cons_self rfl
    have happend : result ++ (key, item) :: rest = setKey result key item ++ rest := by
      rw [setKey_new hnew, List.append_assoc]
      rfl
    simp only [embed.embedFields, auditEntries, bind_ok]
    refine ⟨(), requireKey_ok.mpr h.1.1, item, h.1.2, ?_⟩
    rw [happend] at hnodup ⊢
    exact ih h.2 _ hnodup

theorem auditEntries_embed_ok {fields : List (String × JsonValue)} :
    ∀ {result out : List (String × JsonValue)},
      auditEntries casefold alnum depth result (embed.embedFields fields) = .ok out →
        ∀ field ∈ fields, ∃ j, auditValue casefold alnum depth (embed field.2) = .ok j := by
  induction fields with
  | nil => exact fun _ field hfield => absurd hfield List.not_mem_nil
  | cons field rest ih =>
    intro result out h
    obtain ⟨key, item⟩ := field
    simp only [embed.embedFields, auditEntries, bind_ok] at h
    obtain ⟨_, -, j, hj, hrest⟩ := h
    exact List.forall_mem_cons.mpr ⟨⟨j, hj⟩, ih hrest⟩

theorem auditValue_str {s : String}
    (h : ∃ j, auditValue casefold alnum depth (embed (.str s)) = .ok j) :
    sensitiveText alnum s = false := by
  obtain ⟨j, h⟩ := h
  simp only [embed, auditValue, bind_ok, require_ok] at h
  obtain ⟨_, -, _, hs, -⟩ := h
  exact hs

/-- what is admissible is kept as it is -/
theorem auditValue_embed (j : JsonValue) : ∀ {depth : Nat},
    Admissible casefold alnum depth j → auditValue casefold alnum depth (embed j) = .ok j := by
  induction j using JsonValue.recursion with
  | null =>
    intro depth h
    simp only [embed, auditValue, bind_ok, require_ok]
    exact ⟨(), h, trivial⟩
  | bool b =>
    intro depth h
    simp only [embed, auditValue, bind_ok, require_ok]
    exact ⟨(), h, trivial⟩
  | int n =>
    intro depth h
    simp only [embed, auditValue, bind_ok, require_ok]
    exact ⟨(), h, trivial⟩
  | float f =>
    intro depth h
    simp only [embed, auditValue, bind_ok, require_ok]
    exact ⟨(), h.1, (), h.2, rfl⟩
  | str s =>
    intro depth h
    simp only [embed, auditValue, bind_ok, require_ok]
    exact ⟨(), h.1, (), h.2, rfl⟩
  | array items ih =>
    intro depth h
    rw [Admissible, admissibleItems] at h
    simp only [embed, auditValue, bind_ok, require_ok, length_embedItems]
    exact ⟨(), h.1, (), h.2.1, items,
      auditSequence_embed fun item hitem => ih item hitem (h.2.2 item hitem), rfl⟩
  | object fields ih =>
    intro depth h
    rw [Admissible, admissibleFields] at h
    simp only [embed, auditValue, bind_ok, require_ok, length_embedFields]
    exact ⟨(), h.1, (), h.2.1, fields, auditEntries_embed (fun field hfield =>
      ⟨(h.2.2.2 field hfield).1, ih field hfield (h.2.2.2 field hfield).2⟩) [] h.2.2.1, rfl⟩

theorem sanitizeState_ok {state : PyValue} {j : JsonValue} :
    sanitizeState casefold alnum state = .ok j ↔
      auditValue casefold alnum 0 state = .ok j ∧ (∃ fields, j = .object fields) ∧
        printable j = true ∧
        JsonValue.octets (JsonValue.text JsonValue.compact j) ≤ maxStateBytes := by
  unfold sanitizeState
  rw [bind_ok]
  constructor
  · intro h
    obtain ⟨value, hvalue, h⟩ := h
    cases value with
    | object fields =>
      simp only [bind_ok, require_ok, pure_ok] at h
      obtain ⟨_, hprint, _, hsize, rfl⟩ := h
      exact ⟨hvalue, ⟨fields, rfl⟩, hprint, hsize⟩
    | null => cases h
    | bool b => cases h
    | int n => cases h
    | float f => cases h
    | str s => cases h
    | array items => cases h
  · intro h
    obtain ⟨hvalue, ⟨fields, rfl⟩, hprint, hsize⟩ := h
    refine ⟨.object fields, hvalue, ?_⟩
    simp only [bind_ok, require_ok, pure_ok]
    exact ⟨(), hprint, (), hsize, trivial⟩

/-- an accepted state is kept as it is -/
theorem sanitizeState_embed {state : PyValue} {j : JsonValue}
    (h : sanitizeState casefold alnum state = .ok j) :
    sanitizeState casefold alnum (embed j) = .ok j := by
  rw [sanitizeState_ok] at h ⊢
  exact ⟨auditValue_embed j (auditValue_admissible state h.1), h.2⟩

end

/-- **what an accepted audit state is, and that it is accepted again as it is** -/
theorem audit_state_sound (casefold : String → String) (alnum : Char → Bool) (state : PyValue)
    (j : JsonValue) (h : sanitizeState casefold alnum state = .ok j) :
    (∃ fields, j = .object fields) ∧ Admissible casefold alnum 0 j ∧
      JsonValue.octets (JsonValue.text JsonValue.compact j) ≤ 16384 ∧
      sanitizeState casefold alnum (embed j) = .ok j := by
  have hok := sanitizeState_ok.mp h
  exact ⟨hok.2.1, auditValue_admissible state hok.1, hok.2.2.2, sanitizeState_embed h⟩

/-- a state with a member of an enumeration, a time and a tuple -/
def manualReset : PyValue := .mapping
  [(.str "reason", .enum (.str "manual")),
    (.str "at", .datetime (.aware ⟨2024, 2, 29, 23, 59, 58, 0⟩)),
    (.str "counts", .sequence .tuple [.int 3, .none])]

def manualResetJson : JsonValue := .object
  [("reason", .str "manual"), ("at", .str "2024-02-29T23:59:58Z"),
    ("counts", .array [.int 3, .null])]

theorem audit_state_sound_manual :
    (∃ fields, manualResetJson = .object fields) ∧
      Admissible asciiCasefold (fun _ => false) 0 manualResetJson ∧
      JsonValue.octets (JsonValue.text JsonValue.compact manualResetJson) ≤ 16384 ∧
      sanitizeState asciiCasefold (fun _ => false) (embed manualResetJson) = .ok manualResetJson :=
  audit_state_sound asciiCasefold (fun _ => false) manualReset manualResetJson
    (sanitizeState_ok.mpr ⟨rfl, ⟨_, rfl⟩, by decide +kernel, by decide +kernel⟩)

end PgRbac.Payloads
