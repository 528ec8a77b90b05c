import PgRbac.AuditValues
import PgRbac.Lib.IpAddress
import PgRbac.Lib.Pattern

/-!
# Payloads of business events

`sanitize_business_payload` of `app/core/business_audit.py`: a walk over the payload that refuses
keys, e-mail addresses and network addresses, then the conversion of an audit state.  The walk opens
mappings, lists and tuples; the conversion opens every sequence and the values of enumerations.

* `emailRe`, `containsNetworkIdentifier`   the detectors;
* `rejectSensitive`, `sanitizeBusiness`    the walk, and the whole check;
* `Clean`                       what the result should be;
* `hiddenClean`                 that what the walk does not open would have passed it;
* `business_payload_sound`      the result is clean, and accepted again, exactly then.
-/

set_option linter.unusedVariables false

namespace PgRbac.Payloads

open Fallible Ip

/-! ## detectors -/

section
open Pattern

private def letter (c : Char) : Bool := (ignoreCase c).isLower

private def letterOrDigit (c : Char) : Bool := letter c || c.isDigit

/-- a character in front of the `@` of an address, other than a dot -/
def localCharacter (c : Char) : Bool :=
  letterOrDigit c || "!#$%&\x27*+/=?^_\x60\x7b|\x7d~-".toList.contains c

def emailRe : Pattern :=
  let label := chain [set letterOrDigit,
    opt (seq (atMost (set fun c => letterOrDigit c || c == '-') 61) (set letterOrDigit)),
    set (· == '.')]
  chain [notBehind fun c => localCharacter c || c == '.',
    plus (set localCharacter),
    star (seq (set (· == '.')) (plus (set localCharacter))),
    set (· == '@'),
    plus label,
    between (set letter) 2 61,
    notAhead fun c => letterOrDigit c || c == '.' || c == '-']

private def digits : Pattern := between (set Char.isDigit) 1 2

private def besideIPv4 (c : Char) : Bool := c.isAlphanum || c == '_' || c == '.'

def ipv4CandidateRe : Pattern :=
  chain [notBehind besideIPv4, times (seq digits (set (· == '.'))) 3, digits, notAhead besideIPv4]

private def hexOrColon (c : Char) : Bool :=
  c.isDigit || decide ('a' ≤ c ∧ c ≤ 'f') || decide ('A' ≤ c ∧ c ≤ 'F') || c == ':'

def ipv6CandidateRe : Pattern :=
  let candidate := between (set hexOrColon) 2 37
  let colon := set (· == ':')
  chain [notBehind hexOrColon,
    ahead (seq candidate (notAhead hexOrColon)),
    ahead (chain [star (set hexOrColon), colon, star (set hexOrColon), colon]),
    candidate,
    notAhead hexOrColon]

end

def containsNetworkIdentifier (value : String) : Bool :=
  (ipAddress value).isSome ||
    (ipv4CandidateRe.hits value.toList).any (fun text => (IPv4Address.parse text).isSome) ||
    (ipv6CandidateRe.hits value.toList).any fun text => (IPv6Address.parse text).isSome

/-- neither detector finds anything -/
def harmless (value : String) : Bool :=
  !emailRe.search value.toList && !containsNetworkIdentifier value

example : emailRe.search "send to person@example.test".toList = true := by decide +kernel
example : emailRe.search "@example.test, person@example".toList = false := by decide +kernel
example : containsNetworkIdentifier "proxy exit: 203.0.113.7 (verified)" = true := by decide +kernel
example : containsNetworkIdentifier "proxy exit [2001:db8::7] verified" = true := by decide +kernel
example : containsNetworkIdentifier "v1.2.3.4 at 12:30:45" = false := by decide +kernel

/-! ## the walk -/

def forbiddenBusinessKeys : List String :=
  ["address", "bank_account", "body", "card_number", "customer_text", "display_name", "headers",
    "ip", "ip_address", "note", "phone", "postal_address", "query", "query_string", "request_body",
    "response_body", "user_agent"]

def forbiddenBusinessSuffixes : List String :=
  ["_address", "_bank_account", "_card_number", "_customer_text", "_display_name", "_ip",
    "_ip_address", "_note", "_phone", "_user_agent"]

section
variable (casefold : String → String) (alnum : Char → Bool)

def forbiddenKey (key : String) : Bool :=
  forbiddenBusinessKeys.contains (normalizedKey casefold key) ||
    forbiddenBusinessSuffixes.any fun suffix =>
      suffix.toList.isSuffixOf (normalizedKey casefold key).toList

-- `_reject_business_sensitive_data`
mutual
def rejectSensitive : PyValue → Except String Unit
  | .mapping items => rejectEntries items
  | .sequence .list items => rejectItems items
  | .sequence .tuple items => rejectItems items
  | .str s => do
    require (emailRe.search s.toList = false) "business audit payload contains an email address"
    require (containsNetworkIdentifier s = false)
      "business audit payload contains a network identifier"
  | .sequence .other _ => .ok ()
  | .none => .ok ()
  | .bool _ => .ok ()
  | .int _ => .ok ()
  | .float _ => .ok ()
  | .uuid _ => .ok ()
  | .datetime _ => .ok ()
  | .enum _ => .ok ()
  | .other _ => .ok ()

def rejectEntries : List (PyKey × PyValue) → Except String Unit
  | [] => .ok ()
  | (.other, _) :: rest => rejectEntries rest
  | (.str key, item) :: rest => do
    require (forbiddenKey casefold key = false) "business audit payload contains forbidden data"
    rejectSensitive item
    rejectEntries rest

def rejectItems : List PyValue → Except String Unit
  | [] => .ok ()
  | item :: rest => do
    rejectSensitive item
    rejectItems rest
end

/-- `sanitize_business_payload` of a payload that is not `None`; the order in which the text has
the fields does not change its length -/
def sanitizeBusiness (maxBytes : Int) (state : PyValue) : Except String JsonValue := do
  rejectSensitive casefold state
  let sanitized ← sanitizeState casefold alnum state
  require (JsonValue.octets (JsonValue.text (JsonValue.spaced Flonum.repr) sanitized) ≤ maxBytes)
    "business audit payload exceeds its size limit"
  return sanitized

/-! ## what should hold of a result -/

-- no forbidden key and no text with an address, at any depth
mutual
def Clean : JsonValue → Prop
  | .str s => emailRe.search s.toList = false ∧ containsNetworkIdentifier s = false
  | .array items => CleanItems items
  | .object fields => CleanFields fields
  | .null => True
  | .bool _ => True
  | .int _ => True
  | .float _ => True

def CleanItems : List JsonValue → Prop
  | [] => True
  | item :: rest => Clean item ∧ CleanItems rest

def CleanFields : List (String × JsonValue) → Prop
  | [] => True
  | (key, item) :: rest =>
    (forbiddenKey casefold key = false ∧ sensitiveKey casefold key = false) ∧
      Clean item ∧ CleanFields rest
end

/-! ## what is behind the walk -/

-- no forbidden key and no text with an address, in everything that is converted; of the items with
-- one key the last one remains
mutual
def allClean : PyValue → Bool
  | .str s => harmless s
  | .enum value => allClean value
  | .mapping items => allCleanEntries items
  | .sequence _ items => allCleanItems items
  | .none => true
  | .bool _ => true
  | .int _ => true
  | .float _ => true
  | .uuid _ => true
  | .datetime _ => true
  | .other _ => true

def allCleanEntries : List (PyKey × PyValue) → Bool
  | [] => true
  | (.other, _) :: rest => allCleanEntries rest
  | (.str key, item) :: rest =>
    ((rest.map Prod.fst).contains (.str key) || (!forbiddenKey casefold key && allClean item)) &&
      allCleanEntries rest

def allCleanItems : List PyValue → Bool
  | [] => true
  | item :: rest => allClean item && allCleanItems rest
end

-- the same of everything below a member of an enumeration, or a sequence that is no list or tuple
mutual
def hiddenClean : PyValue → Bool
  | .enum value => allClean casefold value
  | .sequence .other items => allCleanItems casefold items
  | .sequence .list items => hiddenCleanItems items
  | .sequence .tuple items => hiddenCleanItems items
  | .mapping items => hiddenCleanEntries items
  | .str _ => true
  | .none => true
  | .bool _ => true
  | .int _ => true
  | .float _ => true
  | .uuid _ => true
  | .datetime _ => true
  | .other _ => true

def hiddenCleanEntries : List (PyKey × PyValue) → Bool
  | [] => true
  | (.other, _) :: rest => hiddenCleanEntries rest
  | (.str key, item) :: rest =>
    ((rest.map Prod.fst).contains (.str key) || hiddenClean item) && hiddenCleanEntries rest

def hiddenCleanItems : List PyValue → Bool
  | [] => true
  | item :: rest => hiddenClean item && hiddenCleanItems rest
end

end

/-! ## texts without an address -/

open Pattern in
theorem emailRe_needs : Needs (· == '@') emailRe :=
  .right (.right (.right (.left (.set fun c hc => hc))))

theorem harmless_of {s : List Char} (hat : '@' ∉ s) (hdots : s.count '.' < 3)
    (hcolons : s.count ':' < 6) (hdouble : ¬ [':', ':'] <:+: s) :
    harmless (String.ofList s) = true := by
  have hv4 {part : List Char} (hpart : part <:+: s) : (IPv4Address.parse part).isSome = false := by
    rw [Option.isSome_eq_false_iff, Option.isNone_iff_eq_none]
    by_contra h
    obtain ⟨a, ha⟩ := Option.ne_none_iff_exists'.mp h
    have hcount := hpart.sublist.count_le '.'
    rw [IPv4Address.dots ha] at hcount
    omega
  have hv6 {part : List Char} (hpart : part <:+: s) : (IPv6Address.parse part).isSome = false := by
    rw [Option.isSome_eq_false_iff, Option.isNone_iff_eq_none]
    by_contra h
    obtain ⟨a, ha⟩ := Option.ne_none_iff_exists'.mp h
    rcases IPv6Address.colons ha with hinside | hmany
    · exact hdouble (hinside.trans hpart)
    · have hcount := hpart.sublist.count_le ':'
      omega
  have hemail : emailRe.search s = false := emailRe_needs.search fun c hc => by
    rw [beq_eq_false_iff_ne]
    exact fun heq => hat (heq ▸ hc)
  have hwhole : (ipAddress (String.ofList s)).isSome = false := by
    unfold ipAddress
    rw [Option.isSome_or, Option.isSome_map, Option.isSome_map, String.toList_ofList,
      hv4 (List.infix_refl s), hv6 (List.infix_refl s)]
    rfl
  have hany {r : Pattern} {parse : List Char → Bool}
      (hparse : ∀ {part}, part <:+: s → parse part = false) : (r.hits s).any parse = false := by
    rw [List.any_eq_false]
    intro part hpart
    rw [hparse (Pattern.hits_within hpart)]
    decide
  unfold harmless containsNetworkIdentifier
  rw [hwhole, String.toList_ofList, hemail, hany hv4, hany hv6]
  rfl

theorem harmless_uuid (id : Uuid) : harmless id.text = true := by
  have hnone (c : Char)
      (hc : (c == '-' || (List.range 16).any fun d => Nat.digitChar d == c) = false) :
      c ∉ id.text.toList := by
    intro hmem
    rw [Bool.or_eq_false_iff, beq_eq_false_iff_ne, List.any_eq_false] at hc
    refine uuid_characters (P := fun d => d ≠ c) (fun d hd heq => ?_) (fun heq => hc.1 heq.symm) id
      c hmem rfl
    exact hc.2 d (List.mem_range.mpr hd) (beq_iff_eq.mpr heq)
  have hcolon : ':' ∉ id.text.toList := hnone ':' (by decide +kernel)
  rw [← String.ofList_toList (s := id.text)]
  refine harmless_of (hnone '@' (by decide +kernel)) ?_ ?_ fun h => hcolon (h.mem List.mem_cons_self)
  · rw [List.count_eq_zero.mpr (hnone '.' (by decide +kernel))]
    decide
  · rw [List.count_eq_zero.mpr hcolon]
    decide

section
variable {c : Char} {x y : List Char}

theorem not_doubled_append (hx : c ∉ x) (hy : ¬ [c, c] <:+: y) : ¬ [c, c] <:+: x ++ y := by
  induction x with
  | nil => exact hy
  | cons d x ih =>
    rw [List.mem_cons, not_or] at hx
    intro h
    rcases List.infix_cons_iff.mp h with hfirst | hrest
    · exact hx.1 (List.cons_prefix_cons.mp hfirst).1
    · exact ih hx.2 hrest

theorem not_doubled_cons (hhead : y.head? ≠ some c) (hy : ¬ [c, c] <:+: y) :
    ¬ [c, c] <:+: c :: y := by
  intro h
  rcases List.infix_cons_iff.mp h with hfirst | hrest
  · obtain ⟨rest, hrest⟩ := (List.cons_prefix_cons.mp hfirst).2
    exact hhead (hrest ▸ rfl)
  · exact hy hrest

theorem not_doubled_of_not_mem (hx : c ∉ x) : ¬ [c, c] <:+: x := fun h =>
  hx (h.mem List.mem_cons_self)

end

theorem harmless_time (t : UtcTime) : harmless (String.ofList t.text) = true := by
  have hno {c : Char} (hc : c.isDigit = false) (width n : Nat) : c ∉ padded width n := by
    intro hmem
    rw [padded_digits width n c hmem] at hc
    cases hc
  have hzero {c : Char} (hc : c.isDigit = false) (width n : Nat) : (padded width n).count c = 0 :=
    List.count_eq_zero.mpr (hno hc width n)
  have hat : '@' ∉ t.text := by
    intro hmem
    exact absurd (t.characters _ hmem) (by decide)
  obtain ⟨fraction, hfraction, hdot, hcolon⟩ : ∃ fraction : List Char,
      (if t.microsecond.val = 0 then [] else '.' :: padded 6 t.microsecond.val) = fraction ∧
        fraction.count '.' ≤ 1 ∧ ':' ∉ fraction := by
    by_cases h : t.microsecond.val = 0
    · rw [if_pos h]
      exact ⟨[], rfl, Nat.zero_le 1, List.not_mem_nil⟩
    · rw [if_neg h]
      refine ⟨_, rfl, ?_, ?_⟩
      · rw [List.count_cons_self, hzero (by decide)]
      · rw [List.mem_cons, not_or]
        exact ⟨by decide, hno (by decide) _ _⟩
  have htext : t.text = (padded 4 t.year.val ++ '-' :: (padded 2 t.month.val ++ '-' ::
      (padded 2 t.day.val ++ 'T' :: padded 2 t.hour.val))) ++ ':' :: (padded 2 t.minute.val ++
        ':' :: (padded 2 t.second.val ++ (fraction ++ ['Z']))) := by
    unfold UtcTime.text
    rw [hfraction]
    simp only [List.append_assoc, List.cons_append]
  refine harmless_of hat ?_ ?_ ?_
  · rw [htext]
    simp [List.count_append, hzero (c := '.') (by decide)]
    omega
  · rw [htext]
    simp [List.count_append, hzero (c := ':') (by decide), List.count_eq_zero.mpr hcolon]
  · rw [htext]
    have hhead (n : Nat) (rest : List Char) : (padded 2 n ++ rest).head? ≠ some ':' := by
      rw [List.head?_append_of_ne_nil _ (padded_ne_nil 2 n)]
      exact fun hfirst => hno (by decide) 2 n (List.mem_of_head? hfirst)
    have hday : ':' ∉ padded 4 t.year.val ++ '-' :: (padded 2 t.month.val ++ '-' ::
        (padded 2 t.day.val ++ 'T' :: padded 2 t.hour.val)) := by
      simp only [List.mem_append, List.mem_cons, not_or]
      exact ⟨hno (by decide) _ _, by decide, hno (by decide) _ _, by decide, hno (by decide) _ _,
        by decide, hno (by decide) _ _⟩
    have hrest : ':' ∉ padded 2 t.second.val ++ (fraction ++ ['Z']) := by
      simp only [List.mem_append, List.mem_singleton, not_or]
      exact ⟨hno (by decide) _ _, hcolon, by decide⟩
    exact not_doubled_append hday (not_doubled_cons (hhead _ _) (not_doubled_append
      (hno (by decide) _ _) (not_doubled_cons (hhead _ _) (not_doubled_of_not_mem hrest))))

/-! ## a clean result is accepted -/

section
variable {casefold : String → String} {alnum : Char → Bool} {depth : Nat}

theorem harmless_iff {s : String} : harmless s = true ↔
    emailRe.search s.toList = false ∧ containsNetworkIdentifier s = false := by
  unfold harmless
  rw [Bool.and_eq_true, Bool.not_eq_true', Bool.not_eq_true']

theorem cleanItems {items : List JsonValue} :
    CleanItems casefold items ↔ ∀ item ∈ items, Clean casefold item := by
  induction items with
  | nil => simp [CleanItems]
  | cons item rest ih => rw [CleanItems, ih, List.forall_mem_cons]

/-- a field with a permitted key and a clean value -/
def CleanField (casefold : String → String) (field : String × JsonValue) : Prop :=
  (forbiddenKey casefold field.1 = false ∧ sensitiveKey casefold field.1 = false) ∧
    Clean casefold field.2

theorem cleanFields {fields : List (String × JsonValue)} :
    CleanFields casefold fields ↔ ∀ field ∈ fields, CleanField casefold field := by
  induction fields with
  | nil => simp [CleanFields]
  | cons field rest ih =>
    rw [CleanFields, ih, List.forall_mem_cons, ← and_assoc]
    rfl

theorem rejectItems_embed {items : List JsonValue}
    (h : ∀ item ∈ items, rejectSensitive casefold (embed item) = .ok ()) :
    rejectItems casefold (embed.embedItems items) = .ok () := by
  induction items with
  | nil => rfl
  | cons item rest ih =>
    rw [List.forall_mem_cons] at h
    simp only [embed.embedItems, rejectItems, bind_ok]
    exact ⟨(), h.1, ih h.2⟩

theorem rejectEntries_embed {fields : List (String × JsonValue)}
    (h : ∀ field ∈ fields, forbiddenKey casefold field.1 = false ∧
      rejectSensitive casefold (embed field.2) = .ok ()) :
    rejectEntries casefold (embed.embedFields fields) = .ok () := by
  induction fields with
  | nil => rfl
  | cons field rest ih =>
    rw [List.forall_mem_cons] at h
    simp only [embed.embedFields, rejectEntries, bind_ok, require_ok]
    exact ⟨(), h.1.1, (), h.1.2, ih h.2⟩

theorem rejectSensitive_embed (j : JsonValue) :
    Clean casefold j → rejectSensitive casefold (embed j) = .ok () := by
  induction j using JsonValue.recursion with
  | null => exact fun _ => rfl
  | bool b => exact fun _ => rfl
  | int n => exact fun _ => rfl
  | float f => exact fun _ => rfl
  | str s =>
    intro h
    simp only [embed, rejectSensitive, bind_ok, require_ok]
    exact ⟨(), h.1, h.2⟩
  | array items ih =>
    intro h
    rw [Clean, cleanItems] at h
    simp only [embed, rejectSensitive]
    exact rejectItems_embed fun item hitem => ih item hitem (h item hitem)
  | object fields ih =>
    intro h
    rw [Clean, cleanFields] at h
    simp only [embed, rejectSensitive]
    exact rejectEntries_embed fun field hfield =>
      ⟨(h field hfield).1.1, ih field hfield (h field hfield).2⟩

/-! ## the result is clean when everything is -/

theorem auditEntries_clean {items : List (PyKey × PyValue)} (depth : Nat)
    (hitems : ∀ item ∈ items, ∀ j, auditValue casefold alnum depth item.2 = .ok j →
      (Clean casefold j ↔ allClean casefold item.2 = true)) :
    ∀ {result fields : List (String × JsonValue)},
      auditEntries casefold alnum depth result items = .ok fields →
      (CleanFields casefold fields ↔
        (∀ field ∈ result, .str field.1 ∉ items.map Prod.fst → CleanField casefold field) ∧
          allCleanEntries casefold items = true) := by
  induction items with
  | nil =>
    intro result fields h
    cases h
    rw [cleanFields, allCleanEntries]
    constructor
    · intro hall
      exact ⟨fun field hfield _ => hall field hfield, rfl⟩
    · intro hall field hfield
      exact hall.1 field hfield List.not_mem_nil
  | cons item rest ih =>
    obtain ⟨key, item⟩ := item
    intro result fields h
    cases key with
    | other => cases h
    | str key =>
      rw [List.forall_mem_cons] at hitems
      simp only [auditEntries, bind_ok] at h
      obtain ⟨_, hkey, value, hvalue, hrest⟩ := h
      have hplain := (requireKey_ok.mp hkey).plain
      have hvalue' := hitems.1 value hvalue
      rw [ih hitems.2 hrest, allCleanEntries, Bool.and_eq_true, ← and_assoc]
      refine and_congr_left fun _ => ?_
      rw [Bool.or_eq_true, Bool.and_eq_true, Bool.not_eq_true', List.contains_eq_mem,
        decide_eq_true_eq, ← hvalue', List.map_cons]
      constructor
      · intro hall
        refine ⟨fun field hfield hnew => ?_, ?_⟩
        · rw [List.mem_cons, not_or] at hnew
          have hne : field.1 ≠ key := fun heq => hnew.1 (congrArg PyKey.str heq)
          exact hall field (mem_setKey_iff.mpr (.inl ⟨hfield, hne⟩)) hnew.2
        · by_cases hlater : PyKey.str key ∈ rest.map Prod.fst
          · exact .inl hlater
          · have hfield := hall (key, value) (mem_setKey_iff.mpr (.inr rfl)) hlater
            exact .inr ⟨hfield.1.1, hfield.2⟩
      · intro hall field hfield hnew
        rcases mem_setKey_iff.mp hfield with ⟨hold, hne⟩ | rfl
        · refine hall.1 field hold ?_
          rw [List.mem_cons, not_or]
          exact ⟨fun heq => hne (PyKey.str.inj heq), hnew⟩
        · have hclean := hall.2.resolve_left hnew
          exact ⟨⟨hclean.1, hplain⟩, hclean.2⟩

theorem auditSequence_clean {items : List PyValue} (depth : Nat)
    (hitems : ∀ item ∈ items, ∀ j, auditValue casefold alnum depth item = .ok j →
      (Clean casefold j ↔ allClean casefold item = true)) :
    ∀ {values : List JsonValue}, auditSequence casefold alnum depth items = .ok values →
      (CleanItems casefold values ↔ allCleanItems casefold items = true) := by
  induction items with
  | nil =>
    intro values h
    cases h
    exact iff_of_true trivial rfl
  | cons item rest ih =>
    intro values h
    rw [List.forall_mem_cons] at hitems
    simp only [auditSequence, bind_ok, pure_ok] at h
    obtain ⟨value, hvalue, values', hrest, rfl⟩ := h
    rw [CleanItems, allCleanItems, Bool.and_eq_true, hitems.1 value hvalue, ih hitems.2 hrest]

theorem auditValue_clean (v : PyValue) : ∀ {depth : Nat} {j : JsonValue},
    auditValue casefold alnum depth v = .ok j →
      (Clean casefold j ↔ allClean casefold v = true) := by
  induction v using PyValue.recursion with
  | none =>
    intro depth j h
    simp only [auditValue, bind_ok] at h
    obtain ⟨_, -, ⟨⟩⟩ := h
    exact iff_of_true trivial rfl
  | bool b =>
    intro depth j h
    simp only [auditValue, bind_ok] at h
    obtain ⟨_, -, ⟨⟩⟩ := h
    exact iff_of_true trivial rfl
  | int n =>
    intro depth j h
    simp only [auditValue, bind_ok] at h
    obtain ⟨_, -, ⟨⟩⟩ := h
    exact iff_of_true trivial rfl
  | str s =>
    intro depth j h
    simp only [auditValue, bind_ok, pure_ok] at h
    obtain ⟨_, -, _, -, rfl⟩ := h
    rw [Clean, allClean, harmless_iff]
  | float f =>
    intro depth j h
    simp only [auditValue, bind_ok, pure_ok] at h
    obtain ⟨_, -, _, -, rfl⟩ := h
    exact iff_of_true trivial rfl
  | uuid id =>
    intro depth j h
    simp only [auditValue, bind_ok] at h
    obtain ⟨_, -, ⟨⟩⟩ := h
    exact iff_of_true (harmless_iff.mp (harmless_uuid id)) rfl
  | datetime t =>
    intro depth j h
    cases t with
    | naive => simp only [auditValue, bind_ok, reduceCtorEq, and_false, exists_false] at h
    | outOfRange => simp only [auditValue, bind_ok, reduceCtorEq, and_false, exists_false] at h
    | aware utc =>
      simp only [auditValue, bind_ok] at h
      obtain ⟨_, -, ⟨⟩⟩ := h
      exact iff_of_true (harmless_iff.mp (harmless_time utc)) rfl
  | enum value ih =>
    intro depth j h
    simp only [auditValue, bind_ok] at h
    obtain ⟨_, -, hvalue⟩ := h
    rw [allClean]
    exact ih hvalue
  | mapping items ih =>
    intro depth j h
    simp only [auditValue, bind_ok, pure_ok] at h
    obtain ⟨_, -, _, -, fields, hfields, rfl⟩ := h
    rw [Clean, allClean, auditEntries_clean _ (fun item hitem j hj => ih item hitem hj) hfields]
    exact and_iff_right fun field hfield => absurd hfield List.not_mem_nil
  | sequence kind items ih =>
    intro depth j h
    simp only [auditValue, bind_ok, pure_ok] at h
    obtain ⟨_, -, _, -, values, hvalues, rfl⟩ := h
    rw [Clean, allClean]
    exact auditSequence_clean _ (fun item hitem j hj => ih item hitem hj) hvalues
  | other typeName =>
    intro depth j h
    simp only [auditValue, bind_ok, reduceCtorEq, and_false, exists_false] at h

/-! ## what the walk has opened -/

theorem rejectEntries_hidden {items : List (PyKey × PyValue)}
    (hitems : ∀ item ∈ items, rejectSensitive casefold item.2 = .ok () →
      allClean casefold item.2 = hiddenClean casefold item.2)
    (h : rejectEntries casefold items = .ok ()) :
    allCleanEntries casefold items = hiddenCleanEntries casefold items := by
  induction items with
  | nil => rfl
  | cons item rest ih =>
    obtain ⟨key, item⟩ := item
    rw [List.forall_mem_cons] at hitems
    cases key with
    | other => exact ih hitems.2 h
    | str key =>
      simp only [rejectEntries, bind_ok, require_ok] at h
      obtain ⟨_, hkey, _, hitem, hrest⟩ := h
      rw [allCleanEntries, hiddenCleanEntries, ih hitems.2 hrest, hkey, hitems.1 hitem,
        Bool.not_false, Bool.true_and]

theorem rejectItems_hidden {items : List PyValue}
    (hitems : ∀ item ∈ items, rejectSensitive casefold item = .ok () →
      allClean casefold item = hiddenClean casefold item)
    (h : rejectItems casefold items = .ok ()) :
    allCleanItems casefold items = hiddenCleanItems casefold items := by
  induction items with
  | nil => rfl
  | cons item rest ih =>
    rw [List.forall_mem_cons] at hitems
    simp only [rejectItems, bind_ok] at h
    obtain ⟨_, hitem, hrest⟩ := h
    rw [allCleanItems, hiddenCleanItems, ih hitems.2 hrest, hitems.1 hitem]

/-- behind the walk only what it does not open is left to ask -/
theorem rejectSensitive_hidden (v : PyValue) : rejectSensitive casefold v = .ok () →
    allClean casefold v = hiddenClean casefold v := by
  induction v using PyValue.recursion with
  | none => exact fun _ => rfl
  | bool b => exact fun _ => rfl
  | int n => exact fun _ => rfl
  | str s =>
    intro h
    simp only [rejectSensitive, bind_ok, require_ok] at h
    obtain ⟨_, hemail, hnetwork⟩ := h
    exact harmless_iff.mpr ⟨hemail, hnetwork⟩
  | float f => exact fun _ => rfl
  | uuid id => exact fun _ => rfl
  | datetime t => exact fun _ => rfl
  | enum value ih => exact fun _ => rfl
  | mapping items ih => exact fun h => rejectEntries_hidden ih h
  | sequence kind items ih =>
    cases kind with
    | list => exact fun h => rejectItems_hidden ih h
    | tuple => exact fun h => rejectItems_hidden ih h
    | other => exact fun _ => rfl
  | other typeName => exact fun _ => rfl

theorem sanitizeBusiness_ok {maxBytes : Int} {state : PyValue} {j : JsonValue} :
    sanitizeBusiness casefold alnum maxBytes state = .ok j ↔
      rejectSensitive casefold state = .ok () ∧ sanitizeState casefold alnum state = .ok j ∧
        JsonValue.octets (JsonValue.text (JsonValue.spaced Flonum.repr) j) ≤ maxBytes := by
  unfold sanitizeBusiness
  simp only [bind_ok, require_ok, pure_ok]
  constructor
  · intro h
    obtain ⟨_, hreject, sanitized, hstate, _, hsize, rfl⟩ := h
    exact ⟨hreject, hstate, hsize⟩
  · intro h
    exact ⟨(), h.1, j, h.2.1, (), h.2.2, rfl⟩

end

end PgRbac.Payloads
