import PgRbac.AuditValues
import Mathlib.Algebra.Order.BigOperators.Group.List
import Mathlib.Data.Finset.Sort

/-!
# Audit rows

An audit row checks its own columns when it is built, inside the transaction of its command, and
PostgreSQL checks its texts when it is stored.

* `AuditState.json`              the payloads of the services;
* `RbacAuditEvent.validate`, `RbacAuditEvent.store`    building and storing a row;
* `StateWritable`                the states that pass both;
* `sanitize_role`                the payload of a role passes exactly when its texts do.
-/

set_option linter.unusedVariables false

namespace PgRbac

open Fallible Payloads

/-! ## payloads -/

/-- the payload functions of the services and of the operator's scripts -/
def AuditState.json : AuditState → JsonValue
  | .snapshot p => .object
    [("user_id", .str p.userId.text), ("is_active", .bool p.isActive),
      ("role_ids", .array (p.roleIds.map fun id => .str id.text)),
      ("role_keys", .array (p.roleKeys.map .str)),
      ("permissions", .array ((p.permissions.sort (· ≤ ·)).map .str)),
      ("management_tier", .int p.managementTier), ("is_protected", .bool p.isProtected),
      ("is_super_admin", .bool p.isSuperAdmin), ("authz_version", .int p.authzVersion)]
  | .tokenVersion n => .object [("token_version", .int n)]
  | .role p => .object
    [("role_id", .str p.id.text), ("key", .str p.key), ("name", .str p.name),
      ("description", .str p.description), ("management_tier", .int p.managementTier),
      ("is_active", .bool p.isActive), ("is_system", .bool p.isSystem),
      ("is_deleted", .bool p.deletedAt.isSome),
      ("permissions", .array ((p.permissions.sort (· ≤ ·)).map .str)), ("version", .int p.version)]
  | .provision userId defaultRoleId authzVersion => .object
    [("user_id", .str userId.text), ("default_role_id", .str defaultRoleId.text),
      ("authz_version", .int authzVersion)]
  | .bootstrap superAdminUserId superAdminRoleId baseUserRoleId changed => .object
    [("super_admin_user_id", .str superAdminUserId.text),
      ("super_admin_role_id", .str superAdminRoleId.text),
      ("base_user_role_id", .str baseUserRoleId.text), ("changed", .bool changed)]
  | .superAdmin userId => .object [("super_admin_user_id", .str userId.text)]

/-! ## rows -/

section
open Pattern

private def lowerDigit : Pattern := set fun c => c.isLower || c.isDigit

def actionRe : Pattern :=
  seq (set Char.isLower) (seq (star lowerDigit)
    (star (seq (set fun c => ['.', '_', ':', '-'].contains c) (plus lowerDigit))))

def reasonRe : Pattern :=
  seq (set Char.isLower) (star (set fun c => c.isLower || c.isDigit || c == '_'))

def requestIdRe : Pattern :=
  seq (set Char.isAlphanum) (star (set fun c => c.isAlphanum || [':', '.', '_', '-'].contains c))

/-- a text of bounded length in a pattern -/
def validText (least most : Nat) (pattern : Pattern) (message value : String) : Except String Unit :=
  require (least ≤ value.toList.length ∧ value.toList.length ≤ most ∧
    pattern.fullmatch value.toList = true) message

end

def validateAuditAction : String → Except String Unit :=
  validText 3 120 actionRe "invalid audit action"

def validateAuditReason : String → Except String Unit :=
  validText 2 80 reasonRe "invalid audit reason code"

def validateAuditRequestId : String → Except String Unit :=
  validText 1 128 requestIdRe "invalid audit request or correlation ID"

/-- a missing state is kept -/
def validateState (alnum : Char → Bool) : Option AuditState → Except String Unit
  | none => .ok ()
  | some state => (sanitizeState asciiCasefold alnum (embed state.json)).map fun _ => ()

/-- the validators of the columns, as the constructor runs them -/
def RbacAuditEvent.validate (alnum : Char → Bool) (event : RbacAuditEvent) :
    Except String Unit := do
  validateAuditAction event.action
  validateAuditReason event.reasonCode
  validateState alnum event.beforeState
  validateState alnum event.afterState
  validateAuditRequestId event.requestId

def storableState : Option AuditState → Bool
  | none => true
  | some state => state.json.texts.all storableText

/-- the row is built, then written with the rest of its transaction -/
def RbacAuditEvent.store (alnum : Char → Bool) (event : RbacAuditEvent) : Except Failure Unit := do
  match event.validate alnum with
  | .error message => .error (.valueError message)
  | .ok () =>
    require (storableState event.beforeState = true ∧ storableState event.afterState = true)
      (.database "invalid byte sequence for encoding \"UTF8\": 0x00")

/-! ## the payload of a role -/

open JsonValue

/-- the fields of the payload of a role -/
def roleFields : List String :=
  ["role_id", "key", "name", "description", "management_tier", "is_active", "is_system",
    "is_deleted", "permissions", "version"]

/-- a role within the bounds of its request and of the catalog -/
structure RoleBounds (r : RoleResponse) : Prop where
  key : roleKeyFormat r.key = true
  name : r.name.toList.length ≤ 160
  description : r.description.toList.length ≤ 1000
  tier : r.managementTier ≤ 1000
  version : r.version < 2 ^ 63
  permissions : r.permissions ⊆ superAdminPermissionKeys

section
variable {alnum : Char → Bool} {r : RoleResponse}

theorem RoleBounds.permission (h : RoleBounds r) {s : String}
    (hs : s ∈ r.permissions.sort (· ≤ ·)) : ∃ k : PermissionKey, s = k.value := by
  have hmem := h.permissions ((Finset.mem_sort _).mp hs)
  unfold superAdminPermissionKeys at hmem
  obtain ⟨k, -, rfl⟩ := List.mem_map.mp (List.mem_toFinset.mp hmem)
  exact ⟨k, rfl⟩

theorem RoleBounds.permissions_length (h : RoleBounds r) :
    (r.permissions.sort (· ≤ ·)).length ≤ 18 := by
  rw [Finset.length_sort]
  exact (Finset.card_le_card h.permissions).trans (by decide +kernel)

theorem RoleBounds.size (h : RoleBounds r) :
    octets ((AuditState.role r).json.text compact) ≤ maxStateBytes := by
  have hkeys : (roleFields.all fun k => octets (quote k) ≤ 17) = true := by decide +kernel
  have hkey (k : String) (hk : k ∈ roleFields) : octets (quote k) ≤ 17 :=
    of_decide_eq_true (List.all_eq_true.mp hkeys k hk)
  have hbool (b : Bool) : octets ((JsonValue.bool b).text compact) ≤ 5 := by cases b <;> decide
  have hint (n : Nat) (hn : n < 10 ^ 19) : octets ((JsonValue.int n).text compact) ≤ 76 :=
    octets_int_le (by decide) hn
  have hid := octets_quote_le r.id.text
  rw [length_uuid] at hid
  have hrole := octets_quote_le r.key
  have hlength := (writable_roleKey (fun _ => false) h.key).2
  have hname := octets_quote_le r.name
  have hdescription := octets_quote_le r.description
  have htier := hint r.managementTier (Nat.lt_of_le_of_lt h.tier (by decide))
  have hversion := hint r.version (h.version.trans (by decide))
  have hpermission : ∀ n ∈ ((r.permissions.sort (· ≤ ·)).map JsonValue.str).map (itemOctets compact),
      n ≤ 61 := by
    intro n hn
    obtain ⟨item, hitem, rfl⟩ := List.mem_map.mp hn
    obtain ⟨s, hs, rfl⟩ := List.mem_map.mp hitem
    obtain ⟨k, rfl⟩ := h.permission hs
    show octets (quote k.value) + 1 ≤ 61
    cases k <;> decide +kernel
  have hpermissions := (octets_array_le _).trans
    (Nat.add_le_add_left (List.sum_le_card_nsmul _ _ hpermission) 2)
  have hcount := Nat.mul_le_mul_right 61 h.permissions_length
  rw [List.length_map, List.length_map, nsmul_eq_mul, Nat.cast_id] at hpermissions
  have h1 := hkey "role_id" (by decide)
  have h2 := hkey "key" (by decide)
  have h3 := hkey "name" (by decide)
  have h4 := hkey "description" (by decide)
  have h5 := hkey "management_tier" (by decide)
  have h6 := hkey "is_active" (by decide)
  have h7 := hkey "is_system" (by decide)
  have h8 := hkey "is_deleted" (by decide)
  have h9 := hkey "permissions" (by decide)
  have h10 := hkey "version" (by decide)
  have hactive := hbool r.isActive
  have hsystem := hbool r.isSystem
  have hdeleted := hbool r.deletedAt.isSome
  have hname' := h.name
  have hdescription' := h.description
  refine (octets_object_le _).trans ?_
  show 2 + (octets (quote "role_id") + 1 + (octets (quote r.id.text) + 1) +
    (octets (quote "key") + 1 + (octets (quote r.key) + 1) +
    (octets (quote "name") + 1 + (octets (quote r.name) + 1) +
    (octets (quote "description") + 1 + (octets (quote r.description) + 1) +
    (octets (quote "management_tier") + 1 + (octets ((JsonValue.int r.managementTier).text compact) + 1) +
    (octets (quote "is_active") + 1 + (octets ((JsonValue.bool r.isActive).text compact) + 1) +
    (octets (quote "is_system") + 1 + (octets ((JsonValue.bool r.isSystem).text compact) + 1) +
    (octets (quote "is_deleted") + 1 + (octets ((JsonValue.bool r.deletedAt.isSome).text compact) + 1) +
    (octets (quote "permissions") + 1 + (octets ((JsonValue.array
      ((r.permissions.sort (· ≤ ·)).map .str)).text compact) + 1) +
    (octets (quote "version") + 1 + (octets ((JsonValue.int r.version).text compact) + 1) +
      0)))))))))) ≤ 16384
  omega

theorem RoleBounds.printable (h : RoleBounds r) : printable (AuditState.role r).json = true := by
  have hshort {n k : Nat} (hn : n < 2 ^ 63) (hk : 63 ≤ k) : n < 10 ^ k :=
    Nat.lt_of_lt_of_le hn
      ((Nat.pow_le_pow_left (by decide) 63).trans (Nat.pow_le_pow_right (by decide) hk))
  have htier : (r.managementTier : Int).natAbs < 10 ^ 4300 :=
    hshort (Nat.lt_of_le_of_lt h.tier (by decide)) (by decide)
  have hversion : (r.version : Int).natAbs < 10 ^ 4300 := hshort h.version (by decide)
  have hitems (texts : List String) : printableItems (texts.map .str) = true := by
    induction texts with
    | nil => rfl
    | cons s texts ih => exact ih
  simp only [AuditState.json, Payloads.printable, printableFields, hitems, decide_eq_true htier,
    decide_eq_true hversion, Bool.and_self]

theorem sanitize_role_texts {j : JsonValue}
    (h : sanitizeState asciiCasefold alnum (embed (AuditState.role r).json) = .ok j) :
    sensitiveText alnum r.name = false ∧ sensitiveText alnum r.description = false := by
  have hvalue := (sanitizeState_ok.mp h).1
  rw [show (AuditState.role r).json = .object _ from rfl] at hvalue
  simp only [embed, auditValue, bind_ok, require_ok, pure_ok] at hvalue
  obtain ⟨_, -, _, -, result, hentries, -⟩ := hvalue
  have hfields := auditEntries_embed_ok hentries
  exact ⟨auditValue_str (hfields ("name", .str r.name) (by simp)),
    auditValue_str (hfields ("description", .str r.description) (by simp))⟩

/-- **the payload of a role is refused for its name and its description alone**, and otherwise kept as
it is -/
theorem sanitize_role (h : RoleBounds r) :
    sanitizeState asciiCasefold alnum (embed (AuditState.role r).json) =
        .ok (AuditState.role r).json ↔
      sensitiveText alnum r.name = false ∧ sensitiveText alnum r.description = false := by
  have hsafe : (roleFields.all fun k => (requireKey asciiCasefold k).isOk) = true := by decide +kernel
  have hkey (k : String) (hk : k ∈ roleFields) : SafeKey asciiCasefold k :=
    requireKey_ok.mp (ok_of_isOk (List.all_eq_true.mp hsafe k hk))
  have hone : 1 ≤ maxDepth := by decide
  constructor
  · exact sanitize_role_texts
  · intro htexts
    refine sanitizeState_ok.mpr ⟨auditValue_embed _ ?_, ⟨_, rfl⟩, h.printable, h.size⟩
    rw [show (AuditState.role r).json = .object _ from rfl, Admissible, admissibleFields]
    refine ⟨by decide, show 10 ≤ 100 by decide, show roleFields.Nodup by decide, ?_⟩
    have hpermissions : Admissible asciiCasefold alnum 1
        (.array ((r.permissions.sort (· ≤ ·)).map .str)) := by
      rw [Admissible, admissibleItems, List.length_map]
      refine ⟨hone, h.permissions_length.trans (by decide), ?_⟩
      intro item hitem
      obtain ⟨s, hs, rfl⟩ := List.mem_map.mp hitem
      obtain ⟨k, rfl⟩ := h.permission hs
      exact ⟨by decide, (writable_permission alnum k).1⟩
    intro f hf
    simp only [List.mem_cons, List.not_mem_nil, or_false] at hf
    rcases hf with rfl | rfl | rfl | rfl | rfl | rfl | rfl | rfl | rfl | rfl
    · exact ⟨hkey "role_id" (by decide), hone, (writable_uuid alnum r.id).1⟩
    · exact ⟨hkey "key" (by decide), hone, (writable_roleKey alnum h.key).1.1⟩
    · exact ⟨hkey "name" (by decide), hone, htexts.1⟩
    · exact ⟨hkey "description" (by decide), hone, htexts.2⟩
    · exact ⟨hkey "management_tier" (by decide), hone⟩
    · exact ⟨hkey "is_active" (by decide), hone⟩
    · exact ⟨hkey "is_system" (by decide), hone⟩
    · exact ⟨hkey "is_deleted" (by decide), hone⟩
    · exact ⟨hkey "permissions" (by decide), hpermissions⟩
    · exact ⟨hkey "version" (by decide), hone⟩

theorem validateState_some {state : AuditState} :
    validateState alnum (some state) = .ok () ↔
      ∃ j, sanitizeState asciiCasefold alnum (embed state.json) = .ok j := by
  show Except.map _ _ = _ ↔ _
  rw [map_ok]
  exact exists_congr fun j => and_iff_left rfl

theorem validateState_role (h : RoleBounds r) : validateState alnum (some (.role r)) = .ok () ↔
    sensitiveText alnum r.name = false ∧ sensitiveText alnum r.description = false := by
  rw [validateState_some]
  constructor
  · rintro ⟨j, hj⟩
    exact sanitize_role_texts hj
  · exact fun htexts => ⟨_, (sanitize_role h).mpr htexts⟩

theorem textsOfItems_map (texts : List String) :
    JsonValue.textsOfItems (texts.map .str) = texts := by
  induction texts with
  | nil => rfl
  | cons s texts ih =>
    show s :: JsonValue.textsOfItems (texts.map .str) = _
    rw [ih]

theorem storable_role (h : RoleBounds r) :
    storableState (some (.role r)) = true ↔
      storableText r.name = true ∧ storableText r.description = true := by
  have hkeys : roleFields.all storableText = true := by decide +kernel
  have hpermissions : (r.permissions.sort (· ≤ ·)).all storableText = true := by
    rw [List.all_eq_true]
    intro s hs
    obtain ⟨k, rfl⟩ := h.permission hs
    exact (writable_permission (fun _ => false) k).2
  show (AuditState.role r).json.texts.all storableText = true ↔ _
  simp only [roleFields, List.all_cons, List.all_nil, Bool.and_true, Bool.and_eq_true] at hkeys
  simp only [AuditState.json, JsonValue.texts, JsonValue.textsOfFields, textsOfItems_map,
    List.cons_append, List.nil_append, List.append_nil, List.all_cons, List.all_append, List.all_nil,
    hkeys, hpermissions, (writable_uuid (fun _ => false) r.id).2,
    (writable_roleKey (fun _ => false) h.key).1.2, Bool.true_and, Bool.and_true, Bool.and_eq_true]

/-- a state that a row can hold and PostgreSQL can store -/
def StateWritable (alnum : Char → Bool) (state : Option AuditState) : Prop :=
  validateState alnum state = .ok () ∧ storableState state = true

theorem stateWritable_role (h : RoleBounds r) :
    StateWritable alnum (some (.role r)) ↔
      Writable alnum r.name ∧ Writable alnum r.description := by
  have hvalid : validateState alnum (some (.role r)) = .ok () ↔ _ := validateState_role h
  unfold StateWritable Writable
  rw [hvalid, storable_role h]
  exact and_and_and_comm

theorem StateWritable.role_texts (h : StateWritable alnum (some (.role r))) :
    Writable alnum r.name ∧ Writable alnum r.description := by
  obtain ⟨j, hj⟩ := validateState_some.mp h.1
  have hsafe := sanitize_role_texts hj
  have hstored : (AuditState.role r).json.texts.all storableText = true := h.2
  rw [List.all_eq_true] at hstored
  have hname : r.name ∈ (AuditState.role r).json.texts := by
    simp [AuditState.json, JsonValue.texts, JsonValue.textsOfFields]
  have hdescription : r.description ∈ (AuditState.role r).json.texts := by
    simp [AuditState.json, JsonValue.texts, JsonValue.textsOfFields]
  exact ⟨⟨hsafe.1, hstored _ hname⟩, ⟨hsafe.2, hstored _ hdescription⟩⟩

theorem stateWritable_none : StateWritable alnum none := ⟨rfl, rfl⟩

theorem store_writable {event : RbacAuditEvent} (h : event.store alnum = .ok ()) :
    StateWritable alnum event.beforeState ∧ StateWritable alnum event.afterState := by
  unfold RbacAuditEvent.store at h
  cases hv : event.validate alnum with
  | error message =>
    rw [hv] at h
    cases h
  | ok u =>
    rw [hv] at h
    have hstored := (require_ok _ _ _).mp h
    unfold RbacAuditEvent.validate at hv
    simp only [bind_ok] at hv
    obtain ⟨_, -, _, -, _, hbefore, _, hafter, -⟩ := hv
    exact ⟨⟨hbefore, hstored.1⟩, ⟨hafter, hstored.2⟩⟩

theorem store_ok {event : RbacAuditEvent} (haction : validateAuditAction event.action = .ok ())
    (hreason : validateAuditReason event.reasonCode = .ok ())
    (hrequest : validateAuditRequestId event.requestId = .ok ()) :
    event.store alnum = .ok () ↔
      StateWritable alnum event.beforeState ∧ StateWritable alnum event.afterState := by
  constructor
  · exact store_writable
  · intro h
    have hvalid : event.validate alnum = .ok () := by
      unfold RbacAuditEvent.validate
      simp only [bind_ok, haction, hreason, hrequest]
      exact ⟨(), trivial, (), trivial, (), h.1.1, (), h.2.1, trivial⟩
    unfold RbacAuditEvent.store
    rw [hvalid]
    exact (require_ok _ _ _).mpr ⟨h.1.2, h.2.2⟩

theorem store_error {event : RbacAuditEvent} {e : Failure} (h : event.store alnum = .error e) :
    (∃ message, e = .valueError message) ∨ ∃ message, e = .database message := by
  unfold RbacAuditEvent.store at h
  cases hv : event.validate alnum with
  | ok u =>
    rw [hv] at h
    exact .inr ⟨_, ((require_error _ _ _).mp h).2.symm⟩
  | error message =>
    rw [hv] at h
    cases h
    exact .inl ⟨message, rfl⟩

end

end PgRbac
