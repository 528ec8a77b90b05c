import PgRbac.Lib.Fullmatch
import PgRbac.LimiterKeys
import PgRbac.Access
import Mathlib.Data.String.Basic

/-!
# Texts in audit states

What `app/core/audit.py` finds in a text, and what PostgreSQL does not store.

* `sensitiveText`, `sensitiveKeys`    what a state must not hold;
* `storableText`                     what PostgreSQL can store;
* `sensitiveTextRe_needs`            a sensitive text has a space, a colon or an equals sign;
* `Writable`                         a text that passes both: ids, permissions, the keys of roles.
-/

set_option linter.unusedVariables false

namespace PgRbac

open Fallible Ip

/-! ## texts -/

/-- case is ignored: the small letter, also of the four other characters that have an ASCII one -/
def ignoreCase (c : Char) : Char :=
  if c = 'ı' ∨ c = 'İ' then 'i' else if c = 'ſ' then 's' else if c = '\u212a' then 'k' else c.toLower

/-- a character of a word: `\w`; `alnum` says which characters beyond ASCII are alphanumeric -/
def isWordCharacter (alnum : Char → Bool) (c : Char) : Bool :=
  if c.toNat < 128 then c.isAlphanum || c == '_' else alnum c

open Pattern in
/-- `\b(?:bearer)\s+\S+`, a private key, a named secret behind `=` or `:`, credentials in a URL -/
def sensitiveTextRe (word : Char → Bool) : Pattern :=
  let text (s : String) := literal ignoreCase s.toList
  let space := set isPySpace
  let nonspace := set fun c => !isPySpace c
  let letter := set fun c => (ignoreCase c).isLower
  let schemeCharacter := set fun c => (ignoreCase c).isLower || c.isDigit || c == '+' || c == '.' ||
    c == '-'
  let beyond (s : List Char) := set fun c => !isPySpace c && !s.contains c
  oneOf
    [seq (wordBoundary word) (seq (text "bearer") (seq (plus space) (plus nonspace))),
      seq (text "-----begin ") (seq (opt (oneOf [text "rsa ", text "ec ", text "openssh "]))
        (text "private key-----")),
      seq (wordBoundary word) (seq
        (oneOf [text "password", text "secret", text "token",
          seq (text "api") (seq (opt (set fun c => c == '_' || c == '-')) (text "key")),
          text "authorization"])
        (seq (star space) (seq (set fun c => c == '=' || c == ':') (seq (star space)
          (plus nonspace))))),
      seq (wordBoundary word) (seq letter (seq (star schemeCharacter) (seq (text "://")
        (seq (plus (beyond ['/', '@', ':'])) (seq (text ":") (seq (plus (beyond ['/', '@']))
          (text "@")))))))]

def safeAuditIdentifiers : List String := ["users:password:reset"]

/-- text that an audit state must not hold -/
def sensitiveText (alnum : Char → Bool) (value : String) : Bool :=
  !safeAuditIdentifiers.contains value &&
    (sensitiveTextRe (isWordCharacter alnum)).search value.toList

example : sensitiveText (fun _ => false) "the password: hunter2" = true := by decide +kernel
example : sensitiveText (fun _ => false) "Passwords are reset here" = false := by decide +kernel

def sensitiveKeys : List String :=
  ["api_key", "apikey", "authorization", "cookie", "credentials", "database_url", "email",
    "id_token", "jti", "jwt", "jwt_secret", "password", "password_hash", "private_key", "proxy_url",
    "redis_url", "secret", "set_cookie", "token", "username"]

def sensitiveSuffixes : List String :=
  ["_api_key", "_cookie", "_credential", "_password", "_private_key", "_secret", "_token"]

/-- PostgreSQL takes no `U+0000`, neither in a text nor in a `jsonb` value -/
def storableText (s : String) : Bool := !s.toList.contains '\x00'

/-- text that an audit row can hold and PostgreSQL can store -/
def Writable (alnum : Char → Bool) (s : String) : Prop :=
  sensitiveText alnum s = false ∧ storableText s = true

/-! ## plain texts -/

/-- none of the characters that every sensitive text has -/
def plainCharacter (c : Char) : Bool := !isPySpace c && c != ':' && c != '='

theorem toLower_small {c e : Char} (he : e.toNat < 65) (h : c.toLower = e) : c = e := by
  unfold Char.toLower at h
  split at h
  · rename_i hupper
    obtain ⟨hlow, hhigh⟩ := hupper
    have hsum : (c.val + ('a'.val - 'A'.val)).toNat = c.val.toNat + 32 := by
      rw [UInt32.toNat_add]
      have hle : c.val.toNat ≤ 90 := UInt32.le_iff_toNat_le.mp hhigh
      have hdiff : ('a'.val - 'A'.val).toNat = 32 := by decide
      omega
    have hge : 65 ≤ c.val.toNat := UInt32.le_iff_toNat_le.mp hlow
    have hlt : (c.val + ('a'.val - 'A'.val)).toNat < 65 := by
      rw [← h] at he
      exact he
    omega
  · exact h

theorem ignoreCase_small {c e : Char} (he : e.toNat < 65) (h : ignoreCase c = e) : c = e := by
  unfold ignoreCase at h
  split at h
  · rw [← h] at he
    exact absurd he (by decide)
  · split at h
    · rw [← h] at he
      exact absurd he (by decide)
    · split at h
      · rw [← h] at he
        exact absurd he (by decide)
      · exact toLower_small he h

open Pattern in
theorem sensitiveTextRe_needs (word : Char → Bool) :
    Needs (fun c => !plainCharacter c) (sensitiveTextRe word) := by
  have hspace : Needs (fun c => !plainCharacter c) (plus (set isPySpace)) :=
    .left (.set fun c hc => by simp [plainCharacter, hc])
  have hblank : Needs (fun c => !plainCharacter c) (literal ignoreCase "-----begin ".toList) :=
    .literal (c := ' ') (by decide) fun d hd => by
      rw [ignoreCase_small (by decide) hd]
      decide
  have hsign : Needs (fun c => !plainCharacter c) (set fun c => c == '=' || c == ':') :=
    .set fun c hc => by
      rcases Bool.or_eq_true _ _ |>.mp hc with h | h
      · rw [beq_iff_eq.mp h]
        decide
      · rw [beq_iff_eq.mp h]
        decide
  have hcolon : Needs (fun c => !plainCharacter c) (literal ignoreCase "://".toList) :=
    .literal (c := ':') (by decide) fun d hd => by
      rw [ignoreCase_small (by decide) hd]
      decide
  unfold sensitiveTextRe
  refine .alt (.right (.right (.left hspace))) (.alt (.left hblank) (.alt ?_ ?_))
  · exact .right (.right (.right (.left hsign)))
  · exact .right (.right (.right (.left hcolon)))

theorem writable_of_plain (alnum : Char → Bool) {s : String}
    (h : ∀ c ∈ s.toList, plainCharacter c = true ∧ c ≠ '\x00') : Writable alnum s := by
  constructor
  · unfold sensitiveText
    rw [(sensitiveTextRe_needs _).search fun c hc => by simp [(h c hc).1], Bool.and_false]
  · unfold storableText
    rw [Bool.not_eq_true', List.contains_eq_mem, decide_eq_false_iff_not]
    exact fun hc => (h _ hc).2 rfl

theorem writable_uuid (alnum : Char → Bool) (u : Uuid) : Writable alnum u.text := by
  have hdigits : ∀ d < 16, plainCharacter (Nat.digitChar d) = true ∧ Nat.digitChar d ≠ '\x00' := by decide
  exact writable_of_plain alnum (uuid_characters hdigits (by decide) u)

theorem writable_permission (alnum : Char → Bool) (k : PermissionKey) : Writable alnum k.value := by
  constructor
  · cases k <;> rfl
  · cases k <;> rfl

/-! ## keys of roles -/

/-- `^[a-z][a-z0-9_-]{1,79}$` -/
def roleKeyFormat (s : String) : Bool :=
  match s.toList with
  | [] => false
  | c :: cs => c.isLower && decide (1 ≤ cs.length) && decide (cs.length ≤ 79) &&
      cs.all fun c => c.isLower || c.isDigit || c == '_' || c == '-'

theorem plain_ascii {c : Char} (hlow : 45 ≤ c.toNat) (hhigh : c.toNat ≤ 122)
    (hmiddle : c.toNat ≤ 57 ∨ 95 ≤ c.toNat) : plainCharacter c = true ∧ c ≠ '\x00' := by
  have hne {d : Char} (h : c.toNat ≠ d.toNat) : c ≠ d := fun e => h (congrArg Char.toNat e)
  have hspace : isPySpace c = false := by
    simp only [isPySpace, Bool.or_eq_false_iff, Bool.and_eq_false_iff, decide_eq_false_iff_not,
      beq_eq_false_iff_ne]
    omega
  have hcolon : c ≠ ':' := hne (by show c.toNat ≠ 58; omega)
  have hequals : c ≠ '=' := hne (by show c.toNat ≠ 61; omega)
  refine ⟨?_, hne (by show c.toNat ≠ 0; omega)⟩
  rw [plainCharacter, hspace, bne_iff_ne.mpr hcolon, bne_iff_ne.mpr hequals]
  rfl

theorem writable_roleKey (alnum : Char → Bool) {s : String} (h : roleKeyFormat s = true) :
    Writable alnum s ∧ s.toList.length ≤ 80 := by
  have hlower {c : Char} (h : c.isLower = true) : plainCharacter c = true ∧ c ≠ '\x00' := by
    replace h : (decide (c.val ≥ 'a'.val) && decide (c.val ≤ 'z'.val)) = true := h
    simp only [Bool.and_eq_true, decide_eq_true_eq, UInt32.le_iff_toNat_le] at h
    exact plain_ascii (Nat.le_trans (by decide) h.1) h.2 (.inr (Nat.le_trans (by decide) h.1))
  have hdigit {c : Char} (h : c.isDigit = true) : plainCharacter c = true ∧ c ≠ '\x00' := by
    simp only [Char.isDigit, Bool.and_eq_true, decide_eq_true_eq, UInt32.le_iff_toNat_le] at h
    exact plain_ascii (Nat.le_trans (by decide) h.1) (Nat.le_trans h.2 (by decide)) (.inl h.2)
  unfold roleKeyFormat at h
  cases hs : s.toList with
  | nil =>
    rw [hs] at h
    cases h
  | cons c cs =>
    rw [hs] at h
    simp only [Bool.and_eq_true, decide_eq_true_eq, List.all_eq_true, Bool.or_eq_true,
      beq_iff_eq] at h
    obtain ⟨⟨⟨hfirst, -⟩, hlength⟩, hrest⟩ := h
    refine ⟨writable_of_plain alnum ?_, ?_⟩
    · rw [hs, List.forall_mem_cons]
      refine ⟨hlower hfirst, fun d hd => ?_⟩
      rcases hrest d hd with ((h | h) | rfl) | rfl
      · exact hlower h
      · exact hdigit h
      · decide
      · decide
    · rw [List.length_cons]
      omega

end PgRbac
