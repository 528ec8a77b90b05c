import PgRbac.Lib.RedisStrings
import PgRbac.Schema
import Mathlib.Logic.Function.Basic
import Mathlib.Algebra.GroupWithZero.Nat

/-!
# Challenges

The service of `app/core/security/captcha.py`.  A challenge lives under a key of its id; a private
scene also keeps a pointer to the challenge of each owner.  A call runs one command of Redis at a
time: `issue` reads the pointer and runs a script, at most three times; `consume` reads the record
and runs a script.

* `CaptchaKey`, `CaptchaValue`    the keys, and the texts that they hold;
* `issueScript`, `consumeScript`  the two scripts, on the keys at one time;
* `CaptchaService.issue`          the next command of an `issue` call, by its phase;
* `CaptchaService.consume`        the next command of a `consume` call.

A value is kept as what its text stands for.  `str.upper` and HMAC-SHA256 are parameters.
-/

set_option linter.unusedVariables false

namespace PgRbac

open Redis

/-! ## texts -/

/-- a code point of a Python text, a lone surrogate included -/
abbrev CodePoint := Fin 0x110000

instance neZeroCodePoints : NeZero 0x110000 := ⟨by decide⟩

abbrev Text := List CodePoint

/-- one code point in UTF-8 with `backslashreplace`, as the characters of the bytes -/
def CodePoint.escaped (c : CodePoint) : List Char :=
  if 0xd800 ≤ c.val ∧ c.val ≤ 0xdfff then
    ['\\', 'u', 'd', Nat.digitChar (c.val / 256 % 16), Nat.digitChar (c.val / 16 % 16), Nat.digitChar (c.val % 16)]
  else [Char.ofNat c.val]

def Text.escaped (t : Text) : List Char := t.flatMap CodePoint.escaped

def codePoint (c : Char) : CodePoint := Fin.ofNat _ c.toNat

/-! ## scenes and keys -/

def captchaTtlSeconds : Nat := 300

def alphabet : List Char := "ABCDEFGHJKLMNPQRSTUVWXYZ23456789".toList

def scenes : List String := ["login", "register", "admin_create", "admin_reset", "self_change"]

def privateScenes : List String := ["admin_create", "admin_reset", "self_change"]

def pointerAttempts : Nat := 3

inductive CaptchaKey where
  | challenge (id : Uuid)
  | owner (scene : String) (id : Uuid)
  | anonymous
  deriving DecidableEq, Repr

/-- an empty owner or index is `none` -/
structure CaptchaRecord where
  scene : String
  owner : Option Uuid
  digest : String
  index : Option CaptchaKey
  deriving DecidableEq, Repr

/-- the JSON text of a record, the text of an id, or another text -/
inductive CaptchaValue where
  | record (r : CaptchaRecord)
  | id (id : Uuid)
  | malformed (text : String)
  deriving DecidableEq, Repr

abbrev CaptchaKeys := CaptchaKey → Cell CaptchaValue

namespace CaptchaKeys

def del (keys : CaptchaKeys) (k : CaptchaKey) : CaptchaKeys := Function.update keys k none

/-- `SET … EX` -/
def set (keys : CaptchaKeys) (k : CaptchaKey) (value : CaptchaValue) (now ttl : Nat) : CaptchaKeys :=
  Function.update keys k (Cell.setEx value now ttl)

theorem del_self (keys : CaptchaKeys) (k : CaptchaKey) : keys.del k k = none := by
  rw [del, Function.update_self]

theorem del_of_ne (keys : CaptchaKeys) {k k' : CaptchaKey} (h : k' ≠ k) : keys.del k k' = keys k' := by
  rw [del, Function.update_of_ne h]

theorem set_self (keys : CaptchaKeys) (k : CaptchaKey) (value : CaptchaValue) (now ttl : Nat) :
    keys.set k value now ttl k = Cell.setEx value now ttl := by
  rw [set, Function.update_self]

theorem set_of_ne (keys : CaptchaKeys) {k k' : CaptchaKey} (value : CaptchaValue) (now ttl : Nat)
    (h : k' ≠ k) : keys.set k value now ttl k' = keys k' := by
  rw [set, Function.update_of_ne h]

end CaptchaKeys

def captchaInvalid : Failure :=
  .rbac ⟨400, 400001, "error.captcha_invalid", "captcha_invalid_or_expired"⟩

def captchaStoreUnavailable : Failure := unavailable "captcha_store_unavailable"

/-- `_owner` -/
def captchaOwner (scene : String) (ownerId : Option Uuid) : Except Failure (Option Uuid) :=
  if scene ∉ scenes ∨ ¬ (scene ∈ privateScenes ↔ ownerId.isSome = true) then .error captchaInvalid
  else .ok ownerId

/-- `_index` -/
def captchaIndex (scene : String) : Option Uuid → CaptchaKey
  | none => .anonymous
  | some ownerId => .owner scene ownerId

/-! ## the scripts -/

/-- `SET KEYS[1] …; SET KEYS[3] …` -/
def writeChallenge (now ttl : Nat) (key index : CaptchaKey) (owner : Option Uuid) (newId : Uuid)
    (record : CaptchaValue) (keys : CaptchaKeys) : CaptchaKeys :=
  let keys := keys.set key record now ttl
  if owner.isSome then keys.set index (.id newId) now ttl else keys

/-- `_ISSUE` with `KEYS` and `ARGV` -/
def issueScript (now : Nat) (key previousKey index oldKey : CaptchaKey) (previous : Option Uuid)
    (scene : String) (owner : Option Uuid) (newId : Uuid) (record : CaptchaValue) (ttl : Nat)
    (current : Option Uuid) (keys : CaptchaKeys) : Int × CaptchaKeys :=
  let write keys := (1, writeChallenge now ttl key index owner newId record keys)
  if previous = none ∧ owner.isSome ∧ (keys index).get now ≠ current.map .id then (2, keys)
  else match previous with
    | some previousId =>
      match (keys previousKey).get now with
      | none => (0, keys)
      | some (.record r) =>
        if r.scene ≠ scene ∨ r.owner ≠ owner then (0, keys)
        else if owner.isSome ∧ (keys index).get now ≠ some (.id previousId) then (0, keys)
        else write (keys.del previousKey)
      | some _ => (-1, keys)
    | none => if owner.isSome ∧ current.isSome then write (keys.del oldKey) else write keys

/-- `_CONSUME` with `KEYS` and `ARGV` -/
def consumeScript (now : Nat) (key indexKey : CaptchaKey) (captchaId : Uuid) (scene : String)
    (owner : Option Uuid) (digest : String) (raw : CaptchaValue) (keys : CaptchaKeys) :
    Int × CaptchaKeys :=
  match (keys key).get now with
  | none => (0, keys)
  | some found =>
    if found ≠ raw then (0, keys)
    else match found with
      | .record r =>
        let keys := keys.del key
        let keys :=
          if r.index.isSome ∧ (keys indexKey).get now = some (.id captchaId) then keys.del indexKey
          else keys
        (if r.scene = scene ∧ r.owner = owner ∧ r.digest = digest then 1 else 0, keys)
      | _ => (-1, keys)

/-- what the script of an `issue` call deletes before it writes -/
structure Cleared (now : Nat) (owner : Option Uuid) (index : CaptchaKey)
    (keys base : CaptchaKeys) : Prop where
  shrinks : ∀ k, base k = keys k ∨ base k = none
  pointer : ∀ scene id, base (.owner scene id) = keys (.owner scene id)
  named : owner.isSome → ∀ id, (keys index).get now = some (.id id) → base (.challenge id) = none

theorem CaptchaKeys.del_shrinks (keys : CaptchaKeys) (k k' : CaptchaKey) :
    keys.del k k' = keys k' ∨ keys.del k k' = none := by
  by_cases h : k' = k
  · rw [h]
    exact Or.inr (keys.del_self k)
  · exact Or.inl (keys.del_of_ne h)

theorem cleared_del {now : Nat} {owner : Option Uuid} {index : CaptchaKey}
    {keys : CaptchaKeys} {id : Uuid}
    (h : owner.isSome → (keys index).get now = some (.id id)) :
    Cleared now owner index keys (keys.del (.challenge id)) := by
  refine ⟨keys.del_shrinks _, fun scene id' => keys.del_of_ne (by simp), ?_⟩
  intro ho id' hid
  rw [h ho] at hid
  have he : id = id' := CaptchaValue.id.inj (Option.some.inj hid)
  rw [← he]
  exact keys.del_self _

/-- a script of an `issue` call that does not return 1 changes no key; the others clear what the
pointer names, and write -/
theorem issueScript_cases {now : Nat} {key index : CaptchaKey} {previous : Option Uuid}
    {scene : String} {owner : Option Uuid} {newId : Uuid} {record : CaptchaValue} {ttl : Nat}
    {current : Option Uuid} {keys keys' : CaptchaKeys} {result : Int}
    (h : issueScript now key (.challenge (previous.getD newId)) index
      (.challenge (current.getD newId)) previous scene owner newId record ttl current keys =
      (result, keys')) :
    (result ≠ 1 ∧ keys' = keys) ∨
      (result = 1 ∧ ∃ base, Cleared now owner index keys base ∧
        keys' = writeChallenge now ttl key index owner newId record base) := by
  unfold issueScript at h
  dsimp only at h
  by_cases hretry : previous = none ∧ owner.isSome ∧ (keys index).get now ≠ current.map .id
  · rw [if_pos hretry] at h
    cases h
    exact Or.inl ⟨by omega, rfl⟩
  rw [if_neg hretry] at h
  cases previous with
  | some previousId =>
    simp only [Option.getD_some] at h
    cases hget : (keys (.challenge previousId)).get now with
    | none =>
      rw [hget] at h
      cases h
      exact Or.inl ⟨by omega, rfl⟩
    | some value =>
      rw [hget] at h
      cases value with
      | id id =>
        cases h
        exact Or.inl ⟨by omega, rfl⟩
      | malformed text =>
        cases h
        exact Or.inl ⟨by omega, rfl⟩
      | record r =>
        dsimp only at h
        by_cases hother : r.scene ≠ scene ∨ r.owner ≠ owner
        · rw [if_pos hother] at h
          cases h
          exact Or.inl ⟨by omega, rfl⟩
        rw [if_neg hother] at h
        by_cases hstale : owner.isSome ∧ (keys index).get now ≠ some (.id previousId)
        · rw [if_pos hstale] at h
          cases h
          exact Or.inl ⟨by omega, rfl⟩
        rw [if_neg hstale] at h
        cases h
        refine Or.inr ⟨rfl, _, cleared_del ?_, rfl⟩
        intro ho
        exact not_ne_iff.mp fun hne => hstale ⟨ho, hne⟩
  | none =>
    have hpointer : owner.isSome → (keys index).get now = current.map .id :=
      fun ho => not_ne_iff.mp fun hne => hretry ⟨rfl, ho, hne⟩
    dsimp only at h
    by_cases hold : owner.isSome ∧ current.isSome
    · rw [if_pos hold] at h
      cases h
      refine Or.inr ⟨rfl, _, cleared_del ?_, rfl⟩
      intro ho
      obtain ⟨id, hid⟩ := Option.isSome_iff_exists.mp hold.2
      rw [hpointer ho, hid]
      rfl
    · rw [if_neg hold] at h
      cases h
      refine Or.inr ⟨rfl, keys, ⟨fun k => Or.inl rfl, fun scene id => rfl, ?_⟩, rfl⟩
      intro ho id hid
      rw [hpointer ho] at hid
      cases hc : current with
      | none =>
        rw [hc] at hid
        cases hid
      | some c => exact absurd ⟨ho, by rw [hc]; rfl⟩ hold

/-- what the script of a `consume` call leaves of the record that it was given -/
structure Consumed (now : Nat) (key : CaptchaKey) (captchaId : Uuid) (keys keys' : CaptchaKeys) :
    Prop where
  removed : keys' key = none
  shrinks : ∀ k, keys' k = keys k ∨ keys' k = none
  pointer : ∀ k, k ≠ key → keys' k ≠ keys k → (keys k).get now = some (.id captchaId)

theorem consumed_del {now : Nat} {key indexKey : CaptchaKey} {captchaId : Uuid}
    {keys : CaptchaKeys} {p : Prop} [Decidable p]
    (h : p → (keys.del key indexKey).get now = some (.id captchaId)) :
    Consumed now key captchaId keys (if p then (keys.del key).del indexKey else keys.del key) := by
  by_cases hp : p
  · rw [if_pos hp]
    refine ⟨?_, ?_, ?_⟩
    · rcases (keys.del key).del_shrinks indexKey key with he | he
      · rw [he, keys.del_self]
      · exact he
    · intro k
      rcases (keys.del key).del_shrinks indexKey k with he | he
      · rw [he]
        exact keys.del_shrinks key k
      · exact Or.inr he
    · intro k hk hne
      have hki : k = indexKey := by
        by_contra hki
        rw [(keys.del key).del_of_ne hki, keys.del_of_ne hk] at hne
        exact hne rfl
      rw [← keys.del_of_ne hk, hki]
      exact h hp
  · rw [if_neg hp]
    exact ⟨keys.del_self key, keys.del_shrinks key, fun k hk hne => absurd (keys.del_of_ne hk) hne⟩

/-- the script of a `consume` call finds another value and changes no key, or it removes the record,
and no pointer but one to it -/
theorem consumeScript_cases {now : Nat} {key indexKey : CaptchaKey} {captchaId : Uuid}
    {scene : String} {owner : Option Uuid} {digest : String} {r : CaptchaRecord}
    {keys keys' : CaptchaKeys} {result : Int}
    (h : consumeScript now key indexKey captchaId scene owner digest (.record r) keys =
      (result, keys')) :
    (result = 0 ∧ keys' = keys ∧ (keys key).get now ≠ some (.record r)) ∨
      ((keys key).get now = some (.record r) ∧ Consumed now key captchaId keys keys' ∧
        (result = 1 → r.scene = scene ∧ r.owner = owner ∧ r.digest = digest)) := by
  unfold consumeScript at h
  cases hget : (keys key).get now with
  | none =>
    rw [hget] at h
    cases h
    exact Or.inl ⟨rfl, rfl, by simp⟩
  | some found =>
    rw [hget] at h
    dsimp only at h
    by_cases hother : found ≠ .record r
    · rw [if_pos hother] at h
      cases h
      exact Or.inl ⟨rfl, rfl, fun he => hother (Option.some.inj he)⟩
    · rw [if_neg hother] at h
      have he : found = .record r := not_ne_iff.mp hother
      rw [he] at h ⊢
      cases h
      refine Or.inr ⟨rfl, consumed_del fun hp => hp.2, ?_⟩
      intro hone
      by_contra hbad
      rw [if_neg hbad] at hone
      omega

/-! ## the service -/

structure CaptchaService where
  hmac : String → String → String
  rateLimitHmacKey : String
  upper : Text → Text

/-- the message under the digest of an answer -/
def CaptchaService.message (s : CaptchaService) (captchaId : Uuid) (answer : Text) : String :=
  captchaId.text ++ ":" ++ String.ofList (s.upper answer).escaped

def CaptchaService.digest (s : CaptchaService) (captchaId : Uuid) (answer : Text) : String :=
  s.hmac s.rateLimitHmacKey (s.message captchaId answer)

/-- a call of `issue`, with the id and the answer that it draws -/
structure IssueRequest where
  scene : String
  ownerId : Option Uuid
  previousCaptchaId : Option Uuid
  captchaId : Uuid
  letters : List Char
  drawn : letters.length = 5 ∧ ∀ c ∈ letters, c ∈ alphabet

namespace IssueRequest

def answer (r : IssueRequest) : Text := r.letters.map codePoint

end IssueRequest

/-- the next command of an `issue` call: the pointer, the script, or none -/
inductive IssuePhase where
  | start (attempt : Nat)
  | pointed (attempt : Nat) (currentId : Option Uuid)
  | finished (outcome : Except Failure Uuid)

structure ConsumeRequest where
  captchaId : Uuid
  answer : Text
  scene : String
  ownerId : Option Uuid

inductive ConsumePhase where
  | start
  | read (record : CaptchaRecord)
  | finished (outcome : Except Failure Unit)

def CaptchaService.record (s : CaptchaService) (r : IssueRequest) : CaptchaRecord where
  scene := r.scene
  owner := r.ownerId
  digest := s.digest r.captchaId r.answer
  index := r.ownerId.map fun ownerId => .owner r.scene ownerId

/-- the id that the pointer's text names -/
def pointerId : Option CaptchaValue → Option (Option Uuid)
  | none => some none
  | some (.id id) => if id.isV4 then some (some id) else none
  | some _ => none

/-- the script of an `issue` call that found `currentId` behind the pointer -/
def CaptchaService.evalIssue (s : CaptchaService) (r : IssueRequest) (now : Nat)
    (currentId : Option Uuid) (keys : CaptchaKeys) : Int × CaptchaKeys :=
  issueScript now (.challenge r.captchaId) (.challenge (r.previousCaptchaId.getD r.captchaId))
    (captchaIndex r.scene r.ownerId) (.challenge (currentId.getD r.captchaId)) r.previousCaptchaId
    r.scene r.ownerId r.captchaId (.record (s.record r)) captchaTtlSeconds currentId keys

/-- what the call makes of the script's result -/
def IssueRequest.answered (r : IssueRequest) (attempt : Nat) (result : Int) : IssuePhase :=
  if result = 2 then
    if attempt + 1 < pointerAttempts then .start (attempt + 1)
    else .finished (.error captchaStoreUnavailable)
  else if result = 0 then .finished (.error captchaInvalid)
  else if result ≠ 1 then .finished (.error captchaStoreUnavailable)
  else .finished (.ok r.captchaId)

def CaptchaService.runIssue (s : CaptchaService) (r : IssueRequest) (attempt : Nat)
    (currentId : Option Uuid) (now : Nat) (delivery : Delivery) (keys : CaptchaKeys) :
    IssuePhase × CaptchaKeys :=
  let (result, keys') := s.evalIssue r now currentId keys
  match delivery with
  | .answered => (r.answered attempt result, keys')
  | .unanswered => (.finished (.error captchaStoreUnavailable), keys')
  | .unexecuted => (.finished (.error captchaStoreUnavailable), keys)

def CaptchaService.issue (s : CaptchaService) (r : IssueRequest) (now : Nat) (delivery : Delivery)
    (phase : IssuePhase) (keys : CaptchaKeys) : IssuePhase × CaptchaKeys :=
  match phase with
  | .start attempt =>
    match captchaOwner r.scene r.ownerId with
    | .error e => (.finished (.error e), keys)
    | .ok owner =>
      if owner.isSome ∧ r.previousCaptchaId = none then
        match delivery, pointerId ((keys (captchaIndex r.scene r.ownerId)).get now) with
        | .answered, some currentId => (.pointed attempt currentId, keys)
        | _, _ => (.finished (.error captchaStoreUnavailable), keys)
      else s.runIssue r attempt none now delivery keys
  | .pointed attempt currentId => s.runIssue r attempt currentId now delivery keys
  | .finished outcome => (.finished outcome, keys)

/-- the checks of `consume` on a record before its script runs -/
def CaptchaRecord.valid (r : CaptchaRecord) : Bool :=
  decide (r.scene ∈ scenes) && decide (r.digest.length = 64) &&
    r.digest.toList.all (fun c => decide (c ∈ "0123456789abcdef".toList)) &&
    if r.scene ∈ privateScenes then
      match r.owner with
      | none => false
      | some storedOwner =>
        storedOwner.isV4 && decide (r.index = some (captchaIndex r.scene (some storedOwner)))
    else r.owner.isNone && r.index.isNone

def CaptchaService.evalConsume (s : CaptchaService) (r : ConsumeRequest) (now : Nat)
    (record : CaptchaRecord) (keys : CaptchaKeys) : Int × CaptchaKeys :=
  consumeScript now (.challenge r.captchaId) (record.index.getD (.challenge r.captchaId))
    r.captchaId r.scene r.ownerId (s.digest r.captchaId r.answer) (.record record) keys

def consumeAnswered (result : Int) : Except Failure Unit :=
  if result = 1 then .ok ()
  else if result = 0 then .error captchaInvalid
  else .error captchaStoreUnavailable

def CaptchaService.consume (s : CaptchaService) (r : ConsumeRequest) (now : Nat)
    (delivery : Delivery) (phase : ConsumePhase) (keys : CaptchaKeys) : ConsumePhase × CaptchaKeys :=
  match phase with
  | .start =>
    match captchaOwner r.scene r.ownerId with
    | .error e => (.finished (.error e), keys)
    | .ok owner =>
      match delivery, (keys (.challenge r.captchaId)).get now with
      | .answered, none => (.finished (.error captchaInvalid), keys)
      | .answered, some (.record record) =>
        if record.valid then (.read record, keys)
        else (.finished (.error captchaStoreUnavailable), keys)
      | _, _ => (.finished (.error captchaStoreUnavailable), keys)
  | .read record =>
    let (result, keys') := s.evalConsume r now record keys
    match delivery with
    | .answered => (.finished (consumeAnswered result), keys')
    | .unanswered => (.finished (.error captchaStoreUnavailable), keys')
    | .unexecuted => (.finished (.error captchaStoreUnavailable), keys)
  | .finished outcome => (.finished outcome, keys)

end PgRbac
