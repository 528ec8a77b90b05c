import PgRbac.Schema
import Mathlib.Algebra.GroupWithZero.Nat

/-!
# Password policy and verification: `app/core/security/passwords.py`

The Argon2 library and the Unicode tables are not part of the repository: `PasswordLibrary` is what
the code uses of them.  On top of it the policy checks are as the source has them, each raising its
reason code.
-/

set_option linter.unusedVariables false

namespace PgRbac

open Fallible

/-- `argon2.PasswordHasher`, `argon2.extract_parameters` and `unicodedata.normalize` -/
structure PasswordLibrary where
  /-- the encoded hash of a password under a salt -/
  hash : Nat → String → String
  /-- does the encoded hash belong to the password -/
  verify : String → String → Bool
  checkNeedsRehash : String → Bool
  /-- the encoded hash parses, with parameters inside the production bounds, and `verify` does not
  fail on it with another error than a mismatch -/
  parametersUsable : String → Bool
  /-- `unicodedata.normalize("NFKC", value).casefold()` -/
  comparisonForm : String → String

/-- `unicodedata.category(character) == "Cc"`: the C0 and C1 control codes -/
def isControl (c : Char) : Bool :=
  c.toNat < 32 || (127 ≤ c.toNat && c.toNat < 160)

def minPasswordCharacters : Nat := 8
def maxPasswordCharacters : Nat := 60
def maxPasswordUtf8Bytes : Nat := 1024

def dummyPasswordHash : String :=
  "$argon2id$v=19$m=65536,t=3,p=4$LXt4vIgFZ6WkGw0A38ssxg$" ++
    "FHhivkBqhiWg1sDCem36CG0Ob137XKSwAlPuAVbeAp8"

/-- `len(value.encode("utf-8"))` -/
def encodedLength (s : String) : Nat := (s.toList.map Char.utf8Size).sum

/-- the transport bounds, raising the reason code of a `PasswordPolicyError` -/
def validateLoginPasswordInput (password : String) : Except String Unit := do
  require (password.toList ≠ []) "password_empty"
  require (password.toList.length ≤ maxPasswordCharacters) "password_too_long"
  require (encodedLength password ≤ maxPasswordUtf8Bytes) "password_too_large"

/-- the differences of neighbouring code points -/
def codePointSteps : List Char → List Int
  | a :: b :: l => ((b.toNat : Int) - a.toNat) :: codePointSteps (b :: l)
  | _ => []

/-- an ASCII run of digits or of letters, each one up or each one down -/
def isSequential (folded : List Char) : Bool :=
  decide (1 < folded.length) && (folded.all Char.isDigit || folded.all Char.isAlpha) &&
    ((codePointSteps folded).all (· == 1) || (codePointSteps folded).all (· == -1))

def validateNewPassword (lib : PasswordLibrary) (password : String) (identityValues : List String) :
    Except String Unit := do
  validateLoginPasswordInput password
  require (minPasswordCharacters ≤ password.toList.length) "password_too_short"
  require (¬ password.toList.any isControl) "password_contains_control_character"
  let folded := lib.comparisonForm password
  require (folded.toList.dedup.length ≠ 1) "password_common_or_weak"
  require (¬ isSequential folded.toList) "password_common_or_weak"
  require (folded ∉ identityValues.map lib.comparisonForm) "password_same_as_user_name"

def passwordPolicyResponse (reasonCode : String) : Failure :=
  if reasonCode = "password_same_as_user_name" then
    .rbac ⟨400, 400001, "error.password_same_as_user_name", reasonCode⟩
  else if reasonCode = "password_common_or_weak" then
    .rbac ⟨400, 400001, "error.password_common_or_weak", reasonCode⟩
  else invalidRequest reasonCode

/-- a policy check whose refusal is answered to the client -/
def orPolicyResponse {α : Type} : Except String α → Except Failure α
  | .ok a => .ok a
  | .error reasonCode => .error (passwordPolicyResponse reasonCode)

@[simp] theorem orPolicyResponse_ok {α : Type} (x : Except String α) (a : α) :
    orPolicyResponse x = .ok a ↔ x = .ok a := by
  cases x <;> simp [orPolicyResponse]

def hashNewPassword (lib : PasswordLibrary) (salt : Nat) (password : String)
    (identityValues : List String) : Except Failure String := do
  orPolicyResponse (validateNewPassword lib password identityValues)
  pure (lib.hash salt password)

structure PasswordVerification where
  verified : Bool
  needsRehash : Bool
  usedDummy : Bool
  deriving DecidableEq, Repr

/-- `verify_or_dummy` with the error mapping of `_verify_password_details` -/
def verifyPasswordDetails (lib : PasswordLibrary) (password : String)
    (passwordHash : Option String) : Except Failure PasswordVerification :=
  match validateLoginPasswordInput password with
  | .error _ => .error .invalidCredentials
  | .ok _ =>
    let usedDummy := passwordHash.isNone
    let encodedHash := passwordHash.getD dummyPasswordHash
    if ¬ lib.parametersUsable encodedHash then
      .error (unavailable "password_credential_unavailable")
    else
      let verified := lib.verify encodedHash password
      .ok { verified := verified && !usedDummy
            needsRehash := verified && lib.checkNeedsRehash encodedHash && !usedDummy
            usedDummy := usedDummy }

/-- the encoded hashes of a few passwords under one salt -/
def sampleHashes : List (String × String) :=
  [("CorrectHorseBattery1",
     "$argon2id$v=19$m=65536,t=3,p=4$c2FtcGxlc2FsdHNhbXBsZQ$DpbQyLM/obcppV5BkjbdbyQ94lzbYG7xlz4K2ZZEeZI"),
   ("CorrectHorseBattery2",
     "$argon2id$v=19$m=65536,t=3,p=4$c2FtcGxlc2FsdHNhbXBsZQ$gty6BRVT415ciigjfg67tg61OMTUlwV7uCFb7jMWuuE"),
   ("AnotherStaple7",
     "$argon2id$v=19$m=65536,t=3,p=4$c2FtcGxlc2FsdHNhbXBsZQ$DJ3nZ6dQP0H9zHoQH3xM777WBu70fLi07n/cp97g5lQ"),
   ("AnotherHorseBattery2",
     "$argon2id$v=19$m=65536,t=3,p=4$c2FtcGxlc2FsdHNhbXBsZQ$qxKXwSMzU3Hg6gz3dNnLgoay/KcZQahDxd1AoEfqdfU")]

/-- the library on these passwords, in ASCII -/
def sampleLibrary : PasswordLibrary where
  hash := fun _ password => (sampleHashes.lookup password).getD ""
  verify := fun encoded password => sampleHashes.lookup password == some encoded
  checkNeedsRehash := fun _ => false
  parametersUsable := fun encoded =>
    encoded == dummyPasswordHash || (sampleHashes.map Prod.snd).contains encoded
  comparisonForm := fun s => String.ofList (s.toList.map Char.toLower)

end PgRbac
