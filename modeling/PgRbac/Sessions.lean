import PgRbac.Lib.Redis

/-!
# The session registry

The Lua scripts of `app/core/security/tokens.py`.  A user's sessions live under three keys of Redis:
`records`, a hash from a session's field to its JSON record, which also keeps the token version
under `_version`; `order`, the fields by the time of activation; `expires`, the fields by expiry.
A script runs atomically, at one time of the server's clock.

* `activateJti`, `compareAndDelete`, `readActiveJti`, `listUserSessions`    the four scripts;
* `ScriptCall.eval`    a script as `EVAL` runs it, on the keys that have not expired.

The clock counts microseconds.  Parameters are the decoder of JSON, `cjson.decode`, and the text that
`redis.call` makes of a number.  An error of a command ends a script and undoes nothing.
-/

namespace PgRbac

open Redis

variable {F : Type} [LinearOrder F]

/-! ## keys and arguments -/

/-- a field of the records hash: `_version`, or the digest of a token id -/
inductive Field (F : Type) where
  | version
  | jti (field : F)
  deriving DecidableEq

structure SessionKeys (F : Type) where
  records : Slot (Field F) String
  order : Slot F Nat
  expires : Slot F Nat

/-- a JSON table; a field that is missing or not a number is `none` -/
structure DecodedRecord where
  tokenVersion : Option Int
  exp : Option Int
  iat : Option Int
  deriving DecidableEq

/-- the arguments of `_ACTIVATE_JTI` -/
structure Activation (F : Type) where
  field : F
  record : String
  expiresAt : Int
  version : Nat
  maximum : Int

namespace SessionKeys

def missing : SessionKeys F := ⟨.missing, .missing, .missing⟩

def alive (now : Nat) (k : SessionKeys F) : SessionKeys F :=
  ⟨k.records.alive now, k.order.alive now, k.expires.alive now⟩

def pexpireat (now : Nat) (k : SessionKeys F) (deadline : Nat) : SessionKeys F :=
  ⟨k.records.pexpireat now deadline, k.order.pexpireat now deadline,
    k.expires.pexpireat now deadline⟩

end SessionKeys

/-- `tonumber` of an integer's text; here a negative number fails the same tests as 0 -/
def tonumber (n : Int) : Nat := double n.toNat

/-- an integer that comes back from a command -/
def luaInteger (n : Int) : Int := if n < 0 then n else double n.toNat

/-- the integer that `PEXPIREAT` reads from the text of a number, if it is one of 64 bits -/
def expireArgument (argument : Nat → String) (n : Nat) : Option Nat :=
  (decimal? (argument n)).filter (· < 2 ^ 63)

/-- `%.14g` of an integer with more than 14 digits -/
def scientific (n : Nat) : String :=
  let exponent := Nat.log 10 n
  let scale := 10 ^ (exponent - 13)
  let below := n / scale
  let rest := n % scale
  let rounded :=
    if scale < 2 * rest ∨ (2 * rest = scale ∧ below % 2 = 1) then below + 1 else below
  let digits := ((Nat.toDigits 10 rounded).reverse.dropWhile (· = '0')).reverse
  let exponent := if rounded = 10 ^ 14 then exponent + 1 else exponent
  match digits with
  | [] => ""
  | d :: ds => String.ofList (if ds = [] then [d] else d :: '.' :: ds) ++ "e+" ++ Nat.repr exponent

def tostring (n : Int) : String :=
  if n < 0 then "-" ++ unsigned n.natAbs else unsigned n.natAbs
where
  unsigned (n : Nat) : String := if n < 10 ^ 14 then Nat.repr n else scientific n

/-! ## the shared functions -/

section
variable (k : SessionKeys F)

def removeSession (field : F) : SessionKeys F :=
  ⟨k.records.erase (.jti field), k.order.erase field, k.expires.erase field⟩

def removeSessions (fields : List F) : SessionKeys F := fields.foldl removeSession k

def pruneExpired (now : Nat) : SessionKeys F := removeSessions k (k.expires.upTo now)

end

/-! ## `_ACTIVATE_JTI` -/

/-- the score of the new session, above every score that is in use -/
def activationScore (clock : Nat) (order : Slot F Nat) : Nat :=
  let score := double (double (clock / 1000000 * 1000000) + clock % 1000000)
  match order.elements.getLast? with
  | some mostRecent => if score ≤ mostRecent.2 then double (mostRecent.2 + 1) else score
  | none => score

/-- the loop that removes the oldest session; each round removes one, so that the number of
sessions bounds the number of rounds -/
def evictOldest (maximum : Nat) : Nat → SessionKeys F → SessionKeys F
  | 0, k => k
  | rounds + 1, k =>
    if maximum < k.order.card then
      match k.order.elements with
      | [] => k
      | oldest :: _ => evictOldest maximum rounds (removeSession k oldest.1)
    else k

/-- the writes of an accepted activation up to its deadlines -/
def storeSession (a : Activation F) (clock : Nat) (k : SessionKeys F) : SessionKeys F :=
  let records := (k.records.hset (.jti a.field) a.record).hset .version (Nat.repr a.version)
  let order := k.order.zadd a.field (activationScore clock k.order)
  let expires := k.expires.zadd a.field (tonumber a.expiresAt)
  evictOldest (tonumber a.maximum) order.card ⟨records, order, expires⟩

/-- the deadline of the keys before it is written as an argument -/
def chosenDeadline (a : Activation F) (k : SessionKeys F) : Nat :=
  let deadline := double (tonumber a.expiresAt * 1000)
  let previous := luaInteger k.records.pexpiretime
  if previous > deadline then previous.toNat else deadline

section
variable (argument : Nat → String)

/-- the script once the version has been compared; an error of `PEXPIREAT` undoes nothing -/
def registerSession (a : Activation F) (currentVersion : Option String) (clock : Nat)
    (k : SessionKeys F) : Except String Int × SessionKeys F :=
  let k := pruneExpired k (clock / 1000000)
  if k.records.exists? (.jti a.field) then (.ok 0, k)
  else
    let deadline := chosenDeadline a k
    let k := if currentVersion ≠ some (Nat.repr a.version) then SessionKeys.missing else k
    if k.records.exists? (.jti a.field) then (.ok 0, k)
    else
      let k := storeSession a clock k
      match expireArgument argument deadline with
      | none => (.error "value is not an integer or out of range", k)
      | some d => (.ok 1, k.pexpireat (clock / 1000) d)

def activateJti (a : Activation F) (clock : Nat) (k : SessionKeys F) :
    Except String Int × SessionKeys F :=
  if tonumber a.maximum < 1 then (.ok (-1), k)
  else if tonumber a.expiresAt ≤ clock / 1000000 then (.ok (-1), k)
  else
    match k.records.lookup .version with
    | none => registerSession argument a none clock k
    | some currentVersion =>
      match decimal? currentVersion with
      | none => (.ok (-1), k)
      | some parsed =>
        if double parsed > double a.version then (.ok (-2), k)
        else registerSession argument a (some currentVersion) clock k

end

/-! ## the other scripts -/

def compareAndDelete (field : F) (record : String) (clock : Nat) (k : SessionKeys F) :
    Int × SessionKeys F :=
  match k.expires.lookup field with
  | none => (0, removeSession k field)
  | some expiry =>
    if expiry ≤ clock / 1000000 then (0, removeSession k field)
    else
      match k.records.lookup (.jti field) with
      | none => (0, k)
      | some current => if current ≠ record then (-1, k) else (1, removeSession k field)

def readable (decode : String → Option DecodedRecord) (k : SessionKeys F) (field : F) (expiry : Nat)
    (value : String) : Bool :=
  match decode value with
  | none => false
  | some record =>
    match record.tokenVersion with
    | none => false
    | some tokenVersion =>
      record.exp = some (expiry : Int) ∧ k.records.lookup .version = some (tostring tokenVersion) ∧
        k.order.exists? field

def readActiveJti (decode : String → Option DecodedRecord) (field : F) (clock : Nat)
    (k : SessionKeys F) : Option String × SessionKeys F :=
  match k.expires.lookup field with
  | none => (none, removeSession k field)
  | some expiry =>
    if expiry ≤ clock / 1000000 then (none, removeSession k field)
    else
      match k.records.lookup (.jti field) with
      | none => (none, k)
      | some value => (if readable decode k field expiry value then some value else none, k)

/-- the issue time of a listed session, if its record passes the tests of `_LIST_USER_SESSIONS` -/
def listed? (decode : String → Option DecodedRecord) (version : String) (now : Nat)
    (expiry : Option Nat) (raw : String) : Option Int :=
  match decode raw, expiry with
  | some record, some expiry =>
    match record.iat, record.tokenVersion with
    | some iat, some tokenVersion =>
      if 0 ≤ iat ∧ record.exp = some (expiry : Int) ∧ now < expiry ∧ tostring tokenVersion = version
      then some iat else none
    | _, _ => none
  | _, _ => none

def listFields (decode : String → Option DecodedRecord) (version : String) (now : Nat) :
    List F → List Int → SessionKeys F → Except String (List Int) × SessionKeys F
  | [], result, k => (.ok result, k)
  | field :: fields, result, k =>
    match k.records.lookup (.jti field) with
    | some raw =>
      match listed? decode version now (k.expires.lookup field) raw with
      | some iat => listFields decode version now fields (result ++ [iat]) k
      | none => (.error "invalid active session", k)
    | none => listFields decode version now fields result (removeSession k field)

def listUserSessions (decode : String → Option DecodedRecord) (version : String) (clock : Nat)
    (k : SessionKeys F) : Except String (List Int) × SessionKeys F :=
  if k.records.lookup .version ≠ some version then (.ok [], k)
  else
    let k := pruneExpired k (clock / 1000000)
    listFields decode version (clock / 1000000) (k.order.elements.map Prod.fst) [] k

/-! ## calls -/

inductive ScriptCall (F : Type) where
  | activate (a : Activation F)
  | read (field : F)
  | revoke (field : F) (record : String)
  | list (version : Nat)

inductive Reply where
  | integer (n : Int)
  | value (v : Option String)
  | listing (times : Except String (List Int))
  | failure (message : String)
  deriving DecidableEq

def Reply.ofExcept : Except String Int → Reply
  | .ok n => .integer n
  | .error message => .failure message

def ScriptCall.eval (decode : String → Option DecodedRecord) (argument : Nat → String)
    (call : ScriptCall F) (clock : Nat) (k : SessionKeys F) : Reply × SessionKeys F :=
  let k := k.alive (clock / 1000)
  match call with
  | .activate a => (activateJti argument a clock k).map Reply.ofExcept id
  | .read field => (readActiveJti decode field clock k).map .value id
  | .revoke field record => (compareAndDelete field record clock k).map .integer id
  | .list version => (listUserSessions decode (Nat.repr version) clock k).map .listing id

end PgRbac
