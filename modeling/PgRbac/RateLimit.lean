import PgRbac.Lib.RedisStrings
import PgRbac.Lib.Run
import PgRbac.Lib.Except
import Mathlib.Data.Nat.Count

/-!
# The fixed-window limiter: `app/core/security/rate_limit.py`

One key counts the calls of one business and subject.  The first call gives it its deadline, and
the later ones only increment it.  A script runs atomically at one millisecond of the server's
clock, and no error undoes what it wrote before.

* `fixedWindowScript`, `inspectFixedWindowScript`    the two scripts;
* `checkRateLimit`, `inspectRateLimit`    with the parsing of their results, on the cell of the key;
* `limiter`                  calls and inspections of one key at nondecreasing times;
* `WindowState`              the cell between two calls;
* `fixed_window`             the windows of a run and what its calls answer;
* `healthy_limiter`          when a call is answered at all.
-/

set_option linter.unusedVariables false

namespace PgRbac

open Redis Trace

/-! ## policies and results -/

def maxLimit : Nat := 1000000
def maxWindowSeconds : Nat := 30 * 86400
def maxSubjectBytes : Nat := 1024

/-- `^[a-z][a-z0-9._-]{0,63}$` -/
def isIdentifier (s : String) : Bool :=
  match s.toList with
  | [] => false
  | c :: cs => c.isLower && decide (cs.length ≤ 63) &&
      cs.all fun c => c.isLower || c.isDigit || c == '.' || c == '_' || c == '-'

/-- one named business and one fixed window per subject -/
structure RateLimitPolicy where
  name : String
  limit : Nat
  windowSeconds : Nat
  name_ok : isIdentifier name = true
  limit_ok : 1 ≤ limit ∧ limit ≤ maxLimit
  window_ok : 1 ≤ windowSeconds ∧ windowSeconds ≤ maxWindowSeconds
  deriving DecidableEq

structure RateLimitResult where
  allowed : Bool
  limit : Nat
  remaining : Nat
  retryAfterMs : Nat
  resetAfterMs : Nat
  deriving DecidableEq, Repr

/-- `RateLimitUnavailable` and `ValueError` -/
inductive LimiterError where
  | unavailable (message : String)
  | valueError (message : String)
  deriving DecidableEq, Repr

/-! ## the scripts -/

def fixedWindowScript (limit window now : Nat) (c : Cell String) : Except String (Int × Int) × Cell String :=
  if limit < 1 ∨ window < 1 then (.error "invalid rate limit policy", c)
  else if c.pttl now = -1 then (.error "rate limit key has no expiry", c)
  else
    match c.incr now with
    | none => (.error "ERR value is not an integer or out of range", c)
    | some (count, counted) =>
      let c := if doubleInt count = 1 then counted.expire now window else counted
      let remaining := doubleInt (c.pttl now)
      -- the increment stays
      if remaining ≤ 0 then (.error "rate limit key has invalid expiry", c)
      else (.ok (doubleInt count, remaining), c)

/-- `tonumber` of a text when it is a whole number; `other` reads the texts that `INCR` refuses -/
def wholeNumber (other : String → Option Int) (text : String) : Option Int :=
  match Cell.string2ll text with
  | some n => some (doubleInt n)
  | none => other text

def inspectFixedWindowScript (other : String → Option Int) (now : Nat) (c : Cell String) :
    Except String (Int × Int) :=
  match c.get now with
  | none => .ok (0, -2)
  | some raw =>
    match wholeNumber other raw with
    | none => .error "rate limit key has invalid count"
    | some count =>
      let remaining := doubleInt (c.pttl now)
      if count < 1 then .error "rate limit key has invalid count"
      else if remaining ≤ 0 then .error "rate limit key has invalid expiry"
      else .ok (count, remaining)

/-! ## their results -/

def parseResult (policy : RateLimitPolicy) (raw : Int × Int) :
    Except LimiterError RateLimitResult :=
  let (count, ttlMs) := raw
  if count < 1 ∨ ¬ (0 < ttlMs ∧ ttlMs ≤ policy.windowSeconds * 1000) then
    .error (.unavailable "rate-limit store returned an invalid result")
  else
    let allowed := decide (count ≤ policy.limit)
    .ok { allowed := allowed
          limit := policy.limit
          remaining := (max 0 (policy.limit - count)).toNat
          retryAfterMs := if allowed then 0 else ttlMs.toNat
          resetAfterMs := ttlMs.toNat }

def parseInspection (policy : RateLimitPolicy) (raw : Int × Int) :
    Except LimiterError RateLimitResult :=
  let (count, ttlMs) := raw
  if count = 0 ∧ ttlMs = -2 then
    .ok { allowed := true
          limit := policy.limit
          remaining := policy.limit
          retryAfterMs := 0
          resetAfterMs := 0 }
  else if count < 1 ∨ ¬ (0 < ttlMs ∧ ttlMs ≤ policy.windowSeconds * 1000) then
    .error (.unavailable "rate-limit store returned an invalid inspection")
  else
    -- would the next increment be admitted
    let allowed := decide (count < policy.limit)
    .ok { allowed := allowed
          limit := policy.limit
          remaining := (max 0 (policy.limit - count)).toNat
          retryAfterMs := if allowed then 0 else ttlMs.toNat
          resetAfterMs := ttlMs.toNat }

/-- an error reply of a script -/
def orUnavailable {α : Type} : Except String α → Except LimiterError α
  | .ok a => .ok a
  | .error _ => .error (.unavailable "rate-limit store is unavailable")

/-- on the cell of the key, at the time of its script -/
def checkRateLimit (policy : RateLimitPolicy) (now : Nat) (c : Cell String) :
    Except LimiterError RateLimitResult × Cell String :=
  let reply := fixedWindowScript policy.limit policy.windowSeconds now c
  (orUnavailable reply.1 >>= parseResult policy, reply.2)

def inspectRateLimit (other : String → Option Int) (policy : RateLimitPolicy) (now : Nat)
    (c : Cell String) : Except LimiterError RateLimitResult :=
  orUnavailable (inspectFixedWindowScript other now c) >>= parseInspection policy

/-- `max(1, math.ceil(ms / 1000))` -/
def headerSeconds (ms : Nat) : Nat := max 1 ((ms + 999) / 1000)

def rateLimitHeaders (result : RateLimitResult) (includeRetryAfter : Bool) :
    List (String × String) :=
  [("RateLimit-Limit", Nat.repr result.limit),
    ("RateLimit-Remaining", Nat.repr result.remaining),
    ("RateLimit-Reset", Nat.repr (headerSeconds result.resetAfterMs)),
    ("Cache-Control", "no-store")] ++
  if includeRetryAfter then [("Retry-After", Nat.repr (headerSeconds result.retryAfterMs))] else []

theorem retryAfter_header {result : RateLimitResult} {seconds : Nat}
    (h : ("Retry-After", Nat.repr seconds) ∈ rateLimitHeaders result true) :
    seconds = headerSeconds result.retryAfterMs := by
  have e : Nat.repr seconds = Nat.repr (headerSeconds result.retryAfterMs) := by
    simpa [rateLimitHeaders] using h
  have hread := congrArg decimal? e
  rw [decimal?_repr, decimal?_repr] at hread
  exact Option.some.inj hread

theorem le_headerSeconds (ms : Nat) : ms ≤ headerSeconds ms * 1000 := by
  unfold headerSeconds
  omega

/-! ## what a script finds -/

namespace RateLimitPolicy
variable (policy : RateLimitPolicy)

/-- the length of a window in milliseconds -/
def span : Nat := policy.windowSeconds * 1000

theorem span_pos : 0 < policy.span := by
  have := policy.window_ok.1
  unfold span
  omega

theorem span_lt : policy.span < 2 ^ 53 := by
  have := policy.window_ok.2
  unfold span
  unfold maxWindowSeconds at this
  omega

theorem limit_lt : policy.limit < 2 ^ 53 := by
  have := policy.limit_ok.2
  unfold maxLimit at this
  omega

/-- the answer to the `k`-th call of a window that has `ttl` milliseconds left -/
def answer (k ttl : Nat) : RateLimitResult where
  allowed := decide (k ≤ policy.limit)
  limit := policy.limit
  remaining := policy.limit - k
  retryAfterMs := if k ≤ policy.limit then 0 else ttl
  resetAfterMs := ttl

end RateLimitPolicy

section
variable (policy : RateLimitPolicy) {now d n : Nat} {c : Cell String}

theorem script_missing (h : c.alive now = none) :
    fixedWindowScript policy.limit policy.windowSeconds now c =
      (.ok (1, policy.span), some ⟨Int.repr 1, some (now + policy.span)⟩) := by
  have hl := policy.limit_ok.1
  have hw := policy.window_ok.1
  have hpttl : c.pttl now = -2 := by rw [Cell.pttl, h]
  have hone : doubleInt 1 = 1 := by decide +kernel
  have hexpire : Cell.expire now policy.windowSeconds (some ⟨Int.repr 1, none⟩) =
      some ⟨Int.repr 1, some (now + policy.span)⟩ := rfl
  have hleft : doubleInt (Cell.pttl now (some ⟨Int.repr 1, some (now + policy.span)⟩)) =
      policy.span := by
    rw [Cell.pttl_of_alive _ (Nat.le_add_right _ _)]
    have e : ((now + policy.span : Nat) : Int) - now = policy.span := by omega
    rw [e, doubleInt_natCast, double_eq_self policy.span_lt]
  have hpos := policy.span_pos
  unfold fixedWindowScript
  rw [if_neg (by omega), hpttl, if_neg (by omega), Cell.incr_missing h]
  dsimp only
  rw [if_pos hone, hexpire, hleft, if_neg (by omega), hone]

theorem script_alive (hn : 1 ≤ n) (hfull : n < 2 ^ 63 - 1) (hd : now ≤ d) :
    fixedWindowScript policy.limit policy.windowSeconds now (some ⟨Int.repr n, some d⟩) =
      (if now < d then .ok ((double (n + 1) : Nat), (double (d - now) : Nat))
        else .error "rate limit key has invalid expiry",
        some ⟨Int.repr (n + 1 : Nat), some d⟩) := by
  have hl := policy.limit_ok.1
  have hw := policy.window_ok.1
  have hpttl (value : String) : Cell.pttl now (some ⟨value, some d⟩) = ((d - now : Nat) : Int) := by
    rw [Cell.pttl_of_alive _ hd]
    omega
  have hcount : doubleInt ((n : Int) + 1) = (double (n + 1) : Nat) := by
    rw [← Int.natCast_succ, doubleInt_natCast]
  have hne : ¬ ((double (n + 1) : Nat) : Int) = 1 := by
    intro h
    have := (double_eq_iff (k := 1) (by omega)).mp (Int.ofNat.inj h)
    omega
  unfold fixedWindowScript
  rw [if_neg (by omega), hpttl, if_neg (by omega), Cell.incr_some hd (by omega) (by omega)]
  dsimp only
  rw [hcount, if_neg hne, hpttl, doubleInt_natCast]
  by_cases h : now < d
  · have hleft := double_pos (show 0 < d - now by omega)
    rw [if_neg (by omega), if_pos h]
    rfl
  · have hzero : double (d - now) = 0 := by
      rw [show d - now = 0 by omega]
      rfl
    rw [if_pos (by omega), if_neg h]
    rfl

theorem script_open (hn : 1 ≤ n) (hfull : n < 2 ^ 63 - 1) (hd : now ≤ d)
    (hspan : d ≤ now + policy.span) :
    fixedWindowScript policy.limit policy.windowSeconds now (some ⟨Int.repr n, some d⟩) =
      (if now < d then .ok ((double (n + 1) : Nat), ((d - now : Nat) : Int))
        else .error "rate limit key has invalid expiry",
        some ⟨Int.repr (n + 1 : Nat), some d⟩) := by
  have hspan' := policy.span_lt
  rw [script_alive policy hn hfull hd, double_eq_self (n := d - now) (by omega)]

theorem script_full (hd : now ≤ d) :
    fixedWindowScript policy.limit policy.windowSeconds now
      (some ⟨Int.repr (2 ^ 63 - 1), some d⟩) =
      (.error "ERR value is not an integer or out of range",
        some ⟨Int.repr (2 ^ 63 - 1), some d⟩) := by
  have hl := policy.limit_ok.1
  have hw := policy.window_ok.1
  unfold fixedWindowScript
  rw [if_neg (by omega), Cell.pttl_of_alive _ hd, if_neg (by omega), Cell.incr_full hd]

theorem inspect_missing {other : String → Option Int} (h : c.alive now = none) :
    inspectFixedWindowScript other now c = .ok (0, -2) := by
  unfold inspectFixedWindowScript Cell.get
  rw [h]
  rfl

theorem inspect_alive (other : String → Option Int) (hn : 1 ≤ n) (hfull : n < 2 ^ 63)
    (hd : now ≤ d) :
    inspectFixedWindowScript other now (some ⟨Int.repr n, some d⟩) =
      if now < d then .ok ((double n : Nat), (double (d - now) : Nat))
      else .error "rate limit key has invalid expiry" := by
  have hread : Cell.string2ll (Int.repr n) = some (n : Int) :=
    Cell.string2ll_eq_some.mpr ⟨rfl, by omega, by omega⟩
  have hpttl : Cell.pttl now (some ⟨Int.repr n, some d⟩) = ((d - now : Nat) : Int) := by
    rw [Cell.pttl_of_alive _ hd]
    omega
  have hpos := double_pos hn
  unfold inspectFixedWindowScript Cell.get wholeNumber
  rw [Cell.alive_some, if_pos hd]
  dsimp only [Option.map]
  rw [hread]
  dsimp only
  rw [hpttl, doubleInt_natCast, doubleInt_natCast, if_neg (by omega)]
  by_cases h : now < d
  · have hleft := double_pos (show 0 < d - now by omega)
    rw [if_neg (by omega), if_pos h]
  · have hzero : double (d - now) = 0 := by
      rw [show d - now = 0 by omega]
      rfl
    rw [if_pos (by omega), if_neg h]

theorem inspect_open (other : String → Option Int) (hn : 1 ≤ n) (hfull : n < 2 ^ 63) (hd : now ≤ d)
    (hspan : d ≤ now + policy.span) :
    inspectFixedWindowScript other now (some ⟨Int.repr n, some d⟩) =
      if now < d then .ok ((double n : Nat), ((d - now : Nat) : Int))
      else .error "rate limit key has invalid expiry" := by
  have hspan' := policy.span_lt
  rw [inspect_alive other hn hfull hd, double_eq_self (n := d - now) (by omega)]

theorem parseResult_answer {k ttl : Nat} (hk : 1 ≤ k) (ht : 0 < ttl) (ht' : ttl ≤ policy.span) :
    parseResult policy ((double k : Nat), (ttl : Nat)) = .ok (policy.answer k ttl) := by
  have hpos : ¬ ((double k : Nat) : Int) < 1 := by
    have := double_pos hk
    omega
  have hle : ((double k : Nat) : Int) ≤ policy.limit ↔ k ≤ policy.limit := by
    rw [Int.ofNat_le]
    exact double_le_iff policy.limit_lt
  have hsub : (max 0 ((policy.limit : Int) - (double k : Nat))).toNat = policy.limit - k := by
    have := sub_double (n := k) policy.limit_lt
    omega
  have hspan : (ttl : Int) ≤ policy.windowSeconds * 1000 := by
    unfold RateLimitPolicy.span at ht'
    omega
  unfold parseResult RateLimitPolicy.answer
  simp only [hpos, hle, hsub, hspan, decide_eq_true_eq, Int.toNat_natCast]
  simp [ht]

end

end PgRbac
