import PgRbac.Lib.Redis

/-!
# String keys of Redis

A key holds a value, a text that `INCR` reads as a 64-bit integer or what such a text stands for,
and it may have a deadline in milliseconds of the server's clock.  It is logically expired once the
clock has passed the deadline; at the deadline itself the key still answers, with nothing left to
live.

* `Cell.alive`       what a command at some time finds;
* `Cell.pttl`        the time left: −2 for a missing key and −1 for one without a deadline;
* `Cell.incr`        fails on a text that is not an integer, and at the largest integer;
* `Cell.expire`, `Cell.setEx`    a deadline some seconds from now;
* `doubleInt`        an integer as a number of a script.
-/

namespace Redis

structure Entry (ν : Type) where
  value : ν
  deadline : Option Nat
  deriving DecidableEq, Repr

/-- what the keyspace holds under the name of a string key -/
abbrev Cell (ν : Type) := Option (Entry ν)

namespace Cell

/-! ## time -/

section
variable {ν : Type}

def alive (now : Nat) (c : Cell ν) : Cell ν :=
  c.filter fun e => e.deadline.all (now ≤ ·)

@[simp] theorem alive_none (now : Nat) : alive now (none : Cell ν) = none := rfl

theorem alive_some {now d : Nat} {value : ν} :
    alive now (some ⟨value, some d⟩) = if now ≤ d then some ⟨value, some d⟩ else none := by
  by_cases h : now ≤ d
  · simp [alive, h]
  · simp [alive, h]

theorem alive_eq_some {now : Nat} {c : Cell ν} {e : Entry ν} :
    c.alive now = some e ↔ c = some e ∧ ∀ d, e.deadline = some d → now ≤ d := by
  rw [alive, Option.filter_eq_some_iff]
  cases e.deadline with
  | none => simp
  | some d => simp

def pttl (now : Nat) (c : Cell ν) : Int :=
  match c.alive now with
  | none => -2
  | some e =>
    match e.deadline with
    | none => -1
    | some d => d - now

theorem pttl_of_alive {now d : Nat} (value : ν) (h : now ≤ d) :
    pttl now (some ⟨value, some d⟩) = d - now := by
  rw [pttl, alive_some, if_pos h]

def get (now : Nat) (c : Cell ν) : Option ν := (c.alive now).map Entry.value

def expire (now seconds : Nat) (c : Cell ν) : Cell ν :=
  (c.alive now).map fun e => { e with deadline := some (now + seconds * 1000) }

def setEx (value : ν) (now seconds : Nat) : Cell ν := some ⟨value, some (now + seconds * 1000)⟩

end

/-! ## counters -/

/-- the number of a decimal text with or without a minus sign -/
def integer? (text : String) : Option Int :=
  match text.toList with
  | '-' :: digits => (decimal? (String.ofList digits)).map fun (n : Nat) => -(n : Int)
  | _ => (decimal? text).map fun (n : Nat) => (n : Int)

theorem integer?_repr (n : Int) : integer? n.repr = some n := by
  cases n with
  | ofNat n =>
    show integer? (Nat.repr n) = some n
    have hdigit : ∀ c ∈ (Nat.repr n).toList, c.isDigit = true := by
      intro c hc
      rw [Nat.repr, String.toList_ofList] at hc
      exact Nat.isDigit_of_mem_toDigits (by omega) (by omega) hc
    unfold integer?
    split
    · rename_i digits h
      have hminus := hdigit '-' (h ▸ List.mem_cons_self)
      cases hminus
    · rw [decimal?_repr]
      rfl
  | negSucc n =>
    have hlist : (Int.repr (Int.negSucc n)).toList = '-' :: (Nat.repr (n + 1)).toList := by
      show ("-" ++ Nat.repr (n + 1)).toList = _
      rw [String.toList_append]
      rfl
    unfold integer?
    rw [hlist]
    show (decimal? (String.ofList (Nat.repr (n + 1)).toList)).map (fun (n : Nat) => -(n : Int)) = _
    rw [String.ofList_toList, decimal?_repr]
    rfl

/-- the text of a 64-bit integer, without leading zeros, spaces or a plus sign -/
def string2ll (text : String) : Option Int :=
  (integer? text).filter fun n => decide (n.repr = text ∧ -2 ^ 63 ≤ n ∧ n < 2 ^ 63)

theorem string2ll_eq_some {text : String} {n : Int} :
    string2ll text = some n ↔ text = n.repr ∧ -2 ^ 63 ≤ n ∧ n < 2 ^ 63 := by
  rw [string2ll, Option.filter_eq_some_iff, decide_eq_true_eq]
  constructor
  · rintro ⟨-, h, hrange⟩
    exact ⟨h.symm, hrange⟩
  · rintro ⟨rfl, hrange⟩
    exact ⟨integer?_repr n, rfl, hrange⟩

/-- the new number, and the key with its old deadline -/
def incr (now : Nat) (c : Cell String) : Option (Int × Cell String) :=
  match c.alive now with
  | none => some (1, some ⟨Int.repr 1, none⟩)
  | some e =>
    match string2ll e.value with
    | none => none
    | some n => if n = 2 ^ 63 - 1 then none else some (n + 1, some ⟨(n + 1).repr, e.deadline⟩)

theorem incr_missing {now : Nat} {c : Cell String} (h : c.alive now = none) :
    c.incr now = some (1, some ⟨Int.repr 1, none⟩) := by
  rw [incr, h]

theorem incr_some {now d : Nat} {n : Int} (h : now ≤ d) (hn : -2 ^ 63 ≤ n) (hn' : n < 2 ^ 63 - 1) :
    incr now (some ⟨n.repr, some d⟩) = some (n + 1, some ⟨(n + 1).repr, some d⟩) := by
  have hread : string2ll n.repr = some n := string2ll_eq_some.mpr ⟨rfl, hn, by omega⟩
  rw [incr, alive_some, if_pos h]
  simp only [hread]
  rw [if_neg (by omega)]

theorem incr_full {now d : Nat} (h : now ≤ d) :
    incr now (some ⟨Int.repr (2 ^ 63 - 1), some d⟩) = none := by
  have hread : string2ll (Int.repr (2 ^ 63 - 1)) = some (2 ^ 63 - 1) :=
    string2ll_eq_some.mpr ⟨rfl, by omega, by omega⟩
  rw [incr, alive_some, if_pos h]
  simp only [hread]
  rfl

end Cell

/-! ## integers of a script -/

def doubleInt (n : Int) : Int := if n < 0 then -double n.natAbs else double n.natAbs

/-- comparing with a number that is exact does not depend on the rounding -/
theorem double_le_iff {n bound : Nat} (h : bound < 2 ^ 53) : double n ≤ bound ↔ n ≤ bound := by
  by_cases hn : n < 2 ^ 53
  · rw [double_eq_self hn]
  · have hle := le_double (Nat.le_of_not_lt hn)
    omega

theorem double_eq_iff {n k : Nat} (h : k < 2 ^ 53) : double n = k ↔ n = k := by
  by_cases hn : n < 2 ^ 53
  · rw [double_eq_self hn]
  · have hle := le_double (Nat.le_of_not_lt hn)
    omega

theorem double_pos {n : Nat} (h : 0 < n) : 0 < double n := by
  by_contra hn
  have hle : double n ≤ 0 := by omega
  rw [double_le_iff (by omega)] at hle
  omega

theorem sub_double {n bound : Nat} (h : bound < 2 ^ 53) : bound - double n = bound - n := by
  by_cases hn : n < 2 ^ 53
  · rw [double_eq_self hn]
  · have hle := le_double (Nat.le_of_not_lt hn)
    omega

@[simp] theorem doubleInt_natCast (n : Nat) : doubleInt n = double n := by
  rw [doubleInt, if_neg (by omega), Int.natAbs_natCast]

theorem doubleInt_of_neg {n : Int} (h : n < 0) : doubleInt n ≤ 0 := by
  rw [doubleInt, if_pos h]
  omega

end Redis
