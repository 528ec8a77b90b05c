import Mathlib.Algebra.Group.Int.Defs
import Mathlib.Algebra.Group.Nat.Defs
import Mathlib.Data.List.Nodup
import Mathlib.Data.List.Sort
import Mathlib.Data.Nat.Log
import Std.Data.String.ToNat

/-!
# Redis containers and the numbers of its scripts

A key of the keyspace holds a hash or a sorted set; both are lists of pairs in which no first
component occurs twice.  A container never is empty, since a key disappears with its last element,
and its deadline disappears with the key.

* `Slot.lookup`, `Slot.erase`     `HGET` and `ZSCORE`, `HDEL` and `ZREM`;
* `Slot.hset`, `Slot.zadd`        the pair is stored, in a sorted set at its place;
* `Slot.alive`                    a key is gone once the clock has passed its deadline;
* `double`                        the double nearest to a number, the only numbers of a script;
* `decimal?`                      the number that a decimal text denotes.
-/

set_option linter.unusedSectionVars false

namespace Redis

/-! ## keys -/

variable {κ ν : Type} [DecidableEq κ]

structure Key (κ ν : Type) where
  elements : List (κ × ν)
  unique : (elements.map Prod.fst).Nodup
  nonempty : elements ≠ []
  deadline : Option Nat

/-- what the keyspace holds under one name -/
inductive Slot (κ ν : Type) where
  | missing
  | present (key : Key κ ν)

namespace Slot

def elements : Slot κ ν → List (κ × ν)
  | missing => []
  | present key => key.elements

def deadline : Slot κ ν → Option Nat
  | missing => none
  | present key => key.deadline

theorem unique (s : Slot κ ν) : (s.elements.map Prod.fst).Nodup := by
  cases s with
  | missing => exact List.nodup_nil
  | present key => exact key.unique

@[simp] theorem elements_missing : (missing : Slot κ ν).elements = [] := rfl

@[simp] theorem deadline_missing : (missing : Slot κ ν).deadline = none := rfl

/-- other elements under the same deadline -/
def write (s : Slot κ ν) (l : List (κ × ν)) (hl : (l.map Prod.fst).Nodup) : Slot κ ν :=
  if h : l = [] then missing else present ⟨l, hl, h, s.deadline⟩

@[simp] theorem elements_write (s : Slot κ ν) (l : List (κ × ν)) (hl) :
    (s.write l hl).elements = l := by
  unfold write
  by_cases h : l = []
  · rw [dif_pos h, h]
    rfl
  · rw [dif_neg h]
    rfl

theorem deadline_write (s : Slot κ ν) (l : List (κ × ν)) (hl) :
    (s.write l hl).deadline = if l = [] then none else s.deadline := by
  unfold write
  by_cases h : l = []
  · rw [dif_pos h, if_pos h]
    rfl
  · rw [dif_neg h, if_neg h]
    rfl

/-! ## reading -/

def lookup (s : Slot κ ν) (k : κ) : Option ν := (s.elements.find? (·.1 = k)).map Prod.snd

theorem lookup_eq_some {s : Slot κ ν} {k : κ} {v : ν} :
    s.lookup k = some v ↔ (k, v) ∈ s.elements := by
  have hu := s.unique
  rw [lookup]
  generalize s.elements = l at hu
  induction l with
  | nil => simp
  | cons a l ih =>
    obtain ⟨hna, hu⟩ := List.nodup_cons.mp hu
    by_cases ha : a.1 = k
    · have hother : (k, v) ∉ l := fun hm => hna (ha ▸ List.mem_map_of_mem (f := Prod.fst) hm)
      rw [List.find?_cons_of_pos (by simpa using ha)]
      constructor
      · intro h
        exact List.mem_cons.mpr (Or.inl (Prod.ext ha.symm (Option.some.inj h).symm))
      · intro h
        rcases List.mem_cons.mp h with h | h
        · exact congrArg some (congrArg Prod.snd h).symm
        · exact absurd h hother
    · rw [List.find?_cons_of_neg (by simpa using ha)]
      refine (ih hu).trans ?_
      constructor
      · exact List.mem_cons_of_mem a
      · intro h
        rcases List.mem_cons.mp h with h | h
        · exact absurd (congrArg Prod.fst h).symm ha
        · exact h

theorem lookup_eq_none {s : Slot κ ν} {k : κ} : s.lookup k = none ↔ k ∉ s.elements.map Prod.fst := by
  rw [Option.eq_none_iff_forall_ne_some]
  constructor
  · intro h hm
    obtain ⟨p, hp, rfl⟩ := List.mem_map.mp hm
    exact h p.2 (lookup_eq_some.mpr hp)
  · intro h v hv
    exact h (List.mem_map_of_mem (f := Prod.fst) (lookup_eq_some.mp hv))

@[simp] theorem lookup_missing (k : κ) : (missing : Slot κ ν).lookup k = none := rfl

/-- two slots with the same elements below a key agree on it -/
theorem lookup_congr {s t : Slot κ ν} {k : κ}
    (h : ∀ v, (k, v) ∈ s.elements ↔ (k, v) ∈ t.elements) : s.lookup k = t.lookup k := by
  refine Option.ext fun v => ?_
  rw [lookup_eq_some, lookup_eq_some]
  exact h v

def exists? (s : Slot κ ν) (k : κ) : Bool := (s.lookup k).isSome

def card (s : Slot κ ν) : Nat := s.elements.length

/-! ## removing -/

def erase (s : Slot κ ν) (k : κ) : Slot κ ν :=
  s.write (s.elements.filter (·.1 ≠ k)) ((List.filter_sublist.map Prod.fst).nodup s.unique)

@[simp] theorem elements_erase (s : Slot κ ν) (k : κ) :
    (s.erase k).elements = s.elements.filter (·.1 ≠ k) := elements_write _ _ _

theorem lookup_erase (s : Slot κ ν) (k j : κ) :
    (s.erase k).lookup j = if j = k then none else s.lookup j := by
  by_cases h : j = k
  · rw [if_pos h, lookup_eq_none, elements_erase, h]
    intro hm
    obtain ⟨p, hp, hk⟩ := List.mem_map.mp hm
    simpa [hk] using (List.mem_filter.mp hp).2
  · rw [if_neg h]
    refine lookup_congr fun v => ?_
    rw [elements_erase, List.mem_filter]
    simp [h]

/-! ## storing -/

/-- a pair stored in place of what its key had, wherever `l` puts it -/
def store (s : Slot κ ν) (k : κ) (v : ν) (l : List (κ × ν))
    (hl : l.Perm ((k, v) :: s.elements.filter (·.1 ≠ k))) : Slot κ ν :=
  s.write l <| by
    rw [(hl.map Prod.fst).nodup_iff, List.map_cons, List.nodup_cons]
    refine ⟨?_, (List.filter_sublist.map Prod.fst).nodup s.unique⟩
    intro hm
    obtain ⟨p, hp, hk⟩ := List.mem_map.mp hm
    simpa [hk] using (List.mem_filter.mp hp).2

section
variable {s : Slot κ ν} {k : κ} {v : ν} {l : List (κ × ν)}
  {hl : l.Perm ((k, v) :: s.elements.filter (·.1 ≠ k))}

@[simp] theorem elements_store : (s.store k v l hl).elements = l := elements_write _ _ _

@[simp] theorem deadline_store : (s.store k v l hl).deadline = s.deadline := by
  rw [store, deadline_write, if_neg]
  intro h
  rw [h] at hl
  exact List.cons_ne_nil _ _ hl.nil_eq.symm

theorem lookup_store (j : κ) : (s.store k v l hl).lookup j = if j = k then some v else s.lookup j := by
  by_cases h : j = k
  · rw [if_pos h, lookup_eq_some, elements_store, hl.mem_iff, h]
    exact List.mem_cons_self
  · rw [if_neg h]
    refine lookup_congr fun w => ?_
    rw [elements_store, hl.mem_iff, List.mem_cons, List.mem_filter]
    simp [h]

end

/-- `HSET`; the order within a hash means nothing -/
def hset (s : Slot κ ν) (k : κ) (v : ν) : Slot κ ν :=
  s.store k v ((k, v) :: s.elements.filter (·.1 ≠ k)) (List.Perm.refl _)

@[simp] theorem deadline_hset (s : Slot κ ν) (k : κ) (v : ν) :
    (s.hset k v).deadline = s.deadline := deadline_store

theorem lookup_hset (s : Slot κ ν) (k : κ) (v : ν) (j : κ) :
    (s.hset k v).lookup j = if j = k then some v else s.lookup j := lookup_store j

/-! ## sorted sets -/

section
variable [LinearOrder κ]

/-- by score, members of one score by name -/
def Before (a b : κ × Nat) : Prop := a.2 < b.2 ∨ (a.2 = b.2 ∧ a.1 ≤ b.1)

instance : DecidableRel (Before (κ := κ)) := fun a b =>
  inferInstanceAs (Decidable (a.2 < b.2 ∨ (a.2 = b.2 ∧ a.1 ≤ b.1)))

def zadd (s : Slot κ Nat) (k : κ) (score : Nat) : Slot κ Nat :=
  s.store k score ((s.elements.filter (·.1 ≠ k)).orderedInsert Before (k, score))
    (List.perm_orderedInsert _ _ _)

@[simp] theorem deadline_zadd (s : Slot κ Nat) (k : κ) (score : Nat) :
    (s.zadd k score).deadline = s.deadline := deadline_store

theorem lookup_zadd (s : Slot κ Nat) (k : κ) (score : Nat) (j : κ) :
    (s.zadd k score).lookup j = if j = k then some score else s.lookup j := lookup_store j

theorem lookup_zadd_of_ne (s : Slot κ Nat) (score : Nat) {k j : κ} (h : j ≠ k) :
    (s.zadd k score).lookup j = s.lookup j := by
  rw [lookup_zadd, if_neg h]

theorem orderedInsert_last {l : List (κ × Nat)} {a : κ × Nat} (h : ∀ b ∈ l, b.2 < a.2) :
    l.orderedInsert Before a = l ++ [a] := by
  induction l with
  | nil => rfl
  | cons b l ih =>
    have hb : b.2 < a.2 := h b List.mem_cons_self
    have hnot : ¬ Before a b := by
      rintro (hlt | ⟨heq, -⟩) <;> omega
    rw [List.orderedInsert_cons, if_neg hnot, ih fun c hc => h c (List.mem_cons_of_mem b hc)]
    rfl

/-- a new member above every score goes to the end -/
theorem elements_zadd_last {s : Slot κ Nat} {k : κ} {score : Nat} (hnew : s.lookup k = none)
    (h : ∀ p ∈ s.elements, p.2 < score) : (s.zadd k score).elements = s.elements ++ [(k, score)] := by
  have hall : s.elements.filter (·.1 ≠ k) = s.elements := by
    refine List.filter_eq_self.mpr fun p hp => ?_
    refine decide_eq_true fun hk => ?_
    exact lookup_eq_none.mp hnew (hk ▸ List.mem_map_of_mem hp)
  rw [zadd, elements_store, hall]
  exact orderedInsert_last h

/-- `ZRANGEBYSCORE key -inf bound` -/
def upTo (s : Slot κ Nat) (bound : Nat) : List κ :=
  (s.elements.filter (·.2 ≤ bound)).map Prod.fst

theorem mem_upTo {s : Slot κ Nat} {bound : Nat} {k : κ} :
    k ∈ s.upTo bound ↔ ∃ score, s.lookup k = some score ∧ score ≤ bound := by
  simp only [upTo, List.mem_map, List.mem_filter, decide_eq_true_eq]
  constructor
  · rintro ⟨p, ⟨hp, hle⟩, rfl⟩
    exact ⟨p.2, lookup_eq_some.mpr hp, hle⟩
  · rintro ⟨score, hs, hle⟩
    exact ⟨(k, score), ⟨lookup_eq_some.mp hs, hle⟩, rfl⟩

end

/-! ## deadlines, in milliseconds -/

def alive (now : Nat) (s : Slot κ ν) : Slot κ ν :=
  match s.deadline with
  | some d => if d < now then missing else s
  | none => s

/-- `PEXPIRETIME`, negative for a key that does not exist or never expires -/
def pexpiretime : Slot κ ν → Int
  | missing => -2
  | present key => match key.deadline with
    | some d => d
    | none => -1

/-- `PEXPIREAT`: a deadline that has been reached removes the key at once -/
def pexpireat (now : Nat) (s : Slot κ ν) (deadline : Nat) : Slot κ ν :=
  if deadline ≤ now then missing else
    match s with
    | missing => missing
    | present key => present { key with deadline := some deadline }

/-- the later one of the deadline that a key has and a new one -/
theorem later_deadline (s : Slot κ ν) (d : Nat) :
    (if s.pexpiretime > d then s.pexpiretime.toNat else d) = max (s.deadline.getD 0) d := by
  cases s with
  | missing =>
    rw [if_neg (by simp only [pexpiretime]; omega)]
    exact (Nat.zero_max d).symm
  | present key =>
    cases hd : key.deadline with
    | none =>
      rw [if_neg (by simp only [pexpiretime, hd]; omega)]
      simp [Slot.deadline, hd]
    | some e =>
      simp only [pexpiretime, Slot.deadline, hd, Option.getD_some]
      by_cases h : d < e
      · rw [if_pos (by omega)]
        omega
      · rw [if_neg (by omega)]
        omega

/-- a key that is still there has not changed -/
theorem alive_cases (now : Nat) (s : Slot κ ν) : s.alive now = s ∨ s.alive now = missing := by
  unfold alive
  cases s.deadline with
  | none => exact Or.inl rfl
  | some d =>
    by_cases h : d < now
    · exact Or.inr (if_pos h)
    · exact Or.inl (if_neg h)

section
variable {now deadline : Nat} (s : Slot κ ν) (h : now < deadline)
include h

@[simp] theorem elements_pexpireat : (s.pexpireat now deadline).elements = s.elements := by
  unfold pexpireat
  rw [if_neg (Nat.not_le.mpr h)]
  cases s <;> rfl

theorem lookup_pexpireat (k : κ) : (s.pexpireat now deadline).lookup k = s.lookup k := by
  rw [lookup, elements_pexpireat s h]
  rfl

end

/-- what a key still shows it has shown before -/
theorem lookup_of_alive {now : Nat} {s : Slot κ ν} {k : κ} {v : ν}
    (h : (s.alive now).lookup k = some v) : s.lookup k = some v := by
  rcases alive_cases now s with he | he
  · rw [← he]
    exact h
  · rw [he] at h
    cases h

/-- what a key still shows at a later time it shows now -/
theorem lookup_alive_earlier {now now' : Nat} (hle : now ≤ now') {s : Slot κ ν} {k : κ} {v : ν}
    (h : (s.alive now').lookup k = some v) : (s.alive now).lookup k = some v := by
  have hs := lookup_of_alive h
  unfold alive at h ⊢
  cases hd : s.deadline with
  | none => exact hs
  | some d =>
    rw [hd] at h
    dsimp only at h ⊢
    by_cases hlt : d < now
    · rw [if_pos (Nat.lt_of_lt_of_le hlt hle)] at h
      cases h
    · rw [if_neg hlt]
      exact hs

theorem lookup_of_pexpireat {now deadline : Nat} {s : Slot κ ν} {k : κ} {v : ν}
    (h : (s.pexpireat now deadline).lookup k = some v) : s.lookup k = some v := by
  by_cases hd : now < deadline
  · rw [← lookup_pexpireat s hd]
    exact h
  · unfold pexpireat at h
    rw [if_pos (Nat.not_lt.mp hd)] at h
    cases h

/-- a key that does not outlive `d`, nor ends before -/
def Until (s : Slot κ ν) (d : Nat) : Prop := s = missing ∨ s.deadline = some d

namespace Until
variable {s : Slot κ ν} {d : Nat}

theorem of_missing : (missing : Slot κ ν).Until d := Or.inl rfl

theorem pexpireat (s : Slot κ ν) (now d : Nat) : (s.pexpireat now d).Until d := by
  unfold Slot.pexpireat
  by_cases h : d ≤ now
  · rw [if_pos h]
    exact Or.inl rfl
  · rw [if_neg h]
    cases s with
    | missing => exact Or.inl rfl
    | present key => exact Or.inr rfl

theorem erase (h : s.Until d) (k : κ) : (s.erase k).Until d := by
  unfold Slot.erase write
  by_cases hl : s.elements.filter (·.1 ≠ k) = []
  · rw [dif_pos hl]
    exact Or.inl rfl
  · rw [dif_neg hl]
    rcases h with rfl | h
    · exact absurd rfl hl
    · exact Or.inr h

theorem alive (h : s.Until d) (now : Nat) : s.alive now = if d < now then missing else s := by
  rcases h with rfl | h
  · rw [ite_self]
    rfl
  · unfold Slot.alive
    rw [h]

theorem deadline_of_lookup (h : s.Until d) {k : κ} (hk : s.lookup k ≠ none) : s.deadline = some d := by
  rcases h with rfl | h
  · exact absurd rfl hk
  · exact h

theorem eq_of_deadline (h : s.Until d) {e : Nat} (he : s.deadline = some e) : e = d := by
  rcases h with rfl | h
  · cases he
  · exact Option.some.inj (he.symm.trans h)

end Until

end Slot

/-! ## the numbers of a script -/

/-- the double nearest to `n`, the even one of two that are as near; doubles have 53 digits -/
def double (n : Nat) : Nat :=
  let scale := 2 ^ (Nat.log2 n + 1 - 53)
  let below := n / scale
  let rest := n % scale
  if 2 * rest < scale ∨ (2 * rest = scale ∧ below % 2 = 0) then below * scale
  else (below + 1) * scale

theorem double_eq_self {n : Nat} (h : n < 2 ^ 53) : double n = n := by
  have hlog : Nat.log2 n + 1 - 53 = 0 := by
    by_cases hn : n = 0
    · rw [hn]
      rfl
    · have := (Nat.log2_lt hn).mpr h
      omega
  unfold double
  rw [hlog]
  simp [Nat.mod_one]

/-- rounding does not leave the numbers that are no longer exact -/
theorem le_double {n : Nat} (h : 2 ^ 53 ≤ n) : 2 ^ 53 ≤ double n := by
  have hne : n ≠ 0 := by omega
  have hlog : 53 ≤ Nat.log2 n := (Nat.le_log2 hne).mpr h
  have hscale : 2 ^ 52 ≤ n / 2 ^ (Nat.log2 n + 1 - 53) := by
    rw [Nat.le_div_iff_mul_le (Nat.two_pow_pos _), ← Nat.pow_add]
    have hexp : 52 + (Nat.log2 n + 1 - 53) = Nat.log2 n := by omega
    rw [hexp]
    exact Nat.log2_self_le hne
  have htwo : 2 ≤ 2 ^ (Nat.log2 n + 1 - 53) := by
    calc 2 = 2 ^ 1 := rfl
      _ ≤ _ := Nat.pow_le_pow_right (by omega) (by omega)
  have hbelow : 2 ^ 53 ≤ n / 2 ^ (Nat.log2 n + 1 - 53) * 2 ^ (Nat.log2 n + 1 - 53) :=
    calc 2 ^ 53 = 2 ^ 52 * 2 := rfl
      _ ≤ _ := Nat.mul_le_mul hscale htwo
  unfold double
  dsimp only
  split
  · exact hbelow
  · exact Nat.le_trans hbelow (Nat.mul_le_mul_right _ (Nat.le_succ _))

/-- rounding moves no number across one that is exact -/
theorem le_double_iff {m n : Nat} (hm : m ≤ 2 ^ 53) : m ≤ double n ↔ m ≤ n := by
  by_cases hn : n < 2 ^ 53
  · rw [double_eq_self hn]
  · have hle := le_double (Nat.not_lt.mp hn)
    exact ⟨fun _ => hm.trans (Nat.not_lt.mp hn), fun _ => hm.trans hle⟩

/-- a number whose last binary digits are zeros is exact -/
theorem double_of_dvd {n : Nat} (h : 2 ^ (Nat.log2 n + 1 - 53) ∣ n) : double n = n := by
  unfold double
  dsimp only
  rw [Nat.mod_eq_zero_of_dvd h, if_pos (Or.inl (by have := Nat.two_pow_pos (Nat.log2 n + 1 - 53); omega)),
    Nat.div_mul_cancel h]

@[simp] theorem double_double (n : Nat) : double (double n) = double n := by
  by_cases hn : n < 2 ^ 53
  · rw [double_eq_self hn, double_eq_self hn]
  · have hne : n ≠ 0 := by omega
    have hlog : 53 ≤ Nat.log2 n := (Nat.le_log2 hne).mpr (Nat.not_lt.mp hn)
    obtain ⟨e, he⟩ : ∃ e, Nat.log2 n + 1 - 53 = e := ⟨_, rfl⟩
    have hbelow : n / 2 ^ e < 2 ^ 53 := by
      rw [Nat.div_lt_iff_lt_mul (Nat.two_pow_pos e), ← Nat.pow_add]
      have hexp : 53 + e = Nat.log2 n + 1 := by omega
      rw [hexp]
      exact (Nat.log2_lt hne).mp (Nat.lt_succ_self _)
    obtain ⟨q, hq, hdouble⟩ : ∃ q ≤ 2 ^ 53, double n = q * 2 ^ e := by
      unfold double
      rw [he]
      dsimp only
      split
      · exact ⟨_, Nat.le_of_lt hbelow, rfl⟩
      · exact ⟨_, hbelow, rfl⟩
    rw [hdouble]
    refine double_of_dvd ?_
    rcases Nat.lt_or_eq_of_le hq with hlt | rfl
    · -- with at most 53 digits the zeros that `n` has are enough
      refine Nat.dvd_trans (Nat.pow_dvd_pow 2 ?_) (Nat.dvd_mul_left (2 ^ e) q)
      by_cases hzero : q * 2 ^ e = 0
      · rw [hzero]
        exact Nat.zero_le e
      · have hlt' : Nat.log2 (q * 2 ^ e) < 53 + e := by
          rw [Nat.log2_lt hzero, Nat.pow_add]
          exact Nat.mul_lt_mul_of_pos_right hlt (Nat.two_pow_pos e)
        omega
    · rw [← Nat.pow_add, Nat.log2_two_pow]
      exact Nat.pow_dvd_pow 2 (by omega)

/-- the decimal text of a number, read back -/
def decimal? (text : String) : Option Nat :=
  if text.toList ≠ [] ∧ text.toList.all Char.isDigit then
    some (Nat.ofDigitChars 10 text.toList 0)
  else none

@[simp] theorem decimal?_repr (n : Nat) : decimal? (Nat.repr n) = some n := by
  have hlist : (Nat.repr n).toList = Nat.toDigits 10 n := by
    rw [Nat.repr]
    exact String.toList_ofList
  rw [decimal?, hlist, Nat.ofDigitChars_toDigits (by omega) (by omega), if_pos]
  refine ⟨Nat.toDigits_ne_nil, List.all_eq_true.mpr ?_⟩
  intro c hc
  exact Nat.isDigit_of_mem_toDigits (by omega) (by omega) hc

/-! ## the commands of a client -/

/-- whether a command was executed, and whether its reply arrived -/
inductive Delivery where
  | answered | unanswered | unexecuted
  deriving DecidableEq, Repr

end Redis
