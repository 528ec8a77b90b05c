import Mathlib.Algebra.BigOperators.Group.List.Basic
import Mathlib.Algebra.GroupWithZero.Nat
import Mathlib.Data.List.Basic

/-!
# Parties that share a number of slots

A pool has `free` slots, and every party holds some.  A step changes one party and the free slots.

* `total_set`, `total_append`    what keeps the number of slots in one party keeps it in the pool;
* `countP_le_total`              no more parties are busy than there are slots, if every busy party
                                 holds one.
-/

set_option linter.unusedVariables false

structure Pool (κ : Type) where
  free : Nat
  parties : List κ

namespace Pool

variable {κ : Type} (held : κ → Nat)

/-- free slots and those that are held -/
def total (p : Pool κ) : Nat := p.free + (p.parties.map held).sum

def set (p : Pool κ) (i free : Nat) (a : κ) : Pool κ := ⟨free, p.parties.set i a⟩

def append (p : Pool κ) (free : Nat) (a : κ) : Pool κ := ⟨free, p.parties ++ [a]⟩

variable {held} {p : Pool κ} {i free : Nat} {a b : κ}

theorem sum_map_set {parties : List κ} (h : parties[i]? = some a) (b : κ) :
    ((parties.set i b).map held).sum + held a = (parties.map held).sum + held b := by
  induction parties generalizing i with
  | nil => cases h
  | cons c parties ih =>
    cases i with
    | zero =>
      have hc : c = a := Option.some_inj.mp h
      rw [List.set_cons_zero, List.map_cons, List.map_cons, List.sum_cons, List.sum_cons, hc]
      omega
    | succ i =>
      have hrest := ih h
      rw [List.set_cons_succ, List.map_cons, List.map_cons, List.sum_cons, List.sum_cons]
      omega

theorem total_set (h : p.parties[i]? = some a) (hstep : free + held b = p.free + held a) :
    (p.set i free b).total held = p.total held := by
  have hsum : ((p.parties.set i b).map held).sum + held a = (p.parties.map held).sum + held b :=
    sum_map_set h b
  show free + ((p.parties.set i b).map held).sum = p.free + (p.parties.map held).sum
  omega

theorem total_append (hstep : free + held b = p.free) :
    (p.append free b).total held = p.total held := by
  show free + ((p.parties ++ [b]).map held).sum = p.free + (p.parties.map held).sum
  rw [List.map_append, List.sum_append, List.map_singleton, List.sum_singleton]
  omega

theorem countP_le_sum {busy : κ → Bool} {parties : List κ}
    (h : ∀ c ∈ parties, busy c = true → 1 ≤ held c) :
    parties.countP busy ≤ (parties.map held).sum := by
  induction parties with
  | nil => exact Nat.le_refl 0
  | cons c parties ih =>
    have hrest := ih fun d hd => h d (List.mem_cons_of_mem c hd)
    rw [List.countP_cons, List.map_cons, List.sum_cons]
    split
    · rename_i hbusy
      have hone := h c List.mem_cons_self hbusy
      omega
    · omega

/-- **busy parties are no more than slots** -/
theorem countP_le_total {busy : κ → Bool} (h : ∀ c ∈ p.parties, busy c = true → 1 ≤ held c) :
    p.parties.countP busy ≤ p.total held :=
  Nat.le_trans (countP_le_sum h) (Nat.le_add_left _ _)

/-- when no party holds a slot, all are free -/
theorem free_eq_total (h : ∀ c ∈ p.parties, held c = 0) : p.free = p.total held := by
  have hsum : (p.parties.map held).sum = 0 := by
    rw [List.sum_eq_zero]
    intro n hn
    obtain ⟨c, hc, rfl⟩ := List.mem_map.mp hn
    exact h c hc
  rw [total, hsum, Nat.add_zero]

end Pool
