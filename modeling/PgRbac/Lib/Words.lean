import Mathlib.Data.List.Basic

/-!
# Words, their powers and their cuts

* `cut_at`             a word is cut in one way at the first place of a letter;
* `power t k`          `t` repeated `k` times;
* `commute_root`       two words that commute are powers of one word;
* `power_of_commute`   a word is a proper power if its two parts commute;
* `occurs_at`          a word occurs inside its double where its two parts commute.
-/

namespace Words

variable {α : Type}

/-- two words that agree are cut alike at their first `c` -/
theorem cut_at {c : α} {xs ys r r' : List α} (hx : c ∉ xs) (hy : c ∉ ys)
    (h : xs ++ c :: r = ys ++ c :: r') : xs = ys ∧ r = r' := by
  induction xs generalizing ys with
  | nil =>
    cases ys with
    | nil => exact ⟨rfl, List.tail_eq_of_cons_eq h⟩
    | cons y ys =>
      have hhead : c = y := List.head_eq_of_cons_eq h
      exact absurd (hhead ▸ List.mem_cons_self) hy
  | cons x xs ih =>
    cases ys with
    | nil =>
      have hhead : x = c := List.head_eq_of_cons_eq h
      exact absurd (hhead ▸ List.mem_cons_self) hx
    | cons y ys =>
      have hhead : x = y := List.head_eq_of_cons_eq h
      have htail : xs ++ c :: r = ys ++ c :: r' := List.tail_eq_of_cons_eq h
      obtain ⟨hxs, hr⟩ := ih (fun hm => hx (List.mem_cons_of_mem x hm))
        (fun hm => hy (List.mem_cons_of_mem y hm)) htail
      exact ⟨by rw [hhead, hxs], hr⟩

def power (t : List α) (k : Nat) : List α := (List.replicate k t).flatten

@[simp] theorem power_zero (t : List α) : power t 0 = [] := rfl

theorem power_succ (t : List α) (k : Nat) : power t (k + 1) = t ++ power t k := rfl

theorem power_one (t : List α) : power t 1 = t := by
  rw [power_succ, power_zero, List.append_nil]

theorem power_nil (k : Nat) : power ([] : List α) k = [] := by
  induction k with
  | zero => rfl
  | succ k ih => rw [power_succ, ih, List.append_nil]

theorem power_add (t : List α) (m n : Nat) : power t (m + n) = power t m ++ power t n := by
  induction m with
  | zero => rw [Nat.zero_add, power_zero, List.nil_append]
  | succ m ih => rw [Nat.succ_add, power_succ, power_succ, ih, List.append_assoc]

theorem length_power (t : List α) (k : Nat) : (power t k).length = k * t.length := by
  induction k with
  | zero => rw [Nat.zero_mul]; rfl
  | succ k ih => rw [power_succ, List.length_append, ih, Nat.succ_mul, Nat.add_comm]

/-- the step of Euclid's algorithm: the shorter word is cut off the longer one -/
theorem commute_cut {u v : List α} (h : u ++ v = v ++ u) (hle : u.length ≤ v.length) :
    ∃ w, v = u ++ w ∧ u ++ w = w ++ u := by
  have hpre : u <+: v :=
    List.prefix_of_prefix_length_le (List.prefix_append u v) (h ▸ List.prefix_append v u) hle
  obtain ⟨w, rfl⟩ := hpre
  refine ⟨w, rfl, ?_⟩
  have hboth : u ++ (u ++ w) = u ++ (w ++ u) := by rw [h, List.append_assoc]
  exact List.append_cancel_left hboth

/-- **two words that commute are powers of one word** -/
theorem commute_root {u v : List α} (h : u ++ v = v ++ u) :
    ∃ t m n, u = power t m ∧ v = power t n := by
  -- on the sum of the lengths: each cut takes a nonempty word off the other one
  induction hn : u.length + v.length using Nat.strongRecOn generalizing u v with
  | ind n ih =>
    by_cases hu : u = []
    · exact ⟨v, 0, 1, hu, (power_one v).symm⟩
    by_cases hv : v = []
    · exact ⟨u, 1, 0, (power_one u).symm, hv⟩
    have hupos : 0 < u.length := List.length_pos_iff.mpr hu
    have hvpos : 0 < v.length := List.length_pos_iff.mpr hv
    by_cases hle : u.length ≤ v.length
    · obtain ⟨w, rfl, hw⟩ := commute_cut h hle
      have hlength : u.length + w.length < n := by
        rw [List.length_append] at hn
        omega
      obtain ⟨t, a, b, hut, hwt⟩ := ih _ hlength hw rfl
      exact ⟨t, a, a + b, hut, by rw [power_add, ← hut, ← hwt]⟩
    · obtain ⟨w, rfl, hw⟩ := commute_cut h.symm (by omega)
      have hlength : v.length + w.length < n := by
        rw [List.length_append] at hn
        omega
      obtain ⟨t, a, b, hvt, hwt⟩ := ih _ hlength hw rfl
      exact ⟨t, a + b, a, by rw [power_add, ← hvt, ← hwt], hvt⟩

/-- a word made of two nonempty words that commute is a proper power -/
theorem power_of_commute {u v : List α} (hu : u ≠ []) (hv : v ≠ []) (h : u ++ v = v ++ u) :
    ∃ t k, t ≠ [] ∧ 2 ≤ k ∧ u ++ v = power t k := by
  obtain ⟨t, m, n, hum, hvn⟩ := commute_root h
  have ht : t ≠ [] := by
    rintro rfl
    exact hu (hum.trans (power_nil m))
  have hm : m ≠ 0 := by
    rintro rfl
    exact hu hum
  have hn : n ≠ 0 := by
    rintro rfl
    exact hv hvn
  exact ⟨t, m + n, ht, by omega, by rw [power_add, ← hum, ← hvn]⟩

/-- the place in a double where the second copy of `s` is not the only one -/
theorem occurs_at {s : List α} {i : Nat} (hi : i ≤ s.length) :
    s <+: (s ++ s).drop i ↔ s.take i ++ s.drop i = s.drop i ++ s.take i := by
  have hcut : ((s ++ s).drop i).take s.length = s.drop i ++ s.take i := by
    rw [List.drop_append_of_le_length hi, List.take_append, List.length_drop,
      List.take_of_length_le (by rw [List.length_drop]; omega),
      show s.length - (s.length - i) = i by omega]
  rw [List.prefix_iff_eq_take, hcut, List.take_append_drop]

/-- a proper power occurs inside its double behind its first factor -/
theorem power_commute (t : List α) (k : Nat) :
    (power t (k + 1)).take t.length ++ (power t (k + 1)).drop t.length =
      (power t (k + 1)).drop t.length ++ (power t (k + 1)).take t.length := by
  have htake : (power t (k + 1)).take t.length = t := by
    rw [power_succ, List.take_left]
  have hdrop : (power t (k + 1)).drop t.length = power t k := by
    rw [power_succ, List.drop_left]
  rw [htake, hdrop, ← power_succ, power_add, power_one]

end Words
