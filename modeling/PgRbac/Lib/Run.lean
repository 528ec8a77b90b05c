import Mathlib.Tactic.Common

/-!
# Runs of a labelled transition system

`System σ ℓ` is a set of initial states and a step relation whose steps carry a label.  A run is a
sequence of states and labels, read up to some length: `IsRun S st lab n` says that the first `n`
steps of `st`, `lab` are steps of `S`, started in an initial state.

* `IsRun.invariant`    what holds initially and survives every step holds along the run;
* `IsRun.mono`         what no step lowers is nondecreasing along the run;
* `IsRun.strict`       and a step that raises it separates the states before from those after;
* `Reachable`          the states that runs end in, with the same invariant rule.
-/

namespace Trace

structure System (σ ℓ : Type) where
  init : σ → Prop
  step : σ → ℓ → σ → Prop

variable {σ ℓ : Type} {S : System σ ℓ}

structure IsRun (S : System σ ℓ) (st : Nat → σ) (lab : Nat → ℓ) (n : Nat) : Prop where
  start : S.init (st 0)
  next : ∀ i, i < n → S.step (st i) (lab i) (st (i + 1))

/-- the states that some run ends in -/
inductive Reachable (S : System σ ℓ) : σ → Prop
  | init {s : σ} : S.init s → Reachable S s
  | step {s s' : σ} (l : ℓ) : Reachable S s → S.step s l s' → Reachable S s'

theorem Reachable.invariant {P : σ → Prop} (h0 : ∀ s, S.init s → P s)
    (hs : ∀ s l s', P s → S.step s l s' → P s') {s : σ} (h : Reachable S s) : P s := by
  induction h with
  | init h => exact h0 _ h
  | step l _ hst ih => exact hs _ l _ ih hst

namespace IsRun
variable {st : Nat → σ} {lab : Nat → ℓ} {n : Nat}

theorem reachable (h : IsRun S st lab n) {i : Nat} (hi : i ≤ n) : Reachable S (st i) := by
  induction i with
  | zero => exact .init h.start
  | succ i ih => exact .step (lab i) (ih (Nat.le_of_succ_le hi)) (h.next i hi)

theorem invariant {P : σ → Prop} (h0 : ∀ s, S.init s → P s)
    (hs : ∀ s l s', P s → S.step s l s' → P s') (h : IsRun S st lab n) {i : Nat} (hi : i ≤ n) :
    P (st i) :=
  (h.reachable hi).invariant h0 hs

/-- an invariant of the prefix: it may speak about every earlier state and label -/
theorem history {P : Nat → Prop} (h0 : P 0) (hs : ∀ i, i < n → P i → P (i + 1)) {i : Nat}
    (hi : i ≤ n) : P i := by
  induction i with
  | zero => exact h0
  | succ i ih => exact hs i hi (ih (Nat.le_of_succ_le hi))

theorem mono {f : σ → Nat} (hs : ∀ s l s', Reachable S s → S.step s l s' → f s ≤ f s')
    (h : IsRun S st lab n) {i j : Nat} (hij : i ≤ j) (hj : j ≤ n) : f (st i) ≤ f (st j) := by
  induction j with
  | zero =>
    have e : i = 0 := by omega
    exact e ▸ Nat.le_refl _
  | succ j ih =>
    rcases Nat.eq_or_lt_of_le hij with e | hlt
    · exact e ▸ Nat.le_refl _
    · have h1 := ih (Nat.le_of_lt_succ hlt) (Nat.le_of_succ_le hj)
      exact Nat.le_trans h1 (hs _ _ _ (h.reachable (Nat.le_of_succ_le hj)) (h.next j hj))

/-- between two states with the same value no step raised it -/
theorem strict {f : σ → Nat} (hs : ∀ s l s', Reachable S s → S.step s l s' → f s ≤ f s')
    (h : IsRun S st lab n) {i j k : Nat} (hik : i ≤ k) (hkj : k < j) (hj : j ≤ n)
    (he : f (st i) = f (st j)) : f (st k) = f (st (k + 1)) := by
  have h1 := h.mono hs hik (by omega)
  have h2 : f (st k) ≤ f (st (k + 1)) := h.mono hs (Nat.le_succ k) (by omega)
  have h3 := h.mono hs (show k + 1 ≤ j from hkj) hj
  omega

end IsRun

end Trace
