import Mathlib.Logic.Function.Basic
import Mathlib.Logic.Relation
import PgRbac.Lib.Run

/-!
# Transactions that wait for locks

Transactions request locks one after the other, hold what they got, and release everything when
they end.  A request is granted unless another transaction holds a conflicting lock.

* `Txn`, `locking`         the interleavings of a family of programs;
* `Waits`, `Deadlocked`    who waits for whom, and a cycle of waiting;
* `held_compatible`        no two transactions ever hold conflicting locks;
* `progress_of_reachable`  what a transaction holds and what it still requests is its program;
* `no_deadlock_of_guard`   programs that start with one common exclusive lock, together with
                           programs of a single request, never deadlock.
-/

set_option linter.unusedSectionVars false

namespace Locks

open Trace

variable {ι L : Type} [DecidableEq ι]

/-- a transaction in progress: the locks it holds, last one first, and those still to request -/
structure Txn (L : Type) where
  held : List L
  todo : List L

inductive Event (ι : Type) where
  | acquire (i : ι)
  | finish (i : ι)

variable (conflict : L → L → Prop) (program : ι → List L)

def granted (s : ι → Txn L) (i : ι) (l : L) : Prop :=
  ∀ j, j ≠ i → ∀ h ∈ (s j).held, ¬ conflict h l

/-- every transaction starts with its program; it may end at any time, after a failure or a
commit, and releases its locks then -/
def locking : System (ι → Txn L) (Event ι) where
  init s := ∀ i, s i = ⟨[], program i⟩
  step s e s' :=
    match e with
    | .acquire i => ∃ l rest, (s i).todo = l :: rest ∧ granted conflict s i l ∧
        s' = Function.update s i ⟨l :: (s i).held, rest⟩
    | .finish i => s' = Function.update s i ⟨[], []⟩

/-- `i` waits for a lock that conflicts with one that `j` holds -/
def Waits (s : ι → Txn L) (i j : ι) : Prop :=
  i ≠ j ∧ ∃ l rest, (s i).todo = l :: rest ∧ ∃ h ∈ (s j).held, conflict h l

/-- some transactions wait for each other in a cycle -/
def Deadlocked (s : ι → Txn L) : Prop := ∃ i, Relation.TransGen (Waits conflict s) i i

variable {conflict program}

/-- **two transactions never hold conflicting locks** -/
theorem held_compatible (hsymm : ∀ a b, conflict a b → conflict b a) {s : ι → Txn L}
    (h : Reachable (locking conflict program) s) {i j : ι} (hij : i ≠ j) :
    ∀ a ∈ (s i).held, ∀ b ∈ (s j).held, ¬ conflict a b := by
  induction h generalizing i j with
  | init h0 =>
    intro a ha
    rw [h0 i] at ha
    cases ha
  | @step s s' e _ hst ih =>
    intro a ha b hb
    cases e with
    | finish k =>
      rw [show s' = _ from hst] at ha hb
      by_cases hi : i = k
      · rw [hi, Function.update_self] at ha
        cases ha
      · by_cases hj : j = k
        · rw [hj, Function.update_self] at hb
          cases hb
        · rw [Function.update_of_ne hi] at ha
          rw [Function.update_of_ne hj] at hb
          exact ih hij a ha b hb
    | acquire k =>
      obtain ⟨l, rest, -, hg, hs⟩ := hst
      rw [hs] at ha hb
      by_cases hi : i = k
      · have hj : j ≠ k := fun e => hij (hi.trans e.symm)
        rw [hi, Function.update_self] at ha
        rw [Function.update_of_ne hj] at hb
        rcases List.mem_cons.mp ha with rfl | ha
        · exact fun hc => hg j hj b hb (hsymm _ _ hc)
        · exact ih (hi ▸ hij) a ha b hb
      · rw [Function.update_of_ne hi] at ha
        by_cases hj : j = k
        · rw [hj, Function.update_self] at hb
          rcases List.mem_cons.mp hb with rfl | hb
          · exact hg i hi a ha
          · exact ih (hj ▸ hij) a ha b hb
        · rw [Function.update_of_ne hj] at hb
          exact ih hij a ha b hb

/-- a transaction has its program partly behind it, or has ended -/
def Progress (program : List L) (t : Txn L) : Prop :=
  t.held.reverse ++ t.todo = program ∨ (t.held = [] ∧ t.todo = [])

theorem progress_of_reachable {s : ι → Txn L} (h : Reachable (locking conflict program) s) (i : ι) :
    Progress (program i) (s i) := by
  induction h with
  | init h0 =>
    rw [h0 i]
    exact Or.inl rfl
  | @step s s' e _ hst ih =>
    cases e with
    | finish k =>
      rw [show s' = _ from hst]
      by_cases hi : i = k
      · rw [hi, Function.update_self]
        exact Or.inr ⟨rfl, rfl⟩
      · rw [Function.update_of_ne hi]
        exact ih
    | acquire k =>
      obtain ⟨l, rest, ht, -, hs⟩ := hst
      rw [hs]
      by_cases hi : i = k
      · subst hi
        rw [Function.update_self]
        rcases ih with ih | ⟨-, hnil⟩
        · rw [ht] at ih
          exact Or.inl (by simpa using ih)
        · rw [ht] at hnil
          cases hnil
      · rw [Function.update_of_ne hi]
        exact ih

/-- a transaction that waits, with something held already, of a program that starts with `g` or is
a single request, holds `g` -/
theorem Progress.holds_guard {p : List L} {t : Txn L} {g : L} (hp : Progress p t)
    (hg : p.length ≤ 1 ∨ p.head? = some g) (hheld : t.held ≠ []) (htodo : t.todo ≠ []) :
    g ∈ t.held := by
  have hpos : 0 < t.held.length := List.length_pos_iff.mpr hheld
  have hpos' : 0 < t.todo.length := List.length_pos_iff.mpr htodo
  rcases hp with hp | ⟨hnil, -⟩
  · have hlen : t.held.length + t.todo.length = p.length := by
      rw [← hp, List.length_append, List.length_reverse]
    rcases hg with hone | hhead
    · omega
    · obtain ⟨x, xs, hx⟩ := List.exists_cons_of_ne_nil (List.reverse_ne_nil_iff.mpr hheld)
      rw [← hp, hx] at hhead
      have hxg : x = g := Option.some.inj hhead
      exact List.mem_reverse.mp (by rw [hx, hxg]; exact List.mem_cons_self)
  · exact absurd hnil hheld

/-- **a common exclusive first lock excludes deadlock**, also with transactions that request a
single lock and never wait while they hold it -/
theorem no_deadlock_of_guard (hsymm : ∀ a b, conflict a b → conflict b a) {g : L}
    (hexcl : conflict g g) (hprog : ∀ i, (program i).length ≤ 1 ∨ (program i).head? = some g)
    {s : ι → Txn L} (h : Reachable (locking conflict program) s) : ¬ Deadlocked conflict s := by
  rintro ⟨i, hcycle⟩
  -- whoever is waited for holds something; on a cycle it waits too, so it holds the guard
  have hholds : ∀ a b c, Waits conflict s a b → Waits conflict s b c → g ∈ (s b).held := by
    rintro a b c ⟨-, l, rest, -, x, hx, -⟩ ⟨-, l', rest', ht, -⟩
    refine (progress_of_reachable h b).holds_guard (hprog b) ?_ ?_
    · exact List.ne_nil_of_mem hx
    · rw [ht]
      exact List.cons_ne_nil _ _
  -- a step of the cycle between two holders of the guard
  obtain ⟨j, hij, hji⟩ : ∃ j, Waits conflict s i j ∧ Relation.ReflTransGen (Waits conflict s) j i :=
    Relation.TransGen.head'_iff.mp hcycle
  obtain ⟨k, hik, hki⟩ : ∃ k, Relation.ReflTransGen (Waits conflict s) i k ∧ Waits conflict s k i :=
    Relation.TransGen.tail'_iff.mp hcycle
  have hi : g ∈ (s i).held := hholds k i j hki hij
  have hj : g ∈ (s j).held := by
    rcases Relation.ReflTransGen.cases_head hji with rfl | ⟨m, hjm, -⟩
    · exact hi
    · exact hholds i j m hij hjm
  exact held_compatible hsymm h hij.1 g hi g hj hexcl

end Locks
