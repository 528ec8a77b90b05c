import Mathlib.Order.Bounds.Basic
import Mathlib.Data.Set.Insert
import Mathlib.Tactic.Common

/-!
# Marks that spread along requirements

A requirement names a node and asks for marks on it.  The requirements of a node are taken up as
soon as they apply under the marks that the node has so far, so a node may have to be looked at
again when its marks grow.

* `Rules`, `Rules.Closed`   the rules, and the selections that are closed under them;
* `Worklist`                the invariant of a worklist over these rules: nothing is selected that
                            need not be, and what is not done yet is waiting;
* `skip`, `absorb`, `expand`   the three things that happen to a waiting requirement;
* `Worklist.isLeast`        when nothing waits, the selection is the least closed one.
-/

set_option linter.unusedVariables false

namespace Spread

/-- requirements `R` between nodes `N` with marks `E` -/
structure Rules (R N E : Type) where
  roots : Set R
  /-- the marks under which the roots are read -/
  base : Set E
  next : N → Set R
  name : R → N
  extras : R → Set E
  applies : R → Set E → Prop
  applies_mono : ∀ r {marks marks' : Set E}, marks ⊆ marks' → applies r marks → applies r marks'

variable {R N E : Type}

/-- the nodes that are selected, and the marks of every node -/
abbrev Selection (N E : Type) := Set N × (N → Set E)

namespace Rules
variable (p : Rules R N E)

/-- requirements that apply under a selection -/
def Selected (c : Selection N E) (r : R) : Prop :=
  (r ∈ p.roots ∧ p.applies r p.base) ∨ ∃ n ∈ c.1, r ∈ p.next n ∧ p.applies r (c.2 n)

def Closed (c : Selection N E) : Prop :=
  ∀ r, p.Selected c r → p.name r ∈ c.1 ∧ p.extras r ⊆ c.2 (p.name r)

theorem selected_mono {c c' : Selection N E} (h : c ≤ c') {r : R} (hr : p.Selected c r) :
    p.Selected c' r := by
  rcases hr with hroot | ⟨n, hn, hnext, happlies⟩
  · exact .inl hroot
  · exact .inr ⟨n, h.1 hn, hnext, p.applies_mono r (h.2 n) happlies⟩

/-- a requirement that has been read under these marks -/
def Handled (P : R → Prop) (c : Selection N E) (r : R) (marks : Set E) : Prop :=
  p.applies r marks → P r ∧ p.name r ∈ c.1 ∧ p.extras r ⊆ c.2 (p.name r)

theorem handled_mono {P : R → Prop} {c c' : Selection N E} (h : c ≤ c') {r : R} {marks : Set E}
    (hr : p.Handled P c r marks) : p.Handled P c' r marks := by
  intro happlies
  obtain ⟨hP, hname, hextras⟩ := hr happlies
  exact ⟨hP, h.1 hname, hextras.trans (h.2 (p.name r))⟩

end Rules

/-- the invariant: `P` holds of every requirement that was taken up -/
structure Worklist (p : Rules R N E) (P : R → Prop) (c : Selection N E)
    (pending : Set (R × Set E)) : Prop where
  below : ∀ c', p.Closed c' → c ≤ c'
  origin : ∀ i ∈ pending, (i.1 ∈ p.roots ∧ i.2 = p.base) ∨
    ∃ n ∈ c.1, i.1 ∈ p.next n ∧ i.2 ⊆ c.2 n
  roots_read : ∀ r ∈ p.roots, (r, p.base) ∈ pending ∨ p.Handled P c r p.base
  next_read : ∀ n ∈ c.1, ∀ r ∈ p.next n, (r, c.2 n) ∈ pending ∨ p.Handled P c r (c.2 n)
  reason : ∀ n ∈ c.1, ∃ r, P r ∧ p.name r = n

namespace Worklist
variable {p : Rules R N E} {P : R → Prop} {c : Selection N E}
  {pending pending' : Set (R × Set E)} {r : R} {marks : Set E}

theorem init : Worklist p P (∅, fun _ => ∅) {i | i.1 ∈ p.roots ∧ i.2 = p.base} where
  below := fun c' _ => ⟨Set.empty_subset _, fun _ => Set.empty_subset _⟩
  origin := fun i hi => .inl hi
  roots_read := fun r hr => .inl ⟨hr, rfl⟩
  next_read := fun n hn => absurd hn (Set.notMem_empty n)
  reason := fun n hn => absurd hn (Set.notMem_empty n)

/-- a requirement that waits applies in every closed selection, if it applies at all -/
theorem selected (h : Worklist p P c pending) (hmem : (r, marks) ∈ pending)
    (happlies : p.applies r marks) : p.Selected c r := by
  rcases h.origin _ hmem with ⟨hroot, hbase⟩ | ⟨n, hn, hnext, hsub⟩
  · exact .inl ⟨hroot, by rwa [← show marks = p.base from hbase]⟩
  · exact .inr ⟨n, hn, hnext, p.applies_mono r hsub happlies⟩

theorem handled (h : Worklist p P c pending) (hsub : pending' ⊆ pending)
    (hrest : pending ⊆ insert (r, marks) pending') (hr : p.Handled P c r marks) :
    Worklist p P c pending' where
  below := h.below
  origin := fun i hi => h.origin i (hsub hi)
  roots_read := by
    intro r' hr'
    rcases h.roots_read r' hr' with hwaits | hdone
    · rcases Set.mem_insert_iff.mp (hrest hwaits) with hsame | hwaits'
      · obtain ⟨rfl, hmarks⟩ := Prod.mk.injEq .. ▸ hsame
        exact .inr (hmarks ▸ hr)
      · exact .inl hwaits'
    · exact .inr hdone
  next_read := by
    intro n hn r' hr'
    rcases h.next_read n hn r' hr' with hwaits | hdone
    · rcases Set.mem_insert_iff.mp (hrest hwaits) with hsame | hwaits'
      · obtain ⟨rfl, hmarks⟩ := Prod.mk.injEq .. ▸ hsame
        exact .inr (hmarks ▸ hr)
      · exact .inl hwaits'
    · exact .inr hdone
  reason := h.reason

theorem skip (h : Worklist p P c pending) (hsub : pending' ⊆ pending)
    (hrest : pending ⊆ insert (r, marks) pending') (hnot : ¬ p.applies r marks) :
    Worklist p P c pending' :=
  h.handled hsub hrest fun happlies => absurd happlies hnot

theorem absorb (h : Worklist p P c pending) (hsub : pending' ⊆ pending)
    (hrest : pending ⊆ insert (r, marks) pending') (hP : P r) (hname : p.name r ∈ c.1)
    (hextras : p.extras r ⊆ c.2 (p.name r)) : Worklist p P c pending' :=
  h.handled hsub hrest fun _ => ⟨hP, hname, hextras⟩

/-- the selection with the node of `r` and the marks that `r` asks for -/
def grow (p : Rules R N E) [DecidableEq N] (c : Selection N E) (r : R) : Selection N E :=
  (insert (p.name r) c.1,
    Function.update c.2 (p.name r) (c.2 (p.name r) ∪ p.extras r))

section
variable [DecidableEq N]

theorem le_grow (p : Rules R N E) (c : Selection N E) (r : R) : c ≤ grow p c r := by
  refine ⟨Set.subset_insert _ _, fun n => ?_⟩
  show c.2 n ⊆ Function.update c.2 (p.name r) _ n
  by_cases hn : n = p.name r
  · rw [hn, Function.update_self]
    exact Set.subset_union_left
  · rw [Function.update_of_ne hn]

theorem grow_marks (p : Rules R N E) (c : Selection N E) (r : R) :
    (grow p c r).2 (p.name r) = c.2 (p.name r) ∪ p.extras r := Function.update_self ..

/-- a requirement that asks for something new: the requirements of its node wait once more -/
theorem expand (h : Worklist p P c pending) (hmem : (r, marks) ∈ pending)
    (hsub : pending' ⊆ pending ∪
      {i | i.1 ∈ p.next (p.name r) ∧ i.2 = c.2 (p.name r) ∪ p.extras r})
    (hrest : pending ⊆ insert (r, marks) pending')
    (hnew : ∀ d ∈ p.next (p.name r), (d, c.2 (p.name r) ∪ p.extras r) ∈ pending')
    (happlies : p.applies r marks) (hP : P r) : Worklist p P (grow p c r) pending' := by
  have hle := le_grow p c r
  have hr : p.Handled P (grow p c r) r marks := by
    intro _
    refine ⟨hP, Set.mem_insert _ _, ?_⟩
    rw [grow_marks]
    exact Set.subset_union_right
  have hcases : ∀ r' marks', (r', marks') ∈ pending →
      (r', marks') ∈ pending' ∨ p.Handled P (grow p c r) r' marks' := by
    intro r' marks' hwaits
    rcases Set.mem_insert_iff.mp (hrest hwaits) with hsame | hwaits'
    · obtain ⟨rfl, hmarks⟩ := Prod.mk.injEq .. ▸ hsame
      exact .inr (hmarks ▸ hr)
    · exact .inl hwaits'
  refine ⟨fun c' hc' => ?_, fun i hi => ?_, fun r' hr' => ?_, fun n hn r' hr' => ?_,
    fun n hn => ?_⟩
  · -- every closed selection selects the requirement too
    have hc := h.below c' hc'
    obtain ⟨hname, hextras⟩ := hc' r (p.selected_mono hc (h.selected hmem happlies))
    refine ⟨Set.insert_subset hname hc.1, fun n => ?_⟩
    show Function.update c.2 (p.name r) _ n ⊆ c'.2 n
    by_cases hn : n = p.name r
    · rw [hn, Function.update_self]
      exact Set.union_subset (hc.2 _) hextras
    · rw [Function.update_of_ne hn]
      exact hc.2 n
  · rcases hsub hi with hold | ⟨hnext, hmarks⟩
    · rcases h.origin i hold with hroot | ⟨n, hn, hnext, hmarks⟩
      · exact .inl hroot
      · exact .inr ⟨n, hle.1 hn, hnext, hmarks.trans (hle.2 n)⟩
    · refine .inr ⟨p.name r, Set.mem_insert _ _, hnext, ?_⟩
      rw [grow_marks, hmarks]
  · rcases h.roots_read r' hr' with hwaits | hdone
    · exact hcases r' _ hwaits
    · exact .inr (p.handled_mono hle hdone)
  · by_cases hsame : n = p.name r
    · -- the node itself: all of its requirements wait under the new marks
      rw [hsame, grow_marks]
      exact .inl (hnew r' (hsame ▸ hr'))
    · have hmarks : (grow p c r).2 n = c.2 n := Function.update_of_ne hsame _ _
      rw [hmarks]
      rcases h.next_read n (hn.resolve_left hsame) r' hr' with hwaits | hdone
      · exact hcases r' _ hwaits
      · exact .inr (p.handled_mono hle hdone)
  · rcases hn with rfl | hold
    · exact ⟨r, hP, rfl⟩
    · exact h.reason n hold

end

theorem closed (h : Worklist p P c ∅) :
    ∀ r, p.Selected c r → P r ∧ p.name r ∈ c.1 ∧ p.extras r ⊆ c.2 (p.name r) := by
  rintro r (⟨hroot, happlies⟩ | ⟨n, hn, hnext, happlies⟩)
  · exact (h.roots_read r hroot).resolve_left (Set.notMem_empty _) happlies
  · exact (h.next_read n hn r hnext).resolve_left (Set.notMem_empty _) happlies

/-- **when nothing waits, the least closed selection is reached** -/
theorem isLeast (h : Worklist p P c ∅) : IsLeast {c | p.Closed c} c :=
  ⟨fun r hr => (h.closed r hr).2, h.below⟩

end Worklist

end Spread
