import Mathlib.Data.List.Forall2

/-!
# Graphs of objects, alike up to hidden fields

A value is a scalar or a reference to a dictionary, a list or a tuple; the references may form
cycles.  Two values are alike when every unfolding of the one is one of the other: with the same
scalars, the same shapes and the same keys, and with the same references back to an object that
stands above.  What is stored under a hidden key does not count.

* `alikeTo`, `Alike`         alike to some depth, and to every depth;
* `Correspondence`           a one-to-one relation of the objects that respects their contents;
* `Correspondence.alike`     related values are alike, with cycles and sharing of any form;
* `Alike.refl`               a value is alike to itself.
-/

set_option linter.unusedVariables false

namespace ObjectGraph

inductive Value (σ : Type) where
  | scalar (s : σ)
  | ref (i : Nat)
deriving DecidableEq, Repr

inductive Object (κ σ : Type) where
  | dict (items : List (κ × Value σ))
  | list (items : List (Value σ))
  | tuple (items : List (Value σ))

abbrev Heap (κ σ : Type) := Nat → Object κ σ

section
variable {κ σ : Type} (hidden : κ → Prop) (heap heap' : Heap κ σ)

/-- objects of the same shape with related contents, hidden ones apart -/
inductive AlikeObject (related : Value σ → Value σ → Prop) : Object κ σ → Object κ σ → Prop
  | dict {items items' : List (κ × Value σ)}
      (h : List.Forall₂ (fun entry entry' => entry.1 = entry'.1 ∧
        (hidden entry.1 ∨ related entry.2 entry'.2)) items items') :
      AlikeObject related (.dict items) (.dict items')
  | list {items items' : List (Value σ)} (h : List.Forall₂ related items items') :
      AlikeObject related (.list items) (.list items')
  | tuple {items items' : List (Value σ)} (h : List.Forall₂ related items items') :
      AlikeObject related (.tuple items) (.tuple items')

/-- a step of an unfolding, below the pairs of objects that stand above -/
inductive AlikeStep (above : List (Nat × Nat))
    (related : List (Nat × Nat) → Value σ → Value σ → Prop) : Value σ → Value σ → Prop
  | scalar (s : σ) : AlikeStep above related (.scalar s) (.scalar s)
  | ref {i i' : Nat} (hsame : ∀ pair ∈ above, pair.1 = i ↔ pair.2 = i')
      (h : AlikeObject hidden (related ((i, i') :: above)) (heap i) (heap' i')) :
      AlikeStep above related (.ref i) (.ref i')

def alikeTo : Nat → List (Nat × Nat) → Value σ → Value σ → Prop
  | 0 => fun _ _ _ => True
  | n + 1 => fun above => AlikeStep hidden heap heap' above (alikeTo n)

def Alike (value value' : Value σ) : Prop := ∀ n, alikeTo hidden heap heap' n [] value value'

/-- values that a relation of objects pairs -/
inductive Linked (related : Nat → Nat → Prop) : Value σ → Value σ → Prop
  | scalar (s : σ) : Linked related (.scalar s) (.scalar s)
  | ref {i i' : Nat} (h : related i i') : Linked related (.ref i) (.ref i')

/-- objects are paired one to one, and their contents are paired -/
structure Correspondence (related : Nat → Nat → Prop) : Prop where
  oneToOne : ∀ {i i' j j'}, related i i' → related j j' → (i = j ↔ i' = j')
  contents : ∀ {i i'}, related i i' → AlikeObject hidden (Linked related) (heap i) (heap' i')

end

section
variable {κ σ : Type} {hidden : κ → Prop} {heap heap' : Heap κ σ}

theorem AlikeObject.mono {related related' : Value σ → Value σ → Prop}
    (hmono : ∀ value value', related value value' → related' value value') {object object' : Object κ σ}
    (h : AlikeObject hidden related object object') : AlikeObject hidden related' object object' := by
  cases h with
  | dict hitems =>
    refine .dict (hitems.imp fun entry entry' hentry => ⟨hentry.1, ?_⟩)
    exact hentry.2.imp_right (hmono entry.2 entry'.2)
  | list hitems => exact .list (hitems.imp hmono)
  | tuple hitems => exact .tuple (hitems.imp hmono)

namespace Correspondence

theorem alikeTo {related : Nat → Nat → Prop} (c : Correspondence hidden heap heap' related) (n : Nat)
    {above : List (Nat × Nat)} (habove : ∀ pair ∈ above, related pair.1 pair.2)
    {value value' : Value σ} (h : Linked related value value') :
    alikeTo hidden heap heap' n above value value' := by
  induction n generalizing above value value' with
  | zero => trivial
  | succ n ih =>
    cases h with
    | scalar s => exact .scalar s
    | ref hi =>
      refine .ref (fun pair hpair => c.oneToOne (habove pair hpair) hi) ?_
      refine (c.contents hi).mono fun value value' hvalue => ih ?_ hvalue
      exact List.forall_mem_cons.mpr ⟨hi, habove⟩

/-- **related values are alike** -/
theorem alike {related : Nat → Nat → Prop} (c : Correspondence hidden heap heap' related)
    {value value' : Value σ} (h : Linked related value value') :
    Alike hidden heap heap' value value' :=
  fun n => c.alikeTo n (fun pair hpair => absurd hpair List.not_mem_nil) h

end Correspondence

theorem correspondence_eq : Correspondence hidden heap heap Eq where
  oneToOne := by
    rintro i _ j _ rfl rfl
    exact Iff.rfl
  contents := by
    rintro i _ rfl
    have hlinked : ∀ value : Value σ, Linked Eq value value
      | .scalar s => .scalar s
      | .ref i => .ref rfl
    cases heap i with
    | dict items => exact .dict (List.forall₂_same.mpr fun entry _ => ⟨rfl, .inr (hlinked _)⟩)
    | list items => exact .list (List.forall₂_same.mpr fun value _ => hlinked value)
    | tuple items => exact .tuple (List.forall₂_same.mpr fun value _ => hlinked value)

theorem Alike.refl (value : Value σ) : Alike hidden heap heap value value := by
  cases value with
  | scalar s => exact correspondence_eq.alike (.scalar s)
  | ref i => exact correspondence_eq.alike (.ref rfl)

end

end ObjectGraph
