import Mathlib.Data.List.Induction
import Mathlib.Order.Defs.PartialOrder

/-!
# The first best element of a list

`best lt l` is the element that `max` keeps: a later one replaces it only if it is greater under
`lt`.  With the order turned around this is `min`.

* `best_mem`, `best_not_lt`    it is in the list, and no element is greater;
* `best_map`                   new names that keep the order do not change the choice;
* `lexBy`                      tuples: the first component decides, else the rest of the tuple.
-/

set_option linter.unusedVariables false

namespace Choice

variable {α β : Type} {lt : α → α → Bool}

/-- the better one of two -/
def keep (lt : α → α → Bool) (o : Option α) (b : α) : Option α :=
  match o with
  | none => some b
  | some a => if lt a b then some b else some a

def best (lt : α → α → Bool) (l : List α) : Option α := l.foldl (keep lt) none

theorem best_concat (l : List α) (b : α) : best lt (l ++ [b]) = keep lt (best lt l) b := by
  unfold best
  rw [List.foldl_append]
  rfl

theorem best_mem {l : List α} {a : α} (h : best lt l = some a) : a ∈ l := by
  induction l using List.reverseRecOn generalizing a with
  | nil => cases h
  | append_singleton l b ih =>
    rw [best_concat] at h
    cases hl : best lt l with
    | none =>
      rw [hl] at h
      cases h
      exact List.mem_append_right l List.mem_cons_self
    | some c =>
      rw [hl] at h
      change (if lt c b then some b else some c) = some a at h
      split at h
      · cases h
        exact List.mem_append_right l List.mem_cons_self
      · cases h
        exact List.mem_append_left [b] (ih hl)

theorem best_eq_none {l : List α} (h : best lt l = none) : l = [] := by
  induction l using List.reverseRecOn with
  | nil => rfl
  | append_singleton l b ih =>
    rw [best_concat] at h
    cases hl : best lt l with
    | none => rw [hl] at h; cases h
    | some c =>
      rw [hl] at h
      change (if lt c b then some b else some c) = none at h
      split at h <;> cases h

/-- **no element is greater than the one that is kept** -/
theorem best_not_lt (hirrefl : ∀ a, lt a a = false)
    (htrans : ∀ a b c, lt a b = true → lt b c = true → lt a c = true) {l : List α} {a : α}
    (h : best lt l = some a) : ∀ b ∈ l, lt a b = false := by
  induction l using List.reverseRecOn generalizing a with
  | nil => cases h
  | append_singleton l b ih =>
    intro x hx
    rw [best_concat] at h
    cases hl : best lt l with
    | none =>
      rw [hl] at h
      cases h
      rw [best_eq_none hl, List.nil_append, List.mem_singleton] at hx
      rw [hx]
      exact hirrefl _
    | some c =>
      rw [hl] at h
      change (if lt c b then some b else some c) = some a at h
      split at h
      · rename_i hless
        cases h
        rcases List.mem_append.mp hx with hold | hnew
        · -- what is greater than the new element is greater than the old one
          rw [Bool.eq_false_iff]
          intro hgreater
          have hnot := ih hl x hold
          rw [htrans _ _ x hless hgreater] at hnot
          cases hnot
        · rw [List.mem_singleton.mp hnew]
          exact hirrefl _
      · rename_i hkeep
        cases h
        rcases List.mem_append.mp hx with hold | hnew
        · exact ih hl x hold
        · rw [List.mem_singleton.mp hnew]
          exact Bool.eq_false_iff.mpr hkeep

/-- **new names that keep the order do not change the choice** -/
theorem best_map {lt' : β → β → Bool} {σ : α → β} (h : ∀ a b, lt' (σ a) (σ b) = lt a b)
    (l : List α) : best lt' (l.map σ) = (best lt l).map σ := by
  induction l using List.reverseRecOn with
  | nil => rfl
  | append_singleton l b ih =>
    rw [List.map_append, List.map_singleton, best_concat, best_concat, ih]
    cases best lt l with
    | none => rfl
    | some c =>
      show (if lt' (σ c) (σ b) then some (σ b) else some (σ c)) =
        (if lt c b then some b else some c).map σ
      rw [h, apply_ite (Option.map σ)]
      rfl

/-! ## tuples -/

/-- less at `f`, or equal there and less in the rest of the tuple -/
def lexBy {κ : Type} [LT κ] [DecidableLT κ] [DecidableEq κ] (f : α → κ) (rest : α → α → Bool)
    (a b : α) : Bool :=
  decide (f a < f b) || (decide (f a = f b) && rest a b)

/-- the end of a tuple -/
def never (a b : α) : Bool := false

section
variable {κ : Type} [Preorder κ] [DecidableLT κ] [DecidableEq κ] {f : α → κ}
  {rest : α → α → Bool}

theorem lexBy_iff {a b : α} :
    lexBy f rest a b = true ↔ f a < f b ∨ f a = f b ∧ rest a b = true := by
  unfold lexBy
  rw [Bool.or_eq_true, Bool.and_eq_true, decide_eq_true_eq, decide_eq_true_eq]

theorem lexBy_irrefl (h : ∀ a, rest a a = false) (a : α) : lexBy f rest a a = false := by
  rw [Bool.eq_false_iff, Ne, lexBy_iff]
  rintro (hless | ⟨-, hrest⟩)
  · exact lt_irrefl _ hless
  · rw [h] at hrest
    cases hrest

theorem lexBy_trans (h : ∀ a b c, rest a b = true → rest b c = true → rest a c = true)
    (a b c : α) (hab : lexBy f rest a b = true) (hbc : lexBy f rest b c = true) :
    lexBy f rest a c = true := by
  rw [lexBy_iff] at hab hbc ⊢
  rcases hab with hab | ⟨hab, hab'⟩
  · rcases hbc with hbc | ⟨hbc, -⟩
    · exact .inl (lt_trans hab hbc)
    · exact .inl (hbc ▸ hab)
  · rcases hbc with hbc | ⟨hbc, hbc'⟩
    · exact .inl (hab ▸ hbc)
    · exact .inr ⟨hab.trans hbc, h a b c hab' hbc'⟩

end

end Choice
