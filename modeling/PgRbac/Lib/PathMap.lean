import Mathlib.Data.List.Infix

/-!
# Finite maps on paths

A `PathMap ν β` holds values at finitely many lists of names.  It carries a list of keys that covers
it, so that two maps can be compared.

* `sub p`, `prune p`, `graft p t`     what lies below a path, all but that, and `t` in its place;
* `move p q`                          what lies below `p` goes below `q`;
* `same`                              two maps with the same values (`same_iff`);
* `Closed d`                          whatever lies below a path lies below a value of `d`.
-/

set_option linter.unusedVariables false
set_option linter.unusedSectionVars false

structure PathMap (ν β : Type) where
  get : List ν → Option β
  keys : List (List ν)
  covers : ∀ p, get p ≠ none → p ∈ keys

namespace PathMap

variable {ν β γ : Type} [DecidableEq ν]

def ofList (items : List (List ν × β)) : PathMap ν β where
  get p := items.lookup p
  keys := items.map Prod.fst
  covers := by
    intro p h
    induction items with
    | nil => exact absurd rfl h
    | cons item items ih =>
      by_cases hp : p = item.1
      · rw [hp]
        exact List.mem_cons_self
      · refine List.mem_cons_of_mem _ (ih ?_)
        rw [List.lookup_cons, beq_false_of_ne hp] at h
        exact h

/-- the values that `f` makes of the values -/
def filterMap (f : List ν → β → Option γ) (m : PathMap ν β) : PathMap ν γ where
  get p := (m.get p).bind (f p)
  keys := m.keys
  covers := by
    intro p h
    refine m.covers p ?_
    intro hnone
    rw [hnone] at h
    exact h rfl

def sub (p : List ν) (m : PathMap ν β) : PathMap ν β where
  get q := m.get (p ++ q)
  keys := m.keys.filterMap fun q => if p <+: q then some (q.drop p.length) else none
  covers := by
    intro q h
    refine List.mem_filterMap.mpr ⟨p ++ q, m.covers _ h, ?_⟩
    rw [if_pos (List.prefix_append p q), List.drop_left]

def prune (p : List ν) (m : PathMap ν β) : PathMap ν β where
  get q := if p <+: q then none else m.get q
  keys := m.keys
  covers := by
    intro q h
    refine m.covers q ?_
    intro hnone
    by_cases hq : p <+: q
    · rw [if_pos hq] at h
      exact h rfl
    · rw [if_neg hq] at h
      exact h hnone

def graft (p : List ν) (m t : PathMap ν β) : PathMap ν β where
  get q := if p <+: q then t.get (q.drop p.length) else m.get q
  keys := t.keys.map (p ++ ·) ++ m.keys
  covers := by
    intro q h
    by_cases hq : p <+: q
    · rw [if_pos hq] at h
      obtain ⟨r, rfl⟩ := hq
      rw [List.drop_left] at h
      exact List.mem_append_left _ (List.mem_map.mpr ⟨r, t.covers r h, rfl⟩)
    · rw [if_neg hq] at h
      exact List.mem_append_right _ (m.covers q h)

def move (p q : List ν) (m : PathMap ν β) : PathMap ν β := (m.prune p).graft q (m.sub p)

def insert (p : List ν) (b : β) (m : PathMap ν β) : PathMap ν β where
  get q := if q = p then some b else m.get q
  keys := p :: m.keys
  covers := by
    intro q h
    by_cases hq : q = p
    · rw [hq]
      exact List.mem_cons_self
    · rw [if_neg hq] at h
      exact List.mem_cons_of_mem p (m.covers q h)

/-! ## values -/

variable {p q r : List ν} {m t : PathMap ν β}

theorem get_filterMap (f : List ν → β → Option γ) (m : PathMap ν β) (p : List ν) :
    (m.filterMap f).get p = (m.get p).bind (f p) := rfl

@[simp] theorem get_sub : (m.sub p).get q = m.get (p ++ q) := rfl

theorem get_prune_below (h : p <+: q) : (m.prune p).get q = none := if_pos h

theorem get_prune (h : ¬ p <+: q) : (m.prune p).get q = m.get q := if_neg h

theorem get_graft_append : (m.graft p t).get (p ++ q) = t.get q := by
  show (if p <+: p ++ q then _ else _) = _
  rw [if_pos (List.prefix_append p q), List.drop_left]

theorem get_graft (h : ¬ p <+: q) : (m.graft p t).get q = m.get q := if_neg h

theorem get_move_append : (m.move p q).get (q ++ r) = m.get (p ++ r) := get_graft_append

theorem get_move (hp : ¬ p <+: r) (hq : ¬ q <+: r) : (m.move p q).get r = m.get r := by
  show ((m.prune p).graft q (m.sub p)).get r = m.get r
  rw [get_graft hq, get_prune hp]

theorem get_move_below (hp : p <+: r) (hq : ¬ q <+: r) : (m.move p q).get r = none := by
  show ((m.prune p).graft q (m.sub p)).get r = none
  rw [get_graft hq, get_prune_below hp]

theorem get_insert_self {b : β} : (m.insert p b).get p = some b := if_pos rfl

theorem get_insert {b : β} (h : q ≠ p) : (m.insert p b).get q = m.get q := if_neg h

/-! ## paths that lie apart -/

/-- neither path lies at or below the other -/
structure Apart (p q : List ν) : Prop where
  above : ¬ p <+: q
  below : ¬ q <+: p

theorem Apart.symm (h : Apart p q) : Apart q p := ⟨h.below, h.above⟩

theorem Apart.append (h : Apart p q) (r : List ν) : ¬ p <+: q ++ r := by
  intro hp
  rcases List.prefix_or_prefix_of_prefix hp (List.prefix_append q r) with habove | hbelow
  · exact h.above habove
  · exact h.below hbelow

theorem get_graft_apart (h : Apart p q) : (m.graft p t).get (q ++ r) = m.get (q ++ r) :=
  get_graft (h.append r)

theorem get_move_apart {s : List ν} (hp : Apart p s) (hq : Apart q s) :
    (m.move p q).get (s ++ r) = m.get (s ++ r) := get_move (hp.append r) (hq.append r)

theorem get_move_self (h : Apart q p) : (m.move p q).get (p ++ r) = none :=
  get_move_below (List.prefix_append p r) (h.append r)

/-- a path that is a new name apart, or that name -/
theorem prefix_concat {a : ν} (h : p <+: q ++ [a]) : p <+: q ∨ p = q ++ [a] :=
  (List.prefix_concat_iff.mp h).symm

/-! ## equal maps -/

def same [DecidableEq β] (m t : PathMap ν β) : Bool :=
  (m.keys ++ t.keys).all fun p => m.get p == t.get p

theorem same_iff [DecidableEq β] : m.same t = true ↔ ∀ p, m.get p = t.get p := by
  unfold same
  rw [List.all_eq_true]
  constructor
  · intro h p
    by_cases hm : m.get p = none
    · by_cases ht : t.get p = none
      · rw [hm, ht]
      · exact beq_iff_eq.mp (h p (List.mem_append_right _ (t.covers p ht)))
    · exact beq_iff_eq.mp (h p (List.mem_append_left _ (m.covers p hm)))
  · intro h p _
    exact beq_iff_eq.mpr (h p)

/-! ## maps that are trees -/

/-- only values of `d` have something below -/
def Closed (d : β → Bool) (m : PathMap ν β) : Prop :=
  ∀ p a, m.get (p ++ [a]) ≠ none → (m.get p).any d = true

/-- the test of it on the keys -/
def closedKeys (d : β → Bool) (m : PathMap ν β) : Bool :=
  m.keys.all fun p => p.isEmpty || (m.get p).isNone || (m.get p.dropLast).any d

theorem closed_of_keys {d : β → Bool} (h : m.closedKeys d = true) : Closed d m := by
  intro p a hv
  have hkey := List.all_eq_true.mp h _ (m.covers _ hv)
  rw [Bool.or_eq_true, Bool.or_eq_true, List.dropLast_concat, Option.isNone_iff_eq_none,
    List.isEmpty_iff] at hkey
  rcases hkey with (hnil | hnone) | hany
  · exact absurd hnil (List.append_ne_nil_of_right_ne_nil _ (List.cons_ne_nil _ _))
  · exact absurd hnone hv
  · exact hany

theorem Closed.above {d : β → Bool} (h : Closed d m) (hq : q ≠ []) (hv : m.get (p ++ q) ≠ none) :
    (m.get p).any d = true := by
  induction q using List.reverseRecOn with
  | nil => exact absurd rfl hq
  | append_singleton q a ih =>
    by_cases hnil : q = []
    · rw [hnil] at hv
      exact h p a hv
    · refine ih hnil ?_
      intro hnone
      have hany := h (p ++ q) a (by rw [List.append_assoc]; exact hv)
      rw [hnone] at hany
      cases hany

theorem Closed.some {d : β → Bool} (h : Closed d m) (hv : m.get (p ++ q) ≠ none) :
    m.get p ≠ none := by
  by_cases hq : q = []
  · rw [hq, List.append_nil] at hv
    exact hv
  · intro hnone
    have hany := h.above hq hv
    rw [hnone] at hany
    cases hany

/-- nothing lies below a path that has no value -/
theorem Closed.none {d : β → Bool} (h : Closed d m) (hp : m.get p = .none) (q : List ν) :
    m.get (p ++ q) = .none := by
  by_contra hv
  exact h.some hv hp

theorem Closed.sub {d : β → Bool} (h : Closed d m) (p : List ν) : Closed d (m.sub p) := by
  intro q a hv
  refine h (p ++ q) a ?_
  rw [List.append_assoc]
  exact hv

end PathMap
