import Mathlib.Data.List.Nodup
import Mathlib.Data.List.Perm.Basic
import Mathlib.Data.List.Dedup

/-!
# Soft-deleted relations with a partial unique index

A link table relates `α` to `β`.  A link is never removed: it is tombstoned by a deletion time,
and a pair may be linked again later by a fresh row.  `Links α β` carries the partial unique
index: no two LIVE rows relate the same pair.

* `Linked t a b`       some live row relates `a` to `b`;
* `rights t a`, `lefts t b`   the live partners of `a`, of `b`;
* `link? t a b`        a new row, refused when the pair is live;
* `linkAll? t a bs`    one new row for every member of `bs`;
* `tombstone t now p`  every live row whose pair satisfies `p` is deleted.
-/

set_option linter.unusedSectionVars false

namespace Store

structure Link (α β : Type) where
  left : α
  right : β
  deletedAt : Option Nat
  deriving DecidableEq, Repr

variable {α β : Type} [DecidableEq α] [DecidableEq β]

namespace Link

def isLive (l : Link α β) : Bool := l.deletedAt.isNone

def pair (l : Link α β) : α × β := (l.left, l.right)

end Link

structure Links (α β : Type) where
  rows : List (Link α β)
  live_nodup : ((rows.filter Link.isLive).map Link.pair).Nodup

namespace Links

def empty : Links α β := ⟨[], List.nodup_nil⟩

/-- the live pairs, in insertion order -/
def pairs (t : Links α β) : List (α × β) := (t.rows.filter Link.isLive).map Link.pair

def Linked (t : Links α β) (a : α) (b : β) : Prop := (a, b) ∈ t.pairs

instance (t : Links α β) (a : α) (b : β) : Decidable (t.Linked a b) :=
  inferInstanceAs (Decidable ((a, b) ∈ t.pairs))

/-- the live partners of `a` -/
def rights (t : Links α β) (a : α) : List β :=
  (t.pairs.filter (fun p => p.1 = a)).map Prod.snd

/-- the live partners of `b` -/
def lefts (t : Links α β) (b : β) : List α :=
  (t.pairs.filter (fun p => p.2 = b)).map Prod.fst

def link? (t : Links α β) (a : α) (b : β) : Option (Links α β) :=
  if h : (a, b) ∈ t.pairs then none
  else some
    { rows := t.rows ++ [⟨a, b, none⟩]
      live_nodup := by
        rw [List.filter_append, List.map_append, List.nodup_append]
        refine ⟨t.live_nodup, List.nodup_singleton _, ?_⟩
        intro p hp q hq e
        have hq' : q = (a, b) := List.mem_singleton.mp hq
        exact h (hq' ▸ e ▸ hp) }

def linkAll? (t : Links α β) (a : α) : List β → Option (Links α β)
  | [] => some t
  | b :: bs => (t.link? a b).bind fun t' => t'.linkAll? a bs

/-- delete every live row whose pair satisfies `p` -/
def tombstone (t : Links α β) (now : Nat) (p : α × β → Bool) : Links α β where
  rows := t.rows.map fun l =>
    if l.isLive && p l.pair then { l with deletedAt := some now } else l
  live_nodup := by
    refine List.Nodup.sublist ?_ t.live_nodup
    induction t.rows with
    | nil => exact List.Sublist.refl _
    | cons l ls ih =>
      rw [List.map_cons, List.filter_cons, List.filter_cons]
      by_cases hl : l.isLive <;> by_cases hp : p l.pair
      · simp only [hl, hp, Bool.and_self, ite_true]
        exact List.Sublist.cons _ ih
      · simp only [hl, hp, Bool.true_and, Bool.false_eq_true, ite_false, ite_true, List.map_cons]
        exact List.Sublist.cons_cons _ ih
      · simp only [hl, Bool.false_and, Bool.false_eq_true, ite_false]
        exact ih
      · simp only [hl, Bool.false_and, Bool.false_eq_true, ite_false]
        exact ih

/-! ## live pairs after an operation -/

theorem pairs_nodup (t : Links α β) : t.pairs.Nodup := t.live_nodup

theorem pairs_link? {t t' : Links α β} {a : α} {b : β} (h : t.link? a b = some t') :
    t'.pairs = t.pairs ++ [(a, b)] := by
  unfold link? at h
  split at h
  · cases h
  · cases h
    show (List.filter Link.isLive (t.rows ++ [⟨a, b, none⟩])).map Link.pair = _
    rw [List.filter_append, List.map_append]
    rfl

theorem pairs_linkAll? {t t' : Links α β} {a : α} {bs : List β} (h : t.linkAll? a bs = some t') :
    t'.pairs = t.pairs ++ bs.map (fun b => (a, b)) := by
  induction bs generalizing t with
  | nil =>
    cases h
    simp
  | cons b bs ih =>
    obtain ⟨t₁, h₁, h₂⟩ := Option.bind_eq_some_iff.mp h
    rw [ih h₂, pairs_link? h₁, List.map_cons, List.append_assoc]
    rfl

theorem linkAll?_isSome {t : Links α β} {a : α} {bs : List β} (hn : bs.Nodup)
    (hf : ∀ b ∈ bs, ¬ t.Linked a b) : ∃ t', t.linkAll? a bs = some t' := by
  induction bs generalizing t with
  | nil => exact ⟨t, rfl⟩
  | cons b bs ih =>
    obtain ⟨hb, hbs⟩ := List.nodup_cons.mp hn
    have hfresh : (a, b) ∉ t.pairs := hf b List.mem_cons_self
    obtain ⟨t₁, h₁⟩ : ∃ t₁, t.link? a b = some t₁ := by
      unfold link?
      rw [dif_neg hfresh]
      exact ⟨_, rfl⟩
    have hf₁ : ∀ b' ∈ bs, ¬ t₁.Linked a b' := by
      intro b' hb' hl
      have hl' : (a, b') ∈ t.pairs ++ [(a, b)] := pairs_link? h₁ ▸ hl
      rcases List.mem_append.mp hl' with h | h
      · exact hf b' (List.mem_cons_of_mem _ hb') h
      · have e : b' = b := by simpa using h
        exact hb (e ▸ hb')
    obtain ⟨t₂, h₂⟩ := ih hbs hf₁
    exact ⟨t₂, by rw [linkAll?, h₁]; exact h₂⟩

theorem pairs_tombstone (t : Links α β) (now : Nat) (p : α × β → Bool) :
    (t.tombstone now p).pairs = t.pairs.filter (fun q => !p q) := by
  show ((t.rows.map fun l => if l.isLive && p l.pair then { l with deletedAt := some now } else l).filter
    Link.isLive).map Link.pair = ((t.rows.filter Link.isLive).map Link.pair).filter (fun q => !p q)
  induction t.rows with
  | nil => rfl
  | cons l ls ih =>
    rw [List.map_cons, List.filter_cons, List.filter_cons]
    by_cases hl : l.isLive <;> by_cases hp : p l.pair
    · have hd : Link.isLive { l with deletedAt := some now } = false := rfl
      simp only [hl, hp, Bool.and_self, ite_true, hd, Bool.false_eq_true, ite_false, List.map_cons,
        List.filter_cons, Bool.not_true]
      exact ih
    · simp only [hl, hp, Bool.and_false, Bool.false_eq_true, ite_false, ite_true, List.map_cons,
        List.filter_cons, Bool.not_false]
      rw [ih]
    · simp only [hl, Bool.false_and, Bool.false_eq_true, ite_false]
      exact ih
    · simp only [hl, Bool.false_and, Bool.false_eq_true, ite_false]
      exact ih

/-! ## partners -/

@[simp] theorem mem_rights {t : Links α β} {a : α} {b : β} : b ∈ t.rights a ↔ t.Linked a b := by
  simp [rights, Linked]

@[simp] theorem mem_lefts {t : Links α β} {a : α} {b : β} : a ∈ t.lefts b ↔ t.Linked a b := by
  simp [lefts, Linked]

theorem rights_nodup (t : Links α β) (a : α) : (t.rights a).Nodup := by
  refine List.Nodup.map_on ?_ (t.pairs_nodup.filter _)
  rintro ⟨x, b⟩ hx ⟨y, b'⟩ hy e
  have h1 : x = a := by simpa using (List.mem_filter.mp hx).2
  have h2 : y = a := by simpa using (List.mem_filter.mp hy).2
  rw [h1, h2, show b = b' from e]

theorem lefts_nodup (t : Links α β) (b : β) : (t.lefts b).Nodup := by
  refine List.Nodup.map_on ?_ (t.pairs_nodup.filter _)
  rintro ⟨a, x⟩ hx ⟨a', y⟩ hy e
  have h1 : x = b := by simpa using (List.mem_filter.mp hx).2
  have h2 : y = b := by simpa using (List.mem_filter.mp hy).2
  rw [h1, h2, show a = a' from e]

theorem linked_linkAll? {t t' : Links α β} {a : α} {bs : List β} (h : t.linkAll? a bs = some t')
    (x : α) (y : β) : t'.Linked x y ↔ t.Linked x y ∨ (x = a ∧ y ∈ bs) := by
  show (x, y) ∈ t'.pairs ↔ (x, y) ∈ t.pairs ∨ (x = a ∧ y ∈ bs)
  rw [pairs_linkAll? h, List.mem_append, List.mem_map]
  constructor
  · rintro (h | ⟨b, hb, e⟩)
    · exact Or.inl h
    · cases e
      exact Or.inr ⟨rfl, hb⟩
  · rintro (h | ⟨rfl, hy⟩)
    · exact Or.inl h
    · exact Or.inr ⟨y, hy, rfl⟩

theorem rights_linkAll? {t t' : Links α β} {a : α} {bs : List β} (h : t.linkAll? a bs = some t')
    (x : α) : t'.rights x = if x = a then t.rights a ++ bs else t.rights x := by
  unfold rights
  rw [pairs_linkAll? h, List.filter_append, List.map_append]
  by_cases e : x = a
  · subst e
    rw [if_pos rfl]
    simp [List.filter_map, Function.comp_def]
  · rw [if_neg e]
    have hne : ¬ a = x := fun h => e h.symm
    simp [List.filter_map, Function.comp_def, hne]

theorem linked_tombstone (t : Links α β) (now : Nat) (p : α × β → Bool) (x : α) (y : β) :
    (t.tombstone now p).Linked x y ↔ t.Linked x y ∧ p (x, y) = false := by
  show (x, y) ∈ (t.tombstone now p).pairs ↔ (x, y) ∈ t.pairs ∧ p (x, y) = false
  rw [pairs_tombstone, List.mem_filter]
  simp

theorem rights_tombstone (t : Links α β) (now : Nat) (p : α × β → Bool) (x : α) :
    (t.tombstone now p).rights x = (t.rights x).filter (fun y => !p (x, y)) := by
  unfold rights
  rw [pairs_tombstone, List.filter_filter, List.filter_map, List.filter_filter]
  congr 1
  apply List.filter_congr
  rintro ⟨a, b⟩ -
  by_cases e : a = x
  · subst e
    simp [Bool.and_comm]
  · simp [e]

end Links

end Store
