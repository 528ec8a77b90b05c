import PgRbac.Lib.Table
import Mathlib.Data.List.Induction

/-!
# Outer joins and accumulated groups

What a program makes of the rows of a query.  A left join keeps every left row, with `none` where
nothing matches it.  A loop over rows that keeps a dictionary of accumulators opens a group at the
first row of a key and adds every row to the group of its key.

* `leftJoin`             the join, row by row;
* `Accumulator.groups`   the dictionary after the loop, one group for each key;
* `Accumulator.collected`    what one key has collected;
* `find?_groups`         the dictionary at a key is what that key has collected.
-/

set_option linter.unusedSectionVars false

namespace Query

section
variable {α β : Type}

def leftJoin (matching : α → List β) (l : List α) : List (α × Option β) :=
  l.flatMap fun a =>
    match matching a with
    | [] => [(a, none)]
    | b :: bs => (b :: bs).map fun b => (a, some b)

theorem mem_leftJoin {matching : α → List β} {l : List α} {a : α} {o : Option β} :
    (a, o) ∈ leftJoin matching l ↔ a ∈ l ∧
      ((∃ b ∈ matching a, o = some b) ∨ (matching a = [] ∧ o = none)) := by
  unfold leftJoin
  rw [List.mem_flatMap]
  constructor
  · intro h
    obtain ⟨x, hx, h⟩ := h
    cases hm : matching x with
    | nil =>
      rw [hm] at h
      obtain ⟨rfl, rfl⟩ := Prod.mk.inj (List.mem_singleton.mp h)
      exact ⟨hx, Or.inr ⟨hm, rfl⟩⟩
    | cons b bs =>
      rw [hm] at h
      obtain ⟨y, hy, he⟩ := List.mem_map.mp h
      obtain ⟨rfl, rfl⟩ := Prod.mk.inj he
      exact ⟨hx, Or.inl ⟨y, hm ▸ hy, rfl⟩⟩
  · intro h
    obtain ⟨ha, h⟩ := h
    refine ⟨a, ha, ?_⟩
    cases hm : matching a with
    | nil =>
      rw [hm] at h
      rcases h with ⟨b, hb, -⟩ | ⟨-, rfl⟩
      · cases hb
      · exact List.mem_singleton_self _
    | cons b bs =>
      rw [hm] at h
      rcases h with ⟨y, hy, rfl⟩ | ⟨hnil, -⟩
      · exact List.mem_map.mpr ⟨y, hy, rfl⟩
      · cases hnil

theorem exists_leftJoin (matching : α → List β) {l : List α} {a : α} (h : a ∈ l) :
    ∃ o, (a, o) ∈ leftJoin matching l := by
  cases hm : matching a with
  | nil => exact ⟨none, mem_leftJoin.mpr ⟨h, Or.inr ⟨hm, rfl⟩⟩⟩
  | cons b bs => exact ⟨some b, mem_leftJoin.mpr ⟨h, Or.inl ⟨b, hm ▸ List.mem_cons_self, rfl⟩⟩⟩

end

/-- a dictionary of accumulators: the group that a row opens, and what the row adds to its group -/
structure Accumulator (ρ κ γ : Type) where
  key : ρ → κ
  groupKey : γ → κ
  fresh : ρ → γ
  add : ρ → γ → γ
  fresh_key : ∀ r, groupKey (fresh r) = key r
  add_key : ∀ r g, groupKey (add r g) = groupKey g

namespace Accumulator
variable {ρ κ γ : Type} [DecidableEq κ] (c : Accumulator ρ κ γ)

/-- one row of the loop: `setdefault`, then the row is added -/
def put (r : ρ) : List γ → List γ
  | [] => [c.add r (c.fresh r)]
  | g :: gs => if c.groupKey g = c.key r then c.add r g :: gs else g :: put r gs

def groups (rows : List ρ) : List γ := rows.foldl (fun gs r => c.put r gs) []

/-- what the rows of one key add up to -/
def collected (k : κ) (rows : List ρ) : Option γ :=
  rows.foldl (fun g r => if c.key r = k then some (c.add r (g.getD (c.fresh r))) else g) none

theorem find?_put (k : κ) (r : ρ) (gs : List γ) :
    (c.put r gs).find? (fun g => c.groupKey g = k) =
      if c.key r = k
      then some (c.add r ((gs.find? (fun g => c.groupKey g = k)).getD (c.fresh r)))
      else gs.find? (fun g => c.groupKey g = k) := by
  induction gs with
  | nil =>
    have hkey : c.groupKey (c.add r (c.fresh r)) = c.key r := by rw [c.add_key, c.fresh_key]
    by_cases hk : c.key r = k <;> simp [put, hkey, hk]
  | cons g gs ih =>
    have hkey : c.groupKey (c.add r g) = c.groupKey g := c.add_key r g
    unfold put
    by_cases hg : c.groupKey g = c.key r
    · rw [if_pos hg]
      by_cases hk : c.key r = k
      · simp [hkey, hg, hk]
      · simp [hkey, hg, hk]
    · rw [if_neg hg]
      by_cases hgk : c.groupKey g = k
      · have hk : c.key r ≠ k := fun e => hg (hgk.trans e.symm)
        simp [hgk, hk]
      · rw [List.find?_cons_of_neg (by simpa using hgk), ih,
          List.find?_cons_of_neg (by simpa using hgk)]

theorem groups_concat (rows : List ρ) (r : ρ) :
    c.groups (rows ++ [r]) = c.put r (c.groups rows) := by
  unfold groups
  rw [List.foldl_append]
  rfl

theorem collected_concat (k : κ) (rows : List ρ) (r : ρ) :
    c.collected k (rows ++ [r]) =
      if c.key r = k then some (c.add r ((c.collected k rows).getD (c.fresh r)))
      else c.collected k rows := by
  unfold collected
  rw [List.foldl_append]
  rfl

/-- **the dictionary at a key is what that key has collected** -/
theorem find?_groups (k : κ) (rows : List ρ) :
    (c.groups rows).find? (fun g => c.groupKey g = k) = c.collected k rows := by
  induction rows using List.reverseRecOn with
  | nil => rfl
  | append_singleton rows r ih => rw [groups_concat, find?_put, ih, collected_concat]

theorem keys_put (r : ρ) (gs : List γ) : (c.put r gs).map c.groupKey =
    if c.key r ∈ gs.map c.groupKey then gs.map c.groupKey
    else gs.map c.groupKey ++ [c.key r] := by
  induction gs with
  | nil => simp [put, c.add_key, c.fresh_key]
  | cons g gs ih =>
    unfold put
    by_cases hg : c.groupKey g = c.key r
    · simp [hg, c.add_key]
    · have hne : ¬ c.key r = c.groupKey g := fun e => hg e.symm
      rw [if_neg hg, List.map_cons, ih, List.map_cons]
      by_cases hm : c.key r ∈ gs.map c.groupKey
      · rw [if_pos hm, if_pos (List.mem_cons_of_mem _ hm)]
      · rw [if_neg hm, if_neg (by simpa [hne] using hm), List.cons_append]

theorem keys_nodup (rows : List ρ) : ((c.groups rows).map c.groupKey).Nodup := by
  induction rows using List.reverseRecOn with
  | nil => exact List.nodup_nil
  | append_singleton rows r ih =>
    rw [groups_concat, keys_put]
    by_cases hm : c.key r ∈ (c.groups rows).map c.groupKey
    · rw [if_pos hm]
      exact ih
    · rw [if_neg hm]
      exact List.Nodup.append ih (List.nodup_singleton _) (List.disjoint_singleton.mpr hm)

theorem mem_groups {rows : List ρ} {g : γ} :
    g ∈ c.groups rows ↔ c.collected (c.groupKey g) rows = some g := by
  rw [← find?_groups, Store.Table.find_index c.groupKey _ (c.keys_nodup rows)]
  exact ⟨fun h => ⟨h, rfl⟩, And.left⟩

theorem collected_eq_none {k : κ} {rows : List ρ} :
    c.collected k rows = none ↔ ∀ r ∈ rows, c.key r ≠ k := by
  induction rows using List.reverseRecOn with
  | nil => simp [collected]
  | append_singleton rows r ih =>
    rw [collected_concat]
    by_cases hk : c.key r = k
    · simp [hk]
    · simp [hk, ih, or_imp, forall_and]

end Accumulator

end Query
