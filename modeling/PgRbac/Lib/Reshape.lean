import Mathlib.Data.List.Perm.Subperm
import PgRbac.Lib.Links
import PgRbac.Lib.Table

/-!
# Changing the shape of tables, and links that may be there already

* `Table.reshape`      every row becomes one of another type: columns are added or dropped;
* `Table.recheck?`     another row check, refused when a row breaks it;
* `Table.remove`       some rows are deleted;
* `Links.linkMissing`  a new row unless the pair is live (`ON CONFLICT DO NOTHING`);
* `Links.remove`       some rows are deleted for good.

Each comes with what `get?` and `Linked` see after it.
-/

set_option linter.unusedSectionVars false

namespace Store

namespace Table
variable {κ μ ρ ρ' : Type} [DecidableEq κ] [DecidableEq μ]
variable {key : ρ → κ} {uniq : ρ → μ} {check check' : ρ → Bool}
variable {key' : ρ' → κ} {uniq' : ρ' → μ} {checked' : ρ' → Bool}

/-- the rows in another shape, with the same keys -/
def reshape (t : Table key uniq check) (f : ρ → ρ') (hkey : ∀ r, key' (f r) = key r)
    (huniq : ∀ r, uniq' (f r) = uniq r) (hcheck : ∀ r, check r = true → checked' (f r) = true) :
    Table key' uniq' checked' where
  rows := t.rows.map f
  key_nodup := by
    rw [List.map_map, show key' ∘ f = key from funext hkey]
    exact t.key_nodup
  uniq_nodup := by
    rw [List.map_map, show uniq' ∘ f = uniq from funext huniq]
    exact t.uniq_nodup
  checked := by
    intro r hr
    obtain ⟨r', hr', rfl⟩ := List.mem_map.mp hr
    exact hcheck r' (t.checked r' hr')

/-- the same rows under another check -/
def recheck? (t : Table key uniq check) : Except Violation (Table key uniq check') :=
  if h : ∀ r ∈ t.rows, check' r = true then .ok ⟨t.rows, t.key_nodup, t.uniq_nodup, h⟩
  else .error .check

/-- the rows that satisfy `p` are deleted -/
def remove (t : Table key uniq check) (p : ρ → Bool) : Table key uniq check where
  rows := t.rows.filter fun r => !p r
  key_nodup := (List.filter_sublist.map key).nodup t.key_nodup
  uniq_nodup := (List.filter_sublist.map uniq).nodup t.uniq_nodup
  checked := fun r hr => t.checked r (List.mem_of_mem_filter hr)

/-- what `get?` sees of a table whose rows are those of another one in another shape -/
theorem get?_of_rows {t : Table key uniq check} {t' : Table key' uniq' checked'} {f : ρ → ρ'}
    (h : t'.rows = t.rows.map f) (hkey : ∀ r, key' (f r) = key r) (k : κ) :
    t'.get? k = (t.get? k).map f := by
  show t'.rows.find? _ = (t.rows.find? _).map f
  rw [h, List.find?_map]
  have e : ((fun r => decide (key' r = k)) ∘ f) = fun r => decide (key r = k) := by
    funext r
    simp [hkey]
  rw [e]

theorem rows_recheck? {t : Table key uniq check} {t' : Table key uniq check'}
    (h : t.recheck? = .ok t') : t'.rows = t.rows := by
  unfold recheck? at h
  split at h
  · cases h
    rfl
  · cases h

theorem get?_recheck? {t : Table key uniq check} {t' : Table key uniq check'}
    (h : t.recheck? = .ok t') (k : κ) : t'.get? k = t.get? k := by
  show t'.rows.find? _ = t.rows.find? _
  rw [rows_recheck? h]

theorem get?_remove {t : Table key uniq check} {p : ρ → Bool} (k : κ) :
    (t.remove p).get? k = (t.get? k).filter fun r => !p r := by
  ext r
  rw [get?_eq_some, Option.filter_eq_some_iff, get?_eq_some]
  show r ∈ t.rows.filter (fun r => !p r) ∧ key r = k ↔ _
  rw [List.mem_filter]
  exact and_right_comm

end Table

namespace Links
variable {α β : Type} [DecidableEq α] [DecidableEq β]

/-- a new row, unless the pair is live -/
def linkMissing (t : Links α β) (a : α) (b : β) : Links α β := (t.link? a b).getD t

/-- the rows whose pair satisfies `p` are deleted, the tombstones among them too -/
def remove (t : Links α β) (p : α × β → Bool) : Links α β where
  rows := t.rows.filter fun l => !p l.pair
  live_nodup := by
    refine List.Nodup.sublist ?_ t.live_nodup
    rw [List.filter_comm]
    exact List.filter_sublist.map _

theorem pairs_linkMissing (t : Links α β) (a : α) (b : β) :
    (t.linkMissing a b).pairs = if (a, b) ∈ t.pairs then t.pairs else t.pairs ++ [(a, b)] := by
  unfold linkMissing
  by_cases h : (a, b) ∈ t.pairs
  · have hnone : t.link? a b = none := dif_pos h
    rw [hnone, if_pos h]
    rfl
  · rw [if_neg h]
    cases hlink : t.link? a b with
    | none =>
      unfold link? at hlink
      rw [dif_neg h] at hlink
      cases hlink
    | some t' => exact pairs_link? hlink

theorem linked_linkMissing (t : Links α β) (a : α) (b : β) (x : α) (y : β) :
    (t.linkMissing a b).Linked x y ↔ t.Linked x y ∨ (x = a ∧ y = b) := by
  unfold Linked
  rw [pairs_linkMissing]
  split
  · rename_i h
    refine ⟨Or.inl, ?_⟩
    rintro (hxy | ⟨rfl, rfl⟩)
    · exact hxy
    · exact h
  · rw [List.mem_append, List.mem_singleton, Prod.mk.injEq]

theorem linked_foldl_left (t : Links α β) (as : List α) (b : β) (x : α) (y : β) :
    (as.foldl (fun t a => t.linkMissing a b) t).Linked x y ↔ t.Linked x y ∨ (x ∈ as ∧ y = b) := by
  induction as generalizing t with
  | nil => simp
  | cons a as ih =>
    rw [List.foldl_cons, ih, linked_linkMissing, List.mem_cons, or_assoc]
    refine or_congr_right ?_
    rw [← or_and_right]

theorem linked_foldl_right (t : Links α β) (a : α) (bs : List β) (x : α) (y : β) :
    (bs.foldl (fun t b => t.linkMissing a b) t).Linked x y ↔ t.Linked x y ∨ (x = a ∧ y ∈ bs) := by
  induction bs generalizing t with
  | nil => simp
  | cons b bs ih =>
    rw [List.foldl_cons, ih, linked_linkMissing, List.mem_cons, or_assoc]
    refine or_congr_right ?_
    rw [← and_or_left]

theorem linked_remove (t : Links α β) (p : α × β → Bool) (x : α) (y : β) :
    (t.remove p).Linked x y ↔ t.Linked x y ∧ p (x, y) = false := by
  unfold Linked pairs
  simp only [List.mem_map, List.mem_filter, remove, Bool.not_eq_true']
  constructor
  · intro h
    obtain ⟨l, ⟨⟨hl, hp⟩, hlive⟩, e⟩ := h
    exact ⟨⟨l, ⟨hl, hlive⟩, e⟩, e ▸ hp⟩
  · intro h
    obtain ⟨⟨l, ⟨hl, hlive⟩, e⟩, hp⟩ := h
    exact ⟨l, ⟨⟨hl, e ▸ hp⟩, hlive⟩, e⟩

/-- who has no partners but those of another table has no more of them -/
theorem length_rights_le {t t' : Links α β} {a : α} (h : ∀ b, t'.Linked a b → t.Linked a b) :
    (t'.rights a).length ≤ (t.rights a).length := by
  refine List.Subperm.length_le ((t'.rights_nodup a).subperm ?_)
  intro b hb
  exact mem_rights.mpr (h b (mem_rights.mp hb))

theorem length_rights_succ {t t' : Links α β} {a : α} {b : β} (hnew : ¬ t.Linked a b)
    (h : ∀ c, t'.Linked a c ↔ t.Linked a c ∨ c = b) :
    (t'.rights a).length = (t.rights a).length + 1 := by
  have hperm : (t'.rights a).Perm (b :: t.rights a) := by
    rw [List.perm_ext_iff_of_nodup (t'.rights_nodup a)
      (List.nodup_cons.mpr ⟨fun hb => hnew (mem_rights.mp hb), t.rights_nodup a⟩)]
    intro c
    rw [mem_rights, h, List.mem_cons, mem_rights, or_comm]
  rw [hperm.length_eq, List.length_cons]

end Links

end Store
