import Mathlib.Data.List.Nodup
import Mathlib.Data.List.Pairwise
import Mathlib.Data.Option.Basic

/-!
# Tables with a primary key, one unique column and a row check

`Table key uniq check` is a list of rows in which no two rows share their `key`, no two share their
`uniq`, and every row passes `check`: the constraints are fields, so a table that breaks one cannot
be written down.

* `get? t k`, `findBy? t m`   the row with a given key, with a given unique value;
* `insert? t r`       refused with the constraint it would break;
* `Patch`             a change of a row that touches neither index;
* `update? t p f`     the patch `f` on every row that satisfies `p` (`UPDATE … WHERE p`);
* `modify? t k f`     the same for the one row with key `k`.

Each operation comes with what `get?` sees after it.
-/

set_option linter.unusedSectionVars false

namespace Store

variable {κ μ ρ : Type} [DecidableEq κ] [DecidableEq μ]

structure Table (key : ρ → κ) (uniq : ρ → μ) (check : ρ → Bool) where
  rows : List ρ
  key_nodup : (rows.map key).Nodup
  uniq_nodup : (rows.map uniq).Nodup
  checked : ∀ r ∈ rows, check r = true

/-- the constraint that a statement would break -/
inductive Violation where
  | primaryKey
  | uniqueColumn
  | check
  deriving DecidableEq, Repr

/-- a change of a row that touches neither index -/
structure Patch (key : ρ → κ) (uniq : ρ → μ) where
  apply : ρ → ρ
  key_eq : ∀ r, key (apply r) = key r
  uniq_eq : ∀ r, uniq (apply r) = uniq r

/-- the patch on the rows that satisfy `p` -/
def Patch.on {key : ρ → κ} {uniq : ρ → μ} (f : Patch key uniq) (p : ρ → Bool) :
    Patch key uniq where
  apply := fun r => if p r then f.apply r else r
  key_eq := fun r => by by_cases h : p r <;> simp [h, f.key_eq]
  uniq_eq := fun r => by by_cases h : p r <;> simp [h, f.uniq_eq]

namespace Table
variable {key : ρ → κ} {uniq : ρ → μ} {check : ρ → Bool}

def get? (t : Table key uniq check) (k : κ) : Option ρ := t.rows.find? (fun r => key r = k)

def findBy? (t : Table key uniq check) (m : μ) : Option ρ := t.rows.find? (fun r => uniq r = m)

def empty : Table key uniq check := ⟨[], List.nodup_nil, List.nodup_nil, by simp⟩

def insert? (t : Table key uniq check) (r : ρ) : Except Violation (Table key uniq check) :=
  if hk : key r ∈ t.rows.map key then .error .primaryKey
  else if hu : uniq r ∈ t.rows.map uniq then .error .uniqueColumn
  else if hc : check r = true then .ok
    { rows := t.rows ++ [r]
      key_nodup := by
        rw [List.map_append, List.nodup_append]
        refine ⟨t.key_nodup, List.nodup_singleton _, ?_⟩
        intro a ha b hb e
        rw [List.map_singleton, List.mem_singleton] at hb
        exact hk (hb ▸ e ▸ ha)
      uniq_nodup := by
        rw [List.map_append, List.nodup_append]
        refine ⟨t.uniq_nodup, List.nodup_singleton _, ?_⟩
        intro a ha b hb e
        rw [List.map_singleton, List.mem_singleton] at hb
        exact hu (hb ▸ e ▸ ha)
      checked := by
        intro x hx
        rcases List.mem_append.mp hx with h | h
        · exact t.checked x h
        · rw [List.mem_singleton.mp h]
          exact hc }
  else .error .check

def update? (t : Table key uniq check) (p : ρ → Bool) (f : Patch key uniq) :
    Except Violation (Table key uniq check) :=
  if hc : ∀ r ∈ t.rows.map (f.on p).apply, check r = true then .ok
    { rows := t.rows.map (f.on p).apply
      key_nodup := by
        rw [List.map_map, show key ∘ (f.on p).apply = key from funext (f.on p).key_eq]
        exact t.key_nodup
      uniq_nodup := by
        rw [List.map_map, show uniq ∘ (f.on p).apply = uniq from funext (f.on p).uniq_eq]
        exact t.uniq_nodup
      checked := hc }
  else .error .check

def modify? (t : Table key uniq check) (k : κ) (f : Patch key uniq) :
    Except Violation (Table key uniq check) :=
  t.update? (fun r => key r = k) f

/-! ## what `get?` sees -/

/-- an index finds a row exactly when the row is stored under that index value -/
theorem find_index {ν : Type} [DecidableEq ν] (f : ρ → ν) (l : List ρ) (hn : (l.map f).Nodup)
    (v : ν) (r : ρ) : l.find? (fun x => f x = v) = some r ↔ r ∈ l ∧ f r = v := by
  have hmem : ∀ x, l.find? (fun x => f x = v) = some x → x ∈ l ∧ f x = v := fun x h =>
    ⟨List.mem_of_find?_eq_some h, by simpa using List.find?_some h⟩
  refine ⟨hmem r, fun ⟨hr, hv⟩ => ?_⟩
  cases hf : l.find? (fun x => f x = v) with
  | none => exact absurd hv (by simpa using List.find?_eq_none.mp hf r hr)
  | some x =>
    obtain ⟨hx, hxv⟩ := hmem x hf
    rw [List.inj_on_of_nodup_map hn hx hr (hxv.trans hv.symm)]

theorem get?_eq_some {t : Table key uniq check} {k : κ} {r : ρ} :
    t.get? k = some r ↔ r ∈ t.rows ∧ key r = k :=
  find_index key t.rows t.key_nodup k r

theorem key_of_get? {t : Table key uniq check} {k : κ} {r : ρ} (h : t.get? k = some r) :
    key r = k :=
  (get?_eq_some.mp h).2

theorem check_of_get? {t : Table key uniq check} {k : κ} {r : ρ} (h : t.get? k = some r) :
    check r = true :=
  t.checked r (get?_eq_some.mp h).1

theorem mem_rows_iff {t : Table key uniq check} {r : ρ} : r ∈ t.rows ↔ t.get? (key r) = some r := by
  rw [get?_eq_some]
  simp

theorem findBy?_eq_some {t : Table key uniq check} {m : μ} {r : ρ} :
    t.findBy? m = some r ↔ r ∈ t.rows ∧ uniq r = m :=
  find_index uniq t.rows t.uniq_nodup m r

/-- the unique column and the primary key name the same row -/
theorem findBy?_iff_get? {t : Table key uniq check} {m : μ} {r : ρ} :
    t.findBy? m = some r ↔ t.get? (key r) = some r ∧ uniq r = m := by
  rw [findBy?_eq_some, mem_rows_iff]

/-- two stored rows with one unique value are one row -/
theorem uniq_inj {t : Table key uniq check} {k k' : κ} {r r' : ρ} (h : t.get? k = some r)
    (h' : t.get? k' = some r') (e : uniq r = uniq r') : r = r' := by
  have a := (get?_eq_some.mp h).1
  have b := (get?_eq_some.mp h').1
  exact List.inj_on_of_nodup_map t.uniq_nodup a b e

theorem rows_insert? {t t' : Table key uniq check} {r : ρ} (h : t.insert? r = .ok t') :
    t'.rows = t.rows ++ [r] ∧ t.get? (key r) = none ∧ t.findBy? (uniq r) = none := by
  unfold insert? at h
  split at h
  · cases h
  · rename_i hk
    split at h
    · cases h
    · rename_i hu
      split at h
      · cases h
        refine ⟨rfl, ?_, ?_⟩
        · rw [get?, List.find?_eq_none]
          intro x hx e
          exact hk (List.mem_map.mpr ⟨x, hx, by simpa using e⟩)
        · rw [findBy?, List.find?_eq_none]
          intro x hx e
          exact hu (List.mem_map.mpr ⟨x, hx, by simpa using e⟩)
      · cases h

theorem get?_insert? {t t' : Table key uniq check} {r : ρ} (h : t.insert? r = .ok t') (k : κ) :
    t'.get? k = if k = key r then some r else t.get? k := by
  obtain ⟨hr, hn, -⟩ := rows_insert? h
  rw [get?, hr, List.find?_append]
  by_cases e : k = key r
  · subst e
    have hn' : t.rows.find? (fun x => key x = key r) = none := hn
    rw [hn', if_pos rfl]
    simp
  · have e' : ¬ key r = k := fun h => e h.symm
    rw [if_neg e]
    simp [e', get?]

/-- a row with a new key and a new unique value that passes its check is taken -/
theorem insert?_isOk {t : Table key uniq check} {r : ρ} (hk : t.get? (key r) = none)
    (hu : t.findBy? (uniq r) = none) (hc : check r = true) : ∃ t', t.insert? r = .ok t' := by
  have hkey : key r ∉ t.rows.map key := by
    intro h
    obtain ⟨r', hr', he⟩ := List.mem_map.mp h
    exact List.find?_eq_none.mp hk r' hr' (decide_eq_true he)
  have huniq : uniq r ∉ t.rows.map uniq := by
    intro h
    obtain ⟨r', hr', he⟩ := List.mem_map.mp h
    exact List.find?_eq_none.mp hu r' hr' (decide_eq_true he)
  unfold insert?
  rw [dif_neg hkey, dif_neg huniq, dif_pos hc]
  exact ⟨_, rfl⟩

theorem rows_update? {t t' : Table key uniq check} {p : ρ → Bool} {f : Patch key uniq}
    (h : t.update? p f = .ok t') : t'.rows = t.rows.map (f.on p).apply := by
  unfold update? at h
  split at h
  · cases h
    rfl
  · cases h

theorem get?_update? {t t' : Table key uniq check} {p : ρ → Bool} {f : Patch key uniq}
    (h : t.update? p f = .ok t') (k : κ) : t'.get? k = (t.get? k).map (f.on p).apply := by
  have hk := (f.on p).key_eq
  show t'.rows.find? _ = (t.rows.find? _).map _
  rw [rows_update? h, List.find?_map]
  have e : ((fun r => decide (key r = k)) ∘ (f.on p).apply) = fun r => decide (key r = k) := by
    funext r
    simp [hk]
  rw [e]

/-- an update whose rows all keep their check goes through -/
theorem update?_isOk {t : Table key uniq check} {p : ρ → Bool} {f : Patch key uniq}
    (h : ∀ r ∈ t.rows, p r = true → check (f.apply r) = true) : ∃ t', t.update? p f = .ok t' := by
  have hc : ∀ r ∈ t.rows.map (f.on p).apply, check r = true := by
    intro r hr
    obtain ⟨x, hx, rfl⟩ := List.mem_map.mp hr
    show check (if p x then f.apply x else x) = true
    by_cases hp : p x
    · rw [if_pos hp]
      exact h x hx hp
    · rw [if_neg hp]
      exact t.checked x hx
  exact ⟨_, dif_pos hc⟩

theorem get?_modify? {t t' : Table key uniq check} {k : κ} {f : Patch key uniq}
    (h : t.modify? k f = .ok t') (k' : κ) :
    t'.get? k' = if k' = k then (t.get? k').map f.apply else t.get? k' := by
  rw [get?_update? h]
  cases hg : t.get? k' with
  | none => simp
  | some r =>
    have hr : key r = k' := key_of_get? hg
    by_cases e : k' = k <;> simp [Patch.on, hr, e]

end Table

end Store
