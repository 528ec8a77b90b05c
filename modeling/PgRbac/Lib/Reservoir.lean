import Mathlib.Data.List.Induction
import Mathlib.Data.List.Nodup
import Mathlib.Tactic.Common
import Mathlib.Tactic.Ring

/-!
# Reservoir sampling

A sample of `k` items of a stream whose length is not known beforehand.  The first `k` items are
kept.  For every later one a number below the count of the items so far is drawn, and the item
takes the place of that number if there is such a place.

* `keep`, `sampled`    one item, and a stream of items with their numbers;
* `draws`              every sequence of numbers that can be drawn, once;
* `sampled_map`        the sample does not look at the items;
* `sampled_uniform`    over all draws, every item is kept equally often.
-/

set_option linter.unusedVariables false

namespace Reservoir

variable {α β : Type}

/-! ## the sample -/

/-- the sample after the item `x`, for which `draw` was drawn if the sample is full -/
def keep (k : Nat) (sample : List α) (x : α) (draw : Nat) : List α :=
  if sample.length < k then sample ++ [x]
  else if draw < k then sample.set draw x
  else sample

def sampled (k : Nat) (items : List (α × Nat)) : List α :=
  items.foldl (fun sample item => keep k sample item.1 item.2) []

theorem sampled_concat (k : Nat) (items : List (α × Nat)) (x : α) (draw : Nat) :
    sampled k (items ++ [(x, draw)]) = keep k (sampled k items) x draw := by
  unfold sampled
  rw [List.foldl_append, List.foldl_cons, List.foldl_nil]

theorem length_keep (k : Nat) (sample : List α) (x : α) (draw : Nat)
    (h : sample.length ≤ k) :
    (keep k sample x draw).length = min k (sample.length + 1) := by
  unfold keep
  by_cases h1 : sample.length < k
  · rw [if_pos h1, List.length_append, List.length_singleton]
    omega
  · rw [if_neg h1]
    by_cases h2 : draw < k
    · rw [if_pos h2, List.length_set]
      omega
    · rw [if_neg h2]
      omega

theorem length_sampled (k : Nat) (items : List (α × Nat)) :
    (sampled k items).length = min k items.length := by
  induction items using List.reverseRecOn with
  | nil => exact (Nat.min_zero k).symm
  | append_singleton items item ih =>
    rw [sampled_concat, length_keep k _ _ _ (by omega), ih, List.length_append,
      List.length_singleton]
    omega

theorem keep_map (f : α → β) (k : Nat) (sample : List α) (x : α) (draw : Nat) :
    keep k (sample.map f) (f x) draw = (keep k sample x draw).map f := by
  unfold keep
  rw [List.length_map]
  by_cases h1 : sample.length < k
  · rw [if_pos h1, if_pos h1, List.map_append, List.map_singleton]
  · rw [if_neg h1, if_neg h1]
    by_cases h2 : draw < k
    · rw [if_pos h2, if_pos h2, List.map_set]
    · rw [if_neg h2, if_neg h2]

theorem sampled_map (f : α → β) (k : Nat) (items : List (α × Nat)) :
    sampled k (items.map fun item => (f item.1, item.2)) = (sampled k items).map f := by
  induction items using List.reverseRecOn with
  | nil => rfl
  | append_singleton items item ih =>
    rw [List.map_append, List.map_singleton, sampled_concat, sampled_concat, ih, keep_map]

/-- what is in the sample came with the stream -/
theorem mem_sampled {k : Nat} {items : List (α × Nat)} {x : α} (h : x ∈ sampled k items) :
    x ∈ items.map Prod.fst := by
  induction items using List.reverseRecOn with
  | nil => exact h
  | append_singleton items item ih =>
    rw [sampled_concat] at h
    rw [List.map_append, List.map_singleton, List.mem_append, List.mem_singleton]
    unfold keep at h
    by_cases h1 : (sampled k items).length < k
    · rw [if_pos h1, List.mem_append, List.mem_singleton] at h
      exact h.imp_left ih
    · rw [if_neg h1] at h
      by_cases h2 : item.2 < k
      · rw [if_pos h2] at h
        exact (List.mem_or_eq_of_mem_set h).imp_left ih
      · rw [if_neg h2] at h
        exact .inl (ih h)

/-! ## the draws -/

/-- the numbers that can be drawn for `n` items: none, written as `0`, while the sample is not
full, and any number up to the position of the item afterwards -/
def draws (k : Nat) : Nat → List (List Nat)
  | 0 => [[]]
  | n + 1 => (draws k n).flatMap fun drawn =>
      (List.range (if n < k then 1 else n + 1)).map fun draw => drawn ++ [draw]

theorem draws_succ (k n : Nat) : draws k (n + 1) = (draws k n).flatMap fun drawn =>
    (List.range (if n < k then 1 else n + 1)).map fun draw => drawn ++ [draw] := rfl

theorem mem_draws_succ {k n : Nat} {d : List Nat} : d ∈ draws k (n + 1) ↔
    ∃ drawn ∈ draws k n, ∃ draw < (if n < k then 1 else n + 1), d = drawn ++ [draw] := by
  rw [draws_succ, List.mem_flatMap]
  apply exists_congr
  intro drawn
  rw [List.mem_map]
  apply and_congr_right
  intro _
  apply exists_congr
  intro draw
  rw [List.mem_range, eq_comm]

theorem length_of_mem_draws {k n : Nat} {d : List Nat} (h : d ∈ draws k n) : d.length = n := by
  induction n generalizing d with
  | zero =>
    rw [List.mem_singleton.mp h]
    rfl
  | succ n ih =>
    obtain ⟨drawn, hdrawn, draw, _, rfl⟩ := mem_draws_succ.mp h
    rw [List.length_append, List.length_singleton, ih hdrawn]

/-- `draws` lists exactly the sequences whose numbers are in range, … -/
theorem mem_draws {k n : Nat} {d : List Nat} : d ∈ draws k n ↔
    d.length = n ∧ ∀ i draw, d[i]? = some draw → draw < if i < k then 1 else i + 1 := by
  induction n generalizing d with
  | zero =>
    constructor
    · intro h
      rw [List.mem_singleton.mp h]
      exact ⟨rfl, fun i draw hi => absurd hi (by simp)⟩
    · intro h
      rw [List.eq_nil_of_length_eq_zero h.1]
      exact List.mem_singleton.mpr rfl
  | succ n ih =>
    rw [mem_draws_succ]
    constructor
    · rintro ⟨drawn, hdrawn, draw, hdraw, rfl⟩
      obtain ⟨hlength, hrange⟩ := ih.mp hdrawn
      refine ⟨by rw [List.length_append, List.length_singleton, hlength], ?_⟩
      intro i draw' hi
      by_cases h : i < drawn.length
      · rw [List.getElem?_append_left h] at hi
        exact hrange i draw' hi
      · rw [List.getElem?_append_right (Nat.le_of_not_lt h), List.getElem?_singleton] at hi
        by_cases h0 : i - drawn.length = 0
        · rw [if_pos h0] at hi
          have e : i = n := by omega
          rw [e, ← Option.some.inj hi]
          exact hdraw
        · rw [if_neg h0] at hi
          cases hi
    · rintro ⟨hlength, hrange⟩
      have hne : d ≠ [] := by
        rintro rfl
        exact absurd hlength (Nat.zero_ne_add_one n)
      have hsplit : d.dropLast ++ [d.getLast hne] = d := List.dropLast_append_getLast hne
      have hdrop : d.dropLast.length = n := by
        rw [List.length_dropLast]
        omega
      refine ⟨d.dropLast, ih.mpr ⟨hdrop, ?_⟩, d.getLast hne, ?_, hsplit.symm⟩
      · intro i draw hi
        apply hrange i draw
        rw [← hsplit, List.getElem?_append_left (List.getElem?_eq_some_iff.mp hi).1]
        exact hi
      · apply hrange n
        have h : (d.dropLast ++ [d.getLast hne])[n]? = some (d.getLast hne) := by
          rw [List.getElem?_append_right (by omega), hdrop, Nat.sub_self]
          exact List.getElem?_cons_zero
        rw [hsplit] at h
        exact h

theorem nodup_draws (k n : Nat) : (draws k n).Nodup := by
  induction n with
  | zero => exact List.nodup_singleton []
  | succ n ih =>
    rw [draws_succ, List.nodup_flatMap]
    refine ⟨?_, ?_⟩
    · intro drawn _
      apply List.Nodup.map _ List.nodup_range
      intro draw draw' h
      exact List.singleton_inj.mp (List.append_cancel_left h)
    · apply ih.imp
      intro drawn drawn' hne
      show List.Disjoint _ _
      rw [List.disjoint_left]
      intro d h h'
      obtain ⟨draw, _, rfl⟩ := List.mem_map.mp h
      obtain ⟨draw', _, e⟩ := List.mem_map.mp h'
      exact hne (List.append_inj_left' e rfl).symm

/-! ## how often an item is kept -/

/-- a list of choices for each member of a list, of which a member admits `c` or none -/
theorem countP_flatMap_of {γ : Type} {l : List β} {f : β → List γ} {p : γ → Bool} {q : β → Bool}
    {c : Nat} (h : ∀ b ∈ l, (f b).countP p = if q b = true then c else 0) :
    (l.flatMap f).countP p = c * l.countP q := by
  induction l with
  | nil => rfl
  | cons b l ih =>
    rw [List.flatMap_cons, List.countP_append, h b List.mem_cons_self,
      ih fun b' hb' => h b' (List.mem_cons_of_mem b hb'), List.countP_cons]
    by_cases hq : q b = true
    · rw [if_pos hq, if_pos hq]
      ring
    · rw [if_neg hq, if_neg hq]
      ring

theorem length_draws_succ (k n : Nat) :
    (draws k (n + 1)).length = (if n < k then 1 else n + 1) * (draws k n).length := by
  have h := @countP_flatMap_of (List Nat) (List Nat) (draws k n)
    (fun drawn => (List.range (if n < k then 1 else n + 1)).map fun draw => drawn ++ [draw])
    (fun _ => true) (fun _ => true) (if n < k then 1 else n + 1) (by
      intro drawn _
      rw [List.countP_true, List.length_map, List.length_range, if_pos rfl])
  rw [List.countP_true] at h
  rw [draws_succ]
  exact h

/-- the positions of the items that are kept with the numbers `drawn` -/
def positions (k : Nat) (drawn : List Nat) : List Nat :=
  sampled k ((List.range drawn.length).zip drawn)

theorem positions_concat (k : Nat) (drawn : List Nat) (draw : Nat) :
    positions k (drawn ++ [draw]) = keep k (positions k drawn) drawn.length draw := by
  unfold positions
  rw [List.length_append, List.length_singleton, List.range_succ,
    List.zip_append List.length_range]
  exact sampled_concat k _ _ _

theorem sampled_positions (k : Nat) {items : List α} {drawn : List Nat}
    (h : items.length = drawn.length) :
    (sampled k (items.zip drawn)).map some = (positions k drawn).map fun i => items[i]? := by
  unfold positions
  rw [← sampled_map, ← sampled_map]
  apply congrArg
  apply List.ext_getElem?
  intro i
  rw [List.getElem?_map, List.getElem?_map, List.zip, List.zip, List.getElem?_zipWith,
    List.getElem?_zipWith]
  by_cases hi : i < drawn.length
  · rw [List.getElem?_eq_getElem hi, List.getElem?_eq_getElem (h ▸ hi),
      List.getElem?_eq_getElem (List.length_range.symm ▸ hi), List.getElem_range]
    show some (some items[i], drawn[i]) = some (items[i]?, drawn[i])
    rw [List.getElem?_eq_getElem (h ▸ hi)]
  · rw [List.getElem?_eq_none (Nat.le_of_not_lt hi)]
    cases items[i]? <;> cases (List.range drawn.length)[i]? <;> rfl

theorem length_positions (k : Nat) (drawn : List Nat) :
    (positions k drawn).length = min k drawn.length := by
  unfold positions
  rw [length_sampled, List.length_zip, List.length_range, Nat.min_self]

theorem positions_lt {k : Nat} {drawn : List Nat} {i : Nat} (h : i ∈ positions k drawn) :
    i < drawn.length := by
  have h1 := mem_sampled h
  rw [List.map_fst_zip (by rw [List.length_range])] at h1
  exact List.mem_range.mp h1

theorem nodup_set {l : List α} (hl : l.Nodup) {x : α} (hx : x ∉ l) (i : Nat) : (l.set i x).Nodup := by
  rw [List.nodup_iff_injective_get]
  intro a b hab
  simp only [List.get_eq_getElem, List.getElem_set] at hab
  have ha : a.val < l.length := by simpa using a.isLt
  have hb : b.val < l.length := by simpa using b.isLt
  apply Fin.ext
  by_cases h1 : i = a.val
  · by_cases h2 : i = b.val
    · exact h1.symm.trans h2
    · rw [if_pos h1, if_neg h2] at hab
      exact absurd (hab ▸ List.getElem_mem hb) hx
  · rw [if_neg h1] at hab
    by_cases h2 : i = b.val
    · rw [if_pos h2] at hab
      exact absurd (hab ▸ List.getElem_mem ha) hx
    · rw [if_neg h2] at hab
      exact (List.Nodup.getElem_inj_iff hl).mp hab

theorem nodup_positions (k : Nat) (drawn : List Nat) : (positions k drawn).Nodup := by
  induction drawn using List.reverseRecOn with
  | nil => exact List.nodup_nil
  | append_singleton drawn draw ih =>
    have hfresh : drawn.length ∉ positions k drawn := fun h => absurd (positions_lt h) (Nat.lt_irrefl _)
    rw [positions_concat]
    unfold keep
    by_cases h1 : (positions k drawn).length < k
    · rw [if_pos h1]
      rw [← List.concat_eq_append]
      exact List.Nodup.concat hfresh ih
    · rw [if_neg h1]
      by_cases h2 : draw < k
      · rw [if_pos h2]
        exact nodup_set ih hfresh draw
      · rw [if_neg h2]
        exact ih

/-- a place below `n + 1` that is not `i` -/
theorem countP_ne {n i : Nat} (h : i < n + 1) :
    (List.range (n + 1)).countP (fun draw => decide (draw ≠ i)) = n := by
  have h1 := @List.length_eq_countP_add_countP Nat (fun draw => decide (draw ≠ i)) (List.range (n + 1))
  have h2 : (List.range (n + 1)).countP (fun draw => decide ¬decide (draw ≠ i) = true) = 1 := by
    have h3 : (List.range (n + 1)).count i = 1 :=
      List.count_eq_one_of_mem List.nodup_range (List.mem_range.mpr h)
    rw [List.count_eq_countP] at h3
    refine Eq.trans (List.countP_congr ?_) h3
    intro draw _
    simp
  rw [List.length_range, h2] at h1
  omega

theorem countP_lt {n k : Nat} (h : k ≤ n) :
    (List.range n).countP (fun draw => decide (draw < k)) = k := by
  induction n with
  | zero =>
    rw [Nat.le_zero.mp h]
    rfl
  | succ n ih =>
    rw [List.range_succ, List.countP_append, List.countP_singleton]
    by_cases hk : k ≤ n
    · rw [ih hk, if_neg (by rw [decide_eq_true_iff]; omega), Nat.add_zero]
    · have e : k = n + 1 := by omega
      have h1 : (List.range n).countP (fun draw => decide (draw < k)) = n := by
        refine Eq.trans (List.countP_eq_length.mpr ?_) List.length_range
        intro draw hdraw
        have h3 := List.mem_range.mp hdraw
        exact decide_eq_true (by omega)
      rw [h1, if_pos (decide_eq_true (by omega)), e]

/-- an item that is kept stays unless its own place is drawn -/
theorem mem_keep_full {k : Nat} {sample : List Nat} {i x : Nat} (draw : Nat)
    (hlength : sample.length = k) (hnodup : sample.Nodup) {place : Nat} (hplace : place < sample.length)
    (hi : sample[place] = i) (hx : x ∉ sample) :
    i ∈ keep k sample x draw ↔ draw ≠ place := by
  have hix : i ≠ x := by
    rintro rfl
    exact hx (hi ▸ List.getElem_mem hplace)
  unfold keep
  rw [if_neg (by omega)]
  by_cases h : draw < k
  · rw [if_pos h]
    constructor
    · intro hmem
      obtain ⟨a, ha, e⟩ := List.mem_iff_getElem.mp hmem
      rw [List.length_set] at ha
      rw [List.getElem_set] at e
      by_cases hd : draw = a
      · rw [if_pos hd] at e
        exact absurd e.symm hix
      · rw [if_neg hd, ← hi] at e
        have e' : a = place := (List.Nodup.getElem_inj_iff hnodup).mp e
        omega
    · intro hd
      rw [List.mem_iff_getElem]
      refine ⟨place, by rw [List.length_set]; exact hplace, ?_⟩
      rw [List.getElem_set, if_neg hd]
      exact hi
  · rw [if_neg h]
    constructor
    · intro _
      omega
    · intro _
      exact hi ▸ List.getElem_mem hplace

/-- the choices of the next draw that keep the item `i` -/
theorem countP_next {k n : Nat} (hn : k ≤ n) {drawn : List Nat} (hlength : drawn.length = n)
    {i : Nat} (hi : i < n) :
    ((List.range (n + 1)).map fun draw => drawn ++ [draw]).countP
      (fun d => decide (i ∈ positions k d)) = if decide (i ∈ positions k drawn) = true then n else 0 := by
  have hfull : (positions k drawn).length = k := by
    rw [length_positions, hlength]
    omega
  have hfresh : drawn.length ∉ positions k drawn := fun h =>
    absurd (positions_lt h) (Nat.lt_irrefl _)
  rw [List.countP_map]
  by_cases hmem : i ∈ positions k drawn
  · obtain ⟨place, hplace, e⟩ := List.mem_iff_getElem.mp hmem
    rw [if_pos (decide_eq_true hmem)]
    refine Eq.trans (List.countP_congr ?_) (@countP_ne n place (by omega))
    intro draw _
    rw [Function.comp, decide_eq_true_iff, decide_eq_true_iff, positions_concat]
    exact mem_keep_full draw hfull (nodup_positions k drawn) hplace e hfresh
  · rw [if_neg (by rw [decide_eq_true_iff]; exact hmem), List.countP_eq_zero]
    intro draw _
    rw [Function.comp, decide_eq_true_iff, positions_concat]
    intro h
    unfold keep at h
    rw [if_neg (by omega)] at h
    by_cases hd : draw < k
    · rw [if_pos hd] at h
      rcases List.mem_or_eq_of_mem_set h with h | h
      · exact hmem h
      · omega
    · rw [if_neg hd] at h
      exact hmem h

/-- the choices of a draw that keep the newest item -/
theorem countP_newest {k n : Nat} (hn : k ≤ n) {drawn : List Nat} (hlength : drawn.length = n) :
    ((List.range (n + 1)).map fun draw => drawn ++ [draw]).countP
      (fun d => decide (n ∈ positions k d)) = k := by
  have hfull : (positions k drawn).length = k := by
    rw [length_positions, hlength]
    omega
  have hfresh : n ∉ positions k drawn := fun h =>
    absurd (positions_lt h) (by omega)
  rw [List.countP_map]
  refine Eq.trans (List.countP_congr ?_) (@countP_lt (n + 1) k (by omega))
  intro draw _
  rw [Function.comp, decide_eq_true_iff, decide_eq_true_iff, positions_concat, hlength]
  unfold keep
  rw [if_neg (by omega)]
  by_cases hd : draw < k
  · rw [if_pos hd]
    constructor
    · exact fun _ => hd
    · intro _
      exact List.mem_set (by omega) n
  · rw [if_neg hd]
    exact ⟨fun h => absurd h hfresh, fun h => absurd h hd⟩

/-- while the sample is not full every item is kept -/
theorem mem_positions_of_le {k : Nat} {drawn : List Nat} (hk : drawn.length ≤ k) {i : Nat}
    (hi : i < drawn.length) : i ∈ positions k drawn := by
  induction drawn using List.reverseRecOn with
  | nil => exact absurd hi (Nat.not_lt_zero i)
  | append_singleton drawn draw ih =>
    rw [List.length_append, List.length_singleton] at hk hi
    have hfree : (positions k drawn).length < k := by
      rw [length_positions]
      omega
    rw [positions_concat]
    unfold keep
    rw [if_pos hfree, List.mem_append, List.mem_singleton]
    by_cases h : i < drawn.length
    · exact .inl (ih (by omega) h)
    · exact .inr (by omega)

/-- **Over all sequences of draws every one of `n` items is in the sample equally often**: in `k`
out of `n` of them, or in all of them if there are no more than `k` items. -/
theorem sampled_uniform (k : Nat) {n i : Nat} (hi : i < n) :
    ((draws k n).countP fun d => decide (i ∈ positions k d)) * n =
      min k n * (draws k n).length := by
  by_cases hk : n ≤ k
  · have h : ((draws k n).countP fun d => decide (i ∈ positions k d)) = (draws k n).length := by
      rw [List.countP_eq_length]
      intro d hd
      have hlength := length_of_mem_draws hd
      exact decide_eq_true (mem_positions_of_le (by omega) (by omega))
    rw [h, Nat.min_eq_right hk]
    ring
  · induction n with
    | zero => exact absurd hi (Nat.not_lt_zero i)
    | succ n ih =>
      have hkn : k ≤ n := by omega
      rw [length_draws_succ, draws_succ, if_neg (by omega), Nat.min_eq_left (by omega)]
      by_cases hnew : i = n
      · subst hnew
        have h := @countP_flatMap_of (List Nat) (List Nat) (draws k i)
          (fun drawn => (List.range (i + 1)).map fun draw => drawn ++ [draw])
          (fun d => decide (i ∈ positions k d)) (fun _ => true) k (by
            intro drawn hdrawn
            rw [if_pos rfl]
            exact countP_newest hkn (length_of_mem_draws hdrawn))
        rw [List.countP_true] at h
        rw [h]
        ring
      · have hin : i < n := by omega
        rw [countP_flatMap_of fun drawn hdrawn =>
          countP_next hkn (length_of_mem_draws hdrawn) hin]
        have hold : ((draws k n).countP fun d => decide (i ∈ positions k d)) * n =
            k * (draws k n).length := by
          by_cases h : n ≤ k
          · have e : n = k := by omega
            subst e
            have hall : ((draws n n).countP fun d => decide (i ∈ positions n d)) =
                (draws n n).length := by
              rw [List.countP_eq_length]
              intro d hd
              have hlength := length_of_mem_draws hd
              exact decide_eq_true (mem_positions_of_le (by omega) (by omega))
            rw [hall]
            ring
          · rw [ih hin h, Nat.min_eq_left (by omega)]
        calc n * ((draws k n).countP fun d => decide (i ∈ positions k d)) * (n + 1)
            = ((draws k n).countP fun d => decide (i ∈ positions k d)) * n * (n + 1) := by ring
          _ = k * (draws k n).length * (n + 1) := by rw [hold]
          _ = k * ((n + 1) * (draws k n).length) := by ring

end Reservoir
