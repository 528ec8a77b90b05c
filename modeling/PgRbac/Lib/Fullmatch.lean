import PgRbac.Lib.Substitute
import Mathlib.Data.List.Forall2

/-!
# Matches of a whole text

What the patterns of names and identifiers take: a first character, and others in a bounded number.

* `fullmatch_allows`     a text that matches is made of the characters of the classes;
* `fits_star`            any number of characters of a class;
* `fits_between`         a bounded number of them;
* `fullmatch_headed`     a bound that is asked for beside the pattern, or in it;
* `fits_chain`           one character of each class.
-/

set_option linter.unusedVariables false

namespace Pattern

variable {r : Pattern} {prev : Option Char} {s : List Char} {p q : Char → Bool}

theorem fullmatch_allows (h : r.fullmatch s = true) : ∀ c ∈ s, r.allows c = true := by
  obtain ⟨x, hx⟩ := Option.isSome_iff_exists.mp h
  obtain ⟨t, prev', s', g', rfl, hp, -, hend⟩ := run_reads (r := r) hx
  have hnil := (run_assert_some hend).1
  rw [List.isEmpty_iff.mp hnil, List.append_nil]
  exact hp

theorem fits_empty : empty.fits prev s = s.isEmpty := by
  cases s with
  | nil => rfl
  | cons c s => rfl

theorem fits_set_nil : (seq (set p) r).fits prev [] = false := rfl

theorem fits_set (c : Char) : (seq (set p) r).fits prev (c :: s) = (p c && r.fits (some c) s) := by
  show (if p c = true then (seq r textEnd).run _ (some c) s [] else none).isSome = _
  cases hc : p c with
  | true => rfl
  | false => rfl

theorem fits_opt : (opt r).fits prev s = (r.fits prev s || s.isEmpty) := by
  show (((seq r textEnd).matchAt prev s).or ((seq empty textEnd).matchAt prev s)).isSome = _
  rw [Option.isSome_or, ← @fits_empty prev s]
  rfl

theorem fits_star : (star (set p)).fits prev s = true ↔ ∀ c ∈ s, p c = true := by
  constructor
  · intro h
    obtain ⟨x, hx⟩ := Option.isSome_iff_exists.mp h
    obtain ⟨t, s', rfl, ht, hend⟩ := run_star_set_some hx
    have hnil := (run_assert_some hend).1
    rw [List.isEmpty_iff.mp hnil, List.append_nil]
    exact ht
  · intro h
    have hmost : (star (set p)).run (textEnd.run fun _ rest g => some (rest, g)) prev (s ++ []) [] =
        some (([] : List Char), ([] : Groups)) :=
      run_star_set_most h (fun c s' hs => nomatch hs) rfl
    rw [List.append_nil] at hmost
    exact Option.isSome_iff_exists.mpr ⟨_, hmost⟩

theorem fits_atMost (m : Nat) :
    ((set q).atMost m).fits prev s = true ↔ (∀ c ∈ s, q c = true) ∧ s.length ≤ m := by
  induction m generalizing prev s with
  | zero =>
    show empty.fits prev s = true ↔ _
    rw [fits_empty, List.isEmpty_iff, Nat.le_zero, List.length_eq_zero_iff]
    exact ⟨fun h => ⟨fun c hc => absurd (h ▸ hc) List.not_mem_nil, h⟩, And.right⟩
  | succ m ih =>
    show (opt (seq (set q) ((set q).atMost m))).fits prev s = true ↔ _
    rw [fits_opt]
    cases s with
    | nil => exact iff_of_true rfl ⟨fun c hc => absurd hc List.not_mem_nil, Nat.zero_le _⟩
    | cons c s =>
      rw [fits_set, List.isEmpty_cons, Bool.or_false, Bool.and_eq_true, ih, List.forall_mem_cons,
        List.length_cons, Nat.succ_le_succ_iff, and_assoc]

/-- a class, at least `n` and at most `n + m` times -/
theorem fits_between (n m : Nat) : ((set q).between n m).fits prev s = true ↔
    (∀ c ∈ s, q c = true) ∧ n ≤ s.length ∧ s.length ≤ n + m := by
  induction n generalizing prev s with
  | zero =>
    show ((set q).atMost m).fits prev s = true ↔ _
    rw [fits_atMost, Nat.zero_add]
    exact and_congr_right fun _ => (and_iff_right (Nat.zero_le _)).symm
  | succ n ih =>
    show (seq (set q) ((set q).between n m)).fits prev s = true ↔ _
    cases s with
    | nil =>
      rw [fits_set_nil]
      exact iff_of_false Bool.false_ne_true fun h => Nat.not_succ_le_zero n h.2.1
    | cons c s =>
      rw [fits_set, Bool.and_eq_true, ih, List.forall_mem_cons, List.length_cons,
        Nat.succ_le_succ_iff, Nat.succ_add, Nat.succ_le_succ_iff, and_assoc]

/-- a first character, and a bounded number of others -/
theorem fullmatch_between (n m : Nat) : (seq (set p) ((set q).between n m)).fullmatch s = true ↔
    ∃ c t, s = c :: t ∧ p c = true ∧ (∀ d ∈ t, q d = true) ∧ n ≤ t.length ∧ t.length ≤ n + m := by
  unfold fullmatch
  cases s with
  | nil =>
    rw [fits_set_nil]
    refine iff_of_false Bool.false_ne_true fun h => ?_
    obtain ⟨c, t, hnil, -⟩ := h
    cases hnil
  | cons c s =>
    rw [fits_set, Bool.and_eq_true, fits_between]
    constructor
    · exact fun h => ⟨c, s, rfl, h⟩
    · intro h
      obtain ⟨c', t, hs, h⟩ := h
      obtain ⟨rfl, rfl⟩ := List.cons.inj hs
      exact h

/-- the same, with the bounds asked for beside the pattern -/
theorem fullmatch_headed {n m : Nat} (h : (seq (set p) (star (set q))).fullmatch s = true)
    (hn : n + 1 ≤ s.length) (hm : s.length ≤ n + m + 1) :
    (seq (set p) ((set q).between n m)).fullmatch s = true := by
  cases s with
  | nil => exact absurd hn (Nat.not_succ_le_zero n)
  | cons c s =>
    unfold fullmatch at h
    rw [fits_set, Bool.and_eq_true, fits_star] at h
    exact (fullmatch_between n m).mpr
      ⟨c, s, rfl, h.1, h.2, Nat.le_of_succ_le_succ hn, Nat.le_of_succ_le_succ hm⟩

theorem fits_chain {ps : List (Char → Bool)} :
    (chain (ps.map set)).fits prev s = true ↔ List.Forall₂ (fun p c => p c = true) ps s := by
  induction ps generalizing prev s with
  | nil =>
    show empty.fits prev s = true ↔ _
    rw [fits_empty, List.isEmpty_iff, List.forall₂_nil_left_iff]
  | cons p ps ih =>
    have hcons : (chain ((p :: ps).map set)).fits prev s =
        (seq (set p) (chain (ps.map set))).fits prev s := by
      cases ps with
      | nil => rfl
      | cons q ps => rfl
    rw [hcons]
    cases s with
    | nil =>
      rw [fits_set_nil]
      exact iff_of_false Bool.false_ne_true fun h => nomatch h
    | cons c s => rw [fits_set, Bool.and_eq_true, ih, List.forall₂_cons]

end Pattern
