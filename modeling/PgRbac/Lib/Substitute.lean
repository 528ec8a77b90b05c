import PgRbac.Lib.Pattern

/-!
# Replacing the matches of a pattern

* `sub r f s`           every match of `r` in `s` is replaced by `f` of its text and its groups;
* `pieces_copies`, `pieces_hit`   what the pieces of a text are, from the matches at its places;
* `run_star_set`, `run_literal`   what a pattern reads, and `run_star_set_some`, … what it has read;
* `Unread c r`          `r` never reads a `c`: a text is rewritten on each side of a `c` alone
                        (`pieces_barrier`), and keeps all of them (`count_sub`).
-/

set_option linter.unusedVariables false

namespace Pattern

/-- the last character of a text, read behind `prev` -/
def behind (prev : Option Char) (t : List Char) : Option Char := t.foldl (fun _ c => some c) prev

theorem behind_append (prev : Option Char) (t u : List Char) :
    behind prev (t ++ u) = behind (behind prev t) u := List.foldl_append

/-- what group `i` has read -/
def groupText (g : Groups) (i : Nat) : List Char := (g.lookup i).getD []

def render (f : List Char → Groups → List Char) : Piece → List Char
  | .copy c => [c]
  | .hit text groups => f text groups

/-- every match is replaced -/
def sub (r : Pattern) (f : List Char → Groups → List Char) (s : List Char) : List Char :=
  (r.pieces none 0 s).flatMap (render f)

theorem render_copies (f : List Char → Groups → List Char) (t : List Char) :
    (t.map Piece.copy).flatMap (render f) = t := by
  induction t with
  | nil => rfl
  | cons c t ih => rw [List.map_cons, List.flatMap_cons, ih]; rfl

/-! ## the pieces of a text -/

section
variable {r : Pattern} {prev : Option Char} {t s : List Char} {g : Groups}

theorem pieces_nil (r : Pattern) (prev : Option Char) (skip : Nat) : r.pieces prev skip [] = [] := by
  unfold pieces
  rfl

theorem pieces_copies
    (h : ∀ a b, t = a ++ b → b ≠ [] → r.matchAt (behind prev a) (b ++ s) = none) :
    r.pieces prev 0 (t ++ s) = t.map .copy ++ r.pieces (behind prev t) 0 s := by
  induction t generalizing prev with
  | nil => rfl
  | cons c t ih =>
    have hfirst : r.matchAt prev (c :: (t ++ s)) = none :=
      h [] (c :: t) rfl (List.cons_ne_nil c t)
    have hrest : r.pieces (some c) 0 (t ++ s) =
        t.map .copy ++ r.pieces (behind (some c) t) 0 s :=
      ih fun a b hab hb => h (c :: a) b (by rw [hab]; rfl) hb
    rw [List.cons_append, pieces, hfirst]
    show Piece.copy c :: r.pieces (some c) 0 (t ++ s) = _
    rw [hrest]
    rfl

theorem pieces_skip : r.pieces prev t.length (t ++ s) = r.pieces (behind prev t) 0 s := by
  induction t generalizing prev with
  | nil => rfl
  | cons c t ih =>
    rw [List.length_cons, List.cons_append, pieces]
    exact ih

theorem pieces_hit (ht : t ≠ []) (h : r.matchAt prev (t ++ s) = some (s, g)) :
    r.pieces prev 0 (t ++ s) = .hit t g :: r.pieces (behind prev t) 0 s := by
  cases t with
  | nil => exact absurd rfl ht
  | cons c t =>
    rw [List.cons_append] at h ⊢
    have hle : s.length ≤ (t ++ s).length := by
      rw [List.length_append]
      omega
    have htake : (c :: (t ++ s)).take ((t ++ s).length + 1 - s.length) = c :: t := by
      rw [List.length_append, show t.length + s.length + 1 - s.length = (c :: t).length by
        rw [List.length_cons]; omega, ← List.cons_append, List.take_left]
    rw [pieces, h]
    show (if s.length ≤ (t ++ s).length then _ else _) = _
    rw [if_pos hle, htake, show (t ++ s).length - s.length = t.length by
      rw [List.length_append]; omega, pieces_skip]
    rfl

end

/-! ## what a pattern reads -/

section
variable {ρ : Type} {k : Cont ρ} {x : ρ} {prev : Option Char} {s : List Char} {g : Groups}
  {p : Char → Bool} {fold : Char → Char}

theorem run_assert_some {test : Option Char → List Char → Bool}
    (h : (assert test).run k prev s g = some x) : test prev s = true ∧ k prev s g = some x := by
  by_cases htest : test prev s = true
  · exact ⟨htest, (if_pos htest).symm.trans h⟩
  · cases (if_neg htest).symm.trans h

theorem run_set_some (h : (set p).run k prev s g = some x) :
    ∃ c s', s = c :: s' ∧ p c = true ∧ k (some c) s' g = some x := by
  cases s with
  | nil => cases h
  | cons c s =>
    by_cases hc : p c = true
    · exact ⟨c, s, rfl, hc, (if_pos hc).symm.trans h⟩
    · cases (if_neg hc).symm.trans h

theorem run_star_cons (c : Char) : (star (set p)).run k prev (c :: s) g =
    if p c = true then ((star (set p)).run k (some c) s g).or (k prev (c :: s) g)
    else k prev (c :: s) g := by
  show ((if p c = true then (if s.length < (c :: s).length then
    iterate (run (set p)) s.length k (some c) s g else none) else none).or (k prev (c :: s) g)) = _
  have hlt : s.length < (c :: s).length := Nat.lt_succ_self _
  by_cases hc : p c = true
  · rw [if_pos hc, if_pos hc, if_pos hlt]
    rfl
  · rw [if_neg hc, if_neg hc]
    rfl

theorem run_star_set_some (h : (star (set p)).run k prev s g = some x) :
    ∃ t s', s = t ++ s' ∧ (∀ c ∈ t, p c = true) ∧ k (behind prev t) s' g = some x := by
  induction s generalizing prev with
  | nil => exact ⟨[], [], rfl, fun c hc => absurd hc List.not_mem_nil, h⟩
  | cons c s ih =>
    rw [run_star_cons] at h
    by_cases hc : p c = true
    · rw [if_pos hc] at h
      rcases Option.or_eq_some_iff.mp h with hmore | ⟨-, hstop⟩
      · obtain ⟨t, s', rfl, ht, hk⟩ := ih hmore
        exact ⟨c :: t, s', rfl, List.forall_mem_cons.mpr ⟨hc, ht⟩, hk⟩
      · exact ⟨[], c :: s, rfl, fun d hd => absurd hd List.not_mem_nil, hstop⟩
    · rw [if_neg hc] at h
      exact ⟨[], c :: s, rfl, fun d hd => absurd hd List.not_mem_nil, h⟩

theorem run_plus_set_some (h : (plus (set p)).run k prev s g = some x) :
    ∃ t s', s = t ++ s' ∧ t ≠ [] ∧ (∀ c ∈ t, p c = true) ∧ k (behind prev t) s' g = some x := by
  obtain ⟨c, s₁, rfl, hc, hstar⟩ := run_set_some h
  obtain ⟨t, s', rfl, ht, hk⟩ := run_star_set_some hstar
  exact ⟨c :: t, s', rfl, List.cons_ne_nil c t, List.forall_mem_cons.mpr ⟨hc, ht⟩, hk⟩

theorem run_literal_some {u : List Char} (h : (literal fold u).run k prev s g = some x) :
    ∃ t s', s = t ++ s' ∧ t.map fold = u ∧ k (behind prev t) s' g = some x := by
  induction u generalizing prev s with
  | nil => exact ⟨[], s, rfl, rfl, h⟩
  | cons c u ih =>
    obtain ⟨d, s₁, rfl, hd, hrest⟩ := run_set_some h
    obtain ⟨t, s', rfl, ht, hk⟩ := ih hrest
    exact ⟨d :: t, s', rfl, by rw [List.map_cons, beq_iff_eq.mp hd, ht], hk⟩

/-- a class reads as much as it can, and gives nothing back when the rest of the pattern does not
start with one of its characters -/
theorem run_star_set {t : List Char} (ht : ∀ c ∈ t, p c = true)
    (hstop : ∀ c s', s = c :: s' → p c = false)
    (hback : ∀ prev c s' g, p c = true → k prev (c :: s') g = none) :
    (star (set p)).run k prev (t ++ s) g = k (behind prev t) s g := by
  induction t generalizing prev with
  | nil =>
    cases s with
    | nil => rfl
    | cons c s =>
      rw [List.nil_append, run_star_cons, if_neg (by rw [hstop c s rfl]; decide)]
      rfl
  | cons c t ih =>
    rw [List.forall_mem_cons] at ht
    rw [List.cons_append, run_star_cons, if_pos ht.1, ih ht.2, hback _ _ _ _ ht.1, Option.or_none]
    rfl

/-- a star reads as much as it can when the rest of the pattern matches behind it -/
theorem run_star_set_most {t : List Char} (ht : ∀ c ∈ t, p c = true)
    (hstop : ∀ c s', s = c :: s' → p c = false) (hk : k (behind prev t) s g = some x) :
    (star (set p)).run k prev (t ++ s) g = some x := by
  induction t generalizing prev with
  | nil =>
    cases s with
    | nil => exact hk
    | cons c s =>
      rw [List.nil_append, run_star_cons, if_neg (by rw [hstop c s rfl]; decide)]
      exact hk
  | cons c t ih =>
    rw [List.forall_mem_cons] at ht
    rw [List.cons_append, run_star_cons, if_pos ht.1, ih ht.2 hk]
    rfl

theorem run_set_cons {c : Char} (hc : p c = true) :
    (set p).run k prev (c :: s) g = k (some c) s g := if_pos hc

theorem run_set_none {c : Char} (hc : p c = false) : (set p).run k prev (c :: s) g = none :=
  if_neg (by rw [hc]; decide)

theorem run_literal (t : List Char) :
    (literal fold (t.map fold)).run k prev (t ++ s) g = k (behind prev t) s g := by
  induction t generalizing prev with
  | nil => rfl
  | cons c t ih =>
    have hc : (fold c == fold c) = true := beq_self_eq_true (fold c)
    exact (if_pos hc).trans ih

end

/-! ## a character that is never read -/

/-- no class has `c`, and no test tells it from the end of the text -/
def Unread (c : Char) : Pattern → Prop
  | empty => True
  | set p => p c = false
  | seq a b => a.Unread c ∧ b.Unread c
  | alt a b => a.Unread c ∧ b.Unread c
  | star a => a.Unread c
  | assert test => ∀ prev s rest, test prev (s ++ c :: rest) = test prev s
  | group _ a => a.Unread c

theorem unread_wordBoundary {word : Char → Bool} {c : Char} (h : word c = false) :
    (wordBoundary word).Unread c := by
  intro prev s rest
  cases s with
  | nil =>
    show (prev.any word != word c) = (prev.any word != false)
    rw [h]
  | cons d s => rfl

theorem unread_literal {fold : Char → Char} {c : Char} {u : List Char}
    (h : ∀ d ∈ u, fold c ≠ d) : (literal fold u).Unread c := by
  induction u with
  | nil => exact trivial
  | cons d u ih =>
    rw [List.forall_mem_cons] at h
    exact ⟨beq_eq_false_iff_ne.mpr h.1, ih h.2⟩

section
variable {ρ ρ' : Type} {f : ρ → ρ'} {c : Char} {rest : List Char}

/-- two continuations agree on a text and on what is left of it -/
def Agree (f : ρ → ρ') (c : Char) (rest : List Char) (k : Cont ρ) (k' : Cont ρ') (a : List Char) :
    Prop :=
  ∀ prev s g, s <:+ a → k' prev (s ++ c :: rest) g = (k prev s g).map f

theorem iterate_barrier {step : Cont ρ → Cont ρ} {step' : Cont ρ' → Cont ρ'}
    (hstep : ∀ a k k', Agree f c rest k k' a →
      ∀ prev g, step' k' prev (a ++ c :: rest) g = (step k prev a g).map f)
    (htail : ∀ k prev s g x, step k prev s g = some x →
      ∃ prev' s' g', s' <:+ s ∧ k prev' s' g' = some x) :
    ∀ (n m : Nat) (a : List Char) (k : Cont ρ) (k' : Cont ρ'), Agree f c rest k k' a →
      a.length ≤ n → (a ++ c :: rest).length ≤ m → ∀ prev g,
        iterate step' m k' prev (a ++ c :: rest) g = (iterate step n k prev a g).map f := by
  intro n m
  induction m generalizing n with
  | zero =>
    intro a k k' h hn hm
    rw [List.length_append, List.length_cons] at hm
    omega
  | succ m ih =>
    intro a k k' h hn hm prev g
    rw [List.length_append, List.length_cons] at hm
    cases n with
    | zero =>
      -- nothing is left to read before the `c`
      have hnil : a = [] := List.length_eq_zero_iff.mp (Nat.le_zero.mp hn)
      subst hnil
      have hnone : step' (fun prev' s' g' => if s'.length < ([] ++ c :: rest).length then
          iterate step' m k' prev' s' g' else none) prev ([] ++ c :: rest) g = none := by
        rw [hstep [] (fun _ _ _ => none) _ (fun prev s g hs => ?_)]
        · rw [Option.map_eq_none_iff]
          by_contra hsome
          obtain ⟨x, hx⟩ := Option.ne_none_iff_exists'.mp hsome
          obtain ⟨_, _, _, _, hk⟩ := htail _ _ _ _ _ hx
          cases hk
        · rw [List.suffix_nil.mp hs, if_neg (Nat.lt_irrefl _)]
          rfl
      show (step' _ prev ([] ++ c :: rest) g).or (k' prev ([] ++ c :: rest) g) = (k prev [] g).map f
      rw [hnone, h prev [] g (List.suffix_refl [])]
      rfl
    | succ n =>
      show (step' _ prev (a ++ c :: rest) g).or (k' prev (a ++ c :: rest) g) =
        ((step _ prev a g).or (k prev a g)).map f
      rw [Option.map_or, h prev a g (List.suffix_refl a)]
      rw [hstep a _ _ fun prev' s' g' hs' => ?_]
      have hlength := hs'.length_le
      by_cases hlt : s'.length < a.length
      · rw [if_pos hlt, if_pos (by simp only [List.length_append]; omega)]
        refine ih n s' k k' (fun prev s g hs => h prev s g (hs.trans hs')) (by omega) ?_ prev' g'
        rw [List.length_append, List.length_cons]
        omega
      · rw [if_neg hlt, if_neg (by simp only [List.length_append]; omega)]
        rfl

/-- a pattern that never reads a `c` does not see what comes from there on -/
theorem run_barrier {r : Pattern} (hr : r.Unread c) (a : List Char) {k : Cont ρ} {k' : Cont ρ'}
    (h : Agree f c rest k k' a) (prev : Option Char) (g : Groups) :
    r.run k' prev (a ++ c :: rest) g = (r.run k prev a g).map f := by
  induction r generalizing a k k' prev g with
  | empty => exact h prev a g (List.suffix_refl a)
  | set p =>
    cases a with
    | nil => exact if_neg (by rw [show p c = false from hr]; decide)
    | cons d a =>
      by_cases hd : p d = true
      · rw [List.cons_append, run_set_cons hd, run_set_cons hd]
        exact h (some d) a g (List.suffix_cons d a)
      · have hd' : p d = false := Bool.eq_false_iff.mpr hd
        rw [List.cons_append, run_set_none hd', run_set_none hd']
        rfl
  | seq b b' ihb ihb' =>
    exact ihb hr.1 _ (fun prev s g hs =>
      ihb' hr.2 s (fun prev' s' g' hs' => h prev' s' g' (hs'.trans hs)) prev g) prev g
  | alt b b' ihb ihb' =>
    show (b.run k' _ _ _).or (b'.run k' _ _ _) = ((b.run k _ _ _).or (b'.run k _ _ _)).map f
    rw [ihb hr.1 _ h, ihb' hr.2 _ h, Option.map_or]
  | star b ihb =>
    exact iterate_barrier (fun s k k' hk prev g => ihb hr s hk prev g)
      (fun k prev s g x hx => run_tail hx) _ _ a k k' h (Nat.le_refl _) (Nat.le_refl _) prev g
  | assert test =>
    show (if test prev (a ++ c :: rest) = true then _ else _) =
      (if test prev a = true then _ else _ : Option ρ).map f
    rw [hr prev a rest]
    by_cases htest : test prev a = true
    · rw [if_pos htest, if_pos htest]
      exact h prev a g (List.suffix_refl a)
    · rw [if_neg htest, if_neg htest]
      rfl
  | group i b ihb =>
    refine ihb hr a (fun prev' s g' hs => ?_) prev g
    have htake : (a ++ c :: rest).take ((a ++ c :: rest).length - (s ++ c :: rest).length) =
        a.take (a.length - s.length) := by
      rw [List.length_append, List.length_append,
        show a.length + (c :: rest).length - (s.length + (c :: rest).length) =
          a.length - s.length by omega]
      exact List.take_append_of_le_length (Nat.sub_le _ _)
    show k' prev' (s ++ c :: rest) ((i, _) :: g') = _
    rw [htake]
    exact h prev' s _ hs

end

section
variable {r : Pattern} {c : Char}

theorem matchAt_barrier (hr : r.Unread c) (prev : Option Char) (a rest : List Char) :
    r.matchAt prev (a ++ c :: rest) =
      (r.matchAt prev a).map fun m => (m.1 ++ c :: rest, m.2) :=
  run_barrier hr a (fun prev s g hs => rfl) prev []

/-- a text is cut into pieces on each side of a character that is never read -/
theorem pieces_barrier (hr : r.Unread c) (a rest : List Char) : ∀ (prev : Option Char) (skip : Nat),
    skip ≤ a.length →
      r.pieces prev skip (a ++ c :: rest) =
        r.pieces prev skip a ++ .copy c :: r.pieces (some c) 0 rest := by
  induction a with
  | nil =>
    intro prev skip hskip
    rw [Nat.le_zero.mp hskip, pieces_nil, List.nil_append, List.nil_append, pieces]
    have hmatch := matchAt_barrier hr prev [] rest
    rw [List.nil_append] at hmatch
    rw [hmatch]
    cases r.matchAt prev [] with
    | none => rfl
    | some m =>
      show (if (m.1 ++ c :: rest).length ≤ rest.length then _ else _) = _
      rw [if_neg (by rw [List.length_append, List.length_cons]; omega)]
  | cons d a ih =>
    intro prev skip hskip
    cases skip with
    | succ skip =>
      rw [List.cons_append, pieces, pieces]
      exact ih (some d) skip (Nat.le_of_succ_le_succ hskip)
    | zero =>
      have hmatch := matchAt_barrier hr prev (d :: a) rest
      rw [List.cons_append] at hmatch
      rw [List.cons_append, pieces, pieces, hmatch]
      cases r.matchAt prev (d :: a) with
      | none => exact congrArg (Piece.copy d :: ·) (ih (some d) 0 (Nat.zero_le _))
      | some m =>
        obtain ⟨left, groups⟩ := m
        show (if (left ++ c :: rest).length ≤ (a ++ c :: rest).length then _ else _) =
          (if left.length ≤ a.length then _ else _) ++ _
        rw [List.length_append, List.length_append]
        by_cases hle : left.length ≤ a.length
        · have htake : (d :: (a ++ c :: rest)).take (a.length + (c :: rest).length + 1 -
              (left.length + (c :: rest).length)) = (d :: a).take (a.length + 1 - left.length) := by
            rw [show a.length + (c :: rest).length + 1 - (left.length + (c :: rest).length) =
              a.length + 1 - left.length by omega, ← List.cons_append]
            exact List.take_append_of_le_length (by rw [List.length_cons]; omega)
          rw [if_pos hle, if_pos (by omega), htake,
            show a.length + (c :: rest).length - (left.length + (c :: rest).length) =
              a.length - left.length by omega, ih (some d) _ (Nat.sub_le _ _)]
          rfl
        · rw [if_neg hle, if_neg (by omega), ih (some d) 0 (Nat.zero_le _)]
          rfl

/-- what is not in a text comes into it only through a replacement -/
theorem not_mem_render {f : List Char → Groups → List Char} {s : List Char} (hs : c ∉ s)
    (hf : ∀ text groups, c ∉ text → (∀ e ∈ groups, c ∉ e.2) → c ∉ f text groups)
    (prev : Option Char) (skip : Nat) : c ∉ (r.pieces prev skip s).flatMap (render f) := by
  intro h
  obtain ⟨piece, hpiece, hc⟩ := List.mem_flatMap.mp h
  cases piece with
  | copy d =>
    have heq : c = d := List.mem_singleton.mp hc
    exact hs (heq ▸ copies_mem hpiece)
  | hit text groups =>
    obtain ⟨htext, hgroups⟩ := pieces_within hpiece
    exact hf text groups (fun hmem => hs (htext.mem hmem))
      (fun e he hmem => hs ((hgroups e he).mem hmem)) hc

/-- a character that is never read, and in no replacement, is as often in the text as before -/
theorem count_render (hr : r.Unread c) {f : List Char → Groups → List Char}
    (hf : ∀ text groups, c ∉ text → (∀ e ∈ groups, c ∉ e.2) → c ∉ f text groups) (s : List Char) :
    ∀ prev : Option Char, ((r.pieces prev 0 s).flatMap (render f)).count c = s.count c := by
  induction hn : s.count c generalizing s with
  | zero =>
    intro prev
    exact List.count_eq_zero.mpr (not_mem_render (List.count_eq_zero.mp hn) hf prev 0)
  | succ n ih =>
    intro prev
    have hmem : c ∈ s := List.count_pos_iff.mp (by omega)
    obtain ⟨a, b, rfl, ha⟩ := List.eq_append_cons_of_mem hmem
    rw [List.count_append, List.count_cons_self, List.count_eq_zero.mpr ha] at hn
    rw [pieces_barrier hr a b prev 0 (Nat.zero_le _), List.flatMap_append, List.flatMap_cons,
      List.count_append, List.count_append, ih b (by omega) (some c),
      List.count_eq_zero.mpr (not_mem_render ha hf prev 0)]
    show 0 + ([c].count c + n) = n + 1
    rw [List.count_singleton_self]
    omega

theorem count_sub (hr : r.Unread c) {f : List Char → Groups → List Char}
    (hf : ∀ text groups, c ∉ text → (∀ e ∈ groups, c ∉ e.2) → c ∉ f text groups) (s : List Char) :
    (r.sub f s).count c = s.count c := count_render hr hf s none

end

end Pattern
