import Mathlib.Data.List.Basic

/-!
# A backtracking matcher

Patterns with greedy repetition, groups and tests that read nothing, matched the way a
backtracking engine does: `r.run k prev s g` tries to read a first part of `s`, behind the
character `prev`, and takes the first way in which the continuation `k` succeeds.

* `matchAt`, `search`     the match at one place, and whether there is a match anywhere;
* `pieces`                a text cut into matches and single characters, from the left;
* `run_reads`             a match reads characters of its classes, and its groups are parts of the text;
* `hits_within`           a match is a part of the text;
* `Needs p r`             every match reads a character of `p`: no match without one.
-/

set_option linter.unusedVariables false

inductive Pattern where
  | empty
  | set (p : Char → Bool)
  | seq (a b : Pattern)
  | alt (a b : Pattern)
  /-- as often as possible first -/
  | star (a : Pattern)
  /-- a test of the last character read and of the rest -/
  | assert (test : Option Char → List Char → Bool)
  | group (i : Nat) (a : Pattern)

namespace Pattern

/-- what the groups have read, the last one first -/
abbrev Groups := List (Nat × List Char)

abbrev Cont (ρ : Type) := Option Char → List Char → Groups → Option ρ

variable {ρ : Type}

/-- at most `n` times, each with progress -/
def iterate (step : Cont ρ → Cont ρ) : Nat → Cont ρ → Cont ρ
  | 0, k, prev, s, g => k prev s g
  | n + 1, k, prev, s, g =>
    (step (fun prev' s' g' => if s'.length < s.length then iterate step n k prev' s' g' else none)
      prev s g).or (k prev s g)

def run : Pattern → Cont ρ → Cont ρ
  | empty, k, prev, s, g => k prev s g
  | set _, _, _, [], _ => none
  | set p, k, _, c :: s, g => if p c then k (some c) s g else none
  | seq a b, k, prev, s, g => a.run (b.run k) prev s g
  | alt a b, k, prev, s, g => (a.run k prev s g).or (b.run k prev s g)
  | star a, k, prev, s, g => iterate a.run s.length k prev s g
  | assert test, k, prev, s, g => if test prev s then k prev s g else none
  | group i a, k, prev, s, g =>
    a.run (fun prev' s' g' => k prev' s' ((i, s.take (s.length - s'.length)) :: g')) prev s g

/-- the match behind `prev`: what is left of the text, and the groups -/
def matchAt (r : Pattern) (prev : Option Char) (s : List Char) : Option (List Char × Groups) :=
  r.run (fun _ rest g => some (rest, g)) prev s []

def searchFrom (r : Pattern) (prev : Option Char) : List Char → Bool
  | [] => (r.matchAt prev []).isSome
  | c :: s => (r.matchAt prev (c :: s)).isSome || r.searchFrom (some c) s

/-- a match anywhere in the text -/
def search (r : Pattern) (s : List Char) : Bool := r.searchFrom none s

/-! ## more patterns -/

def plus (a : Pattern) : Pattern := seq a (star a)

def opt (a : Pattern) : Pattern := alt a empty

def atMost (a : Pattern) : Nat → Pattern
  | 0 => empty
  | n + 1 => opt (seq a (a.atMost n))

def times (a : Pattern) : Nat → Pattern
  | 0 => empty
  | n + 1 => seq a (a.times n)

/-- at least `n` and at most `n + m` times -/
def between (a : Pattern) (n m : Nat) : Pattern := seq (a.times n) (a.atMost m)

/-- the characters of a text, each up to `fold` -/
def literal (fold : Char → Char) : List Char → Pattern
  | [] => empty
  | c :: s => seq (set fun d => fold d == c) (literal fold s)

def oneOf : List Pattern → Pattern
  | [] => set fun _ => false
  | [r] => r
  | r :: rs => alt r (oneOf rs)

/-- the patterns one behind the other -/
def chain : List Pattern → Pattern
  | [] => empty
  | [r] => r
  | r :: rs => seq r (chain rs)

/-- `\b` -/
def wordBoundary (word : Char → Bool) : Pattern :=
  assert fun prev s => prev.any word != s.head?.any word

/-- `(?<![…])` -/
def notBehind (p : Char → Bool) : Pattern := assert fun prev _ => !prev.any p

/-- `(?![…])` -/
def notAhead (p : Char → Bool) : Pattern := assert fun _ s => !s.head?.any p

/-- `(?=…)` -/
def ahead (r : Pattern) : Pattern := assert fun prev s => (r.matchAt prev s).isSome

/-- `\A` -/
def textStart : Pattern := assert fun prev _ => prev.isNone

/-- `\Z` -/
def textEnd : Pattern := assert fun _ s => s.isEmpty

/-- `^` in a text of several lines -/
def lineStart : Pattern := assert fun prev _ => prev.all (· == '\n')

/-- `$` in a text of several lines -/
def lineEnd : Pattern := assert fun _ s => s.head?.all (· == '\n')

/-- a match of all that is left of the text -/
def fits (r : Pattern) (prev : Option Char) (s : List Char) : Bool :=
  ((seq r textEnd).matchAt prev s).isSome

/-- a match of the whole text -/
def fullmatch (r : Pattern) (s : List Char) : Bool := r.fits none s

/-! ## a text cut into matches -/

inductive Piece where
  | copy (c : Char)
  | hit (text : List Char) (groups : Groups)
deriving DecidableEq, Repr

/-- matches from the left, behind `skip` characters of the last one; a match reads something -/
def pieces (r : Pattern) : Option Char → Nat → List Char → List Piece
  | _, _, [] => []
  | _, skip + 1, c :: s => r.pieces (some c) skip s
  | prev, 0, c :: s =>
    match r.matchAt prev (c :: s) with
    | none => .copy c :: r.pieces (some c) 0 s
    | some (rest, groups) =>
      if rest.length ≤ s.length then
        .hit ((c :: s).take (s.length + 1 - rest.length)) groups ::
          r.pieces (some c) (s.length - rest.length) s
      else .copy c :: r.pieces (some c) 0 s

/-- the matches of a text -/
def hits (r : Pattern) (s : List Char) : List (List Char) :=
  (r.pieces none 0 s).filterMap fun
    | .copy _ => none
    | .hit text _ => some text

/-! ## what is left of the text -/

section
variable {ρ : Type} {x : ρ} {prev : Option Char} {s : List Char} {g : Groups}

/-- every group that is added has read a part of the text -/
def Adds (g g' : Groups) (s : List Char) : Prop := ∀ e ∈ g', e ∈ g ∨ e.2 <:+: s

theorem Adds.trans {g₁ g₂ g₃ : Groups} {s s' : List Char} (h : Adds g₁ g₂ s) (hs : s' <:+ s)
    (h' : Adds g₂ g₃ s') : Adds g₁ g₃ s := by
  intro e he
  rcases h' e he with hold | hnew
  · exact h e hold
  · exact .inr (hnew.trans hs.isInfix)

/-- a first part of `s` has been read, of characters of `p`, and the groups are parts of `s` -/
def Reads (p : Char → Bool) (k : Cont ρ) (s : List Char) (g : Groups) (x : ρ) : Prop :=
  ∃ t prev' s' g', s = t ++ s' ∧ (∀ c ∈ t, p c = true) ∧ Adds g g' s ∧ k prev' s' g' = some x

theorem Reads.nothing {p : Char → Bool} {k : Cont ρ} (h : k prev s g = some x) : Reads p k s g x :=
  ⟨[], prev, s, g, rfl, fun c hc => absurd hc List.not_mem_nil, fun e he => .inl he, h⟩

theorem Reads.mono {p q : Char → Bool} {k : Cont ρ} (h : Reads p k s g x)
    (hpq : ∀ c, p c = true → q c = true) : Reads q k s g x := by
  obtain ⟨t, prev', s', g', hs, hp, hg, hk⟩ := h
  exact ⟨t, prev', s', g', hs, fun c hc => hpq c (hp c hc), hg, hk⟩

/-- what a second match reads comes behind what the first one read -/
theorem Reads.trans {p : Char → Bool} {k k' : Cont ρ} (h : Reads p k s g x)
    (hk : ∀ prev' s' g', k prev' s' g' = some x → Reads p k' s' g' x) : Reads p k' s g x := by
  obtain ⟨t, prev₁, s₁, g₁, rfl, hp, hg, hk₁⟩ := h
  obtain ⟨t', prev₂, s₂, g₂, rfl, hp', hg', hk₂⟩ := hk _ _ _ hk₁
  refine ⟨t ++ t', prev₂, s₂, g₂, (List.append_assoc _ _ _).symm, ?_,
    hg.trans (List.suffix_append _ _) hg', hk₂⟩
  intro c hc
  rcases List.mem_append.mp hc with h | h
  · exact hp c h
  · exact hp' c h

theorem iterate_reads {p : Char → Bool} {step : Cont ρ → Cont ρ}
    (hstep : ∀ k prev s g, step k prev s g = some x → Reads p k s g x)
    (n : Nat) {k : Cont ρ} (h : iterate step n k prev s g = some x) : Reads p k s g x := by
  induction n generalizing prev s g with
  | zero => exact .nothing h
  | succ n ih =>
    rcases Option.or_eq_some_iff.mp h with hs | ⟨-, hk⟩
    · refine (hstep _ _ _ _ hs).trans fun prev₁ s₁ g₁ hk₁ => ?_
      by_cases hlt : s₁.length < s.length
      · exact ih ((if_pos hlt).symm.trans hk₁)
      · cases (if_neg hlt).symm.trans hk₁
    · exact .nothing hk

/-- the characters of the classes of `r` -/
def allows : Pattern → Char → Bool
  | set p, c => p c
  | seq a b, c => a.allows c || b.allows c
  | alt a b, c => a.allows c || b.allows c
  | star a, c => a.allows c
  | group _ a, c => a.allows c
  | empty, _ => false
  | assert _, _ => false

theorem run_reads {r : Pattern} {k : Cont ρ} (h : r.run k prev s g = some x) :
    Reads r.allows k s g x := by
  induction r generalizing k prev s g with
  | empty => exact .nothing h
  | set p =>
    cases s with
    | nil => cases h
    | cons c s =>
      by_cases hc : p c = true
      · exact ⟨[c], some c, s, g, rfl, List.forall_mem_singleton.mpr hc, fun e he => .inl he,
          (if_pos hc).symm.trans h⟩
      · cases (if_neg hc).symm.trans h
  | seq a b iha ihb =>
    have hleft := (iha h).mono (q := (seq a b).allows) fun c hc =>
      (Bool.or_eq_true _ _).mpr (.inl hc)
    exact hleft.trans fun prev₁ s₁ g₁ hb =>
      (ihb hb).mono fun c hc => (Bool.or_eq_true _ _).mpr (.inr hc)
  | alt a b iha ihb =>
    rcases Option.or_eq_some_iff.mp h with ha | ⟨-, hb⟩
    · exact (iha ha).mono fun c hc => (Bool.or_eq_true _ _).mpr (.inl hc)
    · exact (ihb hb).mono fun c hc => (Bool.or_eq_true _ _).mpr (.inr hc)
  | star a iha => exact iterate_reads (fun k prev s g hs => iha hs) s.length h
  | assert test =>
    by_cases htest : test prev s = true
    · exact .nothing ((if_pos htest).symm.trans h)
    · cases (if_neg htest).symm.trans h
  | group i a iha =>
    obtain ⟨t, prev₁, s₁, g₁, hs₁, hp, hg₁, hk⟩ := iha h
    refine ⟨t, prev₁, s₁, _, hs₁, hp, fun e he => ?_, hk⟩
    rcases List.mem_cons.mp he with rfl | hold
    · exact .inr (List.take_prefix _ _).isInfix
    · exact hg₁ e hold

theorem run_tail {r : Pattern} {k : Cont ρ} (h : r.run k prev s g = some x) :
    ∃ prev' s' g', s' <:+ s ∧ k prev' s' g' = some x := by
  obtain ⟨t, prev', s', g', rfl, -, -, hk⟩ := run_reads h
  exact ⟨prev', s', g', List.suffix_append t s', hk⟩

/-- the groups of a match are parts of the text -/
theorem matchAt_groups {r : Pattern} {rest : List Char} {groups : Groups}
    (h : r.matchAt prev s = some (rest, groups)) : ∀ e ∈ groups, e.2 <:+: s := by
  obtain ⟨_, _, _, _, -, -, hg, hk⟩ := run_reads h
  cases hk
  exact fun e he => (hg e he).resolve_left List.not_mem_nil

end

/-- a match and its groups are parts of the text -/
theorem pieces_within {r : Pattern} {s : List Char} : ∀ {prev : Option Char} {skip : Nat}
    {text : List Char} {groups : Groups}, .hit text groups ∈ r.pieces prev skip s →
      text <:+: s ∧ ∀ e ∈ groups, e.2 <:+: s := by
  induction s with
  | nil =>
    intro prev skip text groups h
    unfold pieces at h
    cases h
  | cons c s ih =>
    intro prev skip text groups h
    have hrest {prev : Option Char} {skip : Nat} (h : .hit text groups ∈ r.pieces prev skip s) :
        text <:+: c :: s ∧ ∀ e ∈ groups, e.2 <:+: c :: s := by
      obtain ⟨htext, hgroups⟩ := ih h
      exact ⟨List.infix_cons htext, fun e he => List.infix_cons (hgroups e he)⟩
    cases skip with
    | succ skip => exact hrest h
    | zero =>
      unfold pieces at h
      split at h
      · rcases List.mem_cons.mp h with hcopy | hmem
        · cases hcopy
        · exact hrest hmem
      · rename_i rest groups' hmatch
        split at h
        · rcases List.mem_cons.mp h with hhit | hmem
          · cases hhit
            exact ⟨(List.take_prefix _ _).isInfix, matchAt_groups hmatch⟩
          · exact hrest hmem
        · rcases List.mem_cons.mp h with hcopy | hmem
          · cases hcopy
          · exact hrest hmem

theorem hits_within {r : Pattern} {s text : List Char} (h : text ∈ r.hits s) : text <:+: s := by
  obtain ⟨piece, hpiece, htext⟩ := List.mem_filterMap.mp h
  cases piece with
  | copy c => cases htext
  | hit text' groups =>
    cases htext
    exact (pieces_within hpiece).1

theorem copies_mem {r : Pattern} {s : List Char} {c : Char} : ∀ {prev : Option Char} {skip : Nat},
    .copy c ∈ r.pieces prev skip s → c ∈ s := by
  induction s with
  | nil =>
    intro prev skip h
    unfold pieces at h
    cases h
  | cons d s ih =>
    intro prev skip h
    have hcopy {prev : Option Char} (h : .copy c ∈ .copy d :: r.pieces prev 0 s) : c ∈ d :: s := by
      rcases List.mem_cons.mp h with heq | hmem
      · exact List.mem_cons.mpr (.inl (Piece.copy.inj heq))
      · exact List.mem_cons_of_mem d (ih hmem)
    cases skip with
    | succ skip => exact List.mem_cons_of_mem d (ih h)
    | zero =>
      unfold pieces at h
      split at h
      · exact hcopy h
      · split at h
        · rcases List.mem_cons.mp h with hhit | hmem
          · cases hhit
          · exact List.mem_cons_of_mem d (ih hmem)
        · exact hcopy h

/-! ## characters that a match needs -/

/-- every match of `r` reads a character of `p` -/
def Needs (p : Char → Bool) (r : Pattern) : Prop :=
  ∀ (ρ : Type) (k : Cont ρ) prev s g x, r.run k prev s g = some x → ∃ c ∈ s, p c = true

namespace Needs
variable {p : Char → Bool} {a b : Pattern}

theorem set {q : Char → Bool} (h : ∀ c, q c = true → p c = true) : Needs p (.set q) := by
  intro ρ k prev s g x hs
  cases s with
  | nil => cases hs
  | cons c s =>
    by_cases hc : q c = true
    · exact ⟨c, List.mem_cons_self, h c hc⟩
    · cases (if_neg hc).symm.trans hs

theorem left (h : Needs p a) : Needs p (seq a b) := fun ρ k prev s g x hs =>
  h ρ (b.run k) prev s g x hs

theorem right (h : Needs p b) : Needs p (seq a b) := by
  intro ρ k prev s g x hs
  obtain ⟨prev', s', g', hsuffix, hb⟩ := run_tail (r := a) hs
  obtain ⟨c, hc, hp⟩ := h ρ k prev' s' g' x hb
  exact ⟨c, hsuffix.mem hc, hp⟩

theorem alt (ha : Needs p a) (hb : Needs p b) : Needs p (.alt a b) := by
  intro ρ k prev s g x hs
  rcases Option.or_eq_some_iff.mp hs with h | ⟨-, h⟩
  · exact ha ρ k prev s g x h
  · exact hb ρ k prev s g x h

theorem literal {fold : Char → Char} {text : List Char} {c : Char} (hc : c ∈ text)
    (h : ∀ d, fold d = c → p d = true) : Needs p (literal fold text) := by
  induction text with
  | nil => cases hc
  | cons d text ih =>
    rcases List.mem_cons.mp hc with rfl | hc
    · exact .left (.set fun e he => h e (beq_iff_eq.mp he))
    · exact .right (ih hc)

/-- no match in a text without such a character -/
theorem search {r : Pattern} (h : Needs p r) {s : List Char} (hs : ∀ c ∈ s, p c = false) :
    r.search s = false := by
  have hmatch (prev : Option Char) {t : List Char} (ht : ∀ c ∈ t, p c = false) :
      (r.matchAt prev t).isSome = false := by
    rw [Bool.eq_false_iff]
    intro hsome
    obtain ⟨x, hx⟩ := Option.isSome_iff_exists.mp hsome
    obtain ⟨c, hc, hp⟩ := h _ _ _ _ _ _ hx
    rw [ht c hc] at hp
    cases hp
  have hfrom (prev : Option Char) : r.searchFrom prev s = false := by
    induction s generalizing prev with
    | nil => exact hmatch prev hs
    | cons c s ih =>
      show ((r.matchAt prev (c :: s)).isSome || r.searchFrom (some c) s) = false
      rw [hmatch prev hs, ih (fun d hd => hs d (List.mem_cons_of_mem c hd)) (some c)]
      rfl
  exact hfrom none

end Needs

end Pattern
