import PgRbac.Lib.Substitute
import PgRbac.Lib.Words
import PgRbac.AuditTexts
import Mathlib.Data.List.TakeWhile

/-!
# Redaction of log texts

`_redact_text` of `app/core/observability.py` cuts a text at a limit and rewrites what is left three
times.

* `bearerRe`, `urlCredentialRe`, `keyValueSecretRe`, `redactText`   the patterns and the function;
* `UrlInText`              a text with one URL that holds a password;
* `opensBearer`            the text in front of the URL ends in an open `bearer`;
* `url_password_hidden`    the password has no influence on the result, exactly when there is none,
                           it lies behind the limit, or the URL has a user and its `@` lies before
                           the limit with no open `bearer` in front.

The alphanumeric characters beyond ASCII are a parameter.
-/

set_option linter.unusedVariables false

namespace PgRbac.Logging

open Pattern

/-! ## patterns -/

section
variable (alnum : Char → Bool)

/-- `\w`; white space is never alphanumeric -/
def wordCharacter (c : Char) : Bool := !isPySpace c && isWordCharacter alnum c

/-- `[^\s,;]` -/
def tokenCharacter (c : Char) : Bool := !isPySpace c && c != ',' && c != ';'

/-- `[^\s/@:]` -/
def userCharacter (c : Char) : Bool := !isPySpace c && c != '/' && c != '@' && c != ':'

/-- `[^\s/@]` -/
def passwordCharacter (c : Char) : Bool := !isPySpace c && c != '/' && c != '@'

/-- `[a-z]` without case -/
def schemeStart (c : Char) : Bool := (ignoreCase c).isLower

/-- `[a-z0-9+.-]` without case -/
def schemeCharacter (c : Char) : Bool :=
  schemeStart c || c.isDigit || c == '+' || c == '.' || c == '-'

def bearerRe : Pattern :=
  chain [wordBoundary (wordCharacter alnum), literal ignoreCase "bearer".toList,
    plus (set isPySpace), plus (set tokenCharacter)]

def urlCredentialRe : Pattern :=
  chain [wordBoundary (wordCharacter alnum),
    group 1 (chain [set schemeStart, star (set schemeCharacter), literal ignoreCase "://".toList]),
    plus (set userCharacter), set (· == ':'), plus (set passwordCharacter), set (· == '@')]

def keyValueSecretRe : Pattern :=
  let word (s : String) := literal ignoreCase s.toList
  chain [wordBoundary (wordCharacter alnum),
    group 1 (oneOf [word "password", word "secret", word "token",
      chain [word "api", opt (set fun c => c == '_' || c == '-'), word "key"],
      word "authorization"]),
    star (set isPySpace), group 2 (set fun c => c == '=' || c == ':'), star (set isPySpace),
    group 3 (plus (set tokenCharacter))]

/-! ## the function -/

def redactBearer (s : List Char) : List Char :=
  (bearerRe alnum).sub (fun _ _ => "Bearer [REDACTED]".toList) s

def redactUrl (s : List Char) : List Char :=
  (urlCredentialRe alnum).sub (fun _ groups => groupText groups 1 ++ "[REDACTED]@".toList) s

def redactKeyValue (s : List Char) : List Char :=
  (keyValueSecretRe alnum).sub
    (fun _ groups => groupText groups 1 ++ groupText groups 2 ++ "[REDACTED]".toList) s

def redactText (limit : Nat) (value : String) : String :=
  let bounded := redactKeyValue alnum (redactUrl alnum
    (redactBearer alnum (value.toList.take limit)))
  String.ofList
    (if limit < value.toList.length then bounded ++ "...[TRUNCATED]".toList else bounded)

example : redactText (fun _ => false) 64 "get postgres://app:pw@db/x, token = abc; BEARER  xyz" =
    "get postgres://[REDACTED]@db/x, token=[REDACTED]; Bearer [REDACTED]" := by decide +kernel

end

/-! ## white space -/

section
variable {alnum : Char → Bool} {c w : Char} {prev : Option Char} {s t : List Char}

theorem space_cases (h : isPySpace c = true) : (9 ≤ c.toNat ∧ c.toNat ≤ 13) ∨
    (28 ≤ c.toNat ∧ c.toNat ≤ 32) ∨ 133 ≤ c.toNat ∧ c.toNat ≠ 304 ∧ c.toNat ≠ 305 ∧
      c.toNat ≠ 383 ∧ c.toNat ≠ 8490 := by
  unfold isPySpace at h
  simp only [Bool.or_eq_true, Bool.and_eq_true, decide_eq_true_eq, beq_iff_eq] at h
  omega

theorem space_folded (h : isPySpace c = true) : ignoreCase c = c := by
  have hcases := space_cases h
  have hne {d : Char} (hd : c = d) : c.toNat = d.toNat := congrArg Char.toNat hd
  have hsmall : c.toLower = c := by
    unfold Char.toLower
    rw [dif_neg]
    intro hupper
    have hlow : 65 ≤ c.toNat := UInt32.le_iff_toNat_le.mp hupper.1
    have hhigh : c.toNat ≤ 90 := UInt32.le_iff_toNat_le.mp hupper.2
    omega
  unfold ignoreCase
  rw [if_neg, if_neg, if_neg, hsmall]
  · intro hd
    have : c.toNat = 8490 := hne hd
    omega
  · intro hd
    have : c.toNat = 383 := hne hd
    omega
  · intro hd
    rcases hd with hd | hd
    · have : c.toNat = 305 := hne hd
      omega
    · have : c.toNat = 304 := hne hd
      omega

theorem space_token (h : isPySpace c = true) : tokenCharacter c = false := by
  unfold tokenCharacter
  rw [h]
  rfl

theorem token_space (h : tokenCharacter c = true) : isPySpace c = false := by
  rw [Bool.eq_false_iff]
  intro hspace
  rw [space_token hspace] at h
  cases h

theorem not_mem_folded {u : List Char} (hu : u.all (fun d => !isPySpace d) = true)
    (h : t.map ignoreCase = u) : ∀ d ∈ t, isPySpace d = false := by
  intro d hd
  rw [Bool.eq_false_iff]
  intro hspace
  have hmem : d ∈ u := by
    rw [← h, ← space_folded hspace]
    exact List.mem_map_of_mem hd
  have hnot := List.all_eq_true.mp hu d hmem
  rw [hspace] at hnot
  cases hnot

/-- a word starts or ends in front of `s` -/
def atBoundary (alnum : Char → Bool) (prev : Option Char) (s : List Char) : Bool :=
  prev.any (wordCharacter alnum) != s.head?.any (wordCharacter alnum)

/-! ## matches of `bearer` -/

def finish : Cont (List Char × Groups) := fun _ rest groups => some (rest, groups)

theorem bearer_matchAt : (bearerRe alnum).matchAt prev s =
    if atBoundary alnum prev s = true then
      (literal ignoreCase "bearer".toList).run ((plus (set isPySpace)).run
        ((plus (set tokenCharacter)).run finish)) prev s []
    else none := rfl

theorem bearer_some {x : List Char × Groups} (h : (bearerRe alnum).matchAt prev s = some x) :
    ∃ word s', s = word ++ s' ∧ word.map ignoreCase = "bearer".toList ∧
      (plus (set isPySpace)).run ((plus (set tokenCharacter)).run finish)
        (behind prev word) s' [] = some x := by
  rw [bearer_matchAt] at h
  split at h
  · exact run_literal_some h
  · cases h

theorem bearer_first (hc : ignoreCase c ≠ 'b') : (bearerRe alnum).matchAt prev (c :: s) = none := by
  by_contra h
  obtain ⟨x, hx⟩ := Option.ne_none_iff_exists'.mp h
  obtain ⟨word, s', hs, hword, -⟩ := bearer_some hx
  cases word with
  | nil => cases hword
  | cons d word =>
    have hd : c = d := (List.cons.inj hs).1
    exact hc (hd ▸ (List.cons.inj hword).1)

theorem bearer_space (hw : isPySpace w = true) : (bearerRe alnum).matchAt prev (w :: s) = none := by
  refine bearer_first fun h => ?_
  rw [space_folded hw] at h
  rw [h] at hw
  exact absurd hw (by decide)

/-- a text that goes on with a token -/
def Token (s : List Char) : Prop := ∃ c s', s = c :: s' ∧ tokenCharacter c = true

theorem takeWhile_stop {p : Char → Bool} {l : List Char} :
    ∀ c s', l.dropWhile p = c :: s' → p c = false := by
  intro c s' h
  have := List.head?_dropWhile_not p l
  rw [h] at this
  simpa using this

theorem run_token (hs : Token s) :
    (plus (set tokenCharacter)).run finish prev s [] = some (s.dropWhile tokenCharacter, []) := by
  obtain ⟨c, s', rfl, hc⟩ := hs
  rw [List.dropWhile_cons_of_pos hc]
  show (set tokenCharacter).run ((star (set tokenCharacter)).run finish) prev (c :: s') [] = _
  rw [run_set_cons hc]
  conv_lhs => rw [← List.takeWhile_append_dropWhile (p := tokenCharacter) (l := s')]
  exact run_star_set_most (fun d hd => List.mem_takeWhile_imp hd) takeWhile_stop rfl

theorem run_token_none (hs : ¬ Token s) :
    (plus (set tokenCharacter)).run finish prev s [] = none := by
  by_contra h
  obtain ⟨x, hx⟩ := Option.ne_none_iff_exists'.mp h
  obtain ⟨t, s', rfl, hnil, ht, -⟩ := run_plus_set_some hx
  cases t with
  | nil => exact hnil rfl
  | cons c t => exact hs ⟨c, t ++ s', rfl, ht c List.mem_cons_self⟩

theorem run_space (hs : (s.dropWhile isPySpace).length < s.length) :
    (plus (set isPySpace)).run ((plus (set tokenCharacter)).run finish) prev s [] =
      (plus (set tokenCharacter)).run finish (behind prev (s.takeWhile isPySpace))
        (s.dropWhile isPySpace) [] := by
  cases s with
  | nil => cases hs
  | cons c s =>
    have hc : isPySpace c = true := by
      by_contra hc
      rw [List.dropWhile_cons_of_neg hc] at hs
      exact Nat.lt_irrefl _ hs
    rw [List.dropWhile_cons_of_pos hc, List.takeWhile_cons_of_pos hc]
    show (set isPySpace).run ((star (set isPySpace)).run _) prev (c :: s) [] = _
    rw [run_set_cons hc]
    conv_lhs => rw [← List.takeWhile_append_dropWhile (p := isPySpace) (l := s)]
    refine run_star_set (fun d hd => List.mem_takeWhile_imp hd) takeWhile_stop ?_
    intro prev d s' g hd
    show (set tokenCharacter).run _ prev (d :: s') g = none
    rw [run_set_none (space_token hd)]

theorem mem_of_suffix {b : List Char} (h : s <:+ b ++ [w]) (hs : s ≠ []) : w ∈ s := by
  have hlast := h.getLast hs
  rw [List.getLast_append_singleton] at hlast
  exact hlast ▸ List.getLast_mem hs

variable (alnum) in
/-- a match that starts in front of the white space `w` ends there as well, or it reads a token
behind it whatever the token is -/
theorem bearer_before (hw : isPySpace w = true) (prev : Option Char) (a : List Char) :
    (∀ s, Token s → (bearerRe alnum).matchAt prev (a ++ w :: s) =
      some (s.dropWhile tokenCharacter, [])) ∨
    ∃ m : Option (List Char), (∀ rest, m = some rest → rest ≠ [] ∧ rest.length ≤ a.length) ∧
      ∀ s, Token s →
        (bearerRe alnum).matchAt prev (a ++ w :: s) = m.map fun rest => (rest ++ s, []) := by
  have hhead (s : List Char) : atBoundary alnum prev (a ++ w :: s) =
      atBoundary alnum prev (a ++ [w]) := by
    cases a with
    | nil => rfl
    | cons c a => rfl
  have hnone (h : ∀ s, Token s → (bearerRe alnum).matchAt prev (a ++ w :: s) = none) :
      ∃ m : Option (List Char), (∀ rest, m = some rest → rest ≠ [] ∧ rest.length ≤ a.length) ∧
        ∀ s, Token s →
          (bearerRe alnum).matchAt prev (a ++ w :: s) = m.map fun rest => (rest ++ s, []) :=
    ⟨none, fun rest hrest => (by cases hrest), fun s hs => h s hs⟩
  by_cases hboundary : atBoundary alnum prev (a ++ [w]) = true
  swap
  · refine .inr (hnone fun s hs => ?_)
    rw [bearer_matchAt, hhead, if_neg hboundary]
  by_cases hword : ∃ word b, a = word ++ b ∧ word.map ignoreCase = "bearer".toList
  swap
  · refine .inr (hnone fun s hs => ?_)
    by_contra h
    obtain ⟨x, hx⟩ := Option.ne_none_iff_exists'.mp h
    obtain ⟨word, s', hsplit, hfold, -⟩ := bearer_some hx
    rcases List.append_eq_append_iff.mp hsplit with ⟨c, hc, hrest⟩ | ⟨c, hc, -⟩
    · cases c with
      | nil => exact hword ⟨word, [], by rw [hc, List.append_nil, List.append_nil], hfold⟩
      | cons d c =>
        have hd : w = d := (List.cons.inj hrest).1
        have hmem : w ∈ word := by
          rw [hc, hd]
          exact List.mem_append_right _ List.mem_cons_self
        have hspace := not_mem_folded (by decide) hfold w hmem
        rw [hw] at hspace
        cases hspace
    · exact hword ⟨word, c, hc, hfold⟩
  obtain ⟨word, b, rfl, hfold⟩ := hword
  have hrun (s : List Char) : (bearerRe alnum).matchAt prev (word ++ b ++ w :: s) =
      (plus (set isPySpace)).run ((plus (set tokenCharacter)).run finish) (behind prev word)
        (b ++ w :: s) [] := by
    rw [bearer_matchAt, hhead, if_pos hboundary, ← hfold, List.append_assoc, run_literal]
  -- what is left behind the white space
  obtain ⟨d, hd⟩ : ∃ d, d = (b ++ [w]).dropWhile isPySpace := ⟨_, rfl⟩
  have hsuffix : d <:+ b ++ [w] := hd ▸ List.dropWhile_suffix _
  have hdrop (s : List Char) (hs : Token s) : (b ++ w :: s).dropWhile isPySpace = d ++ s := by
    obtain ⟨c, s', rfl, hc⟩ := hs
    have hstop : (c :: s').dropWhile isPySpace = c :: s' :=
      List.dropWhile_cons_of_neg (by rw [token_space hc]; decide)
    rw [show b ++ w :: c :: s' = (b ++ [w]) ++ c :: s' by simp, List.dropWhile_append, ← hd, hstop]
    cases d with
    | nil => rfl
    | cons e d => rfl
  by_cases hlength : d.length < (b ++ [w]).length
  swap
  · refine .inr (hnone fun s hs => ?_)
    rw [hrun]
    by_contra h
    obtain ⟨x, hx⟩ := Option.ne_none_iff_exists'.mp h
    obtain ⟨t, s', hsplit, hnil, ht, -⟩ := run_plus_set_some hx
    refine hlength ?_
    cases t with
    | nil => exact absurd rfl hnil
    | cons c t =>
      have hspace := ht c List.mem_cons_self
      cases b with
      | nil =>
        rw [hd, List.nil_append, List.dropWhile_cons_of_pos hw]
        exact Nat.succ_pos _
      | cons e b =>
        have he : e = c := (List.cons.inj hsplit).1
        rw [hd, List.cons_append, List.dropWhile_cons_of_pos (he ▸ hspace), List.length_cons]
        exact Nat.lt_succ_of_le (List.dropWhile_suffix _).length_le
  have hskip (s : List Char) (hs : Token s) :
      (bearerRe alnum).matchAt prev (word ++ b ++ w :: s) =
        (plus (set tokenCharacter)).run finish
          (behind (behind prev word) ((b ++ w :: s).takeWhile isPySpace)) (d ++ s) [] := by
    rw [hrun, run_space, hdrop s hs]
    rw [hdrop s hs]
    simp only [List.length_append, List.length_cons, List.length_nil] at hlength ⊢
    omega
  by_cases hnil : d = []
  · left
    intro s hs
    rw [hskip s hs, hnil, List.nil_append, run_token hs]
  have hmem : w ∈ d := mem_of_suffix hsuffix hnil
  by_cases htoken : Token d
  swap
  · refine .inr (hnone fun s hs => ?_)
    rw [hskip s hs]
    refine run_token_none fun h => htoken ?_
    obtain ⟨c, s', hsplit, hc⟩ := h
    cases d with
    | nil => exact absurd rfl hnil
    | cons e d => exact ⟨e, d, rfl, (List.cons.inj hsplit).1 ▸ hc⟩
  have hleft : d.dropWhile tokenCharacter ≠ [] := by
    intro h
    have hall := List.dropWhile_eq_nil_iff.mp h w hmem
    rw [space_token hw] at hall
    cases hall
  refine .inr ⟨some (d.dropWhile tokenCharacter), fun rest hrest => ?_, fun s hs => ?_⟩
  · cases hrest
    have hle := (List.dropWhile_suffix (l := d) tokenCharacter).length_le
    refine ⟨hleft, ?_⟩
    simp only [List.length_append, List.length_cons, List.length_nil] at hlength ⊢
    omega
  · obtain ⟨c, s', hsplit, hc⟩ := htoken
    rw [hskip s hs, run_token ⟨c, s' ++ s, by rw [hsplit]; rfl, hc⟩, List.dropWhile_append,
      if_neg (by rw [List.isEmpty_iff]; exact hleft)]
    rfl

theorem pieces_bearer_hit (prev : Option Char) (hs : t ≠ [])
    (h : (bearerRe alnum).matchAt prev (t ++ s) = some (s.dropWhile tokenCharacter, [])) :
    (bearerRe alnum).pieces prev 0 (t ++ s) =
      .hit (t ++ s.takeWhile tokenCharacter) [] ::
        (bearerRe alnum).pieces (behind (behind prev t) (s.takeWhile tokenCharacter)) 0
          (s.dropWhile tokenCharacter) := by
  have hsplit : t ++ s = (t ++ s.takeWhile tokenCharacter) ++ s.dropWhile tokenCharacter := by
    rw [List.append_assoc, List.takeWhile_append_dropWhile]
  rw [hsplit] at h ⊢
  rw [pieces_hit (fun hnil => hs (List.append_eq_nil_iff.mp hnil).1) h, behind_append]

variable (alnum) in
/-- a text that ends in white space is cut into pieces whatever token follows, or its last match
goes on with the token -/
theorem bearer_front (hw : isPySpace w = true) (a : List Char) :
    ∀ (prev : Option Char) (skip : Nat), skip ≤ a.length →
      (∃ Q, ∀ s, Token s → (bearerRe alnum).pieces prev skip (a ++ w :: s) =
        Q ++ .copy w :: (bearerRe alnum).pieces (some w) 0 s) ∨
      ∃ Q text last, ∀ s, Token s → (bearerRe alnum).pieces prev skip (a ++ w :: s) =
        Q ++ .hit (text ++ s.takeWhile tokenCharacter) [] ::
          (bearerRe alnum).pieces (behind last (s.takeWhile tokenCharacter)) 0
            (s.dropWhile tokenCharacter) := by
  induction a with
  | nil =>
    intro prev skip hskip
    refine .inl ⟨[], fun s hs => ?_⟩
    rw [Nat.le_zero.mp hskip, List.nil_append, pieces, bearer_space hw]
    rfl
  | cons c a ih =>
    intro prev skip hskip
    cases skip with
    | succ skip =>
      rcases ih (some c) skip (Nat.le_of_succ_le_succ hskip) with ⟨Q, hQ⟩ | ⟨Q, text, last, hQ⟩
      · exact .inl ⟨Q, fun s hs => hQ s hs⟩
      · exact .inr ⟨Q, text, last, fun s hs => hQ s hs⟩
    | zero =>
      rcases bearer_before alnum hw prev (c :: a) with hopen | ⟨m, hm, hmatch⟩
      · refine .inr ⟨[], c :: a ++ [w], behind prev (c :: a ++ [w]), fun s hs => ?_⟩
        have hs' := hopen s hs
        rw [show c :: a ++ w :: s = (c :: a ++ [w]) ++ s by simp] at hs' ⊢
        rw [pieces_bearer_hit (t := c :: a ++ [w]) prev (by simp) hs']
        rfl
      · cases m with
        | none =>
          have hstep (s : List Char) (hs : Token s) :
              (bearerRe alnum).pieces prev 0 (c :: a ++ w :: s) =
                .copy c :: (bearerRe alnum).pieces (some c) 0 (a ++ w :: s) := by
            have hs' := hmatch s hs
            rw [List.cons_append] at hs' ⊢
            rw [pieces, hs']
            rfl
          rcases ih (some c) 0 (Nat.zero_le _) with ⟨Q, hQ⟩ | ⟨Q, text, last, hQ⟩
          · exact .inl ⟨.copy c :: Q, fun s hs => by rw [hstep s hs, hQ s hs]; rfl⟩
          · exact .inr ⟨.copy c :: Q, text, last, fun s hs => by rw [hstep s hs, hQ s hs]; rfl⟩
        | some rest =>
          obtain ⟨hrest, hle⟩ := hm rest rfl
          have hpos : 0 < rest.length := List.length_pos_iff.mpr hrest
          rw [List.length_cons] at hle
          have hstep (s : List Char) (hs : Token s) :
              (bearerRe alnum).pieces prev 0 (c :: a ++ w :: s) =
                .hit ((c :: a ++ [w]).take (a.length + 2 - rest.length)) [] ::
                  (bearerRe alnum).pieces (some c) (a.length + 1 - rest.length) (a ++ w :: s) := by
            have hs' := hmatch s hs
            have hlength : (a ++ w :: s).length = a.length + 1 + s.length := by
              rw [List.length_append, List.length_cons]
              omega
            have hrest' : (rest ++ s).length = rest.length + s.length := List.length_append
            have htake : (c :: (a ++ w :: s)).take (a.length + 2 - rest.length) =
                (c :: a ++ [w]).take (a.length + 2 - rest.length) := by
              rw [show c :: (a ++ w :: s) = (c :: a ++ [w]) ++ s by simp]
              refine List.take_append_of_le_length ?_
              simp only [List.length_append, List.length_cons, List.length_nil]
              omega
            rw [List.cons_append] at hs' ⊢
            rw [pieces, hs']
            show (if (rest ++ s).length ≤ (a ++ w :: s).length then _ else _) = _
            rw [if_pos (by omega), hlength, hrest',
              show a.length + 1 + s.length + 1 - (rest.length + s.length) =
                a.length + 2 - rest.length by omega,
              show a.length + 1 + s.length - (rest.length + s.length) =
                a.length + 1 - rest.length by omega, htake]
          rcases ih (some c) (a.length + 1 - rest.length) (by omega) with
            ⟨Q, hQ⟩ | ⟨Q, text, last, hQ⟩
          · exact .inl ⟨.hit _ [] :: Q, fun s hs => by rw [hstep s hs, hQ s hs]; rfl⟩
          · exact .inr ⟨.hit _ [] :: Q, text, last, fun s hs => by rw [hstep s hs, hQ s hs]; rfl⟩

/-- a text that is empty or ends in white space -/
def Ended (s : List Char) : Prop := s = [] ∨ ∃ a w, s = a ++ [w] ∧ isPySpace w = true

end

/-- the text, followed by a token, ends in a match of `bearer` -/
def opensBearer (alnum : Char → Bool) (pre : List Char) : Bool :=
  match ((bearerRe alnum).pieces none 0 (pre ++ ['x'])).getLast? with
  | some (.hit _ _) => true
  | _ => false

example : opensBearer (fun _ => false) "Authorization: Bearer ".toList = true := by decide +kernel
example : opensBearer (fun _ => false) "bearer bearer ".toList = false := by decide +kernel

section
variable {alnum : Char → Bool} {pre s : List Char}

def bearerText (alnum : Char → Bool) (prev : Option Char) (s : List Char) : List Char :=
  ((bearerRe alnum).pieces prev 0 s).flatMap (render fun _ _ => "Bearer [REDACTED]".toList)

variable (alnum) in
theorem redactBearer_front (hpre : Ended pre) : ∃ front, Ended front ∧
    (opensBearer alnum pre = false ∧ (∃ last, ∀ s, Token s →
      redactBearer alnum (pre ++ s) = front ++ bearerText alnum last s) ∨
    opensBearer alnum pre = true ∧ ∃ last, ∀ s, Token s →
      redactBearer alnum (pre ++ s) = front ++ ("[REDACTED]".toList ++
        bearerText alnum (behind last (s.takeWhile tokenCharacter))
          (s.dropWhile tokenCharacter))) := by
  have hx : Token ['x'] := ⟨'x', [], rfl, by decide⟩
  rcases hpre with rfl | ⟨a, w, rfl, hw⟩
  · refine ⟨[], .inl rfl, .inl ⟨?_, none, fun s hs => rfl⟩⟩
    unfold opensBearer
    rw [List.nil_append, pieces, bearer_first (by decide), pieces_nil]
    rfl
  · rcases bearer_front alnum hw a none 0 (Nat.zero_le _) with
      ⟨Q, hQ⟩ | ⟨Q, text, last, hQ⟩
    · refine ⟨Q.flatMap (render fun _ _ => "Bearer [REDACTED]".toList) ++ [w], .inr ⟨_, w, rfl, hw⟩,
        .inl ⟨?_, some w, fun s hs => ?_⟩⟩
      · have hlast : (bearerRe alnum).pieces none 0 (a ++ [w] ++ ['x']) =
            (Q ++ [.copy w]) ++ [.copy 'x'] := by
          rw [List.append_assoc, show [w] ++ ['x'] = w :: ['x'] from rfl, hQ _ hx, pieces,
            bearer_first (by decide), pieces_nil, List.append_assoc]
          rfl
        unfold opensBearer
        rw [hlast, List.getLast?_concat]
      · unfold redactBearer sub bearerText
        rw [List.append_assoc, List.singleton_append, hQ s hs, List.flatMap_append,
          List.flatMap_cons, List.append_assoc]
        rfl
    · refine ⟨Q.flatMap (render fun _ _ => "Bearer [REDACTED]".toList) ++ "Bearer ".toList,
        .inr ⟨_ ++ "Bearer".toList, ' ', by rw [List.append_assoc]; rfl, by decide⟩,
        .inr ⟨?_, last, fun s hs => ?_⟩⟩
      · have hlast : (bearerRe alnum).pieces none 0 (a ++ [w] ++ ['x']) =
            Q ++ [.hit (text ++ ['x'].takeWhile tokenCharacter) []] := by
          rw [List.append_assoc, show [w] ++ ['x'] = w :: ['x'] from rfl, hQ _ hx,
            show ['x'].dropWhile tokenCharacter = [] from rfl, pieces_nil]
        unfold opensBearer
        rw [hlast, List.getLast?_concat]
      · unfold redactBearer sub bearerText
        rw [List.append_assoc, List.singleton_append, hQ s hs, List.flatMap_append,
          List.flatMap_cons, List.append_assoc]
        rfl

end

/-! ## matches of a URL -/

section
variable {alnum : Char → Bool} {c w : Char} {prev : Option Char} {s : List Char}

def credentials : Cont (List Char × Groups) :=
  (plus (set userCharacter)).run ((set (· == ':')).run ((plus (set passwordCharacter)).run
    ((set (· == '@')).run finish)))

theorem url_matchAt : (urlCredentialRe alnum).matchAt prev s =
    if atBoundary alnum prev s = true then
      (set schemeStart).run ((star (set schemeCharacter)).run
        ((literal ignoreCase "://".toList).run fun prev' s' groups =>
          credentials prev' s' ((1, s.take (s.length - s'.length)) :: groups))) prev s []
    else none := rfl

theorem folded_mark {mark : List Char} (h : mark.map ignoreCase = "://".toList) :
    mark = "://".toList := by
  have hlist : mark.map ignoreCase = [':', '/', '/'] := h
  obtain ⟨a, rest, rfl, ha, hrest⟩ := List.map_eq_cons_iff.mp hlist
  obtain ⟨b, rest, rfl, hb, hrest⟩ := List.map_eq_cons_iff.mp hrest
  obtain ⟨d, rest, rfl, hd, hrest⟩ := List.map_eq_cons_iff.mp hrest
  have hcolon : a = ':' := ignoreCase_small (by decide) ha
  have hslash : b = '/' := ignoreCase_small (by decide) hb
  have hslash' : d = '/' := ignoreCase_small (by decide) hd
  rw [List.map_eq_nil_iff.mp hrest, hcolon, hslash, hslash']
  rfl

theorem url_some {x : List Char × Groups} (h : (urlCredentialRe alnum).matchAt prev s = some x) :
    ∃ scheme user password rest, s = scheme ++ ("://".toList ++ (user ++ ':' :: (password ++
        '@' :: rest))) ∧
      (∃ d t, scheme = d :: t ∧ schemeStart d = true) ∧ (∀ d ∈ scheme, schemeCharacter d = true) ∧
      user ≠ [] ∧ ∀ d ∈ user, userCharacter d = true := by
  rw [url_matchAt] at h
  split at h
  swap
  · cases h
  obtain ⟨d, s₁, rfl, hd, h⟩ := run_set_some h
  obtain ⟨t, s₂, rfl, ht, h⟩ := run_star_set_some h
  obtain ⟨mark, s₃, rfl, hmark, h⟩ := run_literal_some h
  obtain ⟨user, s₄, rfl, hnil, huser, h⟩ := run_plus_set_some h
  obtain ⟨colon, s₅, rfl, hcolon, h⟩ := run_set_some h
  obtain ⟨password, s₆, rfl, -, -, h⟩ := run_plus_set_some h
  obtain ⟨at', rest, rfl, hat, h⟩ := run_set_some h
  refine ⟨d :: t, user, password, rest, ?_, ⟨d, t, rfl, hd⟩, ?_, hnil, huser⟩
  · rw [folded_mark hmark, beq_iff_eq.mp hcolon, beq_iff_eq.mp hat]
    rfl
  · refine List.forall_mem_cons.mpr ⟨?_, ht⟩
    unfold schemeCharacter
    rw [hd]
    rfl

theorem url_first (hc : schemeStart c = false) :
    (urlCredentialRe alnum).matchAt prev (c :: s) = none := by
  by_contra h
  obtain ⟨x, hx⟩ := Option.ne_none_iff_exists'.mp h
  obtain ⟨_, _, _, _, hs, ⟨d, t, rfl, hd⟩, -⟩ := url_some hx
  have hcd : c = d := (List.cons.inj hs).1
  rw [hcd, hd] at hc
  cases hc

theorem url_no_at (hs : '@' ∉ s) : (urlCredentialRe alnum).matchAt prev s = none := by
  by_contra h
  obtain ⟨x, hx⟩ := Option.ne_none_iff_exists'.mp h
  obtain ⟨_, _, _, _, rfl, -⟩ := url_some hx
  exact hs (by simp)

theorem schemeCharacter_colon : ¬ schemeCharacter ':' = true := by decide

theorem url_userless {scheme : List Char} (hscheme : ∀ d ∈ scheme, schemeCharacter d = true) :
    (urlCredentialRe alnum).matchAt prev (scheme ++ ("://:".toList ++ s)) = none := by
  by_contra h
  obtain ⟨x, hx⟩ := Option.ne_none_iff_exists'.mp h
  obtain ⟨scheme', user, password, rest, hs, -, hscheme', hnil, huser⟩ := url_some hx
  obtain ⟨-, htail⟩ := Words.cut_at (fun hm => schemeCharacter_colon (hscheme _ hm))
    (fun hm => schemeCharacter_colon (hscheme' _ hm)) hs
  cases user with
  | nil => exact hnil rfl
  | cons d user =>
    have hd : ':' = d := (List.cons.inj (List.cons.inj (List.cons.inj htail).2).2).1
    have hcolon := huser d List.mem_cons_self
    rw [← hd] at hcolon
    exact absurd hcolon (by decide)

theorem url_no_slash {b : List Char} (hslash : '/' ∉ b) (hc : schemeCharacter c = false)
    (hcolon : c ≠ ':') (hlast : ∃ b', b = b' ++ [c]) :
    (urlCredentialRe alnum).matchAt prev (b ++ s) = none := by
  by_contra h
  obtain ⟨x, hx⟩ := Option.ne_none_iff_exists'.mp h
  obtain ⟨scheme, user, password, rest, hs, -, hscheme, -⟩ := url_some hx
  obtain ⟨b', rfl⟩ := hlast
  rcases List.append_eq_append_iff.mp hs with ⟨t, ht, -⟩ | ⟨t, ht, htail⟩
  · have hmem : c ∈ scheme := by
      rw [ht]
      simp
    rw [hscheme c hmem] at hc
    cases hc
  · -- behind the scheme comes a colon, then a slash
    cases t with
    | nil =>
      have hmem : c ∈ scheme := by
        rw [← List.append_nil scheme, ← ht]
        simp
      rw [hscheme c hmem] at hc
      cases hc
    | cons d t =>
      have hd : ':' = d := (List.cons.inj htail).1
      have htail' : "//".toList ++ (user ++ ':' :: (password ++ '@' :: rest)) = t ++ s :=
        (List.cons.inj htail).2
      cases t with
      | nil =>
        have hlast : c = d := by
          have := congrArg List.getLast? ht
          rwa [List.getLast?_concat, List.getLast?_concat, Option.some_inj] at this
        exact hcolon (hlast.trans hd.symm)
      | cons e t =>
        have he : '/' = e := (List.cons.inj htail').1
        refine hslash ?_
        rw [ht, he]
        simp

theorem space_scheme (hw : isPySpace w = true) : schemeCharacter w = false := by
  have hcases := space_cases hw
  have hstart : schemeStart w = false := by
    rw [Bool.eq_false_iff]
    intro h
    unfold schemeStart at h
    rw [space_folded hw] at h
    have hlower : (decide (w.val ≥ 97) && decide (w.val ≤ 122)) = true := h
    rw [Bool.and_eq_true, decide_eq_true_eq, decide_eq_true_eq] at hlower
    have hlow : 97 ≤ w.toNat := UInt32.le_iff_toNat_le.mp hlower.1
    have hhigh : w.toNat ≤ 122 := UInt32.le_iff_toNat_le.mp hlower.2
    omega
  have hdigit : w.isDigit = false := by
    rw [Bool.eq_false_iff]
    intro h
    obtain ⟨hlow, hhigh⟩ := Char.isDigit_iff_toNat.mp h
    have h0 : '0'.toNat = 48 := rfl
    have h9 : '9'.toNat = 57 := rfl
    omega
  have hne {d : Char} (hd : isPySpace d = false) : (w == d) = false := by
    rw [beq_eq_false_iff_ne]
    intro heq
    rw [heq, hd] at hw
    cases hw
  unfold schemeCharacter
  rw [hstart, hdigit, hne (by decide), hne (by decide), hne (by decide)]
  rfl

theorem unread_url (hw : isPySpace w = true) : (urlCredentialRe alnum).Unread w := by
  have hword : wordCharacter alnum w = false := by
    unfold wordCharacter
    rw [hw]
    rfl
  have hne {d : Char} (hd : isPySpace d = false) : w ≠ d := by
    intro heq
    rw [heq, hd] at hw
    cases hw
  have hstart : schemeStart w = false := by
    have := space_scheme hw
    unfold schemeCharacter at this
    simp only [Bool.or_eq_false_iff] at this
    exact this.1.1.1.1
  have hmark : (literal ignoreCase "://".toList).Unread w := by
    refine unread_literal fun d hd => ?_
    rw [space_folded hw]
    refine hne ?_
    have hall : ("://".toList.all fun e => !isPySpace e) = true := by decide
    rw [← Bool.not_eq_true']
    exact List.all_eq_true.mp hall d hd
  have huser : userCharacter w = false := by
    unfold userCharacter
    rw [hw]
    rfl
  have hpassword : passwordCharacter w = false := by
    unfold passwordCharacter
    rw [hw]
    rfl
  exact ⟨unread_wordBoundary hword, ⟨hstart, space_scheme hw, hmark⟩, ⟨huser, huser⟩,
    beq_eq_false_iff_ne.mpr (hne (by decide)), ⟨hpassword, hpassword⟩,
    beq_eq_false_iff_ne.mpr (hne (by decide))⟩

theorem run_plus_until {ρ : Type} {p : Char → Bool} {e : Char} {k : Cont ρ} {t : List Char}
    {g : Groups} (hnil : t ≠ []) (ht : ∀ d ∈ t, p d = true) (he : p e = false) :
    (plus (set p)).run ((set (· == e)).run k) prev (t ++ e :: s) g = k (some e) s g := by
  have hne {d : Char} (hd : p d = true) : (d == e) = false := by
    rw [beq_eq_false_iff_ne]
    intro heq
    rw [heq, he] at hd
    cases hd
  cases t with
  | nil => exact absurd rfl hnil
  | cons d t =>
    rw [List.forall_mem_cons] at ht
    show (set p).run ((star (set p)).run ((set (· == e)).run k)) prev (d :: (t ++ e :: s)) g = _
    rw [run_set_cons ht.1, run_star_set ht.2 _ fun prev d s' g hd => ?_]
    · exact run_set_cons (p := (· == e)) (beq_self_eq_true e)
    · intro d s' heq
      rw [← (List.cons.inj heq).1]
      exact he
    · show (set (· == e)).run k prev (d :: s') g = none
      rw [run_set_none (p := (· == e)) (hne hd)]

theorem url_match {d : Char} {t user password : List Char}
    (hboundary : atBoundary alnum prev (d :: t) = true) (hd : schemeStart d = true)
    (ht : ∀ e ∈ t, schemeCharacter e = true) (huser : user ≠ [])
    (huser' : ∀ e ∈ user, userCharacter e = true) (hpassword : password ≠ [])
    (hpassword' : ∀ e ∈ password, passwordCharacter e = true) :
    (urlCredentialRe alnum).matchAt prev
        (d :: (t ++ ("://".toList ++ (user ++ ':' :: (password ++ '@' :: s))))) =
      some (s, [(1, d :: t ++ "://".toList)]) := by
  obtain ⟨tail, htail⟩ : ∃ tail, tail = user ++ ':' :: (password ++ '@' :: s) := ⟨_, rfl⟩
  have hgroup : (d :: (t ++ ("://".toList ++ tail))).take
      ((d :: (t ++ ("://".toList ++ tail))).length - tail.length) = d :: t ++ "://".toList := by
    rw [show d :: (t ++ ("://".toList ++ tail)) = (d :: t ++ "://".toList) ++ tail by simp,
      List.length_append, Nat.add_sub_cancel, List.take_left]
  have hcredentials (prev : Option Char) (groups : Groups) :
      credentials prev tail groups = some (s, groups) := by
    unfold credentials
    rw [htail, run_plus_until huser huser' (by decide),
      run_plus_until hpassword hpassword' (by decide)]
    rfl
  have hmark (k : Cont (List Char × Groups)) (prev : Option Char) :
      (literal ignoreCase "://".toList).run k prev ("://".toList ++ tail) [] =
        k (behind prev "://".toList) tail [] := by
    have hfold : "://".toList.map ignoreCase = "://".toList := by decide
    calc (literal ignoreCase "://".toList).run k prev ("://".toList ++ tail) []
        = (literal ignoreCase ("://".toList.map ignoreCase)).run k prev ("://".toList ++ tail) [] :=
          by rw [hfold]
      _ = k (behind prev "://".toList) tail [] := run_literal _
  have hboundary' : atBoundary alnum prev (d :: (t ++ ("://".toList ++ tail))) = true := hboundary
  rw [← htail, url_matchAt, if_pos hboundary', run_set_cons hd,
    run_star_set ht _ fun prev e s' g he => ?_]
  · rw [hmark, hgroup, hcredentials]
  · intro e s' heq
    have he : ':' = e := (List.cons.inj heq).1
    rw [← he]
    exact Bool.eq_false_iff.mpr schemeCharacter_colon
  · show (set fun f => ignoreCase f == ':').run _ prev (e :: s') g = none
    rw [run_set_none (p := fun f => ignoreCase f == ':')]
    rw [beq_eq_false_iff_ne]
    intro hcolon
    rw [ignoreCase_small (by decide) hcolon] at he
    exact schemeCharacter_colon he

end

/-! ## a text around a URL -/

/-- a text with a URL, up to its password and from its `@` on -/
structure UrlInText where
  pre : List Char
  scheme : List Char
  user : List Char
  rest : List Char
  pre_ended : Ended pre
  scheme_start : ∃ c t, scheme = c :: t ∧ schemeStart c = true
  scheme_form : ∀ c ∈ scheme, c.toNat < 128 ∧ schemeCharacter c = true
  user_form : ∀ c ∈ user, userCharacter c = true

namespace UrlInText

/-- `scheme://user:` -/
def opening (u : UrlInText) : List Char := u.scheme ++ ("://".toList ++ (u.user ++ [':']))

def start (u : UrlInText) : Nat := (u.pre ++ u.opening).length

def text (u : UrlInText) (password : List Char) : String :=
  String.ofList (u.pre ++ (u.opening ++ (password ++ '@' :: u.rest)))

end UrlInText

/-- a password of `n` characters -/
def Password (n : Nat) (password : List Char) : Prop :=
  password.length = n ∧ ∀ c ∈ password, userCharacter c = true

section
variable {alnum : Char → Bool} {c w : Char} {prev : Option Char} {s t : List Char}

/-- a character that ends a token: a comma or a semicolon -/
def Stop (c : Char) : Prop := c = ',' ∨ c = ';'

def urlText (alnum : Char → Bool) (prev : Option Char) (s : List Char) : List Char :=
  ((urlCredentialRe alnum).pieces prev 0 s).flatMap
    (render fun _ groups => groupText groups 1 ++ "[REDACTED]@".toList)

variable (alnum) in
theorem redactUrl_front {front : List Char} (h : Ended front) : ∃ front' last,
    (∀ w ∈ last, isPySpace w = true) ∧
      ∀ s, redactUrl alnum (front ++ s) = front' ++ urlText alnum last s := by
  rcases h with rfl | ⟨a, w, rfl, hw⟩
  · exact ⟨[], none, (fun w hw => by cases hw), fun s => rfl⟩
  · refine ⟨urlText alnum none a ++ [w], some w, (fun w' hw' => by cases hw'; exact hw),
      fun s => ?_⟩
    unfold redactUrl sub urlText
    rw [List.append_assoc, List.singleton_append,
      pieces_barrier (unread_url hw) a s none 0 (Nat.zero_le _), List.flatMap_append,
      List.flatMap_cons, List.append_assoc]
    rfl

variable (alnum prev) in
theorem bearerText_copies
    (h : ∀ a b, t = a ++ b → b ≠ [] → (bearerRe alnum).matchAt (behind prev a) (b ++ s) = none) :
    bearerText alnum prev (t ++ s) = t ++ bearerText alnum (behind prev t) s := by
  unfold bearerText
  rw [pieces_copies h, List.flatMap_append, render_copies]

variable (alnum prev) in
theorem urlText_copies
    (h : ∀ a b, t = a ++ b → b ≠ [] →
      (urlCredentialRe alnum).matchAt (behind prev a) (b ++ s) = none) :
    urlText alnum prev (t ++ s) = t ++ urlText alnum (behind prev t) s := by
  unfold urlText
  rw [pieces_copies h, List.flatMap_append, render_copies]

theorem bearer_no_space (hs : ∀ d ∈ s, isPySpace d = false) :
    (bearerRe alnum).matchAt prev s = none := by
  by_contra h
  obtain ⟨x, hx⟩ := Option.ne_none_iff_exists'.mp h
  obtain ⟨word, s', rfl, -, hspace⟩ := bearer_some hx
  obtain ⟨t, s'', rfl, hnil, ht, -⟩ := run_plus_set_some hspace
  cases t with
  | nil => exact hnil rfl
  | cons d t =>
    have hd := hs d (by simp)
    rw [ht d List.mem_cons_self] at hd
    cases hd

theorem bearerText_no_space (hs : ∀ d ∈ s, isPySpace d = false) : bearerText alnum prev s = s := by
  have h := bearerText_copies alnum prev (t := s) (s := []) fun a b hab _ => by
    rw [List.append_nil]
    exact bearer_no_space fun d hd => hs d (hab ▸ List.mem_append_right a hd)
  rw [List.append_nil] at h
  rw [h]
  show s ++ ((bearerRe alnum).pieces _ 0 []).flatMap _ = s
  rw [pieces_nil, List.flatMap_nil, List.append_nil]

theorem bearer_at {b : List Char} (hb : ∀ d ∈ b, isPySpace d = false) :
    (bearerRe alnum).matchAt prev (b ++ '@' :: s) = none := by
  by_contra h
  obtain ⟨x, hx⟩ := Option.ne_none_iff_exists'.mp h
  obtain ⟨word, s', hs, hword, hspace⟩ := bearer_some hx
  have hat : '@' ∉ word := by
    intro hmem
    have : ignoreCase '@' ∈ "bearer".toList := hword ▸ List.mem_map_of_mem hmem
    exact absurd this (by decide)
  rcases List.append_eq_append_iff.mp hs with ⟨t, rfl, htail⟩ | ⟨t, rfl, rfl⟩
  · cases t with
    | nil =>
      rw [List.nil_append] at htail
      rw [← htail] at hspace
      obtain ⟨t, s'', heq, hnil, ht, -⟩ := run_plus_set_some hspace
      cases t with
      | nil => exact hnil rfl
      | cons d t =>
        have hd := ht d List.mem_cons_self
        rw [← (List.cons.inj heq).1] at hd
        exact absurd hd (by decide)
    | cons d t =>
      refine hat ?_
      rw [(List.cons.inj htail).1]
      simp
  · obtain ⟨t', s'', heq, hnil, ht, -⟩ := run_plus_set_some hspace
    cases t' with
    | nil => exact hnil rfl
    | cons d t' =>
      have hd := ht d List.mem_cons_self
      cases t with
      | nil =>
        rw [← (List.cons.inj heq).1] at hd
        exact absurd hd (by decide)
      | cons e t =>
        have he := hb e (by simp)
        rw [(List.cons.inj heq).1, hd] at he
        cases he

/-! ## what follows the password -/

def Tail (s : List Char) : Prop := s = [] ∨ ∃ s', s = '@' :: s'

variable (alnum) in
theorem bearerText_tail (h : Tail s) : Tail (bearerText alnum none s) ∧
    ∀ prev, bearerText alnum prev s = bearerText alnum none s := by
  rcases h with rfl | ⟨s, rfl⟩
  · refine ⟨.inl ?_, fun prev => ?_⟩
    · unfold bearerText
      rw [pieces_nil]
      rfl
    · unfold bearerText
      rw [pieces_nil, pieces_nil]
  · have hstep (prev : Option Char) :
        bearerText alnum prev ('@' :: s) = '@' :: bearerText alnum (some '@') s := by
      unfold bearerText
      rw [pieces, bearer_first (by decide)]
      rfl
    refine ⟨.inr ⟨_, hstep none⟩, fun prev => ?_⟩
    rw [hstep, hstep]

theorem urlText_tail (h : Tail s) : ∀ prev, urlText alnum prev s = urlText alnum none s := by
  intro prev
  rcases h with rfl | ⟨s, rfl⟩
  · unfold urlText
    rw [pieces_nil, pieces_nil]
  · have hstep (prev : Option Char) :
        urlText alnum prev ('@' :: s) = '@' :: urlText alnum (some '@') s := by
      unfold urlText
      rw [pieces, url_first (by decide)]
      rfl
    rw [hstep, hstep]

/-! ## a password of stops -/

theorem stop_facts (h : Stop c) : isPySpace c = false ∧ tokenCharacter c = false ∧
    userCharacter c = true ∧ schemeCharacter c = false ∧ ignoreCase c ≠ 'b' ∧ c ≠ ':' ∧ c ≠ '@' ∧
      c ≠ '/' := by
  rcases h with rfl | rfl <;> decide

theorem stop_word (h : Stop c) : wordCharacter alnum c = false := by
  rcases h with rfl | rfl <;> rfl

theorem unread_bearer (h : Stop c) : (bearerRe alnum).Unread c := by
  obtain ⟨hspace, htoken, -⟩ := stop_facts h
  have hliteral : (literal ignoreCase "bearer".toList).Unread c := by
    refine unread_literal fun d hd => ?_
    have hall : ("bearer".toList.all fun e =>
        ignoreCase ',' != e && ignoreCase ';' != e) = true := by decide
    have hd' := List.all_eq_true.mp hall d hd
    rw [Bool.and_eq_true, bne_iff_ne, bne_iff_ne] at hd'
    rcases h with rfl | rfl
    · exact hd'.1
    · exact hd'.2
  exact ⟨unread_wordBoundary (stop_word h), hliteral, ⟨hspace, hspace⟩, htoken, htoken⟩

theorem redactBearer_stops (h : Stop c) {m : Nat} (hm : 0 < m) (a : List Char) (hs : Tail s) :
    redactBearer alnum (a ++ (List.replicate m c ++ s)) =
      redactBearer alnum a ++ (List.replicate m c ++ bearerText alnum none s) := by
  obtain ⟨n, rfl⟩ : ∃ n, m = n + 1 := ⟨m - 1, by omega⟩
  have hcopies := bearerText_copies alnum (some c) (t := List.replicate n c) (s := s)
    fun a b hab hb => by
      cases b with
      | nil => exact absurd rfl hb
      | cons d b =>
        have hd : d = c := List.eq_of_mem_replicate (n := n) (by rw [hab]; simp)
        rw [hd]
        exact bearer_first (stop_facts h).2.2.2.2.1
  rw [(bearerText_tail alnum hs).2] at hcopies
  unfold redactBearer sub
  rw [List.replicate_succ, List.cons_append,
    pieces_barrier (unread_bearer h) a _ none 0 (Nat.zero_le _), List.flatMap_append,
    List.flatMap_cons]
  show _ ++ ([c] ++ bearerText alnum (some c) (List.replicate n c ++ s)) = _
  rw [hcopies]
  rfl

theorem urlText_stops {c : Char} {m : Nat} (hm : 0 < m) (last : Option Char) {a s : List Char}
    (hs : Tail s) (h : ∀ prev a' b, a ++ List.replicate m c = a' ++ b → b ≠ [] →
      (urlCredentialRe alnum).matchAt prev (b ++ s) = none) :
    urlText alnum last (a ++ (List.replicate m c ++ s)) =
      a ++ (List.replicate m c ++ urlText alnum none s) := by
  have hcopies := urlText_copies alnum last (t := a ++ List.replicate m c) (s := s)
    fun a' b hab hb => h _ a' b hab hb
  rw [urlText_tail hs, List.append_assoc, List.append_assoc] at hcopies
  exact hcopies

theorem unread_keyValue : (keyValueSecretRe alnum).Unread ',' := by
  have hliteral (u : List Char) (hu : (u.all fun e => ignoreCase ',' != e) = true) :
      (literal ignoreCase u).Unread ',' := unread_literal fun d hd =>
    bne_iff_ne.mp (List.all_eq_true.mp hu d hd)
  exact ⟨unread_wordBoundary rfl, ⟨hliteral _ (by decide), hliteral _ (by decide),
    hliteral _ (by decide), ⟨hliteral _ (by decide), ⟨rfl, trivial⟩, hliteral _ (by decide)⟩,
    hliteral _ (by decide)⟩, rfl, rfl, rfl, rfl, rfl⟩

theorem count_redactKeyValue (s : List Char) :
    (redactKeyValue alnum s).count ',' = s.count ',' := by
  refine count_sub unread_keyValue (fun text groups htext hgroups => ?_) s
  have hgroup (i : Nat) : ',' ∉ groupText groups i := by
    unfold groupText
    cases hlookup : groups.lookup i with
    | none => exact List.not_mem_nil
    | some t =>
      obtain ⟨l₁, l₂, heq, -⟩ := List.lookup_eq_some_iff.mp hlookup
      exact hgroups (i, t) (by rw [heq]; simp)
  rw [List.mem_append, List.mem_append, not_or, not_or]
  exact ⟨⟨hgroup 1, hgroup 2⟩, by decide⟩

/-! ## the URL -/

variable {u : UrlInText}

theorem scheme_facts {d : Char} (h : d.toNat < 128 ∧ schemeCharacter d = true) :
    tokenCharacter d = true ∧ d ≠ '@' ∧ d ≠ '/' ∧
      (schemeStart d = true → ∀ alnum, wordCharacter alnum d = true) := by
  have hall : ((List.range 128).all fun n => !schemeCharacter (Char.ofNat n) ||
      (tokenCharacter (Char.ofNat n) && Char.ofNat n != '@' && Char.ofNat n != '/' &&
        (!schemeStart (Char.ofNat n) || (!isPySpace (Char.ofNat n) &&
          ((Char.ofNat n).isAlphanum || Char.ofNat n == '_'))))) = true := by decide +kernel
  have hd := List.all_eq_true.mp hall d.toNat (List.mem_range.mpr h.1)
  rw [Char.ofNat_toNat, h.2] at hd
  simp only [Bool.not_true, Bool.false_or, Bool.and_eq_true, bne_iff_ne] at hd
  refine ⟨hd.1.1.1, hd.1.1.2, hd.1.2, fun hstart alnum => ?_⟩
  rw [hstart] at hd
  unfold wordCharacter isWordCharacter
  rw [if_pos h.1]
  exact hd.2

theorem user_facts {d : Char} (h : userCharacter d = true) :
    isPySpace d = false ∧ d ≠ '/' ∧ d ≠ '@' ∧ d ≠ ':' ∧ passwordCharacter d = true := by
  unfold userCharacter at h
  simp only [Bool.and_eq_true, bne_iff_ne, Bool.not_eq_true'] at h
  obtain ⟨⟨⟨hspace, hslash⟩, hat⟩, hcolon⟩ := h
  refine ⟨hspace, hslash, hat, hcolon, ?_⟩
  unfold passwordCharacter
  simp only [Bool.and_eq_true, bne_iff_ne, Bool.not_eq_true']
  exact ⟨⟨hspace, hslash⟩, hat⟩

theorem opening_token (u : UrlInText) (s : List Char) : Token (u.opening ++ s) := by
  obtain ⟨c, t, hscheme, -⟩ := u.scheme_start
  refine ⟨c, t ++ ("://".toList ++ (u.user ++ [':'])) ++ s, ?_, ?_⟩
  · unfold UrlInText.opening
    rw [hscheme]
    rfl
  · exact (scheme_facts (u.scheme_form c (by rw [hscheme]; exact List.mem_cons_self))).1

theorem opening_no_space (u : UrlInText) : ∀ d ∈ u.opening, isPySpace d = false := by
  intro d hd
  unfold UrlInText.opening at hd
  simp only [List.mem_append, List.mem_singleton] at hd
  rcases hd with hd | hd | hd | rfl
  · exact token_space (scheme_facts (u.scheme_form d hd)).1
  · have hall : ("://".toList.all fun e => !isPySpace e) = true := by decide
    exact (Bool.not_eq_true' _).mp (List.all_eq_true.mp hall d hd)
  · exact (user_facts (u.user_form d hd)).1
  · decide

theorem opening_no_at (u : UrlInText) : '@' ∉ u.opening := by
  intro hd
  unfold UrlInText.opening at hd
  simp only [List.mem_append, List.mem_singleton] at hd
  rcases hd with hd | hd | hd | hd
  · exact (scheme_facts (u.scheme_form _ hd)).2.1 rfl
  · exact absurd hd (by decide)
  · exact (user_facts (u.user_form _ hd)).2.2.1 rfl
  · cases hd

theorem opening_no_slash (u : UrlInText) : '/' ∉ u.opening.dropWhile tokenCharacter := by
  have hfirst : ∀ d ∈ u.scheme ++ "://".toList, tokenCharacter d = true := by
    intro d hd
    rcases List.mem_append.mp hd with hd | hd
    · exact (scheme_facts (u.scheme_form d hd)).1
    · have hall : ("://".toList.all tokenCharacter) = true := by decide
      exact List.all_eq_true.mp hall d hd
  have hdrop : u.opening.dropWhile tokenCharacter =
      (u.user ++ [':']).dropWhile tokenCharacter := by
    unfold UrlInText.opening
    rw [← List.append_assoc, List.dropWhile_append_of_pos hfirst]
  rw [hdrop]
  intro hd
  have hmem := (List.dropWhile_suffix _).mem hd
  rcases List.mem_append.mp hmem with hd | hd
  · exact (user_facts (u.user_form _ hd)).2.1 rfl
  · exact absurd hd (by decide)

theorem opening_no_url {c : Char} (hc : Stop c) {m : Nat} {s : List Char}
    (h : u.user = [] ∨ s = []) (prev : Option Char) {a b : List Char}
    (hab : u.opening ++ List.replicate m c = a ++ b) (hb : b ≠ []) :
    (urlCredentialRe alnum).matchAt prev (b ++ s) = none := by
  obtain ⟨-, -, -, hscheme, -, -, hat, -⟩ := stop_facts hc
  rcases h with huser | rfl
  · have hopening : u.opening ++ List.replicate m c =
        u.scheme ++ ("://:".toList ++ List.replicate m c) := by
      unfold UrlInText.opening
      rw [huser, List.append_assoc]
      rfl
    rw [hopening] at hab
    rcases List.append_eq_append_iff.mp hab with ⟨t, -, ht⟩ | ⟨t, ht, rfl⟩
    · -- behind the scheme there is no letter
      cases b with
      | nil => exact absurd rfl hb
      | cons d b =>
        have hd : d ∈ "://:".toList ++ List.replicate m c := by
          rw [ht]
          simp
        have hstart : schemeStart d = false := by
          rcases List.mem_append.mp hd with hd | hd
          · have hall : ("://:".toList.all fun e => !schemeStart e) = true := by decide
            exact (Bool.not_eq_true' _).mp (List.all_eq_true.mp hall d hd)
          · rw [List.eq_of_mem_replicate hd]
            unfold schemeCharacter at hscheme
            simp only [Bool.or_eq_false_iff] at hscheme
            exact hscheme.1.1.1.1
        exact url_first hstart
    · rw [List.append_assoc, List.append_assoc]
      refine url_userless fun d hd => (u.scheme_form d ?_).2
      rw [ht]
      exact List.mem_append_right a hd
  · rw [List.append_nil]
    refine url_no_at fun hmem => ?_
    have hmem' : '@' ∈ u.opening ++ List.replicate m c := hab ▸ List.mem_append_right a hmem
    rcases List.mem_append.mp hmem' with hopening | hstops
    · exact opening_no_at u hopening
    · exact hat (List.eq_of_mem_replicate hstops).symm

theorem token_no_url {c : Char} (hc : Stop c) {m : Nat} (hm : 0 < m) {s : List Char}
    (prev : Option Char) {a b : List Char}
    (hab : ("[REDACTED]".toList ++ u.opening.dropWhile tokenCharacter) ++ List.replicate m c =
      a ++ b) (hb : b ≠ []) : (urlCredentialRe alnum).matchAt prev (b ++ s) = none := by
  obtain ⟨-, -, -, hscheme, -, hcolon, -, hslash⟩ := stop_facts hc
  refine url_no_slash (fun hmem => ?_) hscheme hcolon ?_
  · have hmem' : '/' ∈ ("[REDACTED]".toList ++ u.opening.dropWhile tokenCharacter) ++
        List.replicate m c := hab ▸ List.mem_append_right a hmem
    rcases List.mem_append.mp hmem' with hleft | hstops
    · rcases List.mem_append.mp hleft with hmark | hopening
      · exact absurd hmark (by decide)
      · exact opening_no_slash u hopening
    · exact hslash (List.eq_of_mem_replicate hstops).symm
  · have hlast := congrArg List.getLast? hab
    rw [List.getLast?_append_of_ne_nil _ (by simp; omega), List.getLast?_append_of_ne_nil _ hb,
      List.getLast?_replicate, if_neg (by omega)] at hlast
    exact List.getLast?_eq_some_iff.mp hlast.symm

/-! ## the text before the limit -/

theorem take_text (u : UrlInText) (p : List Char) {limit : Nat} (h : u.start ≤ limit) :
    (u.text p).toList.take limit =
      u.pre ++ (u.opening ++ (p ++ '@' :: u.rest).take (limit - u.start)) := by
  unfold UrlInText.text
  rw [String.toList_ofList, ← List.append_assoc, List.take_append,
    List.take_of_length_le (show (u.pre ++ u.opening).length ≤ limit from h), List.append_assoc]
  rfl

theorem length_text (u : UrlInText) {n : Nat} {p : List Char} (h : Password n p) :
    (u.text p).toList.length = u.start + n + 1 + u.rest.length := by
  unfold UrlInText.text UrlInText.start
  rw [String.toList_ofList]
  simp only [List.length_append, List.length_cons, h.1]
  omega

def rewritten (alnum : Char → Bool) (limit : Nat) (value : String) : List Char :=
  redactUrl alnum (redactBearer alnum (value.toList.take limit))

/-- a password of stops comes through two rewritings -/
theorem rewritten_stops (u : UrlInText) {n limit : Nat} (hn : 0 < n) (hstart : u.start < limit)
    (h : opensBearer alnum u.pre = true ∨ u.user = [] ∨ limit ≤ u.start + n) :
    ∃ before after m, 0 < m ∧ ∀ c, Stop c →
      rewritten alnum limit (u.text (List.replicate n c)) =
        before ++ (List.replicate m c ++ after) := by
  obtain ⟨m, hm⟩ : ∃ m, m = min (limit - u.start) n := ⟨_, rfl⟩
  obtain ⟨tail, htail⟩ : ∃ tail, tail = ('@' :: u.rest).take (limit - u.start - n) := ⟨_, rfl⟩
  have hpos : 0 < m := by omega
  have hend : Tail tail := by
    rw [htail]
    cases limit - u.start - n with
    | zero => exact .inl rfl
    | succ k => exact .inr ⟨u.rest.take k, rfl⟩
  have hcut (c : Char) : (u.text (List.replicate n c)).toList.take limit =
      (u.pre ++ u.opening) ++ (List.replicate m c ++ tail) := by
    rw [take_text u _ (Nat.le_of_lt hstart), List.take_append, List.take_replicate,
      List.length_replicate, ← hm, ← htail, List.append_assoc]
  obtain ⟨front, hfront, hbearer⟩ := redactBearer_front alnum u.pre_ended
  obtain ⟨front', last, -, hurl⟩ := redactUrl_front alnum hfront
  obtain ⟨hend', -⟩ := bearerText_tail alnum hend
  have hopening : Token u.opening := by
    have := opening_token u []
    rwa [List.append_nil] at this
  -- the text up to the password
  obtain ⟨left, hleft, hno⟩ : ∃ left, redactBearer alnum (u.pre ++ u.opening) = front ++ left ∧
      ∀ c, Stop c → ∀ prev a b, left ++ List.replicate m c = a ++ b → b ≠ [] →
        (urlCredentialRe alnum).matchAt prev (b ++ bearerText alnum none tail) = none := by
    rcases hbearer with ⟨hclosed, last, hbearer⟩ | ⟨-, last, hbearer⟩
    · refine ⟨u.opening, ?_, fun c hc prev a b hab hb => ?_⟩
      · rw [hbearer _ hopening, bearerText_no_space (opening_no_space u)]
      · refine opening_no_url hc ?_ prev hab hb
        rcases h with hopen | huser | hlimit
        · rw [hclosed] at hopen
          cases hopen
        · exact .inl huser
        · right
          rw [htail, show limit - u.start - n = 0 by omega, List.take_zero]
          unfold bearerText
          rw [pieces_nil]
          rfl
    · refine ⟨"[REDACTED]".toList ++ u.opening.dropWhile tokenCharacter, ?_,
        fun c hc prev a b hab hb => token_no_url hc hpos prev hab hb⟩
      rw [hbearer _ hopening, bearerText_no_space fun d hd =>
        opening_no_space u d ((List.dropWhile_suffix _).mem hd)]
  refine ⟨front' ++ left, urlText alnum none (bearerText alnum none tail), m, hpos,
    fun c hc => ?_⟩
  unfold rewritten
  rw [hcut, redactBearer_stops hc hpos _ hend, hleft, List.append_assoc, hurl,
    urlText_stops hpos last hend' (hno c hc), List.append_assoc]

/-- a password of a URL with a user is replaced -/
theorem rewritten_hidden (u : UrlInText) {n limit : Nat} (hn : 0 < n)
    (hopen : opensBearer alnum u.pre = false) (huser : u.user ≠ [])
    (hlimit : u.start + n < limit) :
    ∃ result, ∀ p, Password n p → rewritten alnum limit (u.text p) = result := by
  obtain ⟨front, hfront, hbearer⟩ := redactBearer_front alnum u.pre_ended
  obtain ⟨front', last, hlast, hurl⟩ := redactUrl_front alnum hfront
  obtain ⟨c, t, hscheme, hc⟩ := u.scheme_start
  rcases hbearer with ⟨-, last', hbearer⟩ | ⟨hopen', -⟩
  swap
  · rw [hopen] at hopen'
    cases hopen'
  obtain ⟨tail, htail⟩ : ∃ tail, tail = u.rest.take (limit - u.start - n - 1) := ⟨_, rfl⟩
  refine ⟨front' ++ ((c :: t ++ "://".toList) ++ "[REDACTED]@".toList ++
    urlText alnum (some '@') (bearerText alnum (some '@') tail)), fun p hp => ?_⟩
  have hcut : (u.text p).toList.take limit = u.pre ++ (u.opening ++ (p ++ '@' :: tail)) := by
    rw [take_text u p (by omega), List.take_append, List.take_of_length_le (by rw [hp.1]; omega),
      hp.1, htail, show limit - u.start - n = limit - u.start - n - 1 + 1 by omega,
      List.take_succ_cons]
    rfl
  obtain ⟨after, hafter⟩ : ∃ after, after = bearerText alnum (some '@') tail := ⟨_, rfl⟩
  have hspace : ∀ d ∈ u.opening ++ p, isPySpace d = false := by
    intro d hd
    rcases List.mem_append.mp hd with hd | hd
    · exact opening_no_space u d hd
    · exact (user_facts (hp.2 d hd)).1
  have hlast' (prev : Option Char) : behind prev (u.opening ++ p ++ ['@']) = some '@' := by
    rw [behind_append]
    rfl
  have hbearer' : redactBearer alnum (u.pre ++ (u.opening ++ (p ++ '@' :: tail))) =
      front ++ (u.opening ++ p ++ ['@'] ++ after) := by
    rw [hbearer _ (opening_token u _),
      show u.opening ++ (p ++ '@' :: tail) = (u.opening ++ p ++ ['@']) ++ tail by simp,
      bearerText_copies alnum last' fun a b hab hb => ?_, hlast', hafter]
    -- a part of the URL that ends in its `@`
    obtain ⟨b', e, rfl⟩ : ∃ b' e, b = b' ++ [e] :=
      (List.eq_nil_or_concat' b).resolve_left hb
    rw [← List.append_assoc] at hab
    obtain ⟨hurl', he⟩ := List.append_inj' hab rfl
    rw [← (List.cons.inj he).1, List.append_assoc]
    exact bearer_at fun d hd => hspace d (hurl' ▸ List.mem_append_right a hd)
  have hboundary : atBoundary alnum last (c :: t) = true := by
    have hword := (scheme_facts (u.scheme_form c
      (by rw [hscheme]; exact List.mem_cons_self))).2.2.2 hc alnum
    have hnone : last.any (wordCharacter alnum) = false := by
      cases last with
      | none => rfl
      | some w =>
        show wordCharacter alnum w = false
        unfold wordCharacter
        rw [hlast w rfl]
        rfl
    show (last.any (wordCharacter alnum) != wordCharacter alnum c) = true
    rw [hnone, hword]
    rfl
  have hmatch : (urlCredentialRe alnum).matchAt last (u.opening ++ p ++ ['@'] ++ after) =
      some (after, [(1, c :: t ++ "://".toList)]) := by
    have hopening : u.opening ++ p ++ ['@'] ++ after =
        c :: (t ++ ("://".toList ++ (u.user ++ ':' :: (p ++ '@' :: after)))) := by
      unfold UrlInText.opening
      rw [hscheme]
      simp
    have hpassword : p ≠ [] := by
      intro hnil
      have := hp.1
      rw [hnil, List.length_nil] at this
      omega
    rw [hopening]
    exact url_match hboundary hc
      (fun e he => (u.scheme_form e (by rw [hscheme]; exact List.mem_cons_of_mem c he)).2) huser
      u.user_form hpassword fun e he => (user_facts (hp.2 e he)).2.2.2.2
  unfold rewritten
  rw [hcut, hbearer', hurl]
  unfold urlText
  rw [pieces_hit (by simp) hmatch, hlast', List.flatMap_cons, hafter]
  rfl

end

/-- **the password of a URL has no influence on the result exactly when there is none, when it lies
behind the limit, or when the URL has a user, its `@` lies before the limit and no `bearer` is open
in front of it** -/
theorem url_password_hidden (alnum : Char → Bool) (u : UrlInText) (n limit : Nat) :
    (∀ p p', Password n p → Password n p' →
      redactText alnum limit (u.text p) = redactText alnum limit (u.text p')) ↔
    n = 0 ∨ limit ≤ u.start ∨
      (opensBearer alnum u.pre = false ∧ u.user ≠ [] ∧ u.start + n < limit) := by
  have hredact (p : List Char) (hp : Password n p) : redactText alnum limit (u.text p) =
      String.ofList (redactKeyValue alnum (rewritten alnum limit (u.text p)) ++
        if limit < u.start + n + 1 + u.rest.length then "...[TRUNCATED]".toList else []) := by
    unfold redactText rewritten
    dsimp only
    rw [length_text u hp]
    split
    · rfl
    · rw [List.append_nil]
  constructor
  · intro hall
    by_contra hnot
    simp only [not_or, not_and] at hnot
    obtain ⟨hn, hstart, hlast⟩ := hnot
    have hcase : opensBearer alnum u.pre = true ∨ u.user = [] ∨ limit ≤ u.start + n := by
      by_cases hopen : opensBearer alnum u.pre = true
      · exact .inl hopen
      · by_cases huser : u.user = []
        · exact .inr (.inl huser)
        · exact .inr (.inr (Nat.le_of_not_lt (hlast (Bool.eq_false_iff.mpr hopen) huser)))
    obtain ⟨before, after, m, hm, hstops⟩ := rewritten_stops u (Nat.pos_of_ne_zero hn)
      (Nat.lt_of_not_le hstart) hcase
    have hpassword {c : Char} (hc : Stop c) : Password n (List.replicate n c) := by
      refine ⟨List.length_replicate, fun d hd => ?_⟩
      rw [List.eq_of_mem_replicate hd]
      exact (stop_facts hc).2.2.1
    have hcomma : Stop ',' := .inl rfl
    have hsemicolon : Stop ';' := .inr rfl
    -- the commas of the password are still there, and there are no others
    have hequal := hall _ _ (hpassword hcomma) (hpassword hsemicolon)
    rw [hredact _ (hpassword hcomma), hredact _ (hpassword hsemicolon), hstops ',' hcomma,
      hstops ';' hsemicolon] at hequal
    have hcount := congrArg (List.count ',') (String.ofList_injective hequal)
    simp only [List.count_append, count_redactKeyValue, List.count_replicate_self,
      List.count_replicate] at hcount
    have hne : (';' == ',') = false := by decide
    rw [hne] at hcount
    simp only [Bool.false_eq_true, if_false] at hcount
    omega
  · intro h p p' hp hp'
    rcases h with hn | hlimit | ⟨hopen, huser, hlimit⟩
    · have hnil : p = [] := List.length_eq_zero_iff.mp (hp.1.trans hn)
      have hnil' : p' = [] := List.length_eq_zero_iff.mp (hp'.1.trans hn)
      rw [hnil, hnil']
    · have hcut (q : List Char) : (u.text q).toList.take limit =
          (u.pre ++ u.opening).take limit := by
        unfold UrlInText.text
        rw [String.toList_ofList, ← List.append_assoc,
          List.take_append_of_le_length (show limit ≤ (u.pre ++ u.opening).length from hlimit)]
      rw [hredact p hp, hredact p' hp']
      unfold rewritten
      rw [hcut, hcut]
    · by_cases hn : n = 0
      · have hnil : p = [] := List.length_eq_zero_iff.mp (hp.1.trans hn)
        have hnil' : p' = [] := List.length_eq_zero_iff.mp (hp'.1.trans hn)
        rw [hnil, hnil']
      · obtain ⟨result, hresult⟩ := rewritten_hidden u (Nat.pos_of_ne_zero hn) hopen huser hlimit
        rw [hredact p hp, hredact p' hp', hresult p hp, hresult p' hp']

theorem redis_scheme : ∀ c ∈ "redis".toList, c.toNat < 128 ∧ schemeCharacter c = true := by
  have hall : ("redis".toList.all fun c => decide (c.toNat < 128) && schemeCharacter c) = true := rfl
  intro c hc
  have h := List.all_eq_true.mp hall c hc
  rw [Bool.and_eq_true, decide_eq_true_eq] at h
  exact h

theorem password_six {word : String} (hlength : word.toList.length = 6)
    (hall : word.toList.all userCharacter = true) : Password 6 word.toList :=
  ⟨hlength, List.all_eq_true.mp hall⟩

/-- a URL with a password and without a user -/
def cacheUrl : UrlInText where
  pre := "connect ".toList
  scheme := "redis".toList
  user := []
  rest := "cache:6379".toList
  pre_ended := .inr ⟨"connect".toList, ' ', rfl, by decide⟩
  scheme_start := ⟨'r', "edis".toList, rfl, by decide⟩
  scheme_form := redis_scheme
  user_form := fun c hc => absurd hc List.not_mem_nil

/-- its password is logged -/
theorem userless_url_logged :
    Password 6 "hunter".toList ∧ Password 6 "secret".toList ∧
      redactText (fun _ => false) 2048 (cacheUrl.text "hunter".toList) =
        "connect redis://:hunter@cache:6379" ∧
      redactText (fun _ => false) 2048 (cacheUrl.text "secret".toList) =
        "connect redis://:secret@cache:6379" := by
  refine ⟨password_six rfl rfl, password_six rfl rfl, by decide +kernel, by decide +kernel⟩

/-- the same URL with a user, whose password is not -/
def accountUrl : UrlInText :=
  { cacheUrl with
    user := "app".toList
    user_form := List.all_eq_true.mp (show "app".toList.all userCharacter = true from rfl) }

example : redactText (fun _ => false) 2048 (accountUrl.text "hunter".toList) =
    redactText (fun _ => false) 2048 (accountUrl.text "secret".toList) := by decide +kernel

end PgRbac.Logging
