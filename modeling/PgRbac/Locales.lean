import Mathlib.Data.Rat.Defs
import Mathlib.Algebra.Order.Ring.Rat
import Mathlib.Data.String.Basic
import PgRbac.Lib.Choice
import PgRbac.Lib.Pattern
import PgRbac.Provisioning

/-!
# The locale of a request

`select_locale` negotiates one of the supported locales from an `Accept-Language` header.  What
`float` and `str.casefold` do is left open: nothing here depends on it.

* `parsedRanges`        the well-formed ranges with their qualities and positions;
* `effectiveMatch`      the range that decides about a locale: a maximum over the ranges;
* `selectLocale`        a minimum over the locales that are not refused, or the fallback;
* `Effective`           the quality of a locale as the header means it;
* `chosen_shifted`      the choice sees nothing but the order of the positions;
* `locale_negotiated`   preferences and refusals are kept, and malformed ranges do not matter.
-/

set_option linter.unusedVariables false
set_option linter.unusedSectionVars false

namespace PgRbac.I18n

open Choice

/-! ## the header -/

def defaultLocale : String := "zh-CN"

def supportedLocales : List String := ["zh-CN", "en"]

def maxAcceptLanguageLength : Nat := 512
def maxLanguageRanges : Nat := 20

/-- what `float` returns; the sign of a zero does not matter -/
inductive PyFloat where
  | number (value : ℚ)
  | infinity (negative : Bool)
  | nan
deriving DecidableEq

/-- `0.0 <= quality <= 1.0` -/
def PyFloat.quality : PyFloat → Option ℚ
  | .number value => if 0 ≤ value ∧ value ≤ 1 then some value else none
  | .infinity _ => none
  | .nan => none

open Pattern in
/-- `[A-Za-z]{1,8}(?:-[A-Za-z0-9]{1,8})*` -/
def languageTagPattern : Pattern :=
  seq (between (set Char.isAlpha) 1 7)
    (star (seq (set (· == '-')) (between (set Char.isAlphanum) 1 7)))

structure ParsedRange where
  languageRange : String
  quality : ℚ
  position : Nat
deriving DecidableEq

structure Match where
  specificity : Nat
  quality : ℚ
  position : Nat
deriving DecidableEq

structure Candidate where
  quality : ℚ
  specificity : Nat
  position : Nat
  localeIndex : Nat
  locale : String
deriving DecidableEq

def matchSpecificity (languageRange locale : String) : Option Nat :=
  if languageRange = "*" then some 0
  else if locale = "zh-CN" then
    [("zh", 1), ("zh-hans", 2), ("zh-sg", 2), ("zh-cn", 3)].lookup languageRange
  else if locale = "en" then
    if languageRange = "en" then some 1
    else if "en-".toList.isPrefixOf languageRange.toList then some 2
    else none
  else none

section
variable (casefold : String → String) (float : String → Option PyFloat)

def normalizeLanguageRange (languageRange : String) : Option String :=
  let replaced := (strip languageRange).map fun c => if c = '_' then '-' else c
  let normalized := casefold replaced
  if normalized = "*" then some normalized
  else if languageTagPattern.fullmatch replaced.toList = true then some normalized
  else none

/-- the stripped parts of one range -/
def rangeParts (rawRange : List Char) : List String :=
  (rawRange.splitOn ';').map fun part => strip (String.ofList part)

def startsWithQuality (parameter : String) : Bool :=
  "q=".toList.isPrefixOf (casefold parameter).toList

/-- `float(parameter[2:].strip())` between 0 and 1 -/
def parameterQuality (parameter : String) : Option ℚ :=
  (float (strip (String.ofList (parameter.toList.drop 2)))).bind PyFloat.quality

/-- the loop over the parameters: the first `q=` decides -/
def parametersQuality : List String → Option ℚ
  | [] => some 1
  | parameter :: parameters =>
    if startsWithQuality casefold parameter then parameterQuality float parameter
    else parametersQuality parameters

/-- the tag of one range -/
def rangeTag (rawRange : List Char) : Option String :=
  match rangeParts rawRange with
  | [] => none
  | part :: _ => if part = "" then none else normalizeLanguageRange casefold part

/-- the body of the loop over the ranges -/
def parseRange (rawRange : List Char) (position : Nat) : Option ParsedRange := do
  let languageRange ← rangeTag casefold rawRange
  let quality ← parametersQuality casefold float (rangeParts rawRange).tail
  pure ⟨languageRange, quality, position⟩

def parsedRanges (acceptLanguage : String) : List ParsedRange :=
  ((acceptLanguage.toList.splitOn ',').take maxLanguageRanges).zipIdx.filterMap fun range =>
    parseRange casefold float range.1 range.2

end

/-! ## the choice -/

/-- the order of the tuples `(item[0], item[1], -item[2])` -/
def Match.less : Match → Match → Bool :=
  lexBy Match.specificity (lexBy Match.quality (lexBy (fun m => -(m.position : ℤ)) never))

def localeMatches (parsed : List ParsedRange) (locale : String) : List Match :=
  parsed.filterMap fun range => (matchSpecificity range.languageRange locale).map fun specificity =>
    ⟨specificity, range.quality, range.position⟩

/-- `effective_matches` at a locale -/
def effectiveMatch (parsed : List ParsedRange) (locale : String) : Option Match :=
  best Match.less (localeMatches parsed locale)

/-- the order of the tuples of the candidates -/
def Candidate.less : Candidate → Candidate → Bool :=
  lexBy (fun c => -c.quality) (lexBy (fun c => if c.specificity = 0 then 1 else 0)
    (lexBy Candidate.position (lexBy Candidate.localeIndex (lexBy Candidate.locale never))))

def candidateOf (parsed : List ParsedRange) (locale : String) (localeIndex : Nat) :
    Option Candidate :=
  match effectiveMatch parsed locale with
  | none => none
  | some m => if 0 < m.quality then some ⟨m.quality, m.specificity, m.position, localeIndex, locale⟩
    else none

def candidates (parsed : List ParsedRange) : List Candidate :=
  supportedLocales.zipIdx.filterMap fun entry => candidateOf parsed entry.1 entry.2

/-- without a candidate -/
def fallbackLocale (parsed : List ParsedRange) : String :=
  match effectiveMatch parsed defaultLocale with
  | none => defaultLocale
  | some m =>
    if m.quality = 0 then
      (supportedLocales.find? fun locale =>
        decide (locale ≠ defaultLocale) && (effectiveMatch parsed locale).isNone).getD defaultLocale
    else defaultLocale

def chosenLocale (parsed : List ParsedRange) : String :=
  match best (fun c c' => c'.less c) (candidates parsed) with
  | some c => c.locale
  | none => fallbackLocale parsed

def selectLocale (casefold : String → String) (float : String → Option PyFloat) :
    Option String → String
  | none => defaultLocale
  | some acceptLanguage =>
    if acceptLanguage = "" ∨ maxAcceptLanguageLength < acceptLanguage.length ∨
        (acceptLanguage.toList.any fun c => decide (c.toNat < 32) && c != '\t') = true then
      defaultLocale
    else chosenLocale (parsedRanges casefold float acceptLanguage)

/-! ## what the header means -/

section
variable (casefold : String → String) (float : String → Option PyFloat)

/-- the first `q=` parameter of a range -/
def firstQuality (rawRange : List Char) : Option String :=
  (rangeParts rawRange).tail.find? (startsWithQuality casefold)

/-- the range has this quality: 1, or the number of its first `q=` parameter -/
def Stated (rawRange : List Char) (quality : ℚ) : Prop :=
  (firstQuality casefold rawRange = none ∧ quality = 1) ∨
    ∃ parameter, firstQuality casefold rawRange = some parameter ∧
      float (strip (String.ofList (parameter.toList.drop 2))) = some (.number quality) ∧
      0 ≤ quality ∧ quality ≤ 1

def WellFormed (rawRange : List Char) (languageRange : String) (quality : ℚ) : Prop :=
  rangeTag casefold rawRange = some languageRange ∧ Stated casefold float rawRange quality

/-- the tag does not parse, or the first `q=` parameter is no number between 0 and 1 -/
def Malformed (rawRange : List Char) : Prop :=
  rangeTag casefold rawRange = none ∨ ∀ quality, ¬ Stated casefold float rawRange quality

/-- the range at `position` is well-formed and matches the locale -/
def MatchesAt (rawRanges : List (List Char)) (locale : String) (m : Match) : Prop :=
  ∃ rawRange languageRange, rawRanges[m.position]? = some rawRange ∧
    WellFormed casefold float rawRange languageRange m.quality ∧
    matchSpecificity languageRange locale = some m.specificity

/-- `m` decides before `m'`: it is more specific, else of higher quality, else earlier -/
def Decides (m m' : Match) : Prop :=
  m'.specificity < m.specificity ∨ m'.specificity = m.specificity ∧
    (m'.quality < m.quality ∨ m'.quality = m.quality ∧ m.position ≤ m'.position)

/-- the effective quality of a locale -/
def Effective (rawRanges : List (List Char)) (locale : String) (quality : ℚ) : Prop :=
  ∃ m, MatchesAt casefold float rawRanges locale m ∧ m.quality = quality ∧
    ∀ m', MatchesAt casefold float rawRanges locale m' → Decides m m'

end

section
variable {casefold : String → String} {float : String → Option PyFloat}

theorem parameterQuality_iff {parameter : String} {quality : ℚ} :
    parameterQuality float parameter = some quality ↔
      float (strip (String.ofList (parameter.toList.drop 2))) = some (.number quality) ∧
        0 ≤ quality ∧ quality ≤ 1 := by
  unfold parameterQuality
  rw [Option.bind_eq_some_iff]
  constructor
  · rintro ⟨value, hvalue, hq⟩
    cases value with
    | number v =>
      rw [PyFloat.quality, Option.ite_none_right_eq_some, Option.some_inj] at hq
      obtain ⟨hunit, rfl⟩ := hq
      exact ⟨hvalue, hunit⟩
    | infinity negative => cases hq
    | nan => cases hq
  · rintro ⟨hvalue, hunit⟩
    exact ⟨_, hvalue, by rw [PyFloat.quality, if_pos hunit]⟩

theorem parametersQuality_find (parameters : List String) :
    parametersQuality casefold float parameters =
      (parameters.find? (startsWithQuality casefold)).elim (some 1) (parameterQuality float) := by
  induction parameters with
  | nil => rfl
  | cons parameter parameters ih =>
    rw [parametersQuality]
    cases h : startsWithQuality casefold parameter with
    | true =>
      rw [List.find?_cons_of_pos h]
      rfl
    | false =>
      rw [List.find?_cons_of_neg (by rw [h]; exact Bool.false_ne_true), ← ih]
      rfl

theorem parametersQuality_iff {rawRange : List Char} {quality : ℚ} :
    parametersQuality casefold float (rangeParts rawRange).tail = some quality ↔
      Stated casefold float rawRange quality := by
  rw [parametersQuality_find]
  unfold Stated firstQuality
  cases h : (rangeParts rawRange).tail.find? (startsWithQuality casefold) with
  | none =>
    show some (1 : ℚ) = some quality ↔ _
    rw [Option.some_inj]
    constructor
    · intro hq
      exact .inl ⟨rfl, hq.symm⟩
    · rintro (⟨-, hq⟩ | ⟨parameter, hp, -⟩)
      · exact hq.symm
      · cases hp
  | some parameter =>
    show parameterQuality float parameter = some quality ↔ _
    rw [parameterQuality_iff]
    constructor
    · intro hq
      exact .inr ⟨parameter, rfl, hq⟩
    · rintro (⟨hnone, -⟩ | ⟨parameter', hp, hq⟩)
      · cases hnone
      · rw [Option.some_inj] at hp
        exact hp ▸ hq

theorem parseRange_iff {rawRange : List Char} {position : Nat} {range : ParsedRange} :
    parseRange casefold float rawRange position = some range ↔
      WellFormed casefold float rawRange range.languageRange range.quality ∧
        range.position = position := by
  unfold parseRange WellFormed
  simp only [Option.bind_eq_bind, Option.bind_eq_some_iff, Option.pure_def, Option.some_inj,
    parametersQuality_iff]
  constructor
  · rintro ⟨languageRange, htag, quality, hquality, rfl⟩
    exact ⟨⟨htag, hquality⟩, rfl⟩
  · rintro ⟨⟨htag, hquality⟩, rfl⟩
    exact ⟨_, htag, _, hquality, rfl⟩

theorem parseRange_malformed {rawRange : List Char} (position : Nat)
    (h : Malformed casefold float rawRange) :
    parseRange casefold float rawRange position = none := by
  rw [Option.eq_none_iff_forall_not_mem]
  intro range hrange
  obtain ⟨⟨htag, hstated⟩, -⟩ := parseRange_iff.mp hrange
  rcases h with hnone | hno
  · rw [hnone] at htag
    cases htag
  · exact hno _ hstated

/-! ## the range that decides -/

theorem never_trans {α : Type} (a b c : α) (h : never a b = true) (h' : never b c = true) :
    never a c = true := h

theorem Match.less_irrefl (m : Match) : m.less m = false :=
  lexBy_irrefl (lexBy_irrefl (lexBy_irrefl fun _ => rfl)) m

theorem Match.less_trans (m₁ m₂ m₃ : Match) (h : m₁.less m₂ = true) (h' : m₂.less m₃ = true) :
    m₁.less m₃ = true :=
  lexBy_trans (lexBy_trans (lexBy_trans never_trans)) m₁ m₂ m₃ h h'

/-- the tuples are compared as the ranges decide -/
theorem Match.not_less {m m' : Match} : m.less m' = false ↔ Decides m m' := by
  unfold Match.less Decides
  rw [Bool.eq_false_iff, Ne, lexBy_iff, lexBy_iff, lexBy_iff]
  have hnever : ¬ never m m' = true := Bool.false_ne_true
  constructor
  · intro h
    rcases Nat.lt_trichotomy m.specificity m'.specificity with hs | hs | hs
    · exact absurd (.inl hs) h
    · refine .inr ⟨hs.symm, ?_⟩
      rcases lt_trichotomy m.quality m'.quality with hq | hq | hq
      · exact absurd (.inr ⟨hs, .inl hq⟩) h
      · refine .inr ⟨hq.symm, ?_⟩
        by_contra hp
        exact h (.inr ⟨hs, .inr ⟨hq, .inl (by omega)⟩⟩)
      · exact .inl hq
    · exact .inl hs
  · rintro (hs | ⟨hs, hq | ⟨hq, hp⟩⟩) (hs' | ⟨hs', hq' | ⟨hq', hp' | ⟨-, hn⟩⟩⟩)
    · omega
    · omega
    · omega
    · omega
    · omega
    · exact lt_asymm hq hq'
    · exact absurd hq' (ne_of_gt hq)
    · exact absurd hq' (ne_of_gt hq)
    · omega
    · exact absurd hq (ne_of_gt hq')
    · omega
    · exact hnever hn

theorem decides_antisymm {m m' : Match} (h : Decides m m') (h' : Decides m' m) :
    m.quality = m'.quality := by
  rcases h with hs | ⟨hs, hq | ⟨hq, -⟩⟩
  · rcases h' with hs' | ⟨hs', -⟩
    · omega
    · omega
  · rcases h' with hs' | ⟨-, hq' | ⟨hq', -⟩⟩
    · omega
    · exact absurd hq' (lt_asymm hq)
    · exact hq'
  · exact hq.symm

/-- the well-formed ranges among the first ones of a header -/
def parsedOf (casefold : String → String) (float : String → Option PyFloat)
    (rawRanges : List (List Char)) (start : Nat) : List ParsedRange :=
  (rawRanges.zipIdx start).filterMap fun range => parseRange casefold float range.1 range.2

theorem mem_localeMatches {rawRanges : List (List Char)} {locale : String} {m : Match} :
    m ∈ localeMatches (parsedOf casefold float rawRanges 0) locale ↔
      MatchesAt casefold float rawRanges locale m := by
  unfold localeMatches parsedOf MatchesAt
  simp only [List.mem_filterMap, Option.map_eq_some_iff, Prod.exists, parseRange_iff,
    List.mem_zipIdx_iff_getElem?]
  constructor
  · rintro ⟨range, ⟨rawRange, position, hraw, hwell, rfl⟩, specificity, hmatch, rfl⟩
    exact ⟨rawRange, range.languageRange, hraw, hwell, hmatch⟩
  · rintro ⟨rawRange, languageRange, hraw, hwell, hmatch⟩
    exact ⟨⟨languageRange, m.quality, m.position⟩, ⟨rawRange, m.position, hraw, hwell, rfl⟩,
      m.specificity, hmatch, rfl⟩

/-- the deciding range gives the effective quality -/
theorem effective_iff {rawRanges : List (List Char)} {locale : String} {quality : ℚ} :
    Effective casefold float rawRanges locale quality ↔
      ∃ m, effectiveMatch (parsedOf casefold float rawRanges 0) locale = some m ∧
        m.quality = quality := by
  have hbest : ∀ {m : Match},
      effectiveMatch (parsedOf casefold float rawRanges 0) locale = some m →
      ∀ m', MatchesAt casefold float rawRanges locale m' → Decides m m' := fun hm m' hm' =>
    Match.not_less.mp (best_not_lt Match.less_irrefl Match.less_trans hm m'
      (mem_localeMatches.mpr hm'))
  constructor
  · rintro ⟨m, hm, hquality, hdecides⟩
    have hmem := mem_localeMatches.mpr hm
    cases hmax : effectiveMatch (parsedOf casefold float rawRanges 0) locale with
    | none =>
      rw [best_eq_none hmax] at hmem
      cases hmem
    | some m' =>
      have hm' := mem_localeMatches.mp (best_mem hmax)
      exact ⟨m', rfl,
        (decides_antisymm (hbest hmax m hm) (hdecides m' hm')).trans hquality⟩
  · rintro ⟨m, hmax, hquality⟩
    exact ⟨m, mem_localeMatches.mp (best_mem hmax), hquality, hbest hmax⟩

theorem effective_unique {rawRanges : List (List Char)} {locale : String} {quality quality' : ℚ}
    (h : Effective casefold float rawRanges locale quality)
    (h' : Effective casefold float rawRanges locale quality') : quality = quality' := by
  obtain ⟨m, hm, rfl⟩ := effective_iff.mp h
  obtain ⟨m', hm', rfl⟩ := effective_iff.mp h'
  rw [hm, Option.some_inj] at hm'
  rw [hm']

end

/-! ## the locale that is chosen -/

section
variable {parsed : List ParsedRange}

theorem mem_candidates {c : Candidate} : c ∈ candidates parsed ↔
    ∃ m, effectiveMatch parsed c.locale = some m ∧ 0 < m.quality ∧
      supportedLocales[c.localeIndex]? = some c.locale ∧
      c = ⟨m.quality, m.specificity, m.position, c.localeIndex, c.locale⟩ := by
  unfold candidates candidateOf
  simp only [List.mem_filterMap, Prod.exists, List.mem_zipIdx_iff_getElem?]
  constructor
  · rintro ⟨locale, index, hlocale, hc⟩
    cases hm : effectiveMatch parsed locale with
    | none =>
      rw [hm] at hc
      cases hc
    | some m =>
      rw [hm] at hc
      change (if 0 < m.quality then _ else none) = some c at hc
      rw [Option.ite_none_right_eq_some, Option.some_inj] at hc
      obtain ⟨hpos, rfl⟩ := hc
      exact ⟨m, hm, hpos, hlocale, rfl⟩
  · rintro ⟨m, hm, hpos, hlocale, hc⟩
    refine ⟨c.locale, c.localeIndex, hlocale, ?_⟩
    rw [hm]
    change (if 0 < m.quality then _ else none) = some c
    rw [if_pos hpos, ← hc]

theorem candidate_exists {locale : String} {m : Match} (hlocale : locale ∈ supportedLocales)
    (hm : effectiveMatch parsed locale = some m) (hpos : 0 < m.quality) :
    ∃ c ∈ candidates parsed, c.quality = m.quality := by
  obtain ⟨index, hindex⟩ := List.mem_iff_getElem?.mp hlocale
  exact ⟨⟨m.quality, m.specificity, m.position, index, locale⟩,
    mem_candidates.mpr ⟨m, hm, hpos, hindex, rfl⟩, rfl⟩

theorem Candidate.quality_le {c c' : Candidate} (h : c'.less c = false) :
    c'.quality ≤ c.quality := by
  by_contra hless
  rw [Bool.eq_false_iff, Ne, Candidate.less, lexBy_iff] at h
  exact h (.inl (neg_lt_neg (not_le.mp hless)))

theorem Candidate.less_irrefl (c : Candidate) : c.less c = false :=
  lexBy_irrefl (lexBy_irrefl (lexBy_irrefl (lexBy_irrefl (lexBy_irrefl fun _ => rfl)))) c

theorem Candidate.less_trans (c₁ c₂ c₃ : Candidate) (h : c₁.less c₂ = true)
    (h' : c₂.less c₃ = true) : c₁.less c₃ = true :=
  lexBy_trans (lexBy_trans (lexBy_trans (lexBy_trans (lexBy_trans never_trans)))) c₁ c₂ c₃ h h'

theorem chosen_candidate {c : Candidate}
    (h : best (fun c c' => Candidate.less c' c) (candidates parsed) = some c) :
    c.locale ∈ supportedLocales ∧
      ∃ m, effectiveMatch parsed c.locale = some m ∧ 0 < m.quality ∧
        ∀ locale ∈ supportedLocales, ∀ m', effectiveMatch parsed locale = some m' →
          m'.quality ≤ m.quality := by
  obtain ⟨m, hm, hpos, hindex, hc⟩ := mem_candidates.mp (best_mem h)
  refine ⟨List.mem_of_getElem? hindex, m, hm, hpos, fun locale hlocale m' hm' => ?_⟩
  by_cases hpos' : 0 < m'.quality
  · obtain ⟨c', hmem, hquality⟩ := candidate_exists hlocale hm' hpos'
    have hnot : Candidate.less c' c = false :=
      @best_not_lt _ (fun c c' => Candidate.less c' c) Candidate.less_irrefl
        (fun c₁ c₂ c₃ h₁ h₂ => Candidate.less_trans c₃ c₂ c₁ h₂ h₁) _ _ h c' hmem
    have hle := Candidate.quality_le hnot
    rwa [hquality, hc] at hle
  · exact (not_lt.mp hpos').trans (le_of_lt hpos)

theorem fallback_supported : fallbackLocale parsed ∈ supportedLocales := by
  unfold fallbackLocale
  cases effectiveMatch parsed defaultLocale with
  | none => exact List.mem_cons_self
  | some m =>
    show (if m.quality = 0 then _ else _) ∈ _
    split
    · cases hfound : supportedLocales.find? _ with
      | none => exact List.mem_cons_self
      | some locale => exact List.mem_of_find?_eq_some hfound
    · exact List.mem_cons_self

theorem fallback_refused (hnone : candidates parsed = [])
    (hnonneg : ∀ locale m, effectiveMatch parsed locale = some m → 0 ≤ m.quality) {m : Match}
    (h : effectiveMatch parsed (fallbackLocale parsed) = some m) :
    ∀ locale ∈ supportedLocales, ∃ m', effectiveMatch parsed locale = some m' ∧ m'.quality = 0 := by
  have hzero : ∀ locale ∈ supportedLocales, ∀ m', effectiveMatch parsed locale = some m' →
      m'.quality = 0 := by
    intro locale hlocale m' hm'
    refine le_antisymm (not_lt.mp fun hpos => ?_) (hnonneg locale m' hm')
    obtain ⟨c, hmem, -⟩ := candidate_exists hlocale hm' hpos
    rw [hnone] at hmem
    cases hmem
  unfold fallbackLocale at h
  cases hdefault : effectiveMatch parsed defaultLocale with
  | none =>
    rw [hdefault] at h
    change effectiveMatch parsed defaultLocale = some m at h
    rw [hdefault] at h
    cases h
  | some d =>
    rw [hdefault] at h
    change effectiveMatch parsed (if d.quality = 0 then _ else _) = some m at h
    rw [if_pos (hzero defaultLocale List.mem_cons_self d hdefault)] at h
    cases hfound : supportedLocales.find? (fun locale =>
        decide (locale ≠ defaultLocale) && (effectiveMatch parsed locale).isNone) with
    | some locale =>
      -- a locale without a range is taken, and it is not refused
      rw [hfound] at h
      have hfree := List.find?_some hfound
      rw [Bool.and_eq_true, Option.isNone_iff_eq_none] at hfree
      change effectiveMatch parsed locale = some m at h
      rw [hfree.2] at h
      cases h
    | none =>
      intro locale hlocale
      have hmatched : ∃ m', effectiveMatch parsed locale = some m' := by
        by_cases hsame : locale = defaultLocale
        · exact ⟨d, hsame ▸ hdefault⟩
        · have hnot := List.find?_eq_none.mp hfound locale hlocale
          rw [Bool.and_eq_true, not_and, decide_eq_true_eq, Option.isNone_iff_eq_none] at hnot
          exact Option.ne_none_iff_exists'.mp (hnot hsame)
      obtain ⟨m', hm'⟩ := hmatched
      exact ⟨m', hm', hzero locale hlocale m' hm'⟩

end

/-! ## ranges that are deleted -/

/-- positions behind a deleted range -/
def shift (i position : Nat) : Nat := if position < i then position else position + 1

theorem shift_lt {i p q : Nat} : shift i p < shift i q ↔ p < q := by
  unfold shift
  split <;> split <;> omega

theorem shift_inj {i p q : Nat} : shift i p = shift i q ↔ p = q := by
  unfold shift
  split <;> split <;> omega

def ParsedRange.shifted (i : Nat) (range : ParsedRange) : ParsedRange :=
  { range with position := shift i range.position }

def Match.shifted (i : Nat) (m : Match) : Match := { m with position := shift i m.position }

def Candidate.shifted (i : Nat) (c : Candidate) : Candidate :=
  { c with position := shift i c.position }

theorem Match.shifted_less (i : Nat) (m m' : Match) :
    (m.shifted i).less (m'.shifted i) = m.less m' := by
  rw [Bool.eq_iff_iff]
  unfold Match.less
  simp only [lexBy_iff, Match.shifted, neg_lt_neg_iff, neg_inj, Int.ofNat_lt, Int.ofNat_inj,
    shift_lt, shift_inj]
  rfl

theorem Candidate.shifted_less (i : Nat) (c c' : Candidate) :
    (c.shifted i).less (c'.shifted i) = c.less c' := by
  rw [Bool.eq_iff_iff]
  unfold Candidate.less
  simp only [lexBy_iff, Candidate.shifted, shift_lt, shift_inj]
  rfl

section
variable {casefold : String → String} {float : String → Option PyFloat}

theorem parseRange_shifted (i position : Nat) (rawRange : List Char) :
    parseRange casefold float rawRange (shift i position) =
      (parseRange casefold float rawRange position).map (ParsedRange.shifted i) := by
  unfold parseRange
  cases rangeTag casefold rawRange with
  | none => rfl
  | some languageRange =>
    cases parametersQuality casefold float (rangeParts rawRange).tail with
    | none => rfl
    | some quality => rfl

theorem parsedOf_cons (rawRange : List Char) (rawRanges : List (List Char)) (start : Nat) :
    parsedOf casefold float (rawRange :: rawRanges) start =
      (parseRange casefold float rawRange start).toList ++
        parsedOf casefold float rawRanges (start + 1) := by
  unfold parsedOf
  rw [List.zipIdx_cons, List.filterMap_cons]
  cases parseRange casefold float rawRange start with
  | none => rfl
  | some range => rfl

theorem parsedOf_behind {i start : Nat} (h : i ≤ start) (rawRanges : List (List Char)) :
    parsedOf casefold float rawRanges (start + 1) =
      (parsedOf casefold float rawRanges start).map (ParsedRange.shifted i) := by
  induction rawRanges generalizing start with
  | nil => rfl
  | cons rawRange rawRanges ih =>
    have hshift : shift i start = start + 1 := if_neg (by omega)
    rw [parsedOf_cons, parsedOf_cons, List.map_append, ih (by omega), ← hshift,
      parseRange_shifted, Option.toList_map]

theorem parsedOf_eraseIdx {i : Nat} {rawRanges : List (List Char)} {rawRange : List Char}
    (hget : rawRanges[i]? = some rawRange) (hbad : Malformed casefold float rawRange) (start : Nat) :
    parsedOf casefold float rawRanges start =
      (parsedOf casefold float (rawRanges.eraseIdx i) start).map
        (ParsedRange.shifted (start + i)) := by
  induction rawRanges generalizing i start with
  | nil => cases hget
  | cons first rawRanges ih =>
    cases i with
    | zero =>
      have hfirst : first = rawRange := Option.some_inj.mp hget
      rw [parsedOf_cons, hfirst, parseRange_malformed start hbad]
      exact parsedOf_behind (Nat.le_refl start) rawRanges
    | succ i =>
      have hshift : shift (start + (i + 1)) start = start := if_pos (by omega)
      rw [List.eraseIdx_cons_succ, parsedOf_cons, parsedOf_cons, List.map_append,
        ih hget (start + 1), ← Option.toList_map, ← parseRange_shifted, hshift,
        show start + 1 + i = start + (i + 1) by omega]

variable {parsed : List ParsedRange}

theorem localeMatches_shifted (i : Nat) (locale : String) :
    localeMatches (parsed.map (ParsedRange.shifted i)) locale =
      (localeMatches parsed locale).map (Match.shifted i) := by
  unfold localeMatches
  rw [List.filterMap_map, List.map_filterMap]
  refine congrArg (fun f => parsed.filterMap f) (funext fun range => ?_)
  show (matchSpecificity range.languageRange locale).map _ = Option.map _ (Option.map _ _)
  rw [Option.map_map]
  rfl

theorem effectiveMatch_shifted (i : Nat) (locale : String) :
    effectiveMatch (parsed.map (ParsedRange.shifted i)) locale =
      (effectiveMatch parsed locale).map (Match.shifted i) := by
  unfold effectiveMatch
  rw [localeMatches_shifted, best_map (Match.shifted_less i)]

theorem candidates_shifted (i : Nat) :
    candidates (parsed.map (ParsedRange.shifted i)) =
      (candidates parsed).map (Candidate.shifted i) := by
  unfold candidates
  rw [List.map_filterMap]
  refine congrArg (fun f => List.filterMap f supportedLocales.zipIdx) (funext fun entry => ?_)
  unfold candidateOf
  rw [effectiveMatch_shifted]
  cases effectiveMatch parsed entry.1 with
  | none => rfl
  | some m =>
    show (if 0 < m.quality then _ else none) = Option.map _ (if 0 < m.quality then _ else none)
    rw [apply_ite (Option.map (Candidate.shifted i))]
    rfl

theorem fallback_shifted (i : Nat) :
    fallbackLocale (parsed.map (ParsedRange.shifted i)) = fallbackLocale parsed := by
  unfold fallbackLocale
  simp only [effectiveMatch_shifted, Option.isNone_map]
  cases effectiveMatch parsed defaultLocale with
  | none => rfl
  | some m => rfl

/-- **only the order of the positions matters** -/
theorem chosen_shifted (i : Nat) :
    chosenLocale (parsed.map (ParsedRange.shifted i)) = chosenLocale parsed := by
  unfold chosenLocale
  rw [candidates_shifted, best_map (fun c c' => Candidate.shifted_less i c' c), fallback_shifted]
  cases best (fun c c' => Candidate.less c' c) (candidates parsed) with
  | none => rfl
  | some c => rfl

end

/-! ## headers -/

theorem intercalate_sublist {α : Type} {sep : List α} {parts parts' : List (List α)}
    (h : parts.Sublist parts') : (sep.intercalate parts).Sublist (sep.intercalate parts') := by
  induction h with
  | slnil => exact List.Sublist.refl _
  | @cons parts parts' part h ih =>
    cases parts' with
    | nil =>
      rw [List.sublist_nil.mp h]
      exact List.nil_sublist _
    | cons next parts' =>
      rw [List.intercalate_cons_cons]
      exact ih.trans (List.sublist_append_right _ _)
  | @cons_cons parts parts' part h ih =>
    cases parts' with
    | nil =>
      rw [List.sublist_nil.mp h]
    | cons next parts' =>
      rw [List.intercalate_cons_cons]
      cases parts with
      | nil =>
        rw [List.intercalate_singleton, List.append_assoc]
        exact List.sublist_append_left _ _
      | cons next' parts =>
        rw [List.intercalate_cons_cons]
        exact List.Sublist.append (List.Sublist.refl _) ih

theorem not_mem_of_mem_splitOn {α : Type} [DecidableEq α] {sep : α} {text part : List α}
    (h : part ∈ text.splitOn sep) : sep ∉ part := by
  induction text generalizing part with
  | nil =>
    rw [List.splitOn_nil, List.mem_singleton] at h
    rw [h]
    exact List.not_mem_nil
  | cons c text ih =>
    rw [List.splitOn_cons_eq_if_modifyHead] at h
    cases hparts : text.splitOn sep with
    | nil => exact absurd hparts (List.splitOn_ne_nil sep text)
    | cons first parts =>
      rw [hparts] at h ih
      by_cases hc : c = sep
      · rw [if_pos (beq_iff_eq.mpr hc)] at h
        rcases List.mem_cons.mp h with rfl | hrest
        · exact List.not_mem_nil
        · exact ih hrest
      · rw [if_neg (by rwa [beq_iff_eq]), List.modifyHead_cons] at h
        rcases List.mem_cons.mp h with rfl | hrest
        · rw [List.mem_cons, not_or]
          exact ⟨fun hsame => hc hsame.symm, ih List.mem_cons_self⟩
        · exact ih (List.mem_cons_of_mem first hrest)

/-- the raw ranges of a header -/
def rawRanges (header : String) : List (List Char) := header.toList.splitOn ','

/-- the header without its range at `i` -/
def withoutRange (header : String) (i : Nat) : String :=
  String.ofList ([','].intercalate ((rawRanges header).eraseIdx i))

/-- within the limits and without control characters, as `select_locale` checks them -/
structure Bounded (header : String) : Prop where
  length : header.length ≤ maxAcceptLanguageLength
  count : (rawRanges header).length ≤ maxLanguageRanges
  plain : ∀ c ∈ header.toList, 32 ≤ c.toNat ∨ c = '\t'

section
variable {casefold : String → String} {float : String → Option PyFloat} {header : String}

theorem selectLocale_bounded (h : Bounded header) :
    selectLocale casefold float (some header) =
      chosenLocale (parsedOf casefold float (rawRanges header) 0) := by
  show (if header = "" ∨ _ ∨ _ then _ else _) = _
  have hparsed : parsedRanges casefold float header =
      parsedOf casefold float (rawRanges header) 0 := by
    show List.filterMap _ ((List.take maxLanguageRanges (rawRanges header)).zipIdx) = _
    rw [List.take_of_length_le h.count]
    rfl
  by_cases hempty : header = ""
  · rw [if_pos (.inl hempty), hempty]
    rfl
  · have hplain : (header.toList.any fun c => decide (c.toNat < 32) && c != '\t') ≠ true := by
      rw [Ne, List.any_eq_true]
      rintro ⟨c, hc, hcontrol⟩
      rw [Bool.and_eq_true, decide_eq_true_eq, bne_iff_ne] at hcontrol
      rcases h.plain c hc with hprint | htab
      · omega
      · exact hcontrol.2 htab
    rw [if_neg (by rintro (he | hl | hc); exacts [hempty he, Nat.not_lt.mpr h.length hl, hplain hc]),
      hparsed]

theorem withoutRange_toList (i : Nat) :
    (withoutRange header i).toList.Sublist header.toList := by
  have h : ([','].intercalate ((rawRanges header).eraseIdx i)).Sublist
      ([','].intercalate (rawRanges header)) := intercalate_sublist (List.eraseIdx_sublist _ _)
  rw [withoutRange, String.toList_ofList]
  rwa [rawRanges, List.intercalate_splitOn] at h

theorem rawRanges_without (i : Nat) (h : (rawRanges header).eraseIdx i ≠ []) :
    rawRanges (withoutRange header i) = (rawRanges header).eraseIdx i := by
  rw [rawRanges, withoutRange, String.toList_ofList]
  refine List.splitOn_intercalate ',' (fun part hpart => ?_) h
  exact not_mem_of_mem_splitOn ((List.eraseIdx_sublist _ _).subset hpart)

theorem Bounded.without (h : Bounded header) (i : Nat) : Bounded (withoutRange header i) where
  length := by
    have hlength : (withoutRange header i).toList.length ≤ header.toList.length :=
      (withoutRange_toList i).length_le
    rw [String.length_toList, String.length_toList] at hlength
    exact hlength.trans h.length
  count := by
    by_cases hnil : (rawRanges header).eraseIdx i = []
    · rw [withoutRange, hnil]
      exact (by decide : (rawRanges "").length ≤ maxLanguageRanges)
    · rw [rawRanges_without i hnil]
      exact (List.eraseIdx_sublist _ _).length_le.trans h.count
  plain := fun c hc => h.plain c ((withoutRange_toList i).subset hc)

/-- **a malformed range can be deleted** -/
theorem selectLocale_without (h : Bounded header) {i : Nat} {rawRange : List Char}
    (hget : (rawRanges header)[i]? = some rawRange) (hbad : Malformed casefold float rawRange) :
    selectLocale casefold float (some (withoutRange header i)) =
      selectLocale casefold float (some header) := by
  rw [selectLocale_bounded h, selectLocale_bounded (h.without i), parsedOf_eraseIdx hget hbad 0,
    chosen_shifted]
  by_cases hnil : (rawRanges header).eraseIdx i = []
  · rw [hnil, withoutRange, hnil]
    rfl
  · rw [rawRanges_without i hnil]

theorem effectiveMatch_nonneg {rawRanges : List (List Char)} {locale : String} {m : Match}
    (hm : effectiveMatch (parsedOf casefold float rawRanges 0) locale = some m) :
    0 ≤ m.quality := by
  obtain ⟨rawRange, languageRange, hraw, ⟨htag, hstated⟩, hmatch⟩ :=
    mem_localeMatches.mp (best_mem hm)
  rcases hstated with ⟨-, hone⟩ | ⟨parameter, -, -, hzero, -⟩
  · rw [hone]
    exact zero_le_one
  · exact hzero

end

/-- **the locale selected is supported, preferred and not refused, and malformed ranges do not
matter** -/
theorem locale_negotiated (casefold : String → String) (float : String → Option PyFloat)
    {header : String} (h : Bounded header) :
    selectLocale casefold float (some header) ∈ supportedLocales ∧
      (∀ locale ∈ supportedLocales, ∀ quality,
        Effective casefold float (rawRanges header) locale quality → 0 < quality →
          ∃ best, 0 < best ∧
            Effective casefold float (rawRanges header)
              (selectLocale casefold float (some header)) best ∧
            ∀ locale' ∈ supportedLocales, ∀ quality',
              Effective casefold float (rawRanges header) locale' quality' → quality' ≤ best) ∧
      (Effective casefold float (rawRanges header) (selectLocale casefold float (some header)) 0 →
        ∀ locale ∈ supportedLocales, Effective casefold float (rawRanges header) locale 0) ∧
      ∀ i rawRange, (rawRanges header)[i]? = some rawRange → Malformed casefold float rawRange →
        selectLocale casefold float (some (withoutRange header i)) =
          selectLocale casefold float (some header) := by
  rw [selectLocale_bounded h]
  cases hchosen : best (fun c c' => Candidate.less c' c)
      (candidates (parsedOf casefold float (rawRanges header) 0)) with
  | some c =>
    have hlocale : chosenLocale (parsedOf casefold float (rawRanges header) 0) = c.locale := by
      rw [chosenLocale, hchosen]
    obtain ⟨hsupported, m, hm, hpos, hbest⟩ := chosen_candidate hchosen
    have heffective : Effective casefold float (rawRanges header) c.locale m.quality :=
      effective_iff.mpr ⟨m, hm, rfl⟩
    rw [hlocale]
    refine ⟨hsupported, fun locale hl quality hq hqpos => ?_, fun hzero => ?_,
      fun i rawRange hget hbad => ?_⟩
    · refine ⟨m.quality, hpos, heffective, fun locale' hl' quality' hq' => ?_⟩
      obtain ⟨m', hm', rfl⟩ := effective_iff.mp hq'
      exact hbest locale' hl' m' hm'
    · exact absurd (effective_unique hzero heffective) (ne_of_lt hpos)
    · rw [selectLocale_without h hget hbad, selectLocale_bounded h, hlocale]
  | none =>
    have hnone := best_eq_none hchosen
    have hlocale : chosenLocale (parsedOf casefold float (rawRanges header) 0) =
        fallbackLocale (parsedOf casefold float (rawRanges header) 0) := by
      rw [chosenLocale, hchosen]
    rw [hlocale]
    refine ⟨fallback_supported, fun locale hl quality hq hqpos => ?_, fun hzero => ?_,
      fun i rawRange hget hbad => ?_⟩
    · obtain ⟨m, hm, rfl⟩ := effective_iff.mp hq
      obtain ⟨c, hmem, -⟩ := candidate_exists hl hm hqpos
      rw [hnone] at hmem
      cases hmem
    · obtain ⟨m, hm, -⟩ := effective_iff.mp hzero
      intro locale hl
      obtain ⟨m', hm', hquality⟩ :=
        fallback_refused hnone (fun locale m => effectiveMatch_nonneg) hm locale hl
      exact effective_iff.mpr ⟨m', hm', hquality⟩
    · rw [selectLocale_without h hget hbad, selectLocale_bounded h, hlocale]

/-- the numbers of the header below -/
def sampleFloat (text : String) : Option PyFloat :=
  [("0", PyFloat.number 0), ("0.5", .number (1 / 2)), ("nan", .nan)].lookup text

def sampleHeader : String := "zh-CN;q=0, zh;q=nan, fr, EN-us; q=0.5"

theorem sampleHeader_bounded : Bounded sampleHeader where
  length := by decide +kernel
  count := by decide +kernel
  plain := by
    have hall : (sampleHeader.toList.all fun c => decide (32 ≤ c.toNat)) = true := by decide +kernel
    intro c hc
    exact .inl (of_decide_eq_true (List.all_eq_true.mp hall c hc))

theorem sampleHeader_malformed :
    Malformed asciiCasefold sampleFloat " zh;q=nan".toList := by
  refine .inr fun quality h => ?_
  rw [← parametersQuality_iff,
    show parametersQuality asciiCasefold sampleFloat (rangeParts " zh;q=nan".toList).tail = none by
      decide +kernel] at h
  cases h

/-- the default is refused, and a range without a number is ignored -/
theorem locale_negotiated_sample :
    selectLocale asciiCasefold sampleFloat (some sampleHeader) = "en" ∧
      selectLocale asciiCasefold sampleFloat (some (withoutRange sampleHeader 1)) =
        selectLocale asciiCasefold sampleFloat (some sampleHeader) :=
  ⟨by decide +kernel,
    (locale_negotiated asciiCasefold sampleFloat sampleHeader_bounded).2.2.2 1 _
      (by decide +kernel) sampleHeader_malformed⟩

end PgRbac.I18n
