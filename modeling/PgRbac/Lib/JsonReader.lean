import Mathlib.Data.List.TakeWhile
import PgRbac.Lib.Except
import PgRbac.Lib.IpAddress
import PgRbac.Lib.Json

/-!
# Reading JSON texts

The reader of Python's `json.loads`: integers of at most 4300 digits, `NaN` and the infinities,
lone surrogates in escapes, and the last value of a key that stands twice.  A text is read from its
front; what is left of it is returned with the value.

* `loads`            the reader; a bound on the recursion is part of it;
* `nesting`          how deep the brackets of a text are nested, quoted brackets apart;
* `loads_error`      with a text that is not nested too deep, every failure is an error in the text.
-/

set_option linter.unusedSectionVars false
set_option linter.unusedVariables false

namespace JsonReader

open Fallible

/-! ## values -/

/-- a text as its code points, lone surrogates among them -/
abbrev Points := List Nat

def points (s : String) : Points := s.toList.map Char.toNat

theorem toNat_injective : Function.Injective Char.toNat :=
  fun c d h => Char.ext (UInt32.toNat_inj.mp h)

theorem points_injective : Function.Injective points :=
  fun s t h => String.toList_inj.mp (List.map_injective_iff.mpr toNat_injective h)

/-- a value that was read; a floating-point number is kept as its literal -/
inductive Value where
  | null
  | bool (b : Bool)
  | int (n : Int)
  | float (literal : List Char)
  | str (s : Points)
  | array (items : List Value)
  | object (fields : List (Points × Value))

/-- `malformed` is an error in the text, `recursion` a text that is nested too deep; `unfinished` is
a loop that was cut off, which never happens -/
inductive Error where
  | malformed
  | recursion
  | unfinished
deriving DecidableEq, Repr

/-- what is read at the front of a text, with what is left of it -/
abbrev Reader (α : Type) := List Char → Except Error (α × List Char)

def skipSpace (s : List Char) : List Char := s.dropWhile fun c => [' ', '\t', '\n', '\r'].contains c

/-! ## strings -/

/-- inside a string, behind a backslash, or before the last `left + 1` digits of an escape -/
inductive Mode where
  | plain
  | escape
  | hex (left unit : Nat)

def simpleEscape (c : Char) : Option Nat :=
  [('"', 34), ('\\', 92), ('/', 47), ('b', 8), ('f', 12), ('n', 10), ('r', 13), ('t', 9)].lookup c

/-- a unit in front of a text: the two halves of a surrogate pair are one code point -/
def push (unit : Nat) (s : Points) : Points :=
  match s with
  | [] => [unit]
  | low :: rest =>
    if 0xD800 ≤ unit ∧ unit < 0xDC00 ∧ 0xDC00 ≤ low ∧ low < 0xE000 then
      (0x10000 + (unit - 0xD800) * 0x400 + (low - 0xDC00)) :: rest
    else unit :: low :: rest

/-- the rest of a string, with its closing quote -/
def string : Mode → Reader Points
  | _, [] => .error .malformed
  | .plain, c :: rest =>
    if c = '"' then .ok ([], rest)
    else if c = '\\' then string .escape rest
    else if c.toNat < 32 then .error .malformed
    else do
      let s ← string .plain rest
      .ok (push c.toNat s.1, s.2)
  | .escape, c :: rest =>
    if c = 'u' then string (.hex 3 0) rest
    else match simpleEscape c with
      | none => .error .malformed
      | some unit => do
        let s ← string .plain rest
        .ok (push unit s.1, s.2)
  | .hex left unit, c :: rest =>
    match Ip.hexValue c with
    | none => .error .malformed
    | some digit =>
      if left = 0 then do
        let s ← string .plain rest
        .ok (push (unit * 16 + digit) s.1, s.2)
      else string (.hex (left - 1) (unit * 16 + digit)) rest

/-! ## numbers and words -/

/-- what `part` leaves of a text -/
def behind (part : List Char → List Char) (s : List Char) : List Char := s.drop (part s).length

/-- two parts, one behind the other -/
def andThen (first second : List Char → List Char) (s : List Char) : List Char :=
  first s ++ second (behind first s)

def oneOf (signs s : List Char) : List Char := (s.take 1).filter signs.contains

def digits (s : List Char) : List Char := s.takeWhile Char.isDigit

/-- the integer part: a zero, or digits that do not begin with one -/
def whole (s : List Char) : List Char := if s.head? = some '0' then ['0'] else digits s

/-- a point with digits behind it, or nothing -/
def fraction (s : List Char) : List Char :=
  if oneOf ['.'] s ≠ [] ∧ digits (behind (oneOf ['.']) s) ≠ [] then andThen (oneOf ['.']) digits s
  else []

/-- an exponent with digits, or nothing -/
def exponent (s : List Char) : List Char :=
  let letter := oneOf ['e', 'E']
  let sign := oneOf ['+', '-']
  if letter s ≠ [] ∧ digits (behind sign (behind letter s)) ≠ [] then
    andThen letter (andThen sign digits) s
  else []

/-- an integer of more digits is not converted -/
def maxDigits : Nat := 4300

def number : Reader Value := fun s =>
  let unsigned := behind (oneOf ['-']) s
  let s₂ := behind whole unsigned
  let s₃ := behind fraction s₂
  if whole unsigned = [] then .error .malformed
  else if fraction s₂ = [] ∧ exponent s₃ = [] then
    if maxDigits < (whole unsigned).length then .error .malformed
    else if oneOf ['-'] s = [] then .ok (.int (Nat.ofDigitChars 10 (whole unsigned) 0), s₂)
    else .ok (.int (-(Nat.ofDigitChars 10 (whole unsigned) 0 : Int)), s₂)
  else .ok (.float (oneOf ['-'] s ++ whole unsigned ++ fraction s₂ ++ exponent s₃),
    behind exponent s₃)

def words : List (List Char × Value) :=
  [("null".toList, .null), ("true".toList, .bool true), ("false".toList, .bool false),
    ("NaN".toList, .float "NaN".toList), ("Infinity".toList, .float "Infinity".toList),
    ("-Infinity".toList, .float "-Infinity".toList)]

/-- what is not a container -/
def leaf : Reader Value := fun s =>
  if s.head? = some '"' then do
    let t ← string .plain s.tail
    .ok (.str t.1, t.2)
  else match words.find? fun word => word.1.isPrefixOf s with
    | some word => .ok (word.2, s.drop word.1.length)
    | none => number s

/-! ## containers -/

section
variable {α : Type}

/-- elements with commas between them, up to the closing bracket -/
def sequence (close : Char) (element : Reader α) : Nat → Reader (List α)
  | 0, _ => .error .unfinished
  | fuel + 1, s => do
    let a ← element s
    let rest := skipSpace a.2
    if rest.head? = some close then .ok ([a.1], rest.tail)
    else if rest.head? = some ',' then do
      let more ← sequence close element fuel (skipSpace rest.tail)
      .ok (a.1 :: more.1, more.2)
    else .error .malformed

/-- what stands behind an opening bracket -/
def elements (close : Char) (element : Reader α) : Reader (List α) := fun s =>
  if (skipSpace s).head? = some close then .ok ([], (skipSpace s).tail)
  else sequence close element ((skipSpace s).length + 1) (skipSpace s)

/-- a container with its brackets -/
def container (close : Char) (element : Reader α) (build : List α → Value) : Reader Value := fun s =>
  do
    let l ← elements close element s.tail
    .ok (build l.1, l.2)

/-- a key, a colon and a value -/
def member (read : Reader α) : Reader (Points × α) := fun s =>
  if s.head? = some '"' then do
    let key ← string .plain s.tail
    if (skipSpace key.2).head? = some ':' then do
      let a ← read (skipSpace (skipSpace key.2).tail)
      .ok ((key.1, a.1), a.2)
    else .error .malformed
  else .error .malformed

/-- an assignment to a key of a dictionary -/
def put (fields : List (Points × α)) (field : Points × α) : List (Points × α) :=
  if field.1 ∈ fields.map Prod.fst then
    fields.map fun old => if old.1 = field.1 then field else old
  else fields ++ [field]

/-- the dictionary of the pairs: the last value of a key counts -/
def dict (pairs : List (Points × α)) : List (Points × α) := pairs.foldl put []

end

/-- a value with at most `limit` containers in each other -/
def value : Nat → Reader Value
  | 0, s => if s.head? = some '[' ∨ s.head? = some '{' then .error .recursion else leaf s
  | limit + 1, s =>
    if s.head? = some '[' then container ']' (value limit) .array s
    else if s.head? = some '{' then
      container '}' (member (value limit)) (fun pairs => .object (dict pairs)) s
    else leaf s

/-- `json.loads` -/
def loads (limit : Nat) (s : List Char) : Except Error Value :=
  if s.head? = some '\uFEFF' then .error .malformed
  else do
    let v ← value limit (skipSpace s)
    if skipSpace v.2 = [] then .ok v.1 else .error .malformed

/-! ## nesting -/

/-- where a character stands: outside of the strings, in one, or behind a backslash in one -/
inductive Place where
  | outside
  | quoted
  | escaped

namespace Place

def next : Place → Char → Place
  | .outside, c => if c = '"' then .quoted else .outside
  | .quoted, c => if c = '"' then .outside else if c = '\\' then .escaped else .quoted
  | .escaped, _ => .quoted

/-- how many brackets are open behind a character -/
def depth : Place → Nat → Char → Nat
  | .outside, d, c => if c = '[' ∨ c = '{' then d + 1 else if c = ']' ∨ c = '}' then d - 1 else d
  | .quoted, d, _ => d
  | .escaped, d, _ => d

end Place

/-- the largest number of brackets that are open at a time -/
def deepest (p : Place) (d : Nat) : List Char → Nat
  | [] => d
  | c :: rest => max d (deepest (p.next c) (p.depth d c) rest)

def nesting (s : List Char) : Nat := deepest .outside 0 s

theorem deepest_cons_le (p : Place) (d : Nat) (c : Char) (rest : List Char) :
    deepest (p.next c) (p.depth d c) rest ≤ deepest p d (c :: rest) := Nat.le_max_right _ _

theorem le_deepest (p : Place) (d : Nat) (s : List Char) : d ≤ deepest p d s := by
  cases s with
  | nil => exact Nat.le_refl d
  | cons c rest => exact Nat.le_max_left _ _

/-- `rest` is left of a text, behind as many closing brackets as opening ones -/
def Leaves (s rest : List Char) : Prop :=
  rest.length ≤ s.length ∧ ∀ d, deepest .outside d rest ≤ deepest .outside d s

theorem Leaves.refl (s : List Char) : Leaves s s := ⟨Nat.le_refl _, fun d => Nat.le_refl _⟩

theorem Leaves.trans {s t u : List Char} (h : Leaves s t) (h' : Leaves t u) : Leaves s u :=
  ⟨h'.1.trans h.1, fun d => (h'.2 d).trans (h.2 d)⟩

/-- a character that neither a string nor a container begins or ends with -/
def calm (c : Char) : Bool := !(['"', '[', ']', '{', '}'].contains c)

theorem leaves_cons {c : Char} (h : calm c = true) (rest : List Char) : Leaves (c :: rest) rest := by
  have hc : c ≠ '"' ∧ c ≠ '[' ∧ c ≠ ']' ∧ c ≠ '{' ∧ c ≠ '}' := by simpa [calm] using h
  obtain ⟨hquote, hopen, hclose, hopen', hclose'⟩ := hc
  refine ⟨Nat.le_succ _, fun d => ?_⟩
  have hnext : Place.outside.next c = .outside := if_neg hquote
  have hdepth : Place.outside.depth d c = d := by
    show (if c = '[' ∨ c = '{' then d + 1 else if c = ']' ∨ c = '}' then d - 1 else d) = d
    rw [if_neg (by simp [hopen, hopen']), if_neg (by simp [hclose, hclose'])]
  have hle := deepest_cons_le .outside d c rest
  rw [hnext, hdepth] at hle
  exact hle

theorem leaves_append {taken : List Char} (h : ∀ c ∈ taken, calm c = true) (rest : List Char) :
    Leaves (taken ++ rest) rest := by
  induction taken with
  | nil => exact Leaves.refl rest
  | cons c taken ih =>
    rw [List.forall_mem_cons] at h
    exact (leaves_cons h.1 (taken ++ rest)).trans (ih h.2)

theorem leaves_drop {taken s : List Char} (hpre : taken <+: s) (h : ∀ c ∈ taken, calm c = true) :
    Leaves s (s.drop taken.length) := by
  obtain ⟨rest, rfl⟩ := hpre
  rw [List.drop_left]
  exact leaves_append h rest

theorem leaves_skipSpace (s : List Char) : Leaves s (skipSpace s) := by
  have hspace : ∀ c ∈ s.takeWhile fun c => [' ', '\t', '\n', '\r'].contains c, calm c = true := by
    intro c hc
    have hmem : c ∈ [' ', '\t', '\n', '\r'] := by simpa using List.mem_takeWhile_imp hc
    have hall : [' ', '\t', '\n', '\r'].all calm = true := by decide
    exact List.all_eq_true.mp hall c hmem
  have h := leaves_append hspace (skipSpace s)
  unfold skipSpace at h ⊢
  rw [List.takeWhile_append_dropWhile] at h
  exact h

/-! ## what the readers leave -/

/-- the place in which a string is read further -/
def Mode.place : Mode → Place
  | .plain => .quoted
  | .escape => .escaped
  | .hex _ _ => .quoted

theorem hexValue_quoted {c : Char} {n : Nat} (h : Ip.hexValue c = some n) :
    Place.quoted.next c = .quoted := by
  have hquote : c ≠ '"' := fun hc => by
    rw [hc] at h
    cases h
  have hslash : c ≠ '\\' := fun hc => by
    rw [hc] at h
    cases h
  show (if c = '"' then Place.outside else if c = '\\' then .escaped else .quoted) = .quoted
  rw [if_neg hquote, if_neg hslash]

theorem string_leaves {mode : Mode} {s rest : List Char} {t : Points}
    (h : string mode s = .ok (t, rest)) :
    rest.length ≤ s.length ∧ ∀ d, deepest .outside d rest ≤ deepest mode.place d s := by
  induction s generalizing mode t with
  | nil =>
    cases mode <;> cases h
  | cons c s ih =>
    -- one character is taken, and the rest is read in the next mode
    have hstep {mode' : Mode} {t' : Points} (hrest : string mode' s = .ok (t', rest))
        (hnext : mode.place.next c = mode'.place) (hdepth : ∀ d, mode.place.depth d c = d) :
        rest.length ≤ (c :: s).length ∧
          ∀ d, deepest .outside d rest ≤ deepest mode.place d (c :: s) := by
      obtain ⟨hlength, hdeep⟩ := ih hrest
      refine ⟨hlength.trans (Nat.le_succ _), fun d => (hdeep d).trans ?_⟩
      have hle := deepest_cons_le mode.place d c s
      rw [hnext, hdepth d] at hle
      exact hle
    cases mode with
    | plain =>
      unfold string at h
      split at h
      · rename_i hquote
        cases h
        refine ⟨Nat.le_succ _, fun d => ?_⟩
        have hle := deepest_cons_le .quoted d c rest
        rw [show Place.quoted.next c = .outside from if_pos hquote] at hle
        exact hle
      · rename_i hquote
        split at h
        · rename_i hslash
          refine hstep h ?_ fun d => rfl
          show (if c = '"' then Place.outside else if c = '\\' then .escaped else .quoted) = .escaped
          rw [if_neg hquote, if_pos hslash]
        · rename_i hslash
          split at h
          · cases h
          · simp only [bind_ok, Except.ok.injEq, Prod.mk.injEq] at h
            obtain ⟨⟨t', rest'⟩, hrest, -, rfl⟩ := h
            refine hstep hrest ?_ fun d => rfl
            show (if c = '"' then Place.outside else if c = '\\' then .escaped else .quoted) = .quoted
            rw [if_neg hquote, if_neg hslash]
    | escape =>
      unfold string at h
      split at h
      · exact hstep h rfl fun d => rfl
      · split at h
        · cases h
        · simp only [bind_ok, Except.ok.injEq, Prod.mk.injEq] at h
          obtain ⟨⟨t', rest'⟩, hrest, -, rfl⟩ := h
          exact hstep hrest rfl fun d => rfl
    | hex left unit =>
      unfold string at h
      split at h
      · cases h
      · rename_i digit hdigit
        split at h
        · simp only [bind_ok, Except.ok.injEq, Prod.mk.injEq] at h
          obtain ⟨⟨t', rest'⟩, hrest, -, rfl⟩ := h
          exact hstep hrest (hexValue_quoted hdigit) fun d => rfl
        · exact hstep h (hexValue_quoted hdigit) fun d => rfl

theorem string_error {mode : Mode} {s : List Char} {e : Error} (h : string mode s = .error e) :
    e = .malformed := by
  induction s generalizing mode with
  | nil => cases mode <;> exact (Except.error.inj h).symm
  | cons c s ih =>
    cases mode with
    | plain =>
      unfold string at h
      split at h
      · cases h
      · split at h
        · exact ih h
        · split at h
          · exact (Except.error.inj h).symm
          · rcases (bind_error _ _ _).mp h with hrest | ⟨t, -, hnone⟩
            · exact ih hrest
            · cases hnone
    | escape =>
      unfold string at h
      split at h
      · exact ih h
      · split at h
        · exact (Except.error.inj h).symm
        · rcases (bind_error _ _ _).mp h with hrest | ⟨t, -, hnone⟩
          · exact ih hrest
          · cases hnone
    | hex left unit =>
      unfold string at h
      split at h
      · exact (Except.error.inj h).symm
      · split at h
        · rcases (bind_error _ _ _).mp h with hrest | ⟨t, -, hnone⟩
          · exact ih hrest
          · cases hnone
        · exact ih h

/-- a part of a number: characters at the front of a text, without quotes and brackets -/
def Calm (part : List Char → List Char) : Prop :=
  ∀ s, part s <+: s ∧ ∀ c ∈ part s, calm c = true

theorem leaves_behind {part : List Char → List Char} (h : Calm part) (s : List Char) :
    Leaves s (behind part s) := leaves_drop (h s).1 (h s).2

theorem calm_of_isDigit {c : Char} (h : c.isDigit = true) : calm c = true := by
  by_contra hc
  have hmem : ['"', '[', ']', '{', '}'].contains c = true := by
    rw [calm, Bool.not_eq_true, Bool.not_eq_false'] at hc
    exact hc
  have hall : ['"', '[', ']', '{', '}'].all (fun c => !c.isDigit) = true := by decide
  have hnot := List.all_eq_true.mp hall c (List.contains_iff_mem.mp hmem)
  rw [h] at hnot
  cases hnot

theorem Calm.andThen {first second : List Char → List Char} (h : Calm first) (h' : Calm second) :
    Calm (andThen first second) := by
  intro s
  refine ⟨?_, fun c hc => ?_⟩
  · have hwhole := List.prefix_iff_eq_append.mp (h s).1
    have hpre := (List.prefix_append_right_inj (first s)).mpr (h' (behind first s)).1
    rw [behind, hwhole] at hpre
    exact hpre
  · rcases List.mem_append.mp hc with hc | hc
    · exact (h s).2 c hc
    · exact (h' (behind first s)).2 c hc

theorem calm_nil (s : List Char) : [] <+: s ∧ ∀ c ∈ ([] : List Char), calm c = true :=
  ⟨List.nil_prefix, fun c hc => absurd hc List.not_mem_nil⟩

theorem calm_oneOf {signs : List Char} (h : signs.all calm = true) : Calm (oneOf signs) := by
  intro s
  refine ⟨?_, fun c hc => ?_⟩
  · cases s with
    | nil => exact List.nil_prefix
    | cons c rest =>
      show [c].filter signs.contains <+: c :: rest
      by_cases hc : signs.contains c = true
      · rw [List.filter_cons_of_pos hc]
        exact ⟨rest, rfl⟩
      · rw [List.filter_cons_of_neg hc]
        exact List.nil_prefix
  · have hmem := (List.mem_filter.mp hc).2
    exact List.all_eq_true.mp h c (List.contains_iff_mem.mp hmem)

theorem calm_digits : Calm digits :=
  fun s => ⟨List.takeWhile_prefix _, fun c hc => calm_of_isDigit (List.mem_takeWhile_imp hc)⟩

theorem calm_whole : Calm whole := by
  intro s
  unfold whole
  split
  · rename_i hzero
    have hcalm : calm '0' = true := by decide
    refine ⟨?_, List.forall_mem_singleton.mpr hcalm⟩
    obtain ⟨rest, rfl⟩ := List.head?_eq_some_iff.mp hzero
    exact ⟨rest, rfl⟩
  · exact calm_digits s

theorem calm_fraction : Calm fraction := by
  intro s
  unfold fraction
  split
  · exact (calm_oneOf (by decide)).andThen calm_digits s
  · exact calm_nil s

theorem calm_exponent : Calm exponent := by
  intro s
  unfold exponent
  dsimp only
  split
  · exact (calm_oneOf (by decide)).andThen ((calm_oneOf (by decide)).andThen calm_digits) s
  · exact calm_nil s

theorem number_leaves {s rest : List Char} {v : Value} (h : number s = .ok (v, rest)) :
    Leaves s rest := by
  have hwhole : Leaves s (behind whole (behind (oneOf ['-']) s)) :=
    (leaves_behind (calm_oneOf (by decide)) s).trans (leaves_behind calm_whole _)
  unfold number at h
  dsimp only at h
  split at h
  · cases h
  · split at h
    · split at h
      · cases h
      · split at h
        · cases h
          exact hwhole
        · cases h
          exact hwhole
    · cases h
      exact (hwhole.trans (leaves_behind calm_fraction _)).trans (leaves_behind calm_exponent _)

theorem number_error {s : List Char} {e : Error} (h : number s = .error e) : e = .malformed := by
  unfold number at h
  dsimp only at h
  split at h
  · exact (Except.error.inj h).symm
  · split at h
    · split at h
      · exact (Except.error.inj h).symm
      · split at h <;> cases h
    · cases h

/-- what a reader of values with `limit` containers around another leaves, and how it fails -/
structure Bounded {α : Type} (limit : Nat) (read : Reader α) : Prop where
  leaves : ∀ {s a rest}, read s = .ok (a, rest) → Leaves s rest
  error : ∀ {s e}, read s = .error e →
    e = .malformed ∨ e = .recursion ∧ ∀ d, d + limit < deepest .outside d s

theorem leaves_of_string {s rest : List Char} {t : Points} (hquote : s.head? = some '"')
    (h : string .plain s.tail = .ok (t, rest)) : Leaves s rest := by
  obtain ⟨s, rfl⟩ := List.head?_eq_some_iff.mp hquote
  obtain ⟨hlength, hdeep⟩ := string_leaves h
  exact ⟨hlength.trans (Nat.le_succ _),
    fun d => (hdeep d).trans (deepest_cons_le .outside d '"' s)⟩

theorem leaf_bounded (limit : Nat) : Bounded limit leaf where
  leaves := by
    intro s v rest h
    unfold leaf at h
    split at h
    · rename_i hquote
      simp only [bind_ok, Except.ok.injEq, Prod.mk.injEq] at h
      obtain ⟨⟨t, rest'⟩, ht, -, rfl⟩ := h
      exact leaves_of_string hquote ht
    · split at h
      · rename_i word hword
        cases h
        have hcalm : words.all (fun word => word.1.all calm) = true := by decide
        have hpre := List.find?_some hword
        exact leaves_drop (List.isPrefixOf_iff_prefix.mp hpre)
          (List.all_eq_true.mp (List.all_eq_true.mp hcalm word (List.mem_of_find?_eq_some hword)))
      · exact number_leaves h
  error := by
    intro s e h
    refine .inl ?_
    unfold leaf at h
    split at h
    · rcases (bind_error _ _ _).mp h with ht | ⟨t, -, hnone⟩
      · exact string_error ht
      · cases hnone
    · split at h
      · cases h
      · exact number_error h

section
variable {α : Type} {limit : Nat}

/-- a separator is calm and leaves what is behind it -/
theorem leaves_separator {c : Char} {s : List Char} (hc : calm c = true)
    (h : (skipSpace s).head? = some c) : Leaves s (skipSpace (skipSpace s).tail) := by
  have hspace := leaves_skipSpace s
  obtain ⟨rest, hrest⟩ := List.head?_eq_some_iff.mp h
  rw [hrest] at hspace ⊢
  exact hspace.trans ((leaves_cons hc rest).trans (leaves_skipSpace rest))

theorem Bounded.member {read : Reader α} (h : Bounded limit read) :
    Bounded limit (member read) where
  leaves := by
    intro s field rest hread
    unfold JsonReader.member at hread
    split at hread
    · rename_i hquote
      simp only [bind_ok] at hread
      obtain ⟨⟨key, afterKey⟩, hkey, hread⟩ := hread
      dsimp only at hread
      split at hread
      · rename_i hcolon
        simp only [bind_ok, Except.ok.injEq, Prod.mk.injEq] at hread
        obtain ⟨⟨a, rest'⟩, ha, -, rfl⟩ := hread
        exact (leaves_of_string hquote hkey).trans
          ((leaves_separator (by decide) hcolon).trans (h.leaves ha))
      · cases hread
    · cases hread
  error := by
    intro s e hread
    unfold JsonReader.member at hread
    split at hread
    · rename_i hquote
      rcases (bind_error _ _ _).mp hread with hkey | ⟨⟨key, afterKey⟩, hkey, hread⟩
      · exact .inl (string_error hkey)
      · dsimp only at hread
        split at hread
        · rename_i hcolon
          rcases (bind_error _ _ _).mp hread with ha | ⟨a, -, hnone⟩
          · rcases h.error ha with hbad | ⟨hdeep, hlevel⟩
            · exact .inl hbad
            · have hleaves := (leaves_of_string hquote hkey).trans
                (leaves_separator (by decide) hcolon)
              exact .inr ⟨hdeep, fun d => (hlevel d).trans_le (hleaves.2 d)⟩
          · cases hnone
        · exact .inl (Except.error.inj hread).symm
    · exact .inl (Except.error.inj hread).symm

/-- `rest` is left of a text, behind one closing bracket more -/
def Closes (s rest : List Char) : Prop :=
  rest.length ≤ s.length ∧ ∀ d, deepest .outside d rest ≤ deepest .outside (d + 1) s

theorem Leaves.closes {s t rest : List Char} (h : Leaves s t) (h' : Closes t rest) :
    Closes s rest :=
  ⟨h'.1.trans h.1, fun d => (h'.2 d).trans (h.2 (d + 1))⟩

theorem closes_bracket {close : Char} {s : List Char} (hclose : close = ']' ∨ close = '}')
    (h : (skipSpace s).head? = some close) : Closes s (skipSpace s).tail := by
  have hspace := leaves_skipSpace s
  obtain ⟨rest, hrest⟩ := List.head?_eq_some_iff.mp h
  rw [hrest] at hspace ⊢
  refine hspace.closes ⟨Nat.le_succ _, fun d => ?_⟩
  have hle := deepest_cons_le .outside (d + 1) close rest
  rcases hclose with rfl | rfl
  · exact hle
  · exact hle

theorem sequence_leaves {close : Char} {element : Reader α} (h : Bounded limit element)
    (hclose : close = ']' ∨ close = '}') (fuel : Nat) {s rest : List Char} {l : List α}
    (hread : sequence close element fuel s = .ok (l, rest)) : Closes s rest := by
  induction fuel generalizing s l with
  | zero => cases hread
  | succ fuel ih =>
    unfold sequence at hread
    simp only [bind_ok] at hread
    obtain ⟨⟨a, afterElement⟩, ha, hread⟩ := hread
    have hleaves := h.leaves ha
    dsimp only at hread
    split at hread
    · rename_i hend
      cases hread
      exact hleaves.closes (closes_bracket hclose hend)
    · split at hread
      · rename_i hcomma
        simp only [bind_ok, Except.ok.injEq, Prod.mk.injEq] at hread
        obtain ⟨⟨more, rest'⟩, hmore, -, rfl⟩ := hread
        exact (hleaves.trans (leaves_separator (by decide) hcomma)).closes (ih hmore)
      · cases hread

/-- each element takes a comma at least, so that the loop ends -/
theorem sequence_error {close : Char} {element : Reader α} (h : Bounded limit element)
    (fuel : Nat) {s : List Char} (hfuel : s.length < fuel) {e : Error}
    (hread : sequence close element fuel s = .error e) :
    e = .malformed ∨ e = .recursion ∧ ∀ d, d + limit < deepest .outside d s := by
  induction fuel generalizing s with
  | zero => exact absurd hfuel (Nat.not_lt_zero _)
  | succ fuel ih =>
    unfold sequence at hread
    rcases (bind_error _ _ _).mp hread with ha | ⟨⟨a, afterElement⟩, ha, hread⟩
    · exact h.error ha
    · have hleaves := h.leaves ha
      dsimp only at hread
      split at hread
      · cases hread
      · split at hread
        · rename_i hcomma
          have hnext := hleaves.trans (leaves_separator (by decide) hcomma)
          have hshort : (skipSpace (skipSpace afterElement).tail).length < fuel := by
            obtain ⟨rest, hrest⟩ := List.head?_eq_some_iff.mp hcomma
            have hspace := (leaves_skipSpace afterElement).1
            have htail := (leaves_skipSpace (skipSpace afterElement).tail).1
            have hle := hleaves.1
            rw [hrest] at hspace htail ⊢
            rw [List.length_cons] at hspace
            rw [List.tail_cons] at htail ⊢
            omega
          rcases (bind_error _ _ _).mp hread with hmore | ⟨more, -, hnone⟩
          · rcases ih hshort hmore with hbad | ⟨hdeep, hlevel⟩
            · exact .inl hbad
            · exact .inr ⟨hdeep, fun d => (hlevel d).trans_le (hnext.2 d)⟩
          · cases hnone
        · exact .inl (Except.error.inj hread).symm

theorem elements_leaves {close : Char} {element : Reader α} (h : Bounded limit element)
    (hclose : close = ']' ∨ close = '}') {s rest : List Char} {l : List α}
    (hread : elements close element s = .ok (l, rest)) : Closes s rest := by
  unfold elements at hread
  split at hread
  · rename_i hend
    cases hread
    exact closes_bracket hclose hend
  · exact (leaves_skipSpace s).closes (sequence_leaves h hclose _ hread)

theorem elements_error {close : Char} {element : Reader α} (h : Bounded limit element)
    {s : List Char} {e : Error} (hread : elements close element s = .error e) :
    e = .malformed ∨ e = .recursion ∧ ∀ d, d + limit < deepest .outside d s := by
  unfold elements at hread
  split at hread
  · cases hread
  · rcases sequence_error h _ (Nat.lt_succ_self _) hread with hbad | ⟨hdeep, hlevel⟩
    · exact .inl hbad
    · exact .inr ⟨hdeep, fun d => (hlevel d).trans_le ((leaves_skipSpace s).2 d)⟩

/-- an opening bracket is one level more for what stands behind it -/
theorem deepest_opened {bracket : Char} (h : bracket = '[' ∨ bracket = '{') (d : Nat)
    (s : List Char) : deepest .outside (d + 1) s ≤ deepest .outside d (bracket :: s) := by
  have hle := deepest_cons_le .outside d bracket s
  rcases h with rfl | rfl
  · exact hle
  · exact hle

theorem Closes.opened {bracket : Char} {s rest : List Char} (h : bracket = '[' ∨ bracket = '{')
    (hcloses : Closes s rest) : Leaves (bracket :: s) rest :=
  ⟨hcloses.1.trans (Nat.le_succ _), fun d => (hcloses.2 d).trans (deepest_opened h d s)⟩

theorem container_leaves {element : Reader α} {build : List α → Value} {bracket close : Char}
    (h : Bounded limit element) (hopen : bracket = '[' ∨ bracket = '{')
    (hclose : close = ']' ∨ close = '}') {s rest : List Char} {v : Value}
    (hs : s.head? = some bracket) (hread : container close element build s = .ok (v, rest)) :
    Leaves s rest := by
  obtain ⟨s, rfl⟩ := List.head?_eq_some_iff.mp hs
  unfold container at hread
  simp only [bind_ok, Except.ok.injEq, Prod.mk.injEq] at hread
  obtain ⟨⟨l, rest'⟩, hl, -, rfl⟩ := hread
  exact (elements_leaves h hclose hl).opened hopen

theorem container_error {element : Reader α} {build : List α → Value} {bracket close : Char}
    (h : Bounded limit element) (hopen : bracket = '[' ∨ bracket = '{') {s : List Char} {e : Error}
    (hs : s.head? = some bracket) (hread : container close element build s = .error e) :
    e = .malformed ∨ e = .recursion ∧ ∀ d, d + (limit + 1) < deepest .outside d s := by
  obtain ⟨s, rfl⟩ := List.head?_eq_some_iff.mp hs
  rcases (bind_error _ _ _).mp hread with hl | ⟨l, -, hnone⟩
  · rcases elements_error h hl with hbad | ⟨hdeep, hlevel⟩
    · exact .inl hbad
    · refine .inr ⟨hdeep, fun d => ?_⟩
      have hopened := (hlevel (d + 1)).trans_le (deepest_opened hopen d s)
      omega
  · cases hnone

end

/-- with no container left, a bracket is too deep -/
theorem deepest_bracket {bracket : Char} {s : List Char} (h : bracket = '[' ∨ bracket = '{')
    (hs : s.head? = some bracket) (d : Nat) : d < deepest .outside d s := by
  obtain ⟨s, rfl⟩ := List.head?_eq_some_iff.mp hs
  exact (le_deepest .outside (d + 1) s).trans (deepest_opened h d s)

/-- **a reader fails with an error in the text, or in a text that is nested deeper than its bound** -/
theorem value_bounded (limit : Nat) : Bounded limit (value limit) := by
  induction limit with
  | zero =>
    refine ⟨?_, ?_⟩
    · intro s v rest h
      unfold value at h
      split at h
      · cases h
      · exact (leaf_bounded 0).leaves h
    · intro s e h
      unfold value at h
      split at h
      · rename_i hbracket
        refine .inr ⟨(Except.error.inj h).symm, ?_⟩
        rcases hbracket with hs | hs
        · exact deepest_bracket (.inl rfl) hs
        · exact deepest_bracket (.inr rfl) hs
      · exact (leaf_bounded 0).error h
  | succ limit ih =>
    refine ⟨?_, ?_⟩
    · intro s v rest h
      unfold value at h
      split at h
      · rename_i hs
        exact container_leaves ih (.inl rfl) (.inl rfl) hs h
      · split at h
        · rename_i hs
          exact container_leaves ih.member (.inr rfl) (.inr rfl) hs h
        · exact (leaf_bounded 0).leaves h
    · intro s e h
      unfold value at h
      split at h
      · rename_i hs
        exact container_error ih (.inl rfl) hs h
      · split at h
        · rename_i hs
          exact container_error ih.member (.inr rfl) hs h
        · exact (leaf_bounded (limit + 1)).error h

/-- **a text that is not nested too deep is read, or has an error** -/
theorem loads_error {limit : Nat} {s : List Char} {e : Error} (hnest : nesting s ≤ limit)
    (h : loads limit s = .error e) : e = .malformed := by
  unfold loads at h
  split at h
  · exact (Except.error.inj h).symm
  · rcases (bind_error _ _ _).mp h with hv | ⟨v, -, hv⟩
    · rcases (value_bounded limit).error hv with hbad | ⟨-, hlevel⟩
      · exact hbad
      · have hdeep := (hlevel 0).trans_le ((leaves_skipSpace s).2 0)
        unfold nesting at hnest
        omega
    · split at hv
      · cases hv
      · exact (Except.error.inj hv).symm

end JsonReader
