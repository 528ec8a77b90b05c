import PgRbac.Lib.JsonReader

/-!
# JSON texts read back

The text of a value, without spaces, is read as the value.

* `decoded`          what is read from a value's text: strings as code points;
* `Legible`          the values with short integers, distinct keys and a bounded nesting;
* `sequence_joined`  texts with commas between them are read one after another;
* `loads_text`       decoding inverts encoding.
-/

set_option linter.unusedSectionVars false
set_option linter.unusedVariables false

namespace JsonReader

open Fallible

/-! ## values and their texts -/

mutual
/-- what is read from the text of a value -/
def decoded : JsonValue → Value
  | .null => .null
  | .bool b => .bool b
  | .int n => .int n
  | .float f => .float f.repr
  | .str s => .str (points s)
  | .array items => .array (decodedItems items)
  | .object fields => .object (decodedFields fields)

def decodedItems : List JsonValue → List Value
  | [] => []
  | item :: rest => decoded item :: decodedItems rest

def decodedFields : List (String × JsonValue) → List (Points × Value)
  | [] => []
  | (key, item) :: rest => (points key, decoded item) :: decodedFields rest
end

theorem decodedItems_eq (items : List JsonValue) : decodedItems items = items.map decoded := by
  induction items with
  | nil => rfl
  | cons item rest ih => rw [decodedItems, ih, List.map_cons]

theorem decodedFields_eq (fields : List (String × JsonValue)) :
    decodedFields fields = fields.map fun field => (points field.1, decoded field.2) := by
  induction fields with
  | nil => rfl
  | cons field rest ih => rw [decodedFields, ih, List.map_cons]

/-- an integer that is converted to a text and back -/
def ShortInt (n : Int) : Prop := (Nat.toDigits 10 n.natAbs).length ≤ maxDigits

instance decidableShortInt (n : Int) : Decidable (ShortInt n) :=
  inferInstanceAs (Decidable (_ ≤ _))

/-- a value without floating-point numbers that is nested up to `limit`, with distinct keys -/
inductive Legible : Nat → JsonValue → Prop
  | null {limit : Nat} : Legible limit .null
  | bool {limit : Nat} (b : Bool) : Legible limit (.bool b)
  | int {limit : Nat} {n : Int} (h : ShortInt n) : Legible limit (.int n)
  | str {limit : Nat} (s : String) : Legible limit (.str s)
  | array {limit : Nat} {items : List JsonValue} (h : ∀ item ∈ items, Legible limit item) :
      Legible (limit + 1) (.array items)
  | object {limit : Nat} {fields : List (String × JsonValue)} (hkeys : (fields.map Prod.fst).Nodup)
      (h : ∀ field ∈ fields, Legible limit field.2) : Legible (limit + 1) (.object fields)

/-- what may stand behind a value in a text without spaces -/
def Ends (rest : List Char) : Prop := ∀ c ∈ rest.head?, c = ',' ∨ c = ']' ∨ c = '}'

theorem ends_nil : Ends [] := fun c hc => nomatch hc

theorem ends_cons {c : Char} (h : c = ',' ∨ c = ']' ∨ c = '}') (rest : List Char) :
    Ends (c :: rest) := fun c' hc' => Option.some.inj hc' ▸ h

/-- what may begin a value or a field -/
def lead (c : Char) : Bool := !([' ', '\t', '\n', '\r', ',', ']', '}', '\uFEFF'].contains c)

def Begins (s : List Char) : Prop := ∃ c ∈ s.head?, lead c = true

theorem not_contains_of_isDigit {l : List Char} (hl : l.all (fun c => !c.isDigit) = true) {c : Char}
    (h : c.isDigit = true) : (!l.contains c) = true := by
  rw [Bool.not_eq_true', ← Bool.not_eq_true]
  intro hc
  have hnot := List.all_eq_true.mp hl c (List.contains_iff_mem.mp hc)
  rw [h] at hnot
  cases hnot

theorem skipSpace_cons {c : Char} (h : [' ', '\t', '\n', '\r'].contains c = false)
    (rest : List Char) : skipSpace (c :: rest) = c :: rest := by
  unfold skipSpace
  rw [List.dropWhile_cons_of_neg]
  rw [h]
  exact Bool.false_ne_true

theorem skipSpace_begins {s : List Char} (h : Begins s) (rest : List Char) :
    skipSpace (s ++ rest) = s ++ rest := by
  obtain ⟨c, hc, hlead⟩ := h
  obtain ⟨tail, rfl⟩ := List.head?_eq_some_iff.mp hc
  refine skipSpace_cons ?_ _
  rw [← Bool.not_eq_true]
  intro hspace
  have hall : [' ', '\t', '\n', '\r'].all (fun c => !lead c) = true := by decide
  have hnot := List.all_eq_true.mp hall c (List.contains_iff_mem.mp hspace)
  rw [hlead] at hnot
  cases hnot

theorem skipSpace_ends {s : List Char} (h : Ends s) : skipSpace s = s := by
  cases s with
  | nil => rfl
  | cons c rest =>
    refine skipSpace_cons ?_ rest
    rcases h c rfl with rfl | rfl | rfl
    · rfl
    · rfl
    · rfl

/-! ## integers -/

theorem digit_of_toDigits {n : Nat} {c : Char} (hc : c ∈ Nat.toDigits 10 n) : c.isDigit = true :=
  Nat.isDigit_of_mem_toDigits (by omega) (by omega) hc

theorem eq_zero_of_head (n : Nat) (h : (Nat.toDigits 10 n).head? = some '0') : n = 0 := by
  induction n using Nat.strongRecOn with
  | ind n ih =>
    rw [Nat.toDigits_eq_if (by omega)] at h
    split at h
    · rename_i hlt
      have hall : ∀ d < 10, Nat.digitChar d = '0' → d = 0 := by decide
      exact hall n hlt (Option.some.inj h)
    · rename_i hge
      rw [List.head?_append_of_ne_nil _ Nat.toDigits_ne_nil] at h
      have hzero := ih (n / 10) (by omega) h
      omega

theorem digits_append {ds rest : List Char} (hds : ∀ c ∈ ds, c.isDigit = true) (hrest : Ends rest) :
    digits (ds ++ rest) = ds := by
  unfold digits
  rw [List.takeWhile_append_of_pos hds]
  cases rest with
  | nil => rw [List.takeWhile_nil, List.append_nil]
  | cons c rest =>
    have hc : c.isDigit = false := by
      rcases hrest c rfl with rfl | rfl | rfl
      · rfl
      · rfl
      · rfl
    rw [List.takeWhile_cons_of_neg (by rw [hc]; exact Bool.false_ne_true), List.append_nil]

theorem whole_toDigits (n : Nat) {rest : List Char} (hrest : Ends rest) :
    whole (Nat.toDigits 10 n ++ rest) = Nat.toDigits 10 n := by
  unfold whole
  rw [List.head?_append_of_ne_nil _ Nat.toDigits_ne_nil]
  split
  · rename_i hzero
    rw [eq_zero_of_head n hzero]
    rfl
  · exact digits_append (fun c hc => digit_of_toDigits hc) hrest

theorem behind_whole (n : Nat) {rest : List Char} (hrest : Ends rest) :
    behind whole (Nat.toDigits 10 n ++ rest) = rest := by
  unfold behind
  rw [whole_toDigits n hrest, List.drop_left]

theorem oneOf_ends {signs rest : List Char} (h : Ends rest)
    (hsigns : signs.contains ',' = false ∧ signs.contains ']' = false ∧ signs.contains '}' = false) :
    oneOf signs rest = [] := by
  cases rest with
  | nil => rfl
  | cons c rest =>
    show [c].filter signs.contains = []
    rcases h c rfl with rfl | rfl | rfl
    · rw [List.filter_singleton, hsigns.1]
      rfl
    · rw [List.filter_singleton, hsigns.2.1]
      rfl
    · rw [List.filter_singleton, hsigns.2.2]
      rfl

theorem fraction_ends {rest : List Char} (h : Ends rest) : fraction rest = [] :=
  if_neg fun hpoint => hpoint.1 (oneOf_ends h ⟨rfl, rfl, rfl⟩)

theorem exponent_ends {rest : List Char} (h : Ends rest) : exponent rest = [] :=
  if_neg fun hletter => hletter.1 (oneOf_ends h ⟨rfl, rfl, rfl⟩)

theorem toDigits_cons (n : Nat) : ∃ c t, Nat.toDigits 10 n = c :: t ∧ c.isDigit = true := by
  cases h : Nat.toDigits 10 n with
  | nil => exact absurd h Nat.toDigits_ne_nil
  | cons c t => exact ⟨c, t, rfl, digit_of_toDigits (h ▸ List.mem_cons_self)⟩

theorem oneOf_minus_digits (n : Nat) (rest : List Char) :
    oneOf ['-'] (Nat.toDigits 10 n ++ rest) = [] := by
  obtain ⟨c, t, hdigits, hc⟩ := toDigits_cons n
  rw [hdigits]
  show [c].filter ['-'].contains = []
  have hnot := not_contains_of_isDigit (l := ['-']) (by decide) hc
  rw [Bool.not_eq_true'] at hnot
  rw [List.filter_singleton, hnot]
  rfl

theorem number_toDigits {n : Nat} (hshort : (Nat.toDigits 10 n).length ≤ maxDigits)
    {rest : List Char} (hrest : Ends rest) :
    number (Nat.toDigits 10 n ++ rest) = .ok (.int n, rest) := by
  have hsign : behind (oneOf ['-']) (Nat.toDigits 10 n ++ rest) = Nat.toDigits 10 n ++ rest := by
    rw [behind, oneOf_minus_digits]
    rfl
  unfold number
  dsimp only
  rw [hsign, whole_toDigits n hrest, behind_whole n hrest, if_neg Nat.toDigits_ne_nil,
    fraction_ends hrest, behind, fraction_ends hrest, List.length_nil, List.drop_zero,
    exponent_ends hrest, if_pos ⟨rfl, rfl⟩, if_neg (Nat.not_lt.mpr hshort), oneOf_minus_digits,
    if_pos rfl, Nat.ofDigitChars_toDigits (by omega) (by omega)]

theorem number_minus {n : Nat} (hshort : (Nat.toDigits 10 n).length ≤ maxDigits)
    {rest : List Char} (hrest : Ends rest) :
    number ('-' :: (Nat.toDigits 10 n ++ rest)) = .ok (.int (-n), rest) := by
  have hsign : oneOf ['-'] ('-' :: (Nat.toDigits 10 n ++ rest)) = ['-'] := rfl
  have hbehind : behind (oneOf ['-']) ('-' :: (Nat.toDigits 10 n ++ rest)) =
      Nat.toDigits 10 n ++ rest := rfl
  unfold number
  dsimp only
  rw [hbehind, whole_toDigits n hrest, behind_whole n hrest, if_neg Nat.toDigits_ne_nil,
    fraction_ends hrest, behind, fraction_ends hrest, List.length_nil, List.drop_zero,
    exponent_ends hrest, if_pos ⟨rfl, rfl⟩, if_neg (Nat.not_lt.mpr hshort), hsign,
    if_neg (List.cons_ne_nil _ _), Nat.ofDigitChars_toDigits (by omega) (by omega)]

/-- a text with a digit in one of its first two places is no word -/
theorem find_word_of_digit {s : List Char} {i : Nat} (hi : i < 2) {d : Char}
    (hs : s[i]? = some d) (hd : d.isDigit = true) :
    (words.find? fun word => word.1.isPrefixOf s) = none := by
  rw [List.find?_eq_none]
  intro word hword hpre
  obtain ⟨rest, rfl⟩ := List.isPrefixOf_iff_prefix.mp hpre
  have hlong : words.all (fun word => decide (2 ≤ word.1.length)) = true := by decide
  have hlength := of_decide_eq_true (List.all_eq_true.mp hlong word hword)
  rw [List.getElem?_append_left (by omega)] at hs
  have hletters : words.all (fun word => word.1.all fun c => !c.isDigit) = true := by decide
  have hnot := List.all_eq_true.mp (List.all_eq_true.mp hletters word hword) d
    (List.mem_of_getElem? hs)
  rw [hd] at hnot
  cases hnot

/-- a digit, or a minus sign in front of one, begins a number -/
theorem leaf_number {s : List Char} {i : Nat} (hi : i < 2) {d : Char} (hs : s[i]? = some d)
    (hd : d.isDigit = true) (hquote : s.head? ≠ some '"') : leaf s = number s := by
  unfold leaf
  rw [if_neg hquote, find_word_of_digit hi hs hd]

theorem text_int_ofNat (n : Nat) (style : JsonValue.Style) :
    (JsonValue.int n).text style = Nat.toDigits 10 n := by
  show (toString (n : Int)).toList = _
  show (Nat.repr n).toList = _
  rw [Nat.repr, String.toList_ofList]

theorem text_int_negSucc (n : Nat) (style : JsonValue.Style) :
    (JsonValue.int (Int.negSucc n)).text style = '-' :: Nat.toDigits 10 (n + 1) := by
  have hrepr : (Nat.repr (n + 1)).toList = Nat.toDigits 10 (n + 1) := by
    rw [Nat.repr, String.toList_ofList]
  show ("-" ++ Nat.repr (n + 1)).toList = _
  rw [String.toList_append, hrepr]
  rfl

theorem leaf_int {n : Int} (hshort : ShortInt n) {rest : List Char} (hrest : Ends rest) :
    leaf ((JsonValue.int n).text JsonValue.compact ++ rest) = .ok (.int n, rest) := by
  cases n with
  | ofNat m =>
    obtain ⟨c, t, hdigits, hc⟩ := toDigits_cons m
    have hhead : (Nat.toDigits 10 m ++ rest)[0]? = some c := by
      rw [hdigits]
      rfl
    have hquote : (Nat.toDigits 10 m ++ rest).head? ≠ some '"' := by
      rw [hdigits]
      intro h
      rw [Option.some.inj h] at hc
      cases hc
    have htext := text_int_ofNat m JsonValue.compact
    rw [← Int.ofNat_eq_natCast] at htext
    rw [htext, leaf_number (by omega) hhead hc hquote]
    exact number_toDigits hshort hrest
  | negSucc m =>
    obtain ⟨c, t, hdigits, hc⟩ := toDigits_cons (m + 1)
    have hsecond : ('-' :: (Nat.toDigits 10 (m + 1) ++ rest))[1]? = some c := by
      rw [hdigits]
      rfl
    have hquote : ('-' :: (Nat.toDigits 10 (m + 1) ++ rest)).head? ≠ some '"' := fun h =>
      absurd (Option.some.inj h) (by decide)
    rw [text_int_negSucc, List.cons_append, leaf_number (by omega) hsecond hc hquote]
    exact number_minus hshort hrest

/-! ## strings -/

/-- a character is no half of a surrogate pair -/
theorem push_char (c : Char) (t : Points) : push c.toNat t = c.toNat :: t := by
  have hvalid : c.toNat < 0xD800 ∨ 0xDFFF < c.toNat ∧ c.toNat < 0x110000 := c.valid
  cases t with
  | nil => rfl
  | cons low rest => exact if_neg fun hpair => by omega

theorem string_unicode (c : Char) (hc : c.toNat < 32) (s : List Char) :
    string .plain ('\\' :: 'u' :: '0' :: '0' :: Nat.digitChar (c.toNat / 16) ::
      Nat.digitChar (c.toNat % 16) :: s) = (do
        let t ← string .plain s
        .ok (push c.toNat t.1, t.2)) := by
  have hhigh := Ip.hexValue_digitChar (c.toNat / 16) (by omega)
  have hlow := Ip.hexValue_digitChar (c.toNat % 16) (by omega)
  have hunit : (((0 * 16 + 0) * 16 + 0) * 16 + c.toNat / 16) * 16 + c.toNat % 16 = c.toNat := by
    omega
  have hzero : ∀ (left : Nat) (rest : List Char), left ≠ 0 →
      string (.hex left 0) ('0' :: rest) = string (.hex (left - 1) 0) rest := by
    intro left rest hleft
    show (if left = 0 then _ else string (.hex (left - 1) 0) rest) = _
    exact if_neg hleft
  show string (.hex 3 0) _ = _
  rw [hzero 3 _ (by omega), hzero 2 _ (by omega), string, hhigh]
  dsimp only
  rw [if_neg (by omega), string, hlow]
  dsimp only
  rw [if_pos rfl]
  rw [Nat.zero_mul, Nat.zero_add] at hunit
  rw [Nat.zero_mul, Nat.zero_add, hunit]

theorem string_escape (c : Char) (s : List Char) :
    string .plain (JsonValue.escape c ++ s) = (do
      let t ← string .plain s
      .ok (push c.toNat t.1, t.2)) := by
  unfold JsonValue.escape
  by_cases hquote : c = '"'
  · subst hquote
    rfl
  · by_cases hslash : c = '\\'
    · subst hslash
      rfl
    · rw [if_neg hquote, if_neg hslash]
      split
      · subst_vars
        rfl
      · split
        · subst_vars
          rfl
        · split
          · subst_vars
            rfl
          · split
            · subst_vars
              rfl
            · split
              · subst_vars
                rfl
              · split
                · rename_i hcontrol
                  exact string_unicode c hcontrol s
                · rename_i hplain
                  show string .plain (c :: s) = _
                  rw [string, if_neg hquote, if_neg hslash, if_neg hplain]

theorem string_escaped (l rest : List Char) :
    string .plain (l.flatMap JsonValue.escape ++ '"' :: rest) = .ok (l.map Char.toNat, rest) := by
  induction l with
  | nil => rfl
  | cons c l ih =>
    rw [List.flatMap_cons, List.append_assoc, string_escape, ih]
    show Except.ok (push c.toNat (l.map Char.toNat), rest) = _
    rw [push_char, List.map_cons]

/-- **a quoted text is read back** -/
theorem string_quote (s : String) (rest : List Char) :
    string .plain ((JsonValue.quote s ++ rest).tail) = .ok (points s, rest) := by
  show string .plain ((s.toList.flatMap JsonValue.escape ++ ['"']) ++ rest) = _
  rw [List.append_assoc]
  exact string_escaped s.toList rest

theorem leaf_str (s : String) (rest : List Char) :
    leaf (JsonValue.quote s ++ rest) = .ok (.str (points s), rest) := by
  have hhead : (JsonValue.quote s ++ rest).head? = some '"' := rfl
  unfold leaf
  rw [if_pos hhead, string_quote]
  rfl

/-! ## containers -/

section
variable {α β : Type}

/-- texts with commas between them -/
def joined (f : α → List Char) : List α → List Char
  | [] => []
  | [a] => f a
  | a :: rest => f a ++ ',' :: joined f rest

theorem joined_cons (f : α → List Char) (a next : α) (rest : List α) :
    joined f (a :: next :: rest) = f a ++ ',' :: joined f (next :: rest) := by
  rw [joined]
  exact fun heq => List.cons_ne_nil _ _ heq

theorem itemsText_eq (items : List JsonValue) :
    JsonValue.itemsText JsonValue.compact items =
      joined (fun item => item.text JsonValue.compact) items := by
  induction items with
  | nil => rfl
  | cons item rest ih =>
    cases rest with
    | nil => rfl
    | cons next rest =>
      rw [JsonValue.itemsText_cons, ih, joined_cons, List.append_assoc]
      rfl

theorem fieldsText_eq (fields : List (String × JsonValue)) :
    JsonValue.fieldsText JsonValue.compact fields =
      joined (fun field => JsonValue.quote field.1 ++ ':' :: field.2.text JsonValue.compact)
        fields := by
  induction fields with
  | nil => rfl
  | cons field rest ih =>
    cases rest with
    | nil =>
      show JsonValue.quote field.1 ++ [':'] ++ field.2.text JsonValue.compact = _
      rw [List.append_assoc]
      rfl
    | cons next rest =>
      obtain ⟨key, item⟩ := field
      rw [JsonValue.fieldsText_cons, ih, joined_cons, List.append_assoc, List.append_assoc,
        List.append_assoc, List.append_assoc]
      rfl

theorem length_le_joined {f : α → List Char} (l : List α) (h : ∀ a ∈ l, Begins (f a)) :
    l.length ≤ (joined f l).length := by
  induction l with
  | nil => exact Nat.zero_le _
  | cons a rest ih =>
    rw [List.forall_mem_cons] at h
    obtain ⟨c, hc, -⟩ := h.1
    obtain ⟨t, ht⟩ := List.head?_eq_some_iff.mp hc
    cases rest with
    | nil =>
      show 1 ≤ (f a).length
      rw [ht, List.length_cons]
      omega
    | cons next rest =>
      have hrest := ih h.2
      rw [joined_cons, List.length_append]
      simp only [List.length_cons] at hrest ⊢
      omega

theorem begins_joined {f : α → List Char} {l : List α} (hl : l ≠ []) (h : ∀ a ∈ l, Begins (f a)) :
    Begins (joined f l) := by
  cases l with
  | nil => exact absurd rfl hl
  | cons a rest =>
    rw [List.forall_mem_cons] at h
    cases rest with
    | nil => exact h.1
    | cons next rest =>
      obtain ⟨c, hc, hlead⟩ := h.1
      refine ⟨c, ?_, hlead⟩
      obtain ⟨t, ht⟩ := List.head?_eq_some_iff.mp hc
      rw [joined_cons, ht]
      rfl

/-- **joined texts are read one after another** -/
theorem sequence_joined {close : Char} {element : Reader β} {f : α → List Char} {g : α → β}
    (hclose : close = ']' ∨ close = '}') (l : List α) (hl : l ≠ [])
    (hbegins : ∀ a ∈ l, Begins (f a))
    (h : ∀ a ∈ l, ∀ rest, Ends rest → element (f a ++ rest) = .ok (g a, rest))
    (fuel : Nat) (hfuel : l.length ≤ fuel) (rest : List Char) :
    sequence close element fuel (joined f l ++ close :: rest) = .ok (l.map g, rest) := by
  have hends : Ends (close :: rest) := ends_cons (hclose.elim (.inr ∘ .inl) (.inr ∘ .inr)) rest
  induction l generalizing fuel with
  | nil => exact absurd rfl hl
  | cons a l ih =>
    rw [List.forall_mem_cons] at hbegins h
    cases fuel with
    | zero => exact absurd hfuel (Nat.not_succ_le_zero _)
    | succ fuel =>
      cases l with
      | nil =>
        unfold sequence
        rw [show joined f [a] = f a from rfl, h.1 _ hends]
        show (if (skipSpace (close :: rest)).head? = some close then _ else _) = _
        rw [skipSpace_ends hends, List.head?_cons, if_pos rfl]
        rfl
      | cons next l =>
        have hcomma : Ends (',' :: (joined f (next :: l) ++ close :: rest)) :=
          ends_cons (.inl rfl) _
        have hmore := ih (List.cons_ne_nil next l) hbegins.2 h.2 fuel (Nat.le_of_succ_le_succ hfuel)
        have hnot : close ≠ ',' := by
          rcases hclose with rfl | rfl
          · decide
          · decide
        unfold sequence
        rw [joined_cons, List.append_assoc, List.cons_append, h.1 _ hcomma]
        show (if (skipSpace (',' :: (joined f (next :: l) ++ close :: rest))).head? = some close
          then _ else _) = _
        rw [skipSpace_ends hcomma, List.head?_cons,
          if_neg fun heq => hnot (Option.some.inj heq).symm]
        show (do
          let more ← sequence close element fuel
            (skipSpace (joined f (next :: l) ++ close :: rest))
          Except.ok (g a :: more.1, more.2)) = _
        rw [skipSpace_begins (begins_joined (List.cons_ne_nil next l) hbegins.2), hmore]
        rfl

theorem elements_joined {close : Char} {element : Reader β} {f : α → List Char} {g : α → β}
    (hclose : close = ']' ∨ close = '}') (l : List α) (hbegins : ∀ a ∈ l, Begins (f a))
    (h : ∀ a ∈ l, ∀ rest, Ends rest → element (f a ++ rest) = .ok (g a, rest))
    (rest : List Char) :
    elements close element (joined f l ++ close :: rest) = .ok (l.map g, rest) := by
  have hends : Ends (close :: rest) := ends_cons (hclose.elim (.inr ∘ .inl) (.inr ∘ .inr)) rest
  by_cases hl : l = []
  · subst hl
    unfold elements
    rw [show joined f [] ++ close :: rest = close :: rest from rfl, skipSpace_ends hends,
      List.head?_cons, if_pos rfl]
    rfl
  · have hjoined := begins_joined hl hbegins
    have hhead : (joined f l ++ close :: rest).head? ≠ some close := by
      obtain ⟨c, hc, hlead⟩ := hjoined
      obtain ⟨t, ht⟩ := List.head?_eq_some_iff.mp hc
      rw [ht]
      intro heq
      rw [Option.some.inj heq] at hlead
      rcases hclose with rfl | rfl
      · cases hlead
      · cases hlead
    unfold elements
    rw [skipSpace_begins hjoined, if_neg hhead]
    refine sequence_joined hclose l hl hbegins h _ ?_ rest
    have hlength := length_le_joined l hbegins
    rw [List.length_append]
    omega

end

theorem member_text {limit : Nat} {item : JsonValue} (hbegins : Begins (item.text JsonValue.compact))
    (h : ∀ rest, Ends rest →
      value limit (item.text JsonValue.compact ++ rest) = .ok (decoded item, rest))
    (key : String) {rest : List Char} (hrest : Ends rest) :
    member (value limit) (JsonValue.quote key ++ ':' :: item.text JsonValue.compact ++ rest) =
      .ok ((points key, decoded item), rest) := by
  have hcolon : skipSpace (':' :: (item.text JsonValue.compact ++ rest)) =
      ':' :: (item.text JsonValue.compact ++ rest) := skipSpace_cons rfl _
  have hhead (tail : List Char) : (JsonValue.quote key ++ tail).head? = some '"' := rfl
  unfold member
  rw [List.append_assoc, if_pos (hhead _), string_quote]
  show (if (skipSpace (':' :: (item.text JsonValue.compact ++ rest))).head? = some ':' then (do
      let a ← value limit
        (skipSpace (skipSpace (':' :: (item.text JsonValue.compact ++ rest))).tail)
      Except.ok ((points key, a.1), a.2)) else Except.error Error.malformed) = _
  rw [hcolon, List.head?_cons, if_pos rfl, List.tail_cons, skipSpace_begins hbegins, h rest hrest]
  rfl

theorem foldl_put {α : Type} (pairs fields : List (Points × α))
    (h : ((fields ++ pairs).map Prod.fst).Nodup) : pairs.foldl put fields = fields ++ pairs := by
  induction pairs generalizing fields with
  | nil => rw [List.append_nil, List.foldl_nil]
  | cons pair pairs ih =>
    have hnew : pair.1 ∉ fields.map Prod.fst := by
      rw [List.map_append, List.map_cons] at h
      intro hmem
      exact List.disjoint_of_nodup_append h hmem List.mem_cons_self
    have hput : put fields pair = fields ++ [pair] := if_neg hnew
    rw [List.append_cons] at h
    rw [List.foldl_cons, hput, ih _ h, ← List.append_cons]

theorem dict_eq {α : Type} {pairs : List (Points × α)} (h : (pairs.map Prod.fst).Nodup) :
    dict pairs = pairs := foldl_put pairs [] h

theorem text_int_cons (n : Int) : ∃ c t, (JsonValue.int n).text JsonValue.compact = c :: t ∧
    (c = '-' ∨ c.isDigit = true) := by
  cases n with
  | ofNat m =>
    obtain ⟨c, t, hdigits, hc⟩ := toDigits_cons m
    exact ⟨c, t, (text_int_ofNat m _).trans hdigits, .inr hc⟩
  | negSucc m => exact ⟨'-', _, text_int_negSucc m _, .inl rfl⟩

theorem text_begins {limit : Nat} {j : JsonValue} (h : Legible limit j) :
    Begins (j.text JsonValue.compact) := by
  cases h with
  | null => exact ⟨'n', rfl, rfl⟩
  | bool b =>
    cases b
    · exact ⟨'f', rfl, rfl⟩
    · exact ⟨'t', rfl, rfl⟩
  | @int _ n hshort =>
    obtain ⟨c, t, htext, hc⟩ := text_int_cons n
    rw [htext]
    refine ⟨c, rfl, ?_⟩
    rcases hc with rfl | hc
    · rfl
    · exact not_contains_of_isDigit (by decide) hc
  | str s => exact ⟨'"', rfl, rfl⟩
  | array hitems => exact ⟨'[', rfl, rfl⟩
  | object hkeys hfields => exact ⟨'\x7b', rfl, rfl⟩

/-- what begins with no bracket is read as a leaf -/
theorem value_leaf {s : List Char} {c : Char} (hs : s.head? = some c)
    (hc : (!(['[', '\x7b'].contains c)) = true) (limit : Nat) : value limit s = leaf s := by
  have hne : c ≠ '[' ∧ c ≠ '\x7b' := by simpa using hc
  cases limit with
  | zero =>
    rw [value, hs, if_neg]
    intro h
    rcases h with h | h
    · exact hne.1 (Option.some.inj h)
    · exact hne.2 (Option.some.inj h)
  | succ limit =>
    rw [value, hs, if_neg fun h => hne.1 (Option.some.inj h),
      if_neg fun h => hne.2 (Option.some.inj h)]

/-- **the text of a value is read as the value**, in front of what ends it -/
theorem value_text {limit : Nat} {j : JsonValue} (h : Legible limit j) (rest : List Char)
    (hrest : Ends rest) :
    value limit (j.text JsonValue.compact ++ rest) = .ok (decoded j, rest) := by
  induction h generalizing rest with
  | @null limit => exact value_leaf (c := 'n') rfl rfl limit
  | @bool limit b =>
    cases b
    · exact value_leaf (c := 'f') rfl rfl limit
    · exact value_leaf (c := 't') rfl rfl limit
  | @int limit n hshort =>
    obtain ⟨c, t, htext, hc⟩ := text_int_cons n
    have hhead : ((JsonValue.int n).text JsonValue.compact ++ rest).head? = some c := by
      rw [htext]
      rfl
    rw [value_leaf hhead _ limit]
    · exact leaf_int hshort hrest
    · rcases hc with rfl | hc
      · rfl
      · exact not_contains_of_isDigit (by decide) hc
  | @str limit s =>
    exact (value_leaf (c := '"') rfl rfl limit).trans (leaf_str s rest)
  | @array limit items hitems ih =>
    have hread := elements_joined (.inl rfl) items
      (fun item hitem => text_begins (hitems item hitem)) ih rest
    rw [← itemsText_eq] at hread
    show (do
      let l ← elements ']' (value limit)
        (JsonValue.itemsText JsonValue.compact items ++ [']'] ++ rest)
      Except.ok (Value.array l.1, l.2)) = _
    rw [List.append_assoc, List.singleton_append, hread, decoded, decodedItems_eq]
    rfl
  | @object limit fields hkeys hfields ih =>
    have hmembers : ∀ field ∈ fields, ∀ rest, Ends rest → member (value limit)
        (JsonValue.quote field.1 ++ ':' :: field.2.text JsonValue.compact ++ rest) =
          .ok ((points field.1, decoded field.2), rest) := fun field hfield rest hends =>
      member_text (text_begins (hfields field hfield)) (ih field hfield) field.1 hends
    have hread := elements_joined (.inr rfl) fields (fun field hfield => ⟨'"', rfl, rfl⟩)
      hmembers rest
    rw [← fieldsText_eq, ← decodedFields_eq] at hread
    have hnodup : ((decodedFields fields).map Prod.fst).Nodup := by
      have hmap : (decodedFields fields).map Prod.fst = (fields.map Prod.fst).map points := by
        rw [decodedFields_eq, List.map_map, List.map_map]
        rfl
      rw [hmap]
      exact hkeys.map points_injective
    show (do
      let l ← elements '\x7d' (member (value limit))
        (JsonValue.fieldsText JsonValue.compact fields ++ ['\x7d'] ++ rest)
      Except.ok (Value.object (dict l.1), l.2)) = _
    rw [List.append_assoc, List.singleton_append, hread, decoded]
    show Except.ok (Value.object (dict (decodedFields fields)), rest) = _
    rw [dict_eq hnodup]

/-- **decoding inverts encoding** -/
theorem loads_text {limit : Nat} {j : JsonValue} (h : Legible limit j) :
    loads limit (j.text JsonValue.compact) = .ok (decoded j) := by
  have hbegins := text_begins h
  have hread := value_text h [] ends_nil
  have hskip := skipSpace_begins hbegins []
  rw [List.append_nil] at hread hskip
  have hmark : (j.text JsonValue.compact).head? ≠ some '\uFEFF' := by
    obtain ⟨c, hc, hlead⟩ := hbegins
    intro heq
    rw [heq] at hc
    rw [← Option.some.inj hc] at hlead
    cases hlead
  unfold loads
  rw [if_neg hmark, hskip, hread]
  rfl

end JsonReader
