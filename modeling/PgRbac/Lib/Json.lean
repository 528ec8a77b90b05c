import Mathlib.Algebra.GroupWithZero.Nat
import Mathlib.Algebra.Ring.Int.Defs
import Mathlib.Data.List.Basic
import Mathlib.Algebra.BigOperators.Group.List.Basic
import Mathlib.Data.List.Nodup
import Mathlib.Tactic.Common

/-!
# JSON values and their texts

A value holds integers of any size and floating-point numbers.  A floating-point number is given by
its shortest digits, from which the two notations of it are made.

* `Flonum.repr`             the shortest notation, with an exponent for large and small numbers;
* `Flonum.plain`            the notation without an exponent;
* `JsonValue.text`          the text of a value, by its separators and its notation of numbers;
* `Reordered`               the same value with its fields in another order, at any depth;
* `JsonValue.growth`        how much longer a text is in another notation of its numbers
                            (`octets_text_renumbered`), in any order of the fields
                            (`Reordered.octets_text`);
* `JsonValue.recursion`     induction over a value, with the members of a container;
* `setKey`                  what an assignment to a key does to the fields of an object.
-/

set_option linter.unusedVariables false

/-! ## floating-point numbers -/

/-- `finite negative digits point` is `± 0.digits · 10 ^ point` -/
inductive Flonum where
  | zero (negative : Bool)
  | finite (negative : Bool) (digits : Nat) (point : Int) (short : digits % 10 ≠ 0)
  | infinity (negative : Bool)
  | nan
deriving DecidableEq, Repr

namespace Flonum

def isFinite : Flonum → Bool
  | zero _ => true
  | finite _ _ _ _ => true
  | infinity _ => false
  | nan => false

def sign (negative : Bool) : List Char := if negative then ['-'] else []

def zeros (n : Nat) : List Char := List.replicate n '0'

/-- the point stands in or behind the digits, or in front of them -/
def fixed (digits : List Char) (point : Int) : List Char :=
  if point ≤ 0 then "0.".toList ++ zeros (-point).toNat ++ digits
  else if digits.length ≤ point.toNat then
    digits ++ zeros (point.toNat - digits.length) ++ ".0".toList
  else digits.take point.toNat ++ '.' :: digits.drop point.toNat

/-- an exponent has at least two digits -/
def exponent (n : Int) : List Char :=
  let digits := Nat.toDigits 10 n.natAbs
  'e' :: (if n < 0 then '-' else '+') :: (zeros (2 - digits.length) ++ digits)

def scientific (digits : List Char) (point : Int) : List Char :=
  digits.take 1 ++ (if digits.length = 1 then [] else '.' :: digits.drop 1) ++ exponent (point - 1)

/-- whether the shortest notation needs no exponent -/
def short (point : Int) : Bool := decide (-4 < point ∧ point ≤ 16)

def repr : Flonum → List Char
  | zero negative => sign negative ++ "0.0".toList
  | finite negative digits point _ =>
    sign negative ++ (if short point then fixed (Nat.toDigits 10 digits) point
      else scientific (Nat.toDigits 10 digits) point)
  | infinity negative => sign negative ++ "Infinity".toList
  | nan => "NaN".toList

/-- decimal notation without exponent: a large number has no places behind a point -/
def decimal (digits : List Char) (point : Int) : List Char :=
  if point ≤ 0 then "0.".toList ++ zeros (-point).toNat ++ digits
  else if digits.length ≤ point.toNat then digits ++ zeros (point.toNat - digits.length)
  else digits.take point.toNat ++ '.' :: digits.drop point.toNat

/-- what a decimal number that is read from the shortest notation is written as: a number keeps
the places that it was read with, and there is no negative zero -/
def plain : Flonum → List Char
  | zero _ => "0.0".toList
  | finite negative digits point _ =>
    sign negative ++ (if short point then fixed (Nat.toDigits 10 digits) point
      else decimal (Nat.toDigits 10 digits) point)
  | infinity negative => sign negative ++ "Infinity".toList
  | nan => "NaN".toList

end Flonum

/-! ## values -/

inductive JsonValue where
  | null
  | bool (b : Bool)
  | int (n : Int)
  | float (f : Flonum)
  | str (s : String)
  | array (items : List JsonValue)
  | object (fields : List (String × JsonValue))

namespace JsonValue

theorem recursion {P : JsonValue → Prop} (null : P .null) (bool : ∀ b, P (.bool b))
    (int : ∀ n, P (.int n)) (float : ∀ f, P (.float f)) (str : ∀ s, P (.str s))
    (array : ∀ items, (∀ item ∈ items, P item) → P (.array items))
    (object : ∀ fields, (∀ field ∈ fields, P field.2) → P (.object fields)) :
    ∀ j, P j
  | .null => null
  | .bool b => bool b
  | .int n => int n
  | .float f => float f
  | .str s => str s
  | .array items => array items fun item hitem =>
      recursion null bool int float str array object item
  | .object fields => object fields fun field hfield =>
      recursion null bool int float str array object field.2
termination_by j => sizeOf j
decreasing_by
  · have := List.sizeOf_lt_of_mem hitem
    simp
    omega
  · have := List.sizeOf_lt_of_mem hfield
    have hpair : sizeOf field = 1 + sizeOf field.1 + sizeOf field.2 := by
      cases field
      rfl
    simp
    omega

/-! ## texts -/

/-- a character inside quotes; what is not ASCII is kept -/
def escape (c : Char) : List Char :=
  if c = '"' then ['\\', '"']
  else if c = '\\' then ['\\', '\\']
  else if c = '\n' then ['\\', 'n']
  else if c = '\r' then ['\\', 'r']
  else if c = '\t' then ['\\', 't']
  else if c = '\x08' then ['\\', 'b']
  else if c = '\x0c' then ['\\', 'f']
  else if c.toNat < 32 then
    ['\\', 'u', '0', '0', Nat.digitChar (c.toNat / 16), Nat.digitChar (c.toNat % 16)]
  else [c]

def quote (s : String) : List Char := '"' :: (s.toList.flatMap escape ++ ['"'])

/-- the separators of a text, and its notation of floating-point numbers -/
structure Style where
  comma : List Char
  colon : List Char
  number : Flonum → List Char

mutual
def text (style : Style) : JsonValue → List Char
  | .null => "null".toList
  | .bool b => if b then "true".toList else "false".toList
  | .int n => (toString n).toList
  | .float f => style.number f
  | .str s => quote s
  | .array items => '[' :: (itemsText style items ++ [']'])
  | .object fields => '{' :: (fieldsText style fields ++ ['}'])

def itemsText (style : Style) : List JsonValue → List Char
  | [] => []
  | [item] => item.text style
  | item :: rest => item.text style ++ style.comma ++ itemsText style rest

def fieldsText (style : Style) : List (String × JsonValue) → List Char
  | [] => []
  | [(key, item)] => quote key ++ style.colon ++ item.text style
  | (key, item) :: rest =>
    quote key ++ style.colon ++ item.text style ++ style.comma ++ fieldsText style rest
end

-- the texts of a value, its keys included
mutual
def texts : JsonValue → List String
  | .str s => [s]
  | .array items => textsOfItems items
  | .object fields => textsOfFields fields
  | .null => []
  | .bool _ => []
  | .int _ => []
  | .float _ => []

def textsOfItems : List JsonValue → List String
  | [] => []
  | item :: rest => item.texts ++ textsOfItems rest

def textsOfFields : List (String × JsonValue) → List String
  | [] => []
  | (key, item) :: rest => key :: item.texts ++ textsOfFields rest
end

/-- the length of a text in UTF-8 -/
def octets (text : List Char) : Nat := (text.map Char.utf8Size).sum

def compact : Style := ⟨[','], [':'], Flonum.repr⟩

/-- a space behind each comma and colon -/
def spaced (number : Flonum → List Char) : Style := ⟨[',', ' '], [':', ' '], number⟩

end JsonValue

/-! ## lengths -/

namespace JsonValue

section
variable {style : Style}

theorem octets_nil : octets [] = 0 := rfl

theorem octets_cons (c : Char) (text : List Char) : octets (c :: text) = c.utf8Size + octets text :=
  rfl

theorem octets_append (a b : List Char) : octets (a ++ b) = octets a + octets b := by
  unfold octets
  rw [List.map_append, List.sum_append]

theorem itemsText_cons (item next : JsonValue) (rest : List JsonValue) :
    itemsText style (item :: next :: rest) =
      item.text style ++ style.comma ++ itemsText style (next :: rest) := by
  rw [itemsText]
  exact fun heq => List.cons_ne_nil _ _ heq

theorem fieldsText_cons (key : String) (item : JsonValue) (next : String × JsonValue)
    (rest : List (String × JsonValue)) :
    fieldsText style ((key, item) :: next :: rest) =
      quote key ++ style.colon ++ item.text style ++ style.comma ++
        fieldsText style (next :: rest) := by
  rw [fieldsText]
  exact fun heq => List.cons_ne_nil _ _ heq

/-- the octets of an item, with a comma -/
def itemOctets (style : Style) (item : JsonValue) : Nat :=
  octets (item.text style) + octets style.comma

def fieldOctets (style : Style) (field : String × JsonValue) : Nat :=
  octets (quote field.1) + octets style.colon + itemOctets style field.2

theorem octets_itemsText {items : List JsonValue} (h : items ≠ []) :
    octets (itemsText style items) + octets style.comma =
      (items.map (itemOctets style)).sum := by
  induction items with
  | nil => exact absurd rfl h
  | cons item rest ih =>
    cases rest with
    | nil =>
      rw [itemsText, List.map_singleton, List.sum_singleton]
      rfl
    | cons next rest =>
      have hrest := ih (List.cons_ne_nil next rest)
      rw [itemsText_cons, octets_append, octets_append, List.map_cons, List.sum_cons, ← hrest]
      unfold itemOctets
      omega

theorem octets_fieldsText {fields : List (String × JsonValue)} (h : fields ≠ []) :
    octets (fieldsText style fields) + octets style.comma =
      (fields.map (fieldOctets style)).sum := by
  induction fields with
  | nil => exact absurd rfl h
  | cons field rest ih =>
    obtain ⟨key, item⟩ := field
    cases rest with
    | nil =>
      rw [fieldsText, octets_append, octets_append, List.map_singleton, List.sum_singleton]
      unfold fieldOctets itemOctets
      dsimp only
      omega
    | cons next rest =>
      have hrest := ih (List.cons_ne_nil next rest)
      rw [fieldsText_cons, octets_append, octets_append, octets_append, octets_append,
        List.map_cons, List.sum_cons, ← hrest]
      unfold fieldOctets itemOctets
      dsimp only
      omega

theorem octets_le (text : List Char) : octets text ≤ 4 * text.length := by
  induction text with
  | nil => exact Nat.le_refl 0
  | cons c text ih =>
    have hc := c.utf8Size_le_four
    rw [octets_cons, List.length_cons]
    omega

theorem octets_escape_le (c : Char) : octets (escape c) ≤ 6 := by
  have hdigit : ∀ n < 16, (Nat.digitChar n).utf8Size = 1 := by decide
  have hhigh (hc : c.toNat < 32) := hdigit (c.toNat / 16) (by omega)
  have hlow := hdigit (c.toNat % 16) (Nat.mod_lt _ (by decide))
  have hc := octets_le [c]
  unfold escape
  split_ifs with h₁ h₂ h₃ h₄ h₅ h₆ h₇ h₈
  all_goals first | decide | skip
  · simp only [octets_cons, octets_nil, hhigh h₈, hlow]
    decide
  · exact hc.trans (show 4 * 1 ≤ 6 by decide)

theorem octets_quote_le (s : String) : octets (quote s) ≤ 2 + 6 * s.toList.length := by
  have hall (text : List Char) : octets (text.flatMap escape) ≤ 6 * text.length := by
    induction text with
    | nil => exact Nat.le_refl 0
    | cons c text ih =>
      have hc := octets_escape_le c
      rw [List.flatMap_cons, octets_append, List.length_cons]
      omega
  have h := hall s.toList
  have hquote : octets (quote s) = 1 + (octets (s.toList.flatMap escape) + 1) := by
    unfold quote
    rw [octets_cons, octets_append]
    rfl
  omega

theorem octets_int_le {n k : Nat} (hk : 0 < k) (h : n < 10 ^ k) :
    octets ((int n).text style) ≤ 4 * k := by
  have hlength : (Nat.repr n).toList.length ≤ k := by
    rw [Nat.toList_repr]
    exact (Nat.length_toDigits_le_iff (by decide) hk).mpr h
  exact (octets_le _).trans (Nat.mul_le_mul_left 4 hlength)

theorem octets_array_le (items : List JsonValue) :
    octets ((array items).text style) ≤ 2 + (items.map (itemOctets style)).sum := by
  have htext : octets ((array items).text style) = 1 + (octets (itemsText style items) + 1) := by
    rw [text, octets_cons, octets_append]
    rfl
  by_cases h : items = []
  · rw [htext, h]
    exact Nat.le_refl 2
  · rw [htext, ← octets_itemsText h]
    omega

theorem octets_object_le (fields : List (String × JsonValue)) :
    octets ((object fields).text style) ≤ 2 + (fields.map (fieldOctets style)).sum := by
  have htext : octets ((object fields).text style) = 1 + (octets (fieldsText style fields) + 1) := by
    rw [text, octets_cons, octets_append]
    rfl
  by_cases h : fields = []
  · rw [htext, h]
    exact Nat.le_refl 2
  · rw [htext, ← octets_fieldsText h]
    omega

/-- lists of the same lengths have texts of the same length -/
theorem octets_itemsText_congr {items items' : List JsonValue}
    (hempty : items = [] ↔ items' = [])
    (h : (items.map (itemOctets style)).sum = (items'.map (itemOctets style)).sum) :
    octets (itemsText style items) = octets (itemsText style items') := by
  by_cases hnil : items = []
  · rw [hnil, hempty.mp hnil]
  · have h₁ : octets (itemsText style items) + octets style.comma = _ := octets_itemsText hnil
    have h₂ : octets (itemsText style items') + octets style.comma = _ :=
      octets_itemsText fun hnil' => hnil (hempty.mpr hnil')
    omega

theorem octets_fieldsText_congr {fields fields' : List (String × JsonValue)}
    (hempty : fields = [] ↔ fields' = [])
    (h : (fields.map (fieldOctets style)).sum = (fields'.map (fieldOctets style)).sum) :
    octets (fieldsText style fields) = octets (fieldsText style fields') := by
  by_cases hnil : fields = []
  · rw [hnil, hempty.mp hnil]
  · have h₁ : octets (fieldsText style fields) + octets style.comma = _ := octets_fieldsText hnil
    have h₂ : octets (fieldsText style fields') + octets style.comma = _ :=
      octets_fieldsText fun hnil' => hnil (hempty.mpr hnil')
    omega

theorem octets_itemsText_replaced (before after : List JsonValue) {a b : JsonValue}
    (h : octets (a.text style) = octets (b.text style)) :
    octets (itemsText style (before ++ a :: after)) =
      octets (itemsText style (before ++ b :: after)) := by
  have hitem : itemOctets style a = itemOctets style b := congrArg (· + octets style.comma) h
  refine octets_itemsText_congr (by simp) ?_
  rw [List.map_append, List.map_append, List.map_cons, List.map_cons, hitem]

theorem octets_fieldsText_replaced (before after : List (String × JsonValue)) (key : String)
    {a b : JsonValue} (h : octets (a.text style) = octets (b.text style)) :
    octets (fieldsText style (before ++ (key, a) :: after)) =
      octets (fieldsText style (before ++ (key, b) :: after)) := by
  have hfield : fieldOctets style (key, a) = fieldOctets style (key, b) :=
    congrArg (octets (quote key) + octets style.colon + · )
      (congrArg (· + octets style.comma) h)
  refine octets_fieldsText_congr (by simp) ?_
  rw [List.map_append, List.map_append, List.map_cons, List.map_cons, hfield]

end

/-! ## another order of the fields -/

/-- the fields of an object are put in another order, anywhere in a value and any number of times -/
inductive Reordered : JsonValue → JsonValue → Prop
  | refl (j : JsonValue) : Reordered j j
  | trans {a b c : JsonValue} : Reordered a b → Reordered b c → Reordered a c
  | fields {fields fields' : List (String × JsonValue)} :
      fields.Perm fields' → Reordered (.object fields) (.object fields')
  | item {before after : List JsonValue} {a b : JsonValue} :
      Reordered a b → Reordered (.array (before ++ a :: after)) (.array (before ++ b :: after))
  | field {before after : List (String × JsonValue)} {key : String} {a b : JsonValue} :
      Reordered a b →
        Reordered (.object (before ++ (key, a) :: after)) (.object (before ++ (key, b) :: after))

theorem Reordered.octets_text {style : Style} {a b : JsonValue} (h : Reordered a b) :
    octets (a.text style) = octets (b.text style) := by
  induction h with
  | refl j => rfl
  | trans _ _ hab hbc => exact hab.trans hbc
  | @fields fields fields' hperm =>
    have hsame : octets (fieldsText style fields) = octets (fieldsText style fields') :=
      octets_fieldsText_congr ⟨fun h => (h ▸ hperm).symm.eq_nil, fun h => (h ▸ hperm).eq_nil⟩
      (hperm.map (fieldOctets style)).sum_eq
    simp only [text, octets_cons, octets_append, hsame]
  | @item before after a b _ hab =>
    have hsame := octets_itemsText_replaced before after hab
    simp only [text, octets_cons, octets_append]
    rw [hsame]
  | @field before after key a b _ hab =>
    have hsame := octets_fieldsText_replaced before after key hab
    simp only [text, octets_cons, octets_append]
    rw [hsame]

/-! ## another notation of numbers -/

/-- how much longer a number is in the second notation than in the first -/
def numberGrowth (first second : Flonum → List Char) (f : Flonum) : Int :=
  (octets (second f) : Int) - (octets (first f) : Int)

mutual
def growth (first second : Flonum → List Char) : JsonValue → Int
  | .float f => numberGrowth first second f
  | .array items => itemsGrowth first second items
  | .object fields => fieldsGrowth first second fields
  | .null => 0
  | .bool _ => 0
  | .int _ => 0
  | .str _ => 0

def itemsGrowth (first second : Flonum → List Char) : List JsonValue → Int
  | [] => 0
  | item :: rest => item.growth first second + itemsGrowth first second rest

def fieldsGrowth (first second : Flonum → List Char) : List (String × JsonValue) → Int
  | [] => 0
  | (_, item) :: rest => item.growth first second + fieldsGrowth first second rest
end

section
variable {comma colon : List Char} {first second : Flonum → List Char}

theorem octets_itemsText_renumbered {items : List JsonValue}
    (h : ∀ item ∈ items, (octets (item.text ⟨comma, colon, second⟩) : Int) =
      octets (item.text ⟨comma, colon, first⟩) + item.growth first second) :
    (octets (itemsText ⟨comma, colon, second⟩ items) : Int) =
      octets (itemsText ⟨comma, colon, first⟩ items) + itemsGrowth first second items := by
  induction items with
  | nil => rfl
  | cons item rest ih =>
    rw [List.forall_mem_cons] at h
    have hitem := h.1
    have hrest := ih h.2
    cases rest with
    | nil =>
      rw [itemsText, itemsText, itemsGrowth, itemsGrowth]
      omega
    | cons next rest =>
      rw [itemsText_cons, itemsText_cons, itemsGrowth]
      simp only [octets_append]
      omega

theorem octets_fieldsText_renumbered {fields : List (String × JsonValue)}
    (h : ∀ field ∈ fields, (octets (field.2.text ⟨comma, colon, second⟩) : Int) =
      octets (field.2.text ⟨comma, colon, first⟩) + field.2.growth first second) :
    (octets (fieldsText ⟨comma, colon, second⟩ fields) : Int) =
      octets (fieldsText ⟨comma, colon, first⟩ fields) + fieldsGrowth first second fields := by
  induction fields with
  | nil => rfl
  | cons field rest ih =>
    obtain ⟨key, item⟩ := field
    rw [List.forall_mem_cons] at h
    have hitem : (octets (item.text ⟨comma, colon, second⟩) : Int) =
      octets (item.text ⟨comma, colon, first⟩) + item.growth first second := h.1
    have hrest := ih h.2
    cases rest with
    | nil =>
      rw [fieldsText, fieldsText, fieldsGrowth, fieldsGrowth]
      simp only [octets_append]
      omega
    | cons next rest =>
      rw [fieldsText_cons, fieldsText_cons, fieldsGrowth]
      simp only [octets_append]
      omega

/-- **the length of a text changes with its numbers alone** -/
theorem octets_text_renumbered (j : JsonValue) :
    (octets (j.text ⟨comma, colon, second⟩) : Int) =
      octets (j.text ⟨comma, colon, first⟩) + j.growth first second := by
  induction j using JsonValue.recursion with
  | null => rfl
  | bool b =>
    rw [text, text, growth, Int.add_zero]
  | int n =>
    rw [text, text, growth, Int.add_zero]
  | float f =>
    rw [text, text, growth, numberGrowth]
    dsimp only
    omega
  | str s =>
    rw [text, text, growth, Int.add_zero]
  | array items ih =>
    have hitems := octets_itemsText_renumbered ih
    rw [text, text, growth]
    simp only [octets_cons, octets_append]
    omega
  | object fields ih =>
    have hfields := octets_fieldsText_renumbered ih
    rw [text, text, growth]
    simp only [octets_cons, octets_append]
    omega

end

end JsonValue

/-! ## fields -/

/-- an assignment: the field is replaced in its place, or comes last -/
def setKey {α : Type} (fields : List (String × α)) (key : String) (value : α) :
    List (String × α) :=
  if key ∈ fields.map Prod.fst then
    fields.map fun field => if field.1 = key then (key, value) else field
  else fields ++ [(key, value)]

section
variable {α : Type} {fields : List (String × α)} {key : String} {value : α}

theorem keys_setKey : (setKey fields key value).map Prod.fst =
    if key ∈ fields.map Prod.fst then fields.map Prod.fst else fields.map Prod.fst ++ [key] := by
  unfold setKey
  split
  · rw [List.map_map]
    refine List.map_congr_left fun field _ => ?_
    show (if field.1 = key then (key, value) else field).1 = field.1
    by_cases h : field.1 = key
    · rw [if_pos h, h]
    · rw [if_neg h]
  · rw [List.map_append]
    rfl

theorem nodup_setKey (h : (fields.map Prod.fst).Nodup) :
    ((setKey fields key value).map Prod.fst).Nodup := by
  rw [keys_setKey]
  split
  · exact h
  · exact List.nodup_append.mpr ⟨h, List.nodup_singleton key, fun a ha b hb heq => by
      rw [List.mem_singleton] at hb
      exact absurd (hb ▸ heq ▸ ha) ‹_›⟩

theorem length_setKey : (setKey fields key value).length ≤ fields.length + 1 := by
  unfold setKey
  split
  · rw [List.length_map]
    exact Nat.le_succ _
  · rw [List.length_append]
    exact Nat.le_refl _

theorem mem_setKey_iff {field : String × α} : field ∈ setKey fields key value ↔
    field ∈ fields ∧ field.1 ≠ key ∨ field = (key, value) := by
  unfold setKey
  split
  · rename_i hold
    rw [List.mem_map]
    constructor
    · intro h
      obtain ⟨field', hmem, heq⟩ := h
      by_cases hkey : field'.1 = key
      · rw [if_pos hkey] at heq
        exact .inr heq.symm
      · rw [if_neg hkey] at heq
        exact .inl (heq ▸ ⟨hmem, hkey⟩)
    · intro h
      rcases h with ⟨hmem, hkey⟩ | rfl
      · exact ⟨field, hmem, if_neg hkey⟩
      · obtain ⟨field', hmem, hkey⟩ := List.mem_map.mp hold
        exact ⟨field', hmem, if_pos hkey⟩
  · rename_i hnew
    rw [List.mem_append, List.mem_singleton]
    constructor
    · intro h
      rcases h with hmem | heq
      · exact .inl ⟨hmem, fun hkey => hnew (hkey ▸ List.mem_map_of_mem hmem)⟩
      · exact .inr heq
    · intro h
      exact h.imp_left And.left

theorem mem_setKey {field : String × α} (h : field ∈ setKey fields key value) :
    field ∈ fields ∨ field = (key, value) := (mem_setKey_iff.mp h).imp_left And.left

theorem sum_setKey (weight : String × α → Int) (h : (fields.map Prod.fst).Nodup) :
    ((setKey fields key value).map weight).sum =
      (fields.map fun field => if field.1 = key then 0 else weight field).sum +
        weight (key, value) := by
  have habsent {fields : List (String × α)} (hnew : key ∉ fields.map Prod.fst) :
      (fields.map fun field => if field.1 = key then 0 else weight field) = fields.map weight := by
    refine List.map_congr_left fun field hfield => if_neg fun hkey => hnew ?_
    rw [← hkey]
    exact List.mem_map_of_mem hfield
  unfold setKey
  split
  · rename_i hold
    induction fields with
    | nil => cases hold
    | cons field rest ih =>
      rw [List.map_cons, List.nodup_cons] at h
      by_cases hkey : field.1 = key
      · have hnew : key ∉ rest.map Prod.fst := hkey ▸ h.1
        have hsame : (rest.map fun field => if field.1 = key then (key, value) else field) =
            rest := by
          rw [List.map_congr_left fun field' hfield' => if_neg fun hkey' => hnew ?_, List.map_id']
          rw [← hkey']
          exact List.mem_map_of_mem hfield'
        rw [List.map_cons, List.map_cons, List.map_cons, if_pos hkey, if_pos hkey, hsame,
          habsent hnew, List.sum_cons, List.sum_cons]
        omega
      · have hrest : key ∈ rest.map Prod.fst := by
          rw [List.map_cons, List.mem_cons] at hold
          exact hold.resolve_left fun heq => hkey heq.symm
        rw [List.map_cons, List.map_cons, List.map_cons, if_neg hkey, if_neg hkey, List.sum_cons,
          List.sum_cons, ih h.2 hrest]
        omega
  · rename_i hnew
    rw [habsent hnew, List.map_append, List.sum_append, List.map_singleton, List.sum_singleton]

theorem setKey_new (h : key ∉ fields.map Prod.fst) :
    setKey fields key value = fields ++ [(key, value)] := if_neg h

end
