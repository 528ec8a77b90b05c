import PgRbac.Domain
import PgRbac.Lib.IpAddress
import PgRbac.Lib.JsonReader

/-!
# The texts of ids

`uuid.UUID` reads an id in many spellings: with `urn:` and `uuid:`, in braces, with dashes anywhere,
and then as a hexadecimal number with a sign, spaces and underscores.

* `uuid_characters`   the text of an id holds hexadecimal digits and dashes;
* `Uuid.parse`        the spellings that are read;
* `Uuid.parse_text`   the canonical text is read as the id.
-/

set_option linter.unusedVariables false

namespace PgRbac

theorem uuid_characters {P : Char → Prop} (hdigit : ∀ d < 16, P (Nat.digitChar d)) (hdash : P '-')
    (u : Uuid) : ∀ c ∈ u.text.toList, P c := by
  have hdigits (i count : Nat) : ∀ c ∈ u.hexDigits i count, P c := by
    intro c hc
    obtain ⟨k, -, rfl⟩ := List.mem_map.mp hc
    exact hdigit _ (Nat.mod_lt _ (by decide))
  have hcons {text : List Char} (h : ∀ c ∈ text, P c) : ∀ c ∈ '-' :: text, P c :=
    List.forall_mem_cons.mpr ⟨hdash, h⟩
  have happend {text text' : List Char} (h : ∀ c ∈ text, P c) (h' : ∀ c ∈ text', P c) :
      ∀ c ∈ text ++ text', P c := by
    intro c hc
    rcases List.mem_append.mp hc with hl | hr
    · exact h c hl
    · exact h' c hr
  unfold Uuid.text
  rw [String.toList_ofList]
  exact happend (happend (happend (happend (hdigits 0 8) (hcons (hdigits 8 4)))
    (hcons (hdigits 12 4))) (hcons (hdigits 16 4))) (hcons (hdigits 20 12))

theorem length_uuid (u : Uuid) : u.text.toList.length = 36 := by
  unfold Uuid.text
  rw [String.toList_ofList]
  simp [Uuid.hexDigits]

namespace Uuids

open JsonReader (Points points)

/-! ## `int(text, 16)` -/

/-- digits with single underscores between them; `underscore` is whether none may follow -/
def places (underscore : Bool) : List Char → Option (List Nat)
  | [] => if underscore then none else some []
  | c :: rest =>
    if c = '_' then
      if underscore then none else places true rest
    else match Ip.hexValue c with
      | none => none
      | some digit => (places false rest).map (digit :: ·)

def isSpace (c : Char) : Bool := [' ', '\t', '\n', '\x0b', '\x0c', '\r'].contains c

def trim (s : List Char) : List Char := ((s.dropWhile isSpace).reverse.dropWhile isSpace).reverse

/-- what stands behind `0x` and one underscore -/
def behindBase (s : List Char) : List Char :=
  if s.take 2 = ['0', 'x'] ∨ s.take 2 = ['0', 'X'] then
    if (s.drop 2).head? = some '_' then s.drop 3 else s.drop 2
  else s

/-- `int(text, 16)`, once its digits and spaces are those of ASCII -/
def hexInt (s : List Char) : Option Int :=
  let number := trim s
  let unsigned := if number.head? = some '-' ∨ number.head? = some '+' then number.tail else number
  (places true (behindBase unsigned)).map fun digits =>
    if number.head? = some '-' then -(Ip.ofPlaces 16 digits : Int) else Ip.ofPlaces 16 digits

/-! ## `uuid.UUID` -/

/-- `text.replace(word, "")`, where `skip` more characters belong to a word that was found -/
def remove (word : Points) (skip : Nat) : Points → Points
  | [] => []
  | c :: rest =>
    if skip ≠ 0 then remove word (skip - 1) rest
    else if word.isPrefixOf (c :: rest) then remove word (word.length - 1) rest
    else c :: remove word 0 rest

/-- without the braces at both ends -/
def stripBraces (s : Points) : Points :=
  let brace := fun c => (points "\x7b\x7d").contains c
  ((s.dropWhile brace).reverse.dropWhile brace).reverse

/-- the digits of an id in one of its spellings -/
def hex (text : Points) : Points :=
  remove (points "-") 0 (stripBraces (remove (points "uuid:") 0 (remove (points "urn:") 0 text)))

end Uuids

open Uuids JsonReader

/-- `uuid.UUID(text)`; `ascii` gives the digits and spaces outside of ASCII their values -/
def Uuid.parse (ascii : Nat → Char) (text : Points) : Option Uuid :=
  if (hex text).length = 32 then
    match hexInt ((hex text).map fun c => if c < 128 then Char.ofNat c else ascii c) with
    | none => none
    | some n => if 0 ≤ n ∧ n < 2 ^ 128 then some (BitVec.ofNat 128 n.toNat) else none
  else none

/-! ## the canonical text -/

namespace Uuids

theorem remove_absent {c : Nat} {word s : Points} (h : c ∉ s) : remove (c :: word) 0 s = s := by
  induction s with
  | nil => rfl
  | cons d s ih =>
    rw [List.mem_cons, not_or] at h
    have hword : ((c :: word).isPrefixOf (d :: s)) = false := by
      show ((c == d) && word.isPrefixOf s) = false
      rw [beq_eq_false_iff_ne.mpr h.1, Bool.false_and]
    rw [remove, if_neg (fun hzero => hzero rfl), if_neg (by rw [hword]; exact Bool.false_ne_true),
      ih h.2]

theorem remove_single (c : Nat) (s : Points) : remove [c] 0 s = s.filter fun d => !(c == d) := by
  induction s with
  | nil => rfl
  | cons d s ih =>
    have hword : ([c].isPrefixOf (d :: s)) = (c == d) := by
      show ((c == d) && true) = (c == d)
      rw [Bool.and_true]
    rw [remove, if_neg (fun hzero => hzero rfl), hword]
    cases h : c == d with
    | true =>
      rw [if_pos rfl, List.filter_cons_of_neg (by rw [h]; decide)]
      exact ih
    | false =>
      rw [if_neg Bool.false_ne_true, List.filter_cons_of_pos (by rw [h]; rfl), ih]

theorem dropWhile_none {α : Type} {p : α → Bool} {s : List α} (h : ∀ a ∈ s, p a = false) :
    s.dropWhile p = s := by
  cases s with
  | nil => rfl
  | cons a s =>
    rw [List.dropWhile_cons_of_neg]
    rw [h a List.mem_cons_self]
    exact Bool.false_ne_true

theorem strip_none {α : Type} {p : α → Bool} {s : List α} (h : ∀ a ∈ s, p a = false) :
    ((s.dropWhile p).reverse.dropWhile p).reverse = s := by
  rw [dropWhile_none h, dropWhile_none fun a ha => h a (List.mem_reverse.mp ha),
    List.reverse_reverse]

theorem filter_text (u : Uuid) :
    u.text.toList.filter (fun c => !('-' == c)) = u.hexDigits 0 32 := by
  have hdigits (i count : Nat) :
      (u.hexDigits i count).filter (fun c => !('-' == c)) = u.hexDigits i count := by
    refine List.filter_eq_self.mpr fun c hc => ?_
    obtain ⟨k, -, rfl⟩ := List.mem_map.mp hc
    have hall : ∀ d < 16, (!('-' == Nat.digitChar d)) = true := by decide
    exact hall _ (Nat.mod_lt _ (by decide))
  have hdash (s : List Char) : ('-' :: s).filter (fun c => !('-' == c)) =
      s.filter fun c => !('-' == c) := List.filter_cons_of_neg (by decide)
  have hjoin (i m n : Nat) : u.hexDigits i m ++ u.hexDigits (i + m) n = u.hexDigits i (m + n) := by
    unfold Uuid.hexDigits
    rw [← List.map_append, List.range'_append_1]
  unfold Uuid.text
  rw [String.toList_ofList, List.filter_append, List.filter_append, List.filter_append,
    List.filter_append, hdash, hdash, hdash, hdash, hdigits, hdigits, hdigits, hdigits, hdigits]
  show u.hexDigits 0 8 ++ u.hexDigits (0 + 8) 4 ++ u.hexDigits (0 + 12) 4 ++
    u.hexDigits (0 + 16) 4 ++ u.hexDigits (0 + 20) 12 = _
  rw [hjoin, hjoin, hjoin, hjoin]

theorem hex_text (u : Uuid) : hex (points u.text) = (u.hexDigits 0 32).map Char.toNat := by
  have habsent {n : Nat} (hdigit : ∀ d < 16, n ≠ (Nat.digitChar d).toNat) (hdash : n ≠ '-'.toNat) :
      n ∉ points u.text := by
    intro hmem
    obtain ⟨c, hc, heq⟩ := List.mem_map.mp hmem
    exact uuid_characters (P := fun c => n ≠ c.toNat) hdigit hdash u c hc heq.symm
  have hbrace : ∀ c ∈ points u.text, (points "\x7b\x7d").contains c = false := by
    intro c hc
    rw [← Bool.not_eq_true]
    intro hmem
    have hset : points "\x7b\x7d" = [123, 125] := rfl
    have hcases : c = 123 ∨ c = 125 := by
      rw [hset] at hmem
      simpa using List.contains_iff_mem.mp hmem
    rcases hcases with rfl | rfl
    · exact habsent (by decide) (by decide) hc
    · exact habsent (by decide) (by decide) hc
  have hu : 'u'.toNat ∉ points u.text := habsent (by decide) (by decide)
  unfold hex stripBraces
  dsimp only
  rw [show points "urn:" = 'u'.toNat :: points "rn:" from rfl,
    show points "uuid:" = 'u'.toNat :: points "uid:" from rfl,
    show points "-" = ['-'.toNat] from rfl, remove_absent hu, remove_absent hu, strip_none hbrace,
    remove_single, points, List.filter_map, ← filter_text]
  refine congrArg (List.map Char.toNat) (List.filter_congr fun c hc => ?_)
  show (!('-'.toNat == c.toNat)) = !('-' == c)
  refine congrArg (fun b => !b) ?_
  rw [Bool.eq_iff_iff, beq_iff_eq, beq_iff_eq]
  exact ⟨fun h => toNat_injective h, fun h => congrArg Char.toNat h⟩

theorem places_hexDigits {digits : List Nat} (h : ∀ d ∈ digits, d < 16) :
    places false (digits.map Nat.digitChar) = some digits := by
  induction digits with
  | nil => rfl
  | cons d digits ih =>
    rw [List.forall_mem_cons] at h
    have hline : ∀ d < 16, Nat.digitChar d ≠ '_' := by decide
    rw [List.map_cons, places, if_neg (hline d h.1), Ip.hexValue_digitChar d h.1, ih h.2]
    rfl

theorem foldl_hexDigits (n i count : Nat) (h : i + count ≤ 32) :
    ((List.range' i count).map fun k => (n >>> (4 * (31 - k))) % 16).foldl
      (fun m d => m * 16 + d) (n >>> (4 * (32 - i))) = n >>> (4 * (32 - (i + count))) := by
  induction count generalizing i with
  | zero => rfl
  | succ count ih =>
    have hstep : n >>> (4 * (32 - i)) * 16 + n >>> (4 * (31 - i)) % 16 = n >>> (4 * (31 - i)) := by
      rw [show 4 * (32 - i) = 4 * (31 - i) + 4 by omega, Nat.shiftRight_add,
        Nat.shiftRight_eq_div_pow _ 4]
      omega
    rw [List.range'_succ, List.map_cons, List.foldl_cons, hstep]
    have hrest := ih (i + 1) (by omega)
    rw [show 32 - (i + 1) = 31 - i by omega] at hrest
    rw [hrest]
    congr 2
    omega

theorem ofPlaces_hexDigits (u : Uuid) :
    Ip.ofPlaces 16 ((List.range' 0 32).map fun k => (u.toNat >>> (4 * (31 - k))) % 16) = u.toNat := by
  have hfold := foldl_hexDigits u.toNat 0 32 (by omega)
  rw [show u.toNat >>> (4 * (32 - 0)) = 0 from
    (Nat.shiftRight_eq_div_pow _ _).trans (Nat.div_eq_of_lt u.isLt)] at hfold
  exact hfold

theorem hexInt_hexDigits (u : Uuid) : hexInt (u.hexDigits 0 32) = some (u.toNat : Int) := by
  have hmem {P : Char → Prop} (h : ∀ d < 16, P (Nat.digitChar d)) : ∀ c ∈ u.hexDigits 0 32, P c := by
    intro c hc
    obtain ⟨k, -, rfl⟩ := List.mem_map.mp hc
    exact h _ (Nat.mod_lt _ (by decide))
  have hhead {c : Char} (h : ∀ d < 16, Nat.digitChar d ≠ c) : (u.hexDigits 0 32).head? ≠ some c :=
    fun heq => hmem (P := fun d => d ≠ c) h c (List.mem_of_head? heq) rfl
  have hbase {c : Char} (h : ∀ d < 16, Nat.digitChar d ≠ c) : (u.hexDigits 0 32).take 2 ≠ ['0', c] := by
    intro heq
    have hc : c ∈ (u.hexDigits 0 32).take 2 := heq ▸ List.mem_cons_of_mem '0' List.mem_cons_self
    exact hmem (P := fun d => d ≠ c) h c (List.mem_of_mem_take hc) rfl
  have htrim : trim (u.hexDigits 0 32) = u.hexDigits 0 32 :=
    strip_none (hmem (P := fun c => isSpace c = false) (by decide))
  have hbehind : behindBase (u.hexDigits 0 32) = u.hexDigits 0 32 := by
    refine if_neg fun h => ?_
    rcases h with h | h
    · exact hbase (by decide) h
    · exact hbase (by decide) h
  have hplaces : places true (u.hexDigits 0 32) =
      some ((List.range' 0 32).map fun k => (u.toNat >>> (4 * (31 - k))) % 16) := by
    have hlt : ∀ d ∈ (List.range' 0 32).map fun k => (u.toNat >>> (4 * (31 - k))) % 16, d < 16 := by
      intro d hd
      obtain ⟨k, -, rfl⟩ := List.mem_map.mp hd
      exact Nat.mod_lt _ (by decide)
    have hread := places_hexDigits hlt
    rw [List.map_map] at hread
    -- the first digit clears the underscore
    have hfirst : places true (u.hexDigits 0 32) = places false (u.hexDigits 0 32) := by
      have hline : Nat.digitChar ((u.toNat >>> (4 * (31 - 0))) % 16) ≠ '_' :=
        hmem (P := fun c => c ≠ '_') (by decide) _ (List.mem_map.mpr ⟨0, by decide, rfl⟩)
      show (if _ then _ else _) = (if _ then _ else _)
      rw [if_neg hline, if_neg hline]
    rw [hfirst]
    exact hread
  unfold hexInt
  dsimp only
  rw [htrim, if_neg (not_or.mpr ⟨hhead (by decide), hhead (by decide)⟩), hbehind, hplaces,
    Option.map_some, if_neg (hhead (by decide)), ofPlaces_hexDigits]

end Uuids

/-- **the canonical text of an id is read as the id** -/
theorem Uuid.parse_text (ascii : Nat → Char) (u : Uuid) : Uuid.parse ascii (points u.text) = some u := by
  have hlength : (hex (points u.text)).length = 32 := by
    rw [hex_text, List.length_map]
    unfold Uuid.hexDigits
    rw [List.length_map, List.length_range']
  have hchars : (hex (points u.text)).map (fun c => if c < 128 then Char.ofNat c else ascii c) =
      u.hexDigits 0 32 := by
    rw [hex_text, List.map_map]
    refine (List.map_congr_left fun c hc => ?_).trans (List.map_id _)
    obtain ⟨k, -, rfl⟩ := List.mem_map.mp hc
    have hall : ∀ d < 16, (Nat.digitChar d).toNat < 128 := by decide
    exact (if_pos (hall _ (Nat.mod_lt _ (by decide)))).trans (Char.ofNat_toNat _)
  unfold Uuid.parse
  rw [if_pos hlength, hchars, hexInt_hexDigits]
  dsimp only
  rw [if_pos ⟨Int.natCast_nonneg _, by exact_mod_cast u.isLt⟩, Int.toNat_natCast,
    BitVec.ofNat_toNat, BitVec.setWidth_eq]

theorem Uuid.text_injective : Function.Injective Uuid.text := by
  intro u v h
  have hread := Uuid.parse_text (fun _ => ' ') u
  rw [h, Uuid.parse_text] at hread
  exact (Option.some.inj hread).symm

end PgRbac
