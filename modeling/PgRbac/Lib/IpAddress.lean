import Mathlib.Data.List.Basic
import Mathlib.Tactic.IntervalCases
import Mathlib.Tactic.Ring

/-!
# Internet addresses and their texts

An IPv4 address is 32 bits, an IPv6 address 128 bits with the name of a zone behind a `%`.

* `IPv4Address.parse`, `IPv6Address.parse`, `ipAddress`  reading a text;
* `compressHextets`        the first longest run of zeros becomes `::`;
* `IpAddress.compressed`   writing an address;
* `Brief`, `compressed_brief`   an address without a zone is a short text in ASCII;
* `IPv4Address.dots`, `IPv6Address.colons`   the separators that a text of an address has.
-/

set_option linter.unusedVariables false

namespace Ip

/-- the parts of a URL: a result of `urllib.parse.urlsplit` -/
structure SplitUrl where
  scheme : String
  hostname : Option String
  port : Option Nat
  username : Option String
  password : Option String
  path : String
  query : String
  fragment : String
deriving DecidableEq

structure IPv4Address where
  value : BitVec 32
  deriving DecidableEq, Repr

structure IPv6Address where
  value : BitVec 128
  scopeId : Option (List Char)
  scope_ok : ∀ zone ∈ scopeId, zone ≠ [] ∧ '%' ∉ zone
  deriving DecidableEq

inductive IpAddress where
  | v4 (a : IPv4Address)
  | v6 (a : IPv6Address)
  deriving DecidableEq

/-! ## reading -/

/-- `_parse_octet`: no leading zeros -/
def parseOctet (octet : List Char) : Option Nat :=
  if octet ≠ [] ∧ octet.all Char.isDigit = true ∧ octet.length ≤ 3 ∧
      (octet = ['0'] ∨ octet.head? ≠ some '0') ∧ Nat.ofDigitChars 10 octet 0 ≤ 255 then
    some (Nat.ofDigitChars 10 octet 0)
  else none

/-- the number with the given digits, the first one the highest -/
def ofPlaces (base : Nat) (places : List Nat) : Nat := places.foldl (fun n d => n * base + d) 0

def IPv4Address.parse (text : List Char) : Option IPv4Address :=
  if (text.splitOn '.').length = 4 then
    ((text.splitOn '.').mapM parseOctet).map fun octets => ⟨BitVec.ofNat 32 (ofPlaces 256 octets)⟩
  else none

def hexValue (c : Char) : Option Nat :=
  if c.isDigit then some (c.toNat - 48)
  else if 'a' ≤ c ∧ c ≤ 'f' then some (c.toNat - 87)
  else if 'A' ≤ c ∧ c ≤ 'F' then some (c.toNat - 55)
  else none

theorem hexValue_digitChar : ∀ d < 16, hexValue (Nat.digitChar d) = some d := by decide

def parseHextet (hextet : List Char) : Option Nat :=
  if hextet ≠ [] ∧ hextet.length ≤ 4 then (hextet.mapM hexValue).map (ofPlaces 16) else none

/-- the last two hextets may be dotted -/
def undotted (parts : List (List Char)) : Option (List (List Char)) :=
  let last := parts.getLast?.getD []
  if '.' ∈ last then
    (IPv4Address.parse last).map fun a => parts.dropLast ++
      [Nat.toDigits 16 (a.value.toNat / 65536), Nat.toDigits 16 (a.value.toNat % 65536)]
  else some parts

/-- an end that is empty stands beside the `::` -/
def besideColons (parts : List (List Char)) : List (List Char) := if parts = [[]] then [] else parts

/-- the eight hextets of the parts between colons -/
def readHextets (parts : List (List Char)) : Option (List Nat) :=
  match (List.range' 1 (parts.length - 2)).filter fun i => parts[i]? = some [] with
  | [] => if parts.length = 8 then parts.mapM parseHextet else none
  | [skipIndex] => do
    let high := besideColons (parts.take skipIndex)
    let low := besideColons (parts.drop (skipIndex + 1))
    if 8 ≤ high.length + low.length then none
    else
      let highs ← high.mapM parseHextet
      let lows ← low.mapM parseHextet
      pure (highs ++ List.replicate (8 - (high.length + low.length)) 0 ++ lows)
  | _ => none

/-- `_ip_int_from_string` -/
def ipv6FromString (text : List Char) : Option (BitVec 128) := do
  let parts := text.splitOn ':'
  if parts.length < 3 then none
  else
    let hextets ← readHextets (← undotted parts)
    pure (BitVec.ofNat 128 (ofPlaces 65536 hextets))

def IPv6Address.parse (text : List Char) : Option IPv6Address :=
  if '/' ∈ text then none
  else
    let address := text.takeWhile (· ≠ '%')
    let zone := text.drop (address.length + 1)
    if '%' ∉ text then (ipv6FromString address).map fun value => ⟨value, none, by simp⟩
    else if h : zone ≠ [] ∧ '%' ∉ zone then
      (ipv6FromString address).map fun value => ⟨value, some zone, by simpa using h⟩
    else none

/-- `ip_address` of a text -/
def ipAddress (text : String) : Option IpAddress :=
  ((IPv4Address.parse text.toList).map .v4).or ((IPv6Address.parse text.toList).map .v6)

/-! ## writing -/

def IPv4Address.octets (a : IPv4Address) : List Nat :=
  [3, 2, 1, 0].map fun i => a.value.toNat / 256 ^ i % 256

def IPv4Address.text (a : IPv4Address) : List Char :=
  List.intercalate ['.'] (a.octets.map (Nat.toDigits 10))

def IPv6Address.hextets (a : IPv6Address) : List Nat :=
  [7, 6, 5, 4, 3, 2, 1, 0].map fun i => a.value.toNat / 65536 ^ i % 65536

/-- the start and the length of the first longest run of zeros; the current run has length `len` -/
def zeroRun (index start len bestStart bestLen : Nat) : List (List Char) → Nat × Nat
  | [] => (bestStart, bestLen)
  | hextet :: rest =>
    if hextet = ['0'] then
      let start := if len = 0 then index else start
      if bestLen < len + 1 then zeroRun (index + 1) start (len + 1) start (len + 1) rest
      else zeroRun (index + 1) start (len + 1) bestStart bestLen rest
    else zeroRun (index + 1) 0 0 bestStart bestLen rest

def compressHextets (hextets : List (List Char)) : List (List Char) :=
  let (start, len) := zeroRun 0 0 0 0 0 hextets
  if 1 < len then
    (if start = 0 then [[]] else []) ++ hextets.take start ++ [[]] ++ hextets.drop (start + len) ++
      (if start + len = hextets.length then [[]] else [])
  else hextets

/-- `_string_from_ip_int` -/
def IPv6Address.unzoned (a : IPv6Address) : List Char :=
  List.intercalate [':'] (compressHextets (a.hextets.map (Nat.toDigits 16)))

def IPv6Address.text (a : IPv6Address) : List Char :=
  a.unzoned ++ a.scopeId.elim [] ('%' :: ·)

def IpAddress.compressed : IpAddress → String
  | .v4 a => String.ofList a.text
  | .v6 a => String.ofList a.text

example : (ipAddress "10.0.0.1").map IpAddress.compressed = some "10.0.0.1" := by decide +kernel
example : (ipAddress "FE80:0:0::0:1%eth0").map IpAddress.compressed = some "fe80::1%eth0" := by
  decide +kernel
example : (ipAddress "0:0:1:0:0:0:0.0.0.0").map IpAddress.compressed = some "0:0:1::" := by
  decide +kernel
example : ipAddress "01.0.0.1" = none ∧ ipAddress "1::2::3" = none ∧ ipAddress "" = none := by
  decide +kernel

/-! ## the length of a text -/

/-- at most `n` characters, all of them ASCII -/
def Brief (n : Nat) (text : List Char) : Prop := text.length ≤ n ∧ ∀ c ∈ text, c.toNat < 128

section
variable {m n : Nat} {text text' : List Char} {parts : List (List Char)}

theorem Brief.nil : Brief n [] := ⟨Nat.zero_le n, nofun⟩

theorem Brief.mono (h : Brief m text) (hle : m ≤ n) : Brief n text := ⟨h.1.trans hle, h.2⟩

theorem Brief.append (h : Brief m text) (h' : Brief n text') : Brief (m + n) (text ++ text') := by
  refine ⟨?_, fun c hc => ?_⟩
  · rw [List.length_append]
    exact Nat.add_le_add h.1 h'.1
  · rcases List.mem_append.mp hc with hl | hr
    · exact h.2 c hl
    · exact h'.2 c hr

theorem brief_intercalate {separator : Char} (hs : separator.toNat < 128)
    (h : ∀ part ∈ parts, Brief n part) :
    Brief (parts.length * (n + 1)) (List.intercalate [separator] parts) := by
  have hone : Brief 1 [separator] := ⟨Nat.le_refl 1, fun c hc => by
    rw [List.mem_singleton.mp hc]
    exact hs⟩
  induction parts with
  | nil => exact .nil
  | cons part rest ih =>
    have hpart := h part List.mem_cons_self
    cases rest with
    | nil =>
      rw [List.intercalate_singleton]
      exact hpart.mono (by rw [List.length_singleton]; omega)
    | cons next rest =>
      have hrest := ih fun p hp => h p (List.mem_cons_of_mem _ hp)
      rw [List.intercalate_cons_cons]
      refine (hpart.append hone |>.append hrest).mono ?_
      rw [List.length_cons, List.length_cons, List.length_cons]
      exact Nat.le_of_eq (by ring)

theorem brief_toDigits {base k : Nat} (hb : 1 < base) (hb' : base ≤ 16) (hk : 0 < k)
    (h : n < base ^ k) : Brief k (Nat.toDigits base n) := by
  refine ⟨(Nat.length_toDigits_le_iff hb hk).mpr h, ?_⟩
  clear h
  induction n using Nat.strongRecOn with
  | _ n ih =>
    have hdigit (d : Nat) (hd : d < 16) : d.digitChar.toNat < 128 := by
      interval_cases d <;> decide
    rw [Nat.toDigits_eq_if hb]
    split
    · rename_i hlt
      intro c hc
      rw [List.mem_singleton.mp hc]
      exact hdigit n (by omega)
    · rename_i hge
      intro c hc
      rcases List.mem_append.mp hc with hl | hr
      · exact ih (n / base) (Nat.div_lt_self (by omega) hb) c hl
      · rw [List.mem_singleton.mp hr]
        exact hdigit _ ((Nat.mod_lt n (by omega)).trans_le hb')

theorem brief_compressHextets (h : ∀ part ∈ parts, Brief n part) :
    (compressHextets parts).length ≤ parts.length + 3 ∧
      ∀ part ∈ compressHextets parts, Brief n part := by
  have hempty : ∀ part ∈ ([[]] : List (List Char)), Brief n part := fun part hp => by
    rw [List.mem_singleton.mp hp]
    exact .nil
  have hend (c : Prop) [Decidable c] : (if c then [([] : List Char)] else []).length ≤ 1 ∧
      ∀ part ∈ (if c then [([] : List Char)] else []), Brief n part := by
    split
    · exact ⟨Nat.le_refl 1, hempty⟩
    · exact ⟨Nat.zero_le 1, nofun⟩
  unfold compressHextets
  obtain ⟨start, len⟩ := zeroRun 0 0 0 0 0 parts
  dsimp only
  split
  · have hfirst := hend (start = 0)
    have hlast := hend (start + len = parts.length)
    constructor
    · simp only [List.length_append, List.length_take, List.length_drop, List.length_singleton]
      omega
    · intro part hp
      simp only [List.mem_append] at hp
      rcases hp with (((hp | hp) | hp) | hp) | hp
      · exact hfirst.2 part hp
      · exact h part (List.mem_of_mem_take hp)
      · exact hempty part hp
      · exact h part (List.mem_of_mem_drop hp)
      · exact hlast.2 part hp
  · exact ⟨by omega, h⟩

end

theorem IPv4Address.brief_text (a : IPv4Address) : Brief 16 a.text := by
  have hoctets : ∀ part ∈ a.octets.map (Nat.toDigits 10), Brief 3 part := by
    intro part hp
    obtain ⟨octet, hoctet, rfl⟩ := List.mem_map.mp hp
    obtain ⟨i, -, rfl⟩ := List.mem_map.mp hoctet
    exact brief_toDigits (by decide) (by decide) (by decide) (by omega)
  exact brief_intercalate (by decide) hoctets

theorem IPv6Address.brief_unzoned (a : IPv6Address) : Brief 55 a.unzoned := by
  have hhextets : ∀ part ∈ a.hextets.map (Nat.toDigits 16), Brief 4 part := by
    intro part hp
    obtain ⟨hextet, hhextet, rfl⟩ := List.mem_map.mp hp
    obtain ⟨i, -, rfl⟩ := List.mem_map.mp hhextet
    exact brief_toDigits (by decide) (by decide) (by decide) (by omega)
  obtain ⟨hlength, hparts⟩ := brief_compressHextets hhextets
  refine (brief_intercalate (by decide) hparts).mono ?_
  have h : (a.hextets.map (Nat.toDigits 16)).length = 8 := rfl
  omega

/-- the name of the zone of an address -/
def IpAddress.zone : IpAddress → Option (List Char)
  | .v4 _ => none
  | .v6 a => a.scopeId

theorem compressed_brief {a : IpAddress} (h : a.zone = none) : Brief 55 a.compressed.toList := by
  cases a with
  | v4 a =>
    show Brief 55 (String.ofList a.text).toList
    rw [String.toList_ofList]
    exact a.brief_text.mono (by decide)
  | v6 a =>
    have hnone : a.scopeId = none := h
    show Brief 55 (String.ofList a.text).toList
    rw [String.toList_ofList, IPv6Address.text, hnone]
    exact a.brief_unzoned.append (n := 0) .nil

/-! ## no text is empty -/

theorem intercalate_ne_nil {separator : Char} {parts : List (List Char)} (h : 2 ≤ parts.length) :
    List.intercalate [separator] parts ≠ [] := by
  cases parts with
  | nil => cases h
  | cons part rest =>
    cases rest with
    | nil => exact absurd h (by simp)
    | cons next rest =>
      rw [List.intercalate_cons_cons]
      simp

theorem le_compressHextets {parts : List (List Char)} (h : 2 ≤ parts.length) :
    2 ≤ (compressHextets parts).length := by
  unfold compressHextets
  obtain ⟨start, len⟩ := zeroRun 0 0 0 0 0 parts
  dsimp only
  split
  · simp only [List.length_append, List.length_take, List.length_drop, List.length_singleton]
    by_cases hstart : start = 0
    · rw [if_pos hstart, List.length_singleton]
      omega
    · omega
  · exact h

theorem compressed_ne_empty (a : IpAddress) : a.compressed ≠ "" := by
  intro h
  cases a with
  | v4 a =>
    have htext : a.text = [] := String.ofList_eq_empty_iff.mp h
    have hparts : (a.octets.map (Nat.toDigits 10)).length = 4 := rfl
    exact intercalate_ne_nil (by omega) htext
  | v6 a =>
    have htext : a.text = [] := String.ofList_eq_empty_iff.mp h
    have hparts : (a.hextets.map (Nat.toDigits 16)).length = 8 := rfl
    exact intercalate_ne_nil (le_compressHextets (by omega)) (List.append_eq_nil_iff.mp htext).1

/-! ## the separators of a text -/

section
variable {text : List Char} {sep : Char}

theorem length_splitOn : (text.splitOn sep).length = text.count sep + 1 := by
  induction text with
  | nil => rfl
  | cons c text ih =>
    rw [List.splitOn_cons_eq_if_modifyHead, List.count_cons]
    split
    · rw [List.length_cons, ih]
    · rw [List.length_modifyHead, ih, Nat.add_zero]

/-- an empty part inside a text stands between two separators -/
theorem doubled_of_splitOn {i : Nat} (h : (text.splitOn sep)[i]? = some [])
    (hlast : i + 1 < (text.splitOn sep).length) :
    (i = 0 ∧ [sep] <+: text) ∨ [sep, sep] <:+: text := by
  induction text generalizing i with
  | nil =>
    rw [List.splitOn_nil, List.length_singleton] at hlast
    omega
  | cons c text ih =>
    rw [List.splitOn_cons_eq_if_modifyHead] at h hlast
    by_cases hc : (c == sep) = true
    · rw [if_pos hc] at h hlast
      have heq : c = sep := beq_iff_eq.mp hc
      cases i with
      | zero => exact .inl ⟨rfl, heq ▸ List.prefix_iff_eq_take.mpr rfl⟩
      | succ i =>
        rw [List.getElem?_cons_succ] at h
        rw [List.length_cons] at hlast
        rcases ih h (by omega) with ⟨-, hfirst⟩ | hinside
        · exact .inr (heq ▸ (List.prefix_cons_inj c |>.mpr (heq ▸ hfirst)).isInfix)
        · exact .inr (List.infix_cons hinside)
    · rw [if_neg hc] at h hlast
      rw [List.length_modifyHead] at hlast
      cases i with
      | zero =>
        cases hparts : text.splitOn sep with
        | nil =>
          rw [hparts] at h
          cases h
        | cons part rest =>
          rw [hparts] at h
          cases h
      | succ i =>
        have hsame : (text.splitOn sep)[i + 1]? = some [] := by
          cases hparts : text.splitOn sep with
          | nil =>
            rw [hparts] at h
            cases h
          | cons part rest =>
            rw [hparts] at h
            exact h
        rcases ih hsame hlast with ⟨hzero, -⟩ | hinside
        · cases hzero
        · exact .inr (List.infix_cons hinside)

end

/-- there are three dots in a text of an IPv4 address -/
theorem IPv4Address.dots {text : List Char} {a : IPv4Address} (h : IPv4Address.parse text = some a) :
    text.count '.' = 3 := by
  unfold IPv4Address.parse at h
  by_cases hlength : (text.splitOn '.').length = 4
  · rw [length_splitOn] at hlength
    omega
  · rw [if_neg hlength] at h
    cases h

/-- the parts are as many as before, or the last one has become two that are not empty -/
theorem undotted_parts {parts parts' : List (List Char)} (h : undotted parts = some parts') :
    parts'.length ≤ parts.length + 1 ∧ ∀ i : Nat, i + 1 < parts'.length → parts'[i]? = some [] →
      i + 1 < parts.length ∧ parts[i]? = some [] := by
  unfold undotted at h
  dsimp only at h
  split at h
  · obtain ⟨a, -, rfl⟩ := Option.map_eq_some_iff.mp h
    have hpos : 0 < parts.length := by
      cases parts with
      | nil =>
        rename_i hdot
        cases hdot
      | cons part rest => exact Nat.succ_pos _
    rw [List.length_append, List.length_dropLast, List.length_cons, List.length_singleton]
    refine ⟨by omega, fun i hi hnil => ?_⟩
    by_cases hinside : i < parts.dropLast.length
    · rw [List.getElem?_append_left hinside] at hnil
      rw [List.length_dropLast] at hinside
      rw [List.getElem?_dropLast, if_pos hinside] at hnil
      exact ⟨by omega, hnil⟩
    · have hi0 : i - parts.dropLast.length = 0 := by
        rw [List.length_dropLast] at hinside ⊢
        omega
      rw [List.getElem?_append_right (Nat.le_of_not_lt hinside), hi0, List.getElem?_cons_zero] at hnil
      exact absurd (Option.some.inj hnil) Nat.toDigits_ne_nil
  · cases h
    exact ⟨Nat.le_succ _, fun i hi hnil => ⟨hi, hnil⟩⟩

theorem ipv6FromString_colons {text : List Char} {value : BitVec 128}
    (h : ipv6FromString text = some value) : [':', ':'] <:+: text ∨ 6 ≤ text.count ':' := by
  unfold ipv6FromString at h
  dsimp only at h
  split at h
  · cases h
  · obtain ⟨parts, hparts, h⟩ := Option.bind_eq_some_iff.mp h
    obtain ⟨hextets, hhextets, -⟩ := Option.bind_eq_some_iff.mp h
    obtain ⟨hlength, hinside⟩ := undotted_parts hparts
    rw [length_splitOn] at hlength
    unfold readHextets at hhextets
    split at hhextets
    · split at hhextets
      · right
        omega
      · cases hhextets
    · rename_i skipIndex hskip
      have hmem : skipIndex ∈ (List.range' 1 (parts.length - 2)).filter fun i =>
          parts[i]? = some [] := by
        rw [hskip]
        exact List.mem_singleton_self _
      obtain ⟨hrange, hnil⟩ := List.mem_filter.mp hmem
      obtain ⟨hlow, hhigh⟩ := List.mem_range'_1.mp hrange
      obtain ⟨hlast, hempty⟩ := hinside skipIndex (by omega) (of_decide_eq_true hnil)
      rcases doubled_of_splitOn hempty hlast with ⟨hzero, -⟩ | hdouble
      · omega
      · exact .inl hdouble
    · cases hhextets

/-- there are two colons side by side in a text of an IPv6 address, or at least six of them -/
theorem IPv6Address.colons {text : List Char} {a : IPv6Address}
    (h : IPv6Address.parse text = some a) : [':', ':'] <:+: text ∨ 6 ≤ text.count ':' := by
  have haddress {value : BitVec 128}
      (hvalue : ipv6FromString (text.takeWhile (· ≠ '%')) = some value) :
      [':', ':'] <:+: text ∨ 6 ≤ text.count ':' := by
    have hinitial := List.takeWhile_prefix (l := text) (· ≠ '%')
    rcases ipv6FromString_colons hvalue with hdouble | hcount
    · exact .inl (hdouble.trans hinitial.isInfix)
    · exact .inr (hcount.trans (hinitial.sublist.count_le ':'))
  unfold IPv6Address.parse at h
  split at h
  · cases h
  · dsimp only at h
    split at h
    · obtain ⟨value, hvalue, -⟩ := Option.map_eq_some_iff.mp h
      exact haddress hvalue
    · split at h
      · obtain ⟨value, hvalue, -⟩ := Option.map_eq_some_iff.mp h
        exact haddress hvalue
      · cases h

end Ip
