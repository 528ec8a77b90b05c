import PgRbac.BusinessPayloads

/-!
# The size of a stored payload

`sanitize_business_payload` measures the text that `json.dumps` makes of a payload; the constraints
`ck_business_audit_before_size`, `ck_business_audit_after_size` and `ck_business_audit_context_size`
measure the text that PostgreSQL makes of the stored `jsonb` value.  The two texts have the same
separators and escapes, and the fields in another order; PostgreSQL writes no exponents.

* `jsonbOctets`       the length that the constraints see;
* `growth`            how much longer the numbers of a payload are without exponents;
* `stored_size`       every bound that a payload passes holds of what is stored, exactly when its
                      numbers do not grow.
-/

set_option linter.unusedVariables false

namespace PgRbac.Payloads

open Fallible

/-! ## the text of a `jsonb` value -/

/-- `octet_length(state::text)` -/
def jsonbOctets (stored : JsonValue) : Nat :=
  JsonValue.octets (stored.text (JsonValue.spaced Flonum.plain))

example : Flonum.repr (.finite false 1 301 (by decide)) = "1e+300".toList := by decide +kernel
example : Flonum.plain (.finite true 15 (-6) (by decide)) = "-0.00000015".toList := by
  decide +kernel

/-! ## numbers without exponents -/

/-- how much longer a number is for PostgreSQL -/
def floatGrowth (f : Flonum) : Int := JsonValue.numberGrowth Flonum.repr Flonum.plain f

/-- a number whose shortest notation has no exponent does not grow -/
theorem floatGrowth_short {negative : Bool} {digits : Nat} {point : Int} {h : digits % 10 ≠ 0}
    (hshort : Flonum.short point = true) :
    floatGrowth (.finite negative digits point h) = 0 := by
  have hsame : Flonum.plain (.finite negative digits point h) =
      Flonum.repr (.finite negative digits point h) := by
    unfold Flonum.plain Flonum.repr
    dsimp only
    rw [if_pos hshort, if_pos hshort]
  unfold floatGrowth JsonValue.numberGrowth
  rw [hsame, Int.sub_self]

-- the growth of everything that is converted; of the items with one key the last one remains
mutual
def growth : PyValue → Int
  | .float f => floatGrowth f
  | .enum value => growth value
  | .mapping items => entriesGrowth items
  | .sequence _ items => itemsGrowth items
  | .none => 0
  | .bool _ => 0
  | .int _ => 0
  | .str _ => 0
  | .uuid _ => 0
  | .datetime _ => 0
  | .other _ => 0

def entriesGrowth : List (PyKey × PyValue) → Int
  | [] => 0
  | (key, item) :: rest =>
    (if key ∈ rest.map Prod.fst then 0 else growth item) + entriesGrowth rest

def itemsGrowth : List PyValue → Int
  | [] => 0
  | item :: rest => growth item + itemsGrowth rest
end

/-! ## the growth of a result -/

section
variable {casefold : String → String} {alnum : Char → Bool}

theorem fieldsGrowth_sum (fields : List (String × JsonValue)) :
    JsonValue.fieldsGrowth Flonum.repr Flonum.plain fields =
      (fields.map fun field => field.2.growth Flonum.repr Flonum.plain).sum := by
  induction fields with
  | nil => rfl
  | cons field rest ih =>
    rw [JsonValue.fieldsGrowth, ih, List.map_cons, List.sum_cons]

theorem auditEntries_growth {items : List (PyKey × PyValue)} (depth : Nat)
    (hitems : ∀ item ∈ items, ∀ j, auditValue casefold alnum depth item.2 = .ok j →
      j.growth Flonum.repr Flonum.plain = growth item.2) :
    ∀ {result fields : List (String × JsonValue)},
      auditEntries casefold alnum depth result items = .ok fields →
      (result.map Prod.fst).Nodup →
      JsonValue.fieldsGrowth Flonum.repr Flonum.plain fields =
        (result.map fun field => if .str field.1 ∈ items.map Prod.fst then 0
          else field.2.growth Flonum.repr Flonum.plain).sum + entriesGrowth items := by
  induction items with
  | nil =>
    intro result fields h hnodup
    cases h
    rw [fieldsGrowth_sum, entriesGrowth, Int.add_zero]
    exact congrArg List.sum (List.map_congr_left fun field _ => (if_neg List.not_mem_nil).symm)
  | cons item rest ih =>
    obtain ⟨key, item⟩ := item
    intro result fields h hnodup
    cases key with
    | other => cases h
    | str key =>
      rw [List.forall_mem_cons] at hitems
      simp only [auditEntries, bind_ok] at h
      obtain ⟨_, hkey, value, hvalue, hrest⟩ := h
      have hvalue' : value.growth Flonum.repr Flonum.plain = growth item := hitems.1 value hvalue
      have hold : (result.map fun field => if field.1 = key then 0
            else if .str field.1 ∈ rest.map Prod.fst then 0
              else field.2.growth Flonum.repr Flonum.plain) =
          result.map fun field => if .str field.1 ∈ .str key :: rest.map Prod.fst then 0
            else field.2.growth Flonum.repr Flonum.plain := by
        refine List.map_congr_left fun field _ => ?_
        by_cases heq : field.1 = key
        · rw [if_pos heq, if_pos (heq ▸ List.mem_cons_self)]
        · have hsame : .str field.1 ∈ .str key :: rest.map Prod.fst ↔
              .str field.1 ∈ rest.map Prod.fst := by
            rw [List.mem_cons]
            exact or_iff_right fun hkeys => heq (PyKey.str.inj hkeys)
          rw [if_neg heq]
          simp only [hsame]
      rw [ih hitems.2 hrest (nodup_setKey hnodup), sum_setKey _ hnodup, hold, entriesGrowth,
        hvalue', List.map_cons]
      exact Int.add_assoc _ _ _

theorem auditSequence_growth {items : List PyValue} (depth : Nat)
    (hitems : ∀ item ∈ items, ∀ j, auditValue casefold alnum depth item = .ok j →
      j.growth Flonum.repr Flonum.plain = growth item) :
    ∀ {values : List JsonValue}, auditSequence casefold alnum depth items = .ok values →
      JsonValue.itemsGrowth Flonum.repr Flonum.plain values = itemsGrowth items := by
  induction items with
  | nil =>
    intro values h
    cases h
    rfl
  | cons item rest ih =>
    intro values h
    rw [List.forall_mem_cons] at hitems
    simp only [auditSequence, bind_ok, pure_ok] at h
    obtain ⟨value, hvalue, values', hrest, rfl⟩ := h
    rw [JsonValue.itemsGrowth, itemsGrowth, hitems.1 value hvalue, ih hitems.2 hrest]

/-- a result grows like the payload it comes from -/
theorem auditValue_growth (v : PyValue) : ∀ {depth : Nat} {j : JsonValue},
    auditValue casefold alnum depth v = .ok j →
      j.growth Flonum.repr Flonum.plain = growth v := by
  induction v using PyValue.recursion with
  | none =>
    intro depth j h
    simp only [auditValue, bind_ok] at h
    obtain ⟨_, -, ⟨⟩⟩ := h
    rfl
  | bool b =>
    intro depth j h
    simp only [auditValue, bind_ok] at h
    obtain ⟨_, -, ⟨⟩⟩ := h
    rfl
  | int n =>
    intro depth j h
    simp only [auditValue, bind_ok] at h
    obtain ⟨_, -, ⟨⟩⟩ := h
    rfl
  | str s =>
    intro depth j h
    simp only [auditValue, bind_ok, pure_ok] at h
    obtain ⟨_, -, _, -, rfl⟩ := h
    rfl
  | float f =>
    intro depth j h
    simp only [auditValue, bind_ok, pure_ok] at h
    obtain ⟨_, -, _, -, rfl⟩ := h
    rfl
  | uuid id =>
    intro depth j h
    simp only [auditValue, bind_ok] at h
    obtain ⟨_, -, ⟨⟩⟩ := h
    rfl
  | datetime t =>
    intro depth j h
    cases t with
    | naive => simp only [auditValue, bind_ok, reduceCtorEq, and_false, exists_false] at h
    | outOfRange => simp only [auditValue, bind_ok, reduceCtorEq, and_false, exists_false] at h
    | aware utc =>
      simp only [auditValue, bind_ok] at h
      obtain ⟨_, -, ⟨⟩⟩ := h
      rfl
  | enum value ih =>
    intro depth j h
    simp only [auditValue, bind_ok] at h
    obtain ⟨_, -, hvalue⟩ := h
    rw [growth]
    exact ih hvalue
  | mapping items ih =>
    intro depth j h
    simp only [auditValue, bind_ok, pure_ok] at h
    obtain ⟨_, -, _, -, fields, hfields, rfl⟩ := h
    rw [JsonValue.growth, growth,
      auditEntries_growth _ (fun item hitem j hj => ih item hitem hj) hfields List.nodup_nil]
    exact Int.zero_add _
  | sequence kind items ih =>
    intro depth j h
    simp only [auditValue, bind_ok, pure_ok] at h
    obtain ⟨_, -, _, -, values, hvalues, rfl⟩ := h
    rw [JsonValue.growth, growth]
    exact auditSequence_growth _ (fun item hitem j hj => ih item hitem hj) hvalues
  | other typeName =>
    intro depth j h
    simp only [auditValue, bind_ok, reduceCtorEq, and_false, exists_false] at h

theorem jsonbOctets_eq {maxBytes : Int} {state : PyValue} {j stored : JsonValue}
    (h : sanitizeBusiness casefold alnum maxBytes state = .ok j)
    (hstored : JsonValue.Reordered j stored) :
    (jsonbOctets stored : Int) =
      JsonValue.octets (j.text (JsonValue.spaced Flonum.repr)) + growth state := by
  have hvalue := (sanitizeState_ok.mp (sanitizeBusiness_ok.mp h).2.1).1
  have horder : JsonValue.octets (j.text (JsonValue.spaced Flonum.plain)) = jsonbOctets stored :=
    hstored.octets_text
  rw [← horder, ← auditValue_growth state hvalue]
  exact JsonValue.octets_text_renumbered j

end

/-- **every bound that a payload passes holds of what is stored, in any order of the fields, exactly
when its numbers together do not grow** -/
theorem stored_size (casefold : String → String) (alnum : Char → Bool) (passed : Int)
    (state : PyValue) (j : JsonValue)
    (h : sanitizeBusiness casefold alnum passed state = .ok j) :
    (∀ (maxBytes : Int) (j' stored : JsonValue),
      sanitizeBusiness casefold alnum maxBytes state = .ok j' → JsonValue.Reordered j' stored →
        (jsonbOctets stored : Int) ≤ maxBytes) ↔ growth state ≤ 0 := by
  constructor
  · intro hall
    -- the measured length is itself a bound
    have hok := sanitizeBusiness_ok.mp h
    have hown := sanitizeBusiness_ok.mpr ⟨hok.1, hok.2.1, Int.le_refl _⟩
    have hle := hall _ j j hown (.refl j)
    rw [jsonbOctets_eq h (.refl j)] at hle
    omega
  · intro hgrowth maxBytes j' stored h' hstored
    have hsize := (sanitizeBusiness_ok.mp h').2.2
    rw [jsonbOctets_eq h' hstored]
    omega

/-- two amounts: the first notation is shorter without its exponent, the second one is longer -/
def amounts : PyValue := .mapping
  [(.str "large", .float (.finite false 12345678901234568 17 (by decide))),
    (.str "small", .float (.finite false 1 (-4) (by decide)))]

def amountsJson : JsonValue := .object
  [("large", .float (.finite false 12345678901234568 17 (by decide))),
    ("small", .float (.finite false 1 (-4) (by decide)))]

theorem stored_size_amounts :
    (∀ (maxBytes : Int) (j' stored : JsonValue),
      sanitizeBusiness asciiCasefold (fun _ => false) maxBytes amounts = .ok j' →
        JsonValue.Reordered j' stored → (jsonbOctets stored : Int) ≤ maxBytes) ↔
      growth amounts ≤ 0 :=
  stored_size asciiCasefold (fun _ => false) 4096 amounts amountsJson
    (sanitizeBusiness_ok.mpr ⟨rfl, sanitizeState_ok.mpr ⟨rfl, ⟨_, rfl⟩, by decide +kernel,
      by decide +kernel⟩, by decide +kernel⟩)

/-- twenty times the number `1e300` -/
def weights : PyValue := .mapping
  [(.str "weights", .sequence .list
    (List.replicate 20 (.float (.finite false 1 301 (by decide)))))]

def weightsJson : JsonValue := .object
  [("weights", .array (List.replicate 20 (.float (.finite false 1 301 (by decide)))))]

/-- 173 octets for a context become more than the 4096 that the table allows -/
theorem exponents_grow :
    sanitizeBusiness asciiCasefold (fun _ => false) 4096 weights = .ok weightsJson ∧
      JsonValue.octets (weightsJson.text (JsonValue.spaced Flonum.repr)) = 173 ∧
      jsonbOctets weightsJson = 6073 :=
  ⟨sanitizeBusiness_ok.mpr ⟨rfl, sanitizeState_ok.mpr ⟨rfl, ⟨_, rfl⟩, by decide +kernel,
    by decide +kernel⟩, by decide +kernel⟩, by decide +kernel, by decide +kernel⟩

end PgRbac.Payloads
