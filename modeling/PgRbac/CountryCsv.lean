import PgRbac.Lib.IpAddress
import PgRbac.Provisioning

/-!
# The country catalogue

`validate_country_csv` reads a CSV file row by row and collects findings; it approves the file when
there are none.  The decoder, the CSV reader, `urlsplit` and the Unicode tables are parameters.

* `Python`, `Options`       the library functions that are used, and the arguments;
* `Row`                     five fields;
* `rowFindings`             what one row is blamed for;
* `readRows`                the loop over the rows, with its early end;
* `validateCountryCsv`      the report;
* `Row.Approved`            what a row without a finding satisfies;
* `readRows_sound`          a loop without a finding has read approved rows with fresh codes;
* `approval_sound`          a valid report with membership says all this about the file.
-/

set_option linter.unusedVariables false
set_option linter.unusedSectionVars false

namespace PgRbac.Countries

/-! ## what the validator is given -/

def expectedHeader : List String := ["country_code", "calling_code", "name_zh", "name_en", "flag_url"]

def maxCsvBytes : Nat := 1048576
def maxDataRows : Nat := 1000

/-- what `csv.reader(handle, strict=True)` yields: records with `line_num`, and the `csv.Error`
that it ends with -/
structure CsvFile where
  records : List (List String × Nat)
  failure : Option (String × Nat)
deriving DecidableEq

structure Python where
  /-- `decode("utf-8-sig", errors="strict")` -/
  decode : List UInt8 → Except String String
  csvReader : String → CsvFile
  /-- `none` if it, `hostname` or `port` raises `ValueError` -/
  urlsplit : String → Option Ip.SplitUrl
  /-- `unicodedata.category` -/
  category : Char → String
  casefold : String → String
  repr : String → String

/-- a set of codes -/
abbrev CodeSet := {codes : List String // codes.Nodup}

structure Options where
  expectedCount : Option Int
  expectedCodes : Option CodeSet
  structureOnly : Bool
  requiredCodes : CodeSet
  allowedFlagHosts : List String
  requireDerivedFlagPath : Bool

structure Finding where
  line : Option Nat
  column : Option String
  message : String
deriving DecidableEq

structure ValidationReport where
  rowCount : Nat
  countryCodeCount : Nat
  callingCodeCount : Nat
  membershipChecked : Bool
  sharedCallingCodes : List (String × List String)
  errors : List Finding
  warnings : List Finding
deriving DecidableEq

def ValidationReport.isValid (report : ValidationReport) : Prop := report.errors = []

structure Row where
  countryCode : String
  callingCode : String
  nameZh : String
  nameEn : String
  flagUrl : String
deriving DecidableEq

def Row.values (row : Row) : List String :=
  [row.countryCode, row.callingCode, row.nameZh, row.nameEn, row.flagUrl]

/-- `dict(zip(EXPECTED_HEADER, values, strict=True))` -/
def Row.ofValues : List String → Option Row
  | [countryCode, callingCode, nameZh, nameEn, flagUrl] =>
    some ⟨countryCode, callingCode, nameZh, nameEn, flagUrl⟩
  | _ => none

/-! ## texts -/

def isCountryCode (code : String) : Bool := code.toList.length == 2 && code.toList.all Char.isUpper

/-- `^[1-9][0-9]{0,2}$` -/
def isCallingCode (code : String) : Bool :=
  match code.toList with
  | [] => false
  | c :: cs => c.isDigit && c != '0' && decide (cs.length ≤ 2) && cs.all Char.isDigit

/-- `^[A-Za-z0-9](?:[A-Za-z0-9-]{0,61}[A-Za-z0-9])?$` -/
def isHostLabel (label : List Char) : Bool :=
  label.head?.any Char.isAlphanum && label.getLast?.any Char.isAlphanum &&
    decide (label.length ≤ 63) && label.all fun c => c.isAlphanum || c == '-'

def isAscii (value : String) : Bool := value.toList.all fun c => decide (c.toNat < 128)

def normalizeDnsHostname (value : String) : Option String :=
  if value = "" ∨ 253 < value.length ∨ value.toList.getLast? = some '.' ∨ isAscii value = false then
    none
  else if (value.toList.splitOn '.').all isHostLabel = true then some (asciiCasefold value)
  else none

def sortCodes (codes : List String) : List String := codes.mergeSort fun a b => decide (a ≤ b)

def formatCodes (codes : List String) : String :=
  let ordered := sortCodes codes
  if ordered.length ≤ 20 then ", ".intercalate ordered
  else ", ".intercalate (ordered.take 20) ++ ", ... (" ++ toString ordered.length ++ " total)"

section
variable (py : Python) (o : Options)

def containsForbiddenCharacter (value : String) : Bool :=
  (value.toList.any fun c => decide (c.toNat < 32) || c.toNat == 127) ||
    value.toList.any fun c => ["Cc", "Cf", "Cs"].contains (py.category c)

/-- a finding, if the condition holds -/
def findingIf (condition : Prop) [Decidable condition] (finding : Finding) : List Finding :=
  if condition then [finding] else []

/-! ## one row -/

def columnFindings (line : Nat) (field : String × String) : List Finding :=
  findingIf (field.2 ≠ strip field.2)
      ⟨some line, some field.1, "leading or trailing whitespace is not allowed"⟩ ++
    findingIf (containsForbiddenCharacter py field.2 = true)
      ⟨some line, some field.1, "control or Unicode formatting characters are not allowed"⟩

def countryCodeFindings (countryLines : List (String × Nat)) (line : Nat) (code : String) :
    List Finding :=
  if isCountryCode code = false then
    [⟨some line, some "country_code", "must be two uppercase ASCII letters"⟩]
  else match countryLines.lookup code with
    | some first => [⟨some line, some "country_code", "duplicate of line " ++ toString first⟩]
    | none => []

def callingCodeFindings (line : Nat) (callingCode : String) : List Finding :=
  findingIf (isCallingCode callingCode = false) ⟨some line, some "calling_code",
    "must contain one to three digits, without '+' or a leading zero"⟩

def nameFindings (line : Nat) (column value : String) : List Finding :=
  if value = "" then [⟨some line, some column, "must not be empty"⟩]
  else findingIf (128 < value.length)
    ⟨some line, some column, "must not exceed 128 Unicode characters"⟩

/-- the URL parts that are refused -/
def badUrl (flagUrl : String) (parsed : Ip.SplitUrl) : Prop :=
  parsed.scheme ≠ "https" ∨ parsed.hostname.getD "" = "" ∨
    parsed.hostname.bind normalizeDnsHostname = none ∨
    (parsed.port ≠ none ∧ parsed.port ≠ some 443) ∨ parsed.username ≠ none ∨
    parsed.password ≠ none ∨ '?' ∈ flagUrl.toList ∨ '#' ∈ flagUrl.toList ∨ parsed.fragment ≠ ""

instance decidableBadUrl (flagUrl : String) (parsed : Ip.SplitUrl) :
    Decidable (badUrl flagUrl parsed) :=
  inferInstanceAs (Decidable (_ ∨ _ ∨ _ ∨ (_ ∧ _) ∨ _ ∨ _ ∨ _ ∨ _ ∨ _))

def urlFinding (line : Nat) : Finding := ⟨some line, some "flag_url",
  "must be an absolute HTTPS URL with a valid ASCII DNS host, the default port, and no " ++
    "credentials, query, or fragment"⟩

/-- the checks of the parsed URL -/
def urlFindings (hosts : List String) (line : Nat) (flagUrl : String) :
    Option Ip.SplitUrl → List Finding
  | none => [urlFinding line]
  | some parsed =>
    if badUrl flagUrl parsed then [urlFinding line]
    else findingIf (hosts ≠ [] ∧
        (parsed.hostname.bind normalizeDnsHostname).all (fun host => hosts.contains host) = false)
      ⟨some line, some "flag_url", "host " ++ py.repr (parsed.hostname.getD "") ++
        " is not in the approved allowlist"⟩

/-- `require_derived_flag_path` -/
def derivedPathFindings (line : Nat) (code : String) : Option Ip.SplitUrl → List Finding
  | none => []
  | some parsed =>
    let expectedPath := "/w40/" ++ py.casefold code ++ ".png"
    findingIf (o.requireDerivedFlagPath = true ∧ (parsed.path ≠ expectedPath ∨ parsed.query ≠ ""))
      ⟨some line, some "flag_url",
        "must use the derived path " ++ py.repr expectedPath ++ " without a query"⟩

def flagUrlFindings (hosts : List String) (line : Nat) (code flagUrl : String) : List Finding :=
  if flagUrl ≠ "" then
    findingIf (2048 < flagUrl.length)
        ⟨some line, some "flag_url", "must not exceed 2048 characters"⟩ ++
      urlFindings py hosts line flagUrl (py.urlsplit flagUrl) ++
      derivedPathFindings py o line code (py.urlsplit flagUrl)
  else findingIf (o.requireDerivedFlagPath = true) ⟨some line, some "flag_url",
    "is required when derived flag paths are enforced"⟩

def rowFindings (hosts : List String) (countryLines : List (String × Nat)) (line : Nat)
    (row : Row) : List Finding :=
  (expectedHeader.zip row.values).flatMap (columnFindings py line) ++
    countryCodeFindings countryLines line row.countryCode ++
    callingCodeFindings line row.callingCode ++
    nameFindings line "name_zh" row.nameZh ++ nameFindings line "name_en" row.nameEn ++
    flagUrlFindings py o hosts line row.countryCode row.flagUrl

/-! ## the rows -/

structure Progress where
  errors : List Finding
  countryLines : List (String × Nat)
  callingCodes : List (String × List String)
  nameZhValues : List String
  nameEnValues : List String
  countryCodesInOrder : List String
  rowCount : Nat
  sawFlagUrl : Bool
deriving DecidableEq

/-- `calling_codes[calling_code].append(code)` -/
def appendCallingCode (callingCode code : String) :
    List (String × List String) → List (String × List String)
  | [] => [(callingCode, [code])]
  | (key, codes) :: rest =>
    if key = callingCode then (key, codes ++ [code]) :: rest
    else (key, codes) :: appendCallingCode callingCode code rest

/-- a row with five fields -/
def Progress.addRow (p : Progress) (hosts : List String) (line : Nat) (row : Row) : Progress :=
  let fresh := isCountryCode row.countryCode && (p.countryLines.lookup row.countryCode).isNone
  { p with
    errors := p.errors ++ rowFindings py o hosts p.countryLines line row
    countryLines := if fresh then p.countryLines ++ [(row.countryCode, line)] else p.countryLines
    countryCodesInOrder := if fresh then p.countryCodesInOrder ++ [row.countryCode]
      else p.countryCodesInOrder
    callingCodes := if isCallingCode row.callingCode then
      appendCallingCode row.callingCode row.countryCode p.callingCodes else p.callingCodes
    nameZhValues := p.nameZhValues ++ [row.nameZh]
    nameEnValues := p.nameEnValues ++ [py.casefold row.nameEn]
    sawFlagUrl := p.sawFlagUrl || row.flagUrl != "" }

def Progress.addError (p : Progress) (finding : Finding) : Progress :=
  { p with errors := p.errors ++ [finding] }

/-- the body of the loop within the limit -/
def readRow (hosts : List String) (p : Progress) (record : List String × Nat) : Progress :=
  match Row.ofValues record.1 with
  | none => p.addError ⟨some record.2, none,
      "expected 5 columns, got " ++ toString record.1.length⟩
  | some row => p.addRow py o hosts record.2 row

/-- `for values in reader` -/
def readRows (hosts : List String) (failure : Option (String × Nat)) :
    List (List String × Nat) → Progress → Progress
  | [], p =>
    match failure with
    | none => p
    | some error => p.addError ⟨some error.2, none, "cannot parse CSV row: " ++ error.1⟩
  | record :: records, p =>
    let counted := { p with rowCount := p.rowCount + 1 }
    if maxDataRows < counted.rowCount then
      counted.addError ⟨some record.2, none, "CSV exceeds the 1000-row validation limit"⟩
    else readRows hosts failure records (readRow py o hosts counted record)

/-! ## the report -/

/-- the allowed hosts that are valid -/
def allowedHosts : List String := o.allowedFlagHosts.filterMap normalizeDnsHostname

def hostFindings : List Finding :=
  o.allowedFlagHosts.flatMap fun host => findingIf (normalizeDnsHostname host = none)
    ⟨none, none, "invalid allowed flag host: " ++ py.repr host⟩

def emptyProgress : Progress := ⟨hostFindings py o, [], [], [], [], [], 0, false⟩

def headerFinding : Finding :=
  ⟨some 1, none, "header must be exactly: " ++ ",".intercalate expectedHeader⟩

/-- the file, with its header read first -/
def scan (file : CsvFile) : Progress :=
  let p := emptyProgress py o
  match file.records, file.failure with
  | [], none => (p.addError ⟨some 1, none, "CSV is empty"⟩).addError headerFinding
  | [], some error =>
    (p.addError ⟨some 1, none, "cannot parse CSV header: " ++ error.1⟩).addError headerFinding
  | header :: records, failure =>
    if header.1 ≠ expectedHeader then p.addError headerFinding
    else readRows py o (allowedHosts o) failure records p

/-- `missing_required` and the membership of the codes -/
def codeFindings (codes : List String) : List Finding :=
  findingIf ((o.requiredCodes.1.filter fun c => !codes.contains c) ≠ []) ⟨none, none,
      "missing required country codes: " ++
        formatCodes (o.requiredCodes.1.filter fun c => !codes.contains c)⟩ ++
    match o.expectedCodes with
    | some expected =>
      if o.structureOnly then
        [⟨none, none, "expected_codes and structure_only are mutually exclusive"⟩]
      else
        findingIf ((expected.1.filter fun c => !codes.contains c) ≠ []) ⟨none, none,
            "missing expected country codes: " ++
              formatCodes (expected.1.filter fun c => !codes.contains c)⟩ ++
          findingIf ((codes.filter fun c => !expected.1.contains c) ≠ []) ⟨none, none,
            "contains unexpected country codes: " ++
              formatCodes (codes.filter fun c => !expected.1.contains c)⟩
    | none =>
      findingIf (o.structureOnly = false) ⟨none, none,
        "an approved expected country-code set is required; use structure_only only for an " ++
          "explicitly non-authoritative inspection"⟩

def hostsRequired (p : Progress) : Prop := p.sawFlagUrl = true ∧ allowedHosts o = []

instance decidableHostsRequired (p : Progress) : Decidable (hostsRequired o p) :=
  inferInstanceAs (Decidable (_ ∧ _))

def hostsFinding : Finding :=
  ⟨none, none, "non-empty flag URLs require an approved allowed_flag_hosts set"⟩

/-- the errors behind the loop -/
def closingFindings (p : Progress) : List Finding :=
  findingIf (p.rowCount = 0) ⟨none, none, "CSV must contain at least one data row"⟩ ++
    (o.expectedCount.toList.flatMap fun count => findingIf ((p.rowCount : Int) ≠ count)
      ⟨none, none, "expected " ++ toString count ++ " data rows, found " ++ toString p.rowCount⟩) ++
    codeFindings o (p.countryLines.map Prod.fst) ++
    findingIf (hostsRequired o p ∧ o.structureOnly = false) hostsFinding

def duplicateFinding (column : String) : Finding := ⟨none, some column,
  column ++ " contains duplicate display names; names must not be keys or unique"⟩

/-- `Counter(...)` finds a value twice -/
def hasDuplicates (values : List String) : Prop :=
  ¬ (values.filter fun value => value != "").Nodup

instance decidableHasDuplicates (values : List String) : Decidable (hasDuplicates values) :=
  inferInstanceAs (Decidable (¬ _))

def sharedCallingCodes (p : Progress) : List (String × List String) :=
  ((p.callingCodes.mergeSort fun a b => decide (a.1 ≤ b.1)).filter fun entry =>
    decide (1 < entry.2.length)).map fun entry => (entry.1, sortCodes entry.2)

def warningsOf (p : Progress) : List Finding :=
  findingIf (o.expectedCodes = none ∧ o.structureOnly = true) ⟨none, none,
      "structure-only result is not import approval; country-code membership and completeness " ++
        "were not checked"⟩ ++
    findingIf (hostsRequired o p ∧ o.structureOnly = true) hostsFinding ++
    findingIf (p.countryCodesInOrder ≠ sortCodes p.countryCodesInOrder)
      ⟨none, none, "rows are not sorted by country_code"⟩ ++
    findingIf (hasDuplicates p.nameZhValues) (duplicateFinding "name_zh") ++
    findingIf (hasDuplicates p.nameEnValues) (duplicateFinding "name_en") ++
    findingIf (sharedCallingCodes p ≠ []) ⟨none, none, toString (sharedCallingCodes p).length ++
      " calling codes are shared; calling_code must not be unique"⟩

def conclude (p : Progress) : ValidationReport where
  rowCount := p.rowCount
  countryCodeCount := p.countryLines.length
  callingCodeCount := p.callingCodes.length
  membershipChecked := o.expectedCodes.isSome && !o.structureOnly
  sharedCallingCodes := sharedCallingCodes p
  errors := p.errors ++ closingFindings o p
  warnings := warningsOf o p

/-- a file that is not read -/
def unread (message : String) : ValidationReport :=
  ⟨0, 0, 0, false, [], [⟨none, none, message⟩], []⟩

/-- `content` is the `OSError` or the bytes of the file -/
def validateCountryCsv (content : Except String (List UInt8)) : ValidationReport :=
  match content with
  | .error error => unread ("cannot open strict UTF-8 CSV: " ++ error)
  | .ok bytes =>
    if maxCsvBytes < (bytes.take (maxCsvBytes + 1)).length then
      unread "CSV exceeds the 1048576-byte validation limit"
    else match py.decode bytes with
      | .error error => unread ("cannot decode strict UTF-8 CSV: " ++ error)
      | .ok source => conclude o (scan py o (py.csvReader source))

end

/-! ## rows without a finding -/

/-- what is approved of one row -/
structure Row.Approved (py : Python) (o : Options) (row : Row) : Prop where
  trimmed : ∀ value ∈ row.values, strip value = value
  clean : ∀ value ∈ row.values, ∀ c ∈ value.toList,
    32 ≤ c.toNat ∧ c.toNat ≠ 127 ∧ py.category c ∉ ["Cc", "Cf", "Cs"]
  country : row.countryCode.toList.length = 2 ∧ ∀ c ∈ row.countryCode.toList, c.isUpper = true
  calling : ∃ c cs, row.callingCode.toList = c :: cs ∧ c ≠ '0' ∧ cs.length ≤ 2 ∧
    ∀ d ∈ c :: cs, d.isDigit = true
  named : ∀ name ∈ [row.nameZh, row.nameEn], name ≠ "" ∧ name.length ≤ 128
  flag : row.flagUrl ≠ "" → ∃ parsed host, py.urlsplit row.flagUrl = some parsed ∧
    parsed.scheme = "https" ∧ parsed.hostname = some host ∧
    (∃ allowed ∈ o.allowedFlagHosts, asciiCasefold allowed = asciiCasefold host) ∧
    (parsed.port = none ∨ parsed.port = some 443) ∧
    parsed.username = none ∧ parsed.password = none ∧
    '?' ∉ row.flagUrl.toList ∧ '#' ∉ row.flagUrl.toList ∧ parsed.fragment = ""

section
variable {py : Python} {o : Options}

@[simp] theorem findingIf_nil {condition : Prop} [Decidable condition] {finding : Finding} :
    findingIf condition finding = [] ↔ ¬ condition := by
  unfold findingIf
  split
  · rename_i h
    exact iff_of_false (List.cons_ne_nil _ _) (not_not_intro h)
  · rename_i h
    exact iff_of_true rfl h

theorem not_forbidden {value : String} (h : ¬ containsForbiddenCharacter py value = true) :
    ∀ c ∈ value.toList, 32 ≤ c.toNat ∧ c.toNat ≠ 127 ∧ py.category c ∉ ["Cc", "Cf", "Cs"] := by
  intro c hc
  unfold containsForbiddenCharacter at h
  rw [Bool.or_eq_true, not_or, List.any_eq_true, List.any_eq_true] at h
  have hcode : ¬ (decide (c.toNat < 32) || c.toNat == 127) = true := fun hbad => h.1 ⟨c, hc, hbad⟩
  have hcategory : ¬ ["Cc", "Cf", "Cs"].contains (py.category c) = true :=
    fun hbad => h.2 ⟨c, hc, hbad⟩
  rw [Bool.or_eq_true, not_or, decide_eq_true_eq, beq_iff_eq] at hcode
  exact ⟨not_lt.mp hcode.1, hcode.2, fun hmem => hcategory (List.contains_iff_mem.mpr hmem)⟩

theorem columns_clean {line : Nat} {row : Row}
    (h : (expectedHeader.zip row.values).flatMap (columnFindings py line) = []) :
    ∀ value ∈ row.values, strip value = value ∧ ∀ c ∈ value.toList,
      32 ≤ c.toNat ∧ c.toNat ≠ 127 ∧ py.category c ∉ ["Cc", "Cf", "Cs"] := by
  intro value hvalue
  have hfield : ∃ column, (column, value) ∈ expectedHeader.zip row.values := by
    rcases row with ⟨a, b, c, d, e⟩
    simp only [Row.values, List.mem_cons, List.not_mem_nil, or_false] at hvalue
    rcases hvalue with rfl | rfl | rfl | rfl | rfl
    · exact ⟨"country_code", .head _⟩
    · exact ⟨"calling_code", .tail _ (.head _)⟩
    · exact ⟨"name_zh", .tail _ (.tail _ (.head _))⟩
    · exact ⟨"name_en", .tail _ (.tail _ (.tail _ (.head _)))⟩
    · exact ⟨"flag_url", .tail _ (.tail _ (.tail _ (.tail _ (.head _))))⟩
  obtain ⟨column, hmem⟩ := hfield
  have hnone := List.flatMap_eq_nil_iff.mp h _ hmem
  unfold columnFindings at hnone
  rw [List.append_eq_nil_iff, findingIf_nil, findingIf_nil, not_not] at hnone
  exact ⟨hnone.1.symm, not_forbidden hnone.2⟩

theorem countryCode_fresh {countryLines : List (String × Nat)} {line : Nat} {code : String}
    (h : countryCodeFindings countryLines line code = []) :
    isCountryCode code = true ∧ countryLines.lookup code = none := by
  unfold countryCodeFindings at h
  split at h
  · cases h
  · rename_i hcode
    rw [Bool.not_eq_false] at hcode
    cases hlookup : countryLines.lookup code with
    | some first => rw [hlookup] at h; cases h
    | none => exact ⟨hcode, rfl⟩

theorem isCallingCode_iff {code : String} : isCallingCode code = true ↔
    ∃ c cs, code.toList = c :: cs ∧ c ≠ '0' ∧ cs.length ≤ 2 ∧ ∀ d ∈ c :: cs, d.isDigit = true := by
  unfold isCallingCode
  cases hcode : code.toList with
  | nil =>
    refine iff_of_false Bool.false_ne_true ?_
    rintro ⟨c, cs, hcons, -⟩
    cases hcons
  | cons c cs =>
    simp only [Bool.and_eq_true, bne_iff_ne, decide_eq_true_eq, List.all_eq_true]
    constructor
    · rintro ⟨⟨⟨hfirst, hzero⟩, hlength⟩, hall⟩
      exact ⟨c, cs, rfl, hzero, hlength, List.forall_mem_cons.mpr ⟨hfirst, hall⟩⟩
    · rintro ⟨c', cs', hcons, hzero, hlength, hall⟩
      cases hcons
      obtain ⟨hfirst, hrest⟩ := List.forall_mem_cons.mp hall
      exact ⟨⟨⟨hfirst, hzero⟩, hlength⟩, hrest⟩

theorem name_approved {line : Nat} {column name : String}
    (h : nameFindings line column name = []) : name ≠ "" ∧ name.length ≤ 128 := by
  unfold nameFindings at h
  split at h
  · cases h
  · rename_i hname
    rw [findingIf_nil] at h
    exact ⟨hname, not_lt.mp h⟩

theorem normalizeDnsHostname_some {value normalized : String}
    (h : normalizeDnsHostname value = some normalized) : normalized = asciiCasefold value := by
  unfold normalizeDnsHostname at h
  split at h
  · cases h
  · split at h
    · cases h
      rfl
    · cases h

theorem flag_approved {line : Nat} {code flagUrl : String} (hurl : flagUrl ≠ "")
    (hhosts : allowedHosts o ≠ [])
    (h : flagUrlFindings py o (allowedHosts o) line code flagUrl = []) :
    ∃ parsed host, py.urlsplit flagUrl = some parsed ∧
      parsed.scheme = "https" ∧ parsed.hostname = some host ∧
      (∃ allowed ∈ o.allowedFlagHosts, asciiCasefold allowed = asciiCasefold host) ∧
      (parsed.port = none ∨ parsed.port = some 443) ∧
      parsed.username = none ∧ parsed.password = none ∧
      '?' ∉ flagUrl.toList ∧ '#' ∉ flagUrl.toList ∧ parsed.fragment = "" := by
  unfold flagUrlFindings at h
  rw [if_pos hurl, List.append_eq_nil_iff, List.append_eq_nil_iff] at h
  obtain ⟨⟨-, h⟩, -⟩ := h
  cases hparsed : py.urlsplit flagUrl with
  | none =>
    rw [hparsed] at h
    cases h
  | some parsed =>
    rw [hparsed] at h
    change (if badUrl flagUrl parsed then [urlFinding line] else findingIf _ _) = [] at h
    split at h
    · cases h
    · rename_i hgood
      rw [findingIf_nil] at h
      unfold badUrl at hgood
      simp only [not_or, not_and, not_not, ne_eq] at hgood
      obtain ⟨hscheme, hnonempty, hnormal, hport, husername, hpassword, hquery, hfragment,
        hempty⟩ := hgood
      obtain ⟨normalized, hnormalized⟩ := Option.ne_none_iff_exists'.mp hnormal
      obtain ⟨host, hhost, hsome⟩ := Option.bind_eq_some_iff.mp hnormalized
      have hallowed : normalized ∈ allowedHosts o := by
        by_contra hnot
        refine h ⟨hhosts, ?_⟩
        rw [hnormalized]
        exact Bool.eq_false_iff.mpr fun hc => hnot (List.contains_iff_mem.mp hc)
      obtain ⟨allowed, hmem, hfold⟩ := List.mem_filterMap.mp hallowed
      refine ⟨parsed, host, rfl, hscheme, hhost, ⟨allowed, hmem, ?_⟩, ?_, husername, hpassword,
        hquery, hfragment, hempty⟩
      · rw [← normalizeDnsHostname_some hfold, ← normalizeDnsHostname_some hsome]
      · by_cases hnone : parsed.port = none
        · exact .inl hnone
        · exact .inr (hport hnone)

/-- **a row without a finding is approved** -/
theorem row_approved {countryLines : List (String × Nat)} {line : Nat} {row : Row}
    (hhosts : row.flagUrl ≠ "" → allowedHosts o ≠ [])
    (h : rowFindings py o (allowedHosts o) countryLines line row = []) : row.Approved py o := by
  unfold rowFindings at h
  simp only [List.append_eq_nil_iff] at h
  obtain ⟨⟨⟨⟨⟨hcolumns, hcode⟩, hcalling⟩, hzh⟩, hen⟩, hflag⟩ := h
  have hclean := columns_clean hcolumns
  have hcountry := (countryCode_fresh hcode).1
  unfold isCountryCode at hcountry
  rw [Bool.and_eq_true, beq_iff_eq, List.all_eq_true] at hcountry
  unfold callingCodeFindings at hcalling
  rw [findingIf_nil, Bool.not_eq_false] at hcalling
  exact {
    trimmed := fun value hvalue => (hclean value hvalue).1
    clean := fun value hvalue => (hclean value hvalue).2
    country := hcountry
    calling := isCallingCode_iff.mp hcalling
    named := by
      intro name hname
      simp only [List.mem_cons, List.not_mem_nil, or_false] at hname
      rcases hname with rfl | rfl
      · exact name_approved hzh
      · exact name_approved hen
    flag := fun hurl => flag_approved hurl (hhosts hurl) hflag }

/-! ## the loop -/

theorem ofValues_some {values : List String} {row : Row} (h : Row.ofValues values = some row) :
    values = row.values := by
  unfold Row.ofValues at h
  split at h
  · cases h
    rfl
  · cases h

theorem lookup_none {lines : List (String × Nat)} {code : String}
    (h : lines.lookup code = none) : code ∉ lines.map Prod.fst := by
  intro hmem
  obtain ⟨entry, hentry, rfl⟩ := List.mem_map.mp hmem
  have hne := List.lookup_eq_none_iff.mp h entry hentry
  rw [bne_self_eq_false] at hne
  cases hne

/-- one row: without a new error it has five fields, no finding and a fresh code -/
theorem readRow_sound {hosts : List String} {p : Progress} {record : List String × Nat}
    (h : (readRow py o hosts p record).errors = []) :
    p.errors = [] ∧ ∃ row : Row, record.1 = row.values ∧
      rowFindings py o hosts p.countryLines record.2 row = [] ∧
      row.countryCode ∉ p.countryLines.map Prod.fst ∧
      (readRow py o hosts p record).countryLines.map Prod.fst =
        p.countryLines.map Prod.fst ++ [row.countryCode] ∧
      (readRow py o hosts p record).rowCount = p.rowCount ∧
      (readRow py o hosts p record).sawFlagUrl = (p.sawFlagUrl || row.flagUrl != "") := by
  unfold readRow at h ⊢
  cases hrow : Row.ofValues record.1 with
  | none =>
    rw [hrow] at h
    exact absurd h (List.append_ne_nil_of_right_ne_nil _ (List.cons_ne_nil _ _))
  | some row =>
    rw [hrow] at h
    obtain ⟨herrors, hfindings⟩ := List.append_eq_nil_iff.mp h
    have hcode : countryCodeFindings p.countryLines record.2 row.countryCode = [] := by
      have hall := hfindings
      unfold rowFindings at hall
      simp only [List.append_eq_nil_iff] at hall
      exact hall.1.1.1.1.2
    obtain ⟨hcountry, hfresh⟩ := countryCode_fresh hcode
    refine ⟨herrors, row, ofValues_some hrow, hfindings, lookup_none hfresh, ?_, rfl, rfl⟩
    show List.map Prod.fst (if (isCountryCode row.countryCode &&
      (p.countryLines.lookup row.countryCode).isNone) = true then _ else _) = _
    have hfreshIf : (true && (none : Option Nat).isNone) = true := rfl
    rw [hcountry, hfresh, if_pos hfreshIf, List.map_append]
    rfl

/-- what a loop without an error has read -/
structure Read (py : Python) (o : Options) (hosts : List String) (p final : Progress)
    (rows : List Row) : Prop where
  findings : ∀ row ∈ rows, ∃ lines line, rowFindings py o hosts lines line row = []
  codes : final.countryLines.map Prod.fst =
    p.countryLines.map Prod.fst ++ rows.map Row.countryCode
  fresh : (p.countryLines.map Prod.fst).Nodup → (final.countryLines.map Prod.fst).Nodup
  count : final.rowCount = p.rowCount + rows.length
  flags : ∀ row ∈ rows, row.flagUrl ≠ "" → final.sawFlagUrl = true
  seen : p.sawFlagUrl = true → final.sawFlagUrl = true

theorem readRows_cons {hosts : List String} {failure : Option (String × Nat)}
    {record : List String × Nat} {records : List (List String × Nat)} {p : Progress} :
    readRows py o hosts failure (record :: records) p =
      if maxDataRows < p.rowCount + 1 then
        Progress.addError { p with rowCount := p.rowCount + 1 }
          ⟨some record.2, none, "CSV exceeds the 1000-row validation limit"⟩
      else readRows py o hosts failure records
        (readRow py o hosts { p with rowCount := p.rowCount + 1 } record) := rfl

/-- **the loop: all rows are read, each without a finding** -/
theorem readRows_sound {hosts : List String} {failure : Option (String × Nat)}
    {records : List (List String × Nat)} : ∀ {p : Progress},
      (readRows py o hosts failure records p).errors = [] →
      p.errors = [] ∧ failure = none ∧ ∃ rows : List Row,
        records.map Prod.fst = rows.map Row.values ∧
        Read py o hosts p (readRows py o hosts failure records p) rows := by
  induction records with
  | nil =>
    intro p h
    unfold readRows at h ⊢
    cases failure with
    | some error => exact absurd h (List.append_ne_nil_of_right_ne_nil _ (List.cons_ne_nil _ _))
    | none =>
      refine ⟨h, rfl, [], rfl, ?_⟩
      exact ⟨fun row hrow => absurd hrow List.not_mem_nil, (List.append_nil _).symm, id, rfl,
        fun row hrow => absurd hrow List.not_mem_nil, id⟩
  | cons record records ih =>
    intro p h
    rw [readRows_cons] at h ⊢
    split at h
    · exact absurd h (List.append_ne_nil_of_right_ne_nil _ (List.cons_ne_nil _ _))
    · rename_i hlimit
      rw [if_neg hlimit]
      obtain ⟨hread, hfailure, rows, hvalues, hrest⟩ := ih h
      obtain ⟨herrors, row, hrow, hfindings, hfresh, hcodes, hcount, hsaw⟩ := readRow_sound hread
      refine ⟨herrors, hfailure, row :: rows, ?_, ?_⟩
      · rw [List.map_cons, List.map_cons, hrow, hvalues]
      · have hseen : row.flagUrl ≠ "" → (readRows py o hosts failure records
            (readRow py o hosts { p with rowCount := p.rowCount + 1 } record)).sawFlagUrl = true := by
          intro hurl
          refine hrest.seen ?_
          rw [hsaw, bne_iff_ne.mpr hurl, Bool.or_true]
        exact {
          findings := List.forall_mem_cons.mpr ⟨⟨_, _, hfindings⟩, hrest.findings⟩
          codes := by
            rw [hrest.codes, hcodes, List.append_assoc]
            rfl
          fresh := by
            intro hnodup
            refine hrest.fresh ?_
            rw [hcodes]
            exact List.Nodup.append hnodup (List.nodup_singleton _)
              (List.disjoint_singleton.mpr hfresh)
          count := by
            rw [hrest.count, hcount, List.length_cons]
            show p.rowCount + 1 + rows.length = p.rowCount + (rows.length + 1)
            omega
          flags := List.forall_mem_cons.mpr ⟨hseen, hrest.flags⟩
          seen := by
            intro hs
            refine hrest.seen ?_
            rw [hsaw]
            show (p.sawFlagUrl || _) = true
            rw [hs, Bool.true_or] }

/-! ## approval -/

theorem scan_sound {file : CsvFile} (h : (scan py o file).errors = []) :
    ∃ (line : Nat) (records : List (List String × Nat)) (rows : List Row),
      file = ⟨(expectedHeader, line) :: records, none⟩ ∧
      records.map Prod.fst = rows.map Row.values ∧
      Read py o (allowedHosts o) (emptyProgress py o) (scan py o file) rows := by
  rcases file with ⟨records, failure⟩
  have hlast : ∀ (p : Progress) (finding : Finding), (p.addError finding).errors ≠ [] :=
    fun p finding => List.append_ne_nil_of_right_ne_nil _ (List.cons_ne_nil _ _)
  cases records with
  | nil =>
    cases failure with
    | none => exact absurd h (hlast _ _)
    | some error => exact absurd h (hlast _ _)
  | cons header records =>
    have hscan : scan py o ⟨header :: records, failure⟩ =
        if header.1 ≠ expectedHeader then (emptyProgress py o).addError headerFinding
        else readRows py o (allowedHosts o) failure records (emptyProgress py o) := by
      cases failure <;> rfl
    rw [hscan] at h ⊢
    split at h
    · exact absurd h (hlast _ _)
    · rename_i hheader
      rw [not_not] at hheader
      rw [if_neg (not_not_intro hheader)]
      obtain ⟨-, rfl, rows, hvalues, hread⟩ := readRows_sound h
      refine ⟨header.2, records, rows, ?_, hvalues, hread⟩
      rw [← hheader]

theorem codes_expected {codes : List String} {expected : CodeSet}
    (hexpected : o.expectedCodes = some expected) (hstructure : o.structureOnly = false)
    (h : codeFindings o codes = []) :
    (∀ code, code ∈ codes ↔ code ∈ expected.1) ∧ ∀ code ∈ o.requiredCodes.1, code ∈ codes := by
  unfold codeFindings at h
  rw [List.append_eq_nil_iff, findingIf_nil, not_not, hexpected] at h
  obtain ⟨hrequired, hmembership⟩ := h
  change (if o.structureOnly = true then _ else _) = [] at hmembership
  rw [if_neg (by rw [hstructure]; exact Bool.false_ne_true), List.append_eq_nil_iff,
    findingIf_nil, findingIf_nil, not_not, not_not] at hmembership
  have hall : ∀ {xs ys : List String}, (xs.filter fun c => !ys.contains c) = [] →
      ∀ c ∈ xs, c ∈ ys := by
    intro xs ys hnil c hc
    have hnot := List.filter_eq_nil_iff.mp hnil c hc
    rw [Bool.not_eq_true', Bool.not_eq_false, List.contains_iff_mem] at hnot
    exact hnot
  exact ⟨fun code => ⟨hall hmembership.2 code, hall hmembership.1 code⟩, hall hrequired⟩

theorem validated {content : Except String (List UInt8)}
    (h : (validateCountryCsv py o content).isValid) : ∃ bytes source, content = .ok bytes ∧
      py.decode bytes = .ok source ∧
      validateCountryCsv py o content = conclude o (scan py o (py.csvReader source)) := by
  unfold validateCountryCsv at h ⊢
  cases content with
  | error error => exact absurd h (List.cons_ne_nil _ _)
  | ok bytes =>
    by_cases hsize : maxCsvBytes < (bytes.take (maxCsvBytes + 1)).length
    · simp only [if_pos hsize] at h
      exact absurd h (List.cons_ne_nil _ _)
    · simp only [if_neg hsize] at h ⊢
      cases hdecode : py.decode bytes with
      | error error =>
        rw [hdecode] at h
        exact absurd h (List.cons_ne_nil _ _)
      | ok source => exact ⟨bytes, source, rfl, hdecode, rfl⟩

end

/-- **a valid report with membership: header, rows, codes, names and URLs of the file are as
approved** -/
theorem approval_sound (py : Python) (o : Options) (content : Except String (List UInt8))
    (hvalid : (validateCountryCsv py o content).isValid)
    (hmembership : (validateCountryCsv py o content).membershipChecked = true) :
    ∃ (bytes : List UInt8) (source : String) (line : Nat) (records : List (List String × Nat))
      (rows : List Row) (expected : CodeSet),
      content = .ok bytes ∧ py.decode bytes = .ok source ∧
      py.csvReader source = ⟨(expectedHeader, line) :: records, none⟩ ∧
      records.map Prod.fst = rows.map Row.values ∧
      (validateCountryCsv py o content).rowCount = rows.length ∧
      (∀ row ∈ rows, row.Approved py o) ∧
      (rows.map Row.countryCode).Nodup ∧
      o.expectedCodes = some expected ∧
      (∀ code, code ∈ rows.map Row.countryCode ↔ code ∈ expected.1) ∧
      rows.length = expected.1.length ∧
      ∀ code ∈ o.requiredCodes.1, code ∈ rows.map Row.countryCode := by
  obtain ⟨bytes, source, hcontent, hdecode, hreport⟩ := validated hvalid
  rw [hreport] at hvalid hmembership ⊢
  obtain ⟨hscanned, hclosing⟩ := List.append_eq_nil_iff.mp hvalid
  obtain ⟨line, records, rows, hfile, hvalues, hread⟩ := scan_sound hscanned
  -- membership was checked
  have hoptions := Bool.and_eq_true_iff.mp hmembership
  obtain ⟨expected, hexpected⟩ := Option.isSome_iff_exists.mp hoptions.1
  have hstructure : o.structureOnly = false := (Bool.not_eq_true' _).mp hoptions.2
  unfold closingFindings at hclosing
  simp only [List.append_eq_nil_iff, findingIf_nil] at hclosing
  obtain ⟨⟨⟨-, -⟩, hcodes⟩, hhosts⟩ := hclosing
  rw [hread.codes] at hcodes
  obtain ⟨hmember, hrequired⟩ := codes_expected hexpected hstructure hcodes
  have hnodup := hread.fresh List.nodup_nil
  rw [hread.codes] at hnodup
  change (rows.map Row.countryCode).Nodup at hnodup
  have hperm : (rows.map Row.countryCode).Perm expected.1 :=
    (List.perm_ext_iff_of_nodup hnodup expected.2).mpr hmember
  refine ⟨bytes, source, line, records, rows, expected, hcontent, hdecode, hfile, hvalues, ?_,
    fun row hrow => ?_, hnodup, hexpected, hmember, ?_, hrequired⟩
  · exact hread.count.trans (Nat.zero_add _)
  · obtain ⟨lines, line, hfindings⟩ := hread.findings row hrow
    exact row_approved (fun hurl hnone =>
      hhosts ⟨⟨hread.flags row hrow hurl, hnone⟩, hstructure⟩) hfindings
  · rw [← hperm.length_eq, List.length_map]

/-! ## a small catalogue -/

/-- `unicodedata.category` of an ASCII character -/
def asciiCategory (c : Char) : String :=
  if c.isUpper then "Lu" else if c.isLower then "Ll" else if c.isDigit then "Nd"
  else if c.toNat < 32 ∨ c.toNat = 127 then "Cc" else if c = ' ' then "Zs"
  else if c = '_' then "Pc" else if c = '-' then "Pd"
  else if "([\x7b".toList.contains c then "Ps" else if ")]\x7d".toList.contains c then "Pe"
  else if c = '$' then "Sc" else if "+<=>|~".toList.contains c then "Sm"
  else if "^\x60".toList.contains c then "Sk" else "Po"

/-- ASCII files without quotes, and the two URLs below -/
def samplePython : Python where
  decode := fun bytes =>
    if bytes.all (· < 128) then .ok (String.ofList (bytes.map fun b => Char.ofNat b.toNat))
    else .error "not ASCII"
  csvReader := fun source => ⟨(((source.toList.splitOn '\n').filter (· ≠ [])).map fun line =>
    (line.splitOn ',').map String.ofList).zipIdx 1, none⟩
  urlsplit := fun url => [("https://FLAGCDN.com/w40/ca.png",
      ⟨"https", some "flagcdn.com", none, none, none, "/w40/ca.png", "", ""⟩),
    ("https://flagcdn.com:443/w40/us.png",
      ⟨"https", some "flagcdn.com", some 443, none, none, "/w40/us.png", "", ""⟩)].lookup url
  category := asciiCategory
  casefold := asciiCasefold
  repr := fun value => "'" ++ value ++ "'"

def sampleOptions : Options where
  expectedCount := some 2
  expectedCodes := some ⟨["CA", "US"], by decide +kernel⟩
  structureOnly := false
  requiredCodes := ⟨["US"], by decide +kernel⟩
  allowedFlagHosts := ["FlagCDN.com"]
  requireDerivedFlagPath := true

def sampleBytes : List UInt8 :=
  ("country_code,calling_code,name_zh,name_en,flag_url\n" ++
    "US,1,Meiguo,United States,https://flagcdn.com:443/w40/us.png\n" ++
    "CA,1,Jianada,Canada,https://FLAGCDN.com/w40/ca.png\n").toList.map fun c => UInt8.ofNat c.toNat

theorem sample_valid :
    (validateCountryCsv samplePython sampleOptions (.ok sampleBytes)).errors = [] := by
  decide +kernel

theorem sample_membership :
    (validateCountryCsv samplePython sampleOptions (.ok sampleBytes)).membershipChecked = true := by
  decide +kernel

theorem approval_sound_sample : ∃ rows : List Row, rows.length = 2 ∧
    (∀ row ∈ rows, row.Approved samplePython sampleOptions) ∧
    ∀ code ∈ ["US"], code ∈ rows.map Row.countryCode := by
  obtain ⟨bytes, source, line, records, rows, expected, -, -, -, -, hcount, happroved, -, hexpected,
    -, hlength, hrequired⟩ := approval_sound samplePython sampleOptions (.ok sampleBytes)
      sample_valid sample_membership
  exact ⟨rows, hlength.trans (by cases hexpected; rfl), happroved, hrequired⟩

end PgRbac.Countries
