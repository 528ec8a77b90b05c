import Mathlib.Data.Finset.Prod
import Mathlib.Data.Finset.Card
import PgRbac.Lib.Except
import PgRbac.Lib.Spread
import PgRbac.Provisioning

/-!
# The dependency closure of the locked environment

`validate_ci_environment` walks the requirements of the installed distributions and checks every
package that they select against the pins.  The functions of `packaging` are parameters.

* `loadPins`, `markerApplies`, `checkSelected`   what one requirement is checked for;
* `Search`, `step`, `run`     the worklist;
* `rules`                     the requirements as rules for marks that spread;
* `step_measure`              every step uses up an extra or a requirement that waits;
* `step_worklist`             every step keeps the invariant of the worklist;
* `closure_verified`          the walk ends, and ends without an error only on a good closure.
-/

set_option linter.unusedVariables false
set_option linter.unusedSectionVars false

namespace PgRbac.Ci

open Fallible

/-! ## what is installed -/

/-- `packaging.requirements.Requirement`; without a specifier the set of specifiers is empty -/
structure Requirement (μ σ : Type) where
  name : String
  extras : List String
  marker : Option μ
  specifier : Option σ

/-- `importlib.metadata.Distribution` -/
structure Distribution where
  metadataName : Option String
  version : String
  requires : List String

/-- how `main` fails: with a `RuntimeError` that it reports, or with an error that it does not catch -/
inductive Failure where
  | runtimeError (message : String)
  | uncaught (message : String)
deriving DecidableEq

/-- the functions of `packaging`, and `repr` -/
structure Packaging (μ σ : Type) where
  canonicalizeName : String → String
  parseRequirement : String → Except Failure (Requirement μ σ)
  /-- `marker.evaluate` with this `extra` in the default environment -/
  evaluate : μ → String → Except Failure Bool
  contains : σ → String → Except Failure Bool
  specifierText : σ → String
  repr : String → String

/-- where the verifier runs -/
structure Host (μ σ : Type) extends Packaging μ σ where
  sysPlatform : String
  versionInfo : Nat × Nat
  implementation : String
  constraintLines : List String
  /-- the dependencies of the project and those of its tests -/
  projectRequirements : List String
  distributions : List Distribution
  /-- the order in which the process goes through a set -/
  iterate : List String → List String
  mem_iterate : ∀ {extras extra}, extra ∈ iterate extras ↔ extra ∈ extras

def explicitToolRoots : List String := ["pip", "setuptools"]

section
variable {μ σ : Type} (w : Host μ σ)

/-! ## pins -/

def isPinName (c : Char) : Bool := c.isAlphanum || c == '_' || c == '.' || c == '-'

def isPinVersion (c : Char) : Bool := isPinName c || c == '+' || c == '!'

/-- `([A-Za-z0-9_.-]+)==([A-Za-z0-9_.+!-]+)` -/
def matchPin (line : String) : Option (String × String) :=
  let name := line.toList.takeWhile isPinName
  let version := (line.toList.dropWhile isPinName).drop 2
  if name ≠ [] ∧ version ≠ [] ∧ "==".toList <+: line.toList.dropWhile isPinName ∧
      version.all isPinVersion = true then
    some (String.ofList name, String.ofList version)
  else none

def loadPin (pins : List (String × String)) (rawLine : String) :
    Except Failure (List (String × String)) :=
  let line := strip rawLine
  if line = "" ∨ "#".toList <+: line.toList then .ok pins
  else do
    let pin ← orRaise (matchPin line)
      (.runtimeError ("constraint is not an exact pin: " ++ w.repr line))
    let name := w.canonicalizeName pin.1
    require (pins.lookup name = none) (.runtimeError ("duplicate constraint for " ++ name))
    pure (pins ++ [(name, pin.2)])

def loadPins : Except Failure (List (String × String)) := w.constraintLines.foldlM (loadPin w) []

def rootRequirements : Except Failure (List (Requirement μ σ)) :=
  collect w.parseRequirement (w.projectRequirements ++ explicitToolRoots)

/-- the name that a distribution is grouped under -/
def indexName (distribution : Distribution) : Option String :=
  match distribution.metadataName with
  | none => none
  | some rawName => if rawName = "" then none else some (w.canonicalizeName rawName)

/-- `_index_installed_distributions` at a name -/
def installed (name : String) : List Distribution :=
  w.distributions.filter fun distribution => indexName w distribution = some name

/-! ## one requirement -/

def unite (xs ys : List String) : List String := xs ++ ys.filter fun y => !xs.contains y

/-- `any` over the extras, which ends at the first that holds or raises -/
def anyExtra (marker : μ) : List String → Except Failure Bool
  | [] => .ok false
  | extra :: extras => do
    let holds ← w.evaluate marker extra
    if holds then pure true else anyExtra marker extras

def markerApplies (requirement : Requirement μ σ) (parentExtras : List String) :
    Except Failure Bool :=
  match requirement.marker with
  | none => .ok true
  | some marker => anyExtra w marker (w.iterate (unite parentExtras [""]))

def requireUniqueDistribution (name : String) : Except Failure Distribution :=
  match installed w name with
  | [] => .error (.runtimeError ("selected dependency " ++ w.repr name ++ " is not installed"))
  | [distribution] => .ok distribution
  | several => .error (.runtimeError ("selected dependency " ++ w.repr name ++ " has " ++
      toString several.length ++ " installed metadata records (" ++
      ", ".intercalate ((several.map Distribution.version).mergeSort (fun a b => decide (a ≤ b))) ++
      "); expected exactly one"))

def checkSpecifier (requirement : Requirement μ σ) (name version source : String) :
    Except Failure Unit :=
  match requirement.specifier with
  | none => .ok ()
  | some specifier => do
    let satisfied ← w.contains specifier version
    require (satisfied = true) (.runtimeError ("installed " ++ name ++ "==" ++ version ++
      " does not satisfy " ++ w.specifierText specifier ++ " from " ++ source))

def checkSelected (pins : List (String × String)) (requirement : Requirement μ σ)
    (source : String) : Except Failure Distribution := do
  let name := w.canonicalizeName requirement.name
  let pin ← orRaise (pins.lookup name) (.runtimeError
    ("selected dependency " ++ w.repr name ++ " from " ++ source ++ " has no exact constraint"))
  let distribution ← requireUniqueDistribution w name
  require (distribution.version = pin) (.runtimeError
    ("installed " ++ name ++ "==" ++ distribution.version ++ ", expected exact pin " ++ pin))
  checkSpecifier w requirement name distribution.version source
  pure distribution

/-! ## the worklist -/

structure Search (μ σ : Type) where
  queue : List (Requirement μ σ × List String × String)
  resolvedExtras : String → List String
  visited : List String

/-- a requirement that passed its checks -/
def expand (s : Search μ σ) (rest : List (Requirement μ σ × List String × String))
    (requirement : Requirement μ σ) (distribution : Distribution) :
    Except Failure (Search μ σ) :=
  let name := w.canonicalizeName requirement.name
  let combinedExtras := unite (s.resolvedExtras name) requirement.extras
  if name ∈ s.visited ∧ combinedExtras = s.resolvedExtras name then .ok { s with queue := rest }
  else do
    let dependencies ← collect w.parseRequirement distribution.requires
    pure ⟨rest ++ dependencies.map fun dependency => (dependency, combinedExtras, name),
      Function.update s.resolvedExtras name combinedExtras, unite s.visited [name]⟩

/-- the body of the loop, with `item` taken from the queue -/
def step (pins : List (String × String)) (s : Search μ σ)
    (item : Requirement μ σ × List String × String)
    (rest : List (Requirement μ σ × List String × String)) : Except Failure (Search μ σ) := do
  let applies ← markerApplies w item.1 item.2.1
  if applies then do
    let distribution ← checkSelected w pins item.1 item.2.2
    expand w s rest item.1 distribution
  else pure { s with queue := rest }

/-- `while queue`, for so many rounds at most -/
def run (pins : List (String × String)) : Nat → Search μ σ → Option (Except Failure (Search μ σ))
  | fuel, s =>
    match s.queue, fuel with
    | [], _ => some (.ok s)
    | _ :: _, 0 => none
    | item :: rest, fuel + 1 =>
      match step w pins s item rest with
      | .error e => some (.error e)
      | .ok s' => run pins fuel s'

def start (roots : List (Requirement μ σ)) : Search μ σ :=
  ⟨roots.map fun requirement => (requirement, [""], "project root"), fun _ => [], []⟩

def checkUvloop (s : Search μ σ) : Except Failure (Search μ σ) := do
  require (¬ ("uvicorn" ∈ s.visited ∧ "uvloop" ∉ s.visited))
    (.runtimeError "uvicorn[standard] did not select uvloop on CPython 3.12/Linux")
  pure s

/-- the `try` block: the search that it ends with -/
def verifyClosure (fuel : Nat) : Option (Except Failure (Search μ σ)) :=
  match loadPins w with
  | .error e => some (.error e)
  | .ok pins =>
    match rootRequirements w with
    | .error e => some (.error e)
    | .ok roots => (run w pins fuel (start roots)).map fun result => result >>= checkUvloop

/-- how `main` ends -/
inductive MainResult where
  | exitCode (code : Nat) (message : String)
  | raised (message : String)
deriving DecidableEq

def report : Except Failure (Search μ σ) → MainResult
  | .error (.runtimeError message) => .exitCode 1 ("ERROR: " ++ message)
  | .error (.uncaught message) => .raised message
  | .ok s => .exitCode 0 ("CI dependency closure is installed and exactly constrained: " ++
      toString s.visited.length ++ " packages checked.")

def main (fuel : Nat) : Option MainResult :=
  if w.sysPlatform ≠ "linux" ∨ w.versionInfo ≠ (3, 12) then
    some (.exitCode 1 "ERROR: this lock verifier must run on CPython 3.12/Linux")
  else if w.implementation ≠ "CPython" then
    some (.exitCode 1 "ERROR: this lock verifier requires CPython")
  else (verifyClosure w fuel).map report

/-! ## the requirements as rules -/

theorem mem_unite {xs ys : List String} {x : String} : x ∈ unite xs ys ↔ x ∈ xs ∨ x ∈ ys := by
  unfold unite
  rw [List.mem_append, List.mem_filter, Bool.not_eq_true', ← Bool.not_eq_true,
    List.contains_iff_mem]
  by_cases h : x ∈ xs
  · exact ⟨fun _ => .inl h, fun _ => .inl h⟩
  · exact ⟨fun hx => hx.imp_right And.left, fun hx => hx.imp_right fun hy => ⟨hy, h⟩⟩

theorem unite_eq_left {xs ys : List String} : unite xs ys = xs ↔ ∀ y ∈ ys, y ∈ xs := by
  constructor
  · intro h y hy
    rw [← h]
    exact mem_unite.mpr (.inr hy)
  · intro h
    have hnone : (ys.filter fun y => !xs.contains y) = [] := by
      rw [List.filter_eq_nil_iff]
      intro y hy
      rw [Bool.not_eq_true', Bool.not_eq_false, List.contains_iff_mem]
      exact h y hy
    rw [unite, hnone, List.append_nil]

/-- a requirement applies if it does under one of the extras or under none -/
def Applies (requirement : Requirement μ σ) (extras : Set String) : Prop :=
  ∀ marker, requirement.marker = some marker →
    ∃ extra, (extra ∈ extras ∨ extra = "") ∧ w.evaluate marker extra = .ok true

def rules : Spread.Rules (Requirement μ σ) String String where
  roots := {r | ∃ text ∈ w.projectRequirements ++ explicitToolRoots,
    w.parseRequirement text = .ok r}
  base := {""}
  next := fun name => {r | ∃ distribution ∈ installed w name, ∃ text ∈ distribution.requires,
    w.parseRequirement text = .ok r}
  name := fun r => w.canonicalizeName r.name
  extras := fun r => {extra | extra ∈ r.extras}
  applies := Applies w
  applies_mono := by
    intro r extras extras' hsub h marker hmarker
    obtain ⟨extra, hextra, hholds⟩ := h marker hmarker
    exact ⟨extra, hextra.imp_left (fun he => hsub he), hholds⟩

/-- pinned, installed once at the pin, and within the specifier -/
def Satisfied (pins : List (String × String)) (requirement : Requirement μ σ) : Prop :=
  ∃ distribution, installed w (w.canonicalizeName requirement.name) = [distribution] ∧
    pins.lookup (w.canonicalizeName requirement.name) = some distribution.version ∧
    ∀ specifier, requirement.specifier = some specifier →
      w.contains specifier distribution.version = .ok true

theorem anyExtra_ok {marker : μ} {extras : List String} {holds : Bool}
    (h : anyExtra w marker extras = .ok holds) :
    holds = true ↔ ∃ extra ∈ extras, w.evaluate marker extra = .ok true := by
  induction extras with
  | nil =>
    cases h
    constructor
    · intro h
      exact absurd h Bool.false_ne_true
    · rintro ⟨extra, hmem, -⟩
      exact absurd hmem List.not_mem_nil
  | cons extra extras ih =>
    unfold anyExtra at h
    obtain ⟨first, hfirst, hrest⟩ := (bind_ok _ _ _).mp h
    cases first with
    | true =>
      cases hrest
      exact ⟨fun _ => ⟨extra, List.mem_cons_self, hfirst⟩, fun _ => rfl⟩
    | false =>
      rw [ih hrest]
      constructor
      · rintro ⟨e, hmem, he⟩
        exact ⟨e, List.mem_cons_of_mem extra hmem, he⟩
      · rintro ⟨e, hmem, he⟩
        rcases List.mem_cons.mp hmem with rfl | hmem'
        · rw [hfirst] at he
          cases he
        · exact ⟨e, hmem', he⟩

theorem markerApplies_ok {requirement : Requirement μ σ} {parentExtras : List String}
    {applies : Bool} (h : markerApplies w requirement parentExtras = .ok applies) :
    applies = true ↔ Applies w requirement {extra | extra ∈ parentExtras} := by
  unfold markerApplies at h
  unfold Applies
  cases hmarker : requirement.marker with
  | none =>
    rw [hmarker] at h
    cases h
    exact ⟨fun _ marker hm => absurd hm (by simp), fun _ => rfl⟩
  | some marker =>
    rw [hmarker] at h
    rw [anyExtra_ok w h]
    simp only [w.mem_iterate, mem_unite, List.mem_singleton, Option.some_inj, Set.mem_ofPred_eq]
    constructor
    · rintro hany _ rfl
      exact hany
    · intro hall
      exact hall marker rfl

theorem requireUniqueDistribution_ok {name : String} {distribution : Distribution}
    (h : requireUniqueDistribution w name = .ok distribution) :
    installed w name = [distribution] := by
  unfold requireUniqueDistribution at h
  split at h
  · cases h
  · rename_i d hinstalled
    cases h
    exact hinstalled
  · cases h

theorem checkSpecifier_ok {requirement : Requirement μ σ} {name version source : String}
    (h : checkSpecifier w requirement name version source = .ok ()) :
    ∀ specifier, requirement.specifier = some specifier →
      w.contains specifier version = .ok true := by
  intro specifier hspecifier
  unfold checkSpecifier at h
  rw [hspecifier] at h
  obtain ⟨satisfied, hsatisfied, hrequire⟩ := (bind_ok _ _ _).mp h
  rw [require_ok] at hrequire
  rw [hsatisfied, hrequire]

theorem checkSelected_ok {pins : List (String × String)} {requirement : Requirement μ σ}
    {source : String} {distribution : Distribution}
    (h : checkSelected w pins requirement source = .ok distribution) :
    installed w (w.canonicalizeName requirement.name) = [distribution] ∧
      pins.lookup (w.canonicalizeName requirement.name) = some distribution.version ∧
      Satisfied w pins requirement := by
  unfold checkSelected at h
  simp only [bind_ok, orRaise_ok, require_ok, pure_ok] at h
  obtain ⟨pin, hpin, d, hunique, _, hversion, _, hspecifier, rfl⟩ := h
  have hinstalled := requireUniqueDistribution_ok w hunique
  have hlookup : pins.lookup (w.canonicalizeName requirement.name) = some d.version := by
    rw [hpin, hversion]
  exact ⟨hinstalled, hlookup, d, hinstalled, hlookup, checkSpecifier_ok w hspecifier⟩

/-! ## the steps -/

def Search.selection (s : Search μ σ) : Spread.Selection String String :=
  ({name | name ∈ s.visited}, fun name => {extra | extra ∈ s.resolvedExtras name})

def waiting (queue : List (Requirement μ σ × List String × String)) :
    Set (Requirement μ σ × Set String) :=
  {i | ∃ item ∈ queue, i = (item.1, {extra | extra ∈ item.2.1})}

theorem waiting_cons (item : Requirement μ σ × List String × String)
    (rest : List (Requirement μ σ × List String × String)) :
    waiting (item :: rest) = insert (item.1, {extra | extra ∈ item.2.1}) (waiting rest) := by
  ext i
  constructor
  · rintro ⟨other, hmem, rfl⟩
    rcases List.mem_cons.mp hmem with rfl | hrest
    · exact .inl rfl
    · exact .inr ⟨other, hrest, rfl⟩
  · rintro (rfl | ⟨other, hmem, rfl⟩)
    · exact ⟨item, List.mem_cons_self, rfl⟩
    · exact ⟨other, List.mem_cons_of_mem item hmem, rfl⟩

theorem expand_ok {s s' : Search μ σ} {rest : List (Requirement μ σ × List String × String)}
    {requirement : Requirement μ σ} {distribution : Distribution}
    (h : expand w s rest requirement distribution = .ok s') :
    (w.canonicalizeName requirement.name ∈ s.visited ∧
      (∀ extra ∈ requirement.extras,
        extra ∈ s.resolvedExtras (w.canonicalizeName requirement.name)) ∧
      s' = { s with queue := rest }) ∨
    ∃ dependencies, collect w.parseRequirement distribution.requires = .ok dependencies ∧
      ¬ (w.canonicalizeName requirement.name ∈ s.visited ∧ ∀ extra ∈ requirement.extras,
        extra ∈ s.resolvedExtras (w.canonicalizeName requirement.name)) ∧
      s' = ⟨rest ++ dependencies.map fun dependency => (dependency,
          unite (s.resolvedExtras (w.canonicalizeName requirement.name)) requirement.extras,
          w.canonicalizeName requirement.name),
        Function.update s.resolvedExtras (w.canonicalizeName requirement.name)
          (unite (s.resolvedExtras (w.canonicalizeName requirement.name)) requirement.extras),
        unite s.visited [w.canonicalizeName requirement.name]⟩ := by
  unfold expand at h
  simp only [unite_eq_left] at h
  split at h
  · rename_i hold
    cases h
    exact .inl ⟨hold.1, hold.2, rfl⟩
  · rename_i hnew
    obtain ⟨dependencies, hdependencies, hs⟩ := (bind_ok _ _ _).mp h
    cases hs
    exact .inr ⟨dependencies, hdependencies, hnew, rfl⟩

/-- what one round does -/
theorem step_ok {pins : List (String × String)} {s s' : Search μ σ}
    {item : Requirement μ σ × List String × String}
    {rest : List (Requirement μ σ × List String × String)}
    (h : step w pins s item rest = .ok s') :
    (¬ Applies w item.1 {extra | extra ∈ item.2.1} ∧ s' = { s with queue := rest }) ∨
    ∃ distribution, Applies w item.1 {extra | extra ∈ item.2.1} ∧
      installed w (w.canonicalizeName item.1.name) = [distribution] ∧
      pins.lookup (w.canonicalizeName item.1.name) = some distribution.version ∧
      Satisfied w pins item.1 ∧ expand w s rest item.1 distribution = .ok s' := by
  unfold step at h
  obtain ⟨applies, happlies, hrest⟩ := (bind_ok _ _ _).mp h
  have hiff := markerApplies_ok w happlies
  cases applies with
  | false =>
    cases hrest
    exact .inl ⟨fun ha => absurd (hiff.mpr ha) Bool.false_ne_true, rfl⟩
  | true =>
    obtain ⟨distribution, hselected, hexpand⟩ := (bind_ok _ _ _).mp hrest
    obtain ⟨hinstalled, hpin, hsatisfied⟩ := checkSelected_ok w hselected
    exact .inr ⟨distribution, hiff.mp rfl, hinstalled, hpin, hsatisfied, hexpand⟩

theorem selection_update {s : Search μ σ} {r : Requirement μ σ}
    {queue : List (Requirement μ σ × List String × String)} :
    Search.selection ⟨queue, Function.update s.resolvedExtras (w.canonicalizeName r.name)
        (unite (s.resolvedExtras (w.canonicalizeName r.name)) r.extras),
      unite s.visited [w.canonicalizeName r.name]⟩ =
      Spread.Worklist.grow (rules w) s.selection r := by
  refine Prod.ext (Set.ext fun name => ?_) (funext fun name => Set.ext fun extra => ?_)
  · show name ∈ unite s.visited [_] ↔ name = w.canonicalizeName r.name ∨ name ∈ s.visited
    rw [mem_unite, List.mem_singleton, or_comm]
  · show extra ∈ Function.update s.resolvedExtras (w.canonicalizeName r.name) _ name ↔
      extra ∈ Function.update s.selection.2 (w.canonicalizeName r.name) _ name
    by_cases hname : name = w.canonicalizeName r.name
    · rw [hname, Function.update_self, Function.update_self]
      exact mem_unite
    · rw [Function.update_of_ne hname, Function.update_of_ne hname]
      rfl

/-- **every round keeps the invariant of the worklist** -/
theorem step_worklist {pins : List (String × String)} {s s' : Search μ σ}
    {item : Requirement μ σ × List String × String}
    {rest : List (Requirement μ σ × List String × String)}
    (h : step w pins s item rest = .ok s')
    (hs : Spread.Worklist (rules w) (Satisfied w pins) s.selection (waiting (item :: rest))) :
    Spread.Worklist (rules w) (Satisfied w pins) s'.selection (waiting s'.queue) := by
  rw [waiting_cons] at hs
  have hsub : waiting rest ⊆ insert (item.1, {extra | extra ∈ item.2.1}) (waiting rest) :=
    Set.subset_insert _ _
  rcases step_ok w h with ⟨hnot, rfl⟩ | ⟨distribution, happlies, hinstalled, -, hsatisfied, hexpand⟩
  · exact hs.skip hsub (Set.Subset.refl _) hnot
  · rcases expand_ok w hexpand with ⟨hvisited, hextras, rfl⟩ | ⟨dependencies, hparsed, -, rfl⟩
    · exact hs.absorb hsub (Set.Subset.refl _) hsatisfied hvisited hextras
    · have hmarks : {extra | extra ∈ unite (s.resolvedExtras (w.canonicalizeName item.1.name))
          item.1.extras} =
          s.selection.2 ((rules w).name item.1) ∪ (rules w).extras item.1 :=
        Set.ext fun extra => mem_unite
      rw [selection_update]
      refine hs.expand (Set.mem_insert _ _) ?_ ?_ ?_ happlies hsatisfied
      · rintro _ ⟨other, hmem, rfl⟩
        rcases List.mem_append.mp hmem with hold | hnew
        · exact .inl (.inr ⟨other, hold, rfl⟩)
        · obtain ⟨dependency, hdependency, rfl⟩ := List.mem_map.mp hnew
          obtain ⟨text, htext, hparse⟩ := collect_mem _ hparsed hdependency
          exact .inr ⟨⟨distribution, hinstalled ▸ List.mem_cons_self, text, htext, hparse⟩, hmarks⟩
      · refine Set.insert_subset_insert ?_
        rintro _ ⟨other, hmem, rfl⟩
        exact ⟨other, List.mem_append_left _ hmem, rfl⟩
      · rintro d ⟨other, hother, text, htext, hparse⟩
        change other ∈ installed w (w.canonicalizeName item.1.name) at hother
        rw [hinstalled, List.mem_singleton] at hother
        obtain ⟨dependency, hdependency, hd⟩ :=
          mem_collect _ _ _ hparsed text (hother ▸ htext)
        rw [hparse] at hd
        cases hd
        exact ⟨_, List.mem_append_right _ (List.mem_map.mpr ⟨d, hdependency, rfl⟩),
          by rw [hmarks]⟩

/-! ## the search ends -/

/-- every requirement that can come up -/
def knownRequirements : List (Requirement μ σ) :=
  (w.projectRequirements ++ explicitToolRoots ++ w.distributions.flatMap Distribution.requires)
    |>.filterMap fun text => (w.parseRequirement text).toOption

def additions (pins : List (String × String)) : Finset (String × Option String) :=
  (pins.map Prod.fst).toFinset ×ˢ
    (none :: (knownRequirements w).flatMap fun r => r.extras.map some).toFinset

def Search.Added (s : Search μ σ) (entry : String × Option String) : Prop :=
  entry.2.elim (entry.1 ∈ s.visited) fun extra => extra ∈ s.resolvedExtras entry.1

instance Search.decidableAdded (s : Search μ σ) : DecidablePred s.Added := fun entry =>
  match entry with
  | (name, none) => inferInstanceAs (Decidable (name ∈ s.visited))
  | (name, some extra) => inferInstanceAs (Decidable (extra ∈ s.resolvedExtras name))

def width : Nat := (w.distributions.flatMap Distribution.requires).length

def measure (pins : List (String × String)) (s : Search μ σ) : Nat :=
  ((additions w pins).filter fun entry => ¬ s.Added entry).card * (width w + 1) + s.queue.length

theorem mem_known_of_requires {distribution : Distribution} (hd : distribution ∈ w.distributions)
    {text : String} (htext : text ∈ distribution.requires) {r : Requirement μ σ}
    (hr : w.parseRequirement text = .ok r) : r ∈ knownRequirements w := by
  refine List.mem_filterMap.mpr ⟨text, ?_, by rw [hr]; rfl⟩
  exact List.mem_append_right _ (List.mem_flatMap.mpr ⟨distribution, hd, htext⟩)

theorem installed_mem {name : String} {distribution : Distribution}
    (h : installed w name = [distribution]) : distribution ∈ w.distributions := by
  have hmem : distribution ∈ installed w name := h ▸ List.mem_cons_self
  exact (List.mem_filter.mp hmem).1

theorem requires_le_width {distribution : Distribution} (hd : distribution ∈ w.distributions) :
    distribution.requires.length ≤ width w :=
  (List.sublist_flatten_of_mem (List.mem_map.mpr ⟨distribution, hd, rfl⟩)).length_le

theorem lookup_mem {pins : List (String × String)} {name version : String}
    (h : pins.lookup name = some version) : name ∈ pins.map Prod.fst := by
  obtain ⟨l₁, l₂, rfl, -⟩ := List.lookup_eq_some_iff.mp h
  rw [List.map_append, List.map_cons]
  exact List.mem_append_right _ List.mem_cons_self

def Known (s : Search μ σ) : Prop := ∀ item ∈ s.queue, item.1 ∈ knownRequirements w

def Search.taken (s : Search μ σ) (queue : List (Requirement μ σ × List String × String))
    (r : Requirement μ σ) : Search μ σ :=
  ⟨queue, Function.update s.resolvedExtras (w.canonicalizeName r.name)
      (unite (s.resolvedExtras (w.canonicalizeName r.name)) r.extras),
    unite s.visited [w.canonicalizeName r.name]⟩

theorem taken_extras {s : Search μ σ} {queue : List (Requirement μ σ × List String × String)}
    {r : Requirement μ σ} :
    (s.taken w queue r).resolvedExtras (w.canonicalizeName r.name) =
      unite (s.resolvedExtras (w.canonicalizeName r.name)) r.extras := Function.update_self ..

theorem added_taken {s : Search μ σ} {queue : List (Requirement μ σ × List String × String)}
    {r : Requirement μ σ} {entry : String × Option String} (h : s.Added entry) :
    (s.taken w queue r).Added entry := by
  obtain ⟨name, option⟩ := entry
  cases option with
  | none => exact mem_unite.mpr (.inl h)
  | some extra =>
    show extra ∈ (s.taken w queue r).resolvedExtras name
    by_cases hname : name = w.canonicalizeName r.name
    · rw [hname, taken_extras]
      exact mem_unite.mpr (.inl (hname ▸ h))
    · rw [show (s.taken w queue r).resolvedExtras name = s.resolvedExtras name from
        Function.update_of_ne hname _ _]
      exact h

theorem added_new {pins : List (String × String)} {s : Search μ σ}
    {queue : List (Requirement μ σ × List String × String)} {r : Requirement μ σ}
    (hname : w.canonicalizeName r.name ∈ pins.map Prod.fst) (hr : r ∈ knownRequirements w)
    (hnew : ¬ (w.canonicalizeName r.name ∈ s.visited ∧ ∀ extra ∈ r.extras,
      extra ∈ s.resolvedExtras (w.canonicalizeName r.name))) :
    ∃ entry ∈ additions w pins, ¬ s.Added entry ∧ (s.taken w queue r).Added entry := by
  by_cases hvisited : w.canonicalizeName r.name ∈ s.visited
  · have hextra : ∃ extra ∈ r.extras, extra ∉ s.resolvedExtras (w.canonicalizeName r.name) := by
      by_contra hnone
      refine hnew ⟨hvisited, fun extra hmem => ?_⟩
      by_contra hnot
      exact hnone ⟨extra, hmem, hnot⟩
    obtain ⟨extra, hmem, hnot⟩ := hextra
    refine ⟨(w.canonicalizeName r.name, some extra), ?_, hnot, ?_⟩
    · refine Finset.mem_product.mpr ⟨List.mem_toFinset.mpr hname, List.mem_toFinset.mpr ?_⟩
      exact List.mem_cons_of_mem _
        (List.mem_flatMap.mpr ⟨r, hr, List.mem_map.mpr ⟨extra, hmem, rfl⟩⟩)
    · show extra ∈ (s.taken w queue r).resolvedExtras _
      rw [taken_extras]
      exact mem_unite.mpr (.inr hmem)
  · refine ⟨(w.canonicalizeName r.name, none), ?_, hvisited, ?_⟩
    · exact Finset.mem_product.mpr ⟨List.mem_toFinset.mpr hname,
        List.mem_toFinset.mpr List.mem_cons_self⟩
    · exact mem_unite.mpr (.inr List.mem_cons_self)

/-- **every round uses something up** -/
theorem step_measure {pins : List (String × String)} {s s' : Search μ σ}
    {item : Requirement μ σ × List String × String}
    {rest : List (Requirement μ σ × List String × String)} (hqueue : s.queue = item :: rest)
    (hknown : Known w s) (h : step w pins s item rest = .ok s') :
    Known w s' ∧ measure w pins s' < measure w pins s := by
  have hrest : ∀ other ∈ rest, other.1 ∈ knownRequirements w := fun other hother =>
    hknown other (hqueue ▸ List.mem_cons_of_mem item hother)
  have hdrop : measure w pins { s with queue := rest } < measure w pins s := by
    show _ * (width w + 1) + rest.length < _ * (width w + 1) + s.queue.length
    rw [hqueue, List.length_cons]
    exact Nat.lt_succ_self _
  rcases step_ok w h with ⟨-, rfl⟩ | ⟨distribution, -, hinstalled, hpin, -, hexpand⟩
  · exact ⟨hrest, hdrop⟩
  rcases expand_ok w hexpand with ⟨-, -, rfl⟩ | ⟨dependencies, hparsed, hnew, rfl⟩
  · exact ⟨hrest, hdrop⟩
  have hd := installed_mem w hinstalled
  refine ⟨?_, ?_⟩
  · intro other hother
    rcases List.mem_append.mp hother with hold | hadded
    · exact hrest other hold
    · obtain ⟨dependency, hdependency, rfl⟩ := List.mem_map.mp hadded
      obtain ⟨text, htext, hparse⟩ := collect_mem _ hparsed hdependency
      exact mem_known_of_requires w hd htext hparse
  · -- an entry is added, and it pays for the requirements of the node
    have hlength : dependencies.length ≤ width w :=
      (collect_ok _ _ _ hparsed).length_eq ▸ requires_le_width w hd
    obtain ⟨entry, hentry, hnot, hadded⟩ := added_new w (lookup_mem hpin)
      (hknown item (hqueue ▸ List.mem_cons_self)) hnew
    have hcard : ((additions w pins).filter fun entry =>
          ¬ (s.taken w (rest ++ dependencies.map fun dependency => (dependency,
            unite (s.resolvedExtras (w.canonicalizeName item.1.name)) item.1.extras,
            w.canonicalizeName item.1.name)) item.1).Added entry).card <
        ((additions w pins).filter fun entry => ¬ s.Added entry).card := by
      refine Finset.card_lt_card (Finset.ssubset_iff_of_subset ?_ |>.mpr ?_)
      · intro other hother
        rw [Finset.mem_filter] at hother ⊢
        exact ⟨hother.1, fun hs => hother.2 (added_taken w hs)⟩
      · exact ⟨entry, Finset.mem_filter.mpr ⟨hentry, hnot⟩,
          fun hmem => (Finset.mem_filter.mp hmem).2 hadded⟩
    have hmul := Nat.mul_le_mul_right (width w + 1) (Nat.succ_le_of_lt hcard)
    show _ * (width w + 1) + (rest ++ dependencies.map _).length <
      _ * (width w + 1) + s.queue.length
    rw [hqueue, List.length_append, List.length_map, List.length_cons]
    rw [Nat.succ_mul] at hmul
    change _ * (width w + 1) + (width w + 1) ≤ _ * (width w + 1) at hmul
    refine lt_of_lt_of_le ?_ (Nat.add_le_add_right hmul _)
    rw [Nat.add_assoc]
    refine Nat.add_lt_add_left ?_ _
    omega

/-- **the search ends** -/
theorem run_ends {pins : List (String × String)} : ∀ (fuel : Nat) {s : Search μ σ},
    Known w s → measure w pins s ≤ fuel → ∃ result, run w pins fuel s = some result := by
  intro fuel
  induction fuel with
  | zero =>
    intro s hknown hfuel
    have hempty : s.queue = [] := by
      rw [← List.length_eq_zero_iff]
      have hle : s.queue.length ≤ measure w pins s := Nat.le_add_left _ _
      omega
    refine ⟨.ok s, ?_⟩
    unfold run
    rw [hempty]
  | succ fuel ih =>
    intro s hknown hfuel
    unfold run
    cases hqueue : s.queue with
    | nil => exact ⟨.ok s, rfl⟩
    | cons item rest =>
      cases hstep : step w pins s item rest with
      | error e => exact ⟨.error e, by simp only [hstep]⟩
      | ok s' =>
        obtain ⟨hknown', hless⟩ := step_measure w hqueue hknown hstep
        simp only [hstep]
        exact ih hknown' (by omega)

/-- more rounds change nothing -/
theorem run_more {pins : List (String × String)} {result : Except Failure (Search μ σ)} :
    ∀ {fuel : Nat} {s : Search μ σ}, run w pins fuel s = some result →
      ∀ {more : Nat}, fuel ≤ more → run w pins more s = some result := by
  intro fuel
  induction fuel with
  | zero =>
    intro s h more hle
    unfold run at h ⊢
    cases hqueue : s.queue with
    | nil => rw [hqueue] at h; exact h
    | cons item rest => rw [hqueue] at h; cases h
  | succ fuel ih =>
    intro s h more hle
    obtain ⟨n, rfl⟩ : ∃ n, more = n + 1 := ⟨more - 1, by omega⟩
    unfold run at h ⊢
    cases hqueue : s.queue with
    | nil => rw [hqueue] at h; exact h
    | cons item rest =>
      simp only [hqueue] at h ⊢
      cases hstep : step w pins s item rest with
      | error e => simp only [hstep] at h ⊢; exact h
      | ok s' =>
        simp only [hstep] at h ⊢
        exact ih h (by omega)

/-- **a search that ends without an error has found the least closed selection** -/
theorem run_worklist {pins : List (String × String)} {s' : Search μ σ} :
    ∀ {fuel : Nat} {s : Search μ σ}, run w pins fuel s = some (.ok s') →
      Spread.Worklist (rules w) (Satisfied w pins) s.selection (waiting s.queue) →
      Spread.Worklist (rules w) (Satisfied w pins) s'.selection ∅ := by
  intro fuel
  have hnone : waiting ([] : List (Requirement μ σ × List String × String)) = ∅ := by
    refine Set.eq_empty_of_forall_notMem fun i hi => ?_
    obtain ⟨item, hmem, -⟩ := hi
    exact List.not_mem_nil hmem
  induction fuel with
  | zero =>
    intro s h hs
    unfold run at h
    cases hqueue : s.queue with
    | nil =>
      rw [hqueue] at h hs
      cases h
      exact hnone ▸ hs
    | cons item rest => rw [hqueue] at h; cases h
  | succ fuel ih =>
    intro s h hs
    unfold run at h
    cases hqueue : s.queue with
    | nil =>
      rw [hqueue] at h hs
      cases h
      exact hnone ▸ hs
    | cons item rest =>
      simp only [hqueue] at h hs
      cases hstep : step w pins s item rest with
      | error e =>
        simp only [hstep] at h
        cases h
      | ok next =>
        simp only [hstep] at h
        exact ih h (step_worklist w hstep hs)

theorem verifyClosure_some {fuel : Nat} {result : Except Failure (Search μ σ)}
    (h : verifyClosure w fuel = some result) :
    (∃ e, result = .error e ∧ ∀ more, verifyClosure w more = some result) ∨
    ∃ pins roots searched, loadPins w = .ok pins ∧ rootRequirements w = .ok roots ∧
      run w pins fuel (start roots) = some searched ∧ (searched >>= checkUvloop) = result := by
  unfold verifyClosure at h ⊢
  cases hpins : loadPins w with
  | error e =>
    rw [hpins] at h
    cases h
    exact .inl ⟨e, rfl, fun _ => rfl⟩
  | ok pins =>
    rw [hpins] at h
    cases hroots : rootRequirements w with
    | error e =>
      rw [hroots] at h
      cases h
      exact .inl ⟨e, rfl, fun _ => rfl⟩
    | ok roots =>
      rw [hroots] at h
      obtain ⟨searched, hrun, hresult⟩ := Option.map_eq_some_iff.mp h
      exact .inr ⟨pins, roots, searched, rfl, rfl, hrun, hresult⟩

theorem start_known {roots : List (Requirement μ σ)} (h : rootRequirements w = .ok roots) :
    Known w (start roots) := by
  intro item hitem
  obtain ⟨r, hr, rfl⟩ := List.mem_map.mp hitem
  obtain ⟨text, htext, hparse⟩ := collect_mem _ h hr
  exact List.mem_filterMap.mpr ⟨text, List.mem_append_left _ htext, by rw [hparse]; rfl⟩

theorem start_worklist {pins : List (String × String)} {roots : List (Requirement μ σ)}
    (h : rootRequirements w = .ok roots) :
    Spread.Worklist (rules w) (Satisfied w pins) (start roots).selection
      (waiting (start roots).queue) := by
  have hselection : (start roots).selection = (∅, fun _ => ∅) := by
    refine Prod.ext (Set.ext fun name => ?_) (funext fun name => Set.ext fun extra => ?_)
    · exact iff_of_false List.not_mem_nil (Set.notMem_empty name)
    · exact iff_of_false List.not_mem_nil (Set.notMem_empty extra)
  have hmarks : {extra | extra ∈ [""]} = (rules w).base :=
    Set.ext fun extra => List.mem_singleton
  have hwaiting : waiting (start roots).queue =
      {i | i.1 ∈ (rules w).roots ∧ i.2 = (rules w).base} := by
    ext i
    constructor
    · rintro ⟨item, hitem, rfl⟩
      obtain ⟨r, hr, rfl⟩ := List.mem_map.mp hitem
      obtain ⟨text, htext, hparse⟩ := collect_mem _ h hr
      exact ⟨⟨text, htext, hparse⟩, hmarks⟩
    · rintro ⟨⟨text, htext, hparse⟩, hbase⟩
      obtain ⟨r, hr, hr'⟩ := mem_collect _ _ _ h text htext
      rw [hparse] at hr'
      cases hr'
      exact ⟨_, List.mem_map.mpr ⟨i.1, hr, rfl⟩, Prod.ext rfl (hbase.trans hmarks.symm)⟩
  rw [hselection, hwaiting]
  exact Spread.Worklist.init

/-- the verifier ends -/
theorem verifyClosure_ends : ∃ fuel result, ∀ more ≥ fuel, verifyClosure w more = some result := by
  unfold verifyClosure
  cases hpins : loadPins w with
  | error e => exact ⟨0, .error e, fun _ _ => rfl⟩
  | ok pins =>
    cases hroots : rootRequirements w with
    | error e => exact ⟨0, .error e, fun _ _ => rfl⟩
    | ok roots =>
      obtain ⟨searched, hrun⟩ := run_ends w _ (start_known w hroots) (Nat.le_refl _)
      refine ⟨measure w pins (start roots), searched >>= checkUvloop, fun more hmore => ?_⟩
      show (run w pins more (start roots)).map _ = _
      rw [run_more w hrun hmore]
      rfl

theorem verifyClosure_worklist {fuel : Nat} {s : Search μ σ}
    (h : verifyClosure w fuel = some (.ok s)) : ∃ pins, loadPins w = .ok pins ∧
      Spread.Worklist (rules w) (Satisfied w pins) s.selection ∅ := by
  rcases verifyClosure_some w h with ⟨e, herror, -⟩ | ⟨pins, roots, searched, hpins, hroots, hrun,
    hresult⟩
  · cases herror
  · cases searched with
    | error e => cases hresult
    | ok searched =>
      obtain ⟨_, hsearched, hresult⟩ := (bind_ok _ _ _).mp hresult
      cases hsearched
      obtain ⟨_, -, hsame⟩ := (bind_ok _ _ _).mp hresult
      cases hsame
      exact ⟨pins, hpins, run_worklist w hrun (start_worklist w hroots)⟩

theorem main_zero {fuel : Nat} {message : String}
    (h : main w fuel = some (.exitCode 0 message)) :
    ∃ s, verifyClosure w fuel = some (.ok s) := by
  unfold main at h
  split at h
  · cases h
  · split at h
    · cases h
    · obtain ⟨result, hresult, hmessage⟩ := Option.map_eq_some_iff.mp h
      cases result with
      | error e =>
        cases e with
        | runtimeError m => cases hmessage
        | uncaught m => cases hmessage
      | ok s => exact ⟨s, hresult⟩

theorem main_ends : ∃ fuel result, ∀ more ≥ fuel, main w more = some result := by
  obtain ⟨fuel, result, h⟩ := verifyClosure_ends w
  unfold main
  split
  · exact ⟨0, _, fun _ _ => rfl⟩
  · split
    · exact ⟨0, _, fun _ _ => rfl⟩
    · refine ⟨fuel, report result, fun more hmore => ?_⟩
      rw [h more hmore]
      rfl

/-! ## other orders -/

/-- the same distribution with its requirements in another order -/
def Distribution.Reordered (d d' : Distribution) : Prop :=
  d.metadataName = d'.metadataName ∧ d.version = d'.version ∧ d.requires.Perm d'.requires

end

/-- the same requirements in another order -/
structure Reordered {μ σ : Type} (w w' : Host μ σ) : Prop where
  packaging : w.toPackaging = w'.toPackaging
  roots : w.projectRequirements.Perm w'.projectRequirements
  distributions : List.Forall₂ Distribution.Reordered w.distributions w'.distributions

theorem installed_reordered {μ σ : Type} {w w' : Host μ σ} (h : Reordered w w') (name : String) :
    List.Forall₂ Distribution.Reordered (installed w name) (installed w' name) := by
  have hname : ∀ {d d' : Distribution}, d.Reordered d' → indexName w d = indexName w' d' := by
    intro d d' hd
    unfold indexName
    rw [hd.1, h.packaging]
  refine List.rel_filter (fun {d d'} hd => ?_) h.distributions
  show decide (indexName w d = some name) = true ↔ decide (indexName w' d' = some name) = true
  rw [hname hd]

theorem mem_of_reordered {ds ds' : List Distribution} (h : List.Forall₂ Distribution.Reordered ds ds')
    {text : String} : (∃ d ∈ ds, text ∈ d.requires) ↔ ∃ d ∈ ds', text ∈ d.requires := by
  induction h with
  | nil => exact Iff.rfl
  | @cons d d' ds ds' hd _ ih =>
    simp only [List.exists_mem_cons_iff]
    rw [hd.2.2.mem_iff, ih]

theorem closed_reordered {μ σ : Type} {w w' : Host μ σ} (h : Reordered w w')
    (c : Spread.Selection String String) : (rules w).Closed c ↔ (rules w').Closed c := by
  have hroots : (rules w).roots = (rules w').roots := by
    ext r
    show (∃ text ∈ _, _) ↔ ∃ text ∈ _, _
    rw [h.packaging]
    simp only [List.mem_append, h.roots.mem_iff]
  have hnext : (rules w).next = (rules w').next := by
    funext name
    ext r
    show (∃ d ∈ installed w name, ∃ text ∈ d.requires, w.parseRequirement text = .ok r) ↔
      ∃ d ∈ installed w' name, ∃ text ∈ d.requires, w'.parseRequirement text = .ok r
    rw [h.packaging]
    have hmem : ∀ text, (∃ d ∈ installed w name, text ∈ d.requires) ↔
        ∃ d ∈ installed w' name, text ∈ d.requires :=
      fun text => mem_of_reordered (installed_reordered h name)
    constructor
    · rintro ⟨d, hd, text, htext, hparse⟩
      obtain ⟨d', hd', htext'⟩ := (hmem text).mp ⟨d, hd, htext⟩
      exact ⟨d', hd', text, htext', hparse⟩
    · rintro ⟨d, hd, text, htext, hparse⟩
      obtain ⟨d', hd', htext'⟩ := (hmem text).mpr ⟨d, hd, htext⟩
      exact ⟨d', hd', text, htext', hparse⟩
  have happlies : (rules w).applies = (rules w').applies := by
    show Applies w = Applies w'
    unfold Applies
    rw [h.packaging]
  have hname : (rules w).name = (rules w').name := by
    show (fun r : Requirement μ σ => w.canonicalizeName r.name) =
      fun r => w'.canonicalizeName r.name
    rw [h.packaging]
  unfold Spread.Rules.Closed Spread.Rules.Selected
  rw [hroots, hnext, happlies, hname]
  rfl

/-- **the walk over the requirements ends; it ends without an error only if every package of the
least closed selection is pinned, installed once at its pin and within its specifiers; and what it
visits is this selection, in whatever order the requirements come** -/
theorem closure_verified {μ σ : Type} (w : Host μ σ) :
    (∃ fuel result, ∀ more ≥ fuel, main w more = some result) ∧
    (∀ fuel message, main w fuel = some (.exitCode 0 message) →
      ∃ s pins, verifyClosure w fuel = some (.ok s) ∧ loadPins w = .ok pins ∧
        IsLeast {c | (rules w).Closed c} s.selection ∧
        (∀ name ∈ s.visited, ∃ distribution, installed w name = [distribution] ∧
          pins.lookup name = some distribution.version) ∧
        ∀ r, (rules w).Selected s.selection r → Satisfied w pins r) ∧
    ∀ w', Reordered w w' → ∀ fuel fuel' s s', verifyClosure w fuel = some (.ok s) →
      verifyClosure w' fuel' = some (.ok s') → s.selection = s'.selection := by
  refine ⟨main_ends w, fun fuel message h => ?_, fun w' hw fuel fuel' s s' h h' => ?_⟩
  · obtain ⟨s, hs⟩ := main_zero w h
    obtain ⟨pins, hpins, hworklist⟩ := verifyClosure_worklist w hs
    refine ⟨s, pins, hs, hpins, hworklist.isLeast, fun name hname => ?_,
      fun r hr => (hworklist.closed r hr).1⟩
    obtain ⟨r, ⟨distribution, hinstalled, hpin, -⟩, rfl⟩ := hworklist.reason name hname
    exact ⟨distribution, hinstalled, hpin⟩
  · obtain ⟨pins, -, hworklist⟩ := verifyClosure_worklist w h
    obtain ⟨pins', -, hworklist'⟩ := verifyClosure_worklist w' h'
    have hsame : {c | (rules w).Closed c} = {c | (rules w').Closed c} :=
      Set.ext fun c => closed_reordered hw c
    exact (hsame ▸ hworklist.isLeast).unique hworklist'.isLeast

/-! ## a small environment -/

/-- names in lower case, markers that ask for one extra, and specifiers of one version -/
def samplePackaging : Packaging String String where
  canonicalizeName := asciiCasefold
  parseRequirement := fun text =>
    orRaise ([("uvicorn[standard]==0.3", ⟨"uvicorn", ["standard"], none, some "0.3"⟩),
      ("uvloop; extra == 'standard'", ⟨"uvloop", [], some "standard", none⟩),
      ("Uvicorn", ⟨"Uvicorn", [], none, none⟩),
      ("click; extra == 'shell'", ⟨"click", [], some "shell", none⟩),
      ("pip", ⟨"pip", [], none, none⟩),
      ("setuptools", ⟨"setuptools", [], none, none⟩)].lookup text) (.uncaught text)
  evaluate := fun marker extra => .ok (marker == extra)
  contains := fun specifier version => .ok (specifier == version)
  specifierText := fun specifier => "==" ++ specifier
  repr := fun text => "'" ++ text ++ "'"

/-- `uvicorn` is asked for without its extra first, and in a circle with `uvloop` -/
def sampleHost : Host String String where
  toPackaging := samplePackaging
  sysPlatform := "linux"
  versionInfo := (3, 12)
  implementation := "CPython"
  constraintLines := ["# pins", "uvicorn==0.3", "uvloop==0.1", "pip==26.0", "setuptools==80.1"]
  projectRequirements := ["Uvicorn", "uvicorn[standard]==0.3"]
  distributions := [⟨some "uvicorn", "0.3", ["uvloop; extra == 'standard'", "click; extra == 'shell'"]⟩,
    ⟨some "uvloop", "0.1", ["Uvicorn"]⟩, ⟨some "pip", "26.0", []⟩,
    ⟨some "setuptools", "80.1", []⟩, ⟨none, "1", []⟩]
  iterate := List.reverse
  mem_iterate := List.mem_reverse

theorem sampleHost_main : main sampleHost 20 = some (.exitCode 0
    "CI dependency closure is installed and exactly constrained: 4 packages checked.") := by
  decide +kernel

/-- its closure -/
theorem closure_verified_sample : ∃ s pins, verifyClosure sampleHost 20 = some (.ok s) ∧
    loadPins sampleHost = .ok pins ∧ IsLeast {c | (rules sampleHost).Closed c} s.selection := by
  obtain ⟨s, pins, hs, hpins, hleast, -⟩ :=
    (closure_verified sampleHost).2.1 20 _ sampleHost_main
  exact ⟨s, pins, hs, hpins, hleast⟩

end PgRbac.Ci
