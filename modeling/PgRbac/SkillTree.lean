import PgRbac.Lib.PathMap
import PgRbac.Lib.Pattern
import PgRbac.Provisioning

/-!
# Trees of the installer

What `scripts/update_installed_skill.py` asks of a directory tree.  A tree maps relative paths to
entries; symbolic links and reparse directories are one kind of entry.

* `validateSkillTree`                    `_validate_skill_tree`, with the texts that it reads;
* `isIgnored`, `manifest`                the files that count, with their digests;
* `ignoreCopyArtifacts`, `copytree`      the copy without generated artifacts;
* `filters_agree`                        when the copy has the manifest of the original.

Where the order of a directory listing decides which error comes first, it is that of the keys.
-/

set_option linter.unusedVariables false

namespace PgRbac

namespace Installer

/-! ## entries -/

inductive Entry where
  | dir (device : Nat)
  | file (content : List UInt8)
  | link
  /-- a pipe or a socket -/
  | special
  /-- a device node, with what reading it to its end gives, where that works -/
  | node (content : Option (List UInt8))
deriving DecidableEq, Repr

namespace Entry

def isDir : Entry → Bool
  | dir _ => true
  | _ => false

def isFile : Entry → Bool
  | file _ => true
  | _ => false

def isLink : Entry → Bool
  | link => true
  | _ => false

/-- neither a directory nor a file, nor a link to one -/
def isIrregular : Entry → Bool
  | special => true
  | node _ => true
  | _ => false

end Entry

abbrev Path := List String

abbrev Tree := PathMap String Entry

/-- a tree as a file system has it -/
structure DirectoryTree where
  tree : Tree
  closed : tree.Closed Entry.isDir

def isDir (t : Tree) (p : Path) : Bool := (t.get p).any Entry.isDir

def isFile (t : Tree) (p : Path) : Bool := (t.get p).any Entry.isFile

def isLink (t : Tree) (p : Path) : Bool := (t.get p).any Entry.isLink

def skillName : String := "fastapi-templates-xtn"

def showPath (p : Path) : String := "/" ++ "/".intercalate p

/-! ## errors -/

/-- `UpdateError`, by what it reports -/
inductive UpdateError where
  | sourceNotDirectory (root : Path)
  | sourceName (root : Path)
  | missing (path : Path)
  | sourceLink (path : Path)
  | environmentFile (path : Path)
  | undeclared
  | version (text : String)
  | installedLink (path : Path)
  | traversesLink (label : String) (path : Path)
  | targetName (target : Path)
  | targetParent (parent : Path)
  | overlap
  | targetNotDirectory (target : Path)
  | backupInside
  | backupOverlap
  | backupNotDirectory (root : Path)
  | backupParent (parent : Path)
  | filesystems
  | pathExists
  | stagedMismatch
  | unrestored (backup : Path)
  | restored
  | unrecognizedStaging (path : Path)
deriving DecidableEq, Repr

def UpdateError.message (repr : String → String) : UpdateError → String
  | sourceNotDirectory root => "Skill source must be a real directory: " ++ showPath root
  | sourceName root =>
    "Skill directory must be named " ++ repr skillName ++ ": " ++ showPath root
  | missing path => "Missing regular file: " ++ showPath path
  | sourceLink path =>
    "Symbolic links and Windows junction/reparse directories are not accepted in the Skill: " ++
      showPath path
  | environmentFile path => "Refusing to install a local .env file: " ++ showPath path
  | undeclared => "SKILL.md does not declare name: fastapi-templates-xtn"
  | version text => "VERSION must contain one semantic version, got " ++ repr text
  | installedLink path =>
    "Symbolic links and Windows junction/reparse directories are not accepted in the installed " ++
      "Skill: " ++ showPath path
  | traversesLink label path =>
    label ++ " must not traverse a symbolic link or Windows junction/reparse directory: " ++
      showPath path
  | targetName target =>
    "Target directory must be named " ++ repr skillName ++ ": " ++ showPath target
  | targetParent parent => "Target parent must be an existing real directory: " ++ showPath parent
  | overlap => "Source and target must be separate, non-overlapping directories"
  | targetNotDirectory target => "Existing target must be a real directory: " ++ showPath target
  | backupInside => "Backup directory must be outside the Skill discovery directory"
  | backupOverlap =>
    "Backup directory and Skill source must be separate, non-overlapping directories"
  | backupNotDirectory root => "Backup path must be a real directory: " ++ showPath root
  | backupParent parent => "Backup parent must be an existing real directory: " ++ showPath parent
  | filesystems => "Backup and target must be on the same filesystem"
  | pathExists => "Generated staging or backup path already exists; retry the command"
  | stagedMismatch => "Staged copy does not exactly match the validated source"
  | unrestored backup =>
    "Replacement and automatic rollback both failed. The previous Skill remains at " ++
      showPath backup ++ "; inspect the target and backup paths before retrying."
  | restored => "Replacement failed; the previous Skill was restored"
  | unrecognizedStaging path =>
    "Refusing to remove an unrecognized staging path: " ++ showPath path

/-- what goes through a call: an `OSError`, a text that is no UTF-8, an `UpdateError` -/
inductive Failure where
  | os
  | unicode
  | update (error : UpdateError)
deriving DecidableEq, Repr

def demand (condition : Bool) (error : UpdateError) : Except Failure Unit :=
  if condition then .ok () else .error (.update error)

/-! ## texts -/

/-- line ends as a text file is read -/
def universalNewlines : List Char → List Char
  | [] => []
  | '\r' :: '\n' :: s => '\n' :: universalNewlines s
  | '\r' :: s => '\n' :: universalNewlines s
  | c :: s => c :: universalNewlines s

/-- `path.read_text(encoding="utf-8")` -/
def readText (t : Tree) (path : Path) : Except Failure String :=
  match t.get path with
  | some (.file content) =>
    match String.fromUTF8? ⟨content.toArray⟩ with
    | none => .error .unicode
    | some text => .ok (String.ofList (universalNewlines text.toList))
  | _ => .error .os

open Pattern in
/-- the header that declares the name; that its repetitions are lazy does not matter to a search -/
def headerRe : Pattern :=
  let space := set isPySpace
  let any := set fun _ => true
  chain [textStart, literal id "---".toList, plus space, star any, lineStart,
    literal id "name:".toList, star space, literal id skillName.toList, star space, lineEnd,
    star any, lineStart, literal id "---".toList, star space, lineEnd]

open Pattern in
def versionRe : Pattern :=
  let digit := set Char.isDigit
  let dot := set (· == '.')
  chain [plus digit, dot, plus digit, dot, plus digit, textEnd]

/-! ## validation -/

/-- an entry that the walk of the source refuses -/
def refused (t : Tree) (path : Path) : Bool :=
  path != [] && (isLink t path || (isFile t path && path.getLast? == some ".env"))

/-- the walk of `_validate_skill_tree`: no links, no `.env` file -/
def walkSource (t : Tree) (root : Path) : Except Failure Unit :=
  match t.keys.find? (refused t) with
  | some path =>
    .error (.update (if isLink t path then .sourceLink (root ++ path)
      else .environmentFile (root ++ path)))
  | none => .ok ()

/-- `_validate_skill_tree` of the tree at `root` -/
def validateSkillTree (t : Tree) (root : Path) (requireCanonicalName : Bool) :
    Except Failure String := do
  demand (isDir t []) (.sourceNotDirectory root)
  demand (!requireCanonicalName || root.getLast?.getD "" == skillName) (.sourceName root)
  demand (isFile t ["SKILL.md"]) (.missing (root ++ ["SKILL.md"]))
  demand (isFile t ["VERSION"]) (.missing (root ++ ["VERSION"]))
  walkSource t root
  let skillText ← readText t ["SKILL.md"]
  demand (headerRe.search skillText.toList) .undeclared
  let versionText ← readText t ["VERSION"]
  let version := strip versionText
  demand (versionRe.fullmatch version.toList) (.version version)
  return version

/-! ## the two filters -/

def ignoredDirectoryNames : List String :=
  [".git", ".mypy_cache", ".pytest_cache", ".ruff_cache", "__pycache__", "build", "dist"]

def ignoredFileNames : List String := [".coverage"]

def ignoredFileSuffixes : List String := [".pyc", ".pyo"]

def endsWith (name suffix : String) : Bool := suffix.toList.isSuffixOf name.toList

/-- the name of a directory of generated files -/
def artifactDirectory (name : String) : Bool :=
  ignoredDirectoryNames.contains name || endsWith name ".egg-info"

/-- the name of a generated file -/
def artifactFile (name : String) : Bool :=
  ignoredFileNames.contains name || ignoredFileSuffixes.any (endsWith name)

def isIgnored (t : Tree) (relative : Path) : Bool :=
  relative.dropLast.any artifactDirectory ||
    relative.getLast?.any artifactFile ||
    (isDir t relative && relative.getLast?.any artifactDirectory)

section
variable {Digest : Type} (sha256 : List UInt8 → Digest)

/-- `_manifest`: the digests of the files that are not ignored -/
def manifest (t : Tree) : PathMap String Digest :=
  t.filterMap fun relative entry =>
    match entry with
    | .file content =>
      if relative != [] && !isIgnored t relative then some (sha256 content) else none
    | _ => none

end

def names (t : Tree) (directory : Path) : List String :=
  t.keys.filterMap fun path => if path.dropLast = directory then path.getLast? else none

def ignoreCopyArtifacts (t : Tree) (directory : Path) (names : List String) : List String :=
  names.filter fun name =>
    artifactDirectory name || artifactFile name ||
      (isFile t (directory ++ [name]) && name == ".env")

/-- `shutil.copytree` gets from `directory` to the path: no name on the way is ignored -/
def reaches (t : Tree) (directory : Path) : Path → Bool
  | [] => true
  | name :: rest =>
    !(ignoreCopyArtifacts t directory (names t directory)).contains name &&
      reaches t (directory ++ [name]) rest

/-- an entry of the copy, on the device of the copy -/
def copyEntry (device : Nat) : Entry → Option Entry
  | .dir _ => some (.dir device)
  | .file content => some (.file content)
  | .link => none
  | .special => none
  | .node content => content.map .file

/-- the tree that `shutil.copytree` makes with `copy2`: a device is read like a file, a pipe or a
socket raises -/
def copytree (device : Nat) (t : Tree) : Option Tree :=
  if t.keys.any fun path =>
      reaches t [] path && (t.get path).any fun entry => (copyEntry device entry).isNone then none
  else some (t.filterMap fun path entry =>
    if reaches t [] path then copyEntry device entry else none)

/-! ## what validation promises -/

section
variable {t : Tree} {root : Path} {requireCanonicalName : Bool} {version : String}

theorem demand_ok {condition : Bool} {error : UpdateError} :
    demand condition error = .ok () ↔ condition = true := by
  unfold demand
  cases condition <;> simp

theorem bind_ok {α β : Type} {x : Except Failure α} {f : α → Except Failure β} {b : β}
    (h : x >>= f = .ok b) : ∃ a, x = .ok a ∧ f a = .ok b := by
  cases x with
  | error e => cases h
  | ok a => exact ⟨a, rfl, h⟩

structure Valid (t : Tree) (version : String) : Prop where
  directory : isDir t [] = true
  file : isFile t ["VERSION"] = true
  accepted : ∀ path, refused t path = false
  version : (readText t ["VERSION"]).map strip = .ok version

theorem walkSource_ok (h : walkSource t root = .ok ()) (path : Path) : refused t path = false := by
  have hfind : t.keys.find? (refused t) = none := by
    unfold walkSource at h
    cases hfind : t.keys.find? (refused t) with
    | none => rfl
    | some path =>
      rw [hfind] at h
      cases h
  by_cases hnone : t.get path = none
  · unfold refused isLink isFile
    rw [hnone]
    exact Bool.and_false _
  · have hmem := List.find?_eq_none.mp hfind path (t.covers path hnone)
    simpa using hmem

theorem validateSkillTree_ok (h : validateSkillTree t root requireCanonicalName = .ok version) :
    Valid t version := by
  unfold validateSkillTree at h
  obtain ⟨_, hdirectory, h⟩ := bind_ok h
  obtain ⟨_, _, h⟩ := bind_ok h
  obtain ⟨_, _, h⟩ := bind_ok h
  obtain ⟨_, hfile, h⟩ := bind_ok h
  obtain ⟨_, hwalk, h⟩ := bind_ok h
  obtain ⟨_, _, h⟩ := bind_ok h
  obtain ⟨_, _, h⟩ := bind_ok h
  obtain ⟨text, hread, h⟩ := bind_ok h
  obtain ⟨_, _, h⟩ := bind_ok h
  refine ⟨demand_ok.mp hdirectory, demand_ok.mp hfile, walkSource_ok hwalk, ?_⟩
  rw [hread]
  exact h

theorem Valid.link (h : Valid t version) (path : Path) : isLink t path = false := by
  by_cases hnil : path = []
  · have hdirectory := h.directory
    rw [hnil]
    unfold isLink
    unfold isDir at hdirectory
    cases hget : t.get [] with
    | none => rfl
    | some entry =>
      rw [hget] at hdirectory
      cases entry <;> first | rfl | cases hdirectory
  · have haccepted := h.accepted path
    unfold refused at haccepted
    rw [bne_iff_ne.mpr hnil, Bool.true_and, Bool.or_eq_false_iff] at haccepted
    exact haccepted.1

theorem Valid.environment (h : Valid t version) (directory : Path) :
    isFile t (directory ++ [".env"]) = false := by
  have haccepted := h.accepted (directory ++ [".env"])
  have hne : directory ++ [".env"] ≠ [] := List.append_ne_nil_of_right_ne_nil _ (List.cons_ne_nil _ _)
  unfold refused at haccepted
  rw [bne_iff_ne.mpr hne, Bool.true_and, Bool.or_eq_false_iff, List.getLast?_concat] at haccepted
  simpa using haccepted.2

end

/-! ## what the copy keeps -/

def artifact (name : String) : Bool := artifactDirectory name || artifactFile name

section
variable {t : DirectoryTree} {version : String}

theorem mem_names {t : Tree} {directory : Path} {name : String}
    (h : t.get (directory ++ [name]) ≠ none) : name ∈ names t directory := by
  refine List.mem_filterMap.mpr ⟨directory ++ [name], t.covers _ h, ?_⟩
  rw [List.dropLast_concat, if_pos rfl, List.getLast?_concat]

theorem ignored_name (h : Valid t.tree version) {directory : Path} {name : String}
    (hname : t.tree.get (directory ++ [name]) ≠ none) :
    (ignoreCopyArtifacts t.tree directory (names t.tree directory)).contains name =
      artifact name := by
  have henv : (isFile t.tree (directory ++ [name]) && name == ".env") = false := by
    by_cases heq : name = ".env"
    · rw [heq, h.environment directory]
      rfl
    · rw [beq_false_of_ne heq, Bool.and_false]
  rw [Bool.eq_iff_iff, List.contains_iff_mem]
  unfold ignoreCopyArtifacts
  rw [List.mem_filter, henv, Bool.or_false]
  exact ⟨fun hm => hm.2, fun ha => ⟨mem_names hname, ha⟩⟩

theorem reaches_entry (h : Valid t.tree version) (directory : Path) {path : Path}
    (hpath : t.tree.get (directory ++ path) ≠ none) :
    reaches t.tree directory path = path.all fun name => !artifact name := by
  induction path generalizing directory with
  | nil => rfl
  | cons name rest ih =>
    have hassoc : directory ++ name :: rest = directory ++ [name] ++ rest := by
      rw [List.append_assoc]
      rfl
    have hrest : t.tree.get (directory ++ [name] ++ rest) ≠ none := hassoc ▸ hpath
    show (!(ignoreCopyArtifacts t.tree directory (names t.tree directory)).contains name &&
      reaches t.tree (directory ++ [name]) rest) = _
    rw [ignored_name h (t.closed.some hrest), ih (directory ++ [name]) hrest]
    rfl

theorem reaches_root (h : Valid t.tree version) {path : Path} (hpath : t.tree.get path ≠ none) :
    reaches t.tree [] path = path.all fun name => !artifact name :=
  reaches_entry h [] hpath

end

/-- the two filters agree on every entry of the tree -/
structure FiltersAgree (t : Tree) : Prop where
  /-- a file that counts bears no name of an artifact directory, and lies in no directory with the
  name of an artifact file -/
  files : ∀ directory name content, t.get (directory ++ [name]) = some (.file content) →
    isIgnored t (directory ++ [name]) = false →
      artifactDirectory name = false ∧ directory.all (fun part => !artifactFile part) = true
  /-- what is neither a file nor a directory is left out -/
  irregular : ∀ path entry, t.get path = some entry → entry.isIrregular = true →
    path.any artifact = true

section
variable {Digest : Type} {sha256 : List UInt8 → Digest} {device : Nat}

theorem manifest_file {t : Tree} {path : Path} {content : List UInt8}
    (h : t.get path = some (.file content)) : (manifest sha256 t).get path =
      if path != [] && !isIgnored t path then some (sha256 content) else none := by
  unfold manifest
  rw [PathMap.get_filterMap, h]
  rfl

theorem manifest_other {t : Tree} {path : Path}
    (h : ∀ content, t.get path ≠ some (.file content)) : (manifest sha256 t).get path = none := by
  unfold manifest
  rw [PathMap.get_filterMap]
  cases hget : t.get path with
  | none => rfl
  | some entry =>
    cases entry with
    | file content => exact absurd hget (h content)
    | dir device => rfl
    | link => rfl
    | special => rfl
    | node content => rfl

theorem get_copy {t copy : Tree} (h : copytree device t = some copy) (path : Path) :
    copy.get path =
      (t.get path).bind fun entry => if reaches t [] path then copyEntry device entry else none := by
  unfold copytree at h
  split at h
  · cases h
  · cases h
    rfl

/-- what the copy gets to counts in the copy as in the original, unless it is a device -/
theorem manifest_reached {t copy : Tree} (h : copytree device t = some copy) {path : Path}
    (hreach : reaches t [] path = true) (hnode : ∀ content, t.get path ≠ some (.node content)) :
    (manifest sha256 copy).get path = (manifest sha256 t).get path := by
  have hget := get_copy h path
  rw [hreach] at hget
  cases hentry : t.get path with
  | none =>
    rw [hentry] at hget
    rw [manifest_other (fun content => by rw [hget]; exact fun heq => by cases heq),
      manifest_other (fun content => by rw [hentry]; exact fun heq => by cases heq)]
  | some entry =>
    rw [hentry] at hget
    cases entry with
    | file content =>
      have hignored : isIgnored copy path = isIgnored t path := by
        unfold isIgnored isDir
        rw [hget, hentry]
        rfl
      rw [manifest_file hget, manifest_file hentry, hignored]
    | dir device' =>
      have hnot (m : Tree) (d : Nat) (hm : m.get path = some (.dir d)) :
          (manifest sha256 m).get path = none :=
        manifest_other fun content => by rw [hm]; exact fun heq => by cases heq
      rw [hnot copy device hget, hnot t device' hentry]
    | link =>
      rw [manifest_other (fun content => by rw [hget]; exact fun heq => by cases heq),
        manifest_other (fun content => by rw [hentry]; exact fun heq => by cases heq)]
    | special =>
      rw [manifest_other (fun content => by rw [hget]; exact fun heq => by cases heq),
        manifest_other (fun content => by rw [hentry]; exact fun heq => by cases heq)]
    | node content => exact absurd hentry (hnode content)

theorem manifest_unreached {t copy : Tree} (h : copytree device t = some copy) {path : Path}
    (hreach : reaches t [] path = false) : (manifest sha256 copy).get path = none := by
  have hget := get_copy h path
  rw [hreach] at hget
  refine manifest_other fun content => ?_
  rw [hget]
  cases t.get path <;> exact fun heq => by cases heq

theorem all_clean_iff {path : Path} :
    (path.all fun name => !artifact name) = true ↔ ¬ path.any artifact = true := by
  rw [← List.not_any_eq_all_not, Bool.not_eq_true', Bool.not_eq_true]

theorem copytree_isSome (device : Nat) {t : DirectoryTree} {version : String}
    (h : Valid t.tree version) (hirregular : ∀ path entry, t.tree.get path = some entry →
      entry.isIrregular = true → path.any artifact = true) :
    (copytree device t.tree).isSome = true := by
  unfold copytree
  rw [if_neg]
  · rfl
  intro hany
  obtain ⟨path, -, hpath⟩ := List.any_eq_true.mp hany
  rw [Bool.and_eq_true] at hpath
  obtain ⟨hreach, hentry⟩ := hpath
  cases hget : t.tree.get path with
  | none =>
    rw [hget] at hentry
    cases hentry
  | some entry =>
    have hclean : ¬ path.any artifact = true := by
      rw [← all_clean_iff, ← reaches_root h (by rw [hget]; exact Option.some_ne_none _)]
      exact hreach
    rw [hget] at hentry
    cases entry with
    | dir d => cases hentry
    | file content => cases hentry
    | link =>
      have hlink := h.link path
      unfold isLink at hlink
      rw [hget] at hlink
      cases hlink
    | special => exact hclean (hirregular path _ hget rfl)
    | node content => exact hclean (hirregular path _ hget rfl)

theorem isIgnored_clean {t : Tree} {path : Path} (h : ¬ path.any artifact = true) :
    isIgnored t path = false := by
  have hclean : ∀ name ∈ path, artifactDirectory name = false ∧ artifactFile name = false := by
    intro name hname
    have hnot : artifact name = false := by
      by_contra hartifact
      exact h (List.any_eq_true.mpr ⟨name, hname, by simpa using hartifact⟩)
    exact Bool.or_eq_false_iff.mp hnot
  have hdirectories : path.dropLast.any artifactDirectory = false := by
    rw [List.any_eq_false]
    intro name hname
    rw [(hclean name (List.mem_of_mem_dropLast hname)).1]
    exact Bool.false_ne_true
  have hlast {test : String → Bool} (htest : ∀ name ∈ path, test name = false) :
      path.getLast?.any test = false := by
    cases hget : path.getLast? with
    | none => rfl
    | some name => exact htest name (List.mem_of_getLast? hget)
  unfold isIgnored
  rw [hdirectories, hlast fun name hname => (hclean name hname).2,
    hlast fun name hname => (hclean name hname).1, Bool.and_false]
  rfl

/-- a copy with the manifest of the original has not got to anything irregular: a pipe or a socket
raises, and the copy of a device is a file that the original lacks -/
theorem irregular_left_out {t : DirectoryTree} {copy : Tree} {version : String}
    (h : Valid t.tree version) (hcopy : copytree device t.tree = some copy)
    (hsame : ∀ path, (manifest sha256 copy).get path = (manifest sha256 t.tree).get path)
    {path : Path} {entry : Entry} (hget : t.tree.get path = some entry)
    (hirregular : entry.isIrregular = true) : path.any artifact = true := by
  by_contra hclean
  have hnone : t.tree.get path ≠ none := by
    rw [hget]
    exact Option.some_ne_none _
  have hreach : reaches t.tree [] path = true := by
    rw [reaches_root h hnone]
    exact all_clean_iff.mpr hclean
  have hcopied := get_copy hcopy path
  rw [hreach, hget] at hcopied
  change copy.get path = copyEntry device entry at hcopied
  have hmade : copyEntry device entry ≠ none := by
    intro hraises
    unfold copytree at hcopy
    rw [if_pos] at hcopy
    · cases hcopy
    · refine List.any_eq_true.mpr ⟨path, t.tree.covers path hnone, ?_⟩
      rw [hreach, hget, Option.any_some, hraises]
      rfl
  cases entry with
  | dir d => cases hirregular
  | file content => cases hirregular
  | link => cases hirregular
  | special => exact hmade rfl
  | node content =>
    cases content with
    | none => exact hmade rfl
    | some content =>
      have hne : path ≠ [] := by
        rintro rfl
        have hdirectory := h.directory
        unfold isDir at hdirectory
        rw [hget] at hdirectory
        cases hdirectory
      have hone := hsame path
      rw [manifest_file hcopied, isIgnored_clean hclean, bne_iff_ne.mpr hne,
        manifest_other fun content' => by rw [hget]; exact fun heq => by cases heq] at hone
      cases hone

/-- on a file that counts, the copy gets to it exactly when the two filters agree on it -/
theorem reaches_counted {t : DirectoryTree} {version : String} (h : Valid t.tree version)
    {directory : Path} {name : String} {content : List UInt8}
    (hget : t.tree.get (directory ++ [name]) = some (.file content))
    (hcounts : isIgnored t.tree (directory ++ [name]) = false) :
    reaches t.tree [] (directory ++ [name]) = true ↔
      artifactDirectory name = false ∧ directory.all (fun part => !artifactFile part) = true := by
  have hsome : t.tree.get (directory ++ [name]) ≠ none := by
    rw [hget]
    exact Option.some_ne_none _
  unfold isIgnored at hcounts
  rw [List.dropLast_concat, List.getLast?_concat, Bool.or_eq_false_iff, Bool.or_eq_false_iff]
    at hcounts
  obtain ⟨⟨hdirectories, hname⟩, -⟩ := hcounts
  change artifactFile name = false at hname
  have habove : directory.all (fun part => !artifactDirectory part) = true := by
    rw [← List.not_any_eq_all_not, hdirectories]
    rfl
  rw [reaches_root h hsome, List.all_append, Bool.and_eq_true]
  have hlast : ([name].all fun part => !artifact part) = !artifactDirectory name := by
    simp [artifact, hname]
  rw [hlast, Bool.not_eq_true', and_comm]
  refine and_congr_right fun hdirectory => ?_
  rw [List.all_eq_true, List.all_eq_true]
  constructor
  · intro hall part hpart
    have hnot := hall part hpart
    unfold artifact at hnot
    rw [Bool.not_eq_true', Bool.or_eq_false_iff] at hnot
    rw [hnot.2]
    rfl
  · intro hall part hpart
    have hdir := List.all_eq_true.mp habove part hpart
    have hfile := hall part hpart
    unfold artifact
    rw [Bool.not_or, hdir, hfile]
    rfl

theorem FiltersAgree.copied {t : DirectoryTree} {version : String} (h : Valid t.tree version)
    (hagree : FiltersAgree t.tree) (sha256 : List UInt8 → Digest) (device : Nat) :
    ∃ copy, copytree device t.tree = some copy ∧
      ∀ path, (manifest sha256 copy).get path = (manifest sha256 t.tree).get path := by
  obtain ⟨copy, hcopy⟩ := Option.isSome_iff_exists.mp (copytree_isSome device h hagree.irregular)
  refine ⟨copy, hcopy, fun path => ?_⟩
  cases hreach : reaches t.tree [] path with
  | true =>
    refine manifest_reached hcopy hreach fun content hget => ?_
    rw [reaches_root h (by rw [hget]; exact Option.some_ne_none _)] at hreach
    exact all_clean_iff.mp hreach (hagree.irregular path _ hget rfl)
  | false =>
    -- what the copy leaves out did not count
    rw [manifest_unreached hcopy hreach]
    by_cases hfile : ∃ content, t.tree.get path = some (.file content)
    · obtain ⟨content, hget⟩ := hfile
      rw [manifest_file hget, if_neg]
      intro hcounts
      rw [Bool.and_eq_true, bne_iff_ne, Bool.not_eq_true'] at hcounts
      obtain ⟨directory, name, rfl⟩ : ∃ directory name, path = directory ++ [name] :=
        ⟨path.dropLast, path.getLast hcounts.1, (List.dropLast_append_getLast hcounts.1).symm⟩
      rw [(reaches_counted h hget hcounts.2).mpr
        (hagree.files directory name content hget hcounts.2)] at hreach
      cases hreach
    · exact (manifest_other fun content hget => hfile ⟨content, hget⟩).symm

/-- **the copy of a valid tree has the manifest of the original** exactly when the two filters agree
on every entry -/
theorem filters_agree (t : DirectoryTree) {root : Path} {requireCanonicalName : Bool}
    {version : String} (h : validateSkillTree t.tree root requireCanonicalName = .ok version)
    (sha256 : List UInt8 → Digest) (device : Nat) :
    (∃ copy, copytree device t.tree = some copy ∧
      ∀ path, (manifest sha256 copy).get path = (manifest sha256 t.tree).get path) ↔
      FiltersAgree t.tree := by
  have hvalid := validateSkillTree_ok h
  constructor
  · rintro ⟨copy, hcopy, hsame⟩
    refine ⟨fun directory name content hget hcounts => ?_,
      fun path entry hget hirregular => irregular_left_out hvalid hcopy hsame hget hirregular⟩
    rw [← reaches_counted hvalid hget hcounts]
    by_contra hreach
    rw [Bool.not_eq_true] at hreach
    have hone := hsame (directory ++ [name])
    rw [manifest_unreached hcopy hreach, manifest_file hget, hcounts,
      bne_iff_ne.mpr (List.append_ne_nil_of_right_ne_nil _ (List.cons_ne_nil _ _))] at hone
    cases hone
  · exact fun hagree => hagree.copied hvalid sha256 device

end

/-! ## a tree with a file of the name `dist` -/

def bytes (s : String) : List UInt8 := s.toUTF8.data.toList

/-- a valid tree and one more file -/
def sampleTree (name content : String) : Tree :=
  PathMap.ofList
    [([], .dir 1),
      (["SKILL.md"], .file (bytes "---\nname: fastapi-templates-xtn\n---\n")),
      (["VERSION"], .file (bytes "1.0.0\n")),
      ([name], .file (bytes content))]

def sampleDirectory (name content : String)
    (h : (sampleTree name content).closedKeys Entry.isDir = true) : DirectoryTree :=
  ⟨sampleTree name content, PathMap.closed_of_keys h⟩

theorem closed_dist : (sampleTree "dist" "notes").closedKeys Entry.isDir = true := by
  decide +kernel

theorem closed_notes : (sampleTree "notes.txt" "notes").closedKeys Entry.isDir = true := by
  decide +kernel

/-- the copy leaves out a file that the manifest of the source has -/
theorem dist_file_lost :
    validateSkillTree (sampleDirectory "dist" "notes" closed_dist).tree ["src", skillName] true =
        .ok "1.0.0" ∧
      (manifest id (sampleDirectory "dist" "notes" closed_dist).tree).get ["dist"] =
        some (bytes "notes") ∧
      (copytree 1 (sampleDirectory "dist" "notes" closed_dist).tree).map
          (fun copy => (manifest id copy).get ["dist"]) = some none := by
  decide +kernel

theorem filters_agree_notes :
    (∃ copy, copytree 1 (sampleDirectory "notes.txt" "notes" closed_notes).tree = some copy ∧
      ∀ path, (manifest id copy).get path =
        (manifest id (sampleDirectory "notes.txt" "notes" closed_notes).tree).get path) ↔
      FiltersAgree (sampleDirectory "notes.txt" "notes" closed_notes).tree := by
  have hvalid : validateSkillTree (sampleDirectory "notes.txt" "notes" closed_notes).tree
      ["src", skillName] true = .ok "1.0.0" := by
    decide +kernel
  exact filters_agree _ hvalid id 1

end Installer

end PgRbac
