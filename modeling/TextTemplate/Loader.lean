import TextTemplate.Error
import TextTemplate.FileTree
import TextTemplate.Text.Quoted

/-!
# Loaders

A loader gives the source of a template for its name. What it draws from may change
from one request to the next, so a loader works on a state: the files of a directory,
say, or a table that an application fills. A loader that ignores its state always
answers the same.

Loaders are asked for one name, or for the first of several that they can find.
-/

namespace TextTemplate

open TextTemplate.Text

/-- A source of templates. -/
structure Loader (σ : Type) where
  /-- The source of a template. -/
  load : String → EStateM Error σ String
  /-- The first of several templates that can be found: its name and its source. -/
  loadFirst : List String → EStateM Error σ (String × String)

/-- How a path is looked up. -/
abbrev Probe (σ : Type) := Path → StateM σ FileStatus

/-- The look-up in a fixed directory tree. -/
def FileTree.probe {σ : Type} (tree : FileTree) : Probe σ := fun path =>
  pure (tree.look path)

namespace Loader

variable {σ : Type}

/-! ## Loaders that know how to load one name -/

/-- The first of the names that loads. A template that is missing is passed over, and
any other error is final. -/
def firstLoaded (load : String → EStateM Error σ String) :
    List String → EStateM Error σ (Option (String × String))
  | [] => return none
  | name :: rest => fun state =>
    match load name state with
    | .ok source after => .ok (some (name, source)) after
    | .error error after =>
      if error.isNotFound then firstLoaded load rest after else .error error after

/-- The loader that tries names one by one, and is called `shown` in its messages. -/
def ofLoad (shown : String) (load : String → EStateM Error σ String) : Loader σ where
  load := load
  loadFirst names := do
    match ← firstLoaded load names with
    | some found => return found
    | none => throw (.notFound names (some shown))

/-! ## Templates in memory -/

/-- The source of a template among named sources. -/
def loadFrom (templates : Mapping String) (name : String) : EStateM Error σ String :=
  match templates.get? name with
  | some source => return source
  | none => throw (.notFound [name] (some "MemoryLoader"))

/-- Named sources in words. -/
def showTemplates (templates : Mapping String) : String :=
  "MemoryLoader \x7b templates: \x7b" ++
    ", ".intercalate (templates.entries.map fun entry => quoted entry.1 ++ ": " ++
      quoted entry.2) ++
    "\x7d \x7d"

/-- The loader of templates in memory. -/
def memory (templates : Mapping String) : Loader σ :=
  ofLoad (showTemplates templates) (loadFrom templates)

/-! ## Templates in directories -/

/-- The text of the file of a name below a base directory, if there is such a file. -/
def readBelow (probe : Probe σ) (base : Path) (name : String) :
    EStateM Error σ (Option String) :=
  match base.confine (Path.ofString name) with
  | none => throw (.outsideBase base (base.join (Path.ofString name)))
  | some path => fun state =>
    let (status, after) := probe path state
    if status.isFile then
      match status.readText with
      | .ok text => .ok (some text) after
      | .error failure => .error (.unreadable path failure) after
    else .ok none after

/-- The first of several places, each a base directory and a name, where there is a
file: its name and its text. -/
def firstFile (probe : Probe σ) :
    List (Path × String) → EStateM Error σ (Option (String × String))
  | [] => return none
  | (base, name) :: rest => do
    match ← readBelow probe base name with
    | some text => return some (name, text)
    | none => firstFile probe rest

/-- The places where files of some names may be: all names below the first base
directory, then all names below the second, and so on. -/
def places (bases : List Path) (names : List String) : List (Path × String) :=
  bases.flatMap fun base => names.map fun name => (base, name)

/-- Base directories in words. -/
def showBases (bases : List Path) : String :=
  "FileSystemLoader \x7b paths: " ++ quotedList (bases.map Path.text) ++ " \x7d"

/-- The first of the names that is a file below one of the base directories. -/
def firstBelow (probe : Probe σ) (bases : List Path) (names : List String) :
    EStateM Error σ (String × String) := do
  match ← firstFile probe (places bases names) with
  | some found => return found
  | none => throw (.notFound names (some (showBases bases)))

/-- The loader of files below base directories. -/
def directories (probe : Probe σ) (bases : List Path) : Loader σ where
  load name := do
    let (_, text) ← firstBelow probe bases [name]
    return text
  loadFirst := firstBelow probe bases

end Loader

end TextTemplate
