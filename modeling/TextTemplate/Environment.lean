import TextTemplate.Loader
import TextTemplate.Parser
import TextTemplate.Time.Moment

/-!
# Environments

An environment is what templates are parsed and rendered with: extensions, limits, a
loader and a clock. The templates that it has loaded stand parsed on a shelf, together
with the state of what the loader draws from. A template that stands on the shelf is not
asked for again; only whole templates are put there, and none is ever replaced.
-/

namespace TextTemplate

/-- What templates are parsed and rendered with. -/
structure Environment (σ : Type) where
  /-- Where templates come from. -/
  loader : Option (Loader σ) := none
  /-- The application's extensions, in the order in which they are asked. -/
  extensions : Registry := []
  /-- How many scopes may be open above the outermost one. -/
  maxDepth : Nat := 64
  /-- How many items a range may have. -/
  maxRange : Nat := 100000
  /-- Whether loaded templates are kept. -/
  keepsTemplates : Bool := true
  /-- The current time. -/
  clock : Moment

/-- The templates that have been loaded, and the state behind the loader. -/
structure Shelf (σ : Type) where
  templates : Mapping Template
  source : σ

/-- A computation that may load templates. -/
abbrev Session (σ : Type) := EStateM Error (Shelf σ)

namespace Session

variable {σ α : Type}

/-- A request to the loader. -/
def ofSource (request : EStateM Error σ α) : Session σ α := fun shelf =>
  match request shelf.source with
  | .ok result source => .ok result { shelf with source }
  | .error error source => .error error { shelf with source }

/-- Fails with an error, if there is one. -/
def ofExcept (outcome : Except Error α) : Session σ α := fun shelf =>
  match outcome with
  | .ok result => .ok result shelf
  | .error error => .error error shelf

/-- Takes all templates off the shelf. -/
def clear : Session σ Unit := fun shelf =>
  .ok () { shelf with templates := Mapping.empty }

end Session

namespace Environment

variable {σ : Type}

/-- All extensions, the standard one last. -/
def registry (env : Environment σ) : Registry :=
  env.extensions ++ [Extension.standard]

/-- The nodes of a source. -/
def parse (env : Environment σ) (source : String) : Except Error (List Node) :=
  env.registry.parse source

/-- The template of a source, without a name. -/
def parseTemplate (env : Environment σ) (source : String) : Except Error Template :=
  (env.parse source).map fun nodes => ⟨none, nodes⟩

/-- The loader. Without one, none of the names can be found. -/
def requireLoader (env : Environment σ) (names : List String) : Session σ (Loader σ) :=
  match env.loader with
  | some loader => return loader
  | none => throw (.notFound names none)

/-- The template that stands on the shelf. -/
def kept? (env : Environment σ) (name : String) :
    Session σ (Option Template) := fun shelf =>
  .ok (if env.keepsTemplates then shelf.templates.get? name else none) shelf

/-- Puts a template on the shelf, if templates are kept. -/
def keep (env : Environment σ) (name : String) (template : Template) :
    Session σ Unit := fun shelf =>
  if env.keepsTemplates then
    .ok () { shelf with templates := shelf.templates.insert name template }
  else .ok () shelf

/-- Parses a source that has been loaded and keeps the template. -/
def store (env : Environment σ) (name source : String) : Session σ Template := do
  let nodes ← Session.ofExcept (env.parse source)
  env.keep name ⟨some name, nodes⟩
  return ⟨some name, nodes⟩

/-- The template of a name. -/
def load (env : Environment σ) (name : String) : Session σ Template := do
  match ← env.kept? name with
  | some template => return template
  | none =>
    let loader ← env.requireLoader [name]
    let source ← Session.ofSource (loader.load name)
    env.store name source

/-- The template of the first name that the loader can find. -/
def loadFirst (env : Environment σ) (names : List String) : Session σ Template := do
  let loader ← env.requireLoader names
  let (name, source) ← Session.ofSource (loader.loadFirst names)
  match ← env.kept? name with
  | some template => return template
  | none => env.store name source

end Environment

end TextTemplate
