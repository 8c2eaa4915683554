import TextTemplate.Environment

/-!
# Contexts

What a template is rendered in: a stack of scopes, the block bodies that derived
templates have put in place of others and that wait for their block, and the shelf of
loaded templates. A computation that fails leaves the context as the failure found it;
`within` takes its scope off again in either case.
-/

namespace TextTemplate

/-- Blocks that wait to replace the block of their name. -/
abbrev Overrides := Mapping (Block Node)

/-- What a template is rendered in. -/
structure Context (σ : Type) where
  scopes : Scopes
  /-- Present while a template is rendered as the parent of another one. -/
  overrides : Option Overrides
  shelf : Shelf σ

/-- A computation in a context. -/
abbrev Render (σ : Type) := EStateM Error (Context σ)

namespace Overrides

/-- Adds blocks for names that have none yet, so that the blocks of the most derived
template stand. -/
def merge (overrides : Overrides) (blocks : List (String × Block Node)) : Overrides :=
  blocks.foldl
    (fun merged entry => if merged.contains entry.1 then merged
      else merged.insert entry.1 entry.2)
    overrides

end Overrides

namespace Render

variable {σ α : Type}

/-- Fails with an error, if there is one. -/
def ofExcept (outcome : Except Error α) : Render σ α := fun context =>
  match outcome with
  | .ok result => .ok result context
  | .error error => .error error context

/-- The outcome of a computation, and the context that it leaves. -/
def outcome (computation : Render σ α) : Render σ (Except Error α) := fun context =>
  match computation context with
  | .ok result after => .ok (.ok result) after
  | .error error after => .ok (.error error) after

/-- A computation that may load templates. -/
def ofSession (session : Session σ α) : Render σ α := fun context =>
  match session context.shelf with
  | .ok result shelf => .ok result { context with shelf }
  | .error error shelf => .error error { context with shelf }

/-- The scopes. -/
def scopes : Render σ Scopes := fun context =>
  .ok context.scopes context

/-- Binds a name in the innermost scope. -/
def set (name : String) (value : Value) : Render σ Unit := fun context =>
  .ok () { context with scopes := context.scopes.set name value }

/-- The number of open scopes. -/
def depth : Render σ Nat := fun context =>
  .ok context.scopes.length context

/-- Runs a computation in a new scope, which is taken off again however the computation
ends. Fails when the scopes would be nested deeper than the limit. -/
def within (limit : Nat) (scope : Scope) (body : Render σ α) :
    Render σ α := fun context =>
  if limit < context.scopes.length then .error (.tooDeep limit) context
  else
    match body { context with scopes := scope :: context.scopes } with
    | .ok result after => .ok result { after with scopes := after.scopes.tail }
    | .error error after => .error error { after with scopes := after.scopes.tail }

/-- The blocks that wait. -/
def overrides : Render σ (Option Overrides) := fun context =>
  .ok context.overrides context

/-- Replaces the blocks that wait. -/
def setOverrides (overrides : Option Overrides) : Render σ Unit := fun context =>
  .ok () { context with overrides }

/-- Takes the block that waits for a name. -/
def takeOverride (name : String) : Render σ (Option (Block Node)) := fun context =>
  match context.overrides with
  | none => .ok none context
  | some waiting =>
    .ok (waiting.get? name) { context with overrides := some (waiting.erase name) }

/-- The texts of computations, one after the other, behind a text. -/
def joinTexts (text : String) : List (Render σ String) → Render σ String
  | [] => return text
  | first :: rest => do joinTexts (text ++ (← first)) rest

/-- The items that a computation accepts, behind items given last one first. -/
def select (accept : α → Render σ Bool) (accepted : List α) : List α → Render σ (List α)
  | [] => return accepted.reverse
  | item :: rest => do
    if ← accept item then select accept (item :: accepted) rest
    else select accept accepted rest

end Render

end TextTemplate
