import TextTemplate.Render.Context
import TextTemplate.Render.Iteration
import TextTemplate.Time.Format

/-!
# Rendering

Nodes are rendered in a context, by recursion on the tree. Two things lead out of the
tree: a block that another one replaces, and a template that is loaded. Both are
rendered in a scope of their own, so there is room for only as many of them, one inside
the other, as scopes may be nested. Rendering is therefore defined in layers: a layer
renders what leads out of the tree by the layer below, and with one layer more than
scopes may be open the lowest one is never reached.
-/

namespace TextTemplate

namespace Environment

variable {σ : Type} (env : Environment σ)

/-- The value of an operand. -/
def resolve (operand : Operand) : Render σ Value := do
  Render.ofExcept (operand.resolve env.maxRange (← Render.scopes))

/-- Whether a condition holds. A missing condition does. -/
def test (condition : Option Condition) : Render σ Bool := do
  match condition with
  | none => return true
  | some condition =>
    Render.ofExcept (condition.evaluate env.maxRange (← Render.scopes))

/-- Runs a computation in a new scope. -/
def within {α : Type} (scope : Scope) (body : Render σ α) : Render σ α :=
  Render.within env.maxDepth scope body

/-- The template whose name an operand gives. -/
def loadNamed (name : Variable) : Render σ Template := do
  match name.resolve (← Render.scopes) with
  | .string text => Render.ofSession (env.load text)
  | _ => throw (.fault (.nameNotText name.source))

/-- The entries of the mapping that an operand gives, as a scope. -/
def scopeOf (bindings : Option Variable) : Render σ Scope := do
  match bindings with
  | none => return Mapping.empty
  | some bindings =>
    return ((bindings.resolve (← Render.scopes)).asMapping?).getD Mapping.empty

/-- The format of the time when a template gives none. -/
def standardTimeFormat : String := "%Y-%m-%d at %H:%M"

/-- The current time in a format. -/
def printTime (format : String) : Render σ String :=
  match env.clock.print? format with
  | some text => return text
  | none => throw (.fault (.timeFormat format))

/-- The current time; empty when the format is no text. -/
def renderNow (format : Option Variable) : Render σ String := do
  match format with
  | none => env.printTime standardTimeFormat
  | some format =>
    match format.resolve (← Render.scopes) with
    | .string text => env.printTime text
    | _ => return ""

/-- Whether the condition of a loop holds for an item. -/
def accepts (names : List String) (condition : Option Condition) (item : Value) :
    Render σ Bool := do
  let scope ← Render.ofExcept (Iteration.bindings names item)
  env.within scope (env.test condition)

/-- The items of a loop for which its condition holds. -/
def acceptedItems (names : List String) (condition : Option Condition)
    (items : List Value) :
    Render σ (List Value) :=
  match condition with
  | none => return items
  | some condition => Render.select (env.accepts names (some condition)) [] items

/-- The body of a loop for one item. -/
def renderItem (names : List String) (length : Nat) (body : Render σ String)
    (item : Value × Nat) : Render σ String := do
  let scope ← Render.ofExcept (Iteration.bindings names item.1)
  env.within (Iteration.statusScope item.2 length) (env.within scope body)

/-- The body of a loop for each item, or the other body when there is no item. -/
def renderItems (names : List String) (items : List Value)
    (body empty : Render σ String) :
    Render σ String :=
  if items.isEmpty then env.within Mapping.empty empty
  else Render.joinTexts "" (items.zipIdx.map (env.renderItem names items.length body))

/-- A loop. -/
def renderLoop (names : List String) (source : Operand) (condition : Option Condition)
    (body empty : Render σ String) : Render σ String := do
  let value ← env.resolve source
  let items ← env.acceptedItems names condition (Iteration.items value)
  env.renderItems names items body empty

/-- The text of a body through a filter chain. -/
def renderFiltered (chain : FilterChain) (body : Render σ String) :
    Render σ String := do
  let text ← body
  env.within (Mapping.singleton Tag.regionName (.string text)) do
    return (← Render.ofExcept (chain.resolve (← Render.scopes))).print

/-- The scope in which a block finds the text that it replaces. -/
def superScope (text : String) : Scope :=
  Mapping.singleton "block" (Value.ofMapping (Mapping.singleton "super" (.string text)))

/-- A block that replaces another one, whose text is `body`. That text is rendered only
if it is mentioned, and blocks that wait still wait afterwards. -/
def renderReplacement (replacement : Block Node) (body rendered : Render σ String) :
    Render σ String := do
  if replacement.usesSuper then
    let waiting ← Render.overrides
    let text ← body.outcome
    Render.setOverrides waiting
    env.within (superScope (← Render.ofExcept text)) rendered
  else env.within Mapping.empty rendered

/-- A template that is loaded, as the parent of blocks. -/
def renderParent (parent : Variable) (blocks : List (String × Block Node))
    (deeper : List Node → Render σ String) : Render σ String := do
  let template ← env.loadNamed parent
  let before ← Render.overrides
  Render.setOverrides (some ((before.getD Mapping.empty).merge blocks))
  let text ← (env.within Mapping.empty (deeper template.nodes)).outcome
  if before.isNone then Render.setOverrides none
  Render.ofExcept text

/-- A template that is loaded, in a scope of its own. -/
def renderEmbedded (name : Variable) (bindings : Option Variable)
    (deeper : List Node → Render σ String) : Render σ String := do
  let template ← env.loadNamed name
  let scope ← scopeOf bindings
  env.within scope (deeper template.nodes)

mutual

/-- A node, where `deeper` renders what leads out of the tree. -/
def renderNode (deeper : List Node → Render σ String) : Node → Render σ String
  | .text contents => return contents
  | .output operand => return (← env.resolve operand).print
  | .loop names source condition body empty =>
    env.renderLoop names source condition (renderNodes deeper body)
      (renderNodes deeper empty)
  | .choice branches => renderBranches deeper branches
  | .block block => renderBlock deeper block
  | .inherit parent blocks => env.renderParent parent blocks deeper
  | .embed name bindings => env.renderEmbedded name bindings deeper
  | .filtered chain body => env.renderFiltered chain (renderNodes deeper body)
  | .now format => env.renderNow format
  | .custom action => renderAction deeper action

/-- A block, or the block that waits to replace it. -/
def renderBlock (deeper : List Node → Render σ String) : Block Node → Render σ String
  | ⟨name, _, body⟩ => do
    match ← Render.takeOverride name with
    | none => renderNodes deeper body
    | some replacement =>
      env.renderReplacement replacement (renderNodes deeper body)
        (deeper [.block replacement])

/-- Nodes, one after the other. -/
def renderNodes (deeper : List Node → Render σ String) : List Node → Render σ String
  | [] => return ""
  | node :: rest => do
    let text ← renderNode deeper node
    return text ++ (← renderNodes deeper rest)

/-- The first branch whose condition holds. -/
def renderBranches (deeper : List Node → Render σ String) :
    List (Branch Node) → Render σ String
  | [] => return ""
  | ⟨condition, body⟩ :: rest => do
    if ← env.test condition then env.within Mapping.empty (renderNodes deeper body)
    else renderBranches deeper rest

/-- The program of an application's own tag. -/
def renderAction (deeper : List Node → Render σ String) : Action → Render σ String
  | .done text => return text
  | .fail error => throw error
  | .inspect next => do renderAction deeper (next (← Render.scopes))
  | .set name value next => do
    Render.set name value
    renderAction deeper next
  | .within scope inner next => do
    renderAction deeper (next
      (← (env.within scope (renderAction deeper inner)).outcome))
  | .nodes body next => do
    renderAction deeper (next (← (renderNodes deeper body).outcome))

end

/-- Nodes, with a number of layers for what leads out of their tree. -/
def renderLayered : Nat → List Node → Render σ String
  | 0 => env.renderNodes fun _ => throw (.tooDeep env.maxDepth)
  | layers + 1 => env.renderNodes (renderLayered layers)

/-- Renders nodes in a context. -/
def render (nodes : List Node) : Render σ String :=
  env.renderLayered (env.maxDepth + 1) nodes

/-- Renders a template in a new context. -/
def renderTemplate (template : Template) (data : Mapping Value) :
    Session σ String := fun shelf =>
  match env.render template.nodes ⟨[data], none, shelf⟩ with
  | .ok text after => .ok text after.shelf
  | .error error after => .error error after.shelf

/-- Loads a template and renders it. -/
def renderNamed (name : String) (data : Mapping Value) : Session σ String := do
  env.renderTemplate (← env.load name) data

/-- Parses a source and renders it. -/
def renderText (source : String) (data : Mapping Value) : Session σ String := do
  env.renderTemplate (← Session.ofExcept (env.parseTemplate source)) data

end Environment

end TextTemplate
