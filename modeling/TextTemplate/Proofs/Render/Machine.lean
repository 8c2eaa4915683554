import TextTemplate.Proofs.Render.Outcome

/-!
# Rendering step by step

`Environment.render` is defined in layers and gives its result at once. Neither whether
an unlayered rendering would end nor how many scopes are open in the middle of it can be
read off such a definition. This module describes the same rendering as a machine that
does one thing at a time: it looks at the context, binds a name, asks for a template,
opens a scope or takes one off. A template that is found on the way is entered by a step
of its own, for as often as it is found; nothing bounds the number of steps.

What is left to do is a `Errand`. Trees are turned into errands once and for all, by
recursion on the tree: a `Plan` is a computation that is waiting to be told how to go on
with its outcome. That the machine renders what `Environment.render` renders is proved
in `TextTemplate.Proofs.Render.Halting`.
-/

namespace TextTemplate

/-- What is left to do of a rendering. -/
inductive Errand (σ : Type) where
  /-- Nothing is left. -/
  | halt (outcome : Except Error String)
  /-- Looks at the context. -/
  | look (next : Context σ → Errand σ)
  /-- Binds a name in the innermost scope. -/
  | bindName (name : String) (value : Value) (next : Errand σ)
  /-- Replaces the blocks that wait. -/
  | setWaiting (overrides : Option Overrides) (next : Errand σ)
  /-- Asks for a template. -/
  | load (name : String) (next : Except Error Template → Errand σ)
  /-- Opens a scope, unless as many are open as the environment allows. -/
  | enter (scope : Scope) (next : Except Error Unit → Errand σ)
  /-- Takes the innermost scope off. -/
  | leave (next : Errand σ)
  /-- Renders nodes that have been found only now. -/
  | visit (nodes : List Node) (next : Except Error String → Errand σ)

/-- A computation by steps: an errand for every way to go on with the outcome. -/
def Plan (σ α : Type) := (Except Error α → Errand σ) → Errand σ

namespace Plan

variable {σ α : Type}

/-- How to go on with an outcome: by the plan for its value, and past that plan with
an error. -/
def goOn {β : Type} (rest : α → Plan σ β) (next : Except Error β → Errand σ) :
    Except Error α → Errand σ
  | .ok value => rest value next
  | .error error => next (.error error)

instance : Monad (Plan σ) where
  pure value := fun next => next (.ok value)
  bind first rest := fun next => first (goOn rest next)

/-- The result of a computation that only looks at the context. -/
def observe (computation : Render σ α) : Plan σ α := fun next =>
  .look fun context => next (computation.result context)

/-- The outcome of a plan, whether it fails or not. -/
def outcome (plan : Plan σ α) : Plan σ (Except Error α) := fun next =>
  plan fun result => next (.ok result)

/-- Binds a name in the innermost scope. -/
def set (name : String) (value : Value) : Plan σ Unit := fun next =>
  .bindName name value (next (.ok ()))

/-- Replaces the blocks that wait. -/
def setOverrides (overrides : Option Overrides) : Plan σ Unit := fun next =>
  .setWaiting overrides (next (.ok ()))

/-- Takes the block that waits for a name. -/
def takeOverride (name : String) : Plan σ (Option (Block Node)) := do
  let before ← observe Render.overrides
  setOverrides (before.map fun waiting => waiting.erase name)
  return before.bind fun waiting => waiting.get? name

/-- Asks for a template. -/
def load (name : String) : Plan σ Template := fun next => .load name next

/-- Runs a plan in a new scope, which is taken off again however the plan ends. -/
def within (scope : Scope) (body : Plan σ α) : Plan σ α := fun next =>
  .enter scope fun
    | .ok _ => body fun outcome => .leave (next outcome)
    | .error error => next (.error error)

/-- Renders nodes that have been found only now. -/
def visit (nodes : List Node) : Plan σ String := fun next => .visit nodes next

/-- The texts of plans, one after the other, behind a text. -/
def joinTexts (text : String) : List (Plan σ String) → Plan σ String
  | [] => return text
  | first :: rest => do joinTexts (text ++ (← first)) rest

/-- The items that a plan accepts, behind items given last one first. -/
def select (accept : α → Plan σ Bool) (accepted : List α) : List α → Plan σ (List α)
  | [] => return accepted.reverse
  | item :: rest => do
    if ← accept item then select accept (item :: accepted) rest
    else select accept accepted rest

end Plan

namespace Environment

variable {σ : Type} (env : Environment σ)

/-! ## Trees as plans -/

/-- The template whose name an operand gives. -/
def planLoad (name : Variable) : Plan σ Template := do
  match name.resolve (← Plan.observe Render.scopes) with
  | .string text => Plan.load text
  | _ => Plan.observe (throw (.fault (.nameNotText name.source)))

/-- Whether the condition of a loop holds for an item. -/
def planAccepts (names : List String) (condition : Option Condition) (item : Value) :
    Plan σ Bool := do
  let scope ← Plan.observe (Render.ofExcept (Iteration.bindings names item))
  Plan.within scope (Plan.observe (env.test condition))

/-- The items of a loop for which its condition holds. -/
def planAccepted (names : List String) (condition : Option Condition)
    (items : List Value) :
    Plan σ (List Value) :=
  match condition with
  | none => return items
  | some condition => Plan.select (env.planAccepts names (some condition)) [] items

/-- The body of a loop for one item. -/
def planItem (names : List String) (length : Nat) (body : Plan σ String)
    (item : Value × Nat) :
    Plan σ String := do
  let scope ← Plan.observe (Render.ofExcept (Iteration.bindings names item.1))
  Plan.within (Iteration.statusScope item.2 length) (Plan.within scope body)

/-- A loop. -/
def planLoop (names : List String) (source : Operand) (condition : Option Condition)
    (body empty : Plan σ String) : Plan σ String := do
  let value ← Plan.observe (env.resolve source)
  let items ← env.planAccepted names condition (Iteration.items value)
  if items.isEmpty then Plan.within Mapping.empty empty
  else Plan.joinTexts "" (items.zipIdx.map (planItem names items.length body))

/-- The text of a body through a filter chain. -/
def planFiltered (chain : FilterChain) (body : Plan σ String) : Plan σ String := do
  let text ← body
  Plan.within (Mapping.singleton Tag.regionName (.string text)) do
    let scopes ← Plan.observe Render.scopes
    return (← Plan.observe (Render.ofExcept (chain.resolve scopes))).print

/-- A block that replaces another one, whose text is `body`. -/
def planReplacement (replacement : Block Node) (body : Plan σ String) :
    Plan σ String := do
  if replacement.usesSuper then
    let waiting ← Plan.observe Render.overrides
    let text ← body.outcome
    Plan.setOverrides waiting
    Plan.within (superScope (← Plan.observe (Render.ofExcept text)))
      (Plan.visit [.block replacement])
  else Plan.within Mapping.empty (Plan.visit [.block replacement])

/-- A template that is loaded, as the parent of blocks. -/
def planParent (parent : Variable) (blocks : List (String × Block Node)) :
    Plan σ String := do
  let template ← planLoad parent
  let before ← Plan.observe Render.overrides
  Plan.setOverrides (some ((before.getD Mapping.empty).merge blocks))
  let text ← (Plan.within Mapping.empty (Plan.visit template.nodes)).outcome
  if before.isNone then Plan.setOverrides none
  Plan.observe (Render.ofExcept text)

/-- A template that is loaded, in a scope of its own. -/
def planEmbedded (name : Variable) (bindings : Option Variable) : Plan σ String := do
  let template ← planLoad name
  let scope ← Plan.observe (scopeOf bindings)
  Plan.within scope (Plan.visit template.nodes)

mutual

/-- A node. -/
def planNode : Node → Plan σ String
  | .text contents => return contents
  | .output operand => return (← Plan.observe (env.resolve operand)).print
  | .loop names source condition body empty =>
    env.planLoop names source condition (planNodes body) (planNodes empty)
  | .choice branches => planBranches branches
  | .block block => planBlock block
  | .inherit parent blocks => planParent parent blocks
  | .embed name bindings => planEmbedded name bindings
  | .filtered chain body => planFiltered chain (planNodes body)
  | .now format => Plan.observe (env.renderNow format)
  | .custom action => planAction action

/-- A block, or the block that waits to replace it. -/
def planBlock : Block Node → Plan σ String
  | ⟨name, _, body⟩ => do
    match ← Plan.takeOverride name with
    | none => planNodes body
    | some replacement => planReplacement replacement (planNodes body)

/-- Nodes, one after the other. -/
def planNodes : List Node → Plan σ String
  | [] => return ""
  | node :: rest => do
    let text ← planNode node
    return text ++ (← planNodes rest)

/-- The first branch whose condition holds. -/
def planBranches : List (Branch Node) → Plan σ String
  | [] => return ""
  | ⟨condition, body⟩ :: rest => do
    if ← Plan.observe (env.test condition)
      then Plan.within Mapping.empty (planNodes body)
    else planBranches rest

/-- The program of an application's own tag. -/
def planAction : Action → Plan σ String
  | .done text => return text
  | .fail error => Plan.observe (throw error)
  | .inspect next => do planAction (next (← Plan.observe Render.scopes))
  | .set name value next => do
    Plan.set name value
    planAction next
  | .within scope inner next => do
    planAction (next (← (Plan.within scope (planAction inner)).outcome))
  | .nodes body next => do
    planAction (next (← (planNodes body).outcome))

end

end Environment

/-! ## The machine -/

/-- A rendering at one moment. -/
structure Machine (σ : Type) where
  context : Context σ
  errand : Errand σ

namespace Machine

/-- A rendering of nodes before its first step. -/
def start {σ : Type} (nodes : List Node) (context : Context σ) : Machine σ :=
  ⟨context, .visit nodes .halt⟩

/-- How many scopes are open. -/
def depth {σ : Type} (machine : Machine σ) : Nat :=
  machine.context.scopes.length

end Machine

namespace Environment

variable {σ : Type} (env : Environment σ)

/-- One step of a rendering. -/
def step : Machine σ → Machine σ
  | ⟨context, .halt outcome⟩ => ⟨context, .halt outcome⟩
  | ⟨context, .look next⟩ => ⟨context, next context⟩
  | ⟨context, .bindName name value next⟩ =>
    ⟨{ context with scopes := context.scopes.set name value }, next⟩
  | ⟨context, .setWaiting overrides next⟩ => ⟨{ context with overrides }, next⟩
  | ⟨context, .load name next⟩ =>
    match env.load name context.shelf with
    | .ok template shelf => ⟨{ context with shelf }, next (.ok template)⟩
    | .error error shelf => ⟨{ context with shelf }, next (.error error)⟩
  | ⟨context, .enter scope next⟩ =>
    if env.maxDepth < context.scopes.length then
      ⟨context, next (.error (.tooDeep env.maxDepth))⟩
    else ⟨context.push scope, next (.ok ())⟩
  | ⟨context, .leave next⟩ => ⟨context.pop, next⟩
  | ⟨context, .visit nodes next⟩ => ⟨context, env.planNodes nodes next⟩

/-- A number of steps of a rendering. -/
def run : Nat → Machine σ → Machine σ
  | 0, machine => machine
  | steps + 1, machine => run steps (env.step machine)

end Environment

end TextTemplate
