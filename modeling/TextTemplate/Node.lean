import TextTemplate.Condition.Basic

/-!
# Template trees

A parsed template is a list of nodes. Loops, choices, blocks and filtered regions hold
further lists of nodes; `inherit` and `embed` name other templates, which are found only
when the tree is rendered.

A tag of the application's own is an `Action`: a program that looks at the scopes,
binds names, opens scopes and renders nodes. Because it is a program and no function,
everything that it can do to the scopes is known: it takes every scope off again that
it opens.
-/

namespace TextTemplate

/-- A body that is rendered under a condition, or without one in any case. -/
structure Branch (ν : Type) where
  condition : Option Condition
  body : List ν

/-- A named region that derived templates may replace. -/
structure Block (ν : Type) where
  name : String
  /-- Whether the body mentions what it replaces. -/
  usesSuper : Bool
  body : List ν

mutual

/-- A node of a template. -/
inductive Node where
  /-- Literal text. -/
  | text (contents : String)
  /-- The printed form of a value. -/
  | output (operand : Operand)
  /-- A body for each item of a source for which the condition holds, or `empty` when
  there is none. -/
  | loop (names : List String) (source : Operand) (condition : Option Condition)
      (body empty : List Node)
  /-- The first branch whose condition holds. -/
  | choice (branches : List (Branch Node))
  /-- A block. -/
  | block (block : Block Node)
  /-- The parent template, with blocks that replace its own. -/
  | inherit (parent : Variable) (blocks : List (String × Block Node))
  /-- Another template in a scope of its own, with the entries of a mapping bound in
  it. -/
  | embed (template : Variable) (bindings : Option Variable)
  /-- A body whose text goes through filters. -/
  | filtered (chain : FilterChain) (body : List Node)
  /-- The current time in a format. -/
  | now (format : Option Variable)
  /-- A tag of the application's own. -/
  | custom (action : Action)

/-- What a tag of the application's own does when it is rendered. -/
inductive Action where
  /-- Gives the text that the tag renders to. -/
  | done (text : String)
  /-- Gives up. -/
  | fail (error : Error)
  /-- Looks at the scopes. -/
  | inspect (next : Scopes → Action)
  /-- Binds a name in the innermost scope. -/
  | set (name : String) (value : Value) (next : Action)
  /-- Runs an action in a new scope and goes on with its outcome. -/
  | within (scope : Scope) (inner : Action) (next : Except Error String → Action)
  /-- Renders nodes and goes on with the outcome. -/
  | nodes (body : List Node) (next : Except Error String → Action)

end

namespace Action

/-- The action that gives an outcome. -/
def ofExcept : Except Error String → Action
  | .ok text => done text
  | .error error => fail error

/-- The action that only reads the scopes. -/
def reading (handler : Scopes → Except Error String) : Action :=
  inspect fun scopes => ofExcept (handler scopes)

end Action

instance : Inhabited Node := ⟨.text ""⟩

/-- A parsed template, with the name it was loaded by. -/
structure Template where
  name : Option String
  nodes : List Node

end TextTemplate
