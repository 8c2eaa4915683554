import TextTemplate.Reading
import TextTemplate.Text.Division

/-!
# Reading blocks and parents

A block is a named region up to its `endblock`. Whether it mentions what it replaces
is found out by looking ahead in the queue to the `endblock` that closes it, nested
blocks included.

`extends` reads the whole rest of the template. Of the nodes that it finds it keeps the
blocks, a later one in place of an earlier one of the same name.
-/

namespace TextTemplate.Tag

open TextTemplate.Text

/-- Whether an output or a block mentions the body that is replaced. -/
def mentionsSuper : Token → Bool
  | .output contents => occurs "block.super" contents
  | .block contents => occurs "block.super" contents
  | _ => false

/-- How many blocks are open behind a token, when `depth` are before it; none when the
token closes the region. -/
def depthAfter (depth : Nat) (token : Token) : Option Nat :=
  match token with
  | .block _ =>
    if token.isNamed ["block"] then some (depth + 1)
    else if token.isNamed ["endblock"] then
      match depth with
      | 0 => none
      | outer + 1 => some outer
    else some depth
  | _ => some depth

/-- Whether a token before the closing `endblock` mentions the body that is replaced. -/
def superAhead (depth : Nat) : List Token → Bool
  | [] => false
  | token :: rest =>
    match depthAfter depth token with
    | none => false
    | some depth => mentionsSuper token || superAhead depth rest

/-- Reads a block. -/
def readBlock : TagReader := fun _ token => do
  match token.components with
  | [_, name] =>
    let usesSuper := superAhead 0 (← Reading.rest)
    let body ← Reading.bodyUntil ["endblock"]
    let _ ← Reading.close "endblock"
    return .block ⟨name, usesSuper, body⟩
  | _ => Reading.fault .blockUsage

/-- Whether a node names a parent. -/
def isInherit : Node → Bool
  | .inherit _ _ => true
  | _ => false

/-- The block that a node is, with its name. -/
def namedBlock? : Node → Option (String × Block Node)
  | .block block => some (block.name, block)
  | _ => none

/-- Reads the name of the parent and the rest of the template. -/
def readInherit : TagReader := fun _ token => do
  match token.components with
  | [_, parent] =>
    let nodes ← Reading.bodyUntil []
    if nodes.any isInherit then Reading.fault .repeatedExtends
    else
      return .inherit (Variable.ofString parent)
        (Entries.ofList (nodes.filterMap namedBlock?))
  | _ => Reading.fault .extendsUsage

end TextTemplate.Tag
