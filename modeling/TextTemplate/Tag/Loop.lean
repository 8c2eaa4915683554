import TextTemplate.Condition.Precedence
import TextTemplate.Reading
import TextTemplate.Text.Blank

/-!
# Reading loops

`for x, y in source where condition`, a body, an optional body behind `empty`, and
`endfor`. The source and the condition are compiled after the bodies, so a fault in a
body is reported first.
-/

namespace TextTemplate.Tag

open TextTemplate.Text

/-- The parts of the token that opens a loop. -/
structure LoopHeader where
  names : List String
  source : String
  condition : Option (List String)

namespace LoopHeader

/-- The names between commas. -/
def splitNames (text : String) : List String :=
  (divideText "," text).map trim

/-- The header that components write. -/
def ofComponents? : List String → Option LoopHeader
  | [_, names, "in", source] => some ⟨splitNames names, source, none⟩
  | _ :: names :: "in" :: source :: "where" :: first :: rest =>
    some ⟨splitNames names, source, some (first :: rest)⟩
  | _ => none

end LoopHeader

/-- The body behind `empty`, if the loop has one. -/
def readEmpty (terminator : Token) : Reading (List Node) := do
  if terminator.contents = "empty" then
    let body ← Reading.bodyUntil ["endfor"]
    let _ ← Reading.close "endfor"
    return body
  else return []

/-- The condition of a loop, if it has one. -/
def compileCondition (find : FilterFinder) (condition : Option (List String)) :
    Except Error (Option Condition) :=
  match condition with
  | some components => (Condition.parse find components).map some
  | none => .ok none

/-- Reads a loop. -/
def readLoop : TagReader := fun find token => do
  match LoopHeader.ofComponents? token.components with
  | none => Reading.fault .loopUsage
  | some header =>
    let body ← Reading.bodyUntil ["endfor", "empty"]
    let terminator ← Reading.close "endfor"
    let empty ← readEmpty terminator
    let source ← Reading.ofExcept (Operand.compile find header.source)
    let condition ← Reading.ofExcept (compileCondition find header.condition)
    return .loop header.names source condition body empty

end TextTemplate.Tag
