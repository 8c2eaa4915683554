import TextTemplate.Json.Writer
import TextTemplate.Reading
import TextTemplate.Value.Printing

/-!
# Stock tags

Tags that applications often register under names of their own: constant text, views of
the scopes, bindings, and a region between brackets.
-/

namespace TextTemplate

namespace Action

/-- Prints the value of a name. -/
def printName (name : String) : Action :=
  reading fun scopes =>
    .ok (match scopes.get? name with
      | some value => value.print
      | none => "<absent>")

/-- Prints all visible names as a mapping. -/
def printAll : Action :=
  reading fun scopes => .ok (Value.ofMapping scopes.flatten).print

/-- Prints the number of open scopes. -/
def printDepth : Action :=
  reading fun scopes => .ok (toString scopes.length)

/-- Fails. -/
def failing (text : String) : Action :=
  fail (.reported text)

/-- Binds a name in the innermost scope and prints nothing. -/
def bindName (name : String) (value : Value) : Action :=
  set name value (done "")

/-- Renders a body between angle brackets. -/
def bracketed (body : List Node) : Action :=
  nodes body fun outcome => ofExcept (outcome.map fun text => "<" ++ text ++ ">")

end Action

namespace Tag

/-- Prints the components of the opening token as a JSON array. -/
def readComponents : TagReader := fun _ token =>
  pure (.custom (.done (Json.compact (.array (token.components.map Json.string)))))

/-- Reads a body up to its own closing block and renders it between angle brackets. -/
def readBracketed (name : String) : TagReader := fun _ _ => do
  let body ← Reading.bodyUntil ["end" ++ name]
  let _ ← Reading.close ("end" ++ name)
  return .custom (.bracketed body)

end Tag

end TextTemplate
