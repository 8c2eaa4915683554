import TextTemplate.Decimal.Reading
import TextTemplate.Scope
import TextTemplate.Text.Division
import TextTemplate.Value.Lookup

/-!
# Variables

The smallest expressions: literals and dotted paths. Text in quotes is a text, `true`
and `false` are truth values, and what looks like a number is one; everything else is a
path, whose first segment is a name of the scopes and whose further segments look into
the value found so far. A path that leads nowhere gives nil.
-/

namespace TextTemplate

open TextTemplate.Text

/-- What a variable stands for. -/
inductive VariableKind where
  | literal (value : Value)
  | path (segments : List String)

/-- A literal or a path, with the text that wrote it. -/
structure Variable where
  source : String
  kind : VariableKind

namespace Variable

/-- The characters between a quote at the start and the same quote at the end. -/
def unquote? (quote : Char) (cs : List Char) : Option (List Char) :=
  match cs with
  | first :: rest =>
    if first == quote && rest.getLast? == some quote then some rest.dropLast else none
  | [] => none

/-- Whether a character can stand in a number. -/
def isNumeric (c : Char) : Bool :=
  c.isDigit || c == '.' || c == '-' || c == '+' || c == 'e' || c == 'E'

/-- The number that a text of numeric characters writes. Words such as `inf` are
names. -/
def number? (source : String) : Option Value :=
  match readInt64 source with
  | some number => some (.int number)
  | none =>
    if source.toList.all isNumeric && source.toList.any Char.isDigit then
      (Decimal.readFloat source).map Value.float
    else none

/-- The value of a literal. -/
def literal? (source : String) : Option Value :=
  match unquote? '\'' source.toList <|> unquote? '"' source.toList with
  | some text => some (.string (String.ofList text))
  | none =>
    if source = "true" then some (.bool true)
    else if source = "false" then some (.bool false)
    else number? source

/-- The segments of a path between its dots. -/
def segments (source : String) : List String :=
  divideText "." source

/-- The variable that a text writes. -/
def ofString (source : String) : Variable :=
  match literal? source with
  | some value => ⟨source, .literal value⟩
  | none => ⟨source, .path (segments source)⟩

/-- What further segments find, one inside the other, in a value. -/
def descend (value : Value) : List String → Value
  | [] => value
  | segment :: rest =>
    match value.lookup segment with
    | some found => descend found rest
    | none => .nil

/-- The value of a path. -/
def resolvePath (scopes : Scopes) : List String → Value
  | [] => .nil
  | name :: rest =>
    match scopes.get? name with
    | some value => descend value rest
    | none => .nil

/-- The value of a variable. -/
def resolve (v : Variable) (scopes : Scopes) : Value :=
  match v.kind with
  | .literal value => value
  | .path segments => resolvePath scopes segments

end Variable

end TextTemplate
