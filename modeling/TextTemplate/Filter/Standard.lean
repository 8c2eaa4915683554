import TextTemplate.Filter.Basic
import TextTemplate.Text.Case
import TextTemplate.Text.Cluster
import TextTemplate.Text.Division

/-!
# The standard filters

The filters that every environment knows. Those that work on text take the printed form
of their value, so nil counts as the empty text and a number as its digits; `join` and
`split` leave values of other kinds as they are.
-/

namespace TextTemplate.Filter

open TextTemplate.Text

/-- The value, or the first argument that is not nil when the value is. -/
def fallback (value : Value) (arguments : List Value) : Except Error Value :=
  .ok (if value.isNil then (arguments.find? fun argument => !argument.isNil).getD .nil
    else value)

/-- The first user-perceived character in capital form and the rest in small form. -/
def capitalizeText (text : String) : String :=
  let (first, rest) := cutCluster text.toList
  String.ofList (upperChars first ++ lowerChars rest)

/-- Capitalizes the printed form. -/
def capitalize (value : Value) : Except Error Value :=
  .ok (.string (capitalizeText value.print))

/-- The printed form in capital letters. -/
def uppercase (value : Value) : Except Error Value :=
  .ok (.string (upper value.print))

/-- The printed form in small letters. -/
def lowercase (value : Value) : Except Error Value :=
  .ok (.string (lower value.print))

/-- The printed form of a single optional argument. -/
def separatorOf (filter standard : String) (arguments : List Value) :
    Except Error String :=
  match arguments with
  | [] => .ok standard
  | [argument] => .ok argument.print
  | _ => .error (.fault (.singleArgument filter))

/-- The printed forms of a sequence's items with a separator between them. -/
def join (value : Value) (arguments : List Value) : Except Error Value := do
  let separator ← separatorOf "join" "" arguments
  match value with
  | .sequence items => return .string (separator.intercalate (items.map Value.print))
  | other => return other

/-- The pieces of a text between the occurrences of a separator; the empty separator
does not divide. -/
def split (value : Value) (arguments : List Value) : Except Error Value := do
  let separator ← separatorOf "split" " " arguments
  match value with
  | .string text =>
    if separator.isEmpty then return .sequence [.string text]
    else return .sequence ((divideText separator text).map Value.string)
  | other => return other

/-- Lines with an indentation put before each one that is not empty; whether the first
line gets it is decided by the flag alone. -/
def indentLines (indentation : List Char) (first : Bool) (lines : List (List Char)) :
    List (List Char) :=
  match lines with
  | [] => []
  | line :: rest =>
    (if first then indentation ++ line else line) ::
      rest.map fun line => if line.isEmpty then line else indentation ++ line

/-- A number of copies of a unit, one after the other. Nothing copied gives nothing,
however often. -/
def copies (count : Nat) (unit : List Char) : List Char :=
  if unit.isEmpty then [] else (List.replicate count unit).flatten

/-- A text with its lines indented by a number of copies of a unit. -/
def indentText (text : String) (width : Nat) (unit : String) (first : Bool) : String :=
  let indentation := copies width unit.toList
  if indentation.isEmpty then text
  else
    String.ofList
      (['\n'].intercalate (indentLines indentation first (divide ['\n'] text.toList)))

/-- How far to indent: four by default, and not at all for a negative number. -/
def indentWidth : Option Value → Except Error Nat
  | none => .ok 4
  | some (.int width) => .ok width.toInt.toNat
  | some other => .error (.fault (.indentWidth other.print))

/-- What to indent by: a blank by default. -/
def indentUnit : Option Value → Except Error String
  | none => .ok " "
  | some (.string unit) => .ok unit
  | some other => .error (.fault (.indentUnit other.print))

/-- Whether to indent the first line: not by default. -/
def indentFirst : Option Value → Except Error Bool
  | none => .ok false
  | some (.bool flag) => .ok flag
  | some other => .error (.fault (.indentFirst other.print))

/-- Indents the lines of the printed form. -/
def indent (value : Value) (arguments : List Value) : Except Error Value := do
  if 3 < arguments.length then throw (.fault .indentArguments)
  let width ← indentWidth arguments[0]?
  let unit ← indentUnit arguments[1]?
  let first ← indentFirst arguments[2]?
  return .string (indentText value.print width unit first)

/-- The standard filters and their names. -/
def standard : List (String × Filter) :=
  [("default", withArguments fallback),
   ("capitalize", plain capitalize),
   ("uppercase", plain uppercase),
   ("lowercase", plain lowercase),
   ("join", withArguments join),
   ("split", withArguments split),
   ("indent", withArguments indent)]

end TextTemplate.Filter
