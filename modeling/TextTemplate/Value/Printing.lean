import TextTemplate.Decimal.Layout
import TextTemplate.Text.Numeral
import TextTemplate.Text.Quoted
import TextTemplate.Value.Basic

/-!
# The printed form of values

An output tag shows a value in its printed form. On its own, nil prints as nothing and
a text as it stands; inside a container nil is spelled out and texts are quoted.
Sequences and mappings stand in brackets, records in parentheses after their type
name, and the elements of a positional record show their labels only where they are
not plain positions.
-/

namespace TextTemplate.Value

open TextTemplate.Text

/-- Items separated by commas. -/
def commaSeparated (items : List String) : String :=
  ", ".intercalate items

/-- A named value inside a record. -/
def labelled (positional : Bool) (label text : String) : String :=
  if positional && (readPosition label).isSome then text else label ++ ": " ++ text

mutual

/-- The printed form, on its own or inside a container. -/
def spell (inside : Bool) : Value → String
  | nil => if inside then "nil" else ""
  | bool truth => if truth then "true" else "false"
  | int number => toString number.toInt
  | float number => Decimal.print number
  | string text => if inside then quoted text else text
  | sequence items => "[" ++ commaSeparated (spellItems items) ++ "]"
  | mapping [] => "[:]"
  | mapping (entry :: rest) =>
    "[" ++ commaSeparated (spellEntries (entry :: rest)) ++ "]"
  | record name positional lineage =>
    (if positional then "" else name) ++ "(" ++
      commaSeparated (spellLineage positional lineage) ++ ")"

/-- The items of a sequence. -/
def spellItems : List Value → List String
  | [] => []
  | item :: rest => spell true item :: spellItems rest

/-- The entries of a mapping. -/
def spellEntries : List (String × Value) → List String
  | [] => []
  | (key, value) :: rest =>
    (quoted key ++ ": " ++ spell true value) :: spellEntries rest

/-- The fields of one generation of a record. -/
def spellFields (positional : Bool) : List (String × Value) → List String
  | [] => []
  | (label, value) :: rest =>
    labelled positional label (spell true value) :: spellFields positional rest

/-- The fields of all generations of a record. -/
def spellLineage (positional : Bool) : List (List (String × Value)) → List String
  | [] => []
  | generation :: rest =>
    spellFields positional generation ++ spellLineage positional rest

end

/-- The printed form of a value. -/
def print (value : Value) : String :=
  spell false value

/-- How messages show an offending value: nil by name. -/
def describe (value : Value) : String :=
  if value.isNil then "nil" else value.print

end TextTemplate.Value
