import TextTemplate.Decimal.Layout
import TextTemplate.Json.Basic
import TextTemplate.Text.Numeral
import TextTemplate.Value.Basic

/-!
# Values as JSON documents

Every value has a document: sequences become arrays, mappings and records become
objects, a record with all its fields in order. Read back, an object becomes a mapping
in which the last member of a name counts, and whole numbers beyond 64 bits become
floating-point numbers. Numbers that a document cannot hold become null, hence nil.
-/

namespace TextTemplate.Value

mutual

/-- The document of a value. -/
def toJson : Value → Json
  | nil => .null
  | bool truth => .bool truth
  | int number => .integer number.toInt
  | float number => if Decimal.isFinite number then .decimal number else .null
  | string text => .string text
  | sequence items => .array (itemsToJson items)
  | mapping entries => .object (fieldsToJson entries)
  | record _ _ lineage => .object (lineageToJson lineage)

/-- The documents of items. -/
def itemsToJson : List Value → List Json
  | [] => []
  | item :: rest => toJson item :: itemsToJson rest

/-- The members for named values. -/
def fieldsToJson : List (String × Value) → List (String × Json)
  | [] => []
  | (name, value) :: rest => (name, toJson value) :: fieldsToJson rest

/-- The members for the fields of all generations. -/
def lineageToJson : List (List (String × Value)) → List (String × Json)
  | [] => []
  | generation :: rest => fieldsToJson generation ++ lineageToJson rest

end

/-- A whole number of a document: exact within 64 bits. -/
def ofInteger (number : Int) : Value :=
  if Text.isInt64 number then int (Int64.ofInt number)
  else float (Float.ofInt number)

mutual

/-- The value of a document. -/
def ofJson : Json → Value
  | .null => nil
  | .bool truth => bool truth
  | .integer number => ofInteger number
  | .decimal number => float number
  | .string text => string text
  | .array items => sequence (itemsOfJson items)
  | .object members => mapping (Entries.ofList (membersOfJson members))

/-- The values of items. -/
def itemsOfJson : List Json → List Value
  | [] => []
  | item :: rest => ofJson item :: itemsOfJson rest

/-- The values of members, in their order. -/
def membersOfJson : List (String × Json) → List (String × Value)
  | [] => []
  | (name, document) :: rest => (name, ofJson document) :: membersOfJson rest

end

/-- The value that comes back after a trip through a document. -/
def reserialized (value : Value) : Value :=
  ofJson value.toJson

end TextTemplate.Value
