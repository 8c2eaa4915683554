import TextTemplate.Mapping
import TextTemplate.Text.Numeral

/-!
# Template values

The values that templates look up, compare, filter and print. A value is nil (nothing
there), a truth value, a whole or a floating-point number, a text, a sequence, a
mapping, or a record. A record is an application's own structure: it has a type name and
fields in the order of their declaration, and it may inherit further fields. Its
`lineage` lists its own fields first, then those of each ancestor in turn, so a name may
occur more than once and the nearest occurrence counts. A positional record is read by
position and printed without its type name; `Tuple` is the general one.
-/

namespace TextTemplate

/-- A value. The entries of a mapping ascend by name (see `Value.WellFormed`). -/
inductive Value where
  | nil
  | bool (truth : Bool)
  | int (number : Int64)
  | float (number : Float)
  | string (text : String)
  | sequence (items : List Value)
  | mapping (entries : List (String × Value))
  | record (typeName : String) (positional : Bool)
      (lineage : List (List (String × Value)))
  deriving Inhabited

/-- The named values of one generation of a record. -/
abbrev Fields := List (String × Value)

/-- The generations of a record: its own fields, then each ancestor's. -/
abbrev Lineage := List Fields

namespace Lineage

/-- The record's own fields. -/
def own (lineage : Lineage) : Fields :=
  lineage.headD []

/-- All fields, nearest generation first; a name that several generations declare is
kept each time. -/
def fields (lineage : Lineage) : Fields :=
  lineage.flatten

/-- The value of a name: searched among the record's own fields, then in each ancestor
in turn. -/
def field? (name : String) : Lineage → Option Value
  | [] => none
  | generation :: ancestors =>
    match Entries.get? generation name with
    | some value => some value
    | none => field? name ancestors

end Lineage

namespace Value

/-- A mapping value with the entries of a mapping. -/
def ofMapping (mapping : Mapping Value) : Value :=
  .mapping mapping.entries

/-! ## Views -/

/-- Whether the value is nil. -/
def isNil : Value → Bool
  | nil => true
  | _ => false

/-- The truth value, if it is one. -/
def asBool? : Value → Option Bool
  | bool truth => some truth
  | _ => none

/-- The whole number, if it is one. -/
def asInt? : Value → Option Int64
  | int number => some number
  | _ => none

/-- The number as a floating-point number, if the value is a number of either kind. -/
def asFloat? : Value → Option Float
  | int number => some number.toFloat
  | float number => some number
  | _ => none

/-- The text, if it is one. -/
def asString? : Value → Option String
  | string text => some text
  | _ => none

/-- The items, if the value is a sequence. -/
def asSequence? : Value → Option (List Value)
  | sequence items => some items
  | _ => none

/-- The entries, if the value is a mapping. -/
def asMapping? : Value → Option (Mapping Value)
  | mapping entries => some (Mapping.ofList entries)
  | _ => none

/-- The type name, if the value is a record. -/
def typeName? : Value → Option String
  | record name _ _ => some name
  | _ => none

/-- Whether a condition on the value holds: numbers must be positive, texts and
containers not empty, and records must have a field. -/
def isTruthy : Value → Bool
  | nil => false
  | bool truth => truth
  | int number => 0 < number
  | float number => 0.0 < number
  | string text => !text.isEmpty
  | sequence items => !items.isEmpty
  | mapping entries => !entries.isEmpty
  | record _ _ lineage => !(Lineage.fields lineage).isEmpty

/-- The number of characters of a text or of members of a container. -/
def count? : Value → Option Nat
  | string text => some text.length
  | sequence items => some items.length
  | mapping entries => some entries.length
  | _ => none

/-- The first item of a sequence or character of a text. -/
def first? : Value → Option Value
  | sequence items => items.head?
  | string text => text.toList.head?.map fun c => string (String.singleton c)
  | _ => none

/-- The last item of a sequence or character of a text. -/
def last? : Value → Option Value
  | sequence items => items.getLast?
  | string text => text.toList.getLast?.map fun c => string (String.singleton c)
  | _ => none

/-- The parts that several loop variables take apart: the items of a sequence, the
fields of a record, and otherwise the value itself. -/
def parts : Value → List Value
  | sequence items => items
  | record _ _ lineage => (Lineage.fields lineage).map Prod.snd
  | value => [value]

/-! ## Conversions -/

/-- A count as a value. Counts beyond the whole numbers of 64 bits become
floating-point numbers. -/
def ofNat (n : Nat) : Value :=
  if Text.isInt64 n then int (Int64.ofNat n) else float n.toUInt64.toFloat

/-- The whole numbers from `first` up to but not including `stop`. -/
def ofRange (first stop : Int64) : Value :=
  sequence ((List.range (stop.toInt - first.toInt).toNat).map fun (offset : Nat) =>
    int (Int64.ofInt (first.toInt + offset)))

/-- The whole numbers from `first` through `last`. -/
def ofClosedRange (first last : Int64) : Value :=
  sequence ((List.range (last.toInt - first.toInt + 1).toNat).map fun (offset : Nat) =>
    int (Int64.ofInt (first.toInt + offset)))

/-! ## Well-formed values -/

mutual

/-- The entries of every mapping within the value ascend by name. -/
def WellFormed : Value → Prop
  | nil => True
  | bool _ => True
  | int _ => True
  | float _ => True
  | string _ => True
  | sequence items => AllWellFormed items
  | mapping entries => Entries.Ascending entries ∧ FieldsWellFormed entries
  | record _ _ lineage => LineageWellFormed lineage

/-- Every item is well formed. -/
def AllWellFormed : List Value → Prop
  | [] => True
  | item :: rest => item.WellFormed ∧ AllWellFormed rest

/-- Every named value is well formed. -/
def FieldsWellFormed : List (String × Value) → Prop
  | [] => True
  | (_, value) :: rest => value.WellFormed ∧ FieldsWellFormed rest

/-- Every field of every generation is well formed. -/
def LineageWellFormed : List (List (String × Value)) → Prop
  | [] => True
  | generation :: rest => FieldsWellFormed generation ∧ LineageWellFormed rest

end

end Value

/-! ## Tuples -/

/-- A positional group of values, each with an optional label. -/
structure Tuple where
  elements : List (Option String × Value)
  deriving Inhabited

namespace Tuple

/-- A tuple without labels. -/
def ofValues (values : List Value) : Tuple :=
  ⟨values.map fun value => (none, value)⟩

/-- A tuple whose elements can be addressed by label too. -/
def ofLabelled (pairs : List (String × Value)) : Tuple :=
  ⟨pairs.map fun pair => (some pair.1, pair.2)⟩

/-- The number of elements. -/
def size (tuple : Tuple) : Nat :=
  tuple.elements.length

/-- The element at a position. -/
def get? (tuple : Tuple) (index : Nat) : Option Value :=
  (tuple.elements[index]?).map Prod.snd

/-- The fields of the tuple as a record: an element without a label is named by
its position. -/
def fieldsFrom (position : Nat) : List (Option String × Value) → Fields
  | [] => []
  | (label, value) :: rest =>
    (label.getD (toString position), value) :: fieldsFrom (position + 1) rest

/-- The fields of the tuple as a record. -/
def fields (tuple : Tuple) : Fields :=
  fieldsFrom 0 tuple.elements

/-- The tuple as a value. -/
def toValue (tuple : Tuple) : Value :=
  .record "Tuple" true [tuple.fields]

end Tuple

end TextTemplate
