import TextTemplate.Error
import TextTemplate.Scope
import TextTemplate.Value.Printing

/-!
# Iteration

What a loop goes through and what it binds on the way. Mappings and records give pairs
of a name and a value. A single loop variable takes the whole item; several take its
parts in order, and there must be one for each of them.
-/

namespace TextTemplate

namespace Iteration

/-- A name and a value as a tuple. -/
def pairUp (entry : String × Value) : Value :=
  (Tuple.ofValues [.string entry.1, entry.2]).toValue

/-- The items that a loop over a value visits. -/
def items : Value → List Value
  | .sequence items => items
  | .mapping entries => entries.map pairUp
  | .record _ _ lineage => (Lineage.fields lineage).map pairUp
  | _ => []

/-- The scope that binds the loop variables to an item. -/
def bindings (names : List String) (item : Value) : Except Error Scope :=
  match names with
  | [] => .ok Mapping.empty
  | [single] => .ok (Mapping.singleton single item)
  | several =>
    if item.parts.length < several.length then .error (.fault (.tooFewParts item.print))
    else .ok (Mapping.ofList (several.zip item.parts))

/-- What a loop tells its body about the item at a position. -/
def status (index length : Nat) : Mapping Value :=
  Mapping.ofList
    [("first", .bool (index == 0)),
     ("last", .bool (index + 1 == length)),
     ("counter", Value.ofNat (index + 1)),
     ("counter0", Value.ofNat index),
     ("length", Value.ofNat length)]

/-- The scope of an iteration, outside the scope of the loop variables. -/
def statusScope (index length : Nat) : Scope :=
  Mapping.singleton "forloop" (Value.ofMapping (status index length))

end Iteration

end TextTemplate
