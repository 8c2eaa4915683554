import TextTemplate.Value.Basic

/-!
# Equality and order of values

Values of one kind are equal when their contents are; a whole number equals a
floating-point number of the same size. Records are equal when their type names and all
their fields agree, inherited fields included, wherever in the lineage a field stands.
Two whole numbers are compared exactly, any other two numbers as floating-point numbers,
and two texts by their characters; nothing else has an order.
-/

namespace TextTemplate.Value

/-- Whether two numbers of any kind are equal. -/
def sameNumber (a b : Value) : Bool :=
  match a.asFloat?, b.asFloat? with
  | some x, some y => x == y
  | _, _ => false

mutual

/-- Equality as conditions see it. -/
def same : Value → Value → Bool
  | nil, nil => true
  | bool a, bool b => a == b
  | int a, int b => a == b
  | string a, string b => a == b
  | sequence a, sequence b => sameItems a b
  | mapping a, mapping b => sameFields a b
  | record nameA _ lineageA, record nameB _ lineageB =>
    nameA == nameB && sameLineage lineageA (Lineage.fields lineageB)
  | float a, b => sameNumber (float a) b
  | int a, b => sameNumber (int a) b
  | _, _ => false
termination_by structural value => value

/-- Equality of sequences, item by item. -/
def sameItems : List Value → List Value → Bool
  | [], [] => true
  | a :: restA, b :: restB => same a b && sameItems restA restB
  | _, _ => false
termination_by structural items => items

/-- Equality of named values in order. -/
def sameFields : List (String × Value) → List (String × Value) → Bool
  | [], [] => true
  | (nameA, a) :: restA, (nameB, b) :: restB =>
    nameA == nameB && same a b && sameFields restA restB
  | _, _ => false
termination_by structural fields => fields

/-- Takes fields equal to the given ones off the front of a list. -/
def takeFields :
    List (String × Value) → List (String × Value) → Option (List (String × Value))
  | [], others => some others
  | (nameA, a) :: restA, (nameB, b) :: restB =>
    if nameA == nameB && same a b then takeFields restA restB else none
  | _, _ => none
termination_by structural fields => fields

/-- Whether the fields of all generations, one generation after the other, equal the
given fields. -/
def sameLineage : List (List (String × Value)) → List (String × Value) → Bool
  | [], others => others.isEmpty
  | generation :: rest, others =>
    match takeFields generation others with
    | some remaining => sameLineage rest remaining
    | none => false
termination_by structural lineage => lineage

end

instance : BEq Value := ⟨same⟩

/-- The order of two floating-point numbers, if they have one. -/
def compareFloats (x y : Float) : Option Ordering :=
  if x < y then some .lt
  else if x == y then some .eq
  else if y < x then some .gt
  else none

/-- The order of two values, if they have one. -/
def compare? : Value → Value → Option Ordering
  | int a, int b => some (compare a b)
  | string a, string b => some (compare a b)
  | a, b =>
    match a.asFloat?, b.asFloat? with
    | some x, some y => compareFloats x y
    | _, _ => none

end TextTemplate.Value

namespace TextTemplate.Tuple

/-- Whether two lists of elements agree in labels and values. -/
def sameElements : List (Option String × Value) → List (Option String × Value) → Bool
  | [], [] => true
  | (labelA, a) :: restA, (labelB, b) :: restB =>
    labelA == labelB && a == b && sameElements restA restB
  | _, _ => false

instance : BEq Tuple := ⟨fun a b => sameElements a.elements b.elements⟩

end TextTemplate.Tuple
