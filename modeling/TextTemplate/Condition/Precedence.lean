import TextTemplate.Condition.Basic

/-!
# Reading conditions

A condition is a row of components: operands, comparisons, `and`, `or` and `not`. From
the loosest to the tightest bind `or`, `and`, `not` and the comparisons, all infix
operators to the left. The reader climbs: it reads one operand and then takes operators
for as long as they bind tighter than the one that asked for the operand.
-/

namespace TextTemplate

/-- An operator between two conditions. -/
inductive InfixOperator where
  | or
  | and
  | compare (comparison : Comparison)
  deriving DecidableEq, Repr

namespace InfixOperator

/-- How tightly the operator binds. -/
def power : InfixOperator → Nat
  | or => 6
  | and => 7
  | compare _ => 10

/-- The condition that the operator makes of its sides. -/
def build (operator : InfixOperator) (left right : Condition) : Condition :=
  match operator with
  | or => .or left right
  | and => .and left right
  | compare comparison => .compare comparison left right

/-- The operator that a component writes. -/
def ofComponent? (component : String) : Option InfixOperator :=
  if component = "or" then some or
  else if component = "and" then some and
  else (Comparison.ofSymbol? component).map compare

end InfixOperator

/-- How tightly a negation binds. -/
def negationPower : Nat := 8

/-- A component of a condition. -/
inductive Term where
  | negation
  | joint (text : String) (operator : InfixOperator)
  | atom (operand : Operand)

namespace Term

/-- The term that a component writes. Whatever is no operator must compile as
an operand. -/
def ofComponent (find : FilterFinder) (component : String) : Except Error Term :=
  if component = "not" then .ok negation
  else
    match InfixOperator.ofComponent? component with
    | some operator => .ok (joint component operator)
    | none => (Operand.compile find component).map atom

end Term

namespace Condition

mutual

/-- Reads a condition whose operators bind tighter than `power`, and gives the
terms that follow it. The fuel bounds the steps, of which there are at most two
for every term. -/
def climb : Nat → Nat → List Term → Except Fault (Condition × List Term)
  | 0, _, _ => .error .missingOperand
  | _ + 1, _, [] => .error .missingOperand
  | _ + 1, _, .joint text _ :: _ => .error (.missingLeftOperand text)
  | fuel + 1, power, .atom operand :: rest => extend fuel power (.holds operand) rest
  | fuel + 1, power, .negation :: rest =>
    match climb fuel negationPower rest with
    | .ok (negated, after) => extend fuel power (.not negated) after
    | .error fault => .error fault

/-- Takes operators, each with its right side, that bind tighter than `power`. -/
def extend : Nat → Nat → Condition → List Term → Except Fault (Condition × List Term)
  | 0, _, left, terms => .ok (left, terms)
  | fuel + 1, power, left, .joint text operator :: rest =>
    if power < operator.power then
      match climb fuel operator.power rest with
      | .ok (right, after) => extend fuel power (operator.build left right) after
      | .error fault => .error fault
    else .ok (left, .joint text operator :: rest)
  | _ + 1, power, left, .negation :: rest =>
    if power < negationPower then .error .misplacedNegation
    else .ok (left, .negation :: rest)
  | _ + 1, _, left, terms => .ok (left, terms)

end

/-- The condition that terms write, all of them. -/
def ofTerms (terms : List Term) : Except Fault Condition :=
  match climb (2 * terms.length + 2) 0 terms with
  | .ok (condition, []) => .ok condition
  | .ok (_, _ :: _) => .error .danglingOperand
  | .error fault => .error fault

/-- The condition that components write. Operands are compiled before the components are
put together, so a fault of an operand comes before a fault of their order. -/
def parse (find : FilterFinder) (components : List String) :
    Except Error Condition := do
  let terms ← components.mapM (Term.ofComponent find)
  (ofTerms terms).mapError Error.fault

end Condition

end TextTemplate
