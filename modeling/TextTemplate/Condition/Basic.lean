import TextTemplate.Operand
import TextTemplate.Value.Order

/-!
# Conditions

Boolean expressions over operands. `and` and `or` look at their right side only when the
left one does not decide. A comparison looks at its sides only when both are plain
operands; otherwise the sides count as different and without order.
-/

namespace TextTemplate

/-- A comparison of two values. -/
inductive Comparison where
  | equal
  | notEqual
  | greater
  | greaterOrEqual
  | less
  | lessOrEqual
  deriving DecidableEq, Repr

namespace Comparison

/-- The symbol that writes a comparison. -/
def symbol : Comparison → String
  | equal => "=="
  | notEqual => "!="
  | greater => ">"
  | greaterOrEqual => ">="
  | less => "<"
  | lessOrEqual => "<="

/-- The comparison that a symbol writes. -/
def ofSymbol? (text : String) : Option Comparison :=
  [equal, notEqual, greater, greaterOrEqual, less, lessOrEqual].find? fun comparison =>
    comparison.symbol == text

/-- Whether a comparison holds of two values. -/
def holds (comparison : Comparison) (left right : Value) : Bool :=
  match comparison with
  | equal => left.same right
  | notEqual => !left.same right
  | greater => left.compare? right == some .gt
  | greaterOrEqual =>
    left.compare? right == some .gt || left.compare? right == some .eq
  | less => left.compare? right == some .lt
  | lessOrEqual => left.compare? right == some .lt || left.compare? right == some .eq

end Comparison

/-- A boolean expression. -/
inductive Condition where
  | constant (truth : Bool)
  | holds (operand : Operand)
  | not (condition : Condition)
  | and (left right : Condition)
  | or (left right : Condition)
  | compare (comparison : Comparison) (left right : Condition)

namespace Condition

/-- Whether a condition holds. -/
def evaluate (maxRange : Nat) (scopes : Scopes) : Condition → Except Error Bool
  | constant truth => .ok truth
  | holds operand => do return (← operand.resolve maxRange scopes).isTruthy
  | not condition => do return !(← evaluate maxRange scopes condition)
  | and left right => do
    if ← evaluate maxRange scopes left then evaluate maxRange scopes right
      else return false
  | or left right => do
    if ← evaluate maxRange scopes left then return true
      else evaluate maxRange scopes right
  | compare comparison (holds left) (holds right) => do
    let leftValue ← left.resolve maxRange scopes
    let rightValue ← right.resolve maxRange scopes
    return comparison.holds leftValue rightValue
  | compare comparison _ _ => .ok (comparison == .notEqual)

end Condition

end TextTemplate
