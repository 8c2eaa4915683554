import TextTemplate.Filter.Chain

/-!
# Operands

What conditions compare, loops go through and outputs show: a variable, a filter chain,
or a range. A range is written with three dots between its bounds and counts from the
first to the second in steps of one, downwards when the second is smaller; it may not
have more items than the environment allows.
-/

namespace TextTemplate

open TextTemplate.Text

/-- A range between two bounds. -/
structure RangeExpression where
  lower : FilterChain
  upper : FilterChain

namespace RangeExpression

/-- The text that wrote the range. -/
def source (range : RangeExpression) : String :=
  range.lower.source ++ "..." ++ range.upper.source

/-- The range that a text writes; none when three dots do not divide it into two
parts. -/
def compile? (find : FilterFinder) (source : String) :
    Except Error (Option RangeExpression) :=
  match divideText "..." source with
  | [lower, upper] => do
    let lower ← FilterChain.compile find lower
    let upper ← FilterChain.compile find upper
    return some ⟨lower, upper⟩
  | _ => .ok none

/-- How far two bounds are apart. The difference is taken without signs: from one end of
the signed range to the other it is no signed number of 64 bits. -/
def distance (lower upper : Int64) : UInt64 :=
  if lower < upper then upper.toUInt64 - lower.toUInt64
    else lower.toUInt64 - upper.toUInt64

/-- The number of items between two bounds, both included. None when it is one more than
64 bits can hold, as the sum is zero then. -/
def itemCount? (lower upper : Int64) : Option UInt64 :=
  let count := distance lower upper + 1
  if count = 0 then none else some count

/-- The numbers through a last one, with others behind it: as many in front of the last
one as there are steps, each one step away from the next. -/
def numbersTo (step : Int64) (behind : List Int64) (last : Int64) : Nat → List Int64
  | 0 => last :: behind
  | steps + 1 => numbersTo step (last :: behind) (last - step) steps

/-- The numbers from one bound to the other, downwards when the second is smaller. -/
def numbers (lower upper : Int64) : List Int64 :=
  numbersTo (if upper < lower then -1 else 1) [] upper (distance lower upper).toNat

/-- The sequence between two bounds, unless it is too long. -/
def between (maxRange : Nat) (lower upper : Int64) : Except Error Value :=
  if (itemCount? lower upper).any fun count => count.toNat ≤ maxRange then
    .ok (.sequence ((numbers lower upper).map Value.int))
  else .error (.rangeTooLarge lower upper maxRange)

/-- The value of a range. -/
def resolve (range : RangeExpression) (maxRange : Nat) (scopes : Scopes) :
    Except Error Value := do
  let lower ← range.lower.resolve scopes
  match lower with
  | .int first =>
    let upper ← range.upper.resolve scopes
    match upper with
    | .int last => between maxRange first last
    | other => throw (.fault (.upperBoundNotWhole other.describe))
  | other => throw (.fault (.lowerBoundNotWhole other.describe))

end RangeExpression

/-- Anything that has a value. -/
inductive Operand where
  | single (subject : Variable)
  | filtered (chain : FilterChain)
  | between (range : RangeExpression)

namespace Operand

/-- The text that wrote the operand. -/
def source : Operand → String
  | single subject => subject.source
  | filtered chain => chain.source
  | between range => range.source

/-- The operand that a text writes: a range if it is one, and otherwise a filter
chain. -/
def compile (find : FilterFinder) (source : String) : Except Error Operand := do
  match ← RangeExpression.compile? find source with
  | some range => return between range
  | none => return filtered (← FilterChain.compile find source)

/-- The value of an operand. -/
def resolve (operand : Operand) (maxRange : Nat) (scopes : Scopes) :
    Except Error Value :=
  match operand with
  | single subject => .ok (subject.resolve scopes)
  | filtered chain => chain.resolve scopes
  | between range => range.resolve maxRange scopes

end Operand

end TextTemplate
