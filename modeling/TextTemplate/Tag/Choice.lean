import TextTemplate.Condition.Precedence
import TextTemplate.Reading

/-!
# Reading choices

`if`, any number of `elif`, an optional `else` and `endif`; and `ifnot` with an optional
`else` and `endif`, which renders its first body when the condition does not hold.
-/

namespace TextTemplate.Tag

/-- The condition behind the name of a tag. -/
def readCondition (find : FilterFinder) (token : Token) : Reading Condition :=
  Reading.ofExcept (Condition.parse find (token.components.drop 1))

/-- A condition and the body behind it. -/
def readBranch (find : FilterFinder) (token : Token) : Reading (Branch Node) := do
  let condition ← readCondition find token
  let body ← Reading.bodyUntil ["endif", "elif", "else"]
  return ⟨some condition, body⟩

/-- The `elif` branches from a token on, and the token behind them. Every branch takes a
token off the queue, so a round for each of the tokens in the queue is enough; what
these tokens are does not matter. -/
def readAlternatives (find : FilterFinder) :
    List Token → Option Token → Reading (List (Branch Node) × Option Token)
  | _ :: rounds, some token => do
    if token.isNamed ["elif"] then
      let branch ← readBranch find token
      let (branches, last) ← readAlternatives find rounds (← Reading.next)
      return (branch :: branches, last)
    else return ([], some token)
  | _, last => return ([], last)

/-- The `else` branch at a token, if it opens one, and the token behind it. -/
def readOtherwise (terminator : Option Token) :
    Reading (List (Branch Node) × Option Token) := do
  if terminator.any fun token => token.contents = "else" then
    let body ← Reading.bodyUntil ["endif"]
    return ([⟨none, body⟩], ← Reading.next)
  else return ([], terminator)

/-- Reads a choice. -/
def readChoice : TagReader := fun find token => do
  let first ← readBranch find token
  let terminator ← Reading.next
  let (alternatives, terminator) ← readAlternatives find
      (token :: (← Reading.rest)) terminator
  let (otherwise, terminator) ← readOtherwise terminator
  if terminator.any fun token => token.contents = "endif" then
    return .choice (first :: alternatives ++ otherwise)
  else Reading.fault (.unclosedTag "endif")

/-- The body behind `else`, if the negated choice has one. -/
def readHolding (terminator : Token) : Reading (List Node) := do
  if terminator.contents = "else" then
    let body ← Reading.bodyUntil ["endif"]
    let _ ← Reading.close "endif"
    return body
  else return []

/-- Reads a negated choice. -/
def readNegatedChoice : TagReader := fun find token => do
  if token.components.length ≠ 2
    then Reading.fault (.negatedConditionUsage token.contents)
  else
    let failing ← Reading.bodyUntil ["endif", "else"]
    let terminator ← Reading.close "endif"
    let holding ← readHolding terminator
    let condition ← readCondition find token
    return .choice [⟨some condition, holding⟩, ⟨none, failing⟩]

end TextTemplate.Tag
