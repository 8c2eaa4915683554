import TextTemplate.Extension
import TextTemplate.Token.Segment

/-!
# Parsing

A parser works on a queue of tokens. It turns literal text and outputs into nodes, drops
comments, and lets the tag that a block names read what belongs to it. When it fails,
the queue stays as the failure found it.

Every step takes a token off the queue, so as many steps as there are tokens are enough.
-/

namespace TextTemplate

/-- A computation on the queue of tokens. -/
abbrev Parser := EStateM Error (List Token)

/-- How a body is parsed, up to a token that satisfies the predicate. -/
abbrev BodyParser := (Token → Bool) → Parser (List Node)

namespace Parser

/-- Takes the next token off the queue. -/
def take : Parser (Option Token) := fun queue =>
  match queue with
  | [] => .ok none []
  | token :: rest => .ok (some token) rest

/-- Puts a token in front of the queue. -/
def putBack (token : Token) : Parser Unit := fun queue =>
  .ok () (token :: queue)

/-- Fails with an error, if there is one. -/
def ofExcept {α : Type} (outcome : Except Error α) : Parser α := fun queue =>
  match outcome with
  | .ok result => .ok result queue
  | .error error => .error error queue

/-- The outcome of a parser, and the queue that it leaves. -/
def outcome {α : Type} (parser : Parser α) : Parser (Except Error α) := fun queue =>
  match parser queue with
  | .ok result rest => .ok (.ok result) rest
  | .error error rest => .ok (.error error) rest

end Parser

namespace Reading

/-- Runs the program of a tag on the queue. -/
def run {α : Type} (bodies : BodyParser) : Reading α → Parser α
  | done result => pure result
  | fail error => throw error
  | take after => do run bodies (after (← Parser.take))
  | body stop after => do run bodies (after (← (bodies stop).outcome))
  | ahead after => do run bodies (after (← get))

end Reading

namespace Registry

/-- The node that a block stands for: what its tag reads. A block without components
stands for nothing. -/
def readBlock (registry : Registry) (bodies : BodyParser) (token : Token) :
    Parser (Option Node) := do
  match token.name? with
  | none => return none
  | some name =>
    let reader ← Parser.ofExcept (registry.findTag name)
    return some (← (reader registry.findFilter token).run bodies)

/-- The node that a token stands for, if it stands for one. -/
def readNode (registry : Registry) (bodies : BodyParser) (token : Token) :
    Parser (Option Node) :=
  match token with
  | .text contents => return some (.text contents)
  | .output contents => do
    let chain ← Parser.ofExcept (FilterChain.compile registry.findFilter contents)
    return some (.output (.filtered chain))
  | .comment _ => return none
  | .block _ => registry.readBlock bodies token

/-- Whether a body ends at a token. -/
def ends (stop : Token → Bool) : Token → Bool
  | .block contents => stop (.block contents)
  | _ => false

/-- Parses a body in a number of steps: the nodes up to a block that satisfies `stop`,
which stays in the queue. -/
def parseBody (registry : Registry) : Nat → BodyParser
  | 0, _ => return []
  | steps + 1, stop => do
    match ← Parser.take with
    | none => return []
    | some token =>
      if ends stop token then
        Parser.putBack token
        return []
      else
        let node ← registry.readNode (registry.parseBody steps) token
        let nodes ← registry.parseBody steps stop
        return node.toList ++ nodes

/-- Parses the nodes up to a block that satisfies `stop`, which stays in the queue. -/
def parseUntil (registry : Registry) (stop : Token → Bool) : Parser (List Node) := do
  registry.parseBody (← get).length stop

/-- Parses all tokens that are left. -/
def parseAll (registry : Registry) : Parser (List Node) :=
  registry.parseUntil fun _ => false

/-- The nodes of a source. -/
def parse (registry : Registry) (source : String) : Except Error (List Node) :=
  match registry.parseAll (tokenize source) with
  | .ok nodes _ => .ok nodes
  | .error error _ => .error error

end Registry

end TextTemplate
