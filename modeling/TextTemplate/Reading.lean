import TextTemplate.Filter.Basic
import TextTemplate.Node
import TextTemplate.Token.Phrase

/-!
# Reading a tag

The tag that a block names decides which of the following tokens belong to it. It does
so by a program over the queue of tokens: take the next token, parse a body up to a
closing token, look at what is left, give up. Programs never put tokens back, so
whatever a tag reads, the queue that it leaves is a tail of the one that it found.
-/

namespace TextTemplate

/-- A program that takes tokens off the queue and has a result. -/
inductive Reading (α : Type) where
  /-- Gives a result. -/
  | done (result : α)
  /-- Gives up. -/
  | fail (error : Error)
  /-- Takes the next token, if there is one. -/
  | take (next : Option Token → Reading α)
  /-- Parses a body up to a token that satisfies `stop`, which stays in the queue. -/
  | body (stop : Token → Bool) (next : Except Error (List Node) → Reading α)
  /-- Looks at the tokens that are left. -/
  | ahead (next : List Token → Reading α)

namespace Reading

variable {α β : Type}

/-- One program after another. -/
def bind (reading : Reading α) (next : α → Reading β) : Reading β :=
  match reading with
  | done result => next result
  | fail error => fail error
  | take after => take fun token => (after token).bind next
  | body stop after => body stop fun nodes => (after nodes).bind next
  | ahead after => ahead fun tokens => (after tokens).bind next

instance : Monad Reading where
  pure := done
  bind := bind

/-- The program that gives an outcome. -/
def ofExcept : Except Error α → Reading α
  | .ok result => done result
  | .error error => fail error

/-- Gives up with a fault. -/
def fault (cause : Fault) : Reading α :=
  fail (.fault cause)

/-- The next token. -/
def next : Reading (Option Token) :=
  take done

/-- The tokens that are left. -/
def rest : Reading (List Token) :=
  ahead done

/-- The nodes up to a token of one of the given names. -/
def bodyUntil (names : List String) : Reading (List Node) :=
  body (Token.isNamed names) ofExcept

/-- Takes the token that closes a tag. -/
def close (closing : String) : Reading Token := do
  match ← next with
  | some token => return token
  | none => fault (.unclosedTag closing)

end Reading

/-- How a tag reads what belongs to it, from the token that opens it. -/
abbrev TagReader := FilterFinder → Token → Reading Node

end TextTemplate
