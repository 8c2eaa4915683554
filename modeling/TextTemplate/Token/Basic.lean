/-!
# Tokens

A template source is a row of tokens: literal text, outputs, comments and blocks. All
but literal text stand between delimiters, which the token no longer holds.
-/

namespace TextTemplate

/-- A piece of a template source, without its delimiters. -/
inductive Token where
  /-- Literal text outside any delimiters. -/
  | text (contents : String)
  /-- An output, between double braces. -/
  | output (contents : String)
  /-- A comment. -/
  | comment (contents : String)
  /-- A block, which belongs to a tag. -/
  | block (contents : String)
  deriving DecidableEq, Inhabited, Repr

namespace Token

/-- The text inside the token. -/
def contents : Token → String
  | text contents => contents
  | output contents => contents
  | comment contents => contents
  | block contents => contents

/-- Whether the token is a comment. -/
def isComment : Token → Bool
  | comment _ => true
  | _ => false

end Token

end TextTemplate
