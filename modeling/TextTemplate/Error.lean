import TextTemplate.FileTree

/-!
# Errors

What can go wrong between loading a template and its last character of output. An error
is a cause, with what its wording needs; `message` holds all wordings. A variable that
leads nowhere is not an error.
-/

namespace TextTemplate

/-- A fault in the way a template is written, or a value of the wrong kind where one
kind is required. -/
inductive Fault where
  /-- An output without an expression. -/
  | emptyOutput
  /-- Something follows a complete condition. -/
  | danglingOperand
  /-- A condition ends where an operand is due. -/
  | missingOperand
  /-- An operator stands where an operand is due. -/
  | missingLeftOperand (operator : String)
  /-- A negation follows a complete operand. -/
  | misplacedNegation
  /-- The closing block of a tag is missing. -/
  | unclosedTag (closing : String)
  | loopUsage
  | negatedConditionUsage (contents : String)
  | filterUsage
  | blockUsage
  | extendsUsage
  | repeatedExtends
  | includeUsage
  | nowUsage (contents : String)
  /-- A template name is no text. -/
  | nameNotText (operand : String)
  /-- An item has fewer parts than the loop has variables. -/
  | tooFewParts (item : String)
  /-- A lower bound of a range is no whole number. -/
  | lowerBoundNotWhole (value : String)
  /-- An upper bound of a range is no whole number. -/
  | upperBoundNotWhole (value : String)
  | timeFormat (format : String)
  /-- An argument for a filter that takes none. -/
  | unexpectedArgument
  /-- More than one argument for a filter that takes one. -/
  | singleArgument (filter : String)
  | indentArguments
  | indentWidth (value : String)
  | indentUnit (value : String)
  | indentFirst (value : String)
  /-- A fault that an application's own tag or filter reports. -/
  | reported (text : String)
  deriving DecidableEq, Inhabited, Repr

namespace Fault

/-- The fault in words. -/
def message : Fault → String
  | emptyOutput => "Variable tags must include at least 1 argument"
  | danglingOperand => "'if' expression error: dangling token"
  | missingOperand => "'if' expression error: end"
  | missingLeftOperand operator =>
    "'if' expression error: infix operator '" ++ operator ++
      "' doesn't have a left hand side"
  | misplacedNegation =>
    "'if' expression error: prefix operator 'not' was called with a left hand side"
  | unclosedTag closing => "`" ++ closing ++ "` was not found."
  | loopUsage =>
    "'for' statements should use the syntax: `for <x> in <y> [where <condition>]"
  | negatedConditionUsage contents =>
    "'ifnot' statements should use the following 'ifnot condition' `" ++
      contents ++ "`."
  | filterUsage => "'filter' tag takes one argument, the filter expression"
  | blockUsage => "'block' tag takes one argument, the block name"
  | extendsUsage => "'extends' takes one argument, the stencil file to be extended"
  | repeatedExtends => "'extends' cannot appear more than once in the same stencil"
  | includeUsage =>
    "'include' tag takes one argument, the stencil file to be included, and " ++
      "an optional context"
  | nowUsage contents =>
    "'now' tags may only have one argument: the format string `" ++ contents ++ "`."
  | nameNotText operand => "'" ++ operand ++ "' could not be resolved as a string"
  | tooFewParts item => "Tuple '" ++ item ++ "' has less values than loop variables"
  | lowerBoundNotWhole value => "'from' value is not an Integer (" ++ value ++ ")"
  | upperBoundNotWhole value => "'to' value is not an Integer (" ++ value ++ ")"
  | timeFormat format => "'now' tag has an invalid format `" ++ format ++ "`"
  | unexpectedArgument => "cannot invoke filter with an argument"
  | singleArgument filter => "'" ++ filter ++ "' filter takes a single argument"
  | indentArguments => "'indent' filter can take at most 3 arguments"
  | indentWidth value =>
    "'indent' filter width argument must be an Integer (" ++ value ++ ")"
  | indentUnit value =>
    "'indent' filter indentation argument must be a String (" ++ value ++ ")"
  | indentFirst value =>
    "'indent' filter indentFirst argument must be a Bool (" ++ value ++ ")"
  | reported text => text

end Fault

/-- Why a template could not be loaded, parsed or rendered. -/
inductive Error where
  | fault (fault : Fault)
  /-- No extension knows the tag. -/
  | unknownTag (name : String)
  /-- No extension knows the filter; filters of similar names are suggested. -/
  | unknownFilter (name : String) (suggestions : List String)
  /-- The loader, if there is one, has none of the templates. -/
  | notFound (names : List String) (loader : Option String)
  /-- A template name leads out of its base directory. -/
  | outsideBase (base path : Path)
  /-- A template's file exists and cannot be read. -/
  | unreadable (path : Path) (failure : ReadFailure)
  /-- Scopes are nested deeper than the environment allows. -/
  | tooDeep (limit : Nat)
  /-- A range has more items than the environment allows. -/
  | rangeTooLarge (lower upper : Int64) (limit : Nat)
  deriving DecidableEq, Inhabited, Repr

namespace Error

/-- A fault that an application reports in its own words. -/
def reported (text : String) : Error :=
  fault (.reported text)

/-- Suggested names, as the end of a message. -/
def suggestionText (suggestions : List String) : String :=
  if suggestions.isEmpty then ""
  else ", did you mean: " ++ ", ".intercalate suggestions ++ "?"

/-- The error in words. -/
def message : Error → String
  | fault cause => cause.message
  | unknownTag name => "unknown tag `" ++ name ++ "`"
  | unknownFilter name suggestions =>
    "unknown filter `" ++ name ++ "`" ++ suggestionText suggestions
  | notFound names loader =>
    "template named `" ++ ", ".intercalate names ++ "` does not exist" ++
      match loader with
      | some shown => " in loader " ++ shown
      | none => ". No loaders found"
  | outsideBase base path =>
    "path `" ++ path.text ++ "` is located outside of base path `" ++ base.text ++ "`"
  | unreadable path failure =>
    "failed to read '" ++ path.text ++ "': " ++ failure.message
  | tooDeep limit => "maximum nesting depth of " ++ toString limit ++ " exceeded"
  | rangeTooLarge lower upper limit =>
    "range `" ++ toString lower.toInt ++ "..." ++ toString upper.toInt ++
      "` exceeds the maximum of " ++ toString limit ++ " items"

/-- Whether a template is written wrongly: a fault, or a tag or filter that
nobody knows. -/
def isSyntactic : Error → Bool
  | fault _ => true
  | unknownTag _ => true
  | unknownFilter _ _ => true
  | _ => false

/-- Whether a template is missing. -/
def isNotFound : Error → Bool
  | notFound _ _ => true
  | _ => false

/-- Whether a name leads out of its base directory. -/
def isSecurity : Error → Bool
  | outsideBase _ _ => true
  | _ => false

end Error

end TextTemplate
