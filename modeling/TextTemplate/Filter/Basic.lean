import TextTemplate.Error
import TextTemplate.Value.Printing

/-!
# Filters

A filter turns a value into another one, or fails. Some filters take arguments; giving
an argument to one that does not is an error of its own.
-/

namespace TextTemplate

/-- A transformation of values. -/
inductive Filter where
  /-- A filter that takes no arguments. -/
  | plain (apply : Value → Except Error Value)
  /-- A filter that takes its arguments by position. -/
  | withArguments (apply : Value → List Value → Except Error Value)

namespace Filter

/-- Applies a filter to a value and arguments. -/
def invoke (filter : Filter) (value : Value) (arguments : List Value) :
    Except Error Value :=
  match filter with
  | plain apply =>
    if arguments.isEmpty then apply value else .error (.fault .unexpectedArgument)
  | withArguments apply => apply value arguments

/-- Whether the filter takes arguments. -/
def takesArguments : Filter → Bool
  | plain _ => false
  | withArguments _ => true

end Filter

/-- How a filter is found by its name. -/
abbrev FilterFinder := String → Except Error Filter

end TextTemplate
