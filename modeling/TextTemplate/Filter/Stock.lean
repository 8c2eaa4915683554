import TextTemplate.Filter.Basic

/-!
# Stock filters

Filters that applications often register under names of their own: constants, checks
that always fail, a mask for digits, and a way to see what arguments a filter gets.
-/

namespace TextTemplate.Filter

/-- The filter that leaves values as they are. -/
def identity : Filter :=
  plain .ok

/-- The filter that gives the same value always. -/
def constant (value : Value) : Filter :=
  plain fun _ => .ok value

/-- The filter that fails. -/
def failing (text : String) : Filter :=
  plain fun _ => .error (.reported text)

/-- The filter that hides the digits of the printed form. -/
def maskDigits : Filter :=
  plain fun value => .ok (.string (value.print.map fun c => if c.isDigit
    then '#' else c))

/-- The filter that puts a value and the arguments into a sequence. -/
def collect : Filter :=
  withArguments fun value arguments => .ok (.sequence (value :: arguments))

end TextTemplate.Filter
