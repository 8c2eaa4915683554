import TextTemplate.Filter.Basic
import TextTemplate.Text.Blank
import TextTemplate.Token.Phrase
import TextTemplate.Variable

/-!
# Filter chains

A variable followed by filters, each behind a bar and with its arguments behind a colon.
The filters are found when the chain is compiled, so an unknown filter is known before
anything is rendered; variables and arguments are resolved each time.
-/

namespace TextTemplate

open TextTemplate.Text

/-- A filter with its arguments. -/
structure AppliedFilter where
  filter : Filter
  arguments : List Variable

/-- A variable that goes through filters, with the text that wrote it. -/
structure FilterChain where
  source : String
  base : Variable
  filters : List AppliedFilter

namespace FilterChain

/-- A filter's name and the variables of its arguments. -/
def readFilter (piece : String) : String × List Variable :=
  match splitPhrases ':' piece with
  | [] => ("", [])
  | [name] => (trim name, [])
  | name :: rest =>
    (trim name,
      (splitPhrases ',' (":".intercalate rest)).map fun argument => Variable.ofString
        (trim argument))

/-- Finds the filter of a piece. -/
def compileFilter (find : FilterFinder) (piece : String) :
    Except Error AppliedFilter := do
  let (name, arguments) := readFilter piece
  let filter ← find name
  return ⟨filter, arguments⟩

/-- The chain that a text writes. -/
def compile (find : FilterFinder) (source : String) : Except Error FilterChain :=
  match (splitPhrases '|' source).map trim with
  | [] => .error (.fault .emptyOutput)
  | base :: pieces => do
    let filters ← pieces.mapM (compileFilter find)
    return ⟨source, Variable.ofString base, filters⟩

/-- Applies filters one after the other. -/
def applyAll (scopes : Scopes) (value : Value) : List AppliedFilter → Except Error Value
  | [] => .ok value
  | applied :: rest => do
    let result ← applied.filter.invoke value
      (applied.arguments.map fun argument => argument.resolve scopes)
    applyAll scopes result rest

/-- The value of a chain. -/
def resolve (chain : FilterChain) (scopes : Scopes) : Except Error Value :=
  applyAll scopes (chain.base.resolve scopes) chain.filters

end FilterChain

end TextTemplate
