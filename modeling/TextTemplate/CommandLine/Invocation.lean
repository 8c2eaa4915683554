import TextTemplate.CommandLine.Arguments
import TextTemplate.Path

/-!
# What a command line asks for

Three commands: to render a template from files, to check whether files parse, and to
list the standard tags and filters. Two options concern every command and may stand
before its name or behind it.
-/

namespace TextTemplate.CommandLine

open TextTemplate.Text

/-- A template to render. -/
structure RenderRequest where
  template : String
  /-- The directories to look in. -/
  bases : List Path
  /-- A file with the data. -/
  context : Option Path
  /-- Names and the texts of their values. -/
  settings : List (String × String)
  json : Bool
  deriving DecidableEq, Repr

/-- Files to check. -/
structure CheckRequest where
  files : List Path
  json : Bool
  deriving DecidableEq, Repr

/-- A command. -/
inductive Command where
  | render (request : RenderRequest)
  | check (request : CheckRequest)
  | tags (json : Bool)
  deriving DecidableEq, Repr

/-- A command and whether its work is logged. -/
structure Invocation where
  command : Command
  verbose : Bool
  deriving DecidableEq, Repr

/-! ## Options -/

/-- Whether a text can be a path. -/
def isPath (text : String) : Bool :=
  !text.isEmpty

/-- The name and the text of a value on either side of the first equals sign. -/
def splitSetting? (text : String) : Option (String × String) :=
  (cutAt ['='] text.toList).map fun (name, value) => (String.ofList name,
    String.ofList value)

/-- The options of every command. -/
def commonRules : List OptionRule :=
  [OptionRule.single "color" none (["auto", "always", "never"].contains ·),
   OptionRule.flag "verbose" (some 'v'),
   OptionRule.ending "help" (some 'h')]

/-- The option to write JSON. -/
def jsonRule : OptionRule :=
  OptionRule.flag "json" none

/-- The options before a command. -/
def leadingRules : List OptionRule :=
  OptionRule.ending "version" (some 'V') :: commonRules

/-- The options of `render`. -/
def renderRules : List OptionRule :=
  [OptionRule.many "path" (some 'p') isPath,
   OptionRule.single "context" (some 'c') isPath,
   OptionRule.many "var" none (fun text => (splitSetting? text).isSome),
   jsonRule] ++ commonRules

/-- The options of `check` and `tags`. -/
def reportRules : List OptionRule :=
  jsonRule :: commonRules

/-! ## Commands -/

/-- The values of an option, in order. -/
def valuesOf (name : String) (words : List Word) : List String :=
  words.filterMap (Word.value? name)

/-- Whether an option is given. -/
def isGiven (name : String) (words : List Word) : Bool :=
  words.any (Word.isOption name)

/-- The operands, in order. -/
def operands (words : List Word) : List String :=
  words.filterMap Word.operand?

/-- The directories to look in: the current one by default. -/
def basesOf (words : List Word) : List Path :=
  match valuesOf "path" words with
  | [] => [Path.ofString "."]
  | paths => paths.map Path.ofString

/-- The command `render`. -/
def renderCommand (words : List Word) : Except Stop Command :=
  match operands words with
  | [template] =>
    .ok (.render
      { template
        bases := basesOf words
        context := (valuesOf "context" words).head?.map Path.ofString
        settings := (valuesOf "var" words).filterMap splitSetting?
        json := isGiven "json" words })
  | [] => .error (.misuse "the name of a template is required")
  | _ :: extra :: _ => .error (.misuse ("unexpected argument '" ++ extra ++ "' found"))

/-- The command `check`. -/
def checkCommand (words : List Word) : Except Stop Command :=
  match operands words with
  | [] => .error (.misuse "the name of a file is required")
  | files =>
    if files.all isPath then
      .ok (.check { files := files.map Path.ofString, json := isGiven "json" words })
    else .error (.misuse "the name of a file may not be empty")

/-- The command `tags`. -/
def tagsCommand (words : List Word) : Except Stop Command :=
  match operands words with
  | [] => .ok (.tags (isGiven "json" words))
  | extra :: _ => .error (.misuse ("unexpected argument '" ++ extra ++ "' found"))

/-- The options of a command and how it is made of words. -/
def commandOf? (name : String) :
    Option (List OptionRule × (List Word → Except Stop Command)) :=
  if name = "render" then some (renderRules, renderCommand)
  else if name = "check" then some (reportRules, checkCommand)
  else if name = "tags" then some (reportRules, tagsCommand)
  else none

/-- What arguments ask for. -/
def readInvocation (arguments : List String) : Except Stop Invocation := do
  let (leading, rest) ← readWords leadingRules true none [] arguments
  match rest with
  | [] => throw (.misuse "a command is required")
  | name :: rest =>
    if name = "help" then throw (.ending "help")
    match commandOf? name with
    | none => throw (.misuse ("unrecognized command '" ++ name ++ "'"))
    | some (rules, make) =>
      let (reversed, _) ← readWords rules false none [] rest
      let words := reversed.reverse
      return ⟨← make words, isGiven "verbose" leading || isGiven "verbose" words⟩

end TextTemplate.CommandLine
