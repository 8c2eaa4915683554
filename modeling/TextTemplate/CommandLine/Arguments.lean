import TextTemplate.Text.Division

/-!
# Arguments of a command line

Arguments are read from left to right into words: options with or without a value, and
operands. An option has a long name behind two hyphens or a letter behind one, and
letters may be joined. A value stands behind an equals sign, directly behind a letter,
or in the next argument, where it may not look like an option. Two hyphens alone end
the options.

Reading stops at the first thing that is wrong, or at an option that ends the program.
Options in front of a command's name are read on their own, and there two hyphens alone
have no place.
-/

namespace TextTemplate.CommandLine

open TextTemplate.Text

/-- An option that a command knows. -/
structure OptionRule where
  name : String
  letter : Option Char
  /-- Whether the option has a value, and which texts it accepts. -/
  accepts : Option (String → Bool)
  /-- Whether the option may be given more than once. -/
  repeatable : Bool
  /-- Whether the option ends the program. -/
  final : Bool

namespace OptionRule

/-- An option without a value. -/
def flag (name : String) (letter : Option Char) : OptionRule :=
  ⟨name, letter, none, false, false⟩

/-- An option without a value that ends the program. -/
def ending (name : String) (letter : Option Char) : OptionRule :=
  ⟨name, letter, none, false, true⟩

/-- An option with one value. -/
def single (name : String) (letter : Option Char) (accepts : String → Bool) :
    OptionRule :=
  ⟨name, letter, some accepts, false, false⟩

/-- An option with a value that may be given several times. -/
def many (name : String) (letter : Option Char) (accepts : String → Bool) :
    OptionRule :=
  ⟨name, letter, some accepts, true, false⟩

end OptionRule

/-- Why the reading of arguments stops early. -/
inductive Stop where
  /-- The arguments are wrong. -/
  | misuse (reason : String)
  /-- An option that ends the program. -/
  | ending (option : String)
  deriving DecidableEq, Repr

/-- A word of a command line. -/
inductive Word where
  | flag (option : String)
  | setting (option value : String)
  | operand (text : String)
  deriving DecidableEq, Repr

namespace Word

/-- Whether the word is an option of a name. -/
def isOption (name : String) : Word → Bool
  | flag option => option == name
  | setting option _ => option == name
  | operand _ => false

/-- The operand that the word is. -/
def operand? : Word → Option String
  | operand text => some text
  | _ => none

/-- The value that the word gives to an option. -/
def value? (name : String) : Word → Option String
  | setting option value => if option = name then some value else none
  | _ => none

end Word

/-- Whether an argument looks like an option. A single hyphen does not. -/
def looksLikeOption (argument : String) : Bool :=
  match argument.toList with
  | '-' :: _ :: _ => true
  | _ => false

/-- Adds a word, unless it repeats an option that may be given only once. Words are kept
last one first. -/
def addWord (rule : OptionRule) (word : Word) (words : List Word) :
    Except Stop (List Word) :=
  if rule.final then .error (.ending rule.name)
  else if !rule.repeatable && words.any (Word.isOption rule.name) then
    .error (.misuse ("the argument '--" ++ rule.name ++
      "' cannot be used multiple times"))
  else .ok (word :: words)

/-- Adds an option with its value, if the value is acceptable. -/
def addSetting (rule : OptionRule) (accepts : String → Bool) (value : String)
    (words : List Word) :
    Except Stop (List Word) :=
  if accepts value then addWord rule (.setting rule.name value) words
  else .error (.misuse ("invalid value '" ++ value ++ "' for '--" ++ rule.name ++ "'"))

/-- An option that still needs its value. -/
structure Awaiting where
  rule : OptionRule
  accepts : String → Bool

/-- Reads letters behind a hyphen. -/
def readLetters (rules : List OptionRule) (words : List Word) :
    List Char → Except Stop (List Word × Option Awaiting)
  | [] => .ok (words, none)
  | letter :: rest =>
    match rules.find? fun rule => rule.letter == some letter with
    | none =>
      .error (.misuse ("unexpected argument '-" ++
        String.singleton letter ++ "' found"))
    | some rule =>
      match rule.accepts with
      | none => do readLetters rules (← addWord rule (.flag rule.name) words) rest
      | some accepts =>
        match rest with
        | [] => .ok (words, some ⟨rule, accepts⟩)
        | '=' :: value => do
          return (← addSetting rule accepts (String.ofList value) words, none)
        | value => do return (← addSetting rule accepts (String.ofList value)
            words, none)

/-- Reads what stands behind two hyphens. -/
def readLong (rules : List OptionRule) (words : List Word) (cs : List Char) :
    Except Stop (List Word × Option Awaiting) :=
  let (name, value) :=
    match cutAt ['='] cs with
    | some (name, value) => (String.ofList name, some (String.ofList value))
    | none => (String.ofList cs, none)
  match rules.find? fun rule => rule.name == name with
  | none => .error (.misuse ("unexpected argument '--" ++ name ++ "' found"))
  | some rule =>
    match rule.accepts, value with
    | none, none => do return (← addWord rule (.flag rule.name) words, none)
    | none, some value =>
      .error (.misuse ("unexpected value '" ++ value ++ "' for '--" ++
        name ++ "' found"))
    | some accepts, none => .ok (words, some ⟨rule, accepts⟩)
    | some accepts,
        some value => do return (← addSetting rule accepts value words, none)

/-- Reads one argument that is an option. -/
def readOption (rules : List OptionRule) (words : List Word) (argument : String) :
    Except Stop (List Word × Option Awaiting) :=
  match argument.toList with
  | '-' :: '-' :: cs => readLong rules words cs
  | '-' :: cs => readLetters rules words cs
  | _ => .ok (words, none)

/-- Reads arguments up to the first operand that `ends` them, or all of them. Gives the
words, last one first, and the arguments from that operand on. -/
def readWords (rules : List OptionRule) (ends : Bool) (awaiting : Option Awaiting)
    (words : List Word) : List String → Except Stop (List Word × List String)
  | [] =>
    match awaiting with
    | none => .ok (words, [])
    | some pending =>
      .error (.misuse ("a value is required for '--" ++ pending.rule.name ++ "'"))
  | argument :: rest =>
    match awaiting with
    | some pending =>
      if looksLikeOption argument then
        .error (.misuse ("a value is required for '--" ++ pending.rule.name ++ "'"))
      else do
        let words ← addSetting pending.rule pending.accepts argument words
        readWords rules ends none words rest
    | none =>
      if argument = "--" then
        if ends then .error (.misuse "unexpected argument '--' found")
        else .ok ((rest.map Word.operand).reverse ++ words, [])
      else if looksLikeOption argument then do
        let (words, awaiting) ← readOption rules words argument
        readWords rules ends awaiting words rest
      else if ends then .ok (words, argument :: rest)
      else readWords rules ends none (.operand argument :: words) rest

end TextTemplate.CommandLine
