import TextTemplate.Token.Basic

/-!
# Words and quoted phrases

The contents of a block are divided at blanks, a filter chain at bars, arguments at
commas, and none of these may divide a quoted phrase. A phrase opens at a quote outside
any phrase and runs through the next quote of the same kind. A separator outside phrases
is dropped and ends the current word, unless both kinds of quotes have been seen an odd
number of times, in which case the word goes on.

Words are then glued into components: a word that consists of punctuation between names,
and a word that follows such punctuation, belong to the component before. So a filter
chain written with blanks around its bars is still one component.
-/

namespace TextTemplate

/-- Where a division stands: the word so far, the quote that closes the current phrase,
and whether each kind of quote has been seen an odd number of times. -/
structure WordState where
  /-- The characters of the current word, last one first. -/
  word : List Char
  /-- The quote that closes the current phrase, inside one. -/
  phrase : Option Char
  /-- Whether single quotes have been seen an odd number of times. -/
  oddSingles : Bool
  /-- Whether double quotes have been seen an odd number of times. -/
  oddDoubles : Bool

namespace WordState

/-- Nothing read yet. -/
def start : WordState := ⟨[], none, false, false⟩

/-- Notes a character among the quotes seen. -/
def countQuote (state : WordState) (c : Char) : WordState :=
  if c == '\'' then { state with oddSingles := !state.oddSingles }
  else if c == '"' then { state with oddDoubles := !state.oddDoubles }
  else state

/-- Adds a character to the word. -/
def push (state : WordState) (c : Char) : WordState :=
  { state with word := c :: state.word }

end WordState

/-- Whether a character is a quote. -/
def isQuote (c : Char) : Bool :=
  c == '\'' || c == '"'

/-- The words of a text, from a state of the division on. -/
def wordsFrom (separator : Char) (state : WordState) : List Char → List (List Char)
  | [] => if state.word.isEmpty then [] else [state.word.reverse]
  | c :: rest =>
    let seen := state.countQuote c
    match state.phrase with
    | some quote =>
      if c == quote then wordsFrom separator { seen.push c with phrase := none } rest
      else wordsFrom separator (seen.push c) rest
    | none =>
      if c == separator then
        if (!seen.oddSingles || !seen.oddDoubles) && !seen.word.isEmpty then
          seen.word.reverse :: wordsFrom separator { seen with word := [] } rest
        else wordsFrom separator seen rest
      else if isQuote c then wordsFrom separator
        { seen.push c with phrase := some c } rest
      else wordsFrom separator (seen.push c) rest

/-- The words of a text. -/
def words (separator : Char) (cs : List Char) : List (List Char) :=
  wordsFrom separator WordState.start cs

/-- The marks that stand between the parts of a filter expression. -/
def isMark (c : Char) : Bool :=
  c == ',' || c == '|' || c == ':'

/-- Whether a word is made of marks that stand side by side in the order comma,
bar, colon. -/
def isMarkRun (word : List Char) : Bool :=
  word == [','] || word == ['|'] || word == [':'] || word == [',', '|'] ||
    word == ['|', ':'] || word == [',', '|', ':']

/-- Whether a component ends in a mark. -/
def endsInMark (component : List Char) : Bool :=
  component.getLast?.any isMark

/-- Glues a word to the component before it or starts a new component. The components
are given last one first. -/
def glue (components : List (List Char)) (word : List Char) : List (List Char) :=
  match components with
  | [] => [word]
  | last :: before =>
    if endsInMark last || isMarkRun word then (last ++ word) :: before
    else word :: last :: before

/-- The components of a text between separators. -/
def components (separator : Char) (cs : List Char) : List (List Char) :=
  ((words separator cs).foldl glue []).reverse

/-- The components of a text between separators, quoted phrases kept whole. -/
def splitPhrases (separator : Char) (text : String) : List String :=
  (components separator text.toList).map String.ofList

namespace Token

/-- The components of a token between blanks. -/
def components (token : Token) : List String :=
  splitPhrases ' ' token.contents

/-- The first component, which names the tag that a block belongs to. -/
def name? (token : Token) : Option String :=
  token.components.head?

/-- Whether the token's name is one of the given names. -/
def isNamed (names : List String) (token : Token) : Bool :=
  token.name?.any names.contains

end Token

end TextTemplate
