import TextTemplate.Text.Blank
import TextTemplate.Text.Division
import TextTemplate.Token.Basic

/-!
# Cutting a source into segments

A source is cut from left to right. At each place the kinds of segments are tried in
turn: an output, a block and a comment, from the opening delimiter through the first
matching closing one behind it; then an opening delimiter with all that follows it,
which is how an unclosed one ends up; and at last a run of text up to the next opening.
A scan that declines takes nothing, so the next one starts at the same place.

Segments keep every character, so their texts put together give the source; the tokens
are what they stand for. A row of segments that ended before the source does would make
the whole source a single text.
-/

namespace TextTemplate

open TextTemplate.Text

/-- The three kinds of delimited segments. -/
inductive Delimiter where
  | output
  | block
  | comment
  deriving DecidableEq, Repr

namespace Delimiter

/-- The character that marks the delimiter, next to a brace. -/
def mark : Delimiter → Char
  | output => '\x7b'
  | block => '%'
  | comment => '#'

/-- The character that marks the closing delimiter, before a brace. -/
def closingMark : Delimiter → Char
  | output => '\x7d'
  | block => '%'
  | comment => '#'

/-- The opening delimiter. -/
def opening (delimiter : Delimiter) : List Char := ['\x7b', delimiter.mark]

/-- The closing delimiter. -/
def closing (delimiter : Delimiter) : List Char := [delimiter.closingMark, '\x7d']

/-- The characters behind the opening delimiter, if it stands at the front. -/
def behind? (delimiter : Delimiter) : List Char → Option (List Char)
  | c :: d :: rest => if c == '\x7b' && d == delimiter.mark then some rest else none
  | _ => none

end Delimiter

/-- The delimiter that opens at the front of the characters, and the characters
behind it. -/
def opening? (cs : List Char) : Option (Delimiter × List Char) :=
  [Delimiter.output, .block, .comment].findSome? fun delimiter =>
    (delimiter.behind? cs).map fun inside => (delimiter, inside)

/-- The characters before the next opening and those from it on. -/
def untilOpening : List Char → List Char × List Char
  | [] => ([], [])
  | c :: rest =>
    if (opening? (c :: rest)).isSome then ([], c :: rest)
    else
      let (run, after) := untilOpening rest
      (c :: run, after)

/-- A piece of a source. -/
inductive Segment where
  /-- Contents between an opening delimiter and its closing one. -/
  | delimited (delimiter : Delimiter) (contents : List Char)
  /-- An opening delimiter that nothing closes, with all that follows it. -/
  | unclosed (delimiter : Delimiter) (contents : List Char)
  /-- A run of text at none of whose places a delimiter opens. -/
  | run (contents : List Char)
  deriving DecidableEq, Repr

namespace Segment

/-- The characters of the segment in the source. -/
def source : Segment → List Char
  | delimited delimiter contents => delimiter.opening ++ contents ++ delimiter.closing
  | unclosed delimiter contents => delimiter.opening ++ contents
  | run contents => contents

/-- The token that a segment stands for. An unclosed segment stands for no text at
all. -/
def token : Segment → Token
  | delimited .output contents => .output (trim (String.ofList contents))
  | delimited .block contents => .block (trim (String.ofList contents))
  | delimited .comment contents => .comment (trim (String.ofList contents))
  | unclosed _ _ => .text ""
  | run contents => .text (String.ofList contents)

end Segment

/-- A scan reads a piece off the front of some characters and gives it with the
characters behind it, or it declines. -/
abbrev Scan (α : Type) := List Char → Option (α × List Char)

namespace Scan

variable {α : Type}

/-- The scan that reads what the first of several scans reads that does not decline. -/
def firstOf : List (Scan α) → Scan α
  | [], _ => none
  | scan :: others, cs =>
    match scan cs with
    | some found => some found
    | none => firstOf others cs

/-- The pieces in a row up to where a scan declines, and the characters from there on.
None when a piece takes no character, as the row would never end. -/
def row (scan : Scan α) (cs : List Char) : Option (List α × List Char) :=
  match scan cs with
  | none => some ([], cs)
  | some (piece, rest) =>
    if rest.length < cs.length then
      (row scan rest).map fun (pieces, left) => (piece :: pieces, left)
    else none
  termination_by cs.length

end Scan

namespace Segment

/-- Scans contents between an opening delimiter and the first closing one behind it. -/
def scanDelimited (delimiter : Delimiter) : Scan Segment := fun cs =>
  match delimiter.behind? cs with
  | some inside =>
    (cutAt delimiter.closing inside).map fun (contents, rest) =>
      (delimited delimiter contents, rest)
  | none => none

/-- Scans an opening delimiter and all that follows it. -/
def scanUnclosed : Scan Segment := fun cs =>
  (opening? cs).map fun (delimiter, inside) => (unclosed delimiter inside, [])

/-- Scans a run of text, which may not be empty. -/
def scanRun : Scan Segment := fun cs =>
  match untilOpening cs with
  | ([], _) => none
  | (c :: more, rest) => some (run (c :: more), rest)

/-- Scans a segment. -/
def scan : Scan Segment :=
  Scan.firstOf
    [scanDelimited .output, scanDelimited .block, scanDelimited .comment,
      scanUnclosed, scanRun]

end Segment

/-- The tokens of a source. -/
def tokenize (source : String) : List Token :=
  match Segment.scan.row source.toList with
  | some (segments, []) => segments.map Segment.token
  | _ => [.text source]

end TextTemplate
