import TextTemplate.Decimal.Layout
import TextTemplate.Json.Basic

/-!
# Writing JSON

Two forms of a document: compact, without any blanks, and indented by two spaces a
level, as reports use it. In strings only the quote, the backslash and the controls
below the space are escaped. Numbers that JSON cannot write become null.
-/

namespace TextTemplate.Json

/-- A hexadecimal digit in lower case. -/
def hexDigit (n : Nat) : Char :=
  Nat.digitChar (n % 16)

/-- One character of a string. -/
def escapedChar (c : Char) : List Char :=
  match c with
  | '"' => ['\\', '"']
  | '\\' => ['\\', '\\']
  | '\n' => ['\\', 'n']
  | '\t' => ['\\', 't']
  | '\r' => ['\\', 'r']
  | '\x08' => ['\\', 'b']
  | '\x0c' => ['\\', 'f']
  | c =>
    if c.toNat < 0x20 then
      ['\\', 'u', '0', '0', hexDigit (c.toNat / 16), hexDigit (c.toNat % 16)]
    else [c]

/-- A string with its quotes. -/
def writeString (text : String) : String :=
  String.ofList ('"' :: (text.toList.flatMap escapedChar ++ ['"']))

/-- A number that is not whole. -/
def writeDecimal (number : Float) : String :=
  if Decimal.isFinite number then Decimal.Layout.json.finite number.toBits else "null"

mutual

/-- The compact form of a document. -/
def compact : Json → String
  | null => "null"
  | bool truth => if truth then "true" else "false"
  | integer number => toString number
  | decimal number => writeDecimal number
  | string text => writeString text
  | array items => "[" ++ ",".intercalate (compactItems items) ++ "]"
  | object members => "\x7b" ++ ",".intercalate (compactMembers members) ++ "\x7d"

/-- The compact forms of items. -/
def compactItems : List Json → List String
  | [] => []
  | item :: rest => compact item :: compactItems rest

/-- The compact forms of members. -/
def compactMembers : List (String × Json) → List String
  | [] => []
  | (name, value) :: rest =>
    (writeString name ++ ":" ++ compact value) :: compactMembers rest

end

/-- A line break followed by two spaces for every level. -/
def lineBreak (level : Nat) : String :=
  String.ofList ('\n' :: List.replicate (2 * level) ' ')

/-- Parts of a container, each on a line of its own, between brackets. -/
def spread (level : Nat) (left right : String) (parts : List String) : String :=
  if parts.isEmpty then left ++ right
  else
    left ++ lineBreak (level + 1) ++ ("," ++ lineBreak (level + 1)).intercalate parts ++
      lineBreak level ++ right

mutual

/-- The indented form of a document that stands at a level. -/
def indented (level : Nat) : Json → String
  | array items => spread level "[" "]" (indentedItems (level + 1) items)
  | object members => spread level "\x7b" "\x7d" (indentedMembers (level + 1) members)
  | null => compact null
  | bool truth => compact (bool truth)
  | integer number => compact (integer number)
  | decimal number => compact (decimal number)
  | string text => compact (string text)

/-- The indented forms of items. -/
def indentedItems (level : Nat) : List Json → List String
  | [] => []
  | item :: rest => indented level item :: indentedItems level rest

/-- The indented forms of members. -/
def indentedMembers (level : Nat) : List (String × Json) → List String
  | [] => []
  | (name, value) :: rest =>
    (writeString name ++ ": " ++ indented level value) :: indentedMembers level rest

end

/-- The indented form of a whole document. -/
def pretty (document : Json) : String :=
  indented 0 document

end TextTemplate.Json
