import TextTemplate.Text.ClusterTable
import TextTemplate.Text.HiddenTable

/-!
# Quoted text

Texts inside containers, and names inside some messages, are shown between double
quotes. A quote, a backslash and the common controls are escaped by a letter; characters
that cannot be seen on their own (controls, format characters, marks that need a base,
separators other than the space, unassigned code points) are spelled by number.
-/

namespace TextTemplate.Text

/-- The lower-case hexadecimal digits of a number. -/
def hexDigits (n : Nat) : List Char :=
  Nat.toDigits 16 n

/-- Whether quoted text spells the character by number. -/
def needsNumber (c : Char) : Bool :=
  if 0x20 ≤ c.toNat && c.toNat < 0x7f then false
  else within hiddenRanges c || within extendRanges c

/-- One character as quoted text shows it. -/
def quotedChar (c : Char) : List Char :=
  match c with
  | '\x00' => ['\\', '0']
  | '\t' => ['\\', 't']
  | '\r' => ['\\', 'r']
  | '\n' => ['\\', 'n']
  | '"' => ['\\', '"']
  | '\\' => ['\\', '\\']
  | c =>
    if needsNumber c then ['\\', 'u', '\x7b'] ++ hexDigits c.toNat ++ ['\x7d'] else [c]

/-- The characters between double quotes, escaped. -/
def quotedChars (cs : List Char) : List Char :=
  '"' :: (cs.flatMap quotedChar ++ ['"'])

/-- The text between double quotes, escaped. -/
def quoted (text : String) : String :=
  String.ofList (quotedChars text.toList)

/-- A list of texts in brackets, each one quoted. -/
def quotedList (texts : List String) : String :=
  "[" ++ ", ".intercalate (texts.map quoted) ++ "]"

end TextTemplate.Text
