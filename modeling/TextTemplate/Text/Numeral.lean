/-!
# Whole numbers in text

Reading of whole numbers as a template or a command line writes them: ASCII digits with
an optional sign, nothing around them, within the bounds of the number kind that is
asked for.
-/

namespace TextTemplate.Text

/-- The value of a list of ASCII digits, read after the value so far. -/
def digitsValue (soFar : Nat) : List Char → Nat
  | [] => soFar
  | c :: rest => digitsValue (soFar * 10 + (c.toNat - '0'.toNat)) rest

/-- The number that a non-empty list of ASCII digits writes. -/
def readDigits (cs : List Char) : Option Nat :=
  if cs.isEmpty || !cs.all Char.isDigit then none else some (digitsValue 0 cs)

/-- A whole number with an optional sign. -/
def readSigned : List Char → Option Int
  | '-' :: rest => (readDigits rest).map fun n => -(Int.ofNat n)
  | '+' :: rest => (readDigits rest).map Int.ofNat
  | cs => (readDigits cs).map Int.ofNat

/-- A number of no sign, or of a plus sign, below the bound. -/
def readUnsigned (bound : Nat) (cs : List Char) : Option Nat :=
  let digits := match cs with
    | '+' :: rest => rest
    | _ => cs
  (readDigits digits).filter (· < bound)

/-- Whether a whole number is in the 64-bit signed range. -/
def isInt64 (n : Int) : Bool :=
  Int64.minValue.toInt ≤ n && n ≤ Int64.maxValue.toInt

/-- A number of the 64-bit signed range. -/
def readInt64 (text : String) : Option Int64 :=
  ((readSigned text.toList).filter isInt64).map Int64.ofInt

/-- A position: a number of the 64-bit unsigned range. -/
def readPosition (text : String) : Option Nat :=
  readUnsigned UInt64.size text.toList

end TextTemplate.Text
