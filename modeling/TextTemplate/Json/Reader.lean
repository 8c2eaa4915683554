import TextTemplate.Json.Basic
import TextTemplate.Text.Numeral

/-!
# Reading JSON

A strict reader: one document, with blanks around it and nothing else. Containers may
be nested 127 deep. A number is whole when it has neither point nor exponent, fits the
64-bit ranges and is not a negative zero. Every other number is scaled from its first
nineteen or twenty digits: the digits are taken as an unsigned 64-bit integer, rounded
to floating point, and multiplied or divided by a power of ten, so a long number may
differ in its last place from the nearest one. A number too large for floating point
is refused.
-/

namespace TextTemplate.Json

/-- The blanks between the parts of a document. -/
def isGap (c : Char) : Bool :=
  c == ' ' || c == '\n' || c == '\t' || c == '\r'

/-- The text without the blanks that lead it. -/
def skipGap (cs : List Char) : List Char :=
  cs.dropWhile isGap

/-! ## Numbers -/

/-- Powers of ten in floating point. -/
def tenToThe (n : Nat) : Float :=
  Float.ofScientific 1 false n

/-- A floating-point number times a power of ten; none when the result is infinite.
Powers beyond the range of floating point are applied in steps; the fuel bounds the
steps, three of which reach zero. -/
def scale : Nat → Float → Int → Option Float
  | 0, number, _ => some number
  | fuel + 1, number, exponent =>
    if exponent.natAbs ≤ 308 then
      if 0 ≤ exponent then
        let scaled := number * tenToThe exponent.natAbs
        if scaled.isInf then none else some scaled
      else some (number / tenToThe exponent.natAbs)
    else if number == 0.0 then some number
    else if 0 ≤ exponent then none
    else scale fuel (number / tenToThe 308) (exponent + 308)

/-- A number from its digits and a power of ten. -/
def decimalOf (negative : Bool) (significand : Nat) (exponent : Int) : Option Json :=
  (scale 8 significand.toUInt64.toFloat exponent).map fun number =>
    decimal (if negative then -number else number)

/-- Appends digits to a significand as long as it stays below `2 ^ 64`; what is left
begins with the first digit that did not fit or with no digit. Also counts the
digits taken. -/
def takeDigits (significand taken : Nat) : List Char → Nat × Nat × List Char
  | [] => (significand, taken, [])
  | c :: rest =>
    if c.isDigit then
      let next := significand * 10 + (c.toNat - '0'.toNat)
      if next < UInt64.size then takeDigits next (taken + 1) rest
        else (significand, taken, c :: rest)
    else (significand, taken, c :: rest)

/-- The number whose digits end here or go on with an exponent. -/
def readExponentPart (negative : Bool) (significand : Nat) (exponent : Int)
    (cs : List Char) :
    Option (Json × List Char) :=
  match cs with
  | c :: rest =>
    if c == 'e' || c == 'E' then
      let (down, digits) := match rest with
        | '+' :: more => (false, more)
        | '-' :: more => (true, more)
        | more => (false, more)
      let written := digits.takeWhile Char.isDigit
      if written.isEmpty then none
      else
        let size : Int := Int.ofNat ((String.ofList written).toNat?.getD 0)
        (decimalOf negative significand (if down then exponent - size
          else exponent + size)).map
          fun number => (number, digits.dropWhile Char.isDigit)
    else (decimalOf negative significand exponent).map fun number => (number, cs)
  | [] => (decimalOf negative significand exponent).map fun number => (number, cs)

/-- The number whose point has been read: at least one digit must follow. -/
def readFractionPart (negative : Bool) (significand : Nat) (exponent : Int)
    (cs : List Char) :
    Option (Json × List Char) :=
  if (cs.takeWhile Char.isDigit).isEmpty then none
  else
    let (longer, taken, rest) := takeDigits significand 0 cs
    readExponentPart negative longer (exponent - taken) (rest.dropWhile Char.isDigit)

/-- A whole number as the document keeps it. -/
def wholeNumber (negative : Bool) (significand : Nat) : Json :=
  if !negative then integer significand
  else if 0 < significand && Text.isInt64 (-Int.ofNat significand) then
    integer (-Int.ofNat significand)
  else decimal (-significand.toUInt64.toFloat)

/-- What follows the whole part of a number: a fraction, an exponent, or nothing.
`dropped` counts the digits of the whole part that did not fit the significand. -/
def readNumberTail (negative : Bool) (significand dropped : Nat) (cs : List Char) :
    Option (Json × List Char) :=
  match cs with
  | '.' :: rest => readFractionPart negative significand dropped rest
  | 'e' :: _ => readExponentPart negative significand dropped cs
  | 'E' :: _ => readExponentPart negative significand dropped cs
  | _ =>
    if dropped == 0 then some (wholeNumber negative significand, cs)
    else readExponentPart negative significand dropped cs

/-- A number after its sign. A leading zero stands alone. -/
def readUnsignedNumber (negative : Bool) (cs : List Char) : Option (Json × List Char) :=
  match cs with
  | '0' :: rest =>
    match rest with
    | c :: _ => if c.isDigit then none else readNumberTail negative 0 0 rest
    | [] => readNumberTail negative 0 0 rest
  | c :: _ =>
    if c.isDigit then
      let (significand, _, rest) := takeDigits 0 0 cs
      let beyond := rest.takeWhile Char.isDigit
      readNumberTail negative significand beyond.length (rest.dropWhile Char.isDigit)
    else none
  | [] => none

/-! ## Strings -/

/-- The value of a hexadecimal digit. -/
def hexValue (c : Char) : Option Nat :=
  if c.isDigit then some (c.toNat - '0'.toNat)
  else if 'a' ≤ c && c ≤ 'f' then some (c.toNat - 'a'.toNat + 10)
  else if 'A' ≤ c && c ≤ 'F' then some (c.toNat - 'A'.toNat + 10)
  else none

/-- Four hexadecimal digits. -/
def readUnit : List Char → Option (Nat × List Char)
  | a :: b :: c :: d :: rest => do
    let a ← hexValue a
    let b ← hexValue b
    let c ← hexValue c
    let d ← hexValue d
    return (((a * 16 + b) * 16 + c) * 16 + d, rest)
  | _ => none

/-- The character of a numbered escape. The first half of a pair must be followed by
the second. -/
def readNumbered (cs : List Char) : Option (Char × List Char) := do
  let (unit, rest) ← readUnit cs
  if 0xd800 ≤ unit && unit < 0xdc00 then
    match rest with
    | '\\' :: 'u' :: more =>
      let (second, after) ← readUnit more
      if 0xdc00 ≤ second && second < 0xe000 then
        return (Char.ofNat (0x10000 + (unit - 0xd800) * 0x400 + (second - 0xdc00)),
          after)
      else none
    | _ => none
  else if 0xdc00 ≤ unit && unit < 0xe000 then none
  else return (Char.ofNat unit, rest)

/-- The character of an escape, after its backslash. -/
def readEscape : List Char → Option (Char × List Char)
  | '"' :: rest => some ('"', rest)
  | '\\' :: rest => some ('\\', rest)
  | '/' :: rest => some ('/', rest)
  | 'b' :: rest => some ('\x08', rest)
  | 'f' :: rest => some ('\x0c', rest)
  | 'n' :: rest => some ('\n', rest)
  | 'r' :: rest => some ('\r', rest)
  | 't' :: rest => some ('\t', rest)
  | 'u' :: rest => readNumbered rest
  | _ => none

/-- The characters of a string up to its closing quote. The fuel bounds the
characters read. -/
def readStringTail : Nat → List Char → Option (List Char × List Char)
  | 0, _ => none
  | _ + 1, [] => none
  | fuel + 1, c :: rest =>
    if c == '"' then some ([], rest)
    else if c == '\\' then do
      let (escaped, more) ← readEscape rest
      let (text, after) ← readStringTail fuel more
      return (escaped :: text, after)
    else if c.toNat < 0x20 then none
    else do
      let (text, after) ← readStringTail fuel rest
      return (c :: text, after)

/-- A string after its opening quote. -/
def readStringBody (cs : List Char) : Option (String × List Char) :=
  (readStringTail (cs.length + 1) cs).map fun (text, rest) => (String.ofList text, rest)

/-! ## Documents -/

/-- The text after an expected beginning. -/
def expect : List Char → List Char → Option (List Char)
  | [], cs => some cs
  | _ :: _, [] => none
  | c :: word, d :: rest => if c == d then expect word rest else none

mutual

/-- A value, with blanks before it. `depth` counts the containers that may still be
opened. The fuel bounds the steps and is chosen from the length of the text. -/
def readValue : Nat → Nat → List Char → Option (Json × List Char)
  | 0, _, _ => none
  | fuel + 1, depth, cs =>
    match skipGap cs with
    | 'n' :: rest => (expect ['u', 'l', 'l'] rest).map fun after => (null, after)
    | 't' :: rest => (expect ['r', 'u', 'e'] rest).map fun after => (bool true, after)
    | 'f' :: rest =>
      (expect ['a', 'l', 's', 'e'] rest).map fun after => (bool false, after)
    | '-' :: rest => readUnsignedNumber true rest
    | '"' :: rest => (readStringBody rest).map fun (text, after) => (string text, after)
    | '[' :: rest =>
      if depth == 0 then none
      else
        match skipGap rest with
        | ']' :: after => some (array [], after)
        | _ =>
          (readItems fuel (depth - 1) rest).map fun (items, after) =>
            (array items, after)
    | '\x7b' :: rest =>
      if depth == 0 then none
      else
        match skipGap rest with
        | '\x7d' :: after => some (object [], after)
        | _ =>
          (readMembers fuel (depth - 1) rest).map fun (members, after) =>
            (object members, after)
    | other => readUnsignedNumber false other

/-- The items of an array, from the first one through the closing bracket. -/
def readItems : Nat → Nat → List Char → Option (List Json × List Char)
  | 0, _, _ => none
  | fuel + 1, depth, cs => do
    let (item, rest) ← readValue fuel depth cs
    match skipGap rest with
    | ']' :: after => return ([item], after)
    | ',' :: more =>
      let (items, after) ← readItems fuel depth more
      return (item :: items, after)
    | _ => none

/-- The members of an object, from the first one through the closing brace. -/
def readMembers : Nat → Nat → List Char → Option (List (String × Json) × List Char)
  | 0, _, _ => none
  | fuel + 1, depth, cs => do
    match skipGap cs with
    | '"' :: opened =>
      let (name, afterName) ← readStringBody opened
      match skipGap afterName with
      | ':' :: afterColon =>
        let (value, rest) ← readValue fuel depth afterColon
        match skipGap rest with
        | '\x7d' :: after => return ([(name, value)], after)
        | ',' :: more =>
          let (members, after) ← readMembers fuel depth more
          return ((name, value) :: members, after)
        | _ => none
      | _ => none
    | _ => none

end

/-- How many containers may be nested. -/
def deepest : Nat := 127

/-- The document that a text holds, if it holds one and nothing else. -/
def read (text : String) : Option Json :=
  let cs := text.toList
  match readValue (2 * cs.length + 2) deepest cs with
  | some (document, rest) => if (skipGap rest).isEmpty then some document else none
  | none => none

end TextTemplate.Json
