import TextTemplate.Text.Numeral

/-!
# Reading decimal fractions

A floating-point number is written as digits with an optional point, an optional sign in
front and an optional exponent behind, or as one of the words for infinity and for "not
a number". The number read is the representable number nearest to the written one.
Exponents far outside the representable range are settled from the count of digits
alone, so a short text never asks for a huge power of ten.
-/

namespace TextTemplate.Decimal

open TextTemplate.Text

/-- A decimal number `significand · 10 ^ exponent`. -/
structure Scientific where
  significand : Nat
  exponent : Int

namespace Scientific

/-- The number of decimal digits of the significand. -/
def digitCount (number : Scientific) : Nat :=
  (Nat.toDigits 10 number.significand).length

/-- The double-precision number nearest to a decimal number. -/
def toFloat (number : Scientific) : Float :=
  let reach := number.exponent + number.digitCount
  if number.significand == 0 || reach < -400 then 0.0
  else if 400 < reach then 1.0 / 0.0
  else Float.ofScientific number.significand (number.exponent < 0)
    number.exponent.natAbs

/-- The single-precision number nearest to a decimal number. -/
def toFloat32 (number : Scientific) : Float32 :=
  let reach := number.exponent + number.digitCount
  if number.significand == 0 || reach < -400 then 0.0
  else if 400 < reach then 1.0 / 0.0
  else Float32.ofScientific number.significand (number.exponent < 0)
    number.exponent.natAbs

end Scientific

/-- What a floating-point text writes, apart from its sign. -/
inductive Magnitude where
  | finite (number : Scientific)
  | infinite
  | notANumber

/-- The exponent that ends a number: nothing, or a letter and a signed whole number. -/
def readExponent : List Char → Option Int
  | [] => some 0
  | c :: rest => if c == 'e' || c == 'E' then readSigned rest else none

/-- Digits with an optional point and an optional exponent. -/
def readScientific (cs : List Char) : Option Scientific :=
  let whole := cs.takeWhile Char.isDigit
  let afterWhole := cs.dropWhile Char.isDigit
  let (fraction, afterFraction) := match afterWhole with
    | '.' :: rest => (rest.takeWhile Char.isDigit, rest.dropWhile Char.isDigit)
    | _ => ([], afterWhole)
  if whole.isEmpty && fraction.isEmpty then none
  else (readExponent afterFraction).map fun exponent =>
    { significand := digitsValue 0 (whole ++ fraction)
      exponent := exponent - fraction.length }

/-- A number without its sign, or one of the words, in letters of any case. -/
def readMagnitude (cs : List Char) : Option Magnitude :=
  let word := String.ofList (cs.map Char.toLower)
  if word == "inf" || word == "infinity" then some .infinite
  else if word == "nan" then some .notANumber
  else (readScientific cs).map .finite

/-- A sign and what follows it. -/
def readSign : List Char → Bool × List Char
  | '-' :: rest => (true, rest)
  | '+' :: rest => (false, rest)
  | cs => (false, cs)

/-- The double-precision number that a text writes. -/
def readFloat (text : String) : Option Float :=
  let (negative, rest) := readSign text.toList
  (readMagnitude rest).map fun magnitude =>
    let value := match magnitude with
      | .finite number => number.toFloat
      | .infinite => 1.0 / 0.0
      | .notANumber => 0.0 / 0.0
    if negative then -value else value

/-- The single-precision number that a text writes. -/
def readFloat32 (text : String) : Option Float32 :=
  let (negative, rest) := readSign text.toList
  (readMagnitude rest).map fun magnitude =>
    let value := match magnitude with
      | .finite number => number.toFloat32
      | .infinite => 1.0 / 0.0
      | .notANumber => 0.0 / 0.0
    if negative then -value else value

end TextTemplate.Decimal
