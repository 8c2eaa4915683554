import TextTemplate.Decimal.Shortest

/-!
# Writing floating-point numbers

A number is written with its shortest digits, either in positional form or with an
exponent. Which form, and the details of each, are decisions of the text format that the
number goes into; a `Layout` records them.
-/

namespace TextTemplate.Decimal

/-- The decisions of a text format about floating-point numbers. -/
structure Layout where
  /-- The least power of ten of the leading digit that is written positionally. -/
  leastPositional : Int
  /-- The first power of ten of the leading digit that is written with an exponent. -/
  firstExponential : Int
  /-- What stands before an exponent that is not negative. -/
  exponentSign : String
  /-- Which of two shortest forms at the same distance is written. -/
  ties : TieRule

namespace Layout

/-- As templates print numbers: positional from `0.0001` and below `10 ^ 16`. -/
def printed : Layout := ⟨-4, 16, "", .greater⟩

/-- As JSON writes numbers: positional from `0.00001` and below `10 ^ 16`, exponents
always signed. -/
def json : Layout := ⟨-5, 16, "+", .even⟩

/-- Some zeros. -/
def zeros (count : Nat) : String :=
  String.ofList (List.replicate count '0')

/-- Decimal digits in positional form, with at least one digit on either side of
the point. -/
def positional (decimal : Digits) : String :=
  let digits := Nat.toDigits 10 decimal.digits
  if 0 ≤ decimal.exponent then
    String.ofList digits ++ zeros decimal.exponent.toNat ++ ".0"
  else
    let places := (-decimal.exponent).toNat
    if places < digits.length then
      let whole := digits.length - places
      String.ofList (digits.take whole) ++ "." ++ String.ofList (digits.drop whole)
    else "0." ++ zeros (places - digits.length) ++ String.ofList digits

/-- Decimal digits with an exponent: one digit, the others after a point, and the power
of ten. -/
def exponential (layout : Layout) (decimal : Digits) : String :=
  let digits := Nat.toDigits 10 decimal.digits
  let power := decimal.exponent + digits.length - 1
  let fraction := digits.drop 1
  let point := if fraction.isEmpty then "" else "." ++ String.ofList fraction
  let sign := if power < 0 then "-" else layout.exponentSign
  String.ofList (digits.take 1) ++ point ++ "e" ++ sign ++ toString power.natAbs

/-- The text of a number that is not infinite and not "not a number". -/
def finite (layout : Layout) (bits : UInt64) : String :=
  let sign := if bits.toNat / Nat.pow 2 63 == 1 then "-" else ""
  let body := match Binary.ofBits bits with
    | none => "0.0"
    | some number =>
      let decimal := shortest layout.ties number
      let power := decimal.exponent + (Nat.toDigits 10 decimal.digits).length - 1
      if layout.leastPositional ≤ power && power < layout.firstExponential
        then positional decimal
      else layout.exponential decimal
  sign ++ body

end Layout

/-- Whether a number is neither infinite nor "not a number". -/
def isFinite (x : Float) : Bool :=
  x.toBits.toNat / Nat.pow 2 52 % Nat.pow 2 11 != 2047

/-- The printed form of any floating-point number. -/
def print (x : Float) : String :=
  if isFinite x then Layout.printed.finite x.toBits
  else if x.toBits.toNat % Nat.pow 2 52 != 0 then "NaN"
  else if x.toBits.toNat / Nat.pow 2 63 == 1 then "-inf"
  else "inf"

end TextTemplate.Decimal
