/-!
# The fewest digits that read back

Every finite floating-point number is `m · 2 ^ e`, and all the real numbers of an
interval around it round to it. The shortest decimal form is the one with the fewest
digits inside that interval and, among those, the one nearest to the number. For each
count of digits the candidates are the two neighbours of the number on the decimal grid
of that precision: if any point of the grid lies in the interval, one of those two does.
Where both are equally near, text formats differ in which one they take. All arithmetic
is on natural numbers, with both sides of a comparison brought to a common denominator.
-/

namespace TextTemplate.Decimal

/-- A finite positive number `mantissa · 2 ^ exponent`, with the mantissa of full width
except among the smallest numbers. -/
structure Binary where
  mantissa : Nat
  exponent : Int

/-- A decimal number `digits · 10 ^ exponent`. -/
structure Digits where
  digits : Nat
  exponent : Int

namespace Binary

/-- The number whose bit pattern is given, apart from its sign; none for zero,
infinities and patterns that stand for no number. -/
def ofBits (bits : UInt64) : Option Binary :=
  let fraction := bits.toNat % Nat.pow 2 52
  let power := bits.toNat / Nat.pow 2 52 % Nat.pow 2 11
  if power == 2047 then none
  else if power == 0 then
    if fraction == 0 then none else some ⟨fraction, -1074⟩
  else some ⟨Nat.pow 2 52 + fraction, Int.ofNat power - 1075⟩

/-- The number and the ends of its rounding interval in units of `2 ^ (exponent - 2)`:
the lower end, the number, the upper end. Below a power of two the numbers lie twice
as close. -/
def span (number : Binary) : Nat × Nat × Nat :=
  let centre := 4 * number.mantissa
  let below := if number.mantissa == Nat.pow 2 52 && -1074 < number.exponent
    then 1 else 2
  (centre - below, centre, centre + 2)

end Binary

/-- The factors that bring `c · 10 ^ p` and `x · 2 ^ q` to whole numbers of one unit:
the first factor multiplies `c`, the second multiplies `x`. -/
def commonUnit (p q : Int) : Nat × Nat :=
  (Nat.pow 10 p.toNat * Nat.pow 2 (-q).toNat, Nat.pow 2 q.toNat * Nat.pow 10 (-p).toNat)

/-- The greatest `k` with `10 ^ k ≤ x · 2 ^ q`, for a positive `x`. -/
def orderOf (x : Nat) (q : Int) : Int :=
  let numerator := x * Nat.pow 2 q.toNat
  let denominator := Nat.pow 2 (-q).toNat
  let guess : Int := (Nat.toDigits 10 numerator).length -
    (Nat.toDigits 10 denominator).length
  let (left, right) := commonUnit guess q
  if left ≤ x * right then guess else guess - 1

/-- Which of two neighbours at the same distance is taken. -/
inductive TieRule where
  | greater
  | even
  deriving DecidableEq, Repr

/-- Whether the neighbour above is taken, when the one below is `down` and they lie on
either side of the number at the distances `below` and `above`. -/
def TieRule.takesUpper (rule : TieRule) (down below above : Nat) : Bool :=
  if below == above then rule == .greater || down % 2 == 1 else above < below

/-- The best decimal on the grid of step `10 ^ p` within the rounding interval, if
any. -/
def nearestOnGrid (rule : TieRule) (number : Binary) (p : Int) : Option Nat :=
  let (low, centre, high) := number.span
  let (left, right) := commonUnit p (number.exponent - 2)
  let even := number.mantissa % 2 == 0
  let inside (c : Nat) : Bool :=
    if even then low * right ≤ c * left && c * left ≤ high * right
    else low * right < c * left && c * left < high * right
  let down := centre * right / left
  let up := down + 1
  match inside down, inside up with
  | true, true =>
    if rule.takesUpper down (centre * right - down * left) (up * left - centre * right)
      then some up
    else some down
  | true, false => some down
  | false, true => some up
  | false, false => none

/-- The decimal number without the zeros that end its digits. The fuel bounds the zeros
taken off. -/
def Digits.strip : Nat → Digits → Digits
  | 0, decimal => decimal
  | fuel + 1, decimal =>
    if decimal.digits % 10 == 0
      then strip fuel ⟨decimal.digits / 10, decimal.exponent + 1⟩
    else decimal

/-- The shortest decimal form of a positive number: seventeen digits always suffice. -/
def shortest (rule : TieRule) (number : Binary) : Digits :=
  let order := orderOf (4 * number.mantissa) (number.exponent - 2)
  let found := (List.range 17).findSome? fun n =>
    let p := order - Int.ofNat n
    (nearestOnGrid rule number p).map fun digits => (⟨digits, p⟩ : Digits)
  match found with
  | some decimal => decimal.strip 20
  | none => ⟨number.mantissa, 0⟩

end TextTemplate.Decimal
