import ScopedStore.Decimal.Double

/-!
# The shortest decimal text of a double

A double is written with the fewest digits that are read back as the same number. The numbers
that round to a double form an interval around it; for one digit, two digits and so on, the
neighbours of the double on the grid of that many digits are tested against the interval, and
the first grid with a hit wins. Of two hits the nearer is taken, of two equally near ones the
even one.

How the digits are then laid out is a decision of the format, held by `NumberLayout`.
-/

set_option autoImplicit false

namespace ScopedStore.Decimal

/-- Significant digits without trailing zeros, and the power of ten that the first of them stands
for. -/
structure Digits where
  digits : List Char
  exponent : Int
  deriving DecidableEq, Repr

/-- A magnitude between the two ends of the interval of numbers that round to it, all three in units
of the same power of two. The interval is closed if the ends themselves round to the number. -/
structure Interval where
  below : Nat
  centre : Nat
  above : Nat
  closed : Bool
  unit : Int

/-- The interval of a double that is not zero. Below a power of two the gap is half as wide. -/
def Double.interval (number : Double) : Interval where
  below :=
    if number.mantissa == leadingBit && lowestExponent < number.exponent then
      4 * number.mantissa - 1
    else 4 * number.mantissa - 2
  centre := 4 * number.mantissa
  above := 4 * number.mantissa + 2
  closed := number.mantissa % 2 == 0
  unit := number.exponent - 2

/-- Multiplies a fraction by ten to the power `exponent`. -/
def scaleByTen (numerator denominator : Nat) : Int → Nat × Nat
  | .ofNat exponent => (numerator * Nat.pow 10 exponent, denominator)
  | .negSucc exponent => (numerator, denominator * Nat.pow 10 (exponent + 1))

/-- The power of ten of the first digit of a double that is not zero. The estimate from the
binary exponent is exact or one too small. -/
def Double.decimalExponent (number : Double) : Int :=
  let binary : Int := (Nat.log2 number.mantissa : Int) + number.exponent
  let estimate := Int.fdiv (binary * 30103) 100000
  let magnitude := number.ratio
  let scaled := scaleByTen magnitude.1 magnitude.2 (-(estimate + 1))
  if scaled.2 ≤ scaled.1 then estimate + 1 else estimate

/-- The point on the grid of multiples of `10 ^ gridExponent` that is to stand for a number,
if one of its neighbours on the grid lies in its interval. -/
def Interval.gridPoint? (interval : Interval) (gridExponent : Int) : Option Nat :=
  let onGrid (bound : Nat) : Nat × Nat :=
    let scaled := scaleByTwo bound 1 interval.unit
    scaleByTen scaled.1 scaled.2 (-gridExponent)
  let below := onGrid interval.below
  let centre := onGrid interval.centre
  let above := onGrid interval.above
  let holds (point : Nat) : Bool :=
    let place := point * centre.2
    if interval.closed then below.1 ≤ place && place ≤ above.1
    else below.1 < place && place < above.1
  let lower := centre.1 / centre.2
  let upper := lower + 1
  match holds lower, holds upper with
  | false, false => none
  | true, false => some lower
  | false, true => some upper
  | true, true =>
      let toLower := centre.1 - lower * centre.2
      let toUpper := upper * centre.2 - centre.1
      if toLower < toUpper then some lower
      else if toUpper < toLower then some upper
      else if lower % 2 == 0 then some lower else some upper

/-- The digits of a grid point, without trailing zeros. -/
def Digits.ofGridPoint (point : Nat) (gridExponent : Int) : Digits :=
  let written := Nat.toDigits 10 point
  ⟨(written.reverse.dropWhile (· == '0')).reverse,
    gridExponent + (written.length : Int) - 1⟩

/-- The shortest digits of a double that is not zero. Seventeen always suffice. -/
def Double.shortest (number : Double) : Digits :=
  let interval := number.interval
  let first := number.decimalExponent
  let candidate (count : Nat) : Option Digits :=
    let gridExponent := first + 1 - (count : Int)
    (interval.gridPoint? gridExponent).map (Digits.ofGridPoint · gridExponent)
  ((List.range 17).findSome? fun count => candidate (count + 1)).getD ⟨['0'], 0⟩

/-! ## Layout -/

/-- How the digits of a number become its text: the least and the greatest power of ten of a first
digit that are written without an exponent. -/
structure NumberLayout where
  lowestPositional : Int
  highestPositional : Int

/-- The digits around a decimal point, with at least one digit on either side. -/
def Digits.positional (number : Digits) : List Char :=
  match number.exponent with
  | .ofNat exponent =>
      let whole := number.digits.take (exponent + 1)
      let padding := List.replicate (exponent + 1 - number.digits.length) '0'
      let fraction := number.digits.drop (exponent + 1)
      whole ++ padding ++ '.' :: (if fraction.isEmpty then ['0'] else fraction)
  | .negSucc exponent => '0' :: '.' :: List.replicate exponent '0' ++ number.digits

/-- One digit, the others behind a decimal point, and the signed power of ten. -/
def Digits.scientific (number : Digits) : List Char :=
  let fraction := number.digits.drop 1
  number.digits.take 1 ++ (if fraction.isEmpty then [] else '.' :: fraction) ++
    ['e', if number.exponent < 0 then '-' else '+'] ++ Nat.toDigits 10 number.exponent.natAbs

/-- The text of a double in a layout. -/
def Double.render (layout : NumberLayout) (number : Double) : List Char :=
  let digits := if number.isZero then ⟨['0'], 0⟩ else number.shortest
  let magnitude :=
    if layout.lowestPositional ≤ digits.exponent && digits.exponent ≤ layout.highestPositional then
      digits.positional
    else digits.scientific
  if number.negative then '-' :: magnitude else magnitude

end ScopedStore.Decimal
