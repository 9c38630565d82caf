/-!
# Numbers of fixed width

The powers of two that bound the integers of 32 and of 64 bits stand here as numerals.

A finite double is a sign, a mantissa and a power of two, and everything about it is decided
in exact arithmetic on natural numbers: no operation here depends on the floating-point unit
of the machine, so that each of them can be evaluated inside a proof.

The one primitive is `Double.ofRatio?`, which rounds a fraction to the nearest double, a tie
going to the even mantissa. Products and quotients are the exact fraction, rounded once.
-/

set_option autoImplicit false

namespace ScopedStore.Bounds

/-- Two to the power 31: a signed integer of 32 bits is below it, and not below its negative. -/
def signed32 : Nat := 2147483648

/-- Two to the power 63: a signed integer of 64 bits is below it, and not below its negative. -/
def signed64 : Nat := 9223372036854775808

/-- Two to the power 64: an unsigned integer of 64 bits is below it. -/
def unsigned64 : Nat := 18446744073709551616

end ScopedStore.Bounds

namespace ScopedStore.Decimal

/-- The nearest integer to `numerator / denominator`; a half goes to the even neighbour. -/
def roundHalfEven (numerator denominator : Nat) : Nat :=
  let quotient := numerator / denominator
  let twice := 2 * (numerator % denominator)
  if twice < denominator then quotient
  else if denominator < twice then quotient + 1
  else if quotient % 2 == 0 then quotient else quotient + 1

/-- The fraction `numerator / denominator` times two to the power `exponent`. -/
def scaleByTwo (numerator denominator : Nat) : Int → Nat × Nat
  | .ofNat exponent => (numerator * Nat.pow 2 exponent, denominator)
  | .negSucc exponent => (numerator, denominator * Nat.pow 2 (exponent + 1))

/-- The exponent of the largest power of two that is at most the positive fraction. -/
def binaryExponent (numerator denominator : Nat) : Int :=
  let guess : Int := (Nat.log2 numerator : Int) - (Nat.log2 denominator : Int)
  let scaled := scaleByTwo numerator denominator (-guess)
  if scaled.2 ≤ scaled.1 then guess else guess - 1

/-- A finite double: `mantissa * 2 ^ exponent`, with a sign that zero has too. The mantissa is below
`2 ^ 53`. The exponent is from `-1074` to `971`, and as small as the mantissa allows. -/
structure Double where
  negative : Bool
  mantissa : Nat
  exponent : Int
  deriving DecidableEq, Repr, Inhabited

namespace Double

/-- Two to the power 53, the number of bits of a mantissa: every mantissa is below it. -/
def mantissaLimit : Nat := 9007199254740992

/-- Two to the power 52: only the smallest doubles have a mantissa below it. -/
def leadingBit : Nat := 4503599627370496

/-- The power of two of the smallest positive double. -/
def lowestExponent : Int := -1074

/-- The power of two of the largest doubles. -/
def highestExponent : Int := 971

/-- Zero, with a sign. -/
def zero (negative : Bool) : Double := ⟨negative, 0, lowestExponent⟩

/-- Is the number zero, with whatever sign? -/
def isZero (number : Double) : Bool := number.mantissa == 0

/-- The double nearest to a fraction with a positive denominator, unless it is too large. -/
def ofRatio? (negative : Bool) (numerator denominator : Nat) : Option Double :=
  if numerator == 0 then some (zero negative)
  else
    let exponent := max (binaryExponent numerator denominator - 52) lowestExponent
    let scaled := scaleByTwo numerator denominator (-exponent)
    let rounded := roundHalfEven scaled.1 scaled.2
    let (mantissa, exponent) :=
      if rounded == mantissaLimit then (leadingBit, exponent + 1) else (rounded, exponent)
    if highestExponent < exponent then none else some ⟨negative, mantissa, exponent⟩

/-- The magnitude as a fraction. -/
def ratio (number : Double) : Nat × Nat := scaleByTwo number.mantissa 1 number.exponent

/-- The product with the magnitude of another double, rounded once, unless it is too large. -/
def times? (number factor : Double) : Option Double :=
  let magnitude := number.ratio
  let other := factor.ratio
  ofRatio? number.negative (magnitude.1 * other.1) (magnitude.2 * other.2)

/-- The quotient by the magnitude of another double that is not zero, rounded once, unless it is
too large. -/
def over? (number divisor : Double) : Option Double :=
  let magnitude := number.ratio
  let other := divisor.ratio
  ofRatio? number.negative (magnitude.1 * other.2) (magnitude.2 * other.1)

end Double

end ScopedStore.Decimal
