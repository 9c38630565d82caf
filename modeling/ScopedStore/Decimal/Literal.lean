import ScopedStore.Decimal.Double

/-!
# The value of a decimal literal

A decimal literal is an optional minus sign, digits, an optional fraction and an optional
exponent. Its significand is gathered from the left as long as it fits into 64 bits; digits of
the integer part that do not fit raise the power of ten, digits of the fraction that do not fit
are left out. The significand is then rounded to a double, and multiplied or divided by the power
of ten, which is rounded to a double as well; the result is rounded once more. So the value of a
literal may miss the double that is nearest to it.

A literal without fraction and exponent that fits into 64 bits, signed or unsigned, is an
integer; only the negated zero is a double, since no integer carries its sign.
-/

set_option autoImplicit false

namespace ScopedStore.Decimal

/-- A decimal literal in its parts: a minus sign, the digits in front of the point, at least one,
the digits behind it, at least one if there is a point, and the exponent with its minus sign and its
digits. -/
structure Literal where
  negative : Bool
  whole : List Nat
  fraction : Option (List Nat)
  exponent : Option (Bool × List Nat)
  deriving DecidableEq, Repr

/-- What a number of a text denotes: a signed or unsigned integer of 64 bits, or any other
number. -/
inductive Quantity
  | integer (value : Int)
  | double (value : Double)
  deriving DecidableEq, Repr

/-- The largest significand. -/
def maxSignificand : Nat := Bounds.unsigned64 - 1

/-- The largest power of ten that is a double. -/
def maxPowerOfTen : Nat := 308

/-- The largest exponent that a literal may name before its size alone decides. -/
def maxWrittenExponent : Nat := Bounds.signed32 - 1

/-- A significand with the power of ten that belongs to it. -/
structure Significand where
  value : Nat
  power : Int
  deriving DecidableEq, Repr

/-- Gathers the digits in front of the point: from the first one that does not fit on, each
digit raises the power of ten. -/
def Significand.ofWhole (digits : List Nat) : Significand :=
  digits.foldl (fun gathered digit =>
    if gathered.power == 0 && gathered.value * 10 + digit ≤ maxSignificand then
      ⟨gathered.value * 10 + digit, 0⟩
    else ⟨gathered.value, gathered.power + 1⟩) ⟨0, 0⟩

/-- Gathers the digits behind the point, up to the first one that does not fit. -/
def Significand.withFraction (gathered : Significand) : List Nat → Significand
  | [] => gathered
  | digit :: rest =>
      if gathered.value * 10 + digit ≤ maxSignificand then
        Significand.withFraction ⟨gathered.value * 10 + digit, gathered.power - 1⟩ rest
      else gathered

/-- The number that a list of digits writes. -/
def ofDigits (digits : List Nat) : Nat := digits.foldl (fun value digit => value * 10 + digit) 0

/-- The double nearest to a power of ten, unless it is too large for one. Up to `10 ^ 22` it is the
power itself. -/
def Double.powerOfTen? (power : Nat) : Option Double :=
  Double.ofRatio? false (Nat.pow 10 power) 1

/-- A double divided by another one several times, with every quotient rounded; zero stays as it
is. -/
def Double.overRepeatedly? (number divisor : Double) : Nat → Option Double
  | 0 => some number
  | times + 1 =>
      if number.isZero then some number
      else (number.over? divisor).bind fun quotient => quotient.overRepeatedly? divisor times

/-- A double times the double of a power of ten; by a negative power it is divided. A power above
the range has no double, and only zero can be multiplied by it. One below the range is reached in
divisions by the largest power that is in it, and then by what is left. -/
def Double.timesPowerOfTen? (number : Double) : Int → Option Double
  | .ofNat power =>
      if power ≤ maxPowerOfTen then (Double.powerOfTen? power).bind number.times?
      else if number.isZero then some number
      else none
  | .negSucc power => do
      let largest ← Double.powerOfTen? maxPowerOfTen
      let last ← Double.powerOfTen? (power % maxPowerOfTen + 1)
      (← number.overRepeatedly? largest (power / maxPowerOfTen)).over? last

namespace Literal

/-- The significand of a literal. -/
def significand (literal : Literal) : Significand :=
  (Significand.ofWhole literal.whole).withFraction (literal.fraction.getD [])

/-- The value of a literal as a double, unless it is too large for one. -/
def toDouble? (literal : Literal) : Option Double :=
  let significand := literal.significand
  let scaled (power : Int) : Option Double :=
    (Double.ofRatio? literal.negative significand.value 1).bind
      (Double.timesPowerOfTen? · power)
  match literal.exponent with
  | none => scaled significand.power
  | some (downwards, digits) =>
      let written := ofDigits digits
      if maxWrittenExponent < written then
        if significand.value != 0 && !downwards then none else some (.zero literal.negative)
      else scaled (if downwards then significand.power - written else significand.power + written)

/-- The value of a literal, unless it is too large for a double. -/
def value? (literal : Literal) : Option Quantity :=
  let significand := literal.significand
  let isPlain := literal.fraction.isNone && literal.exponent.isNone && significand.power == 0
  if isPlain && !literal.negative then some (.integer significand.value)
  else if isPlain && 0 < significand.value && significand.value ≤ Bounds.signed64 then
    some (.integer (-significand.value))
  else literal.toDouble?.map .double

end Literal

end ScopedStore.Decimal
