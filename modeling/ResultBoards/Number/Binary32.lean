import ResultBoards.Number.Numeral

/-!
# Binary32 numbers

The numbers of the IEEE 754 format binary32.  Each of them is a binary64 number too and is
kept as one.
-/

namespace ResultBoards.Binary32

/-- The exponent at which a positive quotient has a mantissa of 24 binary digits, or the
least exponent of the format where that is larger. -/
def exponentFor (numerator denominator : Nat) : Int :=
  max (Magnitude.exponentFor numerator denominator + 29) (-149)

/-- The number of the format nearest to a positive quotient, and nothing when it is too
large. -/
def ofQuotient? (numerator denominator : Nat) : Option Magnitude :=
  let exponent := exponentFor numerator denominator
  let (scaledNumerator, scaledDenominator) :=
    Magnitude.scaleDown numerator denominator exponent
  let mantissa := Magnitude.roundHalfEven scaledNumerator scaledDenominator
  if mantissa * Nat.pow 2 (exponent + 149).toNat < Nat.pow 2 277 then
    Magnitude.ofScaledQuotient? mantissa 1 exponent
  else none

/-- The number of the format nearest to a numeral. -/
def ofDecimal (number : Numeral) : Binary64 :=
  if number.digits = 0 then .finite number.negative .zero
  else if 100 < number.power then .infinite number.negative
  else if number.power < -((Nat.log2 number.digits : Int) + 100) then
    .finite number.negative .zero
  else if 0 ≤ number.power then
    .ofMagnitude? number.negative (ofQuotient? (number.digits * Nat.pow 10 number.power.toNat) 1)
  else
    .ofMagnitude? number.negative (ofQuotient? number.digits (Nat.pow 10 (-number.power).toNat))

end ResultBoards.Binary32
