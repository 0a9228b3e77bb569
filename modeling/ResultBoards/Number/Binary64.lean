/-!
# Binary64 numbers

The numbers of the IEEE 754 format binary64 as exact values: a finite one is
`mantissa * 2 ^ exponent` with a sign.  Results of arithmetic are computed in exact
integers and rounded once, to the nearest number, with ties to an even mantissa.
-/

namespace ResultBoards

/-- The magnitude `mantissa * 2 ^ exponent`. -/
structure Magnitude where
  mantissa : Nat
  exponent : Int
deriving DecidableEq, Repr

namespace Magnitude

/-- The magnitude of zero. -/
def zero : Magnitude := ⟨0, -1074⟩

/-- A quotient rounded to the nearest integer, a half to the even one. -/
def roundHalfEven (numerator denominator : Nat) : Nat :=
  let quotient := numerator / denominator
  let remainder := numerator % denominator
  if 2 * remainder < denominator then quotient
  else if denominator < 2 * remainder then quotient + 1
  else quotient + quotient % 2

/-- The fraction `numerator / (denominator * 2 ^ exponent)`, with both parts integers. -/
def scaleDown (numerator denominator : Nat) (exponent : Int) : Nat × Nat :=
  if 0 ≤ exponent then (numerator, denominator * Nat.pow 2 exponent.toNat)
  else (numerator * Nat.pow 2 (-exponent).toNat, denominator)

/-- The exponent at which a positive quotient has a mantissa of 53 binary digits, or the
least exponent of the format where that is larger. -/
def exponentFor (numerator denominator : Nat) : Int :=
  let guess : Int := (Nat.log2 numerator : Int) - (Nat.log2 denominator : Int) - 52
  let (scaledNumerator, scaledDenominator) := scaleDown numerator denominator guess
  let exponent := if scaledNumerator / scaledDenominator < Nat.pow 2 52 then guess - 1 else guess
  max exponent (-1074)

/-- The number of the format nearest to a quotient, and nothing when it is too large. -/
def ofQuotient? (numerator denominator : Nat) : Option Magnitude :=
  if numerator = 0 then some zero
  else
    let exponent := exponentFor numerator denominator
    let (scaledNumerator, scaledDenominator) := scaleDown numerator denominator exponent
    let mantissa := roundHalfEven scaledNumerator scaledDenominator
    let rounded : Magnitude :=
      if mantissa = Nat.pow 2 53 then ⟨Nat.pow 2 52, exponent + 1⟩
      else if mantissa = 0 then zero
      else ⟨mantissa, exponent⟩
    if rounded.exponent ≤ 971 then some rounded else none

/-- The quotient of `numerator * 2 ^ exponent` and `denominator`, rounded. -/
def ofScaledQuotient? (numerator denominator : Nat) (exponent : Int) : Option Magnitude :=
  let (scaledNumerator, scaledDenominator) := scaleDown numerator denominator (-exponent)
  ofQuotient? scaledNumerator scaledDenominator

/-- The rounded product. -/
def mul? (first second : Magnitude) : Option Magnitude :=
  ofScaledQuotient? (first.mantissa * second.mantissa) 1 (first.exponent + second.exponent)

/-- The rounded quotient by a divisor other than zero. -/
def div? (first second : Magnitude) : Option Magnitude :=
  ofScaledQuotient? first.mantissa second.mantissa (first.exponent - second.exponent)

/-- The number nearest to a power of ten, for powers within the format. -/
def powerOfTen? (power : Nat) : Option Magnitude :=
  ofQuotient? (Nat.pow 10 power) 1

/-- The magnitude rounded to an integer, a half away from zero. -/
def roundHalfUp (value : Magnitude) : Nat :=
  if 0 ≤ value.exponent then value.mantissa * Nat.pow 2 value.exponent.toNat
  else
    let unit := Nat.pow 2 (-value.exponent).toNat
    (2 * value.mantissa + unit) / (2 * unit)

end Magnitude

/-- A binary64 number. -/
inductive Binary64
  | finite (negative : Bool) (magnitude : Magnitude)
  | infinite (negative : Bool)
  | nan
deriving DecidableEq, Repr

namespace Binary64

/-- A sign and a magnitude, where no magnitude stands for one that is too large. -/
def ofMagnitude? (negative : Bool) : Option Magnitude → Binary64
  | some magnitude => .finite negative magnitude
  | none => .infinite negative

/-- The number nearest to `digits * 10 ^ power`. -/
def ofDecimal (negative : Bool) (digits : Nat) (power : Int) : Binary64 :=
  if digits = 0 then .finite negative .zero
  else if 400 < power then .infinite negative
  else if power < -((Nat.log2 digits : Int) + 400) then .finite negative .zero
  else if 0 ≤ power then
    ofMagnitude? negative (Magnitude.ofQuotient? (digits * Nat.pow 10 power.toNat) 1)
  else ofMagnitude? negative (Magnitude.ofQuotient? digits (Nat.pow 10 (-power).toNat))

/-- The number rounded to an integer, a half away from zero, and brought into the
range from `0` to `limit`.  What is not a number becomes `0`. -/
def clampToNat (limit : Nat) : Binary64 → Nat
  | .finite true _ => 0
  | .finite false magnitude => min limit magnitude.roundHalfUp
  | .infinite true => 0
  | .infinite false => limit
  | .nan => 0

end Binary64

end ResultBoards
