import ResultBoards.Number.Binary64

/-!
# Shortest decimals

The text of a binary64 number has the fewest digits that read back as the same
number, and of those the nearest.  The search works on exact integers: for a number
of digits it tests the two neighbours of the value on the grid of decimals with that
many digits.
-/

namespace ResultBoards

/-- The decimal `digits * 10 ^ power`. -/
structure Decimal where
  digits : Nat
  power : Int
deriving DecidableEq, Repr

namespace Decimal

/-- The same decimal without trailing zeros among its digits. -/
def dropZeros : (fuel : Nat) → Decimal → Decimal
  | 0, decimal => decimal
  | fuel + 1, decimal =>
      if decimal.digits ≠ 0 ∧ decimal.digits % 10 = 0 then
        dropZeros fuel ⟨decimal.digits / 10, decimal.power + 1⟩
      else decimal

end Decimal

namespace Magnitude

/-- The exponent of ten of the first digit of a positive quotient. -/
def leadingPower (numerator denominator : Nat) : Int :=
  if denominator ≤ numerator then ((Nat.toDigits 10 (numerator / denominator)).length : Int) - 1
  else
    let inverse := (denominator + numerator - 1) / numerator
    if inverse ≤ 1 then 0 else -((Nat.toDigits 10 (inverse - 1)).length : Int)

/-- The interval of the reals that round to a magnitude, in quarters of its last
place: its lower end, the magnitude itself and its upper end. -/
def quarters (value : Magnitude) : Nat × Nat × Nat :=
  let centre := 4 * value.mantissa
  let below := if value.mantissa = Nat.pow 2 52 ∧ -1074 < value.exponent then 1 else 2
  (centre - below, centre, centre + 2)

/-- The decimal with `count` digits that rounds to the magnitude and is nearest to it,
if there is one.  The two candidates are the neighbours of the magnitude. -/
def withDigits? (value : Magnitude) (leading : Int) (count : Nat) : Option Decimal :=
  let power := leading - (count : Int) + 1
  let (low, centre, high) := value.quarters
  let twos := value.exponent - 2
  let gridScale := Nat.pow 10 power.toNat * Nat.pow 2 (-twos).toNat
  let valueScale := Nat.pow 10 (-power).toNat * Nat.pow 2 twos.toNat
  let closed := value.mantissa % 2 = 0
  let inside (digits : Nat) : Bool :=
    let point := digits * gridScale
    if closed then low * valueScale ≤ point && point ≤ high * valueScale
    else low * valueScale < point && point < high * valueScale
  let floor := centre * valueScale / gridScale
  match inside floor, inside (floor + 1) with
  | false, false => none
  | true, false => some ⟨floor, power⟩
  | false, true => some ⟨floor + 1, power⟩
  | true, true =>
      let remainder := centre * valueScale % gridScale
      if 2 * remainder < gridScale then some ⟨floor, power⟩
      else if gridScale < 2 * remainder then some ⟨floor + 1, power⟩
      else some ⟨floor + floor % 2, power⟩

/-- The shortest decimal that reads back as the magnitude. -/
def shortest (value : Magnitude) : Decimal :=
  if value.mantissa = 0 then ⟨0, 0⟩
  else
    let (numerator, denominator) := scaleDown value.mantissa 1 (-value.exponent)
    let leading := leadingPower numerator denominator
    match (List.range 17).findSome? fun shorter => value.withDigits? leading (shorter + 1) with
    | some decimal => decimal.dropZeros 17
    | none => ⟨0, 0⟩

end Magnitude

namespace Decimal

/-- The digits with the point where the power puts it, filled up with zeros.  A whole
number has no point. -/
def positional (decimal : Decimal) : List Char :=
  let digits := Nat.toDigits 10 decimal.digits
  if 0 ≤ decimal.power then
    if decimal.digits = 0 then digits else digits ++ List.replicate decimal.power.toNat '0'
  else
    let places := (-decimal.power).toNat
    if places < digits.length then
      digits.take (digits.length - places) ++ '.' :: digits.drop (digits.length - places)
    else '0' :: '.' :: List.replicate (places - digits.length) '0' ++ digits

/-- The first digit, a point and the other digits, then the exponent with its sign. -/
def scientific (decimal : Decimal) : List Char :=
  let digits := Nat.toDigits 10 decimal.digits
  let exponent := decimal.power + (digits.length : Int) - 1
  let mark := if exponent < 0 then ['e', '-'] else ['e', '+']
  let mantissa := match digits with
    | first :: second :: rest => first :: '.' :: second :: rest
    | short => short
  mantissa ++ mark ++ Nat.toDigits 10 exponent.natAbs

/-- A point and a zero after a text without a point. -/
def withPoint (text : List Char) : List Char :=
  if text.contains '.' then text else text ++ ['.', '0']

end Decimal

namespace Binary64

/-- The sign of a number as its text starts. -/
def signText (negative : Bool) : List Char :=
  if negative then ['-'] else []

/-- The positional text of a number: no exponent and no point after a whole number. -/
def toPositional : Binary64 → String
  | .finite negative magnitude =>
      String.ofList (signText negative ++ magnitude.shortest.positional)
  | .infinite negative => String.ofList (signText negative ++ "inf".toList)
  | .nan => "NaN"

/-- The positional text of a number, where a whole number shows a point and a zero. -/
def toPointed : Binary64 → String
  | .finite negative magnitude =>
      String.ofList (signText negative ++ Decimal.withPoint magnitude.shortest.positional)
  | other => other.toPositional

/-- The text of a number in JSON: positional from `1e-5` up to below `1e16`, with a
point in every case, and scientific elsewhere. -/
def toJsonText : Binary64 → String
  | .finite negative magnitude =>
      let decimal := magnitude.shortest
      let leading := decimal.power + ((Nat.toDigits 10 decimal.digits).length : Int) - 1
      let text :=
        if decimal.digits = 0 ∨ (-5 ≤ leading ∧ leading ≤ 15) then
          Decimal.withPoint decimal.positional
        else decimal.scientific
      String.ofList (signText negative ++ text)
  | .infinite _ => "null"
  | .nan => "null"

end Binary64

end ResultBoards
