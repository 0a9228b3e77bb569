import ResultBoards.Number.Binary64
import ResultBoards.Text.Digits

/-!
# Numerals

Numbers written with a point, an exponent or both: `1.5e3` is `15 * 10 ^ 2`.
-/

namespace ResultBoards

/-- The number `digits * 10 ^ power` with a sign. -/
structure Numeral where
  negative : Bool
  digits : Nat
  power : Int
deriving DecidableEq, Repr

namespace Numeral

/-- Digits without anything else, at least one. -/
def areDigits (text : List Char) : Bool :=
  !text.isEmpty && text.all Char.isDigit

/-- The exponent that a text says after its mark.  There may be no exponent at all. -/
def exponent? : List Char → Option Int
  | [] => some 0
  | _ :: text =>
      let (negative, digits) := Text.splitSign text
      if areDigits digits then some (Text.signed negative (Text.numberOf 10 digits)) else none

/-- The number that a text writes: a sign, digits with a point before, between or after
them, and an exponent.  Only the digits are needed. -/
def ofText? (text : List Char) : Option Numeral := do
  let (negative, rest) := Text.splitSign text
  let mantissa := rest.takeWhile fun c => c != 'e' && c != 'E'
  let exponent ← exponent? (rest.drop mantissa.length)
  let whole := mantissa.takeWhile (· ≠ '.')
  let fraction := (mantissa.drop whole.length).drop 1
  if areDigits (whole ++ fraction) then
    return ⟨negative, Text.numberOf 10 (whole ++ fraction), exponent - fraction.length⟩
  else none

/-- The nearest binary64 number. -/
def toBinary64 (number : Numeral) : Binary64 :=
  .ofDecimal number.negative number.digits number.power

example : ofText? "-.25e3".toList = some ⟨true, 25, 1⟩ ∧ ofText? "1.".toList = some ⟨false, 1, 0⟩ ∧
    ofText? ".".toList = none ∧ ofText? "1e".toList = none := by
  decide

end Numeral

end ResultBoards
