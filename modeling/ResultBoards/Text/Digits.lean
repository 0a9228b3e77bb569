import ResultBoards.Text.Hex

/-!
# Digits

Numbers written in digits, the signs in front of them, and characters written as the
number of their code point.
-/

namespace ResultBoards.Text

/-- The number that digits write in a base. -/
def numberOf (base : Nat) (digits : List Char) : Nat :=
  digits.foldl (fun value c => value * base + (hexValue? c).getD 0) 0

/-- Whether a minus sign stands in front of a text, and the text without its sign. -/
def splitSign : List Char → Bool × List Char
  | '-' :: rest => (true, rest)
  | '+' :: rest => (false, rest)
  | rest => (false, rest)

/-- A number with a sign. -/
def signed (negative : Bool) (magnitude : Nat) : Int :=
  if negative then -magnitude else magnitude

/-- The character of a code point, unless it is a surrogate or too large. -/
def charOfCode? (code : Nat) : Option Char :=
  if code < 0xd800 ∨ (0xe000 ≤ code ∧ code < 0x110000) then some (Char.ofNat code) else none

/-- Reads a number of exactly so many hexadecimal digits. -/
def readHex (count : Nat) (text : List Char) : Option (Nat × List Char) :=
  let digits := text.take count
  if digits.length = count ∧ digits.all fun c => (hexValue? c).isSome then
    some (numberOf 16 digits, text.drop count)
  else none

/-- Reads a character written as a code point of exactly so many hexadecimal digits. -/
def readCode (count : Nat) (text : List Char) : Option (Char × List Char) := do
  let (code, rest) ← readHex count text
  return (← charOfCode? code, rest)

example : numberOf 10 "1024".toList = 1024 ∧ numberOf 16 "fF".toList = 255 := by decide

end ResultBoards.Text
