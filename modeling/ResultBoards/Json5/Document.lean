import ResultBoards.Json.Value
import ResultBoards.Json5.Text

/-!
# JSON5 documents

JSON with comments, names without quotes, further forms of numbers and strings, and commas
after the last element.
-/

namespace ResultBoards.Json5

open Json (Value)

/-! ## Numbers -/

/-- An integer.  One that needs more than 64 bits is the nearest binary64 number. -/
def integer (negative : Bool) (magnitude : Nat) : Value :=
  let value := Text.signed negative magnitude
  if -0x8000000000000000 ≤ value ∧ value < 0x8000000000000000 then .number (.integer value)
  else .number (.real (.ofDecimal negative magnitude 0))

/-- An integer in hexadecimal digits, unless it needs more than 128 bits. -/
def hexadecimal? (negative : Bool) (digits : List Char) : Option Value :=
  let magnitude := Text.numberOf 16 digits
  if digits.isEmpty ∨ Nat.pow 2 128 ≤ magnitude then none else some (integer negative magnitude)

/-- Reads an exponent, if there is one. -/
def readExponent : List Char → Option (Option Int × List Char)
  | [] => some (none, [])
  | c :: rest =>
      if c = 'e' ∨ c = 'E' then
        let (negative, rest) := Text.splitSign rest
        let digits := rest.takeWhile Char.isDigit
        if digits.isEmpty then none
        else
          some (some (Text.signed negative (Text.numberOf 10 digits)), rest.drop digits.length)
      else some (none, c :: rest)

/-- Reads a decimal number. -/
def readDecimal (negative : Bool) (text : List Char) : Option (Value × List Char) := do
  let whole := text.takeWhile Char.isDigit
  let rest := text.drop whole.length
  let hasPoint := rest.head? == some '.'
  let fraction := if hasPoint then (rest.drop 1).takeWhile Char.isDigit else []
  let rest := if hasPoint then (rest.drop 1).drop fraction.length else rest
  if (whole ++ fraction).isEmpty ∨ (1 < whole.length ∧ whole.head? = some '0') then none
  else
    let (exponent, rest) ← readExponent rest
    if hasPoint ∨ exponent.isSome then
      let number := Binary64.ofDecimal negative (Text.numberOf 10 (whole ++ fraction))
        (exponent.getD 0 - fraction.length)
      return (.number (.real number), rest)
    else return (integer negative (Text.numberOf 10 whole), rest)

/-- The text after a word, if it starts with it. -/
def afterWord? (word : String) (text : List Char) : Option (List Char) :=
  if word.toList.isPrefixOf text then some (text.drop word.length) else none

/-- Reads a number after its sign. -/
def readUnsigned (negative : Bool) (text : List Char) : Option (Value × List Char) :=
  match afterWord? "Infinity" text, afterWord? "NaN" text with
  | some rest, _ => some (.number (.real (.infinite negative)), rest)
  | _, some rest => some (.number (.real .nan), rest)
  | none, none =>
      match text with
      | '0' :: x :: rest =>
          if x = 'x' ∨ x = 'X' then
            let digits := rest.takeWhile fun c => (Text.hexValue? c).isSome
            (hexadecimal? negative digits).map (·, rest.drop digits.length)
          else readDecimal negative text
      | _ => readDecimal negative text

/-- Reads a number. -/
def readNumber : List Char → Option (Value × List Char)
  | '-' :: rest => readUnsigned true rest
  | '+' :: rest => readUnsigned false rest
  | text => readUnsigned false text

/-! ## Values -/

/-- The values that are written as words. -/
def words : List (String × Value) :=
  [("null", .null), ("true", .bool true), ("false", .bool false)]

/-- Reads a value that is not made of others. -/
def readScalar (text : List Char) : Option (Value × List Char) :=
  let word := words.findSome? fun (word, value) => (afterWord? word text).map (value, ·)
  let string := (readString text).map fun (value, rest) => (Value.string value, rest)
  (word.or string).or (readNumber text)

mutual

/-- Reads a value. -/
def readValue : (fuel : Nat) → List Char → Option (Value × List Char)
  | 0, _ => none
  | fuel + 1, text =>
      match trimStart text with
      | '[' :: rest => readElements fuel [] rest
      | '\x7b' :: rest => readMembers fuel [] rest
      | start => readScalar start

/-- Reads the elements of an array after its bracket or a comma. -/
def readElements : (fuel : Nat) → (read : List Value) → List Char → Option (Value × List Char)
  | 0, _, _ => none
  | fuel + 1, read, text =>
      match trimStart text with
      | ']' :: rest => some (.array read.reverse, rest)
      | start =>
          match readValue fuel start with
          | none => none
          | some (value, rest) =>
              match trimStart rest with
              | ',' :: rest => readElements fuel (value :: read) rest
              | ']' :: rest => some (.array (value :: read).reverse, rest)
              | _ => none

/-- Reads the members of an object after its brace or a comma. -/
def readMembers : (fuel : Nat) → (read : List (String × Value)) → List Char →
    Option (Value × List Char)
  | 0, _, _ => none
  | fuel + 1, read, text =>
      match trimStart text with
      | '\x7d' :: rest => some (.object read.reverse, rest)
      | start =>
          match (readName start).map fun (name, rest) => (name, trimStart rest) with
          | some (name, ':' :: rest) =>
              match readValue fuel rest with
              | none => none
              | some (value, rest) =>
                  match trimStart rest with
                  | ',' :: rest => readMembers fuel ((name, value) :: read) rest
                  | '\x7d' :: rest => some (.object ((name, value) :: read).reverse, rest)
                  | _ => none
          | _ => none

end

/-- The value of a document. -/
def ofText? (text : String) : Option Value := do
  let (value, rest) ← readValue (text.length + 1) text.toList
  if (trimStart rest).isEmpty then some value else none

end ResultBoards.Json5
