import ResultBoards.Calendar.Date
import ResultBoards.Json.Value
import ResultBoards.Text.Digits

/-!
# Numbers, dates and truth values of TOML

A scalar without quotes is a run of characters that must have one of a few forms as a
whole.  Dates and times are kept as text.
-/

namespace ResultBoards.Toml

open Json (Value)

/-- The digits of a number in which single underscores may stand between digits. -/
def digits? (isDigit : Char → Bool) : List Char → Option (List Char)
  | [] => none
  | [c] => if isDigit c then some [c] else none
  | c :: '_' :: rest => if isDigit c then (digits? isDigit rest).map (c :: ·) else none
  | c :: rest => if isDigit c then (digits? isDigit rest).map (c :: ·) else none

/-- An integer, unless it needs more than 64 bits. -/
def integer? (value : Int) : Option Value :=
  if -0x8000000000000000 ≤ value ∧ value < 0x8000000000000000 then some (.number (.integer value))
  else none

/-- Decimal digits without a needless zero in front. -/
def decimalDigits? (text : List Char) : Option (List Char) := do
  let digits ← digits? Char.isDigit text
  match digits with
  | '0' :: _ :: _ => none
  | _ => some digits

/-- A decimal integer. -/
def decimal? (text : List Char) : Option Value := do
  let (negative, rest) := Text.splitSign text
  let digits ← decimalDigits? rest
  integer? (Text.signed negative (Text.numberOf 10 digits))

/-- A hexadecimal digit. -/
def isHexDigit (c : Char) : Bool :=
  (Text.hexValue? c).isSome

/-- An octal digit. -/
def isOctalDigit (c : Char) : Bool :=
  '0' ≤ c && c ≤ '7'

/-- A binary digit. -/
def isBinaryDigit (c : Char) : Bool :=
  c == '0' || c == '1'

/-- An integer in a base that its first two characters name. -/
def based? : List Char → Option Value
  | '0' :: 'x' :: rest => do integer? (Text.numberOf 16 (← digits? isHexDigit rest))
  | '0' :: 'o' :: rest => do integer? (Text.numberOf 8 (← digits? isOctalDigit rest))
  | '0' :: 'b' :: rest => do integer? (Text.numberOf 2 (← digits? isBinaryDigit rest))
  | _ => none

/-- A number with a fraction or an exponent. -/
def real? (text : List Char) : Option Value := do
  let (negative, rest) := Text.splitSign text
  if rest = "inf".toList then return .number (.real (.infinite negative))
  if rest = "nan".toList then return .number (.real .nan)
  let isMark (c : Char) : Bool := c == 'e' || c == 'E'
  let mantissa := rest.takeWhile fun c => !isMark c
  let exponent : Int ← match rest.drop mantissa.length with
    | [] => some 0
    | _ :: exponent => do
        let (negative, exponent) := Text.splitSign exponent
        some (Text.signed negative (Text.numberOf 10 (← digits? Char.isDigit exponent)))
  let whole := mantissa.takeWhile (· ≠ '.')
  let wholeDigits ← decimalDigits? whole
  let fraction ← match mantissa.drop whole.length with
    | [] => if mantissa.length = rest.length then none else some []
    | _ :: fraction => digits? Char.isDigit fraction
  let number := Binary64.ofDecimal negative (Text.numberOf 10 (wholeDigits ++ fraction))
    (exponent - fraction.length)
  match number with
  | .finite _ _ => return .number (.real number)
  | _ => none

/-! ## Dates and times -/

/-- A number of exactly the given count of digits. -/
def fixed? (count : Nat) (text : List Char) : Option (Nat × List Char) :=
  let digits := text.take count
  if digits.length = count ∧ digits.all Char.isDigit then
    some (Text.numberOf 10 digits, text.drop count)
  else none

/-- The text after a character. -/
def expect? (c : Char) : List Char → Option (List Char)
  | d :: rest => if d = c then some rest else none
  | [] => none

/-- A date at the start of a text, and the rest. -/
def date? (text : List Char) : Option (List Char × List Char) := do
  let (year, rest) ← fixed? 4 text
  let rest ← expect? '-' rest
  let (month, rest) ← fixed? 2 rest
  let rest ← expect? '-' rest
  let (day, rest) ← fixed? 2 rest
  if isDate year month day then some (text.take 10, rest) else none

/-- The seconds and the fraction after the minutes of a time of day, if they stand there, and
the rest.  Of a fraction nine places count, and zeros at its end do not unless there is
nothing else. -/
def seconds? : List Char → Option (List Char × List Char)
  | ':' :: text => do
      let (second, rest) ← fixed? 2 text
      if 60 < second then none
      let shown := ':' :: text.take 2
      match rest with
      | '.' :: rest =>
          let fraction := rest.takeWhile Char.isDigit
          if fraction.isEmpty then none
          let places := ((fraction.take 9).reverse.dropWhile (· = '0')).reverse
          let places := if places.isEmpty then ['0'] else places
          return (shown ++ '.' :: places, rest.drop fraction.length)
      | rest => return (shown, rest)
  | text => some ([], text)

/-- A time of day at the start of a text, and the rest. -/
def time? (text : List Char) : Option (List Char × List Char) := do
  let (hour, rest) ← fixed? 2 text
  let rest ← expect? ':' rest
  let (minute, rest) ← fixed? 2 rest
  if 23 < hour ∨ 59 < minute then none
  let (seconds, rest) ← seconds? rest
  return (text.take 5 ++ seconds, rest)

/-- An offset that makes up a whole text.  An offset of nothing has a plus sign. -/
def offset? (text : List Char) : Option (List Char) := do
  match text with
  | [] => some []
  | [c] => if c = 'Z' ∨ c = 'z' then some ['Z'] else none
  | sign :: rest =>
      if sign ≠ '+' ∧ sign ≠ '-' then none
      let (hours, rest) ← fixed? 2 rest
      let rest ← expect? ':' rest
      let (minutes, rest) ← fixed? 2 rest
      if 23 < hours ∨ 59 < minutes ∨ !rest.isEmpty then none
      if hours = 0 ∧ minutes = 0 then some "+00:00".toList else some text

/-- A date, a time of day or both, as text. -/
def dateTime? (text : List Char) : Option Value := do
  let shown ← match date? text with
    | some (date, []) => some date
    | some (date, divider :: rest) => do
        if divider ≠ 'T' ∧ divider ≠ 't' ∧ divider ≠ ' ' then none
        let (time, rest) ← time? rest
        let offset ← offset? rest
        some (date ++ 'T' :: time ++ offset)
    | none => do
        let (time, rest) ← time? text
        if rest.isEmpty then some time else none
  return .string (String.ofList shown)

/-! ## Any scalar -/

/-- A character that ends a scalar. -/
def isEnd (c : Char) : Bool :=
  c == ' ' || c == '\t' || c == '\n' || c == '\r' || c == ',' || c == ']' || c == '\x7d' || c == '#'

/-- The scalar that a run of characters writes. -/
def scalarOf? (token : List Char) : Option Value :=
  if token = "true".toList then some (.bool true)
  else if token = "false".toList then some (.bool false)
  else (decimal? token).or ((based? token).or ((real? token).or (dateTime? token)))

/-- Reads a scalar without quotes.  A blank may stand between a date and a time. -/
def readScalar (text : List Char) : Option (Value × List Char) :=
  let token := text.takeWhile fun c => !isEnd c
  let rest := text.drop token.length
  let joined : Option (Value × List Char) := do
    let (_, after) ← date? token
    if !after.isEmpty then none
    let time ← expect? ' ' rest
    let second := time.takeWhile fun c => !isEnd c
    let value ← dateTime? (token ++ ' ' :: second)
    return (value, time.drop second.length)
  joined.or ((scalarOf? token).map (·, rest))

end ResultBoards.Toml
