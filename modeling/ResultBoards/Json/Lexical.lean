import ResultBoards.Json.Failure
import ResultBoards.Json.Input
import ResultBoards.Json.Value
import ResultBoards.Text.Hex

/-!
# Blanks, words, strings and numbers of JSON

The pieces of a text below values.  A reader takes a text and returns what it read
together with the rest, or the first problem.  Loops over characters are bounded by a
number that is at least the number of characters left, so the bound never ends them
early.

There are two ways to read a piece: keeping it and skipping it.  Skipping follows the
same grammar but computes nothing, so it neither pairs surrogates nor asks for the
characters of bytes nor checks that a number is in range.
-/

namespace ResultBoards.Json

/-- The blanks that may stand between the pieces of a text. -/
def isBlank (c : Char) : Bool :=
  c == ' ' || c == '\n' || c == '\t' || c == '\r'

/-- The text from its first piece on. -/
def dropBlank (text : List Char) : List Char :=
  text.dropWhile isBlank

/-- Reads the rest of a word such as `null` after its first letter. -/
def readWord : (letters text : List Char) → Except Problem (List Char)
  | [], text => .ok text
  | _ :: _, [] => .error .valueMissing
  | letter :: letters, c :: rest =>
      if c = letter then readWord letters rest else .error .identifierExpected

/-! ## Strings -/

/-- The number of bytes that the first characters of a text take, up to `count`
characters. -/
def leadingBytes : (count : Nat) → List Char → Nat
  | 0, _ => 0
  | _, [] => 0
  | count + 1, c :: rest => c.utf8Size + leadingBytes count rest

/-- Reads the four digits of a `\u` escape.  A text that ends before four bytes more is
not closed; otherwise a character that is no digit makes the escape invalid. -/
def readHexQuad (text : List Char) : Except Problem (Nat × List Char) :=
  if leadingBytes 4 text < 4 then .error .stringNotClosed
  else
    match text with
    | a :: b :: c :: d :: rest =>
        match Text.hexValue? a, Text.hexValue? b, Text.hexValue? c, Text.hexValue? d with
        | some a, some b, some c, some d => .ok (((a * 16 + b) * 16 + c) * 16 + d, rest)
        | _, _, _, _ => .error .escapeInvalid
    | _ => .error .escapeInvalid

/-- The character of a surrogate pair. -/
def pairedSurrogates (high low : Nat) : Char :=
  Char.ofNat ((high - 0xd800) * 0x400 + (low - 0xdc00) + 0x10000)

/-- Reads a `\u` escape after its `u`.  A high surrogate must be followed by the escape
of a low one. -/
def readUnicodeEscape (text : List Char) : Except Problem (Char × List Char) :=
  match readHexQuad text with
  | .error problem => .error problem
  | .ok (unit, rest) =>
      if 0xdc00 ≤ unit ∧ unit ≤ 0xdfff then .error .loneSurrogate
      else if unit < 0xd800 ∨ 0xdbff < unit then .ok (Char.ofNat unit, rest)
      else
        match rest with
        | [] => .error .stringNotClosed
        | '\\' :: [] => .error .stringNotClosed
        | '\\' :: 'u' :: more =>
            match readHexQuad more with
            | .error problem => .error problem
            | .ok (second, rest) =>
                if second < 0xdc00 ∨ 0xdfff < second then .error .loneSurrogate
                else .ok (pairedSurrogates unit second, rest)
        | _ => .error .secondSurrogateMissing

/-- The character of a short escape. -/
def shortEscape? (c : Char) : Option Char :=
  if c = '"' then some '"'
  else if c = '\\' then some '\\'
  else if c = '/' then some '/'
  else if c = 'b' then some '\x08'
  else if c = 'f' then some '\x0c'
  else if c = 'n' then some '\n'
  else if c = 'r' then some '\r'
  else if c = 't' then some '\t'
  else none

/-- Reads an escape after its backslash. -/
def readEscape : List Char → Except Problem (Char × List Char)
  | [] => .error .stringNotClosed
  | c :: rest =>
      if c = 'u' then readUnicodeEscape rest
      else
        match shortEscape? c with
        | some meant => .ok (meant, rest)
        | none => .error .escapeInvalid

/-- Reads the characters of a string after its opening quote, with those already read
in reverse, unless some byte among them belongs to no character. -/
def readChars : (bound : Nat) → (read : Option (List Char)) → (text : List Char) →
    Except Problem (String × List Char)
  | 0, _, _ => .error .stringNotClosed
  | _ + 1, _, [] => .error .stringNotClosed
  | bound + 1, read, c :: rest =>
      if c = '"' then
        match read with
        | some read => .ok (String.ofList read.reverse, rest)
        | none => .error .characterInvalid
      else if c = '\\' then
        match readEscape rest with
        | .error problem => .error problem
        | .ok (meant, rest) => readChars bound (read.map (meant :: ·)) rest
      else if c = malformed then readChars bound none rest
      else if c < ' ' then .error .controlCharacter
      else readChars bound (read.map (c :: ·)) rest

/-- Skips an escape after its backslash. -/
def skipEscape : List Char → Except Problem (List Char)
  | [] => .error .stringNotClosed
  | c :: rest =>
      if c = 'u' then (readHexQuad rest).map Prod.snd
      else if (shortEscape? c).isSome then .ok rest
      else .error .escapeInvalid

/-- Skips the characters of a string after its opening quote. -/
def skipChars : (bound : Nat) → (text : List Char) → Except Problem (List Char)
  | 0, _ => .error .stringNotClosed
  | _ + 1, [] => .error .stringNotClosed
  | bound + 1, c :: rest =>
      if c = '"' then .ok rest
      else if c = '\\' then
        match skipEscape rest with
        | .error problem => .error problem
        | .ok rest => skipChars bound rest
      else if c < ' ' ∧ c ≠ malformed then .error .controlCharacter
      else skipChars bound rest

/-! ## Numbers

The digits of a number are collected as long as they fit in 64 bits.  A number with a
point or an exponent, and an integer that does not fit, is a binary64 number: the
collected digits and a power of ten, each rounded, then multiplied or divided with one
more rounding. -/

/-- The largest whole number of 64 bits. -/
def wordLimit : Nat := 0xffffffffffffffff

/-- The value of a decimal digit. -/
def digitValue (c : Char) : Nat :=
  c.toNat - '0'.toNat

/-- The number `significand * 10 ^ power` with the roundings described above, unless it
is too large. -/
def scaleByPower (negative : Bool) (significand : Nat) (power : Int) :
    Except Problem Number :=
  if significand = 0 then .ok (.real (.finite negative .zero))
  else
    let whole := Magnitude.ofQuotient? significand 1
    let places := power.natAbs
    let result : Option Magnitude :=
      if 0 ≤ power then
        if 308 < places then none
        else do (← whole).mul? (← Magnitude.powerOfTen? places)
      else if places ≤ 308 then do (← whole).div? (← Magnitude.powerOfTen? places)
      else if places ≤ 616 then do
        let first ← (← whole).div? (← Magnitude.powerOfTen? 308)
        first.div? (← Magnitude.powerOfTen? (places - 308))
      else some .zero
    match result with
    | some magnitude => .ok (.real (.finite negative magnitude))
    | none => .error .numberOutOfRange

/-- Collects the digits of an exponent.  An exponent beyond 31 bits overflows unless
the significand is zero or the exponent negative, which make zero. -/
def readExponentDigits (negative negativeExponent : Bool) (significand : Nat) (start : Int) :
    (exponent : Nat) → List Char → Except Problem (Number × List Char)
  | exponent, [] => finish exponent []
  | exponent, c :: rest =>
      if c.isDigit then
        let next := exponent * 10 + digitValue c
        if 0x7fffffff < next then
          if significand ≠ 0 ∧ !negativeExponent then .error .numberOutOfRange
          else .ok (.real (.finite negative .zero), rest.dropWhile Char.isDigit)
        else readExponentDigits negative negativeExponent significand start next rest
      else finish exponent (c :: rest)
where
  finish (exponent : Nat) (rest : List Char) : Except Problem (Number × List Char) :=
    let power := if negativeExponent then start - exponent else start + exponent
    match scaleByPower negative significand power with
    | .ok number => .ok (number, rest)
    | .error problem => .error problem

/-- Reads an exponent after its letter. -/
def readExponent (negative : Bool) (significand : Nat) (start : Int) (text : List Char) :
    Except Problem (Number × List Char) :=
  let (negativeExponent, digits) := match text with
    | '+' :: rest => (false, rest)
    | '-' :: rest => (true, rest)
    | rest => (false, rest)
  match digits with
  | [] => .error .valueMissing
  | c :: rest =>
      if c.isDigit then
        readExponentDigits negative negativeExponent significand start (digitValue c) rest
      else .error .numberInvalid

/-- Reads what follows the digits of a number that has a point or does not fit: an
exponent or nothing. -/
def readOptionalExponent (negative : Bool) (significand : Nat) (power : Int) :
    List Char → Except Problem (Number × List Char)
  | 'e' :: rest => readExponent negative significand power rest
  | 'E' :: rest => readExponent negative significand power rest
  | rest =>
      match scaleByPower negative significand power with
      | .ok number => .ok (number, rest)
      | .error problem => .error problem

/-- Collects the digits after the point, `places` of them so far.  Digits that do not
fit any more are dropped. -/
def readFractionDigits (negative : Bool) (start : Int) :
    (significand places : Nat) → List Char → Except Problem (Number × List Char)
  | significand, places, [] =>
      if places = 0 then .error .valueMissing
      else readOptionalExponent negative significand (start - places) []
  | significand, places, c :: rest =>
      if c.isDigit then
        let next := significand * 10 + digitValue c
        if wordLimit < next then
          readOptionalExponent negative significand (start - places)
            (rest.dropWhile Char.isDigit)
        else readFractionDigits negative start next (places + 1) rest
      else if places = 0 then .error .numberInvalid
      else readOptionalExponent negative significand (start - places) (c :: rest)

/-- Reads what follows the digits before the point. -/
def readAfterInteger (negative : Bool) (significand : Nat) (power : Int) :
    List Char → Except Problem (Number × List Char)
  | '.' :: rest => readFractionDigits negative power significand 0 rest
  | rest => readOptionalExponent negative significand power rest

/-- The integer with a sign and a magnitude.  A negative zero and a magnitude below the
least integer of 64 bits make a binary64 number. -/
def signedInteger (negative : Bool) (magnitude : Nat) : Except Problem Number :=
  if !negative then .ok (.integer magnitude)
  else if magnitude = 0 ∨ 0x8000000000000000 < magnitude then scaleByPower true magnitude 0
  else .ok (.integer (-(magnitude : Int)))

/-- Ends a number whose digits all fitted. -/
def finishInteger (negative : Bool) (magnitude : Nat) (rest : List Char) :
    Except Problem (Number × List Char) :=
  match rest with
  | '.' :: _ | 'e' :: _ | 'E' :: _ => readAfterInteger negative magnitude 0 rest
  | _ =>
      match signedInteger negative magnitude with
      | .ok number => .ok (number, rest)
      | .error problem => .error problem

/-- Collects the digits of a number after the first. -/
def readIntegerDigits (negative : Bool) :
    (magnitude : Nat) → List Char → Except Problem (Number × List Char)
  | magnitude, [] => finishInteger negative magnitude []
  | magnitude, c :: rest =>
      if c.isDigit then
        let next := magnitude * 10 + digitValue c
        if wordLimit < next then
          let dropped := (c :: rest).takeWhile Char.isDigit
          readAfterInteger negative magnitude dropped.length (rest.dropWhile Char.isDigit)
        else readIntegerDigits negative next rest
      else finishInteger negative magnitude (c :: rest)

/-- Reads a number after its sign.  A zero is not followed by another digit. -/
def readNumber (negative : Bool) : List Char → Except Problem (Number × List Char)
  | [] => .error .valueMissing
  | c :: rest =>
      if c = '0' then
        match rest with
        | next :: _ =>
            if next.isDigit then .error .numberInvalid else finishInteger negative 0 rest
        | [] => finishInteger negative 0 []
      else if c.isDigit then readIntegerDigits negative (digitValue c) rest
      else .error .numberInvalid

/-- Skips an exponent after its letter. -/
def skipExponent (text : List Char) : Except Problem (List Char) :=
  let digits := match text with
    | '+' :: rest => rest
    | '-' :: rest => rest
    | rest => rest
  match digits with
  | [] => .error .numberInvalid
  | c :: rest =>
      if c.isDigit then .ok (rest.dropWhile Char.isDigit) else .error .numberInvalid

/-- Skips what follows the digits of a number: an exponent or nothing. -/
def skipOptionalExponent : List Char → Except Problem (List Char)
  | 'e' :: rest => skipExponent rest
  | 'E' :: rest => skipExponent rest
  | rest => .ok rest

/-- Skips what follows the digits before the point. -/
def skipAfterInteger : List Char → Except Problem (List Char)
  | '.' :: c :: rest =>
      if c.isDigit then skipOptionalExponent (rest.dropWhile Char.isDigit)
      else .error .numberInvalid
  | ['.'] => .error .numberInvalid
  | rest => skipOptionalExponent rest

/-- Skips a number after its sign. -/
def skipNumber : List Char → Except Problem (List Char)
  | [] => .error .numberInvalid
  | c :: rest =>
      if c = '0' then
        match rest with
        | next :: _ => if next.isDigit then .error .numberInvalid else skipAfterInteger rest
        | [] => .ok []
      else if c.isDigit then skipAfterInteger (rest.dropWhile Char.isDigit)
      else .error .numberInvalid

end ResultBoards.Json
