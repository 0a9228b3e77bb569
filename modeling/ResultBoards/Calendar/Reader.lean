import ResultBoards.Calendar.Timestamp
import ResultBoards.Json.Decoder
import ResultBoards.Text.Blank
import ResultBoards.Text.Digits

/-!
# Reading timestamps

The notation of RFC 3339 is read with some freedom: blanks may stand before numbers and
separators and at the end, numbers may have fewer digits, a blank may stand for the `T`,
years may carry a sign, and fractions may have more places than are kept.
-/

namespace ResultBoards

/-- What is wrong with the text of a timestamp. -/
inductive TimestampProblem
  | invalidCharacter
  | outOfRange
  | tooShort
  | trailing
  | impossible
deriving DecidableEq, Repr

/-- The problem in words. -/
def TimestampProblem.message : TimestampProblem → String
  | .invalidCharacter => "input contains invalid characters"
  | .outOfRange => "input is out of range"
  | .tooShort => "premature end of input"
  | .trailing => "trailing input"
  | .impossible => "no possible date and time matching input"

namespace Timestamp

/-- Reads a part of a timestamp and returns the rest. -/
abbrev PartReader (α : Type) := List Char → Except TimestampProblem (α × List Char)

/-- Takes the digits a text starts with, at most `width` of them where there is a
width, and at least one. -/
def takeDigits (width : Option Nat) : PartReader (List Char) := fun text =>
  let all := text.takeWhile Char.isDigit
  let digits := match width with
    | some width => all.take width
    | none => all
  if text.isEmpty then .error .tooShort
  else if digits.isEmpty then .error .invalidCharacter
  else .ok (digits, text.drop digits.length)

/-- Reads a separator, with blanks before it. -/
def readSeparator (separator : Char) (text : List Char) :
    Except TimestampProblem (List Char) :=
  match Text.dropBlank text with
  | [] => .error .tooShort
  | c :: rest => if c = separator then .ok rest else .error .invalidCharacter

/-- Reads a number of one or two digits between bounds, with blanks before it. -/
def readPart (low high : Nat) : PartReader Nat := fun text => do
  let (digits, rest) ← takeDigits (some 2) (Text.dropBlank text)
  let value := Text.numberOf 10 digits
  if low ≤ value ∧ value ≤ high then .ok (value, rest) else .error .outOfRange

/-- Reads a year: up to four digits, or any number of them after a sign. -/
def readYear : PartReader Int := fun text => do
  let (year, rest) ← match Text.dropBlank text with
    | '-' :: rest => (takeDigits none rest).map fun (digits, rest) =>
        (-(Text.numberOf 10 digits : Int), rest)
    | '+' :: rest => (takeDigits none rest).map fun (digits, rest) =>
        ((Text.numberOf 10 digits : Int), rest)
    | rest => (takeDigits (some 4) rest).map fun (digits, rest) =>
        ((Text.numberOf 10 digits : Int), rest)
  if -0x80000000 ≤ year ∧ year < 0x80000000 then .ok (year, rest) else .error .outOfRange

/-- Reads the mark between date and time. -/
def readDivider : List Char → Except TimestampProblem (List Char)
  | [] => .error .tooShort
  | c :: rest =>
      if c = 't' ∨ c = 'T' ∨ c = ' ' then .ok rest else .error .invalidCharacter

/-- Reads a fraction of a second in nanoseconds, if there is one.  Places after the
ninth are dropped. -/
def readFraction : PartReader Nat
  | '.' :: rest => do
      let (digits, rest) ← takeDigits (some 9) rest
      .ok (Text.numberOf 10 digits * Nat.pow 10 (9 - digits.length), rest.dropWhile Char.isDigit)
  | rest => .ok (0, rest)

/-- The number of bytes that a text takes. -/
def byteCount (text : List Char) : Nat :=
  text.foldl (fun count c => count + c.utf8Size) 0

/-- Reads two digits.  A text of fewer than two bytes is too short. -/
def readDigitPair (text : List Char) : Except TimestampProblem (Nat × List Char) :=
  if byteCount (text.take 2) < 2 then .error .tooShort
  else
    match text with
    | tens :: ones :: rest =>
        if tens.isDigit ∧ ones.isDigit then .ok (Text.numberOf 10 [tens, ones], rest)
        else .error .invalidCharacter
    | _ => .error .invalidCharacter

/-- Reads the hours and minutes of an offset after its sign, as minutes. -/
def readOffsetParts : PartReader Nat := fun text => do
  let (hours, rest) ← readDigitPair text
  let rest := rest.dropWhile fun c => c = ':' || Text.isBlank c
  let (minutes, rest) ← readDigitPair rest
  if 59 < minutes then .error .outOfRange
  else .ok (hours * 60 + minutes, rest)

/-- The text after the letters `UTC`, in either case. -/
def dropUniversal? : List Char → Option (List Char)
  | u :: t :: c :: rest =>
      if (u = 'u' ∨ u = 'U') ∧ (t = 't' ∨ t = 'T') ∧ (c = 'c' ∨ c = 'C') then some rest else none
  | _ => none

/-- Reads how many minutes clocks are ahead of universal time. -/
def readOffset : PartReader Int := fun text =>
  match dropUniversal? text with
  | some rest => .ok (0, rest)
  | none =>
      match text with
      | [] => .error .tooShort
      | c :: rest =>
          if c = 'Z' ∨ c = 'z' then .ok (0, rest)
          else if c = '+' then
            (readOffsetParts rest).map fun (minutes, rest) => ((minutes : Int), rest)
          else if c = '-' ∨ c = '\u2212' then
            (readOffsetParts rest).map fun (minutes, rest) => (-(minutes : Int), rest)
          else .error .invalidCharacter

/-- The part of an optional value that is out of range where there is none. -/
def orOutOfRange {α : Type} : Option α → Except TimestampProblem α
  | some value => .ok value
  | none => .error .outOfRange

/-- Reads a timestamp. -/
def ofText (text : String) : Except TimestampProblem Timestamp := do
  let (year, rest) ← readYear text.toList
  let rest ← readSeparator '-' rest
  let (month, rest) ← readPart 1 12 rest
  let rest ← readSeparator '-' rest
  let (day, rest) ← readPart 1 31 rest
  let rest ← readDivider rest
  let (hour, rest) ← readPart 0 23 rest
  let rest ← readSeparator ':' rest
  let (minute, rest) ← readPart 0 59 rest
  let rest ← readSeparator ':' rest
  let (second, rest) ← readPart 0 60 rest
  let (nanosecond, rest) ← readFraction rest
  let (ahead, rest) ← readOffset (Text.dropBlank rest)
  if !(Text.dropBlank rest).isEmpty then .error .trailing
  else
    let date ← orOutOfRange (Date.ofParts? year month day)
    let time ← orOutOfRange (TimeOfDay.ofParts? hour minute second nanosecond)
    if 1440 ≤ ahead.natAbs then .error .outOfRange
    else
      match ofLocal? date time ahead with
      | some timestamp => .ok timestamp
      | none => .error .impossible

/-- Decodes a timestamp. -/
def decoder : Json.Decoder Timestamp :=
  Json.Decoder.checkedString "an RFC 3339 formatted date and time string" fun text =>
    (ofText text).mapError fun problem => .custom problem.message

end Timestamp

end ResultBoards
