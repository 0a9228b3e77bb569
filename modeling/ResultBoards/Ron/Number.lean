import ResultBoards.Json.Value
import ResultBoards.Number.Binary32
import ResultBoards.Number.Numeral
import ResultBoards.Text.Identifier

/-!
# Numbers of RON

Integers in four bases, numbers with a point or an exponent, and types that a number can
be marked with.
-/

namespace ResultBoards.Ron

open Json (Value)

/-- The text after a word, if the word stands there on its own. -/
def afterWord? (word : String) (text : List Char) : Option (List Char) :=
  let rest := text.drop word.length
  if word.toList.isPrefixOf text ∧ !rest.head?.any Text.isNamePart then some rest else none

/-! ## Integers -/

/-- The types of integers: their names, their numbers of bits, and whether they have a
sign. -/
def integerTypes : List (String × Nat × Bool) := [
  ("i8", 8, true), ("i16", 16, true), ("i32", 32, true), ("i64", 64, true),
  ("u8", 8, false), ("u16", 16, false), ("u32", 32, false), ("u64", 64, false)]

/-- Whether an integer fits into so many bits. -/
def fits (bits : Nat) (signed : Bool) (value : Int) : Bool :=
  if signed then -Int.pow 2 (bits - 1) ≤ value && value < Int.pow 2 (bits - 1)
  else 0 ≤ value && value < Int.pow 2 bits

/-- A digit of an integer in any base, or an underscore between digits. -/
def isIntegerChar (c : Char) : Bool :=
  (Text.hexValue? c).isSome || c == '_'

/-- The base that a text says in front of its digits, and the digits. -/
def splitBase : List Char → Nat × List Char
  | '0' :: 'x' :: rest => (16, rest)
  | '0' :: 'o' :: rest => (8, rest)
  | '0' :: 'b' :: rest => (2, rest)
  | text => (10, text)

/-- Reads an integer.  Without a type it has 64 bits, and a sign only where one is written. -/
def readInteger (text : List Char) : Option (Value × List Char) :=
  let (negative, rest) := Text.splitSign text
  let (base, start) := splitBase rest
  let token := start.takeWhile isIntegerChar
  let digits := token.filter (· ≠ '_')
  let rest := start.drop token.length
  let value := Text.signed negative (Text.numberOf base digits)
  if token.isEmpty ∨ token.head? = some '_' then none
  else if !digits.all fun c => (Text.hexValue? c).any (· < base) then none
  else
    let marked := integerTypes.findSome? fun (name, bits, signed) =>
      (afterWord? name rest).map (fits bits signed value, ·)
    let (isFitting, rest) := marked.getD (fits 64 negative value, rest)
    if isFitting then some (.number (.integer value), rest) else none

/-! ## Other numbers -/

/-- A character of a number with a point or an exponent. -/
def isRealChar (c : Char) : Bool :=
  c.isDigit || c == 'e' || c == 'E' || c == '.' || c == '+' || c == '-' || c == '_'

/-- The numbers that are written as words. -/
def realWords : List (String × Binary64) := [
  ("inf", .infinite false), ("+inf", .infinite false), ("-inf", .infinite true),
  ("NaN", .nan), ("+NaN", .nan), ("-NaN", .nan)]

/-- The types of numbers with a point: their names, and how such a number is rounded. -/
def realTypes : List (String × (Numeral → Binary64)) :=
  [("f32", Binary32.ofDecimal), ("f64", Numeral.toBinary64)]

/-- Reads a word that stands for a number, possibly with a type. -/
def readRealWord (text : List Char) : Option (Value × List Char) :=
  realWords.findSome? fun (word, value) =>
    (("" :: realTypes.map Prod.fst).findSome? fun type => afterWord? (word ++ type) text).map
      (.number (.real value), ·)

/-- The characters of a number without underscores, which stand only after digits. -/
def withoutUnderscores : (mayFollow : Bool) → List Char → Option (List Char)
  | _, [] => some []
  | mayFollow, c :: rest =>
      if c = '_' then if mayFollow then withoutUnderscores true rest else none
      else
        let follows := c.isDigit || c == 'e' || c == 'E' || (mayFollow && c != '.')
        (withoutUnderscores follows rest).map (c :: ·)

/-- Reads a number with a point or an exponent. -/
def readReal (text : List Char) : Option (Value × List Char) :=
  (readRealWord text).or do
    let token := text.takeWhile isRealChar
    let number ← Numeral.ofText? (← withoutUnderscores false token)
    let rest := text.drop token.length
    let marked := realTypes.findSome? fun (name, round) =>
      (afterWord? name rest).map (round number, ·)
    let (value, rest) := marked.getD (number.toBinary64, rest)
    return (.number (.real value), rest)

/-- Whether more of a text belongs to a number with a point than to an integer. -/
def isReal (text : List Char) : Bool :=
  let rest := match text with
    | '+' :: rest => rest
    | '-' :: rest => rest
    | rest => rest
  (rest.takeWhile isIntegerChar).length < (rest.takeWhile isRealChar).length

/-- Reads a number.  An integer that needs more than 64 bits is read as a number with a
point. -/
def readNumber (text : List Char) : Option (Value × List Char) :=
  if isReal text then readReal text else (readInteger text).or (readReal text)

end ResultBoards.Ron
