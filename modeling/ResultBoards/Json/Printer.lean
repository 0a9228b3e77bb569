import ResultBoards.Json.Value
import ResultBoards.Number.Shortest
import ResultBoards.Text.Hex

/-!
# Writing JSON

Values are written without any blank.  In strings only the quote, the backslash and
the control characters are escaped, the latter with a short escape where there is one.
-/

namespace ResultBoards.Json

/-- One character of a string. -/
def escapedChar (c : Char) : List Char :=
  if c = '"' then ['\\', '"']
  else if c = '\\' then ['\\', '\\']
  else if c = '\x08' then ['\\', 'b']
  else if c = '\x0c' then ['\\', 'f']
  else if c = '\n' then ['\\', 'n']
  else if c = '\r' then ['\\', 'r']
  else if c = '\t' then ['\\', 't']
  else if c < ' ' then
    ['\\', 'u', '0', '0', Text.hexDigit (c.toNat / 16), Text.hexDigit (c.toNat % 16)]
  else [c]

/-- A string in quotes. -/
def writeString (text : String) : List Char :=
  '"' :: text.toList.flatMap escapedChar ++ ['"']

/-- An integer in decimal digits. -/
def writeInteger : Int → List Char
  | .ofNat value => Nat.toDigits 10 value
  | .negSucc value => '-' :: Nat.toDigits 10 (value + 1)

/-- A number. -/
def Number.write : Number → List Char
  | .integer value => writeInteger value
  | .real value => value.toJsonText.toList

mutual

/-- A value without blanks. -/
def Value.write : Value → List Char
  | .null => ['n', 'u', 'l', 'l']
  | .bool true => ['t', 'r', 'u', 'e']
  | .bool false => ['f', 'a', 'l', 's', 'e']
  | .number value => value.write
  | .string value => writeString value
  | .array elements => '[' :: writeElements elements ++ [']']
  | .object members => '\x7b' :: writeMembers members ++ ['\x7d']

/-- Elements with commas between them. -/
def writeElements : List Value → List Char
  | [] => []
  | [element] => element.write
  | element :: rest => element.write ++ ',' :: writeElements rest

/-- Members with commas between them. -/
def writeMembers : List (String × Value) → List Char
  | [] => []
  | [(name, value)] => writeString name ++ ':' :: value.write
  | (name, value) :: rest => writeString name ++ ':' :: value.write ++ ',' :: writeMembers rest

end

/-- The text of a value. -/
def Value.toText (value : Value) : String :=
  String.ofList value.write

/-- The lines of the members of a spread-out object of strings. -/
def writeSpreadMembers : List (String × String) → List Char
  | [] => []
  | [(name, value)] => ' ' :: ' ' :: writeString name ++ ':' :: ' ' :: writeString value
  | (name, value) :: rest =>
      ' ' :: ' ' :: writeString name ++ ':' :: ' ' :: writeString value ++
        ',' :: '\n' :: writeSpreadMembers rest

/-- An object of strings with a member on each line, indented by two spaces. -/
def writeSpread : List (String × String) → List Char
  | [] => ['\x7b', '\x7d']
  | members => '\x7b' :: '\n' :: writeSpreadMembers members ++ ['\n', '\x7d']

end ResultBoards.Json
