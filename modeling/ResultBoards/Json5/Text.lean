import ResultBoards.Text.Blank
import ResultBoards.Text.Digits
import ResultBoards.Text.Identifier

/-!
# Blanks, strings and names of JSON5

Readers of the pieces of a JSON5 document.  A reader returns the rest of the text, or
nothing where the text is not well-formed.
-/

namespace ResultBoards.Json5

/-- A character that may stand between the pieces of a document. -/
def isSpace (c : Char) : Bool :=
  (Text.isBlank c && c != '\u0085') || c == '\ufeff'

/-- A character that ends a line. -/
def isLineEnd (c : Char) : Bool :=
  c == '\n' || c == '\r' || c == '\u2028' || c == '\u2029'

/-- The text after a comment between a slash and a star, if it ends. -/
def afterBlockComment : List Char → Option (List Char)
  | '*' :: '/' :: rest => some rest
  | _ :: rest => afterBlockComment rest
  | [] => none

/-- The text without the blanks and comments it starts with. -/
def dropSpace : (fuel : Nat) → List Char → List Char
  | 0, text => text
  | fuel + 1, text =>
      match text.dropWhile isSpace with
      | '/' :: '/' :: rest => dropSpace fuel (rest.dropWhile fun c => !isLineEnd c)
      | '/' :: '*' :: rest =>
          match afterBlockComment rest with
          | some rest => dropSpace fuel rest
          | none => '/' :: '*' :: rest
      | rest => rest

/-- The text without the blanks and comments it starts with, however many there are. -/
def trimStart (text : List Char) : List Char :=
  dropSpace (text.length + 1) text

/-! ## Strings -/

/-- Reads a character written as its code, or as the codes of two surrogates. -/
def readUnits (text : List Char) : Option (Char × List Char) := do
  let (high, rest) ← Text.readHex 4 text
  if high < 0xd800 ∨ 0xe000 ≤ high then some (Char.ofNat high, rest)
  else
    match rest with
    | '\\' :: 'u' :: rest => do
        let (low, rest) ← Text.readHex 4 rest
        if high < 0xdc00 ∧ 0xdc00 ≤ low ∧ low < 0xe000 then
          some (Char.ofNat (0x10000 + (high - 0xd800) * 0x400 + (low - 0xdc00)), rest)
        else none
    | _ => none

/-- The characters that a backslash and a letter stand for. -/
def shortEscapes : List (Char × Char) := [
  ('b', '\x08'), ('f', '\x0c'), ('n', '\n'), ('r', '\r'), ('t', '\t'), ('v', '\x0b')]

/-- Reads an escape after its backslash.  An escaped line end stands for nothing. -/
def readEscape : List Char → Option (List Char × List Char)
  | [] => none
  | '\r' :: '\n' :: rest => some ([], rest)
  | 'x' :: rest => (Text.readHex 2 rest).map fun (code, rest) => ([Char.ofNat code], rest)
  | 'u' :: rest => (readUnits rest).map fun (c, rest) => ([c], rest)
  | '0' :: rest => if rest.head?.any Char.isDigit then none else some (['\x00'], rest)
  | c :: rest =>
      if isLineEnd c then some ([], rest)
      else if c.isDigit then none
      else some ([(shortEscapes.lookup c).getD c], rest)

/-- Reads a string in quotes after the opening one. -/
def readChars (quote : Char) : (fuel : Nat) → (read : List Char) → List Char →
    Option (String × List Char)
  | 0, _, _ => none
  | _ + 1, _, [] => none
  | fuel + 1, read, c :: rest =>
      if c = quote then some (String.ofList read.reverse, rest)
      else if c = '\n' ∨ c = '\r' then none
      else if c = '\\' then do
        let (meant, rest) ← readEscape rest
        readChars quote fuel (meant ++ read) rest
      else readChars quote fuel (c :: read) rest

/-- Reads a string, if the text starts with one. -/
def readString : List Char → Option (String × List Char)
  | c :: rest =>
      if c = '"' ∨ c = '\x27' then readChars c (rest.length + 1) [] rest else none
  | [] => none

/-! ## Names -/

/-- A character that a name without quotes starts with. -/
def startsName (c : Char) : Bool :=
  c == '$' || c == '_' || Text.isLetter c

/-- A further character of a name without quotes. -/
def continuesName (c : Char) : Bool :=
  startsName c || Text.isAttached c || c == '\u200c' || c == '\u200d'

/-- Reads the further characters of a name without quotes, some of which may be written as
their codes. -/
def readNameRest : (fuel : Nat) → (read : List Char) → List Char → Option (String × List Char)
  | 0, _, _ => none
  | fuel + 1, read, text =>
      match text with
      | '\\' :: 'u' :: rest => do
          let (c, rest) ← readUnits rest
          readNameRest fuel (c :: read) rest
      | c :: rest =>
          if continuesName c then readNameRest fuel (c :: read) rest
          else some (String.ofList read.reverse, c :: rest)
      | [] => some (String.ofList read.reverse, [])

/-- Reads the name of a member. -/
def readName (text : List Char) : Option (String × List Char) :=
  match text with
  | [] => none
  | c :: rest =>
      if startsName c ∨ (c = '\\' ∧ rest.head? = some 'u') then
        readNameRest (text.length + 1) [] text
      else readString text

end ResultBoards.Json5
