import ResultBoards.Text.Digits

/-!
# Blanks, comments, strings and keys of TOML

Readers of the pieces of a TOML document.  A reader returns the rest of the text, or
nothing where the text is not well-formed.
-/

namespace ResultBoards.Toml

/-- The blanks within a line. -/
def isBlank (c : Char) : Bool :=
  c == ' ' || c == '\t'

/-- The text without the blanks it starts with. -/
def dropBlank (text : List Char) : List Char :=
  text.dropWhile isBlank

/-- A character that may stand in comments and strings. -/
def isPrintable (c : Char) : Bool :=
  c == '\t' || (' ' ≤ c && c != '\x7f')

/-- The text without the comment it starts with, if it does. -/
def dropComment : List Char → List Char
  | '#' :: rest => rest.dropWhile isPrintable
  | text => text

/-- Ends a line: its blanks, a comment, and the line end or the end of the text. -/
def endLine? (text : List Char) : Option (List Char) :=
  match dropComment (dropBlank text) with
  | [] => some []
  | '\n' :: rest => some rest
  | '\r' :: '\n' :: rest => some rest
  | _ => none

/-- The text without the blanks, comments and line ends it starts with. -/
def dropLines : (fuel : Nat) → List Char → List Char
  | 0, text => text
  | fuel + 1, text =>
      match dropComment (dropBlank text) with
      | '\n' :: rest => dropLines fuel rest
      | '\r' :: '\n' :: rest => dropLines fuel rest
      | rest => rest

/-! ## Strings -/

/-- Reads an escape after its backslash. -/
def readEscape : List Char → Option (Char × List Char)
  | 'b' :: rest => some ('\x08', rest)
  | 't' :: rest => some ('\t', rest)
  | 'n' :: rest => some ('\n', rest)
  | 'f' :: rest => some ('\x0c', rest)
  | 'r' :: rest => some ('\r', rest)
  | 'e' :: rest => some ('\x1b', rest)
  | '"' :: rest => some ('"', rest)
  | '\\' :: rest => some ('\\', rest)
  | 'x' :: rest => Text.readCode 2 rest
  | 'u' :: rest => Text.readCode 4 rest
  | 'U' :: rest => Text.readCode 8 rest
  | _ => none

/-- Reads a string in double quotes after the opening one. -/
def readBasic : (fuel : Nat) → (read : List Char) → List Char → Option (String × List Char)
  | _, read, '"' :: rest => some (String.ofList read.reverse, rest)
  | fuel + 1, read, '\\' :: rest => do
      let (c, rest) ← readEscape rest
      readBasic fuel (c :: read) rest
  | fuel + 1, read, c :: rest => if isPrintable c then readBasic fuel (c :: read) rest else none
  | _, _, _ => none

/-- Reads a string in single quotes after the opening one. -/
def readLiteral (text : List Char) : Option (String × List Char) :=
  let content := text.takeWhile fun c => c ≠ '\x27' ∧ isPrintable c
  match text.drop content.length with
  | '\x27' :: rest => some (String.ofList content, rest)
  | _ => none

/-- The text after the line end it starts with, if it does. -/
def dropLineEnd : List Char → List Char
  | '\n' :: rest => rest
  | '\r' :: '\n' :: rest => rest
  | text => text

/-- The end of a string in three quotes: up to two more quotes belong to the string. -/
def endQuotes (quote : Char) (read : List Char) : List Char → String × List Char
  | c :: d :: rest =>
      if c = quote ∧ d = quote then (String.ofList (quote :: quote :: read).reverse, rest)
      else if c = quote then (String.ofList (quote :: read).reverse, d :: rest)
      else (String.ofList read.reverse, c :: d :: rest)
  | [c] =>
      if c = quote then (String.ofList (quote :: read).reverse, [])
      else (String.ofList read.reverse, [c])
  | [] => (String.ofList read.reverse, [])

/-- Whether a text holds nothing but blanks up to a line end. -/
def isLineBreak (text : List Char) : Bool :=
  match dropBlank text with
  | '\n' :: _ => true
  | '\r' :: '\n' :: _ => true
  | _ => false

/-- The text without the blanks and line ends it starts with. -/
def dropBreaks : List Char → List Char
  | '\r' :: '\n' :: rest => dropBreaks rest
  | c :: rest => if isBlank c || c == '\n' then dropBreaks rest else c :: rest
  | [] => []

/-- Reads a string in three quotes after the opening ones.  Line ends in it stay as they are
written.  Escapes are read only in double quotes, where a backslash at the end of a line
joins it with the next. -/
def readMultiline (quote : Char) : (fuel : Nat) → (read : List Char) → List Char →
    Option (String × List Char)
  | 0, _, _ => none
  | fuel + 1, read, text =>
      match text with
      | [] => none
      | '\n' :: rest => readMultiline quote fuel ('\n' :: read) rest
      | '\r' :: '\n' :: rest => readMultiline quote fuel ('\n' :: '\r' :: read) rest
      | c :: rest =>
          if text.take 3 = [quote, quote, quote] then some (endQuotes quote read (rest.drop 2))
          else if c = '\\' ∧ quote = '"' then
            if isLineBreak rest then readMultiline quote fuel read (dropBreaks rest)
            else do
              let (c, rest) ← readEscape rest
              readMultiline quote fuel (c :: read) rest
          else if isPrintable c then readMultiline quote fuel (c :: read) rest
          else none

/-- Reads a string of any kind, if the text starts with one. -/
def readString (text : List Char) : Option (String × List Char) :=
  let fuel := text.length + 1
  match text with
  | '"' :: '"' :: '"' :: rest => readMultiline '"' fuel [] (dropLineEnd rest)
  | '\x27' :: '\x27' :: '\x27' :: rest => readMultiline '\x27' fuel [] (dropLineEnd rest)
  | '"' :: rest => readBasic fuel [] rest
  | '\x27' :: rest => readLiteral rest
  | _ => none

/-! ## Keys -/

/-- The characters of keys that need no quotes. -/
def isBareChar (c : Char) : Bool :=
  c.isAlphanum || c == '_' || c == '-'

/-- Reads one name of a key. -/
def readName (text : List Char) : Option (String × List Char) :=
  match text with
  | '"' :: rest => readBasic (text.length + 1) [] rest
  | '\x27' :: rest => readLiteral rest
  | _ =>
      let name := text.takeWhile isBareChar
      if name.isEmpty then none else some (String.ofList name, text.drop name.length)

/-- Reads a key: names with points between them. -/
def readKey : (fuel : Nat) → List Char → Option (List String × List Char)
  | 0, _ => none
  | fuel + 1, text => do
      let (name, rest) ← readName (dropBlank text)
      match dropBlank rest with
      | '.' :: rest =>
          let (names, rest) ← readKey fuel rest
          return (name :: names, rest)
      | rest => return ([name], rest)

end ResultBoards.Toml
