import ResultBoards.Text.Digits
import ResultBoards.Text.Identifier

/-!
# Blanks, names and strings of RON

Readers of the pieces of a RON document.  A reader returns the rest of the text, or nothing
where the text is not well-formed.
-/

namespace ResultBoards.Ron

/-! ## Blanks and comments -/

/-- A character that may stand between the pieces of a document. -/
def isSpace (c : Char) : Bool :=
  c == ' ' || ('\t' ≤ c && c ≤ '\r') || c == '\u0085' || c == '\u200e' || c == '\u200f' ||
    c == '\u2028' || c == '\u2029'

/-- The text after block comments that are nested to some depth, if all of them end. -/
def afterBlocks : (depth : Nat) → List Char → Option (List Char)
  | 0, text => some text
  | depth + 1, '*' :: '/' :: rest => afterBlocks depth rest
  | depth + 1, '/' :: '*' :: rest => afterBlocks (depth + 2) rest
  | depth + 1, _ :: rest => afterBlocks (depth + 1) rest
  | _ + 1, [] => none

/-- The text without the blanks and comments it starts with, read in so many steps. -/
def dropSpace : (fuel : Nat) → List Char → Option (List Char)
  | 0, _ => none
  | fuel + 1, text =>
      match text.dropWhile isSpace with
      | '/' :: '/' :: rest => dropSpace fuel (rest.dropWhile (· ≠ '\n'))
      | '/' :: '*' :: rest => (afterBlocks 1 rest).bind (dropSpace fuel)
      | '/' :: _ => none
      | rest => some rest

/-- The text without the blanks and comments it starts with. -/
def trimStart (text : List Char) : Option (List Char) :=
  dropSpace (text.length + 1) text

/-- The text after a character, if that follows blanks and comments. -/
def after? (c : Char) (text : List Char) : Option (List Char) := do
  match ← trimStart text with
  | d :: rest => if d = c then some rest else none
  | [] => none

/-- Whether a comma follows, and the text after it and the blanks around it. -/
def readComma (text : List Char) : Option (Bool × List Char) := do
  match ← trimStart text with
  | ',' :: rest => return (true, ← trimStart rest)
  | rest => return (false, rest)

/-! ## Names -/

/-- A name: a word of the language or of the user.  Words that are marked as names have no
meaning of their own. -/
inductive Name
  | word (text : String)
  | marked (text : String)
deriving DecidableEq, Repr

/-- The characters of a name. -/
def Name.text : Name → String
  | .word text => text
  | .marked text => text

/-- A character of a marked name. -/
def isMarkedPart (c : Char) : Bool :=
  c == '.' || c == '+' || c == '-' || Text.isNamePart c

/-- Whether a text starts with a string or a byte that has a letter in front. -/
def startsQuoted : List Char → Bool
  | 'b' :: '"' :: _ => true
  | 'b' :: '\x27' :: _ => true
  | 'b' :: 'r' :: '"' :: _ => true
  | 'b' :: 'r' :: '#' :: _ => true
  | 'r' :: '"' :: _ => true
  | 'r' :: '#' :: '"' :: _ => true
  | 'r' :: '#' :: '#' :: _ => true
  | _ => false

/-- Reads a name, if the text starts with one. -/
def readName (text : List Char) : Option (Name × List Char) :=
  if startsQuoted text then none
  else
    match text with
    | 'r' :: '#' :: rest =>
        let name := rest.takeWhile isMarkedPart
        if name.isEmpty then none
        else some (.marked (String.ofList name), rest.drop name.length)
    | c :: rest =>
        if c = '_' ∨ Text.isNameStart c then
          let name := c :: rest.takeWhile Text.isNamePart
          some (.word (String.ofList name), text.drop name.length)
        else none
    | [] => none

/-! ## Strings -/

/-- The characters that a backslash and a character stand for. -/
def shortEscapes : List (Char × Char) := [
  ('\x27', '\x27'), ('"', '"'), ('\\', '\\'), ('n', '\n'), ('r', '\r'), ('t', '\t'),
  ('0', '\x00')]

/-- What an escape stands for: a character by its code point, or a byte of an encoding. -/
inductive Escape
  | char (c : Char)
  | byte (value : Nat)
deriving DecidableEq, Repr

/-- Reads an escape after its backslash. -/
def readEscape : List Char → Option (Escape × List Char)
  | 'x' :: rest => (Text.readHex 2 rest).map fun (value, rest) => (.byte value, rest)
  | 'u' :: '\x7b' :: rest => do
      let digits := (rest.take 6).takeWhile (· ≠ '\x7d')
      if digits.isEmpty then none
      let (c, rest) ← Text.readCode digits.length rest
      match rest with
      | '\x7d' :: rest => return (.char c, rest)
      | _ => none
  | c :: rest => (shortEscapes.lookup c).map fun meant => (.byte meant.toNat, rest)
  | [] => none

/-- The bytes that an escape stands for in a string. -/
def Escape.bytes : Escape → List UInt8
  | .char c => String.utf8EncodeChar c
  | .byte value => [UInt8.ofNat value]

/-- The character that an escape stands for.  A byte is a character in ASCII only. -/
def Escape.char? : Escape → Option Char
  | .char c => some c
  | .byte value => if value < 0x80 then some (Char.ofNat value) else none

/-- The byte that an escape stands for. -/
def Escape.byte? : Escape → Option Nat
  | .char _ => none
  | .byte value => some value

/-- Reads a string after its opening quote.  The bytes read so far are kept in reverse. -/
def readQuoted : (fuel : Nat) → (read : List UInt8) → List Char → Option (String × List Char)
  | 0, _, _ => none
  | fuel + 1, read, text =>
      match text with
      | [] => none
      | '"' :: rest => (String.fromUTF8? (ByteArray.mk read.reverse.toArray)).map (·, rest)
      | '\\' :: rest => do
          let (escape, rest) ← readEscape rest
          readQuoted fuel (escape.bytes.reverse ++ read) rest
      | c :: rest => readQuoted fuel ((String.utf8EncodeChar c).reverse ++ read) rest

/-- Reads a string without escapes up to its ending. -/
def readUntil (ending : List Char) : (read : List Char) → List Char →
    Option (String × List Char)
  | read, c :: rest =>
      if ending.isPrefixOf (c :: rest) then
        some (String.ofList read.reverse, (c :: rest).drop ending.length)
      else readUntil ending (c :: read) rest
  | _, [] => none

/-- Reads a string, if the text starts with one.  A string without escapes is marked, and it
ends with a quote and as many hash signs as stand in front of it. -/
def readString : List Char → Option (String × List Char)
  | '"' :: rest => readQuoted (rest.length + 1) [] rest
  | 'r' :: rest =>
      let hashes := rest.takeWhile (· = '#')
      match rest.drop hashes.length with
      | '"' :: rest => readUntil ('"' :: hashes) [] rest
      | _ => none
  | _ => none

/-! ## Characters -/

/-- The text after a closing quote. -/
def afterQuote? : List Char → Option (List Char)
  | '\x27' :: rest => some rest
  | _ => none

/-- Reads a character after its opening quote. -/
def readChar : List Char → Option (Char × List Char)
  | '\\' :: rest => do
      let (escape, rest) ← readEscape rest
      return (← escape.char?, ← afterQuote? rest)
  | c :: rest => (afterQuote? rest).map (c, ·)
  | [] => none

/-- Reads a byte after its opening quote.  A character stands for one in ASCII only. -/
def readByte : List Char → Option (Nat × List Char)
  | '\\' :: rest => do
      let (escape, rest) ← readEscape rest
      return (← escape.byte?, ← afterQuote? rest)
  | c :: rest => if c.toNat < 0x80 then (afterQuote? rest).map (c.toNat, ·) else none
  | [] => none

end ResultBoards.Ron
