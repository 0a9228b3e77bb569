import ResultBoards.Text.Digits
import ResultBoards.Yaml.Scalar.Folding

/-!
# Scalars in quotes

In single quotes a quote is written twice.  In double quotes a backslash starts an escape.
-/

namespace ResultBoards.Yaml.Quoted

/-! ## Escapes -/

/-- The characters that a backslash and another character stand for. -/
def shortEscapes : List (Char × Char) := [
  ('0', '\x00'), ('a', '\x07'), ('b', '\x08'), ('t', '\t'), ('\t', '\t'), ('n', '\n'),
  ('v', '\x0b'), ('f', '\x0c'), ('r', '\r'), ('e', '\x1b'), (' ', ' '), ('"', '"'),
  ('/', '/'), ('\\', '\\'), ('N', '\u0085'), ('_', '\u00a0'), ('L', '\u2028'),
  ('P', '\u2029')]

/-- The number of digits of a numeric escape. -/
def escapeWidth? (c : Char) : Option Nat :=
  [('x', 2), ('u', 4), ('U', 8)].lookup c

/-- Reads an escape after its backslash: the character it stands for, and the number of
characters it consists of. -/
def readEscape : List Char → Option (Char × Nat)
  | [] => none
  | c :: rest =>
      match shortEscapes.lookup c with
      | some meant => some (meant, 1)
      | none => do
          let width ← escapeWidth? c
          let (meant, _) ← Text.readCode width rest
          return (meant, width + 1)

/-! ## Pieces and gaps -/

/-- Reads a piece without blanks up to the closing quote, the characters read so far being in
reverse.  It is told whether the piece ends with an escaped line break. -/
def readPiece (quote : Char) : (fuel : Nat) → (read : List Char) → Cursor →
    Option (List Char × Bool × Cursor)
  | 0, _, _ => none
  | fuel + 1, read, cursor =>
      match cursor.rest with
      | [] => some (read, false, cursor)
      | c :: rest =>
          if isBlank c || isBreak c then some (read, false, cursor)
          else if c = quote then
            if quote = '\x27' ∧ rest.head? = some quote then
              readPiece quote fuel (quote :: read) (cursor.after 2)
            else some (read, false, cursor)
          else if c = '\\' ∧ quote = '"' then
            if rest.head?.any isBreak then some (read, true, (cursor.after 1).afterBreak)
            else do
              let (meant, width) ← readEscape rest
              readPiece quote fuel (meant :: read) (cursor.after (width + 1))
          else readPiece quote fuel (c :: read) (cursor.after 1)

/-- Reads the blanks and line breaks after a piece, and tells whether a line has been broken.
Tabs do not indent. -/
def readGap (indent : Int) : (fuel : Nat) → (isBroken : Bool) → Gap → Cursor →
    Option (Bool × Gap × Cursor)
  | 0, _, _, _ => none
  | fuel + 1, isBroken, gap, cursor =>
      match cursor.head? with
      | none => some (isBroken, gap, cursor)
      | some c =>
          if isBreak c then
            readGap indent fuel true (gap.addBreak isBroken) cursor.afterBreak
          else if !isBlank c then some (isBroken, gap, cursor)
          else if !isBroken then
            readGap indent fuel false { gap with blanks := c :: gap.blanks }
              (cursor.afterBlanks 1)
          else if c = '\t' ∧ cursor.column < indent then none
          else readGap indent fuel true gap (cursor.afterBlanks 1)

/-- Reads what is left of a scalar up to the closing quote. -/
def readFrom (quote : Char) (indent : Int) : (fuel : Nat) → (read : List Char) → Cursor →
    Option (List Char × Cursor)
  | 0, _, _ => none
  | fuel + 1, read, cursor =>
      if cursor.isAtDocumentMark ∨ cursor.isAtEnd ∨ cursor.column < indent then none
      else do
        let (read, isBroken, next) ← readPiece quote (cursor.rest.length + 1) read cursor
        if next.head? = some quote then some (read, next.after 1)
        else
          let (isBroken, gap, next) ←
            readGap indent (next.rest.length + 1) isBroken .empty next
          readFrom quote indent fuel ((gap.text isBroken).reverse ++ read) next

/-- Whether a scalar that starts in some line may end here: before the end of the line, a
colon, or in flow style a character that separates or encloses. -/
def mayEnd (inFlow : Bool) (line : Nat) (cursor : Cursor) : Bool :=
  match cursor.head? with
  | none => true
  | some c =>
      isBreak c || (c == ':' && (inFlow || line == cursor.line)) ||
        (inFlow && (c == ',' || c == ']' || c == '\x7d'))

/-- Reads a scalar in quotes, whose lines have to be indented so far, and the blanks and the
comment after it. -/
def read (inFlow : Bool) (indent : Int) (quote : Char) (cursor : Cursor) :
    Option (String × Cursor) := do
  let (read, next) ← readFrom quote indent (cursor.rest.length + 1) [] (cursor.after 1)
  let next ← next.dropSpace?
  if mayEnd inFlow cursor.line next then some (String.ofList read.reverse, next) else none

end ResultBoards.Yaml.Quoted
