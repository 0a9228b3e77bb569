/-!
# Places in a YAML text

Indentation and line breaks have a meaning in YAML, so a reader keeps track of the line and
the column it has reached.
-/

namespace ResultBoards.Yaml

/-! ## Characters -/

/-- A blank within a line. -/
def isBlank (c : Char) : Bool :=
  c == ' ' || c == '\t'

/-- A character that ends a line. -/
def isBreak (c : Char) : Bool :=
  c == '\n' || c == '\r'

/-- A character that separates or encloses what stands in brackets or braces. -/
def isFlowMark (c : Char) : Bool :=
  c == ',' || c == '[' || c == ']' || c == '\x7b' || c == '\x7d'

/-- The text that is left from a place on, how many characters and lines stand before it,
its column, and whether only blanks stand before it on its line. -/
structure Cursor where
  rest : List Char
  index : Nat
  line : Nat
  column : Nat
  atLineStart : Bool
deriving DecidableEq, Repr

namespace Cursor

/-- The start of a text.  A text ends at a null character. -/
def ofText (text : String) : Cursor :=
  ⟨text.toList.takeWhile (· ≠ '\x00'), 0, 0, 0, true⟩

/-! ## What stands at a place -/

/-- The next character. -/
def head? (cursor : Cursor) : Option Char :=
  cursor.rest.head?

/-- Whether the text ends here. -/
def isAtEnd (cursor : Cursor) : Bool :=
  cursor.rest.isEmpty

/-- Whether the line ends here. -/
def isAtLineEnd (cursor : Cursor) : Bool :=
  cursor.head?.all isBreak

/-- Whether a blank, a line end or the end of the text stands some characters ahead. -/
def isSpaceAt (cursor : Cursor) (offset : Nat) : Bool :=
  cursor.rest[offset]?.all fun c => isBlank c || isBreak c

/-- Whether a character of flow style stands some characters ahead. -/
def isFlowMarkAt (cursor : Cursor) (offset : Nat) : Bool :=
  cursor.rest[offset]?.any isFlowMark

/-- Whether a line starts here with three times the same character on their own. -/
def isAtTriple (cursor : Cursor) (c : Char) : Bool :=
  cursor.column == 0 && cursor.rest.take 3 == [c, c, c] && cursor.isSpaceAt 3

/-- Whether a document starts or ends here with a line of its own. -/
def isAtDocumentMark (cursor : Cursor) : Bool :=
  cursor.isAtTriple '-' || cursor.isAtTriple '.'

/-! ## Going on -/

/-- The place after so many blanks. -/
def afterBlanks (cursor : Cursor) (count : Nat) : Cursor :=
  { cursor with
    rest := cursor.rest.drop count, index := cursor.index + count,
    column := cursor.column + count }

/-- The place after so many characters other than line breaks. -/
def after (cursor : Cursor) (count : Nat) : Cursor :=
  { cursor.afterBlanks count with atLineStart := cursor.atLineStart && count == 0 }

/-- The place after a line break. -/
def afterBreak (cursor : Cursor) : Cursor :=
  match cursor.rest with
  | '\r' :: '\n' :: rest => ⟨rest, cursor.index + 2, cursor.line + 1, 0, true⟩
  | _ :: rest => ⟨rest, cursor.index + 1, cursor.line + 1, 0, true⟩
  | [] => cursor

/-- The place after all blanks. -/
def dropBlanks (cursor : Cursor) : Cursor :=
  cursor.afterBlanks (cursor.rest.takeWhile isBlank).length

/-- The place at the end of the line. -/
def dropLine (cursor : Cursor) : Cursor :=
  cursor.after (cursor.rest.takeWhile fun c => !isBreak c).length

/-- The place after blanks and a comment, which does not start without a blank. -/
def dropSpace? (cursor : Cursor) : Option Cursor :=
  let next := cursor.dropBlanks
  if next.head? = some '#' then
    if next.index = cursor.index then none else some next.dropLine
  else some next

/-- Reads the characters up to the first that does not fit. -/
def takeWhile (fits : Char → Bool) (cursor : Cursor) : List Char × Cursor :=
  let taken := cursor.rest.takeWhile fits
  (taken, cursor.after taken.length)

end Cursor

end ResultBoards.Yaml
