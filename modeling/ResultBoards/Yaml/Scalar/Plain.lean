import ResultBoards.Yaml.Scalar.Folding

/-!
# Scalars without quotes

A plain scalar ends before a colon with a blank after it, before a comment, where a line is
not indented enough, and in flow style before a character that separates or encloses.
-/

namespace ResultBoards.Yaml.Plain

/-- Whether the next character belongs to a plain scalar. -/
def isContent (inFlow : Bool) (cursor : Cursor) : Bool :=
  match cursor.head? with
  | none => false
  | some c =>
      if isBlank c || isBreak c then false
      else if c = ':' then !cursor.isSpaceAt 1 && !(inFlow && cursor.isFlowMarkAt 1)
      else !(inFlow && isFlowMark c)

/-- Reads a piece without blanks, the characters read so far being in reverse. -/
def readPiece (inFlow : Bool) : (fuel : Nat) → (read : List Char) → Cursor →
    List Char × Cursor
  | 0, read, cursor => (read, cursor)
  | fuel + 1, read, cursor =>
      match cursor.head? with
      | some c =>
          if isContent inFlow cursor then readPiece inFlow fuel (c :: read) (cursor.after 1)
          else (read, cursor)
      | none => (read, cursor)

/-- Reads the blanks and line breaks after a piece.  Tabs do not indent. -/
def readGap (indent : Int) : (fuel : Nat) → Gap → Cursor → Option (Gap × Cursor)
  | 0, _, _ => none
  | fuel + 1, gap, cursor =>
      match cursor.head? with
      | none => some (gap, cursor)
      | some c =>
          if isBreak c then
            readGap indent fuel (gap.addBreak cursor.atLineStart) cursor.afterBreak
          else if !isBlank c then some (gap, cursor)
          else if !cursor.atLineStart then
            readGap indent fuel { gap with blanks := c :: gap.blanks } (cursor.afterBlanks 1)
          else if c = '\t' ∧ cursor.column < indent then do
            let next ← cursor.dropSpace?
            if next.isAtLineEnd then readGap indent fuel gap next else none
          else readGap indent fuel gap (cursor.afterBlanks 1)

/-- Reads what is left of a scalar after a gap. -/
def readFrom (inFlow : Bool) (indent : Int) : (fuel : Nat) → Gap → (read : List Char) →
    Cursor → Option (List Char × Cursor)
  | 0, _, _, _ => none
  | fuel + 1, gap, read, cursor =>
      if cursor.isAtDocumentMark ∨ cursor.head? = some '#' then some (read, cursor)
      else if inFlow ∧ cursor.head? = some '-' ∧ cursor.isFlowMarkAt 1 then none
      else if !isContent inFlow cursor then some (read, cursor)
      else do
        let joined := (gap.text cursor.atLineStart).reverse ++ read
        let (read, next) := readPiece inFlow (cursor.rest.length + 1) joined cursor
        let (gap, next) ← readGap indent (next.rest.length + 1) .empty next
        if !inFlow ∧ next.column < indent then some (read, next)
        else readFrom inFlow indent fuel gap read next

/-- Reads a plain scalar whose further lines have to be indented so far.  It holds at least
one character. -/
def read (inFlow : Bool) (indent : Int) (cursor : Cursor) : Option (String × Cursor) := do
  if inFlow ∧ cursor.column < indent then none
  let (read, next) ← readFrom inFlow indent (cursor.rest.length + 1) .empty [] cursor
  if read.isEmpty then none else some (String.ofList read.reverse, next)

end ResultBoards.Yaml.Plain
