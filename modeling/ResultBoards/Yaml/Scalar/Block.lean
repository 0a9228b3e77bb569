import ResultBoards.Yaml.Scalar.Folding

/-!
# Block scalars

A block scalar consists of the indented lines after its mark.  Its lines are kept as they
are or folded, and its header says what happens to the line breaks at its end.
-/

namespace ResultBoards.Yaml.Block

/-- What happens to line breaks at the end: all are dropped, one is kept, or all are. -/
inductive Chomping
  | strip
  | clip
  | keep
deriving DecidableEq, Repr

/-! ## Headers -/

/-- The way of chomping that a sign says. -/
def chompingOf? : Option Char → Option Chomping
  | some '+' => some .keep
  | some '-' => some .strip
  | _ => none

/-- Reads the digit of an indentation, which is not zero; there may be none. -/
def readIncrement (cursor : Cursor) : Option (Nat × Cursor) :=
  match cursor.head? with
  | some c =>
      if c = '0' then none
      else if c.isDigit then some (c.toNat - '0'.toNat, cursor.after 1)
      else some (0, cursor)
  | none => some (0, cursor)

/-- Reads the sign and the digit after the mark of a block scalar, in either order. -/
def readHeader (cursor : Cursor) : Option (Chomping × Nat × Cursor) :=
  match chompingOf? cursor.head? with
  | some chomping =>
      (readIncrement (cursor.after 1)).map fun (increment, next) => (chomping, increment, next)
  | none => do
      let (increment, next) ← readIncrement cursor
      match if increment = 0 then none else chompingOf? next.head? with
      | some chomping => return (chomping, increment, next.after 1)
      | none => return (.clip, increment, next)

/-! ## Lines -/

/-- Drops up to so many spaces of a line and the empty lines before it, and counts these. -/
def dropIndent (indent : Nat) : (fuel : Nat) → (breaks : Nat) → Cursor → Nat × Cursor
  | 0, breaks, cursor => (breaks, cursor)
  | fuel + 1, breaks, cursor =>
      let spaces := (cursor.rest.takeWhile (· = ' ')).length
      let next := cursor.afterBlanks (min spaces (indent - cursor.column))
      if next.head?.any isBreak then dropIndent indent fuel (breaks + 1) next.afterBreak
      else (breaks, next)

/-- Drops all spaces of the first line and the empty lines before it, counts these, and tells
the widest indentation. -/
def dropFirstIndent : (fuel : Nat) → (widest breaks : Nat) → Cursor → Nat × Nat × Cursor
  | 0, widest, breaks, cursor => (widest, breaks, cursor)
  | fuel + 1, widest, breaks, cursor =>
      let next := cursor.afterBlanks (cursor.rest.takeWhile (· = ' ')).length
      let widest := max widest next.column
      if next.head?.any isBreak then dropFirstIndent fuel widest (breaks + 1) next.afterBreak
      else (widest, breaks, next)

/-- What has been read: the characters in reverse, whether a line break follows them, how many
further ones do, and whether the last line starts with a blank. -/
structure Draft where
  read : List Char
  hasBreak : Bool
  breaks : Nat
  wasBlank : Bool

/-- The line breaks between two lines in reverse.  One between two lines that start without
blanks is folded. -/
def Draft.joint (draft : Draft) (isFolded isBlank : Bool) : List Char :=
  if isFolded && draft.hasBreak && !draft.wasBlank && !isBlank then
    if draft.breaks = 0 then [' '] else List.replicate draft.breaks '\n'
  else List.replicate (draft.breaks + if draft.hasBreak then 1 else 0) '\n'

/-- Reads the lines that are indented so far. -/
def readLines (isFolded : Bool) (indent : Nat) : (fuel : Nat) → Draft → Cursor →
    Draft × Cursor
  | 0, draft, cursor => (draft, cursor)
  | fuel + 1, draft, cursor =>
      if cursor.column ≠ indent ∨ cursor.isAtEnd ∨ cursor.isAtTriple '.' then (draft, cursor)
      else
        let isBlank := cursor.head?.any isBlank
        let line := cursor.rest.takeWhile fun c => !isBreak c
        let read := line.reverse ++ draft.joint isFolded isBlank ++ draft.read
        let next := cursor.afterBlanks line.length
        if next.isAtEnd then (⟨read, false, 0, isBlank⟩, next)
        else
          let (breaks, next) := dropIndent indent (next.rest.length + 1) 0 next.afterBreak
          readLines isFolded indent fuel ⟨read, true, breaks, isBlank⟩ next

/-- The line breaks at the end of a scalar, where the reader has reached a place. -/
def ending (chomping : Chomping) (indent : Nat) (draft : Draft) (cursor : Cursor) :
    List Char :=
  let last := if draft.hasBreak then ['\n'] else []
  let missing := if cursor.isAtEnd ∧ max indent 1 ≤ cursor.column then ['\n'] else []
  match chomping with
  | .strip => []
  | .clip => last ++ missing
  | .keep => last ++ missing ++ List.replicate draft.breaks '\n'

/-- The line breaks that a scalar without lines holds. -/
def emptyText (chomping : Chomping) (hasBreak : Bool) (breaks : Nat) : List Char :=
  match chomping with
  | .strip => []
  | .clip => if hasBreak then ['\n'] else []
  | .keep =>
      if breaks ≠ 0 then List.replicate breaks '\n' else if hasBreak then ['\n'] else []

/-- Reads a block scalar from its mark on, within an indentation.  Where its header does not
say how far its lines are indented, the first ones do. -/
def read (isFolded : Bool) (outer : Int) (cursor : Cursor) : Option (String × Cursor) := do
  let (chomping, increment, next) ← readHeader (cursor.after 1)
  let next ← next.dropSpace?
  if !next.isAtLineEnd then none
  let hasBreak := !next.isAtEnd
  let start := next.afterBreak
  if start.head? = some '\t' then none
  let fuel := start.rest.length + 1
  let (indent, breaks, next) :=
    if increment = 0 then
      let (widest, breaks, next) := dropFirstIndent fuel 0 0 start
      let least := max widest (outer + 1).toNat
      (if 0 < outer then max least 1 else least, breaks, next)
    else
      let indent := (max outer 0).toNat + increment
      (indent, dropIndent indent fuel 0 start)
  if next.isAtEnd then return (String.ofList (emptyText chomping hasBreak breaks), next)
  if next.column < indent ∧ outer < next.column then none
  let (draft, next) := readLines isFolded indent fuel ⟨[], false, breaks, false⟩ next
  let text := draft.read.reverse ++ ending chomping indent draft next
  return (String.ofList text, next)

end ResultBoards.Yaml.Block
