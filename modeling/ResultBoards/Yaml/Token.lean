import ResultBoards.Yaml.Tag

/-!
# Tokens of YAML

A text is cut into tokens first.  In block style the indentation stands for tokens that open
and close sequences and mappings, and a colon makes a key of what stands before it.
-/

namespace ResultBoards.Yaml

/-- A token. -/
inductive Token
  | textEnd
  | directive (directive : Directive)
  | documentStart
  | documentEnd
  | blockSequenceStart
  | blockMappingStart
  | blockEnd
  | flowSequenceStart
  | flowSequenceEnd
  | flowMappingStart
  | flowMappingEnd
  | blockEntry
  | flowEntry
  | key
  | value
  | reference (name : String)
  | anchor (name : String)
  | tag (tag : TagText)
  | scalar (isPlain : Bool) (text : String)
deriving DecidableEq, Repr

namespace Token

/-- Whether a token says something of the node after it. -/
def isProperty : Token → Bool
  | .anchor _ => true
  | .tag _ => true
  | _ => false

/-- What may turn out to be a key: whether it still may, whether it must, the number of its
first token, and where it starts. -/
structure Candidate where
  isPossible : Bool
  isRequired : Bool
  number : Nat
  start : Cursor

/-- What stands for no key at all. -/
def Candidate.nothing : Candidate := ⟨false, false, 0, .ofText ""⟩

/-- A level of indentation: the column of the level around it, and whether it belongs to a
sequence or a mapping in block style. -/
structure Level where
  outer : Int
  isBlock : Bool
deriving DecidableEq, Repr

/-- How far the tokens of a text have been read: the place that has been reached, the tokens
that wait with the columns where they start, the number of tokens before them, whether a key
may start, the candidates for keys by depth of flow style, the column of the indentation and
the levels it consists of, the depth of flow style, the position where a colon needs no
blank after it, whether a mapping of flow style has been started, and for each sequence of
flow style whether a pair without braces is open in it. -/
structure Draft where
  cursor : Cursor
  waiting : List (Token × Nat)
  count : Nat
  keyAllowed : Bool
  candidates : List Candidate
  indent : Int
  levels : List Level
  flowDepth : Nat
  adjacentAt : Nat
  mappingStarted : Bool
  openPairs : List Bool

namespace Draft

/-- The start of a text. -/
def ofText (text : String) : Draft :=
  ⟨.ofText text, [], 0, true, [.nothing], -1, [], 0, 0, false, []⟩

/-- Whether the reader is in flow style. -/
def inFlow (draft : Draft) : Bool :=
  draft.flowDepth != 0

/-- The draft at another place. -/
def moveTo (draft : Draft) (cursor : Cursor) : Draft :=
  { draft with cursor := cursor }

/-- The draft where keys may start or not. -/
def allowKey (draft : Draft) (isAllowed : Bool) : Draft :=
  { draft with keyAllowed := isAllowed }

/-- Adds a token that starts in a column. -/
def push (draft : Draft) (token : Token) (column : Nat) : Draft :=
  { draft with waiting := draft.waiting ++ [(token, column)] }

/-- Puts a token in front of the one with a number. -/
def insert (draft : Draft) (number : Nat) (token : Token) (column : Nat) : Draft :=
  let place := number - draft.count
  { draft with
    waiting := draft.waiting.take place ++ (token, column) :: draft.waiting.drop place }

/-! ## Indentation -/

/-- The levels that are left of some when those beyond a column are closed, the column of the
indentation then, and the number of sequences and mappings that end. -/
def closeLevels (column : Int) : (ended : Nat) → Int → List Level → Nat × Int × List Level
  | ended, indent, [] => (ended, indent, [])
  | ended, indent, level :: levels =>
      if column < indent then
        closeLevels column (if level.isBlock then ended + 1 else ended) level.outer levels
      else (ended, indent, level :: levels)

/-- Closes the levels beyond a column.  In flow style indentation does not count. -/
def unroll (draft : Draft) (column : Int) : Draft :=
  if draft.inFlow then draft
  else
    let (ended, indent, levels) := closeLevels column 0 draft.indent draft.levels
    { draft with
      indent := indent, levels := levels,
      waiting := draft.waiting ++ List.replicate ended (.blockEnd, draft.cursor.column) }

/-- Closes the levels that belong to no sequence or mapping. -/
def unrollLoose (draft : Draft) : Draft :=
  match draft.levels with
  | level :: levels =>
      if level.isBlock then draft
      else
        let inner := levels.takeWhile fun level => !level.isBlock
        let outer := (inner.getLast?.getD level).outer
        { draft with indent := outer, levels := levels.drop inner.length }
  | [] => draft

/-- Opens a level for a sequence or a mapping at a column, unless it is open.  Its token goes
in front of the one with a number, or to the end. -/
def roll (draft : Draft) (column : Nat) (number : Option Nat) (token : Token) : Draft :=
  let indent : Int := column
  if draft.inFlow then draft
  else
    let draft := match draft.levels with
      | level :: levels =>
          if draft.indent ≤ indent ∧ !level.isBlock then
            { draft with indent := level.outer, levels := levels }
          else draft
      | [] => draft
    if draft.indent < indent then
      let draft :=
        { draft with indent := indent, levels := ⟨draft.indent, true⟩ :: draft.levels }
      match number with
      | some number => draft.insert number token column
      | none => draft.push token column
    else draft

/-- Asks for one more column of what follows in a sequence or a mapping. -/
def rollOne (draft : Draft) : Draft :=
  if !draft.inFlow ∧ draft.levels.head?.any Level.isBlock then
    { draft with indent := draft.indent + 1, levels := ⟨draft.indent, false⟩ :: draft.levels }
  else draft

/-! ## Keys -/

/-- Gives up candidates that a colon cannot follow any more, unless one is required. -/
def dropStale (draft : Draft) : Option Draft := do
  if draft.inFlow then return draft
  let candidates ← draft.candidates.mapM fun candidate =>
    let isStale := candidate.start.line < draft.cursor.line ∨
      candidate.start.index + 1024 < draft.cursor.index
    if candidate.isPossible ∧ isStale then
      if candidate.isRequired then none else some { candidate with isPossible := false }
    else some candidate
  return { draft with candidates := candidates }

/-- Makes what follows a candidate for a key, where one may start. -/
def saveKey (draft : Draft) : Draft :=
  if draft.keyAllowed then
    let isRequired := !draft.inFlow && draft.indent == draft.cursor.column &&
      draft.levels.head?.any Level.isBlock
    let candidate : Candidate :=
      ⟨true, isRequired, draft.count + draft.waiting.length, draft.cursor⟩
    { draft with candidates := candidate :: draft.candidates.drop 1 }
  else draft

/-- Gives up the latest candidate, unless it is required. -/
def dropKey (draft : Draft) : Option Draft :=
  match draft.candidates with
  | candidate :: candidates =>
      if candidate.isPossible ∧ candidate.isRequired then none
      else
        some { draft with candidates := { candidate with isPossible := false } :: candidates }
  | [] => some draft

/-- Ends the pair without braces that is open in the innermost sequence of flow style. -/
def endPair (draft : Draft) : Draft :=
  match draft.openPairs with
  | true :: pairs =>
      { draft with mappingStarted := false, openPairs := false :: pairs }.push
        .flowMappingEnd draft.cursor.column
  | _ => draft

end Draft

end Token

end ResultBoards.Yaml
