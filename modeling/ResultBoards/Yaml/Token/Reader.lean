import ResultBoards.Yaml.Scalar.Block
import ResultBoards.Yaml.Scalar.Plain
import ResultBoards.Yaml.Scalar.Quoted
import ResultBoards.Yaml.Token

/-!
# Reading tokens

Every step reads what stands at the place that has been reached.  A token is handed out only
when it is certain that no key starts with it.
-/

namespace ResultBoards.Yaml.Token

namespace Draft

/-! ## Between tokens -/

/-- Goes on to the next token.  In block style a key may start after a line break.  Tabs do
not indent. -/
def skipSpace : (fuel : Nat) → Draft → Option Draft
  | 0, _ => none
  | fuel + 1, draft =>
      let cursor := draft.cursor
      match cursor.head? with
      | none => some draft
      | some c =>
          if c = '\t' ∧ !draft.levels.isEmpty ∧ cursor.atLineStart ∧
              cursor.column < draft.indent then do
            let next ← cursor.dropSpace?
            if next.isAtLineEnd then skipSpace fuel (draft.moveTo next) else none
          else if isBlank c then skipSpace fuel (draft.moveTo (cursor.afterBlanks 1))
          else if isBreak c then
            skipSpace fuel <|
              (draft.moveTo cursor.afterBreak).allowKey (draft.keyAllowed || !draft.inFlow)
          else if c = '#' then skipSpace fuel (draft.moveTo cursor.dropLine)
          else some draft

/-- Goes on to the next token. -/
def toNext (draft : Draft) : Option Draft :=
  draft.skipSpace (draft.cursor.rest.length + 1)

/-- Goes on to the end of the blanks and the comment after a token. -/
def afterSpace (draft : Draft) : Option Draft :=
  draft.cursor.dropSpace?.map draft.moveTo

/-! ## Documents -/

/-- Reads the end of the text.  It counts as a line of its own. -/
def readEnd (draft : Draft) : Option Draft := do
  if draft.candidates.any fun candidate => candidate.isPossible && candidate.isRequired then none
  let draft := (draft.unroll (-1)).allowKey false
  let candidates := draft.candidates.map fun candidate => { candidate with isPossible := false }
  return { draft with candidates := candidates }.push .textEnd draft.cursor.column

/-- Ends all sequences and mappings in block style in front of a line that concerns the
document. -/
def closeDocument (draft : Draft) : Option Draft :=
  (draft.unroll (-1)).dropKey.map (·.allowKey false)

/-- Reads a directive. -/
def readDirective (draft : Draft) : Option Draft := do
  let draft ← draft.closeDocument
  let (read, next) ← Yaml.readDirective draft.cursor
  return (draft.moveTo next).push (.directive read) 0

/-- Reads the line that starts a document. -/
def readDocumentStart (draft : Draft) : Option Draft := do
  let draft ← draft.closeDocument
  return (draft.moveTo (draft.cursor.after 3)).push .documentStart 0

/-- Reads the line that ends a document. -/
def readDocumentEnd (draft : Draft) : Option Draft := do
  let draft ← draft.closeDocument
  let draft ← ((draft.moveTo (draft.cursor.after 3)).push .documentEnd 0).afterSpace
  if draft.cursor.isAtLineEnd then some draft else none

/-! ## Flow style -/

/-- How deep flow style may be nested. -/
def maxFlowDepth : Nat := 255

/-- Opens a sequence or a mapping of flow style. -/
def openFlow (isMapping : Bool) (draft : Draft) : Option Draft := do
  let column := draft.cursor.column
  let draft := draft.saveKey.rollOne
  if maxFlowDepth ≤ draft.flowDepth then none
  let draft :=
    { draft with
      candidates := .nothing :: draft.candidates, flowDepth := draft.flowDepth + 1,
      keyAllowed := true, mappingStarted := draft.mappingStarted || isMapping,
      openPairs := if isMapping then draft.openPairs else false :: draft.openPairs }
  let draft ← (draft.moveTo (draft.cursor.after 1)).afterSpace
  return draft.push (if isMapping then .flowMappingStart else .flowSequenceStart) column

/-- Closes a sequence or a mapping of flow style. -/
def closeFlow (isMapping : Bool) (draft : Draft) : Option Draft := do
  let column := draft.cursor.column
  let draft := (← draft.dropKey).allowKey false
  let draft :=
    if draft.inFlow then
      { draft with
        candidates := draft.candidates.drop 1, flowDepth := draft.flowDepth - 1 }
    else draft
  let draft :=
    if isMapping then draft
    else { draft.endPair with openPairs := draft.openPairs.drop 1 }
  let draft ← (draft.moveTo (draft.cursor.after 1)).afterSpace
  let draft := if draft.inFlow then { draft with adjacentAt := draft.cursor.index } else draft
  return draft.push (if isMapping then .flowMappingEnd else .flowSequenceEnd) column

/-- Reads a comma of flow style. -/
def readFlowEntry (draft : Draft) : Option Draft := do
  let column := draft.cursor.column
  let draft := ((← draft.dropKey).allowKey true).endPair
  let draft ← (draft.moveTo (draft.cursor.after 1)).afterSpace
  return draft.push .flowEntry column

/-! ## Entries, keys and values -/

/-- Whether the last token that waits says something of a node and stands at the start of a
line. -/
def endsWithProperty (draft : Draft) : Bool :=
  draft.waiting.getLast?.any fun (token, column) => token.isProperty && column == 0

/-- Reads the dash of an entry of a sequence in block style. -/
def readBlockEntry (draft : Draft) : Option Draft := do
  let column := draft.cursor.column
  if draft.inFlow ∨ !draft.keyAllowed then none
  if draft.endsWithProperty ∧ column = 0 ∧ -1 < draft.indent then none
  let draft := (draft.moveTo (draft.cursor.after 1)).roll column none .blockSequenceStart
  let hasTab := (draft.cursor.rest.takeWhile isBlank).contains '\t'
  let draft ← draft.afterSpace
  let cursor := draft.cursor
  if hasTab ∧ cursor.head? = some '-' ∧ cursor.isSpaceAt 1 then none
  let draft :=
    if cursor.head?.any isBreak ∨ cursor.isFlowMarkAt 0 then draft.rollOne else draft
  return ((← draft.dropKey).allowKey true).push .blockEntry draft.cursor.column

/-- Goes on after the mark of a key: over spaces, line breaks and comments, but not over
tabs. -/
def skipAfterKey : (fuel : Nat) → Draft → Draft
  | 0, draft => draft
  | fuel + 1, draft =>
      let cursor := draft.cursor
      match cursor.head? with
      | none => draft
      | some c =>
          if c = ' ' then skipAfterKey fuel (draft.moveTo (cursor.afterBlanks 1))
          else if isBreak c then
            skipAfterKey fuel <|
              (draft.moveTo cursor.afterBreak).allowKey (draft.keyAllowed || !draft.inFlow)
          else if c = '#' then skipAfterKey fuel (draft.moveTo cursor.dropLine)
          else draft

/-- Reads the mark of a key. -/
def readKey (draft : Draft) : Option Draft := do
  let column := draft.cursor.column
  let draft ←
    if draft.inFlow then some { draft with mappingStarted := true }
    else if draft.keyAllowed then some (draft.roll column none .blockMappingStart)
    else none
  let draft := (← draft.dropKey).allowKey !draft.inFlow
  let start := draft.moveTo (draft.cursor.after 1)
  let draft := start.skipAfterKey (start.cursor.rest.length + 1)
  if draft.cursor.index = start.cursor.index ∨ draft.cursor.head? = some '\t' then none
  else return draft.push .key column

/-- Goes on after a colon.  A tab is no blank in front of a value that starts like a word. -/
def afterColon (cursor : Cursor) : Option Cursor :=
  if cursor.head? = some '\t' then do
    let next ← cursor.dropSpace?
    let hasSpace := (cursor.rest.takeWhile isBlank).contains ' '
    if !hasSpace ∧ next.head?.any isWordChar then none else some next
  else some cursor

/-- Reads the colon in front of a value.  What stands before it becomes a key, in sequences of
flow style the key of a pair. -/
def readValue (draft : Draft) : Option Draft := do
  let start := draft.cursor
  let candidate := draft.candidates.head?.getD .nothing
  let opensPair := !draft.openPairs.isEmpty && !draft.mappingStarted
  let draft :=
    if opensPair then { draft with openPairs := true :: draft.openPairs.drop 1 } else draft
  let draft := draft.moveTo (← afterColon (start.after 1))
  let column := candidate.start.column
  let draft ←
    if candidate.isPossible then do
      if opensPair ∧ candidate.start.line < start.line then none
      let draft := draft.insert candidate.number .key column
      let draft :=
        if opensPair then draft.insert candidate.number .flowMappingStart column else draft
      let draft := (draft.roll column (some candidate.number) .blockMappingStart).rollOne
      let candidates := { candidate with isPossible := false } :: draft.candidates.drop 1
      some ({ draft with candidates := candidates }.allowKey false)
    else do
      let draft := if opensPair then draft.push .flowMappingStart start.column else draft
      if !draft.inFlow ∧ !draft.keyAllowed then none
      some ((draft.roll start.column none .blockMappingStart).rollOne.allowKey !draft.inFlow)
  return draft.push .value start.column

/-! ## Anchors, tags and scalars -/

/-- Reads an anchor or a reference to one. -/
def readName (token : String → Token) (draft : Draft) : Option Draft := do
  let column := draft.cursor.column
  let draft := draft.saveKey.allowKey false
  let (name, next) ← readAnchor draft.cursor
  return (draft.moveTo next).push (token name) column

/-- Reads a tag. -/
def readTag (draft : Draft) : Option Draft := do
  let column := draft.cursor.column
  let draft := draft.saveKey.allowKey false
  let (read, next) ← Yaml.readTag draft.cursor
  if next.isSpaceAt 0 ∨ (draft.inFlow ∧ next.isFlowMarkAt 0) then
    return (draft.moveTo next).push (.tag read) column
  else none

/-- Reads a plain scalar.  A key may follow if it ended with a line break. -/
def readPlain (draft : Draft) : Option Draft := do
  let column := draft.cursor.column
  let draft := draft.saveKey.unrollLoose
  let (text, next) ← Plain.read draft.inFlow (draft.indent + 1) draft.cursor
  return ((draft.moveTo next).allowKey next.atLineStart).push (.scalar true text) column

/-- Reads a scalar in quotes and goes on to the next token.  In flow style a colon may follow
at once. -/
def readQuoted (quote : Char) (draft : Draft) : Option Draft := do
  let column := draft.cursor.column
  let draft := draft.saveKey.allowKey false
  let (text, next) ← Quoted.read draft.inFlow draft.indent quote draft.cursor
  let draft ← (draft.moveTo next).toNext
  return { draft with adjacentAt := draft.cursor.index }.push (.scalar false text) column

/-- Reads a block scalar.  A key may follow. -/
def readBlock (isFolded : Bool) (draft : Draft) : Option Draft := do
  let column := draft.cursor.column
  let draft := (draft.saveKey.allowKey true).unrollLoose
  let (text, next) ← Block.read isFolded draft.indent draft.cursor
  return (draft.moveTo next).push (.scalar false text) column

/-! ## Any token -/

/-- Whether a colon stands in front of a value.  In flow style no blank is needed before a
character that separates or encloses, nor after what is certain to be a key. -/
def isAtValue (draft : Draft) : Bool :=
  draft.cursor.isSpaceAt 1 ||
    (draft.inFlow &&
      (draft.cursor.isFlowMarkAt 1 || draft.cursor.index == draft.adjacentAt))

/-- Whether a colon in flow style is followed by a list or a mapping without a blank. -/
def isTooClose (draft : Draft) : Bool :=
  draft.inFlow && draft.cursor.index != draft.adjacentAt &&
    draft.cursor.rest[1]?.any fun c => c == '[' || c == '\x7b'

/-- Reads what starts with a character that has a meaning of its own, or a plain scalar. -/
def readMarked (c : Char) (draft : Draft) : Option Draft :=
  match c with
  | '[' => openFlow false draft
  | '\x7b' => openFlow true draft
  | ']' => closeFlow false draft
  | '\x7d' => closeFlow true draft
  | ',' => draft.readFlowEntry
  | '-' => if draft.cursor.isSpaceAt 1 then draft.readBlockEntry else draft.readPlain
  | '?' => if draft.cursor.isSpaceAt 1 then draft.readKey else draft.readPlain
  | ':' =>
      if !draft.isAtValue then draft.readPlain
      else if draft.isTooClose then none
      else draft.readValue
  | '*' => draft.readName .reference
  | '&' => draft.readName .anchor
  | '!' => draft.readTag
  | '|' => if draft.inFlow then draft.readPlain else draft.readBlock false
  | '>' => if draft.inFlow then draft.readPlain else draft.readBlock true
  | '\x27' => draft.readQuoted c
  | '"' => draft.readQuoted c
  | '%' => none
  | '@' => none
  | '\x60' => none
  | _ => draft.readPlain

/-- Whether a character may stand at the place that has been reached, in spite of the
indentation. -/
def isIndented (c : Char) (draft : Draft) : Bool :=
  draft.indent ≤ draft.cursor.column ||
    (draft.inFlow && (c == ']' || c == '\x7d' || c == ','))

/-- Reads the next tokens. -/
def step (draft : Draft) : Option Draft := do
  let draft ← (← draft.toNext).dropStale
  let draft := draft.unroll draft.cursor.column
  match draft.cursor.head? with
  | none => draft.readEnd
  | some c =>
      if draft.cursor.column = 0 ∧ c = '%' then draft.readDirective
      else if draft.cursor.isAtTriple '-' then draft.readDocumentStart
      else if draft.cursor.isAtTriple '.' then draft.readDocumentEnd
      else if draft.isIndented c then draft.readMarked c
      else none

/-- Whether the first token that waits may turn out to be a key or to stand in one. -/
def isOpen (draft : Draft) : Bool :=
  draft.candidates.any fun candidate =>
    candidate.isPossible && candidate.number == draft.count

/-- Reads all tokens, the ones handed out so far being in reverse. -/
def readAll : (fuel : Nat) → (read : List Token) → Draft → Option (List Token)
  | 0, _, _ => none
  | fuel + 1, read, draft =>
      match draft.waiting with
      | [] => draft.step.bind (readAll fuel read)
      | (token, _) :: waiting =>
          match draft.dropStale with
          | none => none
          | some draft =>
              if draft.isOpen then draft.step.bind (readAll fuel read)
              else if token = .textEnd then some (token :: read).reverse
              else
                readAll fuel (token :: read)
                  { draft with waiting := waiting, count := draft.count + 1 }

end Draft

/-- The tokens of a text.  The last one says that the text ends. -/
def ofText? (text : String) : Option (List Token) :=
  let draft := Draft.ofText text
  draft.readAll (10 * draft.cursor.rest.length + 20) []

end ResultBoards.Yaml.Token
