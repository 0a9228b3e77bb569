import ResultBoards.Text.Digits
import ResultBoards.Yaml.Cursor

/-!
# Names of anchors and tags

An anchor names a node so that it can be referred to.  A tag says what a node is; it is
written as a URI, or as a handle and what is added to the URI that the handle stands for.
-/

namespace ResultBoards.Yaml

/-! ## Anchors -/

/-- A character of the name of an anchor. -/
def isAnchorChar (c : Char) : Bool :=
  !isBlank c && !isBreak c && c != '\ufeff' && !isFlowMark c

/-- Reads the name after the mark of an anchor or of a reference to one. -/
def readAnchor (cursor : Cursor) : Option (String × Cursor) :=
  let (name, next) := (cursor.after 1).takeWhile isAnchorChar
  if name.isEmpty then none else some (String.ofList name, next)

/-! ## Tags -/

/-- A character of a handle and of the name of a directive. -/
def isWordChar (c : Char) : Bool :=
  c.isAlphanum || c == '_' || c == '-'

/-- A character of a URI. -/
def isUriChar (c : Char) : Bool :=
  c.isAlphanum || "-#;/?:@&=+$,_.!~*'()[]%".toList.contains c

/-- A character of what is added to a handle. -/
def isTagChar (c : Char) : Bool :=
  isUriChar c && !isFlowMark c && c != '!'

/-- Reads a byte after its percent sign. -/
def readByte (text : List Char) : Option Nat :=
  match text with
  | '%' :: rest => (Text.readHex 2 rest).map Prod.fst
  | _ => none

/-- Reads a character whose bytes are written with percent signs, and tells how many bytes
there are.  The bytes are put side by side, which gives a character for one or two of them
only. -/
def readEncoded (text : List Char) : Option (Char × Nat) := do
  let first ← readByte text
  if first < 0x80 then return (Char.ofNat first, 1)
  else if first < 0xc0 ∨ 0xe0 ≤ first then none
  else
    let second ← readByte (text.drop 3)
    if second / 0x40 = 2 then return (← Text.charOfCode? (first * 0x100 + second), 2) else none

/-- Reads the characters of a tag as long as they fit, some of which may be encoded. -/
def readTagChars (fits : Char → Bool) : (fuel : Nat) → (read : List Char) → Cursor →
    Option (List Char × Cursor)
  | 0, _, _ => none
  | fuel + 1, read, cursor =>
      match cursor.head? with
      | none => some (read.reverse, cursor)
      | some c =>
          if !fits c then some (read.reverse, cursor)
          else if c = '%' then do
            let (meant, bytes) ← readEncoded cursor.rest
            readTagChars fits fuel (meant :: read) (cursor.after (3 * bytes))
          else readTagChars fits fuel (c :: read) (cursor.after 1)

/-- Reads the characters of a tag as long as they fit. -/
def readTagText (fits : Char → Bool) (cursor : Cursor) : Option (List Char × Cursor) :=
  readTagChars fits (cursor.rest.length + 1) [] cursor

/-- Reads a handle: an exclamation mark, or a word between two of them.  Without the second
mark the word has to be part of something else. -/
def readHandle (cursor : Cursor) : Option (List Char × Cursor) :=
  if cursor.head? = some '!' then
    let (word, next) := (cursor.after 1).takeWhile isWordChar
    if next.head? = some '!' then some ('!' :: word ++ ['!'], next.after 1)
    else some ('!' :: word, next)
  else none

/-- A tag as it is written: a handle, and what is added to it.  A handle may be empty. -/
structure TagText where
  handle : String
  suffix : String
deriving DecidableEq, Repr

/-- Reads a tag from its exclamation mark on. -/
def readTag (cursor : Cursor) : Option (TagText × Cursor) := do
  if cursor.rest[1]? = some '<' then
    let (uri, next) ← readTagText isUriChar (cursor.after 2)
    if next.head? = some '>' then return (⟨"", String.ofList uri⟩, next.after 1) else none
  else
    let (handle, next) ← readHandle cursor
    let (added, next) ← readTagText isTagChar next
    if 2 ≤ handle.length ∧ handle.getLast? = some '!' then
      if added.isEmpty then none
      else return (⟨String.ofList handle, String.ofList added⟩, next)
    else
      let suffix := handle.drop 1 ++ added
      if suffix.isEmpty then return (⟨"", "!"⟩, next)
      else return (⟨"!", String.ofList suffix⟩, next)

/-! ## Directives -/

/-- A directive, which stands in front of a document.  Those that are not known count as one
for an empty handle. -/
inductive Directive
  | version
  | tag (handle base : String)
deriving DecidableEq, Repr

/-- Reads a number of a version, which has at most nine digits. -/
def readVersionNumber (cursor : Cursor) : Option Cursor :=
  let (digits, next) := cursor.takeWhile Char.isDigit
  if digits.isEmpty ∨ 9 < digits.length then none else some next

/-- Reads what a handle stands for: the start of a URI or of a local tag. -/
def readBase (cursor : Cursor) : Option (String × Cursor) := do
  let c ← cursor.head?
  if c = '!' then
    let (text, next) ← readTagText isUriChar (cursor.after 1)
    return (String.ofList ('!' :: text), next)
  else if isTagChar c then
    let (text, next) ← readTagText isUriChar cursor
    return (String.ofList text, next)
  else none

/-- Reads a directive after its percent sign. -/
def readDirectiveText (cursor : Cursor) : Option (Directive × Cursor) := do
  let (name, next) := cursor.takeWhile isWordChar
  if name.isEmpty ∨ !next.isSpaceAt 0 then none
  else if name = "YAML".toList then
    let next ← readVersionNumber next.dropBlanks
    if next.head? = some '.' then return (.version, ← readVersionNumber (next.after 1)) else none
  else if name = "TAG".toList then
    let (handle, next) ← readHandle next.dropBlanks
    if handle ≠ ['!'] ∧ handle.getLast? ≠ some '!' then none
    let (base, next) ← readBase next.dropBlanks
    if next.isSpaceAt 0 then return (.tag (String.ofList handle) base, next) else none
  else return (.tag "" "", next.dropLine)

/-- Reads a directive and the rest of its line. -/
def readDirective (cursor : Cursor) : Option (Directive × Cursor) := do
  let (directive, next) ← readDirectiveText (cursor.after 1)
  let next ← next.dropSpace?
  if next.isAtLineEnd then return (directive, next.afterBreak) else none

end ResultBoards.Yaml
