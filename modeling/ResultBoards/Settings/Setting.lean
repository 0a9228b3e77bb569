import ResultBoards.Json.Value
import ResultBoards.Text.Digits

/-!
# Settings

What configuration files and the environment say, as one tree.  Sources are laid over
each other: a later one replaces single values and adds to tables.  Values remember the
source they came from.
-/

namespace ResultBoards

/-- A single value of a setting. -/
inductive Scalar
  | nil
  | boolean (value : Bool)
  | integer (value : Int)
  | real (value : Binary64)
  | text (value : String)
deriving DecidableEq, Repr

/-- A tree of settings.  The origin is the source it was read from. -/
inductive Setting
  | scalar (origin : Option String) (value : Scalar)
  | list (origin : Option String) (elements : List Setting)
  | table (origin : Option String) (entries : List (String × Setting))

/-- A step from a setting to one of its parts.  Negative positions count from the end. -/
inductive KeyStep
  | key (name : String)
  | index (position : Int)
deriving DecidableEq, Repr

namespace Setting

/-- Where nothing has been set. -/
def nothing : Setting := .scalar none .nil

/-- No settings. -/
def empty : Setting := .table none []

/-! ## Reading a document -/

/-- A number of a document. -/
def ofNumber : Json.Number → Scalar
  | .integer value => .integer value
  | .real value => .real value

mutual

/-- The settings of a document that came from a source. -/
def ofValue (origin : String) : Json.Value → Setting
  | .null => .scalar (some origin) .nil
  | .bool value => .scalar (some origin) (.boolean value)
  | .number value => .scalar (some origin) (ofNumber value)
  | .string value => .scalar (some origin) (.text value)
  | .array elements => .list (some origin) (ofElements origin elements)
  | .object members => .table (some origin) (ofMembers origin members)

/-- The settings of the elements of an array. -/
def ofElements (origin : String) : List Json.Value → List Setting
  | [] => []
  | element :: rest => ofValue origin element :: ofElements origin rest

/-- The settings of the members of an object.  Of members with one name the last counts. -/
def ofMembers (origin : String) : List (String × Json.Value) → List (String × Setting)
  | [] => []
  | (name, value) :: rest =>
      if rest.any fun member => member.1 = name then ofMembers origin rest
      else (name, ofValue origin value) :: ofMembers origin rest

end

/-! ## Laying settings over each other -/

/-- The entries of a table.  Anything else is no table and has none. -/
def entries : Setting → List (String × Setting)
  | .table _ entries => entries
  | _ => []

/-- Where a setting came from, if it is a table; a table that takes the place of
something else came from nowhere. -/
def tableOrigin : Setting → Option String
  | .table origin _ => origin
  | _ => none

/-- Changes the entry of a name, which is nothing as long as it has not been set. -/
def updateEntry (name : String) (change : Setting → Setting) :
    List (String × Setting) → List (String × Setting)
  | [] => [(name, change nothing)]
  | (other, setting) :: rest =>
      if other = name then (other, change setting) :: rest
      else (other, setting) :: updateEntry name change rest

/-- Changes the element at a position of a list, which is first filled up with nothing. -/
def updateElement (position : Int) (change : Setting → Setting) (elements : List Setting) :
    List Setting :=
  let count := elements.length
  if 0 ≤ position then
    let filled := elements ++ List.replicate (position.toNat + 1 - count) nothing
    filled.modify position.toNat change
  else if position.natAbs ≤ count then elements.modify (count - position.natAbs) change
  else (List.replicate (position.natAbs - count) nothing ++ elements).modify 0 change

/-- The elements of a list.  Anything else is no list and has none. -/
def elements : Setting → List Setting
  | .list _ elements => elements
  | _ => []

/-- Where a list came from. -/
def listOrigin : Setting → Option String
  | .list origin _ => origin
  | _ => none

/-- Changes the part that a path leads to.  What stands in the way is replaced. -/
def update (change : Setting → Setting) : List KeyStep → Setting → Setting
  | [], setting => change setting
  | .key name :: rest, setting =>
      .table setting.tableOrigin (updateEntry name (update change rest) setting.entries)
  | .index position :: rest, setting =>
      .list setting.listOrigin (updateElement position (update change rest) setting.elements)

mutual

/-- Lays a setting over another.  Tables are joined; anything else replaces what was
there. -/
def overlay (below : Setting) : Setting → Setting
  | .table _ entries => .table below.tableOrigin (overlayEntries below.entries entries)
  | above => above

/-- Lays the entries of a table over others. -/
def overlayEntries (below : List (String × Setting)) :
    List (String × Setting) → List (String × Setting)
  | [] => below
  | (name, setting) :: rest =>
      overlayEntries (updateEntry name (fun old => overlay old setting) below) rest

end

/-! ## Paths -/

/-- The characters of names in paths. -/
def isNameChar (c : Char) : Bool :=
  c.isAlphanum || c == '_' || c == '-'

/-- The text without the spaces and tabs it starts with. -/
def dropSpaces (text : List Char) : List Char :=
  text.dropWhile fun c => c == ' ' || c == '\t'

/-- Reads a position and the bracket after it, with spaces around the position.  It fits
into 64 bits. -/
def readPosition (text : List Char) : Option (Int × List Char) :=
  let (negative, start) := match dropSpaces text with
    | '-' :: rest => (true, rest)
    | rest => (false, rest)
  let digits := start.takeWhile Char.isDigit
  let position := Text.signed negative (Text.numberOf 10 digits)
  match dropSpaces (start.drop digits.length) with
  | ']' :: rest =>
      if digits.isEmpty ∨ position < -0x8000000000000000 ∨ 0x8000000000000000 ≤ position then none
      else some (position, rest)
  | _ => none

/-- Reads the steps of a path after its first name: names after points and positions in
brackets. -/
def readSteps : (fuel : Nat) → List Char → Option (List KeyStep)
  | _, [] => some []
  | 0, _ => none
  | fuel + 1, '.' :: rest =>
      let name := rest.takeWhile isNameChar
      if name.isEmpty then none
      else (readSteps fuel (rest.drop name.length)).map (.key (String.ofList name) :: ·)
  | fuel + 1, '[' :: rest =>
      match readPosition rest with
      | some (position, rest) => (readSteps fuel rest).map (.index position :: ·)
      | none => none
  | _, _ => none

/-- The path that a key means.  A key that is not written as a path is a name. -/
def pathOfKey (key : String) : List KeyStep :=
  let text := key.toList
  let name := text.takeWhile isNameChar
  match if name.isEmpty then none else readSteps text.length (text.drop name.length) with
  | some steps => .key (String.ofList name) :: steps
  | none => [.key key]

/-- Lays a setting over the part that a key means. -/
def setKey (settings : Setting) (key : String) (setting : Setting) : Setting :=
  settings.update (overlay · setting) (pathOfKey key)

/-- Lays a source, which consists of keys and settings, over settings. -/
def addSource (settings : Setting) (source : List (String × Setting)) : Setting :=
  source.foldl (fun settings entry => settings.setKey entry.1 entry.2) settings

end Setting

end ResultBoards
