import ResultBoards.Toml.Scalar
import ResultBoards.Toml.Text

/-!
# TOML documents

A document is a table of keys and values.  Headers open tables, and keys with points in
them make tables on the way.  A table may be defined once only, so it is remembered how
each came about.
-/

namespace ResultBoards.Toml

open Json (Value)

/-- How a table came about: through a header of a table in it, through a key with points,
or through its own header. -/
inductive TableKind
  | implied
  | dotted
  | defined
deriving DecidableEq, Repr

/-- What a name stands for while the document is read: a finished value, a table, or a
list of tables, the last of which is still open. -/
inductive Node
  | value (value : Value)
  | table (kind : TableKind) (entries : List (String × Node))
  | tables (closed : List Value) (entries : List (String × Node))

/-- The names of a table. -/
abbrev NodeEntries := List (String × Node)

mutual

/-- A node as a value. -/
def Node.toValue : Node → Value
  | .value value => value
  | .table _ entries => .object (membersOf entries)
  | .tables closed entries => .array (closed ++ [.object (membersOf entries)])

/-- The entries of a table as members. -/
def membersOf : NodeEntries → List (String × Value)
  | [] => []
  | (name, node) :: rest => (name, node.toValue) :: membersOf rest

end

/-- Puts a node in the place of a name, or at the end. -/
def putNode (name : String) (node : Node) : NodeEntries → NodeEntries
  | [] => [(name, node)]
  | (other, old) :: rest =>
      if other = name then (other, node) :: rest else (other, old) :: putNode name node rest

/-- Changes the entries of the table that some names lead to.  Tables on the way are made
where they are missing; those that have a header of their own are closed to keys with
points. -/
def descend (dotted : Bool) (change : NodeEntries → Option NodeEntries) :
    List String → NodeEntries → Option NodeEntries
  | [], entries => change entries
  | name :: rest, entries =>
      match entries.lookup name with
      | none =>
          (descend dotted change rest []).map fun inner =>
            putNode name (.table (if dotted then .dotted else .implied) inner) entries
      | some (.table kind inner) =>
          if dotted ∧ kind = .defined then none
          else
            (descend dotted change rest inner).map fun inner =>
              putNode name (.table kind inner) entries
      | some (.tables closed inner) =>
          (descend dotted change rest inner).map fun inner =>
            putNode name (.tables closed inner) entries
      | some (.value _) => none

/-- Adds a value under a key that is not taken. -/
def addValue (key : List String) (value : Value) (entries : NodeEntries) : Option NodeEntries :=
  match key.getLast? with
  | none => none
  | some last =>
      let add (entries : NodeEntries) : Option NodeEntries :=
        if (entries.lookup last).isSome then none else some (entries ++ [(last, .value value)])
      descend true add key.dropLast entries

/-- Opens the table of a header. -/
def openTable (key : List String) (entries : NodeEntries) : Option NodeEntries :=
  match key.getLast? with
  | none => none
  | some last =>
      let define (entries : NodeEntries) : Option NodeEntries :=
        match entries.lookup last with
        | none => some (entries ++ [(last, .table .defined [])])
        | some (.table .implied inner) => some (putNode last (.table .defined inner) entries)
        | _ => none
      descend false define key.dropLast entries

/-- Opens one more table of a list of tables. -/
def openListed (key : List String) (entries : NodeEntries) : Option NodeEntries :=
  match key.getLast? with
  | none => none
  | some last =>
      let add (entries : NodeEntries) : Option NodeEntries :=
        match entries.lookup last with
        | none => some (entries ++ [(last, .tables [] [])])
        | some (.tables closed inner) =>
            some (putNode last (.tables (closed ++ [.object (membersOf inner)]) []) entries)
        | _ => none
      descend false add key.dropLast entries

/-! ## Values -/

/-- How deep arrays and inline tables may be nested. -/
def maxDepth : Nat := 80

/-- Reads a key of an inline table and the sign after it. -/
def readInlineKey (text : List Char) : Option (List String × List Char) := do
  let (key, rest) ← readKey (text.length + 1) text
  match dropLines (rest.length + 1) rest with
  | '=' :: rest => return (key, rest)
  | _ => none

mutual

/-- Reads a value, in which arrays and inline tables may be nested to some depth. -/
def readValue : (fuel depth : Nat) → List Char → Option (Value × List Char)
  | 0, _, _ => none
  | fuel + 1, depth, text =>
      match text, depth with
      | '"' :: _, _ => (readString text).map fun (value, rest) => (.string value, rest)
      | '\x27' :: _, _ => (readString text).map fun (value, rest) => (.string value, rest)
      | '[' :: rest, depth + 1 => readArray fuel depth [] rest
      | '\x7b' :: rest, depth + 1 => readInline fuel depth [] rest
      | _, _ => readScalar text

/-- Reads the elements of an array after its bracket or a comma. -/
def readArray : (fuel depth : Nat) → (read : List Value) → List Char →
    Option (Value × List Char)
  | 0, _, _, _ => none
  | fuel + 1, depth, read, text =>
      match dropLines (text.length + 1) text with
      | ']' :: rest => some (.array read.reverse, rest)
      | start =>
          match readValue fuel depth start with
          | none => none
          | some (value, rest) =>
              match dropLines (rest.length + 1) rest with
              | ',' :: rest => readArray fuel depth (value :: read) rest
              | ']' :: rest => some (.array (value :: read).reverse, rest)
              | _ => none

/-- Reads the members of an inline table after its brace or a comma. -/
def readInline : (fuel depth : Nat) → NodeEntries → List Char → Option (Value × List Char)
  | 0, _, _, _ => none
  | fuel + 1, depth, entries, text =>
      match dropLines (text.length + 1) text with
      | '\x7d' :: rest => some (.object (membersOf entries), rest)
      | start =>
          match readInlineKey start with
          | none => none
          | some (key, rest) =>
              match readValue fuel depth (dropLines (rest.length + 1) rest) with
              | none => none
              | some (value, rest) =>
                  match addValue key value entries with
                  | none => none
                  | some entries =>
                      match dropLines (rest.length + 1) rest with
                      | ',' :: rest => readInline fuel depth entries rest
                      | '\x7d' :: rest => some (.object (membersOf entries), rest)
                      | _ => none

end

/-! ## Lines -/

/-- The document as far as it has been read, and the key of the table that is open. -/
structure Draft where
  entries : NodeEntries
  current : List String

/-- Reads the line of a header after its brackets. -/
def readHeader (isListed : Bool) (draft : Draft) (text : List Char) :
    Option (Draft × List Char) := do
  let (key, rest) ← readKey (text.length + 1) text
  let rest ← match isListed, rest with
    | false, ']' :: rest => some rest
    | true, ']' :: ']' :: rest => some rest
    | _, _ => none
  let entries ← if isListed then openListed key draft.entries else openTable key draft.entries
  let rest ← endLine? rest
  return (⟨entries, key⟩, rest)

/-- Reads the line of a key and its value. -/
def readEntry (draft : Draft) (text : List Char) : Option (Draft × List Char) := do
  let (key, rest) ← readKey (text.length + 1) text
  match rest with
  | '=' :: rest =>
      let (value, rest) ← readValue (text.length + 1) maxDepth (dropBlank rest)
      let entries ← descend false (addValue key value) draft.current draft.entries
      let rest ← endLine? rest
      return (⟨entries, draft.current⟩, rest)
  | _ => none

/-- Reads the lines of a document. -/
def readDocument : (fuel : Nat) → Draft → List Char → Option Value
  | 0, _, _ => none
  | fuel + 1, draft, text =>
      match dropLines (text.length + 1) text with
      | [] => some (.object (membersOf draft.entries))
      | start =>
          let line := match start with
            | '[' :: '[' :: rest => readHeader true draft rest
            | '[' :: rest => readHeader false draft rest
            | rest => readEntry draft rest
          match line with
          | none => none
          | some (draft, rest) => readDocument fuel draft rest

/-- The table that a document holds.  A mark of the byte order may stand in front. -/
def ofText? (text : String) : Option Value :=
  readDocument (text.length + 1) ⟨[], []⟩ <|
    match text.toList with
    | '\ufeff' :: rest => rest
    | chars => chars

end ResultBoards.Toml
