import ResultBoards.Json.Decoder
import ResultBoards.Table.Record

/-!
# Result tables

A table holds the result of an action: its headers, its records, and the values of each
record once more as a plain row.  It is read from a JSON value only where all three
parts are there and hold strings.
-/

namespace ResultBoards

open Json (Value)

/-- A result as headers, rows and records. -/
structure ResultTable where
  headers : List String
  rows : List (List String)
  data : List Record
deriving DecidableEq

namespace ResultTable

/-- The table of some records, whose rows are the values of the records. -/
def ofRecords (headers : List String) (data : List Record) : ResultTable :=
  ⟨headers, data.map Record.values, data⟩

end ResultTable

/-- A record as an object. -/
def Record.toValue (record : Record) : Value :=
  .object (record.cells.map fun (column, value) => (column, .string value))

/-- A table as an object. -/
def ResultTable.toValue (table : ResultTable) : Value :=
  .object [
    ("headers", .ofStrings table.headers),
    ("rows", .array (table.rows.map .ofStrings)),
    ("data", .array (table.data.map Record.toValue))]

/-! ## Reading -/

/-- A string. -/
def stringOfValue? : Value → Option String
  | .string value => some value
  | _ => none

/-- A list of strings. -/
def stringsOfValue? : Value → Option (List String)
  | .array elements => elements.mapM stringOfValue?
  | _ => none

/-- The object of strings with these members. -/
def Record.ofMembers? (members : List (String × Value)) : Option Record :=
  (members.mapM fun member =>
    (stringOfValue? member.2).map fun value => (member.1, value)).map Record.ofCells

/-- A record. -/
def Record.ofValue? : Value → Option Record
  | .object members => Record.ofMembers? members
  | _ => none

/-- The value of a name that occurs exactly once among members. -/
def soleMember? (name : String) (members : List (String × Value)) : Option Value :=
  match members.filter fun member => member.1 = name with
  | [(_, value)] => some value
  | _ => none

namespace ResultTable

/-- A table from the values of its three parts. -/
def ofParts? (headers rows data : Value) : Option ResultTable := do
  let headers ← stringsOfValue? headers
  let rows ← match rows with
    | .array rows => rows.mapM stringsOfValue?
    | _ => none
  let data ← match data with
    | .array data => data.mapM Record.ofValue?
    | _ => none
  return ⟨headers, rows, data⟩

/-- A table: an object with its three parts, and possibly other members, or an array of
the three parts. -/
def ofValue? : Value → Option ResultTable
  | .object members => do
      ofParts? (← soleMember? "headers" members) (← soleMember? "rows" members)
        (← soleMember? "data" members)
  | .array [headers, rows, data] => ofParts? headers rows data
  | _ => none

end ResultTable

end ResultBoards
