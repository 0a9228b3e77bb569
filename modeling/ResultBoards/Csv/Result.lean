import ResultBoards.Csv.Quotes
import ResultBoards.Csv.Reader
import ResultBoards.Event
import ResultBoards.Metadata

/-!
# Results of actions

The text that an action leaves behind is read as CSV with a header row.  Rows may be
shorter or longer than the headers.  Where the quotes are not those of CSV the text is
kept as it is.
-/

namespace ResultBoards

open Csv

/-- The column at a position: its header, or a numbered name past the last one. -/
def columnName (headers : List String) (position : Nat) : String :=
  headers.getD position s!"field{position + 1}"

/-- The values of a row, keyed by their columns. -/
def Record.ofRow (headers row : List String) : Record :=
  .ofCells <| row.zipIdx.map fun (value, position) => (columnName headers position, value)

/-- The table of some rows, the first of which holds the headers. -/
def ResultTable.ofRows : List (List String) → ResultTable
  | [] => .ofRecords [] []
  | headers :: rows => .ofRecords headers (rows.map (Record.ofRow headers))

/-- The table that a result holds. -/
def ResultTable.ofText (text : String) : Except QuoteProblem ResultTable :=
  (checkQuotes text.toList).map fun _ => .ofRows (readRecords text.toList)

/-- A result as metadata. -/
def Metadata.ofResult (text : String) : Metadata :=
  match ResultTable.ofText text with
  | .ok result => .table result
  | .error _ => .raw text

/-- What is reported when a result is read. -/
def resultEvents (text : String) : List Event :=
  match ResultTable.ofText text with
  | .ok _ => []
  | .error problem =>
      [⟨.warn, s!"Action result is not valid CSV, keeping raw text: {problem.message}"⟩]

end ResultBoards
