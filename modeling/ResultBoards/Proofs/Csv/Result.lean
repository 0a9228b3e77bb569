import ResultBoards.Csv.Result
import ResultBoards.Proofs.Csv.Written
import ResultBoards.Proofs.Table.Keyed

/-!
# Tables of written results

A result that was written as CSV comes back as a table, whatever the writer chose to
enclose in quotes and however it ended its lines: the first record as the headers, the
others by column.
-/

namespace ResultBoards

open Csv

/-- The values of a row by column.  Columns past the last header are numbered from one. -/
def keyedRow (headers row : List String) : List (String × String) :=
  lastByColumn <| row.zipIdx.map fun (value, position) =>
    (headers.getD position s!"field{position + 1}", value)

theorem Record.cells_ofRow (headers row : List String) :
    (ofRow headers row).cells = keyedRow headers row :=
  cells_ofCells _

theorem Record.values_ofRow (headers row : List String) :
    (ofRow headers row).values = (keyedRow headers row).map Prod.snd :=
  congrArg _ (cells_ofRow headers row)

theorem readRecords_of_head_ne {text : List Char} (hmark : text.head? ≠ some '\ufeff') :
    readRecords text = readFrom .recordStart [] [] text := by
  cases text with
  | nil => rfl
  | cons c rest => rw [readRecords, dropByteOrderMark, if_neg fun heq => hmark (congrArg some heq)]

theorem ResultTable.ofText_written {text : String} {records : List (List String)}
    (hwritten : Written records text.toList) (hmark : text.toList.head? ≠ some '\ufeff') :
    ofText text = .ok (ofRows records) := by
  rw [ofText, checkQuotes, accepts_written hwritten, readRecords_of_head_ne hmark,
    readFrom_written hwritten]
  rfl

/-- **Reading a result undoes writing it.**  A text that was written as CSV is a table.
Its headers are the first record, its records are the others by column, and its rows are
their values. -/
theorem Metadata.ofResult_written {text : String} {headers : List String}
    {rows : List (List String)} (hwritten : Written (headers :: rows) text.toList)
    (hmark : text.toList.head? ≠ some '\ufeff') :
    ∃ table : ResultTable, Metadata.ofResult text = .table table ∧ table.headers = headers ∧
      table.data.map Record.cells = rows.map (keyedRow headers) ∧
        table.rows = rows.map fun row => (keyedRow headers row).map Prod.snd := by
  refine ⟨.ofRows (headers :: rows), ?_, rfl, ?_, ?_⟩
  · rw [ofResult, ResultTable.ofText_written hwritten hmark]
  · rw [ResultTable.ofRows, ResultTable.ofRecords, List.map_map]
    exact List.map_congr_left fun row _ => Record.cells_ofRow headers row
  · rw [ResultTable.ofRows, ResultTable.ofRecords, List.map_map]
    exact List.map_congr_left fun row _ => Record.values_ofRow headers row

/-- A header that comes twice, a row past the last header, and a line end in a field. -/
theorem Metadata.ofResult_written_mixed :
    ∃ table : ResultTable,
      Metadata.ofResult "a,\"b,c\",a\r\n1,\"say \"\"hi\"\"\n\",2,3\n\"\"" = .table table ∧
        table.headers = ["a", "b,c", "a"] ∧
          table.data.map Record.cells =
            [[("a", "2"), ("b,c", "say \"hi\"\n"), ("field4", "3")], [("a", "")]] ∧
            table.rows = [["2", "say \"hi\"\n", "3"], [""]] := by
  have hbare : ∀ name ∈ ["a", "1", "2", "3"], ∀ c ∈ name.toList, IsBare c := by simp [IsBare]
  have hheaders : WrittenRecord ["a", "b,c", "a"] _ :=
    ⟨.cons (.bare (hbare "a" (by simp))) (.cons (.quoted "b,c")
      (.last (.bare (hbare "a" (by simp))))), by simp⟩
  have hfirst : WrittenRecord ["1", "say \"hi\"\n", "2", "3"] _ :=
    ⟨.cons (.bare (hbare "1" (by simp))) (.cons (.quoted _) (.cons (.bare (hbare "2" (by simp)))
      (.last (.bare (hbare "3" (by simp)))))), by simp⟩
  have hblank : WrittenRecord [""] _ := ⟨.last (.quoted ""), fun _ => rfl⟩
  have hwritten : Written [["a", "b,c", "a"], ["1", "say \"hi\"\n", "2", "3"], [""]]
      "a,\"b,c\",a\r\n1,\"say \"\"hi\"\"\n\",2,3\n\"\"".toList :=
    Written.cons hheaders .carriageReturn (.cons hfirst .lineFeed (.unended hblank))
  exact ofResult_written hwritten (by decide)

end ResultBoards
