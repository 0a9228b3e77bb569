import ResultBoards.Proofs.Table.Columns

/-!
# Tables of results

What a table is of which text, for every text that is read as a table: the first record gives
the headers, and each record behind it one row, which is there twice, by column and in order
(`Metadata.isTableOf_of_ofResult`).  Both are the record itself as long as its columns have
different names.

A table is meant to hold rows of any length, and the values past the last header get numbered
names for that.  Nothing keeps these names apart from the headers.  So a long row loses a cell
if a header is named like one of its numbered columns, and only then as long as the headers
differ (`Metadata.keepsCells_iff`).  It is the header whose cell is lost.  The numbered
columns come last, so theirs are all kept.
-/

namespace ResultBoards

open Csv

/-! ## The shape of a table -/

/-- A table holds some records: the first as its headers, and each of the others once by column
and once as a row. -/
structure ResultTable.IsTableOf (records : List (List String)) (table : ResultTable) : Prop where
  headers : table.headers = records.headD []
  length_data : table.data.length = records.tail.length
  length_rows : table.rows.length = records.tail.length
  entry : ∀ {i : Nat} {row : List String} {record : Record} {values : List String},
    records.tail[i]? = some row → table.data[i]? = some record → table.rows[i]? = some values →
      record.IsKeyed table.headers row ∧ values = record.cells.map Prod.snd ∧
        (values = row ↔ (columnNames table.headers row).Nodup)

theorem ResultTable.isTableOf_ofRows (records : List (List String)) :
    (ofRows records).IsTableOf records := by
  cases records with
  | nil => exact ⟨rfl, rfl, rfl, fun hrow => by simp at hrow⟩
  | cons headers rows =>
      have hdata : (ofRows (headers :: rows)).data = rows.map (Record.ofRow headers) := rfl
      have hrows : (ofRows (headers :: rows)).rows =
          (ofRows (headers :: rows)).data.map Record.values := rfl
      refine ⟨rfl, by rw [hdata, List.length_map]; rfl,
        by rw [hrows, hdata, List.length_map, List.length_map]; rfl, ?_⟩
      intro i row record values hrow hrecord hvalues
      obtain rfl : values = record.values := by
        rw [hrows, List.getElem?_map, hrecord] at hvalues
        exact (Option.some.inj hvalues).symm
      obtain rfl : record = Record.ofRow headers row := by
        rw [List.tail_cons] at hrow
        rw [hdata, List.getElem?_map, hrow] at hrecord
        exact (Option.some.inj hrecord).symm
      exact ⟨Record.isKeyed_ofRow headers row, rfl, Record.values_ofRow_eq_iff headers row⟩

theorem Metadata.eq_ofRows_of_ofResult {text : String} {table : ResultTable}
    (htable : Metadata.ofResult text = .table table) :
    table = .ofRows (readRecords text.toList) := by
  unfold ofResult ResultTable.ofText at htable
  cases hcheck : checkQuotes text.toList with
  | error problem => simp [hcheck, Except.map] at htable
  | ok _ =>
      rw [hcheck] at htable
      exact (Metadata.table.inj htable).symm

/-- **The shape of a table.**  Whatever text is read as a table, its headers are the first record
of the text, and each further record is there once by column and once as a row.  By column it
has each of its columns once, in the order in which they first come and with the values that
come last.  The row holds the same values, and it is the record itself exactly if no two columns
of the record have the same name. -/
theorem Metadata.isTableOf_of_ofResult {text : String} {table : ResultTable}
    (htable : Metadata.ofResult text = .table table) :
    table.IsTableOf (readRecords text.toList) := by
  rw [eq_ofRows_of_ofResult htable]
  exact ResultTable.isTableOf_ofRows _

/-- A header that comes twice, a row past the last header, and a short one. -/
theorem Metadata.isTableOf_of_repeated_header :
    ∃ table : ResultTable, Metadata.ofResult "a,a\n1,2,3\n4" = .table table ∧
      readRecords "a,a\n1,2,3\n4".toList = [["a", "a"], ["1", "2", "3"], ["4"]] ∧
        table.data.map Record.cells = [[("a", "2"), ("field3", "3")], [("a", "4")]] ∧
          table.IsTableOf (readRecords "a,a\n1,2,3\n4".toList) := by
  have htable : Metadata.ofResult "a,a\n1,2,3\n4" =
      .table (.ofRows [["a", "a"], ["1", "2", "3"], ["4"]]) := rfl
  exact ⟨_, htable, rfl, rfl, isTableOf_of_ofResult htable⟩

/-! ## Cells of long rows -/

/-- Every cell of a row is kept: in its place in the row of a table, and under its header as long
as there is one. -/
structure KeepsCells (headers row : List String) (record : Record) (values : List String) :
    Prop where
  values_eq : values = row
  header_mem : ∀ {position : Nat} {header value : String}, headers[position]? = some header →
    row[position]? = some value → (header, value) ∈ record.cells

variable {headers row values : List String} {record : Record}

/-- The value of a numbered column is kept under its name. -/
theorem Record.IsKeyed.numbered_mem (hkeyed : record.IsKeyed headers row) {position : Nat}
    {value : String} (hpast : headers.length ≤ position) (hvalue : row[position]? = some value) :
    (s!"field{position + 1}", value) ∈ record.cells := by
  refine (hkeyed.mem_cells_iff _ value).mpr
    ⟨position, hvalue, columnName_of_le hpast, fun later hbehind _ hname => ?_⟩
  rw [columnName_of_le (by omega)] at hname
  have hnumbers := numbered_injective hname
  omega

/-- The value under a header is kept, unless a numbered column of the row has the same name. -/
theorem Record.IsKeyed.header_mem (hkeyed : record.IsKeyed headers row) (hheaders : headers.Nodup)
    {position : Nat} {header value : String} (hheader : headers[position]? = some header)
    (hvalue : row[position]? = some value)
    (hnumbered : ∀ later, headers.length ≤ later → later < row.length →
      s!"field{later + 1}" ≠ header) : (header, value) ∈ record.cells := by
  refine (hkeyed.mem_cells_iff header value).mpr
    ⟨position, hvalue, columnName_of_getElem? hheader, fun later hbehind hwithin hname => ?_⟩
  by_cases hlater : later < headers.length
  · obtain ⟨hposition, hget⟩ := List.getElem?_eq_some_iff.mp hheader
    rw [columnName_of_getElem? (List.getElem?_eq_getElem hlater), ← hget] at hname
    have hsame := (List.Nodup.getElem_inj_iff hheaders).mp hname
    omega
  · rw [columnName_of_le (by omega)] at hname
    exact hnumbered later (by omega) hwithin hname

theorem Record.IsKeyed.keepsCells_iff_not_numbersAHeader (hkeyed : record.IsKeyed headers row)
    (hvalues : values = row ↔ (columnNames headers row).Nodup) (hheaders : headers.Nodup) :
    KeepsCells headers row record values ↔ ¬ NumbersAHeader headers row := by
  rw [← nodup_columnNames_iff hheaders, ← hvalues]
  constructor
  · intro hkeeps
    exact hkeeps.values_eq
  · intro hsame
    refine ⟨hsame, fun hheader hvalue => hkeyed.header_mem hheaders hheader hvalue ?_⟩
    rintro later hpast hwithin rfl
    exact (nodup_columnNames_iff hheaders).mp (hvalues.mp hsame)
      ⟨later, hpast, hwithin, List.mem_of_getElem? hheader⟩

/-- **When long rows lose a cell.**  In a table whose headers differ, every cell of a row is kept
exactly if no header is the numbered name of a column of the row past the last header.  The
values of these columns are kept in any case, and so are those under other headers.  What is lost
is the value under a header with such a name, which has the value of the numbered column
instead. -/
theorem Metadata.keepsCells_iff {text : String} {table : ResultTable}
    (htable : Metadata.ofResult text = .table table) (hheaders : table.headers.Nodup) {i : Nat}
    {row values : List String} {record : Record}
    (hrow : (readRecords text.toList).tail[i]? = some row) (hrecord : table.data[i]? = some record)
    (hvalues : table.rows[i]? = some values) :
    (KeepsCells table.headers row record values ↔ ¬ NumbersAHeader table.headers row) ∧
      (∀ {position : Nat} {value : String}, table.headers.length ≤ position →
        row[position]? = some value → (s!"field{position + 1}", value) ∈ record.cells) ∧
      ∀ {position : Nat} {header value : String}, table.headers[position]? = some header →
        row[position]? = some value →
          (∀ later, table.headers.length ≤ later → later < row.length →
            s!"field{later + 1}" ≠ header) → (header, value) ∈ record.cells := by
  have hshape : table.IsTableOf (readRecords text.toList) := by
    rw [eq_ofRows_of_ofResult htable]
    exact ResultTable.isTableOf_ofRows _
  obtain ⟨hkeyed, _, hsame⟩ := hshape.entry hrow hrecord hvalues
  exact ⟨hkeyed.keepsCells_iff_not_numbersAHeader hsame hheaders, hkeyed.numbered_mem,
    hkeyed.header_mem hheaders⟩

/-- A header that is a numbered name, but of a column that has a header. -/
theorem Metadata.keepsCells_of_numbered_header :
    let table := ResultTable.ofRows [["a", "field2"], ["1", "2", "3"]]
    let record := Record.ofRow ["a", "field2"] ["1", "2", "3"]
    Metadata.ofResult "a,field2\n1,2,3" = .table table ∧ table.headers.Nodup ∧
      table.data = [record] ∧ table.rows = [["1", "2", "3"]] ∧
        KeepsCells table.headers ["1", "2", "3"] record ["1", "2", "3"] := by
  intro table record
  have htable : Metadata.ofResult "a,field2\n1,2,3" = .table table := rfl
  have hheaders : table.headers.Nodup := by decide
  have hrow : (readRecords "a,field2\n1,2,3".toList).tail[0]? = some ["1", "2", "3"] := rfl
  have hkeeps := (keepsCells_iff htable hheaders hrow rfl rfl).1
  refine ⟨htable, hheaders, rfl, rfl, hkeeps.mpr ?_⟩
  rintro ⟨position, hpast, hwithin, hnumbered⟩
  obtain rfl : position = 2 := Nat.le_antisymm (Nat.le_of_lt_succ hwithin) hpast
  exact absurd hnumbered (by decide)

/-- **A long row may lose a cell.**  The value of the second column takes the place of the value
of the first, whose header is the name of the second. -/
theorem Metadata.not_keepsCells_of_numbered_header :
    ∃ (table : ResultTable) (record : Record),
      Metadata.ofResult "field2\n1,2" = .table table ∧ table.headers.Nodup ∧
        (readRecords "field2\n1,2".toList).tail = [["1", "2"]] ∧ table.data = [record] ∧
          record.cells = [("field2", "2")] ∧ table.rows = [["2"]] ∧
            ¬ KeepsCells table.headers ["1", "2"] record ["2"] :=
  ⟨.ofRows [["field2"], ["1", "2"]], .ofRow ["field2"] ["1", "2"], rfl, by decide, rfl, rfl, rfl,
    rfl, fun hkeeps => absurd hkeeps.values_eq (by decide)⟩

end ResultBoards
