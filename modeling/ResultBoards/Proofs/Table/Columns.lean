import Mathlib.Data.List.Nodup
import Mathlib.Data.List.Perm.Subperm
import ResultBoards.Csv.Result
import ResultBoards.Proofs.Csv.Result
import ResultBoards.Proofs.Table.RoundTrip

/-!
# Columns of rows

A row of cells becomes a record by the names of its columns: the headers as long as there are
any, and numbered names behind them.  Nothing keeps two columns of a row apart.  A header may
come twice, and a numbered name may be a header as well.  `Record.isKeyed_ofRow` says what the
record is in any case, and `Record.values_ofRow_eq_iff` that the row is read off the record
again exactly if its columns have different names.

The numbered names differ among each other, so where the headers differ too, the only columns
that share a name are a header and a column past the last header
(`nodup_columnNames_iff`).
-/

namespace ResultBoards

/-! ## Cells in the order in which they are set -/

theorem nodup_columns (cells : List (String × String)) : (cells.map Prod.fst).eraseDups.Nodup := by
  rw [← map_fst_lastByColumn, ← Record.cells_ofCells]
  exact (Record.ofCells cells).distinct

/-- Columns that lose nothing when each is kept once are different. -/
theorem nodup_of_length_eraseDups {cells : List (String × String)}
    (hlength : (cells.map Prod.fst).eraseDups.length = cells.length) :
    (cells.map Prod.fst).Nodup := by
  have hnodup := nodup_columns cells
  have hsubset : (cells.map Prod.fst).eraseDups ⊆ cells.map Prod.fst :=
    fun column hcolumn => List.mem_eraseDups.mp hcolumn
  have hall : (cells.map Prod.fst).length = cells.length := List.length_map _
  have hperm : (cells.map Prod.fst).eraseDups.Perm (cells.map Prod.fst) :=
    (List.subperm_of_subset hnodup hsubset).perm_of_length_le (by omega)
  exact hperm.nodup_iff.mp hnodup

theorem length_lastByColumn (cells : List (String × String)) :
    (lastByColumn cells).length = (cells.map Prod.fst).eraseDups.length :=
  List.length_map _

/-- The values of all cells are kept in their order exactly if no column comes again. -/
theorem map_snd_lastByColumn_eq_iff {cells : List (String × String)} :
    (lastByColumn cells).map Prod.snd = cells.map Prod.snd ↔ (cells.map Prod.fst).Nodup := by
  constructor
  · intro hvalues
    have hlength := congrArg List.length hvalues
    rw [List.length_map, List.length_map, length_lastByColumn] at hlength
    exact nodup_of_length_eraseDups hlength
  · intro hnodup
    rw [← Record.cells_ofCells, Record.cells_ofCells_of_nodup hnodup]

theorem mem_lastByColumn_iff_lookup {cells : List (String × String)} {column value : String} :
    (column, value) ∈ lastByColumn cells ↔ cells.reverse.lookup column = some value := by
  rw [lastByColumn, List.mem_map]
  constructor
  · rintro ⟨other, hother, heq⟩
    obtain ⟨rfl, hvalue⟩ := Prod.mk.inj heq
    cases hlookup : cells.reverse.lookup other with
    | some last =>
        rw [hlookup, Option.getD_some] at hvalue
        rw [hvalue]
    | none =>
        -- a column that some cell sets is found
        obtain ⟨cell, hcell, hcolumn⟩ := List.mem_map.mp (List.mem_eraseDups.mp hother)
        have hdifferent := List.lookup_eq_none_iff.mp hlookup cell (List.mem_reverse.mpr hcell)
        exact absurd hcolumn.symm (by simpa using hdifferent)
  · intro hlookup
    obtain ⟨behind, front, hcells, _⟩ := List.lookup_eq_some_iff.mp hlookup
    have hcell : (column, value) ∈ cells := by
      rw [← List.mem_reverse, hcells]
      simp
    refine ⟨column, List.mem_eraseDups.mpr (List.mem_map.mpr ⟨_, hcell, rfl⟩), ?_⟩
    rw [hlookup, Option.getD_some]

/-- The value of a column is that of the last cell that sets it. -/
theorem mem_lastByColumn_iff {cells : List (String × String)} {column value : String} :
    (column, value) ∈ lastByColumn cells ↔
      ∃ position : Nat, cells[position]? = some (column, value) ∧
        ∀ (later : Nat) (cell : String × String), position < later →
          cells[later]? = some cell → cell.1 ≠ column := by
  rw [mem_lastByColumn_iff_lookup, List.lookup_eq_some_iff]
  constructor
  · rintro ⟨behind, front, hreverse, hbehind⟩
    have hcells : cells = front.reverse ++ (column, value) :: behind.reverse := by
      rw [← List.reverse_reverse cells, hreverse]
      simp
    refine ⟨front.length, ?_, fun later cell hlater hcell => ?_⟩
    · rw [hcells, ← List.length_reverse, List.getElem?_append_right (Nat.le_refl _), Nat.sub_self]
      rfl
    · obtain ⟨further, rfl⟩ : ∃ further, later = front.reverse.length + (further + 1) :=
        ⟨later - front.length - 1, by rw [List.length_reverse]; omega⟩
      rw [hcells, List.getElem?_append_right (Nat.le_add_right _ _), Nat.add_sub_cancel_left,
        List.getElem?_cons_succ] at hcell
      have hmem := hbehind cell (List.mem_reverse.mp (List.mem_of_getElem? hcell))
      exact (by simpa using hmem : column ≠ cell.1).symm
  · rintro ⟨position, hcell, hlater⟩
    obtain ⟨hposition, hget⟩ := List.getElem?_eq_some_iff.mp hcell
    refine ⟨(cells.drop (position + 1)).reverse, (cells.take position).reverse, ?_, ?_⟩
    · have hcells :
          cells = cells.take position ++ (column, value) :: cells.drop (position + 1) := by
        rw [← hget, List.getElem_cons_drop, List.take_append_drop]
      conv_lhs => rw [hcells]
      simp
    · intro cell hmem
      obtain ⟨further, hfurther⟩ := List.mem_iff_getElem?.mp (List.mem_reverse.mp hmem)
      rw [List.getElem?_drop] at hfurther
      have hne := hlater _ cell (by omega) hfurther
      simpa using hne.symm

/-! ## The columns of a row -/

theorem columnName_of_getElem? {headers : List String} {position : Nat} {header : String}
    (hheader : headers[position]? = some header) : columnName headers position = header := by
  rw [columnName, List.getD_eq_getElem?_getD, hheader, Option.getD_some]

theorem columnName_of_le {headers : List String} {position : Nat}
    (hpast : headers.length ≤ position) :
    columnName headers position = s!"field{position + 1}" := by
  rw [columnName, List.getD_eq_getElem?_getD, List.getElem?_eq_none hpast, Option.getD_none]

/-- Numbered names are told apart by their numbers. -/
theorem numbered_injective {first second : Nat} (hsame : s!"field{first}" = s!"field{second}") :
    first = second := by
  have hchars := congrArg String.toList hsame
  simp only [String.toList_append] at hchars
  have hdigits := List.append_cancel_left hchars
  have hnumbers := congrArg (fun digits => Nat.ofDigitChars 10 digits 0) hdigits
  simpa [Nat.toString_eq_ofList_toDigits] using hnumbers

/-- The names of the columns of a row. -/
def columnNames (headers row : List String) : List String :=
  (List.range row.length).map (columnName headers)

/-- The cells of a row with the names of their columns. -/
def namedCells (headers row : List String) : List (String × String) :=
  row.zipIdx.map fun (value, position) => (columnName headers position, value)

theorem Record.cells_ofRow_eq (headers row : List String) :
    (ofRow headers row).cells = lastByColumn (namedCells headers row) :=
  cells_ofRow headers row

theorem getElem?_namedCells (headers row : List String) (position : Nat) :
    (namedCells headers row)[position]? =
      row[position]?.map fun value => (columnName headers position, value) := by
  rw [namedCells, List.getElem?_map, List.getElem?_zipIdx, Nat.zero_add, Option.map_map]
  rfl

theorem map_fst_namedCells (headers row : List String) :
    (namedCells headers row).map Prod.fst = columnNames headers row := by
  refine List.ext_getElem? fun position => ?_
  rw [List.getElem?_map, getElem?_namedCells, columnNames, List.getElem?_map]
  by_cases hposition : position < row.length
  · rw [List.getElem?_eq_getElem hposition, List.getElem?_range hposition]
    rfl
  · rw [List.getElem?_eq_none (by omega), List.getElem?_eq_none (by rw [List.length_range]; omega)]
    rfl

theorem map_snd_namedCells (headers row : List String) :
    (namedCells headers row).map Prod.snd = row := by
  refine List.ext_getElem? fun position => ?_
  rw [List.getElem?_map, getElem?_namedCells, Option.map_map]
  exact Option.map_id_apply

/-- The record of a row: every column of the row once, in the order in which they first come,
each with the value that comes last. -/
structure Record.IsKeyed (headers row : List String) (record : Record) : Prop where
  columns : record.cells.map Prod.fst = (columnNames headers row).eraseDups
  mem_cells_iff : ∀ column value, (column, value) ∈ record.cells ↔
    ∃ position : Nat, row[position]? = some value ∧ columnName headers position = column ∧
      ∀ later, position < later → later < row.length → columnName headers later ≠ column

theorem Record.isKeyed_ofRow (headers row : List String) :
    (ofRow headers row).IsKeyed headers row := by
  refine ⟨?_, fun column value => ?_⟩
  · rw [cells_ofRow_eq, map_fst_lastByColumn, map_fst_namedCells]
  · rw [cells_ofRow_eq, mem_lastByColumn_iff]
    simp only [getElem?_namedCells]
    constructor
    · rintro ⟨position, hcell, hlater⟩
      obtain ⟨found, hfound, heq⟩ := Option.map_eq_some_iff.mp hcell
      obtain ⟨hcolumn, rfl⟩ := Prod.mk.inj heq
      refine ⟨position, hfound, hcolumn, fun later hbehind hwithin => ?_⟩
      exact hlater later _ hbehind (by rw [List.getElem?_eq_getElem hwithin]; rfl)
    · rintro ⟨position, hvalue, hcolumn, hlater⟩
      refine ⟨position, by rw [hvalue, Option.map_some, hcolumn],
        fun later cell hbehind hcell => ?_⟩
      obtain ⟨found, hfound, rfl⟩ := Option.map_eq_some_iff.mp hcell
      exact hlater later hbehind (List.getElem?_eq_some_iff.mp hfound).1

/-- The row is what its record holds exactly if no two columns of the row have one name. -/
theorem Record.values_ofRow_eq_iff (headers row : List String) :
    (ofRow headers row).values = row ↔ (columnNames headers row).Nodup := by
  calc (ofRow headers row).values = row
      ↔ (lastByColumn (namedCells headers row)).map Prod.snd =
          (namedCells headers row).map Prod.snd := by
        rw [values, cells_ofRow_eq, map_snd_namedCells]
    _ ↔ ((namedCells headers row).map Prod.fst).Nodup := map_snd_lastByColumn_eq_iff
    _ ↔ (columnNames headers row).Nodup := by rw [map_fst_namedCells]

/-! ## Headers that differ -/

/-- A header is also the numbered name of a column of the row past the last header. -/
def NumbersAHeader (headers row : List String) : Prop :=
  ∃ position, headers.length ≤ position ∧ position < row.length ∧
    s!"field{position + 1}" ∈ headers

theorem exists_columnName_of_mem {headers : List String} {header : String}
    (hheader : header ∈ headers) :
    ∃ position, position < headers.length ∧ columnName headers position = header := by
  obtain ⟨position, hposition⟩ := List.mem_iff_getElem?.mp hheader
  exact ⟨position, (List.getElem?_eq_some_iff.mp hposition).1, columnName_of_getElem? hposition⟩

theorem columnName_mem {headers : List String} {position : Nat}
    (hposition : position < headers.length) : columnName headers position ∈ headers := by
  have hheader : headers[position]? = some headers[position] := List.getElem?_eq_getElem hposition
  rw [columnName_of_getElem? hheader]
  exact List.getElem_mem hposition

/-- Where the headers differ, two columns of a row share a name only if one is a header and the
other is past the last header. -/
theorem nodup_columnNames_iff {headers row : List String} (hheaders : headers.Nodup) :
    (columnNames headers row).Nodup ↔ ¬ NumbersAHeader headers row := by
  rw [columnNames, List.nodup_map_iff_inj_on List.nodup_range]
  simp only [List.mem_range]
  constructor
  · rintro hdistinct ⟨position, hpast, hwithin, hnumbered⟩
    obtain ⟨other, hother, hname⟩ := exists_columnName_of_mem hnumbered
    rw [← columnName_of_le hpast] at hname
    have hsame := hdistinct other (by omega) position hwithin hname
    omega
  · intro hunnumbered
    have hcross : ∀ first second, first < headers.length → headers.length ≤ second →
        second < row.length → columnName headers first ≠ columnName headers second := by
      intro first second hfirst hpast hwithin hsame
      rw [columnName_of_le hpast] at hsame
      exact hunnumbered ⟨second, hpast, hwithin, hsame ▸ columnName_mem hfirst⟩
    intro first hfirst second hsecond hsame
    by_cases hfirstHeader : first < headers.length
    · by_cases hsecondHeader : second < headers.length
      · rw [columnName_of_getElem? (List.getElem?_eq_getElem hfirstHeader),
          columnName_of_getElem? (List.getElem?_eq_getElem hsecondHeader)] at hsame
        exact (List.Nodup.getElem_inj_iff hheaders).mp hsame
      · exact absurd hsame (hcross first second hfirstHeader (by omega) hsecond)
    · by_cases hsecondHeader : second < headers.length
      · exact absurd hsame.symm (hcross second first hsecondHeader (by omega) hfirst)
      · rw [columnName_of_le (by omega), columnName_of_le (by omega)] at hsame
        have hnumbers := numbered_injective hsame
        omega

end ResultBoards
