import ResultBoards.Proofs.Table.Keyed
import ResultBoards.Proofs.Widget.RoundTrip

/-!
# Metadata survives its encoding

Metadata is written without a word on whether it is a table or a raw text, so the decoder has
to tell from the shape of the value.  It can: a table is an object and a raw text a string,
whatever characters stand in it.

The parts of a table are lists of strings and lists of those, and each is read by trying all of
its elements (`List.mapM`).  Records are the one part that is built anew.  They are filled cell
by cell, and the columns of a record are distinct, so every cell finds its place at the end
(`Record.ofCells_cells`).
-/

namespace ResultBoards

open Json

/-! ## Records -/

theorem setCell_of_missing {column value : String} {cells : List (String × String)}
    (hmissing : column ∉ cells.map Prod.fst) :
    setCell column value cells = cells ++ [(column, value)] := by
  induction cells with
  | nil => rfl
  | cons cell cells ih =>
      obtain ⟨other, old⟩ := cell
      rw [List.map_cons, List.mem_cons, not_or] at hmissing
      rw [setCell, if_neg (Ne.symm hmissing.1), ih hmissing.2, List.cons_append]

/-- Cells with distinct columns are set one behind the other. -/
theorem Record.cells_ofCells_of_nodup {cells : List (String × String)}
    (hnodup : (cells.map Prod.fst).Nodup) : (Record.ofCells cells).cells = cells := by
  induction cells using List.reverseRecOn with
  | nil => rfl
  | append_singleton cells cell ih =>
      rw [List.map_append, List.map_singleton, List.nodup_append] at hnodup
      obtain ⟨hcells, _, hdisjoint⟩ := hnodup
      have hbefore := ih hcells
      have hmissing : cell.1 ∉ cells.map Prod.fst := fun hmem =>
        hdisjoint _ hmem _ (List.mem_singleton.mpr rfl) rfl
      have hinsert : (Record.ofCells (cells ++ [cell])).cells =
          setCell cell.1 cell.2 (Record.ofCells cells).cells := by
        simp [Record.ofCells, Record.insert]
      rw [hinsert, hbefore, setCell_of_missing hmissing]

/-- A record is made again from its cells. -/
theorem Record.ofCells_cells (record : Record) : Record.ofCells record.cells = record := by
  have hcells := Record.cells_ofCells_of_nodup record.distinct
  obtain ⟨cells, distinct⟩ := record
  cases hrecord : Record.ofCells cells with
  | mk others _ =>
      rw [hrecord] at hcells
      cases hcells
      rfl

/-! ## Values read back -/

/-- Where each element is read back from its value, so are all elements of a list. -/
theorem mapM_map_eq_some {α β : Type} (read : β → Option α) (write : α → β)
    (hread : ∀ element, read (write element) = some element) (elements : List α) :
    (elements.map write).mapM read = some elements := by
  induction elements with
  | nil => rfl
  | cons element elements ih =>
      rw [List.map_cons, List.mapM_cons, hread, ih]
      rfl

theorem stringsOfValue?_ofStrings (texts : List String) :
    stringsOfValue? (.ofStrings texts) = some texts :=
  mapM_map_eq_some stringOfValue? .string (fun _ => rfl) texts

theorem Record.ofValue?_toValue (record : Record) :
    Record.ofValue? record.toValue = some record := by
  have hcells := mapM_map_eq_some
    (fun member : String × Value =>
      (stringOfValue? member.2).map fun value => (member.1, value))
    (fun cell : String × String => (cell.1, .string cell.2)) (fun _ => rfl) record.cells
  rw [Record.toValue, Record.ofValue?, Record.ofMembers?, hcells, Option.map_some,
    Record.ofCells_cells]

theorem ResultTable.ofValue?_toValue (table : ResultTable) :
    ResultTable.ofValue? table.toValue = some table := by
  obtain ⟨headers, rows, data⟩ := table
  have hrows := mapM_map_eq_some stringsOfValue? .ofStrings stringsOfValue?_ofStrings rows
  have hdata := mapM_map_eq_some Record.ofValue? Record.toValue Record.ofValue?_toValue data
  -- each of the three parts occurs once, under its own name
  have hparts : ResultTable.ofValue? (ResultTable.toValue ⟨headers, rows, data⟩) =
      ResultTable.ofParts? (.ofStrings headers) (.array (rows.map .ofStrings))
        (.array (data.map Record.toValue)) := rfl
  rw [hparts, ResultTable.ofParts?, stringsOfValue?_ofStrings]
  simp only [hrows, hdata]
  rfl

theorem Metadata.ofValue?_toValue (metadata : Metadata) :
    Metadata.ofValue? metadata.toValue = some metadata := by
  cases metadata with
  | raw text => rfl
  | table result =>
      -- a table is an object, so it is never taken for a raw text
      have hobject : Metadata.ofValue? (Metadata.table result).toValue =
          (ResultTable.ofValue? result.toValue).map .table := rfl
      rw [hobject, ResultTable.ofValue?_toValue]
      rfl

/-! ## Reading -/

theorem readsAs_metadata (metadata : Metadata) (steps depth : Nat) :
    ReadsAs steps (Metadata.decoder ⟨steps, depth + 3⟩) metadata.toValue metadata := by
  have hfits : Fits (depth + 3) metadata.toValue := fits_metadata metadata
  have hvalue := readsAs_readValue hfits steps
  refine ⟨hvalue.starts, fun {gap rest} hgap hrest hbound => ?_⟩
  simp only [Metadata.decoder, hvalue.reads hgap hrest hbound, Metadata.ofValue?_toValue]

/-- **Metadata survives its encoding.**  Decoding the text of any metadata succeeds and gives
the same raw text, or a table with the same headers, rows and records, the columns of each
record in their order. -/
theorem Metadata.decode_toValue_toText (metadata : Metadata) :
    Metadata.decoder.decode metadata.toValue.toText = .ok metadata :=
  decode_toText fun steps => readsAs_metadata metadata steps 124

/-- A raw text that is the text of a table stays a raw text. -/
example :
    let text := (ResultTable.ofRecords ["a"] [.ofCells [("a", "1")]]).toValue.toText
    Metadata.decoder.decode (Metadata.raw text).toValue.toText = .ok (.raw text) := rfl

end ResultBoards
