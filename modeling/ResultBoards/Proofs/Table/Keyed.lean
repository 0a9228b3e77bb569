import Mathlib.Data.List.Induction
import Mathlib.Data.Set.Defs
import ResultBoards.Table.Record

/-!
# Rows by column

A record is filled cell by cell, so what it holds in the end has to be read off a loop.
`Record.cells_ofCells` says it outright: the columns in the order in which they first
came, each with the value that came last.
-/

namespace ResultBoards

/-- Each column once, in the place where it first came and with the value that came
last. -/
def lastByColumn (cells : List (String × String)) : List (String × String) :=
  (cells.map Prod.fst).eraseDups.map fun column =>
    (column, (cells.reverse.lookup column).getD "")

theorem setCell_columns (column new : String) (value : String → String) {columns : List String}
    (hnodup : columns.Nodup) :
    setCell column new (columns.map fun other => (other, value other)) =
      (if column ∈ columns then columns else columns ++ [column]).map fun other =>
        (other, if other = column then new else value other) := by
  induction columns with
  | nil => simp [setCell]
  | cons first rest ih =>
      obtain ⟨hfirst, hrest⟩ := List.nodup_cons.mp hnodup
      rw [List.map_cons, setCell]
      by_cases hsame : first = column
      · subst hsame
        rw [if_pos rfl, if_pos List.mem_cons_self, List.map_cons, if_pos rfl]
        -- the columns behind are others, so their values stay
        refine congrArg _ (List.map_congr_left fun other hother => ?_)
        rw [if_neg (ne_of_mem_of_not_mem hother hfirst)]
      · have hmem : column ∈ first :: rest ↔ column ∈ rest := by
          rw [List.mem_cons, or_iff_right fun heq => hsame heq.symm]
        rw [if_neg hsame, ih hrest]
        simp only [hmem]
        split <;> simp [hsame]

theorem map_fst_lastByColumn (cells : List (String × String)) :
    (lastByColumn cells).map Prod.fst = (cells.map Prod.fst).eraseDups := by
  simp [lastByColumn, Function.comp_def]

theorem eraseDups_concat (columns : List String) (column : String) :
    (columns ++ [column]).eraseDups =
      if column ∈ columns then columns.eraseDups else columns.eraseDups ++ [column] := by
  rw [List.eraseDups_append]
  split <;> rename_i hmem <;> simp [List.removeAll, hmem, List.eraseDups_cons]

/-- One more cell is set in what the cells before it give. -/
theorem lastByColumn_concat (cells : List (String × String)) (column value : String)
    (hnodup : (cells.map Prod.fst).eraseDups.Nodup) :
    lastByColumn (cells ++ [(column, value)]) = setCell column value (lastByColumn cells) := by
  rw [lastByColumn, lastByColumn, setCell_columns _ _ _ hnodup, List.map_append, List.map_singleton,
    eraseDups_concat]
  simp only [List.mem_eraseDups]
  refine List.map_congr_left fun other _ => ?_
  rw [List.reverse_append, List.reverse_singleton, List.singleton_append, List.lookup_cons]
  by_cases hother : other = column
  · simp [hother]
  · rw [beq_false_of_ne hother, if_neg hother]

/-- A record holds each column once, with its last value. -/
theorem Record.cells_ofCells (cells : List (String × String)) :
    (ofCells cells).cells = lastByColumn cells := by
  induction cells using List.reverseRecOn with
  | nil => rfl
  | append_singleton cells cell ih =>
      have hinsert : (ofCells (cells ++ [cell])).cells =
          setCell cell.1 cell.2 (ofCells cells).cells := by
        simp [ofCells, insert]
      -- the record before has distinct columns, and they are these
      have hnodup : (cells.map Prod.fst).eraseDups.Nodup := by
        rw [← map_fst_lastByColumn, ← ih]
        exact (ofCells cells).distinct
      rw [hinsert, ih, lastByColumn_concat cells cell.1 cell.2 hnodup]

end ResultBoards
