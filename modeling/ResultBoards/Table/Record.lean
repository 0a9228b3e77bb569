/-!
# Records

A record maps the columns of a table to the values of one row.  Columns keep the order
in which they first came, and a column that comes again only changes its value.
-/

namespace ResultBoards

/-- Sets the value of a column: at its place if there is one, at the end otherwise. -/
def setCell (column value : String) : List (String × String) → List (String × String)
  | [] => [(column, value)]
  | (other, old) :: rest =>
      if other = column then (other, value) :: rest
      else (other, old) :: setCell column value rest

theorem fst_mem_setCell {column value name : String} {cells : List (String × String)} :
    name ∈ (setCell column value cells).map Prod.fst ↔
      name = column ∨ name ∈ cells.map Prod.fst := by
  induction cells with
  | nil => simp [setCell]
  | cons cell rest ih =>
      obtain ⟨other, old⟩ := cell
      rw [setCell]
      split
      · rename_i same
        subst same
        simp
      · simp only [List.map_cons, List.mem_cons, ih]
        constructor
        · rintro (h | h | h) <;> simp [h]
        · rintro (h | h | h) <;> simp [h]

theorem nodup_setCell (column value : String) {cells : List (String × String)}
    (distinct : (cells.map Prod.fst).Nodup) :
    ((setCell column value cells).map Prod.fst).Nodup := by
  induction cells with
  | nil => simp [setCell]
  | cons cell rest ih =>
      obtain ⟨other, old⟩ := cell
      rw [List.map_cons, List.nodup_cons] at distinct
      rw [setCell]
      split
      · rw [List.map_cons, List.nodup_cons]
        exact distinct
      · rename_i different
        rw [List.map_cons, List.nodup_cons]
        refine ⟨fun member => ?_, ih distinct.2⟩
        rcases fst_mem_setCell.mp member with same | member
        · exact different same
        · exact distinct.1 member

/-- The values of one row by column, in column order. -/
structure Record where
  cells : List (String × String)
  distinct : (cells.map Prod.fst).Nodup

namespace Record

/-- The record without columns. -/
def empty : Record := ⟨[], List.nodup_nil⟩

/-- The record with the value of a column set. -/
def insert (record : Record) (column value : String) : Record :=
  ⟨setCell column value record.cells, nodup_setCell column value record.distinct⟩

/-- The record of a list of columns and values. -/
def ofCells (cells : List (String × String)) : Record :=
  cells.foldl (fun record cell => record.insert cell.1 cell.2) empty

/-- The values in column order. -/
def values (record : Record) : List String :=
  record.cells.map Prod.snd

instance : DecidableEq Record := fun first second =>
  decidable_of_iff (first.cells = second.cells) <| by
    cases first
    cases second
    simp

end Record

end ResultBoards
