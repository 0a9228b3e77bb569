import ResultBoards.Proofs.Csv.Result

/-!
# Texts without quotes

Where a text holds no quote there is nothing to it but its separators.  Its records are its
lines that hold something, cut at every comma, and a line is what stands between two ends of
lines, be they carriage returns or line feeds and however many there are.

The reader goes from character to character and remembers the fields of the line it is in, so
it never sees a line as a whole.  `heldFields` says what it will have made of the line once the
rest of it has come, and `readFrom_eq_lines` follows the reader from the start of a record and
from the middle of a field in one induction, since each of the two leads to the other.
-/

namespace ResultBoards

namespace Csv

/-! ## Cutting a text -/

/-- The fields of a line. -/
def lineFields (line : List Char) : List String :=
  (line.splitOn ',').map String.ofList

/-- The lines that hold something. -/
def filledLines (lines : List (List Char)) : List (List Char) :=
  lines.filter (· ≠ [])

/-- The records of a text, which is cut at each end of a line, and the lines at each comma. -/
def cutRecords (text : List Char) : List (List String) :=
  (filledLines ((dropByteOrderMark text).splitOnP isLineEnd)).map lineFields

theorem filledLines_nil_cons (lines : List (List Char)) :
    filledLines ([] :: lines) = filledLines lines := rfl

theorem filledLines_cons (c : Char) (line : List Char) (lines : List (List Char)) :
    filledLines ((c :: line) :: lines) = (c :: line) :: filledLines lines := rfl

theorem splitOnP_cons_end {c : Char} (hend : isLineEnd c = true) (text : List Char) :
    (c :: text).splitOnP isLineEnd = [] :: text.splitOnP isLineEnd := by
  rw [List.splitOnP_cons_eq_if_modifyHead, if_pos hend]

theorem splitOnP_cons_other {c : Char} (hend : isLineEnd c = false) {text line : List Char}
    {lines : List (List Char)} (hlines : text.splitOnP isLineEnd = line :: lines) :
    (c :: text).splitOnP isLineEnd = (c :: line) :: lines := by
  rw [List.splitOnP_cons_eq_if_modifyHead, hend, if_neg Bool.false_ne_true, hlines,
    List.modifyHead_cons]

/-! ## The line at hand -/

/-- The fields of a line of which the reader has the fields before and a part of the next one,
both in reverse, once the rest of the line has come. -/
def heldFields (field : List Char) (fields : List String) (line : List Char) : List String :=
  fields.reverse ++ ((line.splitOn ',').modifyHead (field.reverse ++ ·)).map String.ofList

theorem heldFields_nil (field : List Char) (fields : List String) :
    heldFields field fields [] = endRecord field fields := by
  rw [heldFields, List.splitOn_nil, endRecord, List.modifyHead_cons, List.append_nil,
    List.reverse_cons]
  rfl

/-- At the start of a field nothing is put in front of it. -/
theorem heldFields_fieldStart (fields : List String) (line : List Char) :
    heldFields [] fields line = fields.reverse ++ lineFields line := by
  have hsame : (line.splitOn ',').modifyHead (([] : List Char).reverse ++ ·) =
      line.splitOn ',' := by
    cases line.splitOn ',' <;> rfl
  rw [heldFields, hsame, lineFields]

theorem heldFields_comma (field : List Char) (fields : List String) (line : List Char) :
    heldFields field fields (',' :: line) =
      heldFields [] (String.ofList field.reverse :: fields) line := by
  have hcut : (',' :: line).splitOn ',' = [] :: line.splitOn ',' := by
    rw [List.splitOn, List.splitOnP_cons_eq_if_modifyHead, if_pos (by decide)]
    rfl
  rw [heldFields_fieldStart, heldFields, hcut, List.modifyHead_cons, List.append_nil,
    List.reverse_cons, List.append_assoc]
  rfl

theorem heldFields_other {c : Char} (hcomma : c ≠ ',') (field : List Char) (fields : List String)
    (line : List Char) :
    heldFields field fields (c :: line) = heldFields (c :: field) fields line := by
  have hcut : (c :: line).splitOn ',' = (line.splitOn ',').modifyHead (c :: ·) := by
    rw [List.splitOn, List.splitOnP_cons_eq_if_modifyHead, if_neg (by simpa using hcomma)]
    rfl
  have hsame : ((line.splitOn ',').modifyHead (c :: ·)).modifyHead (field.reverse ++ ·) =
      (line.splitOn ',').modifyHead ((c :: field).reverse ++ ·) := by
    rw [List.modifyHead_modifyHead, List.reverse_cons]
    congr 1
    funext rest
    simp
  rw [heldFields, heldFields, hcut, hsame]

/-! ## The reader -/

variable {text : List Char}

/-- A field that has just been started is a bare one, as no quote opens it. -/
theorem readFrom_fieldStart_unquoted (hunquoted : '"' ∉ text) (fields : List String) :
    readFrom .fieldStart [] fields text = readFrom .bare [] fields text := by
  cases text with
  | nil => rfl
  | cons c rest =>
      have hquote : c ≠ '"' := (List.ne_of_not_mem_cons hunquoted).symm
      simp [readFrom, hquote]

/-- A record that starts with something other than an end of a line starts like a field. -/
theorem readFrom_recordStart_unquoted {c : Char} (hquote : c ≠ '"') (hend : isLineEnd c = false)
    (rest : List Char) :
    readFrom .recordStart [] [] (c :: rest) = readFrom .bare [] [] (c :: rest) := by
  simp [readFrom, hquote, hend]

/-- **The reader cuts a text.**  Without quotes the reader gives the lines that hold something,
cut at every comma, and in the middle of a line first what this line will be. -/
theorem readFrom_eq_lines (hunquoted : '"' ∉ text) {line : List Char} {lines : List (List Char)}
    (hlines : text.splitOnP isLineEnd = line :: lines) :
    readFrom .recordStart [] [] text = (filledLines (line :: lines)).map lineFields ∧
      ∀ field fields, readFrom .bare field fields text =
        heldFields field fields line :: (filledLines lines).map lineFields := by
  induction text generalizing line lines with
  | nil =>
      rw [List.splitOnP_nil] at hlines
      obtain ⟨rfl, rfl⟩ := List.cons.inj hlines
      refine ⟨rfl, fun field fields => ?_⟩
      rw [heldFields_nil]
      rfl
  | cons c rest ih =>
      rw [List.mem_cons, not_or] at hunquoted
      obtain ⟨hquote, hunquotedRest⟩ := hunquoted
      obtain ⟨next, later, hnext⟩ :=
        List.exists_cons_of_ne_nil (List.splitOnP_ne_nil isLineEnd rest)
      obtain ⟨hrecord, hbare⟩ := ih hunquotedRest hnext
      by_cases hend : isLineEnd c = true
      · rw [splitOnP_cons_end hend, hnext] at hlines
        obtain ⟨rfl, rfl⟩ := List.cons.inj hlines
        constructor
        · rw [readFrom, if_pos hend, hrecord, filledLines_nil_cons]
        · intro field fields
          rw [readFrom, if_pos hend, hrecord, heldFields_nil]
      · have hother : isLineEnd c = false := by simpa using hend
        rw [splitOnP_cons_other hother hnext] at hlines
        obtain ⟨rfl, rfl⟩ := List.cons.inj hlines
        have hheld : ∀ field fields, readFrom .bare field fields (c :: rest) =
            heldFields field fields (c :: next) :: (filledLines later).map lineFields := by
          intro field fields
          by_cases hcomma : c = ','
          · subst hcomma
            rw [readFrom, if_neg hend, if_pos rfl, readFrom_fieldStart_unquoted hunquotedRest,
              hbare, heldFields_comma]
          · rw [readFrom, if_neg hend, if_neg hcomma, hbare, heldFields_other hcomma]
        refine ⟨?_, hheld⟩
        rw [readFrom_recordStart_unquoted (Ne.symm hquote) hother, hheld, heldFields_fieldStart,
          filledLines_cons, List.map_cons]
        rfl

theorem not_mem_dropByteOrderMark {c : Char} (hc : c ∉ text) : c ∉ dropByteOrderMark text := by
  cases text with
  | nil => exact hc
  | cons first rest =>
      rw [dropByteOrderMark]
      split
      · exact List.not_mem_of_not_mem_cons hc
      · exact hc

theorem readRecords_unquoted (hunquoted : '"' ∉ text) : readRecords text = cutRecords text := by
  obtain ⟨line, lines, hlines⟩ :=
    List.exists_cons_of_ne_nil (List.splitOnP_ne_nil isLineEnd (dropByteOrderMark text))
  rw [readRecords, (readFrom_eq_lines (not_mem_dropByteOrderMark hunquoted) hlines).1, cutRecords,
    hlines]

/-! ## The check -/

/-- Without quotes there is nothing to find fault with. -/
theorem accepts_unquoted (hunquoted : '"' ∉ text) {place : QuotePlace}
    (hplace : ∀ openedOn, place ≠ .inside openedOn) : Accepts place text := by
  induction text generalizing place with
  | nil =>
      intro line
      cases place with
      | inside openedOn => exact absurd rfl (hplace openedOn)
      | fieldStart | outside => rfl
  | cons c rest ih =>
      rw [List.mem_cons, not_or] at hunquoted
      obtain ⟨hquote, hunquotedRest⟩ := hunquoted
      intro line
      -- no character leads into a quoted field
      have hstart : Accepts .fieldStart rest := ih hunquotedRest (by simp)
      have houtside : Accepts .outside rest := ih hunquotedRest (by simp)
      rw [checkQuotesFrom_character hplace line (Ne.symm hquote)]
      split
      · exact hstart line
      · split
        · exact hstart (line + 1)
        · exact houtside line

end Csv

open Csv

/-! ## The table -/

theorem ResultTable.headers_ofRows (records : List (List String)) :
    (ofRows records).headers = records.headD [] := by
  cases records <;> rfl

theorem ResultTable.cells_ofRows (records : List (List String)) :
    (ofRows records).data.map Record.cells = records.tail.map (keyedRow (records.headD [])) := by
  cases records with
  | nil => rfl
  | cons headers rows =>
      rw [ofRows, ofRecords, List.map_map]
      exact List.map_congr_left fun row _ => Record.cells_ofRow headers row

theorem ResultTable.rows_ofRows (records : List (List String)) :
    (ofRows records).rows =
      records.tail.map fun row => (keyedRow (records.headD []) row).map Prod.snd := by
  cases records with
  | nil => rfl
  | cons headers rows =>
      rw [ofRows, ofRecords, List.map_map]
      exact List.map_congr_left fun row _ => Record.values_ofRow headers row

theorem ResultTable.ofText_unquoted {text : String} (hunquoted : '"' ∉ text.toList) :
    ofText text = .ok (ofRows (cutRecords text.toList)) := by
  rw [ofText, checkQuotes, accepts_unquoted hunquoted (by simp), readRecords_unquoted hunquoted]
  rfl

/-- **A result without quotes is cut.**  Whatever else it holds, it is a table.  Its records are
its lines that hold something, cut at every comma: the first gives the headers, if there is one,
and the others the records by column and the rows. -/
theorem Metadata.ofResult_unquoted {text : String} (hunquoted : '"' ∉ text.toList) :
    ∃ table : ResultTable, Metadata.ofResult text = .table table ∧
      table.headers = (cutRecords text.toList).headD [] ∧
        table.data.map Record.cells =
          (cutRecords text.toList).tail.map (keyedRow table.headers) ∧
        table.rows = (cutRecords text.toList).tail.map fun row =>
          (keyedRow table.headers row).map Prod.snd := by
  have hheaders := ResultTable.headers_ofRows (cutRecords text.toList)
  refine ⟨.ofRows (cutRecords text.toList), ?_, hheaders, ?_, ?_⟩
  · rw [ofResult, ResultTable.ofText_unquoted hunquoted]
  · rw [hheaders]
    exact ResultTable.cells_ofRows _
  · rw [hheaders]
    exact ResultTable.rows_ofRows _

/-- A byte order mark, blank lines at both ends, all kinds of line ends, and commas at the ends
of lines. -/
theorem Metadata.ofResult_unquoted_mixed :
    let text := "\ufeff\r\na,b,a\r\r\n1,,3,4\n,\r\n"
    '"' ∉ text.toList ∧ ∃ table : ResultTable, Metadata.ofResult text = .table table ∧
      table.headers = ["a", "b", "a"] ∧
        table.data.map Record.cells =
          [[("a", "3"), ("b", ""), ("field4", "4")], [("a", ""), ("b", "")]] ∧
        table.rows = [["3", "", "4"], ["", ""]] := by
  intro text
  have hunquoted : '"' ∉ text.toList := by decide
  have hcut : cutRecords text.toList = [["a", "b", "a"], ["1", "", "3", "4"], ["", ""]] := by
    decide
  obtain ⟨table, htable, hheaders, hdata, hrows⟩ := ofResult_unquoted hunquoted
  rw [hcut] at hheaders hdata hrows
  rw [hheaders] at hdata hrows
  exact ⟨hunquoted, table, htable, hheaders, hdata, hrows⟩

end ResultBoards
