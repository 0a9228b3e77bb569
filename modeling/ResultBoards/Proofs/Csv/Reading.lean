import Mathlib.Tactic.SplitIfs
import ResultBoards.Csv.Reader

/-!
# The reader in the middle of a text

The reader goes from a text to all of its records at once.  A `Reading` is what it has at
hand on the way, after some of the characters.  Whatever the rest of the text is, going on
from there gives the records of the whole (`Reading.remaining_append`), so statements about
where the reader stands are statements about the reader.
-/

namespace ResultBoards.Csv

/-- Where the reader stands, the field at hand and the fields before it in reverse, and the
records that have ended. -/
structure Reading where
  place : Place
  field : List Char
  fields : List String
  records : List (List String)

namespace Reading

/-- Nothing has been read. -/
def start : Reading := ⟨.recordStart, [], [], []⟩

/-- What the reader has at hand after one more character. -/
def step : Reading → Char → Reading
  | ⟨.recordStart, _, _, records⟩, c =>
      if isLineEnd c then ⟨.recordStart, [], [], records⟩
      else if c = ',' then ⟨.fieldStart, [], [""], records⟩
      else if c = '"' then ⟨.quoted, [], [], records⟩
      else ⟨.bare, [c], [], records⟩
  | ⟨.fieldStart, _, fields, records⟩, c =>
      if isLineEnd c then ⟨.recordStart, [], [], records ++ [endRecord [] fields]⟩
      else if c = ',' then ⟨.fieldStart, [], "" :: fields, records⟩
      else if c = '"' then ⟨.quoted, [], fields, records⟩
      else ⟨.bare, [c], fields, records⟩
  | ⟨.bare, field, fields, records⟩, c =>
      if isLineEnd c then ⟨.recordStart, [], [], records ++ [endRecord field fields]⟩
      else if c = ',' then ⟨.fieldStart, [], String.ofList field.reverse :: fields, records⟩
      else ⟨.bare, c :: field, fields, records⟩
  | ⟨.quoted, field, fields, records⟩, c =>
      if c = '"' then ⟨.quoteSeen, field, fields, records⟩
      else ⟨.quoted, c :: field, fields, records⟩
  | ⟨.quoteSeen, field, fields, records⟩, c =>
      if isLineEnd c then ⟨.recordStart, [], [], records ++ [endRecord field fields]⟩
      else if c = ',' then ⟨.fieldStart, [], String.ofList field.reverse :: fields, records⟩
      else if c = '"' then ⟨.quoted, '"' :: field, fields, records⟩
      else ⟨.bare, c :: field, fields, records⟩

/-- What the reader has at hand after a text. -/
def after (reading : Reading) (text : List Char) : Reading :=
  text.foldl step reading

/-- All records, those that have ended and those of the rest of the text. -/
def remaining (reading : Reading) (rest : List Char) : List (List String) :=
  reading.records ++ readFrom reading.place reading.field reading.fields rest

/-! ## Reading on -/

theorem remaining_cons (reading : Reading) (c : Char) (rest : List Char) :
    reading.remaining (c :: rest) = (reading.step c).remaining rest := by
  obtain ⟨place, field, fields, records⟩ := reading
  cases place with
  | recordStart | fieldStart | bare | quoted | quoteSeen =>
      simp only [remaining, step, readFrom]
      split_ifs <;> simp

/-- The reader can be stopped anywhere. -/
theorem remaining_append (reading : Reading) (before rest : List Char) :
    reading.remaining (before ++ rest) = (reading.after before).remaining rest := by
  induction before generalizing reading with
  | nil => rfl
  | cons c before ih => rw [List.cons_append, remaining_cons, ih, after, after, List.foldl_cons]

theorem readRecords_eq_remaining {text before rest : List Char}
    (htext : dropByteOrderMark text = before ++ rest) :
    readRecords text = (start.after before).remaining rest := by
  rw [readRecords, htext, ← remaining_append]
  rfl

/-! ## Where one character leads -/

variable {reading : Reading} {c : Char}

/-- The reader has just seen a quote in a quoted field. -/
theorem place_step_eq_quoteSeen_iff :
    (reading.step c).place = .quoteSeen ↔ reading.place = .quoted ∧ c = '"' := by
  obtain ⟨place, field, fields, records⟩ := reading
  cases place with
  | recordStart | fieldStart | bare | quoted | quoteSeen =>
      simp only [step]
      split_ifs <;> simp [*]

theorem place_step_open (hplace : reading.place = .recordStart ∨ reading.place = .fieldStart) :
    (reading.step '"').place = .quoted := by
  obtain ⟨place, field, fields, records⟩ := reading
  rcases hplace with rfl | rfl <;> rfl

theorem place_step_quote (hplace : reading.place = .quoted) :
    (reading.step '"').place = .quoteSeen := by
  obtain ⟨place, field, fields, records⟩ := reading
  cases hplace
  rfl

theorem place_step_secondQuote (hplace : reading.place = .quoteSeen) :
    (reading.step '"').place = .quoted := by
  obtain ⟨place, field, fields, records⟩ := reading
  cases hplace
  rfl

theorem place_step_quoted (hplace : reading.place = .quoted) (hc : c ≠ '"') :
    (reading.step c).place = .quoted := by
  obtain ⟨place, field, fields, records⟩ := reading
  cases hplace
  simp [step, hc]

theorem place_step_comma (hplace : reading.place ≠ .quoted) :
    (reading.step ',').place = .fieldStart := by
  obtain ⟨place, field, fields, records⟩ := reading
  cases place with
  | quoted => exact absurd rfl hplace
  | recordStart | fieldStart | bare | quoteSeen => rfl

theorem place_step_lineEnd (hplace : reading.place ≠ .quoted) (hc : isLineEnd c = true) :
    (reading.step c).place = .recordStart := by
  obtain ⟨place, field, fields, records⟩ := reading
  cases place with
  | quoted => exact absurd rfl hplace
  | recordStart | fieldStart | bare | quoteSeen => simp [step, hc]

theorem place_step_bare (hplace : reading.place ≠ .quoted) (hquote : c ≠ '"') (hcomma : c ≠ ',')
    (hend : isLineEnd c = false) : (reading.step c).place = .bare := by
  obtain ⟨place, field, fields, records⟩ := reading
  cases place with
  | quoted => exact absurd rfl hplace
  | recordStart | fieldStart | bare | quoteSeen => simp [step, hquote, hcomma, hend]

end Reading

end ResultBoards.Csv
