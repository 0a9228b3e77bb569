import ResultBoards.Csv.Quotes
import ResultBoards.Csv.Reader

/-!
# Written CSV

What a writer of CSV is free to do is described by `Written`: it encloses any field it
likes in quotes, ends each record with a line feed or with a carriage return and a line
feed, and may leave out the last end.  It has to enclose fields that hold a quote, a
comma or a line end, and a record of one empty field, which would be a blank line.

Two machines go over such a text, the check of the quotes and the reader.  Both are
followed field by field: each is back at a known place after a field, whatever stands in
it, as long as what comes next may follow a field.
-/

namespace ResultBoards.Csv

/-! ## Fields, records and texts -/

/-- A character of a quoted field. -/
def doubled (c : Char) : List Char :=
  if c = '"' then ['"', '"'] else [c]

/-- A character that a bare field may hold. -/
def IsBare (c : Char) : Prop :=
  c ≠ '"' ∧ c ≠ ',' ∧ c ≠ '\r' ∧ c ≠ '\n'

/-- A field as it is or in quotes. -/
inductive WrittenField : String → List Char → Prop
  | bare {field : String} (hbare : ∀ c ∈ field.toList, IsBare c) : WrittenField field field.toList
  | quoted (field : String) :
      WrittenField field ('"' :: field.toList.flatMap doubled ++ ['"'])

/-- Fields with commas between them, at least one. -/
inductive WrittenFields : List String → List Char → Prop
  | last {field : String} {text : List Char} (hfield : WrittenField field text) :
      WrittenFields [field] text
  | cons {field : String} {fields : List String} {text rest : List Char}
      (hfield : WrittenField field text) (hfields : WrittenFields fields rest) :
      WrittenFields (field :: fields) (text ++ ',' :: rest)

/-- The fields of a record.  One empty field is written in quotes. -/
structure WrittenRecord (record : List String) (text : List Char) : Prop where
  fields : WrittenFields record text
  quoted_of_blank : record = [""] → text = ['"', '"']

/-- What ends a record. -/
inductive LineEnding : List Char → Prop
  | lineFeed : LineEnding ['\n']
  | carriageReturn : LineEnding ['\r', '\n']

/-- Records, at least one, each with its end.  The last end may be missing. -/
inductive Written : List (List String) → List Char → Prop
  | unended {record : List String} {text : List Char} (hrecord : WrittenRecord record text) :
      Written [record] text
  | ended {record : List String} {text ending : List Char} (hrecord : WrittenRecord record text)
      (hending : LineEnding ending) : Written [record] (text ++ ending)
  | cons {record : List String} {records : List (List String)} {text ending rest : List Char}
      (hrecord : WrittenRecord record text) (hending : LineEnding ending)
      (hrecords : Written records rest) : Written (record :: records) (text ++ (ending ++ rest))

/-- The text is at its end or at the end of a line. -/
def EndsRecord : List Char → Prop
  | [] => True
  | c :: _ => isLineEnd c = true

theorem endsRecord_nil : EndsRecord [] := trivial

theorem mayFollowQuote_cons_iff {c : Char} {rest : List Char} :
    mayFollowQuote (c :: rest) = true ↔ c = ',' ∨ c = '\r' ∨ c = '\n' := by
  simp [mayFollowQuote, or_assoc]

theorem eq_of_mayFollowQuote {c : Char} {rest : List Char}
    (hrest : mayFollowQuote (c :: rest) = true) : c = ',' ∨ c = '\r' ∨ c = '\n' :=
  mayFollowQuote_cons_iff.mp hrest

theorem EndsRecord.mayFollow {rest : List Char} (hrest : EndsRecord rest) :
    mayFollowQuote rest = true := by
  cases rest with
  | nil => rfl
  | cons c rest =>
      have hc : c = '\n' ∨ c = '\r' := by simpa [EndsRecord, isLineEnd] using hrest
      rcases hc with rfl | rfl <;> rfl

theorem LineEnding.endsRecord {ending : List Char} (hending : LineEnding ending)
    (rest : List Char) : EndsRecord (ending ++ rest) := by
  cases hending <;> exact rfl

theorem IsBare.isLineEnd {c : Char} (hbare : IsBare c) : isLineEnd c = false := by
  simp [Csv.isLineEnd, hbare.2.2.1, hbare.2.2.2]

/-- The first character of a record does not end a line. -/
theorem WrittenRecord.starts {record : List String} {text : List Char}
    (hrecord : WrittenRecord record text) :
    ∃ c rest, text = c :: rest ∧ isLineEnd c = false := by
  have hfirst : ∀ {field : String} {text : List Char}, WrittenField field text →
      field = "" ∧ text = [] ∨ ∃ c rest, text = c :: rest ∧ isLineEnd c = false := by
    intro field text hfield
    cases hfield with
    | quoted => exact .inr ⟨_, _, rfl, rfl⟩
    | bare hbare =>
        cases htext : field.toList with
        | nil => exact .inl ⟨String.toList_eq_nil_iff.mp htext, rfl⟩
        | cons c rest =>
            exact .inr ⟨c, rest, rfl, (hbare c (htext ▸ List.mem_cons_self)).isLineEnd⟩
  obtain ⟨hfields, hblank⟩ := hrecord
  cases hfields with
  | last hfield =>
      rcases hfirst hfield with ⟨rfl, rfl⟩ | hstarts
      · -- a record of one empty field is not left blank
        exact absurd (hblank rfl) (by simp)
      · exact hstarts
  | cons hfield hfields =>
      rcases hfirst hfield with ⟨rfl, rfl⟩ | ⟨c, rest, rfl, hc⟩
      · exact ⟨_, _, rfl, rfl⟩
      · exact ⟨c, _, rfl, hc⟩

/-! ## The reader

After a field the reader is where it is behind a closing quote, whether the field is
quoted or not. -/

theorem readFrom_fieldStart_end (fields : List String) {rest : List Char}
    (hrest : mayFollowQuote rest = true) :
    readFrom .fieldStart [] fields rest = readFrom .quoteSeen [] fields rest := by
  cases rest with
  | nil => rfl
  | cons c rest =>
      rcases eq_of_mayFollowQuote hrest with rfl | rfl | rfl <;> rfl

theorem readFrom_bare_end (field : List Char) (fields : List String) {rest : List Char}
    (hrest : mayFollowQuote rest = true) :
    readFrom .bare field fields rest = readFrom .quoteSeen field fields rest := by
  cases rest with
  | nil => rfl
  | cons c rest =>
      rcases eq_of_mayFollowQuote hrest with rfl | rfl | rfl <;> rfl

theorem readFrom_bare {chars rest : List Char} (hbare : ∀ c ∈ chars, IsBare c)
    (field : List Char) (fields : List String) (hrest : mayFollowQuote rest = true) :
    readFrom .bare field fields (chars ++ rest) =
      readFrom .quoteSeen (chars.reverse ++ field) fields rest := by
  -- the reader holds the characters of a field in reverse
  induction chars generalizing field with
  | nil => exact readFrom_bare_end field fields hrest
  | cons c chars ih =>
      have hc := hbare c List.mem_cons_self
      rw [List.cons_append, readFrom, if_neg (by simp [hc.isLineEnd]), if_neg hc.2.1,
        ih fun d hd => hbare d (List.mem_cons_of_mem _ hd)]
      simp

theorem readFrom_quoted (chars : List Char) (field : List Char) (fields : List String)
    (rest : List Char) :
    readFrom .quoted field fields (chars.flatMap doubled ++ '"' :: rest) =
      readFrom .quoteSeen (chars.reverse ++ field) fields rest := by
  induction chars generalizing field with
  | nil => rfl
  | cons c chars ih =>
      by_cases hquote : c = '"'
      · subst hquote
        have hstep : readFrom .quoted field fields
            ('"' :: '"' :: (chars.flatMap doubled ++ '"' :: rest)) =
              readFrom .quoted ('"' :: field) fields (chars.flatMap doubled ++ '"' :: rest) := rfl
        rw [List.flatMap_cons, doubled, if_pos rfl, List.append_assoc]
        simp only [List.cons_append, List.nil_append, hstep, ih]
        simp
      · rw [List.flatMap_cons, doubled, if_neg hquote, List.append_assoc, List.singleton_append,
          readFrom, if_neg hquote, ih]
        simp

theorem readFrom_field {field : String} {text rest : List Char} (hfield : WrittenField field text)
    (fields : List String) (hrest : mayFollowQuote rest = true) :
    readFrom .fieldStart [] fields (text ++ rest) =
      readFrom .quoteSeen field.toList.reverse fields rest := by
  cases hfield with
  | quoted =>
      have hquoted := readFrom_quoted field.toList [] fields rest
      rw [List.append_nil] at hquoted
      rw [List.cons_append, List.cons_append, List.append_assoc, List.singleton_append, ← hquoted]
      rfl
  | bare hbare =>
      cases htext : field.toList with
      | nil => exact readFrom_fieldStart_end fields hrest
      | cons c chars =>
          rw [htext] at hbare
          have hc := hbare c List.mem_cons_self
          rw [List.cons_append, readFrom, if_neg (by simp [hc.isLineEnd]), if_neg hc.2.1,
            if_neg hc.1, readFrom_bare (fun d hd => hbare d (List.mem_cons_of_mem _ hd)) _ _ hrest]
          simp

theorem readFrom_comma (field : String) (fields : List String) (rest : List Char) :
    readFrom .quoteSeen field.toList.reverse fields (',' :: rest) =
      readFrom .fieldStart [] (field :: fields) rest := by
  simp [readFrom, isLineEnd]

theorem readFrom_recordEnd (field : String) (fields : List String) {rest : List Char}
    (hrest : EndsRecord rest) :
    readFrom .quoteSeen field.toList.reverse fields rest =
      (field :: fields).reverse :: readFrom .recordStart [] [] rest := by
  cases rest with
  | nil => simp [readFrom, endRecord]
  | cons c rest =>
      have hc : isLineEnd c = true := hrest
      simp [readFrom, endRecord, hc]

theorem readFrom_fields {record : List String} {text rest : List Char}
    (hrecord : WrittenFields record text) (before : List String) (hrest : EndsRecord rest) :
    readFrom .fieldStart [] before (text ++ rest) =
      (before.reverse ++ record) :: readFrom .recordStart [] [] rest := by
  induction hrecord generalizing before with
  | last hfield =>
      rw [readFrom_field hfield before hrest.mayFollow, readFrom_recordEnd _ _ hrest,
        List.reverse_cons]
  | cons hfield hfields ih =>
      rw [List.append_assoc, List.cons_append, readFrom_field hfield before rfl, readFrom_comma, ih]
      simp

/-- A record is read from its written form. -/
theorem readFrom_record {record : List String} {text rest : List Char}
    (hrecord : WrittenRecord record text) (hrest : EndsRecord rest) :
    readFrom .recordStart [] [] (text ++ rest) =
      record :: readFrom .recordStart [] [] rest := by
  have hfields := readFrom_fields hrecord.fields [] hrest
  obtain ⟨c, text, rfl, hc⟩ := hrecord.starts
  rw [List.cons_append] at hfields ⊢
  rw [List.reverse_nil, List.nil_append, readFrom] at hfields
  rw [readFrom, ← hfields]
  simp only [hc, Bool.false_eq_true, if_false]

theorem readFrom_ending {ending : List Char} (hending : LineEnding ending) (rest : List Char) :
    readFrom .recordStart [] [] (ending ++ rest) = readFrom .recordStart [] [] rest := by
  cases hending <;> rfl

/-- **The reader undoes the writing.** -/
theorem readFrom_written {records : List (List String)} {text : List Char}
    (hwritten : Written records text) : readFrom .recordStart [] [] text = records := by
  induction hwritten with
  | @unended record text hrecord =>
      rw [← List.append_nil text, readFrom_record hrecord endsRecord_nil]
      rfl
  | @ended record text ending hrecord hending =>
      rw [← List.append_nil ending, readFrom_record hrecord (hending.endsRecord []),
        readFrom_ending hending]
      rfl
  | @cons record records text ending rest hrecord hending hrecords ih =>
      rw [readFrom_record hrecord (hending.endsRecord rest), readFrom_ending hending, ih]

/-! ## The check of the quotes -/

/-- Outside quotes, a character that is none leads to the start of a field or into one. -/
theorem checkQuotesFrom_character {place : QuotePlace}
    (hplace : ∀ openedOn, place ≠ .inside openedOn) (line : Nat) {c : Char} (hquote : c ≠ '"')
    (rest : List Char) :
    checkQuotesFrom place line (c :: rest) =
      if c = ',' then checkQuotesFrom .fieldStart line rest
      else if c = '\n' then checkQuotesFrom .fieldStart (line + 1) rest
      else checkQuotesFrom .outside line rest := by
  cases place with
  | inside openedOn => exact absurd rfl (hplace openedOn)
  | fieldStart | outside =>
      rw [checkQuotesFrom, if_neg hquote]
      all_goals simp

/-- In a quoted field the check goes over the characters of the field and counts its lines. -/
theorem checkQuotesFrom_doubled (openedOn line : Nat) (field rest : List Char) :
    checkQuotesFrom (.inside openedOn) line (field.flatMap doubled ++ rest) =
      checkQuotesFrom (.inside openedOn) (line + (field.flatMap doubled).count '\n') rest := by
  induction field generalizing line with
  | nil => rfl
  | cons c field ih =>
      rw [List.flatMap_cons, List.append_assoc, List.count_append, ← Nat.add_assoc]
      by_cases hquote : c = '"'
      · subst hquote
        exact ih line
      · have hline : (if c = '\n' then line + 1 else line) = line + [c].count '\n' := by
          by_cases hfeed : c = '\n' <;> simp [hfeed]
        rw [doubled, if_neg hquote, List.singleton_append, checkQuotesFrom, hline, ih]
        all_goals simp [hquote]

/-- The check finds nothing wrong from a place on, on whatever line it is. -/
def Accepts (place : QuotePlace) (text : List Char) : Prop :=
  ∀ line, checkQuotesFrom place line text = .ok ()

theorem accepts_fieldStart_end {rest : List Char} (hrest : mayFollowQuote rest = true)
    (haccepts : Accepts .outside rest) : Accepts .fieldStart rest := by
  intro line
  rw [← haccepts line]
  cases rest with
  | nil => rfl
  | cons c rest =>
      rcases eq_of_mayFollowQuote hrest with rfl | rfl | rfl <;> rfl

theorem accepts_bare_cons {place : QuotePlace} (hplace : ∀ openedOn, place ≠ .inside openedOn)
    {c : Char} {rest : List Char} (hbare : IsBare c) (haccepts : Accepts .outside rest) :
    Accepts place (c :: rest) := by
  intro line
  rw [checkQuotesFrom_character hplace line hbare.1, if_neg hbare.2.1, if_neg hbare.2.2.2]
  exact haccepts line

theorem accepts_bare {chars rest : List Char} (hbare : ∀ c ∈ chars, IsBare c)
    (haccepts : Accepts .outside rest) : Accepts .outside (chars ++ rest) := by
  induction chars with
  | nil => exact haccepts
  | cons c chars ih =>
      exact accepts_bare_cons (by simp) (hbare c List.mem_cons_self)
        (ih fun d hd => hbare d (List.mem_cons_of_mem _ hd))

theorem accepts_quoted (chars : List Char) {rest : List Char} (openedOn : Nat)
    (hrest : mayFollowQuote rest = true) (haccepts : Accepts .outside rest) :
    Accepts (.inside openedOn) (chars.flatMap doubled ++ '"' :: rest) := by
  intro line
  rw [checkQuotesFrom_doubled, checkQuotesFrom, if_pos hrest, haccepts]
  -- no quote follows, so this one is not half of a doubled quote
  rintro following rfl
  simp [mayFollowQuote] at hrest

theorem accepts_field {field : String} {text rest : List Char} (hfield : WrittenField field text)
    (hrest : mayFollowQuote rest = true) (haccepts : Accepts .outside rest) :
    Accepts .fieldStart (text ++ rest) := by
  cases hfield with
  | quoted =>
      intro line
      rw [List.cons_append, List.cons_append, List.append_assoc, List.singleton_append,
        checkQuotesFrom, if_pos rfl, if_pos rfl, accepts_quoted _ line hrest haccepts]
      all_goals simp
  | bare hbare =>
      cases htext : field.toList with
      | nil => exact accepts_fieldStart_end hrest haccepts
      | cons c chars =>
          rw [htext] at hbare
          exact accepts_bare_cons (by simp) (hbare c List.mem_cons_self)
            (accepts_bare (fun d hd => hbare d (List.mem_cons_of_mem _ hd)) haccepts)

theorem accepts_fields {record : List String} {text rest : List Char}
    (hrecord : WrittenFields record text) (hrest : EndsRecord rest)
    (haccepts : Accepts .outside rest) : Accepts .fieldStart (text ++ rest) := by
  induction hrecord with
  | last hfield => exact accepts_field hfield hrest.mayFollow haccepts
  | @cons field fields text others hfield hfields ih =>
      rw [List.append_assoc]
      exact accepts_field hfield rfl fun line => ih line

theorem accepts_ending {ending rest : List Char} (hending : LineEnding ending)
    (haccepts : Accepts .fieldStart rest) : Accepts .outside (ending ++ rest) := by
  intro line
  cases hending <;> exact haccepts (line + 1)

/-- **The check accepts what was written.** -/
theorem accepts_written {records : List (List String)} {text : List Char}
    (hwritten : Written records text) : Accepts .fieldStart text := by
  induction hwritten with
  | @unended record text hrecord =>
      rw [← List.append_nil text]
      exact accepts_fields hrecord.fields endsRecord_nil fun _ => rfl
  | @ended record text ending hrecord hending =>
      rw [← List.append_nil ending]
      exact accepts_fields hrecord.fields (hending.endsRecord [])
        (accepts_ending hending fun _ => rfl)
  | @cons record records text ending rest hrecord hending hrecords ih =>
      exact accepts_fields hrecord.fields (hending.endsRecord rest) (accepts_ending hending ih)

end ResultBoards.Csv
