import ResultBoards.Csv.Result
import ResultBoards.Proofs.Csv.Quotes

/-!
# Texts that are refused although they could be read

The check is there to refuse what the reader would misread.  It refuses more than that.  It
takes a field to start at the start of the text, behind a comma and behind a line feed, while
the reader also starts one behind a carriage return alone and behind the byte order mark.  A
quote there opens a field for the reader and is a stray one for the check.

## Strategy

`NothingMisread` says of each position of a text that the reader takes its character as it
was meant, and `isClean_iff_nothingMisread` turns this into the predicate `IsClean` that goes
with the steps of the reader.  On such a text the check and the reader stay at places that
correspond, so the two can only part where the check sees no start of a field.
`checkQuotesFrom_eq_ok_iff` finds these positions by induction along the check, and
`FieldStartsSeen` says that no quote stands at one of them.
-/

namespace ResultBoards

namespace Csv

/-! ## Texts that the reader does not misread -/

/-- The reader meets no quote in a bare field, nothing but a separator behind a closing quote,
and no quoted field that runs to the end. -/
structure NothingMisread (text : List Char) : Prop where
  not_copied : ∀ before rest, dropByteOrderMark text = before ++ '"' :: rest →
    (Reading.start.after before).place ≠ .bare
  not_continued : ∀ before c rest, dropByteOrderMark text = before ++ c :: rest →
    (Reading.start.after before).place = .quoteSeen → c = '"' ∨ c = ',' ∨ c = '\r' ∨ c = '\n'
  not_open : (Reading.start.after (dropByteOrderMark text)).place ≠ .quoted

/-- What is clean from some place on can be said of each position. -/
theorem isClean_iff {reading : Reading} {text : List Char} :
    IsClean reading text ↔
      (∀ before rest, text = before ++ '"' :: rest → (reading.after before).place ≠ .bare) ∧
      (∀ before c rest, text = before ++ c :: rest → (reading.after before).place = .quoteSeen →
        c = '"' ∨ mayFollowQuote (c :: rest) = true) ∧
      (reading.after text).place ≠ .quoted := by
  constructor
  · intro hclean
    refine ⟨fun before rest htext => ?_, fun before c rest htext => ?_, ?_⟩
    · subst htext
      exact hclean.after.1 rfl
    · subst htext
      exact hclean.after.2.1
    · rw [← List.append_nil text] at hclean
      exact hclean.after
  · rintro ⟨hcopied, hcontinued, hopen⟩
    induction text generalizing reading with
    | nil => exact hopen
    | cons c text ih =>
        refine ⟨fun hquote => hcopied [] text (by rw [hquote]; rfl), hcontinued [] c text rfl, ?_⟩
        -- a position behind the first character is one of the rest
        refine ih (fun before rest htext => ?_) (fun before d rest htext => ?_) hopen
        · exact hcopied (c :: before) rest (by rw [htext]; rfl)
        · exact hcontinued (c :: before) d rest (by rw [htext]; rfl)

theorem isClean_iff_nothingMisread {text : List Char} :
    IsClean Reading.start (dropByteOrderMark text) ↔ NothingMisread text := by
  rw [isClean_iff]
  simp only [mayFollowQuote_cons_iff]
  constructor
  · rintro ⟨hcopied, hcontinued, hopen⟩
    exact ⟨hcopied, hcontinued, hopen⟩
  · rintro ⟨hcopied, hcontinued, hopen⟩
    exact ⟨hcopied, hcontinued, hopen⟩

instance decidableIsClean : (reading : Reading) → (text : List Char) →
    Decidable (IsClean reading text)
  | reading, [] => inferInstanceAs (Decidable (reading.place ≠ .quoted))
  | reading, c :: rest =>
      have := decidableIsClean (reading.step c) rest
      inferInstanceAs (Decidable ((c = '"' → reading.place ≠ .bare) ∧
        (reading.place = .quoteSeen → c = '"' ∨ mayFollowQuote (c :: rest) = true) ∧
        IsClean (reading.step c) rest))

/-! ## Starts of fields that the check does not see -/

/-- From where the reader is on, a carriage return directly in front of a quote stands in a
quoted field. -/
def ReturnsQuoted (reading : Reading) (text : List Char) : Prop :=
  ∀ before rest, text = before ++ '\r' :: '"' :: rest → (reading.after before).place = .quoted

/-- No quote opens a field where the check sees no start of one: behind the byte order mark, or
behind a carriage return that ends a record alone. -/
structure FieldStartsSeen (text : List Char) : Prop where
  mark_ne : ∀ rest, text ≠ '\ufeff' :: '"' :: rest
  returnsQuoted : ReturnsQuoted Reading.start (dropByteOrderMark text)

theorem returnsQuoted_nil (reading : Reading) : ReturnsQuoted reading [] := by
  intro before rest htext
  have hlength := congrArg List.length htext
  simp at hlength

theorem returnsQuoted_cons {reading : Reading} {c : Char} {text : List Char} :
    ReturnsQuoted reading (c :: text) ↔
      (c = '\r' → text.head? = some '"' → reading.place = .quoted) ∧
        ReturnsQuoted (reading.step c) text := by
  constructor
  · intro hreturns
    refine ⟨fun hreturn hquote => ?_, fun before rest htext => ?_⟩
    · obtain ⟨rest, rfl⟩ := List.head?_eq_some_iff.mp hquote
      exact hreturns [] rest (by rw [hreturn]; rfl)
    · exact hreturns (c :: before) rest (by rw [htext]; rfl)
  · rintro ⟨hhere, hlater⟩ before rest htext
    cases before with
    | nil =>
        obtain ⟨hreturn, hrest⟩ := List.cons.inj htext
        exact hhere hreturn (by rw [hrest]; rfl)
    | cons first before =>
        obtain ⟨rfl, hrest⟩ := List.cons.inj htext
        exact hlater before rest hrest

theorem returnsQuoted_cons_of_ne {reading : Reading} {c : Char} {text : List Char}
    (hreturn : c ≠ '\r') :
    ReturnsQuoted reading (c :: text) ↔ ReturnsQuoted (reading.step c) text := by
  rw [returnsQuoted_cons]
  exact and_iff_right fun heq => absurd heq hreturn

/-- **Where the check and the reader part.**  On a text that is clean for the reader the check
finds nothing wrong exactly if no quote stands behind a carriage return that ends a record
alone, be it one that comes later or one that has just been read. -/
theorem checkQuotesFrom_eq_ok_iff {quotePlace : QuotePlace} {line : Nat} {text : List Char}
    {reading : Reading} (hclean : IsClean reading text)
    (hplaces : Corresponds quotePlace reading.place text) :
    checkQuotesFrom quotePlace line text = .ok () ↔
      ReturnsQuoted reading text ∧
        (quotePlace = .outside → reading.place = .recordStart → text.head? ≠ some '"') := by
  fun_induction checkQuotesFrom quotePlace line text generalizing reading with
  | case1 => exact absurd hplaces.eq_quoted hclean
  | case2 openedOn line rest ih =>
      have hplace := hplaces.eq_quoted
      have hback := Reading.place_step_secondQuote (Reading.place_step_quote hplace)
      rw [ih hclean.2.2.2.2 (hback ▸ .inside), returnsQuoted_cons_of_ne (by decide),
        returnsQuoted_cons_of_ne (by decide)]
      simp
  | case3 openedOn line rest _ hrest ih =>
      have hseen := Reading.place_step_quote hplaces.eq_quoted
      rw [ih hclean.2.2 (hseen ▸ .closed hrest), returnsQuoted_cons_of_ne (by decide)]
      simp [hseen]
  | case4 openedOn line rest hsecond hrest =>
      -- something else follows the closing quote, which is not clean
      have hseen := Reading.place_step_quote hplaces.eq_quoted
      cases rest with
      | nil => exact absurd rfl hrest
      | cons c rest =>
          rcases hclean.2.2.2.1 hseen with rfl | hfollows
          · exact absurd rfl (hsecond rest)
          · exact absurd hfollows hrest
  | case5 openedOn line c rest _ hquote ih =>
      have hplace := hplaces.eq_quoted
      have hstill := Reading.place_step_quoted hplace hquote
      rw [ih hclean.2.2 (hstill ▸ .inside), returnsQuoted_cons]
      simp [hplace]
  | case6 line quotePlace hquotePlace => simp [returnsQuoted_nil]
  | case7 line rest _ _ _ ih =>
      have hplace : reading.place = .recordStart ∨ reading.place = .fieldStart := by
        cases hplace : reading.place <;> rw [hplace] at hplaces <;> cases hplaces <;> simp
      have hinside := Reading.place_step_open hplace
      rw [ih hclean.2.2 (hinside ▸ .inside), returnsQuoted_cons_of_ne (by decide)]
      simp
  | case8 quotePlace line rest hquotePlace hstart =>
      -- a quote where the check sees no start is clean only behind the end of a record
      have hbare : reading.place ≠ .bare := hclean.1 rfl
      have hrecord : quotePlace = .outside ∧ reading.place = .recordStart := by
        generalize reading.place = place at hplaces hbare ⊢
        cases hplaces with
        | recordStart | fieldStart => exact absurd rfl hstart
        | bare => exact absurd rfl hbare
        | lineEnded => exact ⟨rfl, rfl⟩
        | closed hrest => simp [mayFollowQuote] at hrest
        | inside => exact absurd rfl (hquotePlace _)
      simp [hrecord]
  | case9 quotePlace line rest hquotePlace _ _ _ ih =>
      have hplace := hplaces.ne_quoted hquotePlace
      have hnext := Reading.place_step_comma hplace
      rw [ih hclean.2.2 (hnext ▸ .fieldStart), returnsQuoted_cons_of_ne (by decide)]
      simp
  | case10 quotePlace line rest hquotePlace _ _ _ _ ih =>
      have hplace := hplaces.ne_quoted hquotePlace
      have hnext := Reading.place_step_lineEnd hplace (c := '\n') rfl
      rw [ih hclean.2.2 (hnext ▸ .recordStart), returnsQuoted_cons_of_ne (by decide)]
      simp
  | case11 quotePlace line c rest _ _ hquotePlace hquote hcomma hfeed ih =>
      have hplace := hplaces.ne_quoted hquotePlace
      rw [ih hclean.2.2 (.of_other hplace hquote hcomma rest), returnsQuoted_cons]
      -- of the characters that are left only a carriage return ends a record
      by_cases hreturn : c = '\r'
      · subst hreturn
        have hnext := Reading.place_step_lineEnd hplace (c := '\r') rfl
        simp [hplace, hnext, and_comm]
      · have hnext := Reading.place_step_bare hplace hquote hcomma
          (by simp [isLineEnd, hfeed, hreturn])
        simp [hreturn, hquote, hnext]

theorem dropByteOrderMark_of_ne {text : List Char} (hmark : ∀ rest, text ≠ '\ufeff' :: rest) :
    dropByteOrderMark text = text := by
  cases text with
  | nil => rfl
  | cons c rest => rw [dropByteOrderMark, if_neg fun heq => hmark rest (by rw [heq])]

theorem checkQuotes_eq_ok_iff {text : List Char} (hread : NothingMisread text) :
    checkQuotes text = .ok () ↔ FieldStartsSeen text := by
  have hclean := isClean_iff_nothingMisread.mpr hread
  by_cases hmark : ∃ rest, text = '\ufeff' :: rest
  · obtain ⟨rest, rfl⟩ := hmark
    -- the check is past the start of the first field when it has seen the mark
    have houtside : checkQuotes ('\ufeff' :: rest) = checkQuotesFrom .outside 1 rest := rfl
    have hrest : dropByteOrderMark ('\ufeff' :: rest) = rest := rfl
    rw [hrest] at hclean
    rw [houtside, checkQuotesFrom_eq_ok_iff hclean .lineEnded]
    constructor
    · rintro ⟨hreturns, hhead⟩
      refine ⟨fun others hothers => hhead rfl rfl ?_, hrest.symm ▸ hreturns⟩
      rw [(List.cons.inj hothers).2]
      rfl
    · rintro ⟨hne, hreturns⟩
      rw [hrest] at hreturns
      refine ⟨hreturns, fun _ _ hhead => ?_⟩
      obtain ⟨others, rfl⟩ := List.head?_eq_some_iff.mp hhead
      exact hne others rfl
  · have hne : ∀ rest, text ≠ '\ufeff' :: rest := fun rest htext => hmark ⟨rest, htext⟩
    have htext := dropByteOrderMark_of_ne hne
    rw [htext] at hclean
    rw [checkQuotes, checkQuotesFrom_eq_ok_iff hclean .recordStart]
    constructor
    · rintro ⟨hreturns, _⟩
      exact ⟨fun rest => hne _, htext.symm ▸ hreturns⟩
    · rintro ⟨_, hreturns⟩
      exact ⟨htext ▸ hreturns, by simp⟩

end Csv

open Csv

/-! ## Results that are kept as text -/

/-- **Which readable results are kept as text.**  A result that the reader does not misread is
the table of its records if the check sees the start of every quoted field, and otherwise it
stays the text that it is. -/
theorem Metadata.ofResult_of_nothingMisread {text : String} (hread : NothingMisread text.toList) :
    (Metadata.ofResult text = .table (.ofRows (readRecords text.toList)) ↔
        FieldStartsSeen text.toList) ∧
      (Metadata.ofResult text = .raw text ↔ ¬ FieldStartsSeen text.toList) := by
  have hcheck := checkQuotes_eq_ok_iff hread
  rw [ofResult, ResultTable.ofText]
  cases hresult : checkQuotes text.toList with
  | ok _ =>
      have hseen := hcheck.mp hresult
      simp [Except.map, hseen]
  | error problem =>
      have hunseen : ¬ FieldStartsSeen text.toList := fun hseen => by
        have hok := hcheck.mpr hseen
        rw [hresult] at hok
        contradiction
      simp [Except.map, hunseen]

/-- A byte order mark in front of a bare field, and a quoted carriage return in front of a
closing quote. -/
theorem Metadata.ofResult_of_nothingMisread_mixed :
    NothingMisread "\ufeffa,\"b\"\r\n\"c\r\"".toList ∧
      Metadata.ofResult "\ufeffa,\"b\"\r\n\"c\r\"" =
        .table (.ofRows [["a", "b"], ["c\r"]]) := by
  have hread : NothingMisread "\ufeffa,\"b\"\r\n\"c\r\"".toList :=
    isClean_iff_nothingMisread.mp (by decide)
  have hseen := (checkQuotes_eq_ok_iff hread).mp rfl
  exact ⟨hread, (Metadata.ofResult_of_nothingMisread hread).1.mpr hseen⟩

/-- **Some results that could be read are kept as text.**  The reader misreads nothing in these
two, a quoted field behind a carriage return and one behind the byte order mark. -/
theorem Metadata.ofResult_eq_raw_of_unseen_start :
    (NothingMisread "a\r\"b\"\r".toList ∧ readRecords "a\r\"b\"\r".toList = [["a"], ["b"]] ∧
        Metadata.ofResult "a\r\"b\"\r" = .raw "a\r\"b\"\r") ∧
      NothingMisread "\ufeff\"a\"\n1".toList ∧
        readRecords "\ufeff\"a\"\n1".toList = [["a"], ["1"]] ∧
          Metadata.ofResult "\ufeff\"a\"\n1" = .raw "\ufeff\"a\"\n1" :=
  ⟨⟨isClean_iff_nothingMisread.mp (by decide), rfl, rfl⟩,
    isClean_iff_nothingMisread.mp (by decide), rfl, rfl⟩

end ResultBoards
