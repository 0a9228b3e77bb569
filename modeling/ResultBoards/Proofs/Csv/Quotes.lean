import ResultBoards.Proofs.Csv.Reading
import ResultBoards.Proofs.Csv.Written

/-!
# Quotes that enclose fields

The check and the reader see a text differently.  The check takes two quotes in a quoted
field at once and knows neither of records that end in a carriage return nor of the byte
order mark, while the reader stands at the start of a record behind both.  What the check
accepts the reader reads as it was meant nevertheless: each quote opens a field, stands for
one of two, or closes a field that ends there.

## Strategy

`Corresponds` says where the reader may stand while the check stands somewhere.  Behind a
carriage return the check takes a field for begun where the reader has not started one, so
it only ever refuses more.  Each step of the check is one step of the reader, or two at a
doubled quote (`isClean_of_checkQuotesFrom`), and what is so shown of the rest of a text is
then said of each of its quotes.
-/

namespace ResultBoards.Csv

/-- What a quote does that stands between two parts of a text: it opens a field at its very
start, it is the first or the second of two in a quoted field, or it closes a quoted field
that ends there. -/
inductive QuoteRole (before rest : List Char) : Prop
  | opens (hplace : (Reading.start.after before).place = .recordStart ∨
      (Reading.start.after before).place = .fieldStart)
  | firstOfTwo (hplace : (Reading.start.after before).place = .quoted)
      (hrest : rest.head? = some '"')
  | secondOfTwo {earlier : List Char} (hbefore : before = earlier ++ ['"'])
      (hplace : (Reading.start.after earlier).place = .quoted)
  | closes (hplace : (Reading.start.after before).place = .quoted)
      (hrest : ∀ c ∈ rest.head?, c = ',' ∨ c = '\r' ∨ c = '\n')

/-- The reader takes every quote of a text for one that encloses a field. -/
structure QuotesEnclose (text : List Char) : Prop where
  /-- The reader can be stopped anywhere. -/
  resumes : ∀ before rest, dropByteOrderMark text = before ++ rest →
    readRecords text = (Reading.start.after before).remaining rest
  /-- Each quote has one of its four roles. -/
  role : ∀ before rest, dropByteOrderMark text = before ++ '"' :: rest → QuoteRole before rest
  /-- No quote of a bare field is copied. -/
  not_copied : ∀ before rest, dropByteOrderMark text = before ++ '"' :: rest →
    (Reading.start.after before).place ≠ .bare
  /-- No field goes on behind its closing quote. -/
  not_continued : ∀ before c rest, dropByteOrderMark text = before ++ c :: rest →
    (Reading.start.after before).place = .quoteSeen → c = '"' ∨ c = ',' ∨ c = '\r' ∨ c = '\n'
  /-- No quoted field runs to the end. -/
  not_open : (Reading.start.after (dropByteOrderMark text)).place ≠ .quoted

/-! ## The rest of a text -/

/-- From where the reader is on, no quote of a bare field is met, a closing quote ends its
field, and no quoted field is left open. -/
def IsClean : Reading → List Char → Prop
  | reading, [] => reading.place ≠ .quoted
  | reading, c :: rest =>
      (c = '"' → reading.place ≠ .bare) ∧
        (reading.place = .quoteSeen → c = '"' ∨ mayFollowQuote (c :: rest) = true) ∧
        IsClean (reading.step c) rest

theorem IsClean.after {reading : Reading} {before rest : List Char}
    (hclean : IsClean reading (before ++ rest)) : IsClean (reading.after before) rest := by
  induction before generalizing reading with
  | nil => exact hclean
  | cons c before ih => exact ih hclean.2.2

/-! ## The check and the reader -/

/-- Where the reader may stand while the check stands somewhere. -/
inductive Corresponds : QuotePlace → Place → List Char → Prop
  | recordStart {rest : List Char} : Corresponds .fieldStart .recordStart rest
  | fieldStart {rest : List Char} : Corresponds .fieldStart .fieldStart rest
  | bare {rest : List Char} : Corresponds .outside .bare rest
  | lineEnded {rest : List Char} : Corresponds .outside .recordStart rest
  | closed {rest : List Char} (hrest : mayFollowQuote rest = true) :
      Corresponds .outside .quoteSeen rest
  | inside {openedOn : Nat} {rest : List Char} : Corresponds (.inside openedOn) .quoted rest

theorem Corresponds.eq_quoted {openedOn : Nat} {place : Place} {rest : List Char}
    (hplaces : Corresponds (.inside openedOn) place rest) : place = .quoted := by
  cases hplaces
  rfl

theorem Corresponds.ne_quoted {quotePlace : QuotePlace} {place : Place} {rest : List Char}
    (hplaces : Corresponds quotePlace place rest)
    (hquotePlace : ∀ openedOn, quotePlace = .inside openedOn → False) : place ≠ .quoted := by
  cases hplaces with
  | inside => exact absurd rfl (hquotePlace _)
  | recordStart | fieldStart | bare | lineEnded | closed => simp

theorem Corresponds.mayFollow {quotePlace : QuotePlace} {rest : List Char}
    (hplaces : Corresponds quotePlace .quoteSeen rest) : mayFollowQuote rest = true := by
  cases hplaces
  assumption

/-- Outside quotes a character that is none leads check and reader to places that correspond. -/
theorem Corresponds.of_other {reading : Reading} {c : Char} (hplace : reading.place ≠ .quoted)
    (hquote : c ≠ '"') (hcomma : c ≠ ',') (rest : List Char) :
    Corresponds .outside (reading.step c).place rest := by
  by_cases hend : isLineEnd c = true
  · rw [Reading.place_step_lineEnd hplace hend]
    exact .lineEnded
  · rw [Reading.place_step_bare hplace hquote hcomma (by simpa using hend)]
    exact .bare

/-- **One check, one reader.**  What the check accepts from corresponding places on is clean
for the reader. -/
theorem isClean_of_checkQuotesFrom {quotePlace : QuotePlace} {line : Nat} {text : List Char}
    {reading : Reading} (haccepted : checkQuotesFrom quotePlace line text = .ok ())
    (hplaces : Corresponds quotePlace reading.place text) : IsClean reading text := by
  fun_induction checkQuotesFrom quotePlace line text generalizing reading with
  | case1 => contradiction
  | case2 openedOn line rest ih =>
      -- a doubled quote: the reader sees a quote first and is then back in the field
      have hplace := hplaces.eq_quoted
      have hseen := Reading.place_step_quote hplace
      have hback := Reading.place_step_secondQuote hseen
      refine ⟨by simp [hplace], by simp [hplace], by simp [hseen], fun _ => .inl rfl,
        ih haccepted ?_⟩
      rw [hback]
      exact .inside
  | case3 openedOn line rest _ hrest ih =>
      have hplace := hplaces.eq_quoted
      refine ⟨by simp [hplace], by simp [hplace], ih haccepted ?_⟩
      rw [Reading.place_step_quote hplace]
      exact .closed hrest
  | case4 => contradiction
  | case5 openedOn line c rest _ hquote ih =>
      have hplace := hplaces.eq_quoted
      refine ⟨by simp [hplace], by simp [hplace], ih haccepted ?_⟩
      rw [Reading.place_step_quoted hplace hquote]
      exact .inside
  | case6 line quotePlace hquotePlace => exact hplaces.ne_quoted hquotePlace
  | case7 line rest _ _ _ ih =>
      -- the check stands at the start of a field, and so does the reader
      have hplace : reading.place = .recordStart ∨ reading.place = .fieldStart := by
        cases hplace : reading.place <;> rw [hplace] at hplaces <;> cases hplaces <;> simp
      refine ⟨fun _ hbare => ?_, fun hseen => ?_, ih haccepted ?_⟩
      · simp [hbare] at hplace
      · simp [hseen] at hplace
      · rw [Reading.place_step_open hplace]
        exact .inside
  | case8 => contradiction
  | case9 quotePlace line rest hquotePlace _ _ _ ih =>
      have hplace := hplaces.ne_quoted hquotePlace
      refine ⟨by simp, fun hseen => .inr (hseen ▸ hplaces).mayFollow, ih haccepted ?_⟩
      rw [Reading.place_step_comma hplace]
      exact .fieldStart
  | case10 quotePlace line rest hquotePlace _ _ _ _ ih =>
      have hplace := hplaces.ne_quoted hquotePlace
      refine ⟨by simp, fun hseen => .inr (hseen ▸ hplaces).mayFollow, ih haccepted ?_⟩
      rw [Reading.place_step_lineEnd hplace rfl]
      exact .recordStart
  | case11 quotePlace line c rest _ _ hquotePlace hquote hcomma _ ih =>
      have hplace := hplaces.ne_quoted hquotePlace
      exact ⟨fun heq => absurd heq hquote, fun hseen => .inr (hseen ▸ hplaces).mayFollow,
        ih haccepted (.of_other hplace hquote hcomma rest)⟩

/-! ## The roles of quotes -/

theorem Reading.after_concat (reading : Reading) (before : List Char) (c : Char) :
    reading.after (before ++ [c]) = (reading.after before).step c := by
  simp [after]

/-- Behind a quote of a quoted field the reader has just read this quote. -/
theorem exists_of_quoteSeen {before : List Char}
    (hplace : (Reading.start.after before).place = .quoteSeen) :
    ∃ earlier, before = earlier ++ ['"'] ∧ (Reading.start.after earlier).place = .quoted := by
  rcases List.eq_nil_or_concat before with rfl | ⟨earlier, c, rfl⟩
  · contradiction
  · rw [List.concat_eq_append, Reading.after_concat, Reading.place_step_eq_quoteSeen_iff] at hplace
    obtain ⟨hquoted, rfl⟩ := hplace
    exact ⟨earlier, List.concat_eq_append, hquoted⟩

/-- Where nothing but an end follows a closing quote, each quote has a role. -/
theorem quoteRole_of_isClean {before rest : List Char}
    (hclean : IsClean (Reading.start.after before) ('"' :: rest)) : QuoteRole before rest := by
  obtain ⟨hcopied, _, hrest⟩ := hclean
  cases hplace : (Reading.start.after before).place with
  | recordStart => exact .opens (.inl hplace)
  | fieldStart => exact .opens (.inr hplace)
  | bare => exact absurd hplace (hcopied rfl)
  | quoteSeen =>
      obtain ⟨earlier, hbefore, hquoted⟩ := exists_of_quoteSeen hplace
      exact .secondOfTwo hbefore hquoted
  | quoted =>
      cases rest with
      | nil => exact .closes hplace (by simp)
      | cons c rest =>
          -- what comes next tells whether this quote is the first of two or the last
          rcases hrest.2.1 (Reading.place_step_quote hplace) with rfl | hfollows
          · exact .firstOfTwo hplace rfl
          · exact .closes hplace (by simpa using eq_of_mayFollowQuote hfollows)

/-- **Accepted quotes enclose fields.**  In the reader's run over a text that the check
accepts, every quote opens a field, is one of two in a quoted field, or closes a field that
ends there. -/
theorem quotesEnclose_of_checkQuotes {text : List Char} (haccepted : checkQuotes text = .ok ()) :
    QuotesEnclose text := by
  have hclean : IsClean Reading.start (dropByteOrderMark text) := by
    cases text with
    | nil => exact isClean_of_checkQuotesFrom haccepted .recordStart
    | cons c rest =>
        rw [dropByteOrderMark]
        split
        · rename_i hmark
          -- the check takes the mark for the first character of a field
          subst hmark
          have houtside : checkQuotesFrom .outside 1 rest = .ok () := haccepted
          exact isClean_of_checkQuotesFrom houtside .lineEnded
        · exact isClean_of_checkQuotesFrom haccepted .recordStart
  have hrest : ∀ {before rest}, dropByteOrderMark text = before ++ rest →
      IsClean (Reading.start.after before) rest := fun htext => by
    rw [htext] at hclean
    exact hclean.after
  refine ⟨fun _ _ htext => Reading.readRecords_eq_remaining htext,
    fun _ _ htext => quoteRole_of_isClean (hrest htext), fun _ _ htext => (hrest htext).1 rfl,
    fun _ c rest htext hplace => ?_, ?_⟩
  · exact ((hrest htext).2.1 hplace).imp_right eq_of_mayFollowQuote
  · exact hrest (List.append_nil _).symm

/-- Quotes of all roles, with a carriage return alone, a blank line and a line feed in a
field. -/
theorem quotesEnclose_mixed :
    let text := "a,\"b \"\"c\"\"\"\r\r\n\n\"d\ne\",\"\"".toList
    checkQuotes text = .ok () ∧ QuotesEnclose text ∧
      readRecords text = [["a", "b \"c\""], ["d\ne", ""]] := by
  intro text
  exact ⟨rfl, quotesEnclose_of_checkQuotes rfl, rfl⟩

end ResultBoards.Csv
