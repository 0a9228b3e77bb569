import Mathlib.Data.List.Induction
import Mathlib.Logic.Relation
import ResultBoards.Proofs.Csv.Written

/-!
# The first problem of a text

A refused text may hold many quotes that enclose no field, and one problem is reported.  It is
the first, and its line is the line of its quote, however the line feeds before it are spread
over bare and quoted fields.

What a misplaced quote is does not depend on how the check goes about it.  `Passes` goes over a
text outside quoted fields, over one character or over a whole quoted field, and never stops
at a problem: behind a misplaced quote it goes on.  `Meets` says which quote is misplaced where
it stands.  So the problems of a text are all known, and the first is the one with the least
in front of it.

## Strategy

The statements are about any position that a text is scanned from, so nothing has to be
remembered of what came before it.  A misplaced quote that is met at a position comes before
all that are met later (`Meets.isFirstProblem`), and where none is met, what is left to be found
is found from the next position on (`isMisplaced_iff_of_passes`).  The check does the same
(`Meets.check_eq`, `Passes.check_eq`), its place and its line being those of the text before it.
-/

namespace ResultBoards.Csv

/-! ## Positions and problems -/

/-- A position in a text, told by what stands before it and behind it. -/
structure Position where
  before : List Char
  rest : List Char

namespace Position

/-- The start of a text. -/
def start (text : List Char) : Position := ⟨[], text⟩

/-- The text that a position is in. -/
def text (position : Position) : List Char := position.before ++ position.rest

/-- The line of a position.  Lines are counted from one. -/
def line (position : Position) : Nat := 1 + position.before.count '\n'

end Position

/-- Outside quoted fields, a field starts at the start of a text and behind a comma or a line
feed. -/
def StartsField (before : List Char) : Prop :=
  before = [] ∨ before.getLast? = some ',' ∨ before.getLast? = some '\n'

instance : DecidablePred StartsField := fun before =>
  inferInstanceAs
    (Decidable (before = [] ∨ before.getLast? = some ',' ∨ before.getLast? = some '\n'))

theorem startsField_concat {before : List Char} {c : Char} :
    StartsField (before ++ [c]) ↔ c = ',' ∨ c = '\n' := by
  simp [StartsField]

/-- Behind an opening quote stand a field with its quotes doubled, the quote that closes it,
which is a single one, and what comes later. -/
structure ClosesField (rest inner later : List Char) : Prop where
  text_eq : rest = inner ++ '"' :: later
  exists_field : ∃ field : List Char, inner = field.flatMap doubled
  single : later.head? ≠ some '"'

/-- From one position outside quoted fields to the next, over a character that opens no quoted
field or over a quoted field. -/
inductive Passes : Position → Position → Prop
  | character {before : List Char} {c : Char} {rest : List Char}
      (hbare : c = '"' → ¬ StartsField before) : Passes ⟨before, c :: rest⟩ ⟨before ++ [c], rest⟩
  | field {before rest inner later : List Char} (hstart : StartsField before)
      (hcloses : ClosesField rest inner later) :
      Passes ⟨before, '"' :: rest⟩ ⟨before ++ '"' :: inner ++ ['"'], later⟩

/-- What is wrong at a position outside quoted fields: the position of the misplaced quote, and
the problem it is on its line.  A quote in a bare field is stray, and so is the quote that closes
a field which goes on behind it. -/
inductive Meets : Position → Position → (Nat → QuoteProblem) → Prop
  | bare {before rest : List Char} (hstart : ¬ StartsField before) :
      Meets ⟨before, '"' :: rest⟩ ⟨before, '"' :: rest⟩ .stray
  | continued {before rest inner later : List Char} (hstart : StartsField before)
      (hcloses : ClosesField rest inner later)
      (hnext : ∃ c ∈ later.head?, c ≠ ',' ∧ c ≠ '\r' ∧ c ≠ '\n') :
      Meets ⟨before, '"' :: rest⟩ ⟨before ++ '"' :: inner, '"' :: later⟩ .stray
  | unclosed {before rest : List Char} (hstart : StartsField before)
      (hopen : ∀ inner later, ¬ ClosesField rest inner later) :
      Meets ⟨before, '"' :: rest⟩ ⟨before, '"' :: rest⟩ .neverClosed

/-- A quote that encloses no field, found by scanning from a position outside quoted fields. -/
def IsMisplaced (start position : Position) (kind : Nat → QuoteProblem) : Prop :=
  ∃ outside, Relation.ReflTransGen Passes start outside ∧ Meets outside position kind

/-- The problem of the first misplaced quote.  Its line is one more than the line feeds before
this quote. -/
def IsFirstProblem (start : Position) (problem : QuoteProblem) : Prop :=
  ∃ before rest kind, start.text = before ++ '"' :: rest ∧
    IsMisplaced start ⟨before, '"' :: rest⟩ kind ∧
    (∀ other otherKind, IsMisplaced start other otherKind →
      before.length ≤ other.before.length) ∧
    problem = kind (1 + before.count '\n')

/-! ## Quoted fields -/

/-- A rest of a text in which the characters of a quoted field have come to an end. -/
def EndsField : List Char → Prop
  | [] => True
  | c :: later => c = '"' ∧ later.head? ≠ some '"'

theorem not_endsField_doubled (c : Char) (rest : List Char) : ¬ EndsField (doubled c ++ rest) := by
  by_cases hquote : c = '"' <;> simp [doubled, EndsField, hquote]

theorem doubled_append_inj {c d : Char} {rest others : List Char}
    (htext : doubled c ++ rest = doubled d ++ others) : c = d ∧ rest = others := by
  rw [doubled, doubled] at htext
  split_ifs at htext with hc hd hd
  · obtain rfl := hc.trans hd.symm
    simpa using htext
  · exact absurd (List.cons.inj htext).1.symm hd
  · exact absurd (List.cons.inj htext).1 hc
  · simpa using htext

/-- The characters of a quoted field can be read in one way only. -/
theorem eq_of_endsField {field other rest others : List Char} (hrest : EndsField rest)
    (hothers : EndsField others)
    (htext : field.flatMap doubled ++ rest = other.flatMap doubled ++ others) :
    field = other ∧ rest = others := by
  induction field generalizing other with
  | nil =>
      cases other with
      | nil => exact ⟨rfl, htext⟩
      | cons d other =>
          rw [List.flatMap_nil, List.nil_append, List.flatMap_cons, List.append_assoc] at htext
          exact absurd (htext ▸ hrest) (not_endsField_doubled d _)
  | cons c field ih =>
      cases other with
      | nil =>
          rw [List.flatMap_nil, List.nil_append, List.flatMap_cons, List.append_assoc] at htext
          exact absurd (htext ▸ hothers) (not_endsField_doubled c _)
      | cons d other =>
          rw [List.flatMap_cons, List.append_assoc, List.flatMap_cons, List.append_assoc] at htext
          obtain ⟨rfl, hrests⟩ := doubled_append_inj htext
          obtain ⟨rfl, rfl⟩ := ih hrests
          exact ⟨rfl, rfl⟩

/-- Behind an opening quote any text starts with the characters of a field. -/
theorem exists_endsField (text : List Char) :
    ∃ (field : List Char) (rest : List Char),
      text = field.flatMap doubled ++ rest ∧ EndsField rest := by
  induction text using List.twoStepInduction with
  | nil => exact ⟨[], [], rfl, trivial⟩
  | singleton c =>
      by_cases hquote : c = '"'
      · exact ⟨[], [c], rfl, hquote, by simp⟩
      · exact ⟨[c], [], by simp [doubled, hquote], trivial⟩
  | cons_cons c d text ih ihcons =>
      by_cases hquote : c = '"'
      · by_cases hsecond : d = '"'
        · obtain ⟨field, rest, rfl, hrest⟩ := ih
          exact ⟨'"' :: field, rest, by simp [doubled, hquote, hsecond], hrest⟩
        · exact ⟨[], c :: d :: text, rfl, hquote, by simpa using hsecond⟩
      · obtain ⟨field, rest, htext, hrest⟩ := ihcons d
        exact ⟨c :: field, rest, by simp [doubled, hquote, htext], hrest⟩

theorem ClosesField.unique {rest inner later otherInner otherLater : List Char}
    (hcloses : ClosesField rest inner later) (hother : ClosesField rest otherInner otherLater) :
    inner = otherInner ∧ later = otherLater := by
  obtain ⟨htext, ⟨field, rfl⟩, hsingle⟩ := hcloses
  obtain ⟨hotherText, ⟨otherField, rfl⟩, hotherSingle⟩ := hother
  have hends : EndsField ('"' :: later) := ⟨rfl, hsingle⟩
  have hotherEnds : EndsField ('"' :: otherLater) := ⟨rfl, hotherSingle⟩
  obtain ⟨rfl, hlater⟩ := eq_of_endsField hends hotherEnds (htext.symm.trans hotherText)
  exact ⟨rfl, (List.cons.inj hlater).2⟩

/-- A field whose closing quote is missing goes on to the end of the text. -/
theorem exists_field_of_not_closes {rest : List Char}
    (hopen : ∀ inner later, ¬ ClosesField rest inner later) :
    ∃ field : List Char, rest = field.flatMap doubled := by
  obtain ⟨field, last, rfl, hlast⟩ := exists_endsField rest
  cases last with
  | nil => exact ⟨field, List.append_nil _⟩
  | cons c later =>
      obtain ⟨rfl, hsingle⟩ := hlast
      exact absurd ⟨rfl, ⟨field, rfl⟩, hsingle⟩ (hopen _ later)

/-! ## The order of problems -/

/-- There is one way to go on. -/
theorem passes_rightUnique : Relator.RightUnique Passes := by
  intro position next other hpasses hother
  cases hpasses with
  | character hbare =>
      cases hother with
      | character => rfl
      | field hstart => exact absurd hstart (hbare rfl)
  | field hstart hcloses =>
      cases hother with
      | character hbare => exact absurd hstart (hbare rfl)
      | field _ hotherCloses =>
          obtain ⟨rfl, rfl⟩ := hcloses.unique hotherCloses
          rfl

theorem Passes.text_eq {position next : Position} (hpasses : Passes position next) :
    next.text = position.text := by
  cases hpasses with
  | character => simp [Position.text]
  | field _ hcloses => simp [Position.text, hcloses.text_eq]

theorem Passes.length_lt {position next : Position} (hpasses : Passes position next) :
    position.before.length < next.before.length := by
  cases hpasses <;> simp

theorem Passes.length_rest_lt {position next : Position} (hpasses : Passes position next) :
    next.rest.length < position.rest.length := by
  cases hpasses with
  | character => exact Nat.lt_succ_self _
  | field _ hcloses =>
      simp only [hcloses.text_eq, List.length_cons, List.length_append]
      omega

theorem length_le_of_reaches {position later : Position}
    (hreaches : Relation.ReflTransGen Passes position later) :
    position.before.length ≤ later.before.length := by
  induction hreaches with
  | refl => exact Nat.le_refl _
  | tail _ hpasses ih => exact Nat.le_trans ih (Nat.le_of_lt hpasses.length_lt)

theorem Meets.unique {outside position other : Position} {kind otherKind : Nat → QuoteProblem}
    (hmeets : Meets outside position kind) (hother : Meets outside other otherKind) :
    position = other ∧ kind = otherKind := by
  cases hmeets with
  | bare hstart =>
      cases hother with
      | bare => exact ⟨rfl, rfl⟩
      | continued hopens | unclosed hopens => exact absurd hopens hstart
  | continued hstart hcloses =>
      cases hother with
      | bare hbare => exact absurd hstart hbare
      | continued _ hotherCloses =>
          obtain ⟨rfl, rfl⟩ := hcloses.unique hotherCloses
          exact ⟨rfl, rfl⟩
      | unclosed _ hopen => exact absurd hcloses (hopen _ _)
  | unclosed hstart hopen =>
      cases hother with
      | bare hbare => exact absurd hstart hbare
      | continued _ hcloses => exact absurd hcloses (hopen _ _)
      | unclosed => exact ⟨rfl, rfl⟩

/-- What is misplaced is a quote of the text. -/
theorem Meets.exists_quote {outside position : Position} {kind : Nat → QuoteProblem}
    (hmeets : Meets outside position kind) :
    ∃ rest, position.rest = '"' :: rest ∧ outside.text = position.before ++ '"' :: rest := by
  cases hmeets with
  | bare | unclosed => exact ⟨_, rfl, rfl⟩
  | continued _ hcloses => exact ⟨_, rfl, by simp [Position.text, hcloses.text_eq]⟩

theorem Meets.length_le {outside position : Position} {kind : Nat → QuoteProblem}
    (hmeets : Meets outside position kind) :
    outside.before.length ≤ position.before.length := by
  cases hmeets <;> simp

/-- A misplaced quote comes before the next position outside quoted fields. -/
theorem Meets.length_lt_of_passes {outside position next : Position}
    {kind : Nat → QuoteProblem} (hmeets : Meets outside position kind)
    (hpasses : Passes outside next) : position.before.length < next.before.length := by
  cases hmeets with
  | bare | unclosed => exact hpasses.length_lt
  | continued hstart hcloses =>
      obtain rfl := passes_rightUnique hpasses (.field hstart hcloses)
      simp

/-- What is met at one position is before all that is met at later ones. -/
theorem Meets.eq_or_length_lt {outside later position other : Position}
    {kind otherKind : Nat → QuoteProblem} (hmeets : Meets outside position kind)
    (hreaches : Relation.ReflTransGen Passes outside later) (hlater : Meets later other otherKind) :
    (position = other ∧ kind = otherKind) ∨ position.before.length < other.before.length := by
  rcases hreaches.cases_head with rfl | ⟨next, hpasses, hrest⟩
  · exact .inl (hmeets.unique hlater)
  · right
    calc position.before.length
        < next.before.length := hmeets.length_lt_of_passes hpasses
      _ ≤ later.before.length := length_le_of_reaches hrest
      _ ≤ other.before.length := hlater.length_le

theorem Meets.isFirstProblem {outside position : Position} {kind : Nat → QuoteProblem}
    (hmeets : Meets outside position kind) : IsFirstProblem outside (kind position.line) := by
  obtain ⟨rest, hquote, htext⟩ := hmeets.exists_quote
  obtain ⟨before, _⟩ := position
  obtain rfl := hquote
  refine ⟨before, rest, kind, htext, ⟨outside, .refl, hmeets⟩, ?_, rfl⟩
  rintro other otherKind ⟨later, hreaches, hlater⟩
  rcases hmeets.eq_or_length_lt hreaches hlater with ⟨rfl, _⟩ | hlt
  · exact Nat.le_refl _
  · exact Nat.le_of_lt hlt

/-- Two misplaced quotes with equally much in front of them are one. -/
theorem IsMisplaced.unique {start position other : Position}
    {kind otherKind : Nat → QuoteProblem} (hmisplaced : IsMisplaced start position kind)
    (hother : IsMisplaced start other otherKind)
    (hlength : position.before.length = other.before.length) :
    position = other ∧ kind = otherKind := by
  obtain ⟨outside, hreaches, hmeets⟩ := hmisplaced
  obtain ⟨otherOutside, hotherReaches, hotherMeets⟩ := hother
  -- of two positions outside quoted fields one is reached from the other
  rcases hreaches.total_of_right_unique passes_rightUnique hotherReaches with hlater | hlater
  · rcases hmeets.eq_or_length_lt hlater hotherMeets with hsame | hlt
    · exact hsame
    · exact absurd hlength (Nat.ne_of_lt hlt)
  · rcases hotherMeets.eq_or_length_lt hlater hmeets with ⟨rfl, rfl⟩ | hlt
    · exact ⟨rfl, rfl⟩
    · exact absurd hlength (Nat.ne_of_gt hlt)

theorem IsFirstProblem.unique {start : Position} {problem other : QuoteProblem}
    (hproblem : IsFirstProblem start problem) (hother : IsFirstProblem start other) :
    problem = other := by
  obtain ⟨before, rest, kind, _, hmisplaced, hfirst, rfl⟩ := hproblem
  obtain ⟨otherBefore, otherRest, otherKind, _, hotherMisplaced, hotherFirst, rfl⟩ := hother
  have hlength : before.length = otherBefore.length :=
    Nat.le_antisymm (hfirst _ _ hotherMisplaced) (hotherFirst _ _ hmisplaced)
  obtain ⟨hposition, rfl⟩ := hmisplaced.unique hotherMisplaced hlength
  obtain rfl := congrArg Position.before hposition
  rfl

/-! ## Scanning on -/

/-- Where nothing is wrong at a position, what is misplaced is found from the next one on. -/
theorem isMisplaced_iff_of_passes {start next : Position} (hpasses : Passes start next)
    (hnone : ∀ position kind, ¬ Meets start position kind) (position : Position)
    (kind : Nat → QuoteProblem) :
    IsMisplaced start position kind ↔ IsMisplaced next position kind := by
  constructor
  · rintro ⟨outside, hreaches, hmeets⟩
    rcases hreaches.cases_head with rfl | ⟨other, hother, hrest⟩
    · exact absurd hmeets (hnone position kind)
    · obtain rfl := passes_rightUnique hpasses hother
      exact ⟨outside, hrest, hmeets⟩
  · rintro ⟨outside, hreaches, hmeets⟩
    exact ⟨outside, hreaches.head hpasses, hmeets⟩

/-- At any position the text ends, a misplaced quote is met, or there is a way on and nothing
wrong. -/
theorem Position.ends_or_meets_or_passes (position : Position) :
    position.rest = [] ∨ (∃ misplaced kind, Meets position misplaced kind) ∨
      ∃ next, Passes position next ∧ ∀ misplaced kind, ¬ Meets position misplaced kind := by
  by_cases hmeets : ∃ misplaced kind, Meets position misplaced kind
  · exact .inr (.inl hmeets)
  have hnone : ∀ misplaced kind, ¬ Meets position misplaced kind := by simpa using hmeets
  obtain ⟨before, rest⟩ := position
  cases rest with
  | nil => exact .inl rfl
  | cons c rest =>
      refine .inr (.inr ?_)
      by_cases hopens : c = '"' ∧ StartsField before
      · obtain ⟨rfl, hstart⟩ := hopens
        by_cases hopen : ∀ inner later, ¬ ClosesField rest inner later
        · exact absurd (.unclosed hstart hopen) (hnone _ _)
        · simp only [not_forall, not_not] at hopen
          obtain ⟨inner, later, hcloses⟩ := hopen
          exact ⟨_, .field hstart hcloses, hnone⟩
      · exact ⟨_, .character (not_and.mp hopens), hnone⟩

/-! ## The check -/

/-- Where the check stands behind a text that ends outside quoted fields. -/
def placeBehind (before : List Char) : QuotePlace :=
  if StartsField before then .fieldStart else .outside

/-- The check from a position outside quoted fields on. -/
def Position.check (position : Position) : Except QuoteProblem Unit :=
  checkQuotesFrom (placeBehind position.before) position.line position.rest

theorem check_end (before : List Char) : (⟨before, []⟩ : Position).check = .ok () := by
  rw [Position.check, placeBehind]
  split <;> rfl

theorem checkQuotesFrom_closed {rest inner later : List Char}
    (hcloses : ClosesField rest inner later) (openedOn line : Nat) :
    checkQuotesFrom (.inside openedOn) line rest =
      if mayFollowQuote later then checkQuotesFrom .outside (line + inner.count '\n') later
      else .error (.stray (line + inner.count '\n')) := by
  obtain ⟨rfl, ⟨field, rfl⟩, hsingle⟩ := hcloses
  rw [checkQuotesFrom_doubled, checkQuotesFrom]
  rintro others rfl
  exact hsingle rfl

theorem checkQuotesFrom_unclosed {rest : List Char}
    (hopen : ∀ inner later, ¬ ClosesField rest inner later) (openedOn line : Nat) :
    checkQuotesFrom (.inside openedOn) line rest = .error (.neverClosed openedOn) := by
  obtain ⟨field, rfl⟩ := exists_field_of_not_closes hopen
  rw [← List.append_nil (field.flatMap doubled), checkQuotesFrom_doubled, checkQuotesFrom]

theorem placeBehind_ne_inside (before : List Char) (openedOn : Nat) :
    placeBehind before ≠ .inside openedOn := by
  rw [placeBehind]
  split <;> simp

theorem check_character (before rest : List Char) {c : Char} (hquote : c ≠ '"') :
    (⟨before, c :: rest⟩ : Position).check = (⟨before ++ [c], rest⟩ : Position).check := by
  have hline : (⟨before ++ [c], rest⟩ : Position).line =
      (⟨before, c :: rest⟩ : Position).line + [c].count '\n' := by
    simp [Position.line, Nat.add_assoc]
  rw [Position.check, checkQuotesFrom_character (placeBehind_ne_inside before) _ hquote,
    Position.check, hline, placeBehind]
  simp only [startsField_concat]
  by_cases hcomma : c = ','
  · subst hcomma
    rfl
  · by_cases hfeed : c = '\n'
    · subst hfeed
      rfl
    · simp [hcomma, hfeed]

/-- At the start of a field a quote opens a quoted field. -/
theorem check_opening {before : List Char} (hstart : StartsField before) (rest : List Char) :
    (⟨before, '"' :: rest⟩ : Position).check =
      checkQuotesFrom (.inside (1 + before.count '\n')) (1 + before.count '\n') rest := by
  rw [Position.check, placeBehind, if_pos hstart]
  rfl

theorem check_bare {before : List Char} (hstart : ¬ StartsField before) (rest : List Char) :
    (⟨before, '"' :: rest⟩ : Position).check = .error (.stray (1 + before.count '\n')) := by
  rw [Position.check, placeBehind, if_neg hstart]
  rfl

theorem mayFollowQuote_eq_false_iff {later : List Char} :
    mayFollowQuote later = false ↔ ∃ c ∈ later.head?, c ≠ ',' ∧ c ≠ '\r' ∧ c ≠ '\n' := by
  cases later <;> simp [mayFollowQuote, and_assoc]

theorem Meets.check_eq {outside position : Position} {kind : Nat → QuoteProblem}
    (hmeets : Meets outside position kind) :
    outside.check = .error (kind position.line) := by
  cases hmeets with
  | bare hstart => exact check_bare hstart _
  | continued hstart hcloses hnext =>
      have hnext := mayFollowQuote_eq_false_iff.mpr hnext
      rw [check_opening hstart, checkQuotesFrom_closed hcloses, if_neg (by simp [hnext])]
      simp [Position.line, Nat.add_assoc]
  | unclosed hstart hopen =>
      rw [check_opening hstart, checkQuotesFrom_unclosed hopen]
      rfl

theorem Passes.check_eq {position next : Position} (hpasses : Passes position next)
    (hnone : ∀ misplaced kind, ¬ Meets position misplaced kind) :
    position.check = next.check := by
  cases hpasses with
  | @character before c rest hbare =>
      by_cases hquote : c = '"'
      · subst hquote
        exact absurd (Meets.bare (hbare rfl)) (hnone _ _)
      · exact check_character before rest hquote
  | @field before rest inner later hstart hcloses =>
      have hnext : mayFollowQuote later = true := by
        rw [← Bool.not_eq_false, mayFollowQuote_eq_false_iff]
        exact fun hnext => hnone _ _ (.continued hstart hcloses hnext)
      have hinside : ¬ StartsField (before ++ '"' :: inner ++ ['"']) := by
        rw [startsField_concat]
        decide
      rw [check_opening hstart, checkQuotesFrom_closed hcloses, if_pos hnext, Position.check,
        placeBehind, if_neg hinside]
      simp [Position.line, Nat.add_assoc]

/-! ## The reported problem -/

/-- What the check should say of a text from a position on. -/
def IsVerdict (start : Position) : Except QuoteProblem Unit → Prop
  | .ok _ => ∀ position kind, ¬ IsMisplaced start position kind
  | .error problem => IsFirstProblem start problem

theorem IsVerdict.of_passes {start next : Position} {verdict : Except QuoteProblem Unit}
    (hverdict : IsVerdict next verdict) (hpasses : Passes start next)
    (hnone : ∀ position kind, ¬ Meets start position kind) : IsVerdict start verdict := by
  have hsame := isMisplaced_iff_of_passes hpasses hnone
  cases verdict with
  | ok _ => exact fun position kind hmisplaced => hverdict _ _ ((hsame _ _).mp hmisplaced)
  | error problem =>
      obtain ⟨before, rest, kind, htext, hmisplaced, hfirst, hproblem⟩ := hverdict
      exact ⟨before, rest, kind, hpasses.text_eq ▸ htext, (hsame _ _).mpr hmisplaced,
        fun other otherKind hother => hfirst _ _ ((hsame _ _).mp hother), hproblem⟩

/-- The check says what it should from any position on.  The scan that it follows leaves less of
the text with each step. -/
theorem isVerdict_check (start : Position) : IsVerdict start start.check := by
  rcases start.ends_or_meets_or_passes with hend | ⟨_, _, hmeets⟩ | ⟨next, hpasses, hnone⟩
  · obtain ⟨before, _⟩ := start
    obtain rfl := hend
    rw [check_end]
    -- at the end there is nothing to go over and nothing to meet
    rintro position kind ⟨outside, hreaches, hmeets⟩
    rcases hreaches.cases_head with rfl | ⟨next, hpasses, _⟩
    · cases hmeets
    · cases hpasses
  · rw [hmeets.check_eq]
    exact hmeets.isFirstProblem
  · rw [hpasses.check_eq hnone]
    exact (isVerdict_check next).of_passes hpasses hnone
termination_by start.rest.length
decreasing_by exact hpasses.length_rest_lt

theorem isVerdict_checkQuotes (text : List Char) : IsVerdict (.start text) (checkQuotes text) :=
  isVerdict_check (.start text)

/-- A text is accepted exactly if no quote in it is misplaced. -/
theorem checkQuotes_eq_ok_iff_not_misplaced {text : List Char} :
    checkQuotes text = .ok () ↔ ∀ position kind, ¬ IsMisplaced (.start text) position kind := by
  have hverdict := isVerdict_checkQuotes text
  cases hcheck : checkQuotes text with
  | ok _ =>
      rw [hcheck] at hverdict
      exact iff_of_true rfl hverdict
  | error problem =>
      rw [hcheck] at hverdict
      obtain ⟨_, _, _, _, hmisplaced, _⟩ := hverdict
      exact iff_of_false (by simp) fun hnone => hnone _ _ hmisplaced

/-- **The first problem is the one that is reported.**  A text is refused for a problem exactly
if it is that of its first misplaced quote, on the line of this quote. -/
theorem checkQuotes_eq_error_iff {text : List Char} {problem : QuoteProblem} :
    checkQuotes text = .error problem ↔ IsFirstProblem (.start text) problem := by
  have hverdict := isVerdict_checkQuotes text
  constructor
  · intro hcheck
    rw [hcheck] at hverdict
    exact hverdict
  · intro hproblem
    cases hcheck : checkQuotes text with
    | ok _ =>
        rw [hcheck] at hverdict
        obtain ⟨_, _, _, _, hmisplaced, _⟩ := hproblem
        exact absurd hmisplaced (hverdict _ _)
    | error found =>
        rw [hcheck] at hverdict
        rw [hverdict.unique hproblem]

/-- Line feeds in a quoted field count once, and of two misplaced quotes on a line the first is
reported. -/
example : checkQuotes "a,\"b\n\"\"c\n\"\n\"d\"e\"".toList = .error (.stray 4) := rfl

end ResultBoards.Csv
