import Mathlib.Data.List.Forall2
import ResultBoards.Json.Reader
import ResultBoards.Proofs.Json.Lexical

/-!
# Written values read back

`ReadsAs bound reader value result` says that a reader, given the written form of a
value with anything behind it that does not go on with a number, gives `result` and
leaves what is behind.  The two loops over the parts of a value carry this from the
parts to the whole: `readElements_written` for arrays and `readMembers_written` for
objects.  Every decoder is one of these loops around readers of parts, so a round trip
through the text of a type needs no induction over characters any more.

The loop over members is stated for any spacing, because a store file spreads its
members over lines while everything else is written without blanks.
-/

namespace ResultBoards.Json

/-! ## Blanks and first characters -/

/-- A text of blanks only. -/
def IsGap (gap : List Char) : Prop :=
  ∀ c ∈ gap, isBlank c = true

theorem isGap_nil : IsGap [] := by
  simp [IsGap]

/-- A text that starts the way a value does. -/
def StartsValue (text : List Char) : Prop :=
  ∃ c rest, text = c :: rest ∧ isBlank c = false ∧ c ≠ ']'

theorem startsValue_cons {c : Char} (rest : List Char) (hblank : isBlank c = false)
    (hbracket : c ≠ ']') : StartsValue (c :: rest) :=
  ⟨c, rest, rfl, hblank, hbracket⟩

theorem dropBlank_gap {gap : List Char} (hgap : IsGap gap) (text : List Char) :
    dropBlank (gap ++ text) = dropBlank text := by
  induction gap with
  | nil => rfl
  | cons c gap ih =>
      have hblank : isBlank c = true := hgap c List.mem_cons_self
      have hrest : IsGap gap := fun d hd => hgap d (List.mem_cons_of_mem _ hd)
      simpa [dropBlank, hblank] using ih hrest

@[simp] theorem dropBlank_cons {c : Char} (rest : List Char) (hblank : isBlank c = false) :
    dropBlank (c :: rest) = c :: rest := by
  simp [dropBlank, hblank]

theorem dropBlank_startsValue {text : List Char} (hstarts : StartsValue text)
    (rest : List Char) : dropBlank (text ++ rest) = text ++ rest := by
  obtain ⟨c, tail, rfl, hblank, _⟩ := hstarts
  exact dropBlank_cons _ hblank

/-! ## Readers of written values -/

/-- A reader gives `result` for the written form of a value, wherever that stands in a
text of fewer than `bound` characters. -/
structure ReadsAs {α : Type} (bound : Nat) (reader : Reader α) (value : Value) (result : α) :
    Prop where
  starts : StartsValue value.write
  reads : ∀ {gap rest : List Char}, IsGap gap → Separate rest →
    (value.write ++ rest).length < bound →
      reader (gap ++ (value.write ++ rest)) = .ok (result, rest)

/-! ## Elements -/

theorem nextElement_bracket (position : Nat) (rest : List Char) :
    nextElement position (']' :: rest) = .ok (none, ']' :: rest) := by
  simp [nextElement, dropBlank_cons (c := ']') rest (by decide)]

theorem nextElement_first {text : List Char} (hstarts : StartsValue text) (rest : List Char) :
    nextElement 0 (text ++ rest) = .ok (some (text ++ rest), []) := by
  rw [nextElement, dropBlank_startsValue hstarts]
  obtain ⟨c, tail, rfl, _, hbracket⟩ := hstarts
  simp

theorem nextElement_comma {position : Nat} (hposition : position ≠ 0) {text : List Char}
    (hstarts : StartsValue text) (rest : List Char) :
    nextElement position (',' :: (text ++ rest)) = .ok (some (text ++ rest), []) := by
  obtain ⟨c, tail, rfl, hblank, hbracket⟩ := hstarts
  rw [nextElement, dropBlank_cons _ (by decide)]
  show (if position = 0 then _ else if ',' = ',' then _ else _) = _
  rw [if_neg hposition, if_pos rfl, List.cons_append, dropBlank_cons _ hblank]
  split
  · contradiction
  · rename_i heq
    exact absurd (List.cons.inj heq).1 hbracket
  · rfl

/-- The text behind the first element of an array. -/
def furtherElements (values : List Value) (rest : List Char) : List Char :=
  values.flatMap (fun value => ',' :: value.write) ++ ']' :: rest

theorem furtherElements_cons (value : Value) (values : List Value) (rest : List Char) :
    furtherElements (value :: values) rest =
      ',' :: (value.write ++ furtherElements values rest) := by
  simp [furtherElements]

theorem writeElements_cons (value : Value) (values : List Value) (rest : List Char) :
    writeElements (value :: values) ++ ']' :: rest =
      value.write ++ furtherElements values rest := by
  induction values generalizing value with
  | nil => simp [writeElements, furtherElements]
  | cons next values ih => simp [writeElements, ih, furtherElements_cons]

theorem separate_furtherElements (values : List Value) (rest : List Char) :
    Separate (furtherElements values rest) := by
  cases values with
  | nil => exact separate_bracket rest
  | cons => exact separate_comma _

/-- The loop over the elements moves past an element that is written next. -/
theorem readElements_step {α : Type} {bound position steps : Nat} {element : Reader α}
    {value : Value} {result : α} {read : List α} {text rest : List Char}
    (hnext : nextElement position text = .ok (some (value.write ++ rest), []))
    (hvalue : ReadsAs bound element value result) (hrest : Separate rest)
    (hbound : (value.write ++ rest).length < bound) :
    readElements element (steps + 1) position read text =
      readElements element steps (position + 1) (result :: read) rest := by
  have hread : element (value.write ++ rest) = .ok (result, rest) :=
    hvalue.reads isGap_nil hrest hbound
  rw [readElements, readElement, hnext]
  simp only [hread, atStep]

/-- The elements behind the first one are read up to the closing bracket. -/
theorem readElements_further {α : Type} {bound : Nat} {element : Reader α}
    {values : List Value} {results : List α}
    (hreads : List.Forall₂ (ReadsAs bound element) values results) {steps position : Nat}
    {read : List α} {rest : List Char} (hposition : position ≠ 0)
    (hsteps : (furtherElements values rest).length ≤ steps)
    (hbound : (furtherElements values rest).length < bound) :
    readElements element steps position read (furtherElements values rest) =
      .ok (read.reverse ++ results, ']' :: rest) := by
  induction hreads generalizing steps position read with
  | nil =>
      obtain ⟨steps, rfl⟩ := Nat.exists_eq_add_of_lt (Nat.zero_lt_of_lt hsteps)
      simp [readElements, readElement, furtherElements, nextElement_bracket, atStep]
  | @cons value result values results hvalue _ ih =>
      -- one step is taken for each element, and each takes a comma at least
      obtain ⟨steps, rfl⟩ := Nat.exists_eq_add_of_lt (Nat.zero_lt_of_lt hsteps)
      rw [furtherElements_cons] at hsteps hbound ⊢
      simp only [List.length_cons, List.length_append] at hsteps hbound
      rw [Nat.zero_add, readElements_step (nextElement_comma hposition hvalue.starts _) hvalue
        (separate_furtherElements values rest) (by rw [List.length_append]; omega),
        ih (Nat.succ_ne_zero _) (by omega) (by omega)]
      simp

/-- The elements of an array are read up to the closing bracket. -/
theorem readElements_written {α : Type} {bound : Nat} {element : Reader α}
    {values : List Value} {results : List α}
    (hreads : List.Forall₂ (ReadsAs bound element) values results) {rest : List Char}
    (hbound : (writeElements values ++ ']' :: rest).length < bound) :
    readElements element bound 0 [] (writeElements values ++ ']' :: rest) =
      .ok (results, ']' :: rest) := by
  obtain ⟨steps, rfl⟩ := Nat.exists_eq_succ_of_ne_zero (Nat.ne_zero_of_lt hbound)
  cases hreads with
  | nil => simp [writeElements, readElements, readElement, nextElement_bracket, atStep]
  | @cons value _ values _ hvalue hvalues =>
      rw [writeElements_cons] at hbound ⊢
      rw [readElements_step (nextElement_first hvalue.starts _) hvalue
        (separate_furtherElements values rest) hbound]
      rw [List.length_append] at hbound
      rw [readElements_further hvalues (Nat.succ_ne_zero _) (by omega) (by omega)]
      rfl

theorem closeArray_bracket (rest : List Char) : closeArray (']' :: rest) = .ok rest := by
  rw [closeArray, dropBlank_cons _ (by decide)]
  rfl

/-! ## Members -/

/-- Where blanks stand in the written form of an object: before a name, after its colon,
and before the closing brace. -/
structure Spacing where
  indent : List Char
  gap : List Char
  closing : List Char
  isGap_indent : IsGap indent
  isGap_gap : IsGap gap
  isGap_closing : IsGap closing

namespace Spacing

/-- No blanks at all. -/
def compact : Spacing := ⟨[], [], [], isGap_nil, isGap_nil, isGap_nil⟩

/-- A member with its blanks. -/
def writeMember (spacing : Spacing) (member : String × Value) : List Char :=
  spacing.indent ++ writeString member.1 ++ ':' :: (spacing.gap ++ member.2.write)

/-- The text behind the first member of an object. -/
def furtherMembers (spacing : Spacing) (members : List (String × Value)) (rest : List Char) :
    List Char :=
  members.flatMap (fun member => ',' :: spacing.writeMember member) ++
    (spacing.closing ++ '\x7d' :: rest)

/-- The text behind the opening brace of an object. -/
def objectText (spacing : Spacing) (rest : List Char) : List (String × Value) → List Char
  | [] => spacing.closing ++ '\x7d' :: rest
  | member :: members => spacing.writeMember member ++ spacing.furtherMembers members rest

theorem objectText_cons (spacing : Spacing) (name : String) (value : Value)
    (members : List (String × Value)) (rest : List Char) :
    spacing.objectText rest ((name, value) :: members) =
      spacing.indent ++ '"' :: (name.toList.flatMap escapedChar ++
        '"' :: ':' :: (spacing.gap ++ (value.write ++ spacing.furtherMembers members rest))) := by
  simp [objectText, writeMember, writeString]

theorem furtherMembers_cons (spacing : Spacing) (member : String × Value)
    (members : List (String × Value)) (rest : List Char) :
    spacing.furtherMembers (member :: members) rest =
      ',' :: spacing.objectText rest (member :: members) := by
  simp [furtherMembers, objectText]

theorem objectText_compact (members : List (String × Value)) (rest : List Char) :
    compact.objectText rest members = writeMembers members ++ '\x7d' :: rest := by
  induction members with
  | nil => rfl
  | cons member members ih =>
      cases members with
      | nil => simp [objectText, furtherMembers, writeMember, compact, writeMembers]
      | cons next members =>
          rw [objectText, furtherMembers_cons, ih]
          simp [writeMember, compact, writeMembers]

end Spacing

/-- Reading members one after the other takes what has been gathered to what is gathered
in the end. -/
inductive MembersRead {σ : Type} (bound : Nat) (member : σ → String → Except Problem (Reader σ)) :
    σ → List (String × Value) → σ → Prop
  | nil (gathered : σ) : MembersRead bound member gathered [] gathered
  | cons {gathered next final : σ} {name : String} {value : Value} {read : Reader σ}
      {members : List (String × Value)} (hmember : member gathered name = .ok read)
      (hread : ReadsAs bound read value next)
      (hrest : MembersRead bound member next members final) :
      MembersRead bound member gathered ((name, value) :: members) final

theorem nextMember_brace (first : Bool) {closing : List Char} (hclosing : IsGap closing)
    (rest : List Char) : nextMember first (closing ++ '\x7d' :: rest) = .ok (none, rest) := by
  rw [nextMember, dropBlank_gap hclosing, dropBlank_cons _ (by decide)]
  rfl

theorem nextMember_first {indent : List Char} (hindent : IsGap indent) (name : List Char) :
    nextMember true (indent ++ '"' :: name) = .ok (some name, []) := by
  rw [nextMember, dropBlank_gap hindent, dropBlank_cons _ (by decide)]
  rfl

theorem nextMember_comma {indent : List Char} (hindent : IsGap indent) (name : List Char) :
    nextMember false (',' :: (indent ++ '"' :: name)) = .ok (some name, []) := by
  rw [nextMember, dropBlank_cons _ (by decide)]
  show (if false then _ else if ',' = ',' then _ else _) = _
  rw [if_neg (by decide), if_pos rfl, dropBlank_gap hindent, dropBlank_cons _ (by decide)]
  rfl

theorem separate_gap {gap : List Char} (hgap : IsGap gap) {text : List Char}
    (htext : Separate text) : Separate (gap ++ text) := by
  cases gap with
  | nil => exact htext
  | cons c gap =>
      have hblank : isBlank c = true := hgap c List.mem_cons_self
      simp only [isBlank, Bool.or_eq_true, beq_iff_eq] at hblank
      rcases hblank with ((rfl | rfl) | rfl) | rfl <;>
        exact separate_cons (by decide) (by decide) (by decide) (by decide)

theorem separate_furtherMembers (spacing : Spacing) (members : List (String × Value))
    (rest : List Char) : Separate (spacing.furtherMembers members rest) := by
  cases members with
  | nil => exact separate_gap spacing.isGap_closing (separate_brace rest)
  | cons => exact separate_comma _

/-- The loop over the members moves past a member that is written next. -/
theorem readMembers_step {σ : Type} {bound steps : Nat}
    {member : σ → String → Except Problem (Reader σ)} {first : Bool} {gathered next : σ}
    {name : String} {value : Value} {read : Reader σ} {gap text rest : List Char}
    (hnext : nextMember first text =
      .ok (some (name.toList.flatMap escapedChar ++
        '"' :: ':' :: (gap ++ (value.write ++ rest))), []))
    (hmember : member gathered name = .ok read) (hread : ReadsAs bound read value next)
    (hgap : IsGap gap) (hrest : Separate rest)
    (hsteps : (writeString name ++ ':' :: (gap ++ (value.write ++ rest))).length ≤ steps)
    (hbound : (value.write ++ rest).length < bound) :
    readMembers member (steps + 1) first gathered text =
      readMembers member steps false next rest := by
  have hname := readChars_writeString name (':' :: (gap ++ (value.write ++ rest)))
    (Nat.lt_succ_of_le hsteps)
  have hcolon : readColon (':' :: (gap ++ (value.write ++ rest))) =
      .ok (gap ++ (value.write ++ rest)) := by
    rw [readColon, dropBlank_cons _ (by decide)]
    rfl
  rw [readMembers, hnext]
  simp only [hname, hmember, hcolon, hread.reads hgap hrest hbound, atStep]

/-- The members behind the first one are read up to and including the closing brace. -/
theorem readMembers_further {σ : Type} {bound : Nat}
    {member : σ → String → Except Problem (Reader σ)} {gathered final : σ}
    {members : List (String × Value)} (hmembers : MembersRead bound member gathered members final)
    (spacing : Spacing) {steps : Nat} {rest : List Char}
    (hsteps : (spacing.furtherMembers members rest).length ≤ steps)
    (hbound : (spacing.furtherMembers members rest).length < bound) :
    readMembers member steps false gathered (spacing.furtherMembers members rest) =
      .ok (final, rest) := by
  induction hmembers generalizing steps with
  | nil gathered =>
      obtain ⟨steps, rfl⟩ : ∃ fewer, steps = fewer + 1 := by
        refine ⟨steps - 1, ?_⟩
        simp only [Spacing.furtherMembers, List.length_append, List.length_cons] at hsteps
        omega
      simp only [Spacing.furtherMembers, List.flatMap_nil, List.nil_append]
      rw [readMembers, nextMember_brace false spacing.isGap_closing]
  | @cons gathered next final name value read members hmember hread _ ih =>
      rw [Spacing.furtherMembers_cons, Spacing.objectText_cons] at hsteps hbound ⊢
      simp only [List.length_cons, List.length_append] at hsteps hbound
      obtain ⟨steps, rfl⟩ : ∃ fewer, steps = fewer + 1 := ⟨steps - 1, by omega⟩
      rw [readMembers_step (nextMember_comma spacing.isGap_indent _) hmember hread
        spacing.isGap_gap (separate_furtherMembers spacing members rest)
        (by simp only [writeString, List.length_append, List.length_cons, List.length_nil]; omega)
        (by rw [List.length_append]; omega),
        ih (by omega) (by omega)]

/-- The members of an object are read up to and including the closing brace. -/
theorem readMembers_written {σ : Type} {bound : Nat}
    {member : σ → String → Except Problem (Reader σ)} {gathered : σ} (final : σ)
    {members : List (String × Value)} (hmembers : MembersRead bound member gathered members final)
    (spacing : Spacing) {rest : List Char}
    (hbound : (spacing.objectText rest members).length < bound) :
    readMembers member bound true gathered (spacing.objectText rest members) =
      .ok (final, rest) := by
  obtain ⟨steps, rfl⟩ := Nat.exists_eq_succ_of_ne_zero (Nat.ne_zero_of_lt hbound)
  cases hmembers with
  | nil => rw [Spacing.objectText, readMembers, nextMember_brace true spacing.isGap_closing]
  | @cons _ next _ name value read members hmember hread hmembers =>
      rw [Spacing.objectText_cons] at hbound ⊢
      simp only [List.length_cons, List.length_append] at hbound
      rw [readMembers_step (nextMember_first spacing.isGap_indent _) hmember hread
        spacing.isGap_gap (separate_furtherMembers spacing members rest)
        (by simp only [writeString, List.length_append, List.length_cons, List.length_nil]; omega)
        (by rw [List.length_append]; omega),
        readMembers_further hmembers spacing (by omega) (by omega)]

/-- Where all members are read the same way, what has been gathered is a function of the
members before. -/
theorem membersRead_all {σ β : Type} {bound : Nat} {read : Reader β}
    {member : σ → String → Except Problem (Reader σ)} {items : List (String × β)}
    (toValue : β → Value) (gathered : List (String × β) → σ)
    (hmember : ∀ item ∈ items, ∀ before, ∃ reader,
      member (gathered before) item.1 = .ok reader ∧
        ∀ text value rest, read text = .ok (value, rest) →
          reader text = .ok (gathered (before ++ [(item.1, value)]), rest))
    (hreads : ∀ item ∈ items, ReadsAs bound read (toValue item.2) item.2)
    (before : List (String × β)) :
    MembersRead bound member (gathered before) (items.map fun item => (item.1, toValue item.2))
      (gathered (before ++ items)) := by
  induction items generalizing before with
  | nil =>
      rw [List.append_nil]
      exact .nil _
  | cons item items ih =>
      obtain ⟨reader, hreader, hput⟩ := hmember item List.mem_cons_self before
      have hitem := hreads item List.mem_cons_self
      have hothers := ih (fun other hother => hmember other (List.mem_cons_of_mem _ hother))
        (fun other hother => hreads other (List.mem_cons_of_mem _ hother)) (before ++ [item])
      rw [List.append_assoc, List.singleton_append] at hothers
      exact .cons hreader
        ⟨hitem.starts, fun hgap hrest hbound => hput _ _ _ (hitem.reads hgap hrest hbound)⟩ hothers

/-- Members whose values are kept as they are. -/
theorem membersRead_values {σ : Type} {bound : Nat} {read : Reader Value}
    {member : σ → String → Except Problem (Reader σ)} {members : List (String × Value)}
    (gathered : List (String × Value) → σ)
    (hmember : ∀ item ∈ members, ∀ before, ∃ reader,
      member (gathered before) item.1 = .ok reader ∧
        ∀ text value rest, read text = .ok (value, rest) →
          reader text = .ok (gathered (before ++ [(item.1, value)]), rest))
    (hreads : ∀ item ∈ members, ReadsAs bound read item.2 item.2) :
    MembersRead bound member (gathered []) members (gathered members) := by
  simpa using membersRead_all id gathered hmember hreads []

/-! ## Whole values -/

/-- A value nested at most so deep whose numbers are integers of 64 bits.  Such a value
has one written form only, and reading takes that back to it. -/
inductive Fits : Nat → Value → Prop
  | null {depth : Nat} : Fits depth .null
  | bool {depth : Nat} (value : Bool) : Fits depth (.bool value)
  | integer {depth : Nat} {value : Int} (hlow : -0x8000000000000000 ≤ value)
      (hhigh : value ≤ wordLimit) :
      Fits depth (.number (.integer value))
  | string {depth : Nat} (text : String) : Fits depth (.string text)
  | array {depth : Nat} {elements : List Value}
      (helements : ∀ element ∈ elements, Fits depth element) : Fits (depth + 1) (.array elements)
  | object {depth : Nat} {members : List (String × Value)}
      (hmembers : ∀ member ∈ members, Fits depth member.2) : Fits (depth + 1) (.object members)

/-- An integer starts with a sign or a digit. -/
theorem writeInteger_cons (value : Int) :
    ∃ c digits, writeInteger value = c :: digits ∧ (c = '-' ∨ c.isDigit) := by
  cases value with
  | negSucc value => exact ⟨_, _, rfl, .inl rfl⟩
  | ofNat value =>
      cases hdigits : Nat.toDigits 10 value with
      | nil => exact absurd hdigits Nat.toDigits_ne_nil
      | cons c digits =>
          have hmem : c ∈ Nat.toDigits 10 value := hdigits ▸ List.mem_cons_self
          exact ⟨c, digits, hdigits,
            .inr (Nat.isDigit_of_mem_toDigits (by decide) (by decide) hmem)⟩

/-- A value that fits starts the way values do. -/
theorem Fits.starts {depth : Nat} {value : Value} (hfits : Fits depth value) :
    StartsValue value.write := by
  cases hfits with
  | null => exact startsValue_cons _ (by decide) (by decide)
  | bool value => cases value <;> exact startsValue_cons _ (by decide) (by decide)
  | string => exact startsValue_cons _ (by decide) (by decide)
  | array => exact startsValue_cons _ (by decide) (by decide)
  | object => exact startsValue_cons _ (by decide) (by decide)
  | @integer _ value =>
      obtain ⟨c, digits, hdigits, rfl | hdigit⟩ := writeInteger_cons value
      · exact ⟨'-', digits, hdigits, by decide, by decide⟩
      · exact ⟨c, digits, hdigits, isBlank_of_isDigit hdigit, ne_of_isDigit hdigit (by decide)⟩

/-- A value that is no array and no object is left to `readScalar`. -/
theorem readValue_scalar (steps depth : Nat) {gap : List Char} (hgap : IsGap gap) {c : Char}
    (rest : List Char) (hblank : isBlank c = false) (hbracket : c ≠ '[') (hbrace : c ≠ '\x7b') :
    readValue steps depth (gap ++ c :: rest) = readScalar steps (c :: rest) := by
  rw [readValue, dropBlank_gap hgap, dropBlank_cons _ hblank]
  split
  · rename_i heq
    exact absurd (List.cons.inj heq).1 hbracket
  · rename_i heq
    exact absurd (List.cons.inj heq).1 hbrace
  · rfl

/-- An integer of 64 bits is read from its digits. -/
theorem readScalar_integer (steps : Nat) {value : Int} {rest : List Char}
    (hlow : -0x8000000000000000 ≤ value) (hhigh : value ≤ wordLimit) (hrest : Separate rest) :
    readScalar steps (writeInteger value ++ rest) = .ok (.number (.integer value), rest) := by
  cases value with
  | negSucc value =>
      have hfits : value < 0x8000000000000000 := by omega
      have hread := readNumber_negative hfits hrest
      simp [writeInteger, readScalar, hread, Except.map, atHere]
  | ofNat value =>
      have hread := readNumber_natural (Int.ofNat_le.mp hhigh) hrest
      cases hdigits : Nat.toDigits 10 value with
      | nil => exact absurd hdigits Nat.toDigits_ne_nil
      | cons c digits =>
          have hdigit : c.isDigit := Nat.isDigit_of_mem_toDigits (by decide) (by decide)
            (hdigits ▸ List.mem_cons_self : c ∈ Nat.toDigits 10 value)
          have hne : ∀ {d : Char}, d.isDigit = false → c ≠ d := ne_of_isDigit hdigit
          rw [hdigits, List.cons_append] at hread
          rw [writeInteger, hdigits, List.cons_append, readScalar]
          simp [hne, hdigit, hread, Except.map, atHere]

/-- **Written values read back.**  A value that fits in so many levels is read from its
written form. -/
theorem readsAs_readValue {depth : Nat} {value : Value} (hfits : Fits depth value)
    (steps : Nat) : ReadsAs steps (readValue steps depth) value value := by
  refine ⟨hfits.starts, ?_⟩
  induction hfits with
  | null =>
      intro gap rest hgap _ _
      simp only [Value.write, List.cons_append]
      rw [readValue_scalar _ _ hgap _ (by decide) (by decide) (by decide)]
      rfl
  | bool value =>
      intro gap rest hgap _ _
      cases value <;>
      · simp only [Value.write, List.cons_append]
        rw [readValue_scalar _ _ hgap _ (by decide) (by decide) (by decide)]
        rfl
  | @integer _ value hlow hhigh =>
      intro gap rest hgap hrest _
      have hread := readScalar_integer steps hlow hhigh hrest
      simp only [Value.write, Number.write]
      obtain ⟨c, digits, hdigits, rfl | hdigit⟩ := writeInteger_cons value
      · rw [hdigits, List.cons_append] at hread ⊢
        rw [readValue_scalar _ _ hgap _ (by decide) (by decide) (by decide), hread]
      · rw [hdigits, List.cons_append] at hread ⊢
        rw [readValue_scalar _ _ hgap _ (isBlank_of_isDigit hdigit)
          (ne_of_isDigit hdigit (by decide)) (ne_of_isDigit hdigit (by decide)), hread]
  | string text =>
      intro gap rest hgap _ hbound
      simp only [Value.write] at hbound ⊢
      have hread := readChars_writeString text rest hbound
      simp only [writeString, List.cons_append, List.append_assoc, List.nil_append]
      rw [readValue_scalar _ _ hgap _ (by decide) (by decide) (by decide)]
      simp [readScalar, hread, Except.map, atHere]
  | @array depth elements helements ih =>
      intro gap rest hgap _ hbound
      have hreads : List.Forall₂ (ReadsAs steps (readValue steps depth)) elements elements :=
        List.forall₂_same.mpr fun element helement =>
          ⟨(helements element helement).starts, ih element helement⟩
      simp only [Value.write, List.cons_append, List.append_assoc, List.nil_append] at hbound ⊢
      rw [readValue, dropBlank_gap hgap, dropBlank_cons _ (by decide)]
      simp only [readElements_written hreads (Nat.lt_of_succ_lt hbound), closeArray_bracket]
  | @object depth members hmembers ih =>
      intro gap rest hgap _ hbound
      have hreads : ∀ member ∈ members, ReadsAs steps (readValue steps depth) member.2 member.2 :=
        fun member hmember => ⟨(hmembers member hmember).starts, ih member hmember⟩
      simp only [Value.write, List.cons_append, List.append_assoc, List.nil_append] at hbound ⊢
      rw [← Spacing.objectText_compact] at hbound ⊢
      rw [readValue, dropBlank_gap hgap, dropBlank_cons _ (by decide)]
      simp only
      rw [readMembers_written members.reverse ?_ .compact (Nat.lt_of_succ_lt hbound)]
      · simp
      · exact membersRead_values List.reverse
          (fun member _ before => ⟨_, rfl, fun text value rest hread => by simp [hread]⟩) hreads

end ResultBoards.Json
