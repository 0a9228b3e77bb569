import ResultBoards.Proofs.Json.Decoding

/-!
# Two loops over the same members

A decoder goes through the members of an object and decides at each name what to do with its
value.  Where it makes of every value what could be made of it after it was read whole, it finds
in the text what it would find in the list of members: `readMembers_eq_ok_iff_foldlM` compares its
loop with the one that keeps all values.

## Strategy

Both loops share everything but the values, so `readMembers_step_iff` is about one member of any
loop, and the comparison is by induction on the steps.
-/

namespace ResultBoards.Json

/-- Reads a whole value. -/
def Value.decoder : Decoder Value :=
  fun limits => readValue limits.steps limits.depth

/-- A text decodes to what is read from its start, if nothing but blanks is left. -/
theorem Decoder.decode_eq_ok_iff {α : Type} {decoder : Decoder α} {text : String} {value : α} :
    decoder.decode text = .ok value ↔ ∃ rest,
      decoder (.forText (inputOfText text)) (inputOfText text) = .ok (value, rest) ∧
        dropBlank rest = [] := by
  unfold decode
  cases decoder (.forText (inputOfText text)) (inputOfText text) with
  | error failure => simp
  | ok found =>
      obtain ⟨other, rest⟩ := found
      cases hrest : dropBlank rest with
      | nil => simp [hrest]
      | cons c behind => simp [hrest]

/-- Reads a member and puts it in front of those that were kept so far. -/
def keepMember (limits : Limits) (kept : List (String × Value)) (name : String) :
    Except Problem (Reader (List (String × Value))) :=
  .ok fun text =>
    match Value.decoder limits text with
    | .error failure => .error failure
    | .ok (value, rest) => .ok ((name, value) :: kept, rest)

/-! ## What was read -/

/-- The scalars that a text may start with, and what is left behind them. -/
inductive ScalarRead (steps : Nat) : List Char → Value → List Char → Prop
  | null {text rest : List Char} (hword : readWord ['u', 'l', 'l'] text = .ok rest) :
      ScalarRead steps ('n' :: text) .null rest
  | true {text rest : List Char} (hword : readWord ['r', 'u', 'e'] text = .ok rest) :
      ScalarRead steps ('t' :: text) (.bool true) rest
  | false {text rest : List Char} (hword : readWord ['a', 'l', 's', 'e'] text = .ok rest) :
      ScalarRead steps ('f' :: text) (.bool false) rest
  | string {text rest : List Char} {content : String}
      (hchars : readChars steps (some []) text = .ok (content, rest)) :
      ScalarRead steps ('"' :: text) (.string content) rest
  | negative {text rest : List Char} {number : Number}
      (hnumber : readNumber true text = .ok (number, rest)) :
      ScalarRead steps ('-' :: text) (.number number) rest
  | natural {c : Char} {text rest : List Char} {number : Number} (hdigit : c.isDigit)
      (hnumber : readNumber false (c :: text) = .ok (number, rest)) :
      ScalarRead steps (c :: text) (.number number) rest

theorem map_eq_ok_iff {ε α β : Type} {result : Except ε α} {f : α → β} {value : β} :
    result.map f = .ok value ↔ ∃ found, result = .ok found ∧ f found = value := by
  cases result <;> simp [Except.map]

theorem atHere_map_eq_ok {α β : Type} {result : Except Problem α} {f : α → β} {value : β} :
    atHere (result.map f) = .ok value ↔ ∃ found, result = .ok found ∧ f found = value := by
  rw [← map_eq_ok_iff]
  cases result <;> simp [atHere, Except.map]

theorem scalarRead_of_readScalar {steps : Nat} {text rest : List Char} {value : Value}
    (hread : readScalar steps text = .ok (value, rest)) : ScalarRead steps text value rest := by
  cases text with
  | nil => contradiction
  | cons c text =>
      rw [readScalar] at hread
      split_ifs at hread with hnull htrue hfalse hquote hsign hdigit
      · obtain ⟨_, hword, hresult⟩ := atHere_map_eq_ok.mp hread
        cases hresult
        exact hnull ▸ .null hword
      · obtain ⟨_, hword, hresult⟩ := atHere_map_eq_ok.mp hread
        cases hresult
        exact htrue ▸ .true hword
      · obtain ⟨_, hword, hresult⟩ := atHere_map_eq_ok.mp hread
        cases hresult
        exact hfalse ▸ .false hword
      · obtain ⟨_, hchars, hresult⟩ := atHere_map_eq_ok.mp hread
        cases hresult
        exact hquote ▸ .string hchars
      · obtain ⟨_, hnumber, hresult⟩ := atHere_map_eq_ok.mp hread
        cases hresult
        exact hsign ▸ .negative hnumber
      · obtain ⟨_, hnumber, hresult⟩ := atHere_map_eq_ok.mp hread
        cases hresult
        exact .natural hdigit hnumber
      · contradiction

/-- A value is an array, an object or a scalar, and the text says which. -/
inductive ValueRead (limits : Limits) (text : List Char) : Value → List Char → Prop
  | array {elements : List Value} {opened left rest : List Char} {depth : Nat}
      (hopened : dropBlank text = '[' :: opened) (hdepth : limits.depth = depth + 1)
      (helements : readElements (Value.decoder ⟨limits.steps, depth⟩) limits.steps 0 [] opened =
        .ok (elements, left)) (hclosed : closeArray left = .ok rest) :
      ValueRead limits text (.array elements) rest
  | object {members : List (String × Value)} {opened rest : List Char} {depth : Nat}
      (hopened : dropBlank text = '\x7b' :: opened) (hdepth : limits.depth = depth + 1)
      (hmembers : readMembers (keepMember ⟨limits.steps, depth⟩) limits.steps true [] opened =
        .ok (members.reverse, rest)) : ValueRead limits text (.object members) rest
  | scalar {value : Value} {rest : List Char}
      (hscalar : ScalarRead limits.steps (dropBlank text) value rest) :
      ValueRead limits text value rest

theorem valueRead_of_decoder {limits : Limits} {text rest : List Char} {value : Value}
    (hread : Value.decoder limits text = .ok (value, rest)) :
    ValueRead limits text value rest := by
  obtain ⟨steps, depth⟩ := limits
  rw [Value.decoder, readValue] at hread
  split at hread
  · rename_i opened hopened
    cases depth with
    | zero => contradiction
    | succ depth =>
        simp only at hread
        split at hread
        · contradiction
        · rename_i helements
          split at hread
          · contradiction
          · rename_i hclosed
            cases hread
            exact .array hopened rfl helements hclosed
  · rename_i opened hopened
    cases depth with
    | zero => contradiction
    | succ depth =>
        simp only at hread
        split at hread
        · contradiction
        · rename_i kept _ hmembers
          cases hread
          refine .object hopened rfl ?_
          rw [List.reverse_reverse]
          exact hmembers
  · exact .scalar (scalarRead_of_readScalar hread)

theorem ScalarRead.eq_string {steps : Nat} {opened rest : List Char} {value : Value}
    (hscalar : ScalarRead steps ('"' :: opened) value rest) :
    ∃ content, value = .string content ∧
      readChars steps (some []) opened = .ok (content, rest) := by
  cases hscalar with
  | string hchars => exact ⟨_, rfl, hchars⟩
  | natural hdigit => exact absurd hdigit (by decide)

theorem ValueRead.head_of_string {limits : Limits} {text rest : List Char} {content : String}
    (hvalue : ValueRead limits text (.string content) rest) :
    ∃ opened, dropBlank text = '"' :: opened := by
  cases hvalue with
  | scalar hscalar =>
      generalize dropBlank text = start at hscalar
      cases hscalar with
      | string => exact ⟨_, rfl⟩

theorem ValueRead.members_of_object {limits : Limits} {text rest : List Char}
    {members : List (String × Value)} (hvalue : ValueRead limits text (.object members) rest) :
    ∃ opened depth, dropBlank text = '\x7b' :: opened ∧ limits.depth = depth + 1 ∧
      readMembers (keepMember ⟨limits.steps, depth⟩) limits.steps true [] opened =
        .ok (members.reverse, rest) := by
  cases hvalue with
  | object hopened hdepth hmembers => exact ⟨_, _, hopened, hdepth, hmembers⟩
  | scalar hscalar =>
      generalize dropBlank text = start at hscalar
      cases hscalar

/-- On a text that starts with a value, a string is decoded if the value is one that passes the
check. -/
theorem checkedString_eq_ok_iff {α : Type} {expected : String} {check : String → Except Problem α}
    {limits : Limits} {text rest after : List Char} {value : Value} {result : α}
    (hread : Value.decoder limits text = .ok (value, rest)) :
    Decoder.checkedString expected check limits text = .ok (result, after) ↔
      after = rest ∧ ∃ content, value = .string content ∧ check content = .ok result := by
  have hvalue := valueRead_of_decoder hread
  unfold Decoder.checkedString
  split
  · rename_i opened hopened
    obtain ⟨content, rfl, hchars⟩ : ∃ content, value = .string content ∧
        readChars limits.steps (some []) opened = .ok (content, rest) := by
      cases hvalue with
      | array hbracket => simp [hopened] at hbracket
      | object hbrace => simp [hopened] at hbrace
      | scalar hscalar => exact (hopened ▸ hscalar).eq_string
    simp only [hchars]
    cases hcheck : check content with
    | error problem => simp [hcheck]
    | ok checked => simp [hcheck, and_comm, eq_comm]
  · -- the value is no string, because the text does not start with a quote
    rename_i hquote
    refine iff_of_false (fun hmismatch => ?_) ?_
    · exact Decoder.ensures_mismatch expected (fun _ => False) limits hmismatch
    · rintro ⟨_, content, rfl, _⟩
      obtain ⟨opened, hopened⟩ := hvalue.head_of_string
      exact hquote opened hopened

/-! ## One member -/

/-- A text goes on with a member: its name, and the text from its value on. -/
def StartsMember (steps : Nat) (first : Bool) (text : List Char) (name : String)
    (valueText : List Char) : Prop :=
  ∃ opened left behind, nextMember first text = .ok (some opened, left) ∧
    readChars steps (some []) opened = .ok (name, behind) ∧ readColon behind = .ok valueText

section

variable {σ : Type} {member : σ → String → Except Problem (Reader σ)} {first : Bool}
  {gathered final : σ} {steps : Nat} {text after : List Char}

/-- What every loop does with a member. -/
theorem readMembers_step_iff {name : String} {valueText : List Char}
    (hstarts : StartsMember (steps + 1) first text name valueText) :
    readMembers member (steps + 1) first gathered text = .ok (final, after) ↔
      ∃ read next rest, member gathered name = .ok read ∧ read valueText = .ok (next, rest) ∧
        readMembers member steps false next rest = .ok (final, after) := by
  obtain ⟨opened, left, behind, hnext, hname, hcolon⟩ := hstarts
  rw [readMembers, hnext]
  simp only [hname, hcolon]
  cases hmember : member gathered name with
  | error problem => simp
  | ok read =>
      cases hvalue : read valueText with
      | error failure => simp [hvalue, atStep]
      | ok found =>
          obtain ⟨next, rest⟩ := found
          simp [hvalue, atStep]

/-- A loop that succeeds has come to the end, or to a member. -/
theorem ends_or_startsMember
    (hread : readMembers member (steps + 1) first gathered text = .ok (final, after)) :
    (nextMember first text = .ok (none, after) ∧ final = gathered) ∨
      ∃ name valueText, StartsMember (steps + 1) first text name valueText := by
  rw [readMembers] at hread
  split at hread
  · contradiction
  · rename_i hnext
    cases hread
    exact .inl ⟨hnext, rfl⟩
  · rename_i hnext
    split at hread
    · contradiction
    · rename_i hname
      split at hread
      · contradiction
      · refine .inr ?_
        simp only at hread
        split at hread
        · contradiction
        · rename_i hvalue
          rw [atStep_eq_ok] at hvalue
          split at hvalue
          · contradiction
          · rename_i hcolon
            exact ⟨_, _, _, _, _, hnext, hname, hcolon⟩

/-- Where nothing more comes every loop ends with what it has gathered. -/
theorem readMembers_of_end (hend : nextMember first text = .ok (none, after)) :
    readMembers member (steps + 1) first gathered text = .ok (gathered, after) := by
  rw [readMembers, hend]

end

/-! ## All members -/

theorem keepMember_eq_ok_iff {limits : Limits} {kept final : List (String × Value)} {name : String}
    {read : Reader (List (String × Value))} {text rest : List Char}
    (hmember : keepMember limits kept name = .ok read) :
    read text = .ok (final, rest) ↔
      ∃ value, Value.decoder limits text = .ok (value, rest) ∧ final = (name, value) :: kept := by
  cases hmember
  cases hvalue : Value.decoder limits text with
  | error failure => simp [hvalue]
  | ok found =>
      obtain ⟨value, left⟩ := found
      simp [hvalue, and_comm, eq_comm]

/-- A loop over members makes of every value what `consume` makes of it. -/
def Consumes {σ : Type} (limits : Limits) (member : σ → String → Except Problem (Reader σ))
    (consume : σ → String × Value → Option σ) : Prop :=
  ∀ ⦃gathered next : σ⦄ ⦃name : String⦄ ⦃text rest after : List Char⦄ ⦃value : Value⦄,
    Value.decoder limits text = .ok (value, rest) →
      ((∃ read, member gathered name = .ok read ∧ read text = .ok (next, after)) ↔
        after = rest ∧ consume gathered (name, value) = some next)

/-- **Two loops over the same members.**  Where the loop that keeps all values has succeeded, a
loop that makes of every value what `consume` makes of it finds in the text what `consume` finds
in the members. -/
theorem readMembers_eq_ok_iff_foldlM {σ : Type} {limits : Limits}
    {member : σ → String → Except Problem (Reader σ)} {consume : σ → String × Value → Option σ}
    (hconsumes : Consumes limits member consume) {steps : Nat} {first : Bool}
    {before kept : List (String × Value)} {text rest : List Char}
    (hkept : readMembers (keepMember limits) steps first before text = .ok (kept, rest)) :
    ∃ members : List (String × Value), kept = members.reverse ++ before ∧
      ∀ {gathered final : σ} {after : List Char},
        readMembers member steps first gathered text = .ok (final, after) ↔
          after = rest ∧ members.foldlM consume gathered = some final := by
  induction steps generalizing first before text with
  | zero => contradiction
  | succ steps ih =>
      rcases ends_or_startsMember hkept with ⟨hend, rfl⟩ | ⟨name, valueText, hstarts⟩
      · refine ⟨[], rfl, ?_⟩
        intro gathered final after
        rw [readMembers_of_end hend]
        simp [and_comm, eq_comm]
      · obtain ⟨read, next, behind, hmember, hread, hrest⟩ :=
          (readMembers_step_iff hstarts).mp hkept
        obtain ⟨value, hvalue, rfl⟩ := (keepMember_eq_ok_iff hmember).mp hread
        obtain ⟨members, hmembers, hsame⟩ := ih hrest
        refine ⟨(name, value) :: members, by simp [hmembers], ?_⟩
        intro gathered final after
        rw [readMembers_step_iff hstarts, List.foldlM_cons]
        constructor
        · rintro ⟨_, next, left, hgather, hfound, hothers⟩
          obtain ⟨rfl, hconsume⟩ := (hconsumes hvalue).mp ⟨_, hgather, hfound⟩
          obtain ⟨rfl, hfold⟩ := hsame.mp hothers
          exact ⟨rfl, by simp [hconsume, hfold]⟩
        · rintro ⟨rfl, hfold⟩
          obtain ⟨next, hconsume, hfold⟩ := Option.bind_eq_some_iff.mp hfold
          obtain ⟨read, hmember, hread⟩ := (hconsumes hvalue).mpr ⟨rfl, hconsume⟩
          exact ⟨read, next, behind, hmember, hread, hsame.mpr ⟨rfl, hfold⟩⟩

end ResultBoards.Json
