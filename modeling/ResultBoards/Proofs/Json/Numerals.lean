import ResultBoards.Proofs.Json.SameMembers

/-!
# Which numbers are integers

A number is read as an integer only where it is written in digits, without a point, without an
exponent and without a sign in front of a zero.  Everything else is read as a binary64 number, even
if it is whole.  `eq_ofNat_iff_digits` says this of the numbers that are not negative.
-/

namespace ResultBoards.Json

/-! ## Numbers that are no integers -/

/-- A number that is kept as a binary64 number. -/
def Number.IsReal (number : Number) : Prop :=
  ∃ value, number = .real value

theorem isReal_of_scaleByPower {negative : Bool} {significand : Nat} {power : Int}
    {number : Number} (hscale : scaleByPower negative significand power = .ok number) :
    number.IsReal := by
  unfold scaleByPower at hscale
  split at hscale
  · cases hscale
    exact ⟨_, rfl⟩
  · simp only at hscale
    generalize (if 0 ≤ power then _ else _ : Option Magnitude) = result at hscale
    cases result with
    | none => contradiction
    | some magnitude =>
        cases hscale
        exact ⟨_, rfl⟩

theorem isReal_of_finish {negative negativeExponent : Bool} {significand exponent : Nat}
    {start : Int} {text rest : List Char} {number : Number}
    (hread : readExponentDigits.finish negative negativeExponent significand start exponent text =
      .ok (number, rest)) : number.IsReal := by
  unfold readExponentDigits.finish at hread
  simp only at hread
  split at hread
  · rename_i hscale
    cases hread
    exact isReal_of_scaleByPower hscale
  · contradiction

theorem isReal_of_readExponentDigits {negative negativeExponent : Bool}
    {significand exponent : Nat} {start : Int} {text rest : List Char} {number : Number}
    (hread : readExponentDigits negative negativeExponent significand start exponent text =
      .ok (number, rest)) : number.IsReal := by
  induction text generalizing exponent with
  | nil => exact isReal_of_finish hread
  | cons c text ih =>
      rw [readExponentDigits] at hread
      split at hread
      · simp only at hread
        split at hread
        · split at hread
          · contradiction
          · cases hread
            exact ⟨_, rfl⟩
        · exact ih hread
      · exact isReal_of_finish hread

theorem isReal_of_readExponent {negative : Bool} {significand : Nat} {start : Int}
    {text rest : List Char} {number : Number}
    (hread : readExponent negative significand start text = .ok (number, rest)) :
    number.IsReal := by
  unfold readExponent at hread
  simp only at hread
  split at hread
  · contradiction
  · split_ifs at hread
    exact isReal_of_readExponentDigits hread

theorem isReal_of_readOptionalExponent {negative : Bool} {significand : Nat} {power : Int}
    {text rest : List Char} {number : Number}
    (hread : readOptionalExponent negative significand power text = .ok (number, rest)) :
    number.IsReal := by
  unfold readOptionalExponent at hread
  split at hread
  · exact isReal_of_readExponent hread
  · exact isReal_of_readExponent hread
  · split at hread
    · rename_i hscale
      cases hread
      exact isReal_of_scaleByPower hscale
    · contradiction

theorem isReal_of_readFractionDigits {negative : Bool} {start : Int} {significand places : Nat}
    {text rest : List Char} {number : Number}
    (hread : readFractionDigits negative start significand places text = .ok (number, rest)) :
    number.IsReal := by
  induction text generalizing significand places with
  | nil =>
      rw [readFractionDigits] at hread
      split_ifs at hread
      exact isReal_of_readOptionalExponent hread
  | cons c text ih =>
      rw [readFractionDigits] at hread
      split at hread
      · simp only at hread
        split at hread
        · exact isReal_of_readOptionalExponent hread
        · exact ih hread
      · split at hread
        · contradiction
        · exact isReal_of_readOptionalExponent hread

theorem isReal_of_readAfterInteger {negative : Bool} {significand : Nat} {power : Int}
    {text rest : List Char} {number : Number}
    (hread : readAfterInteger negative significand power text = .ok (number, rest)) :
    number.IsReal := by
  unfold readAfterInteger at hread
  split at hread
  · exact isReal_of_readFractionDigits hread
  · exact isReal_of_readOptionalExponent hread

/-! ## Digits -/

theorem digitValue_lt {c : Char} (hdigit : c.isDigit) : digitValue c < 10 := by
  have hrange : 48 ≤ c.toNat ∧ c.toNat ≤ 57 := by
    simpa [Char.isDigit, UInt32.le_iff_toNat_le] using hdigit
  have hzero : '0'.toNat = 48 := rfl
  rw [digitValue]
  omega

theorem digitChar_digitValue {c : Char} (hdigit : c.isDigit) :
    Nat.digitChar (digitValue c) = c := by
  have hrange : 48 ≤ c.toNat ∧ c.toNat ≤ 57 := by
    simpa [Char.isDigit, UInt32.le_iff_toNat_le] using hdigit
  have hzero : '0'.toNat = 48 := rfl
  apply Char.toNat_inj.mp
  rw [Nat.toNat_digitChar_of_lt_ten (digitValue_lt hdigit), digitValue]
  omega

theorem toDigits_digitValue {c : Char} (hdigit : c.isDigit) :
    Nat.toDigits 10 (digitValue c) = [c] := by
  rw [Nat.toDigits_of_lt_base (digitValue_lt hdigit), digitChar_digitValue hdigit]

theorem digitValue_pos {c : Char} (hdigit : c.isDigit) (hzero : c ≠ '0') : 0 < digitValue c := by
  refine Nat.pos_of_ne_zero fun hvalue => hzero ?_
  rw [← digitChar_digitValue hdigit, hvalue]
  rfl

/-! ## Numbers that are integers -/

/-- An integer ends where its digits end. -/
theorem separate_of_finishInteger {negative : Bool} {magnitude : Nat} {text rest : List Char}
    {value : Int} (hdigit : ∀ c ∈ text.head?, c.isDigit = false)
    (hread : finishInteger negative magnitude text = .ok (.integer value, rest)) :
    rest = text ∧ Separate text ∧ signedInteger negative magnitude = .ok (.integer value) := by
  unfold finishInteger at hread
  split at hread
  · obtain ⟨_, hreal⟩ := isReal_of_readAfterInteger hread
    contradiction
  · obtain ⟨_, hreal⟩ := isReal_of_readAfterInteger hread
    contradiction
  · obtain ⟨_, hreal⟩ := isReal_of_readAfterInteger hread
    contradiction
  · rename_i hpoint hlower hupper
    split at hread
    · rename_i hsigned
      cases hread
      refine ⟨rfl, fun c hc => ⟨hdigit c hc, ?_⟩, hsigned⟩
      obtain ⟨behind, rfl⟩ := List.head?_eq_some_iff.mp hc
      exact ⟨fun heq => hpoint behind (by rw [heq]), fun heq => hlower behind (by rw [heq]),
        fun heq => hupper behind (by rw [heq])⟩
    · contradiction

/-- The digits of an integer are all the digits that there are. -/
theorem digits_of_readIntegerDigits {negative : Bool} {magnitude : Nat} {text rest : List Char}
    {value : Int} (hpos : 0 < magnitude)
    (hread : readIntegerDigits negative magnitude text = .ok (.integer value, rest)) :
    ∃ whole, Nat.toDigits 10 magnitude ++ text = Nat.toDigits 10 whole ++ rest ∧
      Separate rest ∧ signedInteger negative whole = .ok (.integer value) := by
  induction text generalizing magnitude with
  | nil =>
      obtain ⟨rfl, hseparate, hsigned⟩ := separate_of_finishInteger (by simp) hread
      exact ⟨magnitude, rfl, hseparate, hsigned⟩
  | cons c text ih =>
      rw [readIntegerDigits] at hread
      split at hread
      · rename_i hdigit
        simp only at hread
        split at hread
        · -- a number that does not fit is no integer, whatever comes behind it
          obtain ⟨_, hreal⟩ := isReal_of_readAfterInteger hread
          contradiction
        · have hnext : magnitude * 10 + digitValue c = 10 * magnitude + digitValue c := by
            rw [Nat.mul_comm]
          rw [hnext] at hread
          obtain ⟨whole, hwhole, hrest⟩ := ih (by omega) hread
          refine ⟨whole, ?_, hrest⟩
          rw [← hwhole, ← Nat.toDigits_append_toDigits (by decide) hpos (digitValue_lt hdigit),
            toDigits_digitValue hdigit, List.append_assoc, List.singleton_append]
      · rename_i hdigit
        obtain ⟨rfl, hseparate, hsigned⟩ :=
          separate_of_finishInteger (by simpa using hdigit) hread
        exact ⟨magnitude, rfl, hseparate, hsigned⟩

theorem digits_of_readNumber {negative : Bool} {text rest : List Char} {value : Int}
    (hread : readNumber negative text = .ok (.integer value, rest)) :
    ∃ whole, text = Nat.toDigits 10 whole ++ rest ∧ Separate rest ∧
      signedInteger negative whole = .ok (.integer value) := by
  unfold readNumber at hread
  split at hread
  · contradiction
  · rename_i c text
    split at hread
    · rename_i hzero
      subst hzero
      split at hread
      · rename_i next behind
        split at hread
        · contradiction
        · rename_i hdigit
          obtain ⟨rfl, hseparate, hsigned⟩ :=
            separate_of_finishInteger (by simpa using hdigit) hread
          exact ⟨0, rfl, hseparate, hsigned⟩
      · obtain ⟨rfl, hseparate, hsigned⟩ := separate_of_finishInteger (by simp) hread
        exact ⟨0, rfl, hseparate, hsigned⟩
    · rename_i hzero
      split at hread
      · rename_i hdigit
        have hdigits := digits_of_readIntegerDigits (digitValue_pos hdigit hzero) hread
        rwa [toDigits_digitValue hdigit, List.singleton_append] at hdigits
      · contradiction

/-- Behind a sign only negative numbers are integers. -/
theorem neg_of_signedInteger {whole : Nat} {value : Int}
    (hsigned : signedInteger true whole = .ok (.integer value)) : value < 0 := by
  rw [signedInteger, if_neg (by decide)] at hsigned
  split at hsigned
  · obtain ⟨_, hreal⟩ := isReal_of_scaleByPower hsigned
    contradiction
  · cases hsigned
    omega

/-- **Integers are written in digits.**  A value is a number that is not negative exactly if it
is written in the digits of the number and nothing goes on with them. -/
theorem eq_ofNat_iff_digits {limits : Limits} {text rest : List Char} {value : Value}
    (hread : Value.decoder limits text = .ok (value, rest)) {number : Nat}
    (hfits : number ≤ wordLimit) :
    value = .ofNat number ↔
      dropBlank text = Nat.toDigits 10 number ++ rest ∧ Separate rest := by
  have hvalue := valueRead_of_decoder hread
  constructor
  · rintro rfl
    cases hvalue with
    | scalar hscalar =>
        generalize dropBlank text = start at hscalar ⊢
        cases hscalar with
        | negative hnumber =>
            obtain ⟨whole, _, _, hsigned⟩ := digits_of_readNumber hnumber
            have hnegative := neg_of_signedInteger hsigned
            omega
        | natural _ hnumber =>
            obtain ⟨whole, hwritten, hseparate, hsigned⟩ := digits_of_readNumber hnumber
            have hsame : (whole : Int) = number := by simpa [signedInteger] using hsigned
            obtain rfl : whole = number := by omega
            exact ⟨hwritten, hseparate⟩
  · rintro ⟨hwritten, hseparate⟩
    have hnatural := readNumber_natural hfits hseparate
    obtain ⟨c, digits, hdigits, hdigit⟩ : ∃ c digits, Nat.toDigits 10 number = c :: digits ∧
        c.isDigit := by
      cases hdigits : Nat.toDigits 10 number with
      | nil => exact absurd hdigits Nat.toDigits_ne_nil
      | cons c digits =>
          have hmem : c ∈ Nat.toDigits 10 number := hdigits ▸ List.mem_cons_self
          exact ⟨c, digits, rfl, Nat.isDigit_of_mem_toDigits (by decide) (by decide) hmem⟩
    rw [hdigits, List.cons_append] at hnatural hwritten
    cases hvalue with
    | array hopened =>
        obtain rfl : c = '[' := (List.cons.inj (hwritten.symm.trans hopened)).1
        exact absurd hdigit (by decide)
    | object hopened =>
        obtain rfl : c = '\x7b' := (List.cons.inj (hwritten.symm.trans hopened)).1
        exact absurd hdigit (by decide)
    | scalar hscalar =>
        rw [hwritten] at hscalar
        cases hscalar with
        | null | true | false | string | negative => exact absurd hdigit (by decide)
        | natural _ hnumber =>
            rw [hnatural] at hnumber
            cases hnumber
            rfl

end ResultBoards.Json
