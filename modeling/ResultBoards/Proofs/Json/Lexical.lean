import Mathlib.Order.Basic
import Mathlib.Tactic.Common
import ResultBoards.Json.Lexical
import ResultBoards.Json.Printer

/-!
# Strings and numbers read back

The written form of a string or of an integer of 64 bits is read as that string or
integer, whatever follows it.  For an integer what follows must not go on with the
number, which is what `Separate` says; commas, brackets and blanks all do.

The readers count characters down from a bound.  A bound above the number of characters
left is never reached, so the lemmas ask for no more than that.

What is read need not be a text.  The strings that are kept are texts all the same: a byte
that belongs to no character keeps a string from being read (`leaves_of_readChars`).
-/

namespace ResultBoards.Json

/-! ## What may follow -/

/-- A text that does not go on with a number before it. -/
def Separate (rest : List Char) : Prop :=
  ∀ c ∈ rest.head?, c.isDigit = false ∧ c ≠ '.' ∧ c ≠ 'e' ∧ c ≠ 'E'

theorem separate_nil : Separate [] := by
  simp [Separate]

theorem separate_cons {c : Char} {rest : List Char} (hdigit : c.isDigit = false)
    (hpoint : c ≠ '.') (hlower : c ≠ 'e') (hupper : c ≠ 'E') : Separate (c :: rest) := by
  simp [Separate, hdigit, hpoint, hlower, hupper]

theorem separate_comma (rest : List Char) : Separate (',' :: rest) :=
  separate_cons (by decide) (by decide) (by decide) (by decide)

theorem separate_bracket (rest : List Char) : Separate (']' :: rest) :=
  separate_cons (by decide) (by decide) (by decide) (by decide)

theorem separate_brace (rest : List Char) : Separate ('\x7d' :: rest) :=
  separate_cons (by decide) (by decide) (by decide) (by decide)

/-! ## Strings -/

theorem escapedChar_ne_nil (c : Char) : escapedChar c ≠ [] := by
  unfold escapedChar
  split_ifs <;> simp

/-- No character is written with fewer characters than one. -/
theorem length_le_escaped (chars : List Char) :
    chars.length ≤ (chars.flatMap escapedChar).length := by
  induction chars with
  | nil => simp
  | cons c chars ih =>
      have hpos : 0 < (escapedChar c).length := List.length_pos_iff.mpr (escapedChar_ne_nil c)
      simp only [List.flatMap_cons, List.length_append, List.length_cons]
      omega

/-- Four digits take four bytes at least. -/
theorem four_le_leadingBytes (a b c d : Char) (rest : List Char) :
    4 ≤ leadingBytes 4 (a :: b :: c :: d :: rest) := by
  have ha := a.utf8Size_pos
  have hb := b.utf8Size_pos
  have hc := c.utf8Size_pos
  have hd := d.utf8Size_pos
  simp only [leadingBytes]
  omega

/-- A control character is read from the escape that its code point is written in. -/
theorem readUnicodeEscape_control {c : Char} (hcontrol : c < ' ') (rest : List Char) :
    readUnicodeEscape
        ('0' :: '0' :: Text.hexDigit (c.toNat / 16) :: Text.hexDigit (c.toNat % 16) :: rest) =
      .ok (c, rest) := by
  have hcode : c.toNat < 32 := hcontrol
  have hzero : Text.hexValue? '0' = some 0 := by decide
  have hhigh := Text.hexValue?_hexDigit (c.toNat / 16) (by omega)
  have hlow := Text.hexValue?_hexDigit (c.toNat % 16) (by omega)
  have hquad : readHexQuad
      ('0' :: '0' :: Text.hexDigit (c.toNat / 16) :: Text.hexDigit (c.toNat % 16) :: rest) =
        .ok (c.toNat, rest) := by
    rw [readHexQuad, if_neg (Nat.not_lt.mpr (four_le_leadingBytes ..))]
    simp only [hzero, hhigh, hlow]
    rw [show ((0 * 16 + 0) * 16 + c.toNat / 16) * 16 + c.toNat % 16 = c.toNat by omega]
  rw [readUnicodeEscape, hquad]
  simp only
  rw [if_neg (by omega), if_pos (by omega), Char.ofNat_toNat]

theorem readChars_escape (bound : Nat) (read : List Char) {c : Char} {escape rest : List Char}
    (hescape : readEscape escape = .ok (c, rest)) :
    readChars (bound + 1) (some read) ('\\' :: escape) =
      readChars bound (some (c :: read)) rest := by
  rw [readChars, if_neg (by decide), if_pos rfl, hescape]
  rfl

theorem readEscape_short {mark c : Char} (rest : List Char) (hu : mark ≠ 'u')
    (hmark : shortEscape? mark = some c) : readEscape (mark :: rest) = .ok (c, rest) := by
  rw [readEscape, if_neg hu, hmark]

/-- One character is read from its written form. -/
theorem readChars_escapedChar (bound : Nat) (read : List Char) (c : Char) (rest : List Char) :
    readChars (bound + 1) (some read) (escapedChar c ++ rest) =
      readChars bound (some (c :: read)) rest := by
  have hshort : ∀ mark, mark ≠ 'u' → shortEscape? mark = some c →
      readChars (bound + 1) (some read) ('\\' :: mark :: rest) =
        readChars bound (some (c :: read)) rest :=
    fun mark hu hmark => readChars_escape bound read (readEscape_short rest hu hmark)
  unfold escapedChar
  split_ifs with hquote hslash hb hf hn hr ht hcontrol
  · exact hshort '"' (by decide) (by rw [hquote]; rfl)
  · exact hshort '\\' (by decide) (by rw [hslash]; rfl)
  · exact hshort 'b' (by decide) (by rw [hb]; rfl)
  · exact hshort 'f' (by decide) (by rw [hf]; rfl)
  · exact hshort 'n' (by decide) (by rw [hn]; rfl)
  · exact hshort 'r' (by decide) (by rw [hr]; rfl)
  · exact hshort 't' (by decide) (by rw [ht]; rfl)
  · -- control characters without a short escape are written as their code points
    have hlong : ∀ digits, readEscape ('u' :: digits) = readUnicodeEscape digits := fun _ => rfl
    refine readChars_escape bound read ((hlong _).trans ?_)
    exact readUnicodeEscape_control hcontrol rest
  · have hwhole : c ≠ malformed := by
      rintro rfl
      exact hcontrol (by decide)
    rw [List.singleton_append, readChars, if_neg hquote, if_neg hslash, if_neg hwhole,
      if_neg hcontrol]
    rfl

/-- The characters of a string are read up to the closing quote. -/
theorem readChars_escaped (chars : List Char) {bound : Nat} (read rest : List Char)
    (hbound : chars.length < bound) :
    readChars bound (some read) (chars.flatMap escapedChar ++ '"' :: rest) =
      .ok (String.ofList (read.reverse ++ chars), rest) := by
  induction chars generalizing bound read with
  | nil =>
      obtain ⟨bound, rfl⟩ := Nat.exists_eq_succ_of_ne_zero (Nat.ne_of_gt hbound)
      simp [readChars]
  | cons c chars ih =>
      obtain ⟨bound, rfl⟩ := Nat.exists_eq_succ_of_ne_zero (Nat.ne_zero_of_lt hbound)
      rw [List.flatMap_cons, List.append_assoc, readChars_escapedChar,
        ih (c :: read) (by simpa using hbound)]
      simp

/-- A string is read from its written form after the opening quote. -/
theorem readChars_writeString (text : String) {bound : Nat} (rest : List Char)
    (hbound : (writeString text ++ rest).length < bound) :
    readChars bound (some []) (text.toList.flatMap escapedChar ++ '"' :: rest) =
      .ok (text, rest) := by
  have hlength := length_le_escaped text.toList
  rw [readChars_escaped]
  · simp
  · simp only [writeString, List.length_append, List.length_cons, List.cons_append] at hbound
    omega

/-! ## Bytes that belong to no character -/

/-- What is left of a text behind some whole characters. -/
def Leaves (text rest : List Char) : Prop :=
  ∃ front, text = front ++ rest ∧ malformed ∉ front

theorem Leaves.refl (text : List Char) : Leaves text text :=
  ⟨[], rfl, List.not_mem_nil⟩

theorem Leaves.cons {c : Char} {text rest : List Char} (hc : c ≠ malformed)
    (hleaves : Leaves text rest) : Leaves (c :: text) rest := by
  obtain ⟨front, rfl, hfront⟩ := hleaves
  exact ⟨c :: front, rfl, List.not_mem_cons_of_ne_of_not_mem hc.symm hfront⟩

theorem Leaves.trans {text more rest : List Char} (hmore : Leaves text more)
    (hrest : Leaves more rest) : Leaves text rest := by
  obtain ⟨front, rfl, hfront⟩ := hmore
  obtain ⟨behind, rfl, hbehind⟩ := hrest
  refine ⟨front ++ behind, (List.append_assoc ..).symm, ?_⟩
  rw [List.mem_append, not_or]
  exact ⟨hfront, hbehind⟩

theorem ne_malformed_of_hexValue? {c : Char} {value : Nat}
    (hvalue : Text.hexValue? c = some value) : c ≠ malformed := by
  rintro rfl
  exact absurd hvalue (show Text.hexValue? malformed ≠ _ from nofun)

theorem leaves_of_readHexQuad {text rest : List Char} {unit : Nat}
    (hread : readHexQuad text = .ok (unit, rest)) : Leaves text rest := by
  unfold readHexQuad at hread
  split at hread
  · contradiction
  · split at hread
    · split at hread
      · rename_i ha hb hc hd
        cases hread
        exact .cons (ne_malformed_of_hexValue? ha) <| .cons (ne_malformed_of_hexValue? hb) <|
          .cons (ne_malformed_of_hexValue? hc) <| .cons (ne_malformed_of_hexValue? hd) <|
          .refl rest
      · contradiction
    · contradiction

theorem leaves_of_readUnicodeEscape {text rest : List Char} {c : Char}
    (hread : readUnicodeEscape text = .ok (c, rest)) : Leaves text rest := by
  unfold readUnicodeEscape at hread
  split at hread
  · contradiction
  · rename_i hquad
    have hfirst := leaves_of_readHexQuad hquad
    split_ifs at hread
    · simp only [Except.ok.injEq, Prod.mk.injEq] at hread
      rw [← hread.2]
      exact hfirst
    · split at hread
      · contradiction
      · contradiction
      · split at hread
        · contradiction
        · rename_i hsecond
          -- the second half of a pair of surrogates
          have hquad := leaves_of_readHexQuad hsecond
          split_ifs at hread
          simp only [Except.ok.injEq, Prod.mk.injEq] at hread
          rw [← hread.2]
          exact hfirst.trans (.cons (by decide) (.cons (by decide) hquad))
      · contradiction

theorem leaves_of_readEscape {text rest : List Char} {c : Char}
    (hread : readEscape text = .ok (c, rest)) : Leaves text rest := by
  cases text with
  | nil => contradiction
  | cons mark text =>
      rw [readEscape] at hread
      split_ifs at hread with hu
      · exact (leaves_of_readUnicodeEscape hread).cons (by rw [hu]; decide)
      · split at hread
        · rename_i hshort
          cases hread
          refine (Leaves.refl rest).cons ?_
          rintro rfl
          exact absurd hshort (show shortEscape? malformed ≠ _ from nofun)
        · contradiction

/-- A string with a byte in it that belongs to no character is refused. -/
theorem readChars_none_ne_ok (bound : Nat) (text : List Char) (result : String × List Char) :
    readChars bound none text ≠ .ok result := by
  induction bound generalizing text with
  | zero => exact nofun
  | succ bound ih =>
      cases text with
      | nil => exact nofun
      | cons c text =>
          rw [readChars]
          split_ifs
          · exact nofun
          · split
            · exact nofun
            · exact ih _
          · exact ih _
          · exact nofun
          · exact ih _

/-- **Strings that are kept are texts.**  No byte that belongs to no character stands between
the quotes of a string that is read. -/
theorem leaves_of_readChars {bound : Nat} {read text rest : List Char} {value : String}
    (hread : readChars bound (some read) text = .ok (value, rest)) : Leaves text rest := by
  induction bound generalizing read text with
  | zero => contradiction
  | succ bound ih =>
      cases text with
      | nil => contradiction
      | cons c text =>
          rw [readChars] at hread
          split_ifs at hread with hquote hslash hmalformed hcontrol
          · cases hread
            exact (Leaves.refl rest).cons (by rw [hquote]; decide)
          · split at hread
            · contradiction
            · rename_i hescape
              have hrest := (leaves_of_readEscape hescape).trans (ih hread)
              exact hrest.cons (by rw [hslash]; decide)
          · exact absurd hread (readChars_none_ne_ok bound text _)
          · exact (ih hread).cons hmalformed

example : readChars 2 (some []) [malformed, '"'] = .error .characterInvalid := by decide

/-- In a string that is skipped such a byte is as good as any other. -/
example : skipChars 2 [malformed, '"'] = .ok [] := by decide

/-! ## Integers -/

theorem ne_of_isDigit {c d : Char} (hdigit : c.isDigit) (hother : d.isDigit = false) : c ≠ d := by
  rintro rfl
  rw [hdigit] at hother
  contradiction

theorem isBlank_of_isDigit {c : Char} (hdigit : c.isDigit) : isBlank c = false := by
  have hne : ∀ {d : Char}, d.isDigit = false → c ≠ d := ne_of_isDigit hdigit
  simp [isBlank, hne]

/-- Digits are collected as long as the number fits in 64 bits. -/
theorem readIntegerDigits_digits (negative : Bool) (digits : List Char) {magnitude : Nat}
    {rest : List Char} (hdigits : ∀ c ∈ digits, c.isDigit)
    (hfits : Nat.ofDigitChars 10 digits magnitude ≤ wordLimit) (hrest : Separate rest) :
    readIntegerDigits negative magnitude (digits ++ rest) =
      finishInteger negative (Nat.ofDigitChars 10 digits magnitude) rest := by
  induction digits generalizing magnitude with
  | nil =>
      cases rest with
      | nil => simp [readIntegerDigits]
      | cons c rest =>
          have hdigit : c.isDigit = false := (hrest c (by simp)).1
          simp [readIntegerDigits, hdigit]
  | cons c digits ih =>
      have hdigit : c.isDigit := hdigits c (by simp)
      have hnext : magnitude * 10 + digitValue c = 10 * magnitude + (c.toNat - '0'.toNat) := by
        rw [digitValue, Nat.mul_comm]
      rw [Nat.ofDigitChars_cons] at hfits ⊢
      -- what is collected so far is never more than the whole number
      have hgrows : 10 * magnitude + (c.toNat - '0'.toNat) ≤ wordLimit := by
        rw [Nat.ofDigitChars_eq_ofDigitChars_zero] at hfits
        have hpower : 0 < 10 ^ digits.length := Nat.pow_pos (by decide)
        calc 10 * magnitude + (c.toNat - '0'.toNat)
            ≤ 10 ^ digits.length * (10 * magnitude + (c.toNat - '0'.toNat)) :=
              Nat.le_mul_of_pos_left _ hpower
          _ ≤ _ + Nat.ofDigitChars 10 digits 0 := Nat.le_add_right _ _
          _ ≤ wordLimit := hfits
      simp only [List.cons_append, readIntegerDigits, hdigit, hnext, if_true,
        if_neg (Nat.not_lt.mpr hgrows)]
      exact ih (fun d hd => hdigits d (List.mem_cons_of_mem _ hd)) hfits

/-- A number other than zero is not written with a zero in front. -/
theorem head_toDigits_ne_zero (value : Nat) (hvalue : 0 < value) :
    (Nat.toDigits 10 value).head? ≠ some '0' := by
  induction value using Nat.base_induction 10 (by decide) with
  | single value hsmall =>
      rw [Nat.toDigits_of_lt_base hsmall]
      simpa using Nat.ne_of_gt hvalue
  | digit above last hlast habove ih =>
      have hsome : (Nat.toDigits 10 above).head?.isSome := by
        simp [List.isSome_head?, Nat.toDigits_ne_nil]
      rw [← Nat.toDigits_append_toDigits (by decide) habove hlast, List.head?_append,
        Option.or_of_isSome hsome]
      exact ih habove

/-- The digits of a number are collected into that number. -/
theorem readNumber_toDigits (negative : Bool) {value : Nat} {rest : List Char}
    (hfits : value ≤ wordLimit) (hrest : Separate rest) :
    readNumber negative (Nat.toDigits 10 value ++ rest) = finishInteger negative value rest := by
  rcases Nat.eq_zero_or_pos value with rfl | hpos
  · cases rest with
    | nil => simp [Nat.toDigits_zero, readNumber]
    | cons c rest =>
        have hdigit : c.isDigit = false := (hrest c (by simp)).1
        simp [Nat.toDigits_zero, readNumber, hdigit]
  · have hvalue : Nat.ofDigitChars 10 (Nat.toDigits 10 value) 0 = value :=
      Nat.ofDigitChars_ten_toDigits
    have hhead := head_toDigits_ne_zero value hpos
    have hall : ∀ c ∈ Nat.toDigits 10 value, c.isDigit := fun c hc =>
      Nat.isDigit_of_mem_toDigits (by decide) (by decide) hc
    cases hdigits : Nat.toDigits 10 value with
    | nil => exact absurd hdigits Nat.toDigits_ne_nil
    | cons c digits =>
        rw [hdigits] at hvalue hhead hall
        rw [Nat.ofDigitChars_cons, Nat.mul_zero, Nat.zero_add] at hvalue
        have hzero : c ≠ '0' := by simpa using hhead
        have hdigit : c.isDigit := hall c (by simp)
        simp only [List.cons_append, readNumber, if_neg hzero, hdigit, if_true]
        rw [readIntegerDigits_digits negative digits
          (fun d hd => hall d (List.mem_cons_of_mem _ hd)) (by rw [digitValue, hvalue]; exact hfits)
          hrest, digitValue, hvalue]

/-- Nothing but a point or an exponent goes on with an integer. -/
theorem finishInteger_of_separate (negative : Bool) (magnitude : Nat) {rest : List Char}
    (hrest : Separate rest) :
    finishInteger negative magnitude rest =
      (signedInteger negative magnitude).map fun number => (number, rest) := by
  unfold finishInteger
  split
  · exact absurd rfl (hrest '.' (by simp)).2.1
  · exact absurd rfl (hrest 'e' (by simp)).2.2.1
  · exact absurd rfl (hrest 'E' (by simp)).2.2.2
  · cases signedInteger negative magnitude <;> rfl

/-- A number without a sign is read from its digits. -/
theorem readNumber_natural {value : Nat} {rest : List Char} (hfits : value ≤ wordLimit)
    (hrest : Separate rest) :
    readNumber false (Nat.toDigits 10 value ++ rest) = .ok (.integer value, rest) := by
  rw [readNumber_toDigits false hfits hrest, finishInteger_of_separate _ _ hrest]
  rfl

/-- A negative number is read from the digits behind its sign. -/
theorem readNumber_negative {value : Nat} {rest : List Char}
    (hfits : value < 0x8000000000000000) (hrest : Separate rest) :
    readNumber true (Nat.toDigits 10 (value + 1) ++ rest) =
      .ok (.integer (Int.negSucc value), rest) := by
  rw [readNumber_toDigits true (by unfold wordLimit; omega) hrest,
    finishInteger_of_separate _ _ hrest, signedInteger, if_neg (by decide), if_neg (by omega)]
  rfl

end ResultBoards.Json
