import ResultBoards.Text.Percent

/-!
# Texts and their bytes

The bytes of a text read back as the text, however they are written in a path.  There are
many ways to write them: any byte may be written as a percent sign and two digits in either
case, and where it is an unreserved character it may stand for itself.  Decoding takes each of
these spellings back to the text, and no character of a spelling means something in a path.

The spellings are given by a relation (`Spells`), one byte after the other.  A character that
is not ASCII has several bytes, which are spelled each on its own; that they come together
again is said of all bytes at once (`fromUTF8?_toUTF8`).
-/

namespace ResultBoards

theorem fromUTF8?_toUTF8 (text : String) : String.fromUTF8? text.toUTF8 = some text := by
  have hvalid : text.toUTF8.IsValidUTF8 := text.isValidUTF8
  rw [String.fromUTF8?, dif_pos hvalid]
  rfl

/-- The bytes of a text are those of its characters. -/
theorem toList_data_toUTF8 (text : String) :
    text.toUTF8.data.toList = text.toList.flatMap String.utf8EncodeChar := by
  have hencode : text.toUTF8 = text.toList.utf8Encode := String.utf8Encode_toList.symm
  rw [hencode, List.utf8Encode, List.data_toByteArray]

namespace Text.Percent

/-! ## Spellings -/

/-- A digit of either case. -/
def IsHexDigit (value : Nat) (c : Char) : Prop :=
  c = hexDigit value ∨ c = hexDigitUpper value

instance (value : Nat) (c : Char) : Decidable (IsHexDigit value c) :=
  inferInstanceAs (Decidable (_ ∨ _))

/-- The ways to write a byte: as a percent sign and two digits, or as the unreserved character
that it is. -/
inductive SpellsByte (byte : UInt8) : List Char → Prop
  | encoded {high low : Char} (hhigh : IsHexDigit (byte.toNat / 16) high)
      (hlow : IsHexDigit (byte.toNat % 16) low) : SpellsByte byte ['%', high, low]
  | kept {c : Char} (hkept : isUnreserved c = true) (hbyte : c.toNat = byte.toNat) :
      SpellsByte byte [c]

/-- The ways to write some bytes, one after the other. -/
inductive Spells : List UInt8 → List Char → Prop
  | nil : Spells [] []
  | cons {byte : UInt8} {bytes : List UInt8} {part text : List Char}
      (hbyte : SpellsByte byte part) (hbytes : Spells bytes text) :
      Spells (byte :: bytes) (part ++ text)

theorem Spells.append {bytes others : List UInt8} {text rest : List Char}
    (hbytes : Spells bytes text) (hothers : Spells others rest) :
    Spells (bytes ++ others) (text ++ rest) := by
  induction hbytes with
  | nil => exact hothers
  | cons hbyte _ ih =>
      rw [List.append_assoc]
      exact .cons hbyte ih

/-! ## Digits and unreserved characters -/

theorem IsHexDigit.hexValue?_eq {value : Nat} {c : Char} (hdigit : IsHexDigit value c)
    (hvalue : value < 16) : hexValue? c = some value := by
  rcases hdigit with rfl | rfl
  · exact hexValue?_hexDigit value hvalue
  · exact hexValue?_hexDigitUpper value hvalue

theorem IsHexDigit.isUnreserved {value : Nat} {c : Char} (hdigit : IsHexDigit value c)
    (hvalue : value < 16) : isUnreserved c = true := by
  have hlower : ∀ value < 16, Percent.isUnreserved (hexDigit value) = true := by decide
  have hupper : ∀ value < 16, Percent.isUnreserved (hexDigitUpper value) = true := by decide
  rcases hdigit with rfl | rfl
  · exact hlower value hvalue
  · exact hupper value hvalue

theorem ne_percent_of_isUnreserved {c : Char} (hkept : isUnreserved c = true) : c ≠ '%' := by
  rintro rfl
  exact absurd hkept (by decide)

theorem toNat_lt_of_isUnreserved {c : Char} (hkept : isUnreserved c = true) : c.toNat < 128 := by
  have hbelow : ∀ {last : Char}, c.val ≤ last.val → last.toNat < 128 → c.toNat < 128 :=
    fun hle hlast => Nat.lt_of_le_of_lt (UInt32.le_iff_toNat_le.mp hle) hlast
  simp only [isUnreserved, Bool.or_eq_true, beq_iff_eq] at hkept
  rcases hkept with (((halphanum | rfl) | rfl) | rfl) | rfl
  · rcases Bool.or_eq_true_iff.mp halphanum with halpha | hdigit
    · rcases Bool.or_eq_true_iff.mp halpha with hupper | hlower
      · exact hbelow (of_decide_eq_true hupper).2 (by decide)
      · exact hbelow (of_decide_eq_true (Bool.and_eq_true_iff.mp hlower).2) (by decide)
    · exact hbelow (of_decide_eq_true (Bool.and_eq_true_iff.mp hdigit).2) (by decide)
  all_goals decide

/-- An unreserved character is one byte. -/
theorem utf8EncodeChar_of_isUnreserved {c : Char} (hkept : isUnreserved c = true) :
    String.utf8EncodeChar c = [UInt8.ofNat c.toNat] := by
  have hlt := toNat_lt_of_isUnreserved hkept
  have hle : c.val.toNat ≤ 127 := by
    show c.toNat ≤ 127
    omega
  rw [String.utf8EncodeChar, if_pos hle]
  rfl

/-- A spelling has no other characters than percent signs and unreserved ones. -/
theorem Spells.isUnreserved_of_mem {bytes : List UInt8} {text : List Char}
    (hspells : Spells bytes text) {c : Char} (hc : c ∈ text) (hne : c ≠ '%') :
    isUnreserved c = true := by
  induction hspells with
  | nil => exact nomatch hc
  | @cons byte bytes part text hbyte _ ih =>
      rcases List.mem_append.mp hc with hpart | htext
      · have hlt : byte.toNat < 256 := byte.toNat_lt
        cases hbyte with
        | encoded hhigh hlow =>
            simp only [List.mem_cons, List.not_mem_nil, or_false] at hpart
            rcases hpart with rfl | rfl | rfl
            · exact absurd rfl hne
            · exact hhigh.isUnreserved (by omega)
            · exact hlow.isUnreserved (by omega)
        | kept hkept _ =>
            rw [List.mem_singleton.mp hpart]
            exact hkept
      · exact ih htext

/-- A reserved character has to be encoded, so it does not stand in a spelling. -/
theorem Spells.not_mem {bytes : List UInt8} {text : List Char} (hspells : Spells bytes text)
    {c : Char} (hreserved : isUnreserved c = false) (hne : c ≠ '%') : c ∉ text := by
  intro hc
  have hkept := hspells.isUnreserved_of_mem hc hne
  rw [hreserved] at hkept
  contradiction

/-! ## Decoding -/

theorem decodeBytes_encoded {byte : UInt8} {high low : Char}
    (hhigh : IsHexDigit (byte.toNat / 16) high) (hlow : IsHexDigit (byte.toNat % 16) low)
    (text : List Char) : decodeBytes ('%' :: high :: low :: text) = byte :: decodeBytes text := by
  have hlt : byte.toNat < 256 := byte.toNat_lt
  have hhigh := hhigh.hexValue?_eq (by omega)
  have hlow := hlow.hexValue?_eq (by omega)
  have hsame : UInt8.ofNat (byte.toNat / 16 * 16 + byte.toNat % 16) = byte := by
    rw [Nat.div_add_mod']
    exact UInt8.ofNat_toNat
  simp only [decodeBytes, hhigh, hlow, hsame]

theorem decodeBytes_kept {byte : UInt8} {c : Char} (hkept : isUnreserved c = true)
    (hbyte : c.toNat = byte.toNat) (text : List Char) :
    decodeBytes (c :: text) = byte :: decodeBytes text := by
  have hchar : String.utf8EncodeChar c = [byte] := by
    rw [utf8EncodeChar_of_isUnreserved hkept, hbyte, UInt8.ofNat_toNat]
  rw [decodeBytes, hchar]
  · rfl
  · -- what starts with a percent sign is decoded otherwise
    rintro high low rest rfl rfl
    exact ne_percent_of_isUnreserved hkept rfl

/-- Decoding takes any spelling of some bytes back to these bytes. -/
theorem Spells.decodeBytes_eq {bytes : List UInt8} {text : List Char}
    (hspells : Spells bytes text) : decodeBytes text = bytes := by
  induction hspells with
  | nil => rfl
  | cons hbyte _ ih =>
      cases hbyte with
      | encoded hhigh hlow =>
          simp only [List.cons_append, List.nil_append]
          rw [decodeBytes_encoded hhigh hlow, ih]
      | kept hkept hbyte => rw [List.singleton_append, decodeBytes_kept hkept hbyte, ih]

/-- **Spellings read back.**  Decoding takes any spelling of the bytes of a text back to the
text. -/
theorem Spells.decode?_eq {text : String} {segment : List Char}
    (hspells : Spells text.toUTF8.data.toList segment) : decode? segment = some text := by
  rw [decode?, hspells.decodeBytes_eq, Array.toArray_toList]
  exact fromUTF8?_toUTF8 text

/-! ## Encoding -/

theorem spellsByte_encodeByte (byte : UInt8) : SpellsByte byte (encodeByte byte) :=
  .encoded (.inr rfl) (.inr rfl)

theorem spells_encodeChar (c : Char) : Spells (String.utf8EncodeChar c) (encodeChar c) := by
  rw [encodeChar]
  induction String.utf8EncodeChar c with
  | nil => exact .nil
  | cons byte bytes ih => exact .cons (spellsByte_encodeByte byte) ih

/-- Every text has a spelling, the one in which it is encoded here. -/
theorem spells_encode (text : String) :
    Spells text.toUTF8.data.toList (encode text).toList := by
  rw [toList_data_toUTF8, encode, String.toList_ofList, encodeExcept]
  induction text.toList with
  | nil => exact .nil
  | cons c rest ih =>
      rw [List.flatMap_cons, List.flatMap_cons]
      refine Spells.append ?_ ih
      by_cases hkept : isUnreserved c = true
      · have hlt := toNat_lt_of_isUnreserved hkept
        have hbyte : c.toNat = (UInt8.ofNat c.toNat).toNat := by
          rw [UInt8.toNat_ofNat', Nat.mod_eq_of_lt (by omega)]
        rw [if_pos hkept, utf8EncodeChar_of_isUnreserved hkept]
        exact .cons (.kept hkept hbyte) .nil
      · rw [if_neg hkept]
        exact spells_encodeChar c

/-- What is encoded is decoded to the same text. -/
theorem decode?_encode (text : String) : decode? (encode text).toList = some text :=
  (spells_encode text).decode?_eq

end Text.Percent

end ResultBoards
