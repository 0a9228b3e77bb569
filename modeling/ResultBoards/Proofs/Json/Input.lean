import Mathlib.Tactic.Common
import ResultBoards.Json.Input
import ResultBoards.Json.Printer

/-!
# Reading what was written

The bytes of a text are read as the text is (`inputOfBytes_toUTF8`), so what holds of texts
holds of the bodies that carry them.  A text that this library writes is read as it stands:
no string that is written holds a null character, and nothing else in a value does
(`inputOfText_toText`).
-/

namespace ResultBoards.Json

/-! ## Bytes -/

/-- The character that some bytes start with, behind others. -/
theorem utf8DecodeChar?_append_utf8Encode (front : ByteArray) (c : Char) (chars : List Char) :
    (front ++ (c :: chars).utf8Encode).utf8DecodeChar? front.size = some c := by
  rw [ByteArray.utf8DecodeChar?_eq_utf8DecodeChar?_extract,
    ByteArray.extract_append_eq_right rfl ByteArray.size_append]
  exact List.utf8DecodeChar?_utf8Encode_cons

/-- The bytes of some characters, behind others, are read as these characters. -/
theorem inputFrom_append_utf8Encode (front : ByteArray) (chars read : List Char) {bound : Nat}
    (hbound : chars.utf8Encode.size ≤ bound) :
    inputFrom (front ++ chars.utf8Encode) bound front.size read =
      read.reverse ++ chars.map readable := by
  induction chars generalizing front read bound with
  | nil => cases bound <;> simp [inputFrom]
  | cons c chars ih =>
      have hbytes : (c :: chars).utf8Encode = [c].utf8Encode ++ chars.utf8Encode := by
        rw [← List.utf8Encode_append, List.singleton_append]
      have hsize : [c].utf8Encode.size = c.utf8Size := by
        rw [List.utf8Encode_singleton, List.size_toByteArray, String.length_utf8EncodeChar]
      have hpositive := c.utf8Size_pos
      rw [hbytes, ByteArray.size_append, hsize] at hbound
      obtain ⟨bound, rfl⟩ : ∃ rest, bound = rest + 1 := ⟨bound - 1, by omega⟩
      have hinside : ¬(front ++ (c :: chars).utf8Encode).size ≤ front.size := by
        rw [hbytes, ByteArray.size_append, ByteArray.size_append]
        omega
      have hlater : chars.utf8Encode.size ≤ bound := by omega
      have hrest := ih (front ++ [c].utf8Encode) (readable c :: read) hlater
      rw [ByteArray.append_assoc, ← hbytes, ByteArray.size_append, hsize] at hrest
      rw [inputFrom, if_neg hinside, utf8DecodeChar?_append_utf8Encode]
      simp only [hrest, List.reverse_cons, List.append_assoc, List.singleton_append, List.map_cons]

/-- The bytes of a text are read as the text is. -/
theorem inputOfBytes_toUTF8 (text : String) : inputOfBytes text.toUTF8 = inputOfText text := by
  have hencode : text.toUTF8 = text.toList.utf8Encode := String.utf8Encode_toList.symm
  have hread := inputFrom_append_utf8Encode ByteArray.empty text.toList [] (Nat.le_refl _)
  rw [ByteArray.empty_append] at hread
  rw [inputOfBytes, hencode, inputOfText]
  exact hread

/-- Only a control character is read where the text has another character. -/
theorem mem_of_mem_inputOfText {c : Char} (hc : ' ' ≤ c) {text : String}
    (hmem : c ∈ inputOfText text) : c ∈ text.toList := by
  obtain ⟨d, hd, rfl⟩ := List.mem_map.mp hmem
  rw [readable] at hc ⊢
  split at hc
  · exact absurd hc (by decide)
  · rwa [if_neg ‹_›]

/-! ## Written values -/

theorem malformed_notMem_toDigits (value : Nat) : malformed ∉ Nat.toDigits 10 value :=
  fun hmem => absurd (Nat.isDigit_of_mem_toDigits (by decide) (by decide) hmem) (by decide)

theorem malformed_notMem_escapedChar (c : Char) : malformed ∉ escapedChar c := by
  have hdigits : ∀ value < 32, malformed ∉
      ['\\', 'u', '0', '0', Text.hexDigit (value / 16), Text.hexDigit (value % 16)] := by
    decide
  rw [escapedChar]
  split_ifs with _ _ _ _ _ _ _ hcontrol
  any_goals decide
  · exact hdigits c.toNat hcontrol
  · rw [List.mem_singleton]
    rintro rfl
    exact hcontrol (by decide)

theorem malformed_notMem_writeString (text : String) : malformed ∉ writeString text := by
  have hchars : malformed ∉ text.toList.flatMap escapedChar := fun hmem =>
    let ⟨c, _, hc⟩ := List.mem_flatMap.mp hmem
    malformed_notMem_escapedChar c hc
  have hquote : malformed ≠ '"' := by decide
  simp [writeString, hquote, hchars]

theorem malformed_notMem_writeInteger (value : Int) : malformed ∉ writeInteger value := by
  cases value with
  | ofNat value => exact malformed_notMem_toDigits value
  | negSucc value =>
      rw [writeInteger, List.mem_cons, not_or]
      exact ⟨by decide, malformed_notMem_toDigits _⟩

theorem malformed_notMem_positional (decimal : Decimal) : malformed ∉ decimal.positional := by
  have hdigits := malformed_notMem_toDigits decimal.digits
  have hzero : malformed ≠ '0' := by decide
  have hpoint : malformed ≠ '.' := by decide
  simp only [Decimal.positional]
  split_ifs
  · exact hdigits
  · simp [hdigits, hzero]
  · rw [List.mem_append, List.mem_cons]
    rintro (htake | hcentre | hdrop)
    · exact hdigits (List.mem_of_mem_take htake)
    · exact hpoint hcentre
    · exact hdigits (List.mem_of_mem_drop hdrop)
  · simp [hdigits, hzero, hpoint]

theorem malformed_notMem_withPoint {text : List Char} (htext : malformed ∉ text) :
    malformed ∉ Decimal.withPoint text := by
  have hend : malformed ∉ ['.', '0'] := by decide
  rw [Decimal.withPoint]
  split_ifs
  · exact htext
  · simp [htext, hend]

theorem malformed_notMem_scientific (decimal : Decimal) : malformed ∉ decimal.scientific := by
  have hpoint : malformed ≠ '.' := by decide
  have hexponent := malformed_notMem_toDigits
    (decimal.power + ((Nat.toDigits 10 decimal.digits).length : Int) - 1).natAbs
  have hdigits := malformed_notMem_toDigits decimal.digits
  simp only [Decimal.scientific, List.mem_append, not_or]
  refine ⟨⟨?_, ?_⟩, hexponent⟩
  · split
    next heq =>
      rw [heq] at hdigits
      simp only [List.mem_cons, not_or] at hdigits ⊢
      exact ⟨hdigits.1, hpoint, hdigits.2⟩
    next => exact hdigits
  · split_ifs <;> decide

theorem malformed_notMem_toJsonText (value : Binary64) : malformed ∉ value.toJsonText.toList := by
  have hnull : malformed ∉ "null".toList := by decide
  cases value with
  | finite negative magnitude =>
      have hsign : malformed ∉ Binary64.signText negative := by cases negative <;> decide
      rw [Binary64.toJsonText, String.toList_ofList, List.mem_append, not_or]
      refine ⟨hsign, ?_⟩
      split_ifs
      · exact malformed_notMem_withPoint (malformed_notMem_positional _)
      · exact malformed_notMem_scientific _
  | infinite => exact hnull
  | nan => exact hnull

theorem malformed_notMem_writeNumber (number : Number) : malformed ∉ number.write := by
  cases number with
  | integer value => exact malformed_notMem_writeInteger value
  | real value => exact malformed_notMem_toJsonText value

mutual

theorem malformed_notMem_write : (value : Value) → malformed ∉ value.write
  | .null | .bool true | .bool false => by decide
  | .number number => malformed_notMem_writeNumber number
  | .string text => malformed_notMem_writeString text
  | .array elements => by
      have helements := malformed_notMem_writeElements elements
      simp only [Value.write, List.mem_append, List.mem_cons, not_or]
      exact ⟨⟨by decide, helements⟩, by decide⟩
  | .object members => by
      have hmembers := malformed_notMem_writeMembers members
      simp only [Value.write, List.mem_append, List.mem_cons, not_or]
      exact ⟨⟨by decide, hmembers⟩, by decide⟩

theorem malformed_notMem_writeElements :
    (elements : List Value) → malformed ∉ writeElements elements
  | [] => by decide
  | [element] => malformed_notMem_write element
  | element :: next :: rest => by
      have helement := malformed_notMem_write element
      have hrest := malformed_notMem_writeElements (next :: rest)
      simp only [writeElements, List.mem_append, List.mem_cons, not_or] at hrest ⊢
      exact ⟨helement, by decide, hrest⟩

theorem malformed_notMem_writeMembers :
    (members : List (String × Value)) → malformed ∉ writeMembers members
  | [] => by decide
  | [(name, value)] => by
      have hname := malformed_notMem_writeString name
      have hvalue := malformed_notMem_write value
      simp only [writeMembers, List.mem_append, List.mem_cons, not_or]
      exact ⟨hname, by decide, hvalue⟩
  | (name, value) :: next :: rest => by
      have hname := malformed_notMem_writeString name
      have hvalue := malformed_notMem_write value
      have hrest := malformed_notMem_writeMembers (next :: rest)
      simp only [writeMembers, List.mem_append, List.mem_cons, not_or] at hrest ⊢
      exact ⟨⟨hname, by decide, hvalue⟩, by decide, hrest⟩

end

theorem malformed_notMem_writeSpreadMembers :
    (members : List (String × String)) → malformed ∉ writeSpreadMembers members
  | [] => by decide
  | [(name, value)] => by
      have hname := malformed_notMem_writeString name
      have hvalue := malformed_notMem_writeString value
      simp only [writeSpreadMembers, List.mem_append, List.mem_cons, not_or]
      exact ⟨⟨by decide, by decide, hname⟩, by decide, by decide, hvalue⟩
  | (name, value) :: next :: rest => by
      have hname := malformed_notMem_writeString name
      have hvalue := malformed_notMem_writeString value
      have hrest := malformed_notMem_writeSpreadMembers (next :: rest)
      simp only [writeSpreadMembers, List.mem_append, List.mem_cons, not_or] at hrest ⊢
      exact ⟨⟨⟨by decide, by decide, hname⟩, by decide, by decide, hvalue⟩,
        by decide, by decide, hrest⟩

theorem malformed_notMem_writeSpread (members : List (String × String)) :
    malformed ∉ writeSpread members := by
  cases members with
  | nil => decide
  | cons pair pairs =>
      have hmembers := malformed_notMem_writeSpreadMembers (pair :: pairs)
      simp only [writeSpread, List.mem_append, List.mem_cons, not_or]
      exact ⟨⟨by decide, by decide, hmembers⟩, by decide⟩

/-! ## Written texts -/

theorem inputOfText_of_notMem {text : String} (htext : malformed ∉ text.toList) :
    inputOfText text = text.toList := by
  refine (List.map_congr_left fun c hc => ?_).trans (List.map_id _)
  exact if_neg fun hmalformed => htext (by rwa [← hmalformed])

/-- The text of a value is read as it stands. -/
theorem inputOfText_toText (value : Value) : inputOfText value.toText = value.write := by
  have hwrite : value.toText.toList = value.write := String.toList_ofList
  rw [inputOfText_of_notMem (hwrite ▸ malformed_notMem_write value), hwrite]

end ResultBoards.Json
