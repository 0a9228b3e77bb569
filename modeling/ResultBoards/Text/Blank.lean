/-!
# Blank characters

The characters with the Unicode property `White_Space`.  They decide when a
stored file counts as empty and where a timestamp may be padded.
-/

namespace ResultBoards.Text

/-- A character with the property `White_Space`. -/
def isBlank (c : Char) : Bool :=
  ('\t' ≤ c && c ≤ '\r') || c == ' ' || c == '\u0085' || c == '\u00a0' || c == '\u1680' ||
    ('\u2000' ≤ c && c ≤ '\u200a') || c == '\u2028' || c == '\u2029' || c == '\u202f' ||
    c == '\u205f' || c == '\u3000'

/-- The text without the blank characters it starts with. -/
def dropBlank (text : List Char) : List Char :=
  text.dropWhile isBlank

/-- A text of blank characters only, possibly none. -/
def isAllBlank (text : List Char) : Bool :=
  text.all isBlank

example : [0x09, 0x0b, 0x0d, 0x20, 0x85, 0xa0, 0x2003, 0x3000].all (isBlank ∘ Char.ofNat) := by
  decide

example : [0x08, 0x0e, 0x200b, 0xfeff].all fun code => !isBlank (Char.ofNat code) := by
  decide

end ResultBoards.Text
