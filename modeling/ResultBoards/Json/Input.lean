/-!
# What texts and bytes are read as

A reader goes through characters.  Bytes need not be those of characters, and what is wrong
with a byte that belongs to none depends on where it stands: in a string that is skipped it
is as good as any other, a string that is kept is refused at its end because of it, and
elsewhere it does not belong.  So it is handed to the reader, as the null character.

The null character of a text is handed on as another control character, since neither may
stand anywhere in a document.
-/

namespace ResultBoards.Json

/-- What a byte is read as that belongs to no character. -/
def malformed : Char := '\x00'

/-- What a character is read as. -/
def readable (c : Char) : Char :=
  if c = malformed then '\x01' else c

/-- What a text is read as. -/
def inputOfText (text : String) : List Char :=
  text.toList.map readable

/-- What bytes are read as from a position on, behind what was read before in reverse. -/
def inputFrom (bytes : ByteArray) : (bound position : Nat) → (read : List Char) → List Char
  | 0, _, read => read.reverse
  | bound + 1, position, read =>
      if bytes.size ≤ position then read.reverse
      else
        match bytes.utf8DecodeChar? position with
        | some c => inputFrom bytes bound (position + c.utf8Size) (readable c :: read)
        | none => inputFrom bytes bound (position + 1) (malformed :: read)

/-- What bytes are read as. -/
def inputOfBytes (bytes : ByteArray) : List Char :=
  inputFrom bytes bytes.size 0 []

end ResultBoards.Json
