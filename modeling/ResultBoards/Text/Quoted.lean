import ResultBoards.Text.Hex
import ResultBoards.Text.Unprintable

/-!
# Texts quoted in messages

A message that shows a text a user gave puts it in double quotes and escapes what
would not be seen.
-/

namespace ResultBoards.Text

/-- One character of a quoted text.  The quote, the backslash and the common control
characters have short escapes; everything else without a visible shape is written as
its code point in hexadecimal. -/
def quotedChar (c : Char) : List Char :=
  if c = '"' then ['\\', '"']
  else if c = '\\' then ['\\', '\\']
  else if c = '\n' then ['\\', 'n']
  else if c = '\r' then ['\\', 'r']
  else if c = '\t' then ['\\', 't']
  else if c = '\x00' then ['\\', '0']
  else if isUnprintable c then ['\\', 'u', '\x7b'] ++ hexNumeral c.toNat ++ ['\x7d']
  else [c]

/-- A text in double quotes with invisible characters escaped. -/
def quoted (text : String) : String :=
  String.ofList ('"' :: text.toList.flatMap quotedChar ++ ['"'])

end ResultBoards.Text
