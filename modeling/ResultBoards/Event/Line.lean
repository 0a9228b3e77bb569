import ResultBoards.Event
import ResultBoards.Text.Hex

/-!
# Lines of the log

An event is written as its level, the part of the program that it comes from, and its
message.
-/

namespace ResultBoards.Event

/-- The part of the program that events come from. -/
def target : String := "workflow_dashboards"

/-- A character of a message.  Characters that would control a terminal are written as
escapes. -/
def writeChar (c : Char) : List Char :=
  if ['\x07', '\x08', '\x0c', '\x1b', '\x7f'].contains c then
    '\\' :: 'x' :: [Text.hexDigit (c.toNat / 16), Text.hexDigit (c.toNat % 16)]
  else if '\u0080' ≤ c ∧ c ≤ '\u009f' then
    '\\' :: 'u' :: '\x7b' :: Text.hexNumeral c.toNat ++ ['\x7d']
  else [c]

/-- An event as it is written to the log. -/
def toText (event : Event) : String :=
  s!"{event.level.name} {target}: " ++ String.ofList (event.message.toList.flatMap writeChar)

end ResultBoards.Event
