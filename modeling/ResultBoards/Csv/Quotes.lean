/-!
# Quotes in CSV

A text is taken for CSV only where its quotes enclose whole fields.  The check scans
the text once and reports the first quote that does not: one inside a bare field, one
that closes a field with more text behind it, or one that opens a field that never
ends.  A field starts at the start of the text and after each comma and line feed
outside quotes.
-/

namespace ResultBoards.Csv

/-- What is wrong with the quotes of a text, and on which line. -/
inductive QuoteProblem
  | stray (line : Nat)
  | neverClosed (line : Nat)
deriving DecidableEq, Repr

/-- The problem in words. -/
def QuoteProblem.message : QuoteProblem → String
  | .stray line => s!"stray quote on line {line}"
  | .neverClosed line => s!"quoted field opened on line {line} is never closed"

/-- A rest of a text that may follow a closing quote. -/
def mayFollowQuote : List Char → Bool
  | [] => true
  | c :: _ => c == ',' || c == '\r' || c == '\n'

/-- Where the check stands: before the first character of a field, further on outside
quotes, or in a quoted field that was opened on a line. -/
inductive QuotePlace
  | fieldStart
  | outside
  | inside (openedOn : Nat)
deriving DecidableEq, Repr

/-- Checks the quotes of the rest of a text that starts on a line. -/
def checkQuotesFrom : QuotePlace → (line : Nat) → List Char → Except QuoteProblem Unit
  | .inside openedOn, _, [] => .error (.neverClosed openedOn)
  | .inside openedOn, line, '"' :: '"' :: rest => checkQuotesFrom (.inside openedOn) line rest
  | .inside _, line, '"' :: rest =>
      if mayFollowQuote rest then checkQuotesFrom .outside line rest else .error (.stray line)
  | .inside openedOn, line, c :: rest =>
      checkQuotesFrom (.inside openedOn) (if c = '\n' then line + 1 else line) rest
  | _, _, [] => .ok ()
  | place, line, c :: rest =>
      if c = '"' then
        if place = .fieldStart then checkQuotesFrom (.inside line) line rest
        else .error (.stray line)
      else if c = ',' then checkQuotesFrom .fieldStart line rest
      else if c = '\n' then checkQuotesFrom .fieldStart (line + 1) rest
      else checkQuotesFrom .outside line rest

/-- Checks the quotes of a text. -/
def checkQuotes (text : List Char) : Except QuoteProblem Unit :=
  checkQuotesFrom .fieldStart 1 text

end ResultBoards.Csv
