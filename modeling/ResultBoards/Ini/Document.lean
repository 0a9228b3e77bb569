import ResultBoards.Json.Value
import ResultBoards.Text.Blank
import ResultBoards.Text.Digits

/-!
# INI documents

A document consists of sections with keys and values.  All values are texts.
-/

namespace ResultBoards.Ini

open Json (Value)

/-- The character that an escape stands for; nothing for an escaped line end. -/
def escaped (c : Char) : List Char :=
  match c with
  | '0' => ['\x00']
  | 'a' => ['\x07']
  | 'b' => ['\x08']
  | 't' => ['\t']
  | 'r' => ['\r']
  | 'n' => ['\n']
  | '\n' => []
  | c => [c]

/-- The character that four characters write as a hexadecimal number.  A plus sign may stand
in front. -/
def charOfCode? (code : List Char) : Option Char :=
  let digits := match code with
    | '+' :: rest => rest
    | rest => rest
  (Text.readHex digits.length digits).bind fun (number, _) => Text.charOfCode? number

/-- Reads characters and escapes up to one that ends them.  The end of the text is an end
only where that is said.  Where nothing could be read, the text is given from which reading
may go on. -/
def readUntil (isEnd : Char → Bool) (mayEnd : Bool) : (fuel : Nat) → (read : List Char) →
    List Char → Except (List Char) (List Char × List Char)
  | 0, _, text => .error text
  | _ + 1, read, [] => if mayEnd then .ok (read.reverse, []) else .error []
  | fuel + 1, read, c :: rest =>
      if isEnd c then .ok (read.reverse, c :: rest)
      else if c = '\\' then
        match rest with
        | [] => readUntil isEnd mayEnd fuel ('\\' :: read) []
        | 'x' :: rest =>
            let after := rest.drop 4
            match if rest.length < 4 then none else charOfCode? (rest.take 4) with
            | some c => readUntil isEnd mayEnd fuel (c :: read) after
            | none => .error after
        | c :: rest => readUntil isEnd mayEnd fuel (escaped c ++ read) rest
      else readUntil isEnd mayEnd fuel (c :: read) rest

/-- A character that ends a line. -/
def isLineEnd (c : Char) : Bool :=
  c == '\n' || c == '\r'

/-- A text without the blanks at its end. -/
def trimEnd (text : List Char) : List Char :=
  (text.reverse.dropWhile Text.isBlank).reverse

/-- A text without the blanks around it. -/
def trim (text : List Char) : List Char :=
  trimEnd (Text.dropBlank text)

/-- Reads a value: parts in quotes, and last the rest of the line. -/
def readValue : (fuel : Nat) → (read : List Char) → (isFirst : Bool) → List Char →
    Except (List Char) (List Char × List Char)
  | 0, _, _, text => .error text
  | fuel + 1, read, isFirst, text =>
      match text with
      | [] => .ok (read, [])
      | c :: rest =>
          if c = '"' ∨ c = '\x27' then do
            let (part, rest) ← readUntil (· == c) false (rest.length + 1) [] rest
            readValue fuel (read ++ part) false (rest.drop 1)
          else do
            let (part, rest) ← readUntil isLineEnd true (text.length + 2) [] text
            return (read ++ (if isFirst then trim part else trimEnd part), rest)

/-- What has been read: the members of the document, and the section that is open. -/
structure Draft where
  members : List (String × Value)
  name? : Option String
  entries : List (String × Value)

/-- The members of the document with those of the open section. -/
def Draft.close (draft : Draft) : List (String × Value) :=
  match draft.name? with
  | none => draft.members ++ draft.entries
  | some name => draft.members ++ [(name, .object draft.entries)]

/-- Adds an entry to the open section. -/
def Draft.add (draft : Draft) (key value : List Char) : Draft :=
  let entry := (String.ofList key, Value.string (String.ofList value))
  { draft with entries := draft.entries ++ [entry] }

/-- Where between entries the reader is: where a line starts, after a carriage return, or
within a line. -/
inductive Place
  | start
  | returned
  | within
deriving DecidableEq, Repr

/-- Reads a value after the sign that follows its key. -/
def readAssigned (draft : Draft) (key text : List Char) :
    Except (List Char) (Draft × List Char) := do
  let start := (text.drop 1).dropWhile fun c => Text.isBlank c && !isLineEnd c
  let (value, rest) ← readValue (start.length + 1) [] true start
  if (trim key).isEmpty then .error rest else return (draft.add (trim key) value, rest)

/-- Reads a key up to the sign that follows it, which may be on a later line. -/
def readKey (text : List Char) : Except (List Char) (List Char × List Char) :=
  readUntil (fun c => c == '=' || c == ':') false (text.length + 2) [] text

/-- Reads the name of a section after its bracket. -/
def readName (text : List Char) : Except (List Char) (List Char × List Char) :=
  readUntil (· == ']') false (text.length + 2) [] text

/-- Reads what is left of a document.  Comments start where a line does.  An indented line
holds a key; where no key can be read, it does not count. -/
def readDocument : (fuel : Nat) → Draft → Place → List Char → Option Value
  | 0, _, _, _ => none
  | fuel + 1, draft, place, text =>
      match text with
      | [] => some (.object draft.close)
      | c :: rest =>
          if c = '\n' then readDocument fuel draft .start rest
          else if c = '\r' then readDocument fuel draft .returned rest
          else if place ≠ .within ∧ (c = ' ' ∨ c = '\t') then
            match readKey (text.dropWhile fun c => c == ' ' || c == '\t') with
            | .error rest => readDocument fuel draft .within rest
            | .ok (key, rest) =>
                match readAssigned draft key rest with
                | .ok (draft, rest) => readDocument fuel draft .within rest
                | .error _ => none
          else if Text.isBlank c then readDocument fuel draft .within rest
          else if c = ';' ∨ c = '#' then
            if place = .start then
              readDocument fuel draft .start ((rest.dropWhile (· ≠ '\n')).drop 1)
            else none
          else if c = '[' then
            match readName rest with
            | .ok (name, rest) =>
                readDocument fuel ⟨draft.close, some (String.ofList (trim name)), []⟩ .within
                  (rest.drop 1)
            | .error _ => none
          else
            match (readKey text).bind fun (key, rest) => readAssigned draft key rest with
            | .ok (draft, rest) => readDocument fuel draft .within rest
            | .error _ => none

/-- The value of a document. -/
def ofText? (text : String) : Option Value :=
  readDocument (text.length + 1) ⟨[], none, []⟩ .start text.toList

end ResultBoards.Ini
