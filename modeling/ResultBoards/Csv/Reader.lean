/-!
# Reading CSV

Fields are separated by commas and records by carriage returns and line feeds, in any
number, so blank lines hold no record.  A field that starts with a quote runs to the
next single quote; two quotes in it stand for one.  A quote elsewhere is an ordinary
character, and a byte order mark at the very start is no part of the first field.
-/

namespace ResultBoards.Csv

/-- Where the reader stands. -/
inductive Place
  | recordStart
  | fieldStart
  | bare
  | quoted
  | quoteSeen
deriving DecidableEq, Repr

/-- A character that ends a record. -/
def isLineEnd (c : Char) : Bool :=
  c == '\n' || c == '\r'

/-- The record with one more field, given in reverse, that ends it. -/
def endRecord (field : List Char) (fields : List String) : List String :=
  (String.ofList field.reverse :: fields).reverse

/-- The records of the rest of a text, where the field at hand and the fields before
it are given in reverse. -/
def readFrom : Place → (field : List Char) → (fields : List String) → List Char →
    List (List String)
  | .recordStart, _, _, [] => []
  | _, field, fields, [] => [endRecord field fields]
  | .recordStart, _, _, c :: rest =>
      if isLineEnd c then readFrom .recordStart [] [] rest
      else if c = ',' then readFrom .fieldStart [] [""] rest
      else if c = '"' then readFrom .quoted [] [] rest
      else readFrom .bare [c] [] rest
  | .fieldStart, _, fields, c :: rest =>
      if isLineEnd c then endRecord [] fields :: readFrom .recordStart [] [] rest
      else if c = ',' then readFrom .fieldStart [] ("" :: fields) rest
      else if c = '"' then readFrom .quoted [] fields rest
      else readFrom .bare [c] fields rest
  | .bare, field, fields, c :: rest =>
      if isLineEnd c then endRecord field fields :: readFrom .recordStart [] [] rest
      else if c = ',' then
        readFrom .fieldStart [] (String.ofList field.reverse :: fields) rest
      else readFrom .bare (c :: field) fields rest
  | .quoted, field, fields, c :: rest =>
      if c = '"' then readFrom .quoteSeen field fields rest
      else readFrom .quoted (c :: field) fields rest
  | .quoteSeen, field, fields, c :: rest =>
      if isLineEnd c then endRecord field fields :: readFrom .recordStart [] [] rest
      else if c = ',' then
        readFrom .fieldStart [] (String.ofList field.reverse :: fields) rest
      else if c = '"' then readFrom .quoted ('"' :: field) fields rest
      else readFrom .bare (c :: field) fields rest

/-- The text after a byte order mark. -/
def dropByteOrderMark : List Char → List Char
  | [] => []
  | c :: rest => if c = '\ufeff' then rest else c :: rest

/-- The records of a text. -/
def readRecords (text : List Char) : List (List String) :=
  readFrom .recordStart [] [] (dropByteOrderMark text)

end ResultBoards.Csv
