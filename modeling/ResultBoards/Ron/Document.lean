import ResultBoards.Ron.Number
import ResultBoards.Ron.Text

/-!
# RON documents

Values are lists, mappings, structures and optional values.  A structure with names for its
fields is a mapping, and one without them is a list; what a structure is called does not
count.
-/

namespace ResultBoards.Ron

open Json (Value)

/-- What follows a word that opens a structure, or stands on its own. -/
inductive Shape
  | unit
  | fields
  | elements
deriving DecidableEq, Repr

/-- The shape of a structure whose name has been read, if it has one. -/
def shapeOf? (text : List Char) : Option Shape :=
  match text with
  | '(' :: rest => do
      match readName (← trimStart rest) with
      | none => return .elements
      | some (_, rest) =>
          match ← trimStart rest with
          | ':' :: _ => return .fields
          | _ => return .elements
  | _ => some .unit

/-- The values that are written as words. -/
def words : List (String × Value) := [
  ("true", .bool true), ("false", .bool false), ("None", .null),
  ("inf", .number (.real (.infinite false))), ("inff32", .number (.real (.infinite false))),
  ("inff64", .number (.real (.infinite false))), ("NaN", .number (.real .nan)),
  ("NaNf32", .number (.real .nan)), ("NaNf64", .number (.real .nan))]

/-- Reads a text: a string or a character. -/
def readText : List Char → Option (String × List Char)
  | '\x27' :: rest => (readChar rest).map fun (c, rest) => (String.singleton c, rest)
  | text => readString text

/-- Reads a number, a text or a byte. -/
def readScalar (text : List Char) : Option (Value × List Char) :=
  match text with
  | 'b' :: '\x27' :: rest => (readByte rest).map fun (value, rest) => (.ofNat value, rest)
  | _ => ((readText text).map fun (value, rest) => (.string value, rest)).or (readNumber text)

/-- Reads the name of a member and the colon after it.  Only texts can be names. -/
def readKey (text : List Char) : Option (String × List Char) := do
  let (name, rest) ← readText text
  return (name, ← trimStart (← after? ':' rest))

/-- Reads the name of a field and the colon after it. -/
def readFieldName (text : List Char) : Option (String × List Char) := do
  let (name, rest) ← readName text
  return (name.text, ← trimStart (← after? ':' rest))

mutual

/-- Reads a value.  Values in it may be nested as long as the depth allows. -/
def readValue : (fuel depth : Nat) → List Char → Option (Value × List Char)
  | 0, _, _ => none
  | fuel + 1, depth, text =>
      match text, depth with
      | '(' :: ')' :: rest, _ => some (.null, rest)
      | '[' :: rest, depth + 1 => readElements fuel depth ']' true [] rest
      | '\x7b' :: rest, depth + 1 => readMembers fuel depth '\x7d' true [] rest
      | _, _ =>
          match readName text with
          | some (.word "Some", rest) =>
              match trimStart rest, depth with
              | some ('(' :: rest), depth + 1 =>
                  match (trimStart rest).bind (readValue fuel depth) with
                  | some (value, rest) =>
                      match readComma rest with
                      | some (_, ')' :: rest) => some (value, rest)
                      | _ => none
                  | none => none
              | _, _ => none
          | some (name, rest) =>
              match name, words.lookup name.text with
              | .word _, some value => some (value, rest)
              | _, _ => (trimStart rest).bind (readStructure fuel depth)
          | none =>
              if text.head? = some '(' then readStructure fuel depth text else readScalar text

/-- Reads a structure after its name. -/
def readStructure : (fuel depth : Nat) → List Char → Option (Value × List Char)
  | 0, _, _ => none
  | fuel + 1, depth, text =>
      match shapeOf? text, depth with
      | some .unit, _ => some (.null, text)
      | some .fields, depth + 1 => readMembers fuel depth ')' true [] (text.drop 1)
      | some .elements, depth + 1 => readElements fuel depth ')' true [] (text.drop 1)
      | _, _ => none

/-- Reads the elements of a list up to what closes it.  Each but the first stands after a
comma. -/
def readElements : (fuel depth : Nat) → (close : Char) → (mayFollow : Bool) →
    (read : List Value) → List Char → Option (Value × List Char)
  | 0, _, _, _, _, _ => none
  | fuel + 1, depth, close, mayFollow, read, text =>
      match trimStart text with
      | none => none
      | some start =>
          if start.head? = some close then some (.array read.reverse, start.drop 1)
          else
            match mayFollow, depth with
            | true, inner + 1 =>
                match readValue fuel inner start with
                | none => none
                | some (value, rest) =>
                    match readComma rest with
                    | none => none
                    | some (comma, rest) =>
                        readElements fuel depth close comma (value :: read) rest
            | _, _ => none

/-- Reads the members of a mapping or a structure up to what closes it. -/
def readMembers : (fuel depth : Nat) → (close : Char) → (mayFollow : Bool) →
    (read : List (String × Value)) → List Char → Option (Value × List Char)
  | 0, _, _, _, _, _ => none
  | fuel + 1, depth, close, mayFollow, read, text =>
      match trimStart text with
      | none => none
      | some start =>
          if start.head? = some close then some (.object read.reverse, start.drop 1)
          else
            match mayFollow, depth with
            | true, inner + 1 =>
                match if close = ')' then readFieldName start else readKey start with
                | none => none
                | some (name, rest) =>
                    match readValue fuel inner rest with
                    | none => none
                    | some (value, rest) =>
                        match readComma rest with
                        | none => none
                        | some (comma, rest) =>
                            readMembers fuel depth close comma ((name, value) :: read) rest
            | _, _ => none

end

/-! ## Extensions -/

/-- The extensions that a document may ask for.  None of them changes what a value means
that is read without a type in mind. -/
def extensions : List String :=
  ["unwrap_newtypes", "implicit_some", "unwrap_variant_newtypes", "explicit_struct_names"]

/-- The text after some marks with blanks between them. -/
def afterMarks : List Char → List Char → Option (List Char)
  | [], text => some text
  | c :: marks, text =>
      match text with
      | d :: rest => if d = c then (trimStart rest).bind (afterMarks marks) else none
      | [] => none

/-- The text after a list of extensions, without the bracket that closes it. -/
def afterExtensions : (fuel : Nat) → List Char → Option (List Char)
  | 0, _ => none
  | fuel + 1, text => do
      let (name, rest) ← readName text
      if !extensions.contains name.text then none
      let (comma, rest) ← readComma rest
      let follows := rest.head?.any Text.isNamePart
      if comma ∧ follows then afterExtensions fuel rest
      else if follows then none
      else some rest

/-- The text after the attributes that a document starts with. -/
def afterAttributes : (fuel : Nat) → List Char → Option (List Char)
  | 0, _ => none
  | fuel + 1, text =>
      if text.head? = some '#' then do
        let rest ← afterMarks ['#', '!', '['] text
        match rest with
        | 'e' :: 'n' :: 'a' :: 'b' :: 'l' :: 'e' :: rest =>
            let rest ← afterMarks ['('] (← trimStart rest)
            let rest ← afterExtensions (rest.length + 1) rest
            afterAttributes fuel (← afterMarks [')', ']'] rest)
        | _ => none
      else some text

/-! ## Documents -/

/-- How deep values may be nested.  A list and an element of it count as two. -/
def maxDepth : Nat := 128

/-- The value of a document. -/
def ofText? (text : String) : Option Value := do
  let start ← trimStart text.toList
  let start ← afterAttributes (start.length + 1) start
  let (value, rest) ← readValue (3 * start.length + 3) maxDepth start
  if (← trimStart rest).isEmpty then some value else none

end ResultBoards.Ron
