import ResultBoards.Json.Lexical

/-!
# Reading JSON values

The two loops over the parts of a value, `readElements` and `readMembers`, are shared by
every decoder: they hold the grammar of commas and say where in the document a problem
was met.  `readValue` keeps a whole value and counts how deep it is nested; `skipValue`
passes over a value of any depth.
-/

namespace ResultBoards.Json

/-- Reads something from the start of a text and returns the rest. -/
abbrev Reader (α : Type) := List Char → Except Failure (α × List Char)

/-- How much a reader may do: the number of steps of its loops, at least one more than
the number of characters left, and the number of values that may still be nested. -/
structure Limits where
  steps : Nat
  depth : Nat
deriving DecidableEq, Repr

/-- The nesting that a document may have. -/
def maxDepth : Nat := 127

/-- The limits for a whole text. -/
def Limits.forText (text : List Char) : Limits :=
  ⟨text.length + 1, maxDepth⟩

/-- A problem met by a piece is a failure at the value at hand. -/
def atHere {α : Type} : Except Problem α → Except Failure α
  | .ok value => .ok value
  | .error problem => .error (.here problem)

/-- A failure met in a part of the value at hand. -/
def atStep {α : Type} (step : PathStep) : Except Failure α → Except Failure α
  | .ok value => .ok value
  | .error failure => .error (failure.below step)

/-! ## Parts of a value -/

/-- Goes to the next element of an array after its opening bracket: the text of the
element, or nothing at the closing bracket, which is left in place. -/
def nextElement (position : Nat) (text : List Char) :
    Except Problem (Option (List Char) × List Char) :=
  match dropBlank text with
  | [] => .error .listNotClosed
  | ']' :: rest => .ok (none, ']' :: rest)
  | c :: rest =>
      if position = 0 then .ok (some (c :: rest), [])
      else if c = ',' then
        match dropBlank rest with
        | [] => .error .valueMissing
        | ']' :: _ => .error .trailingComma
        | element => .ok (some element, [])
      else .error .listCommaOrEndExpected

/-- Reads the next element of an array, if there is one. -/
def readElement {α : Type} (element : Reader α) (position : Nat) : Reader (Option α) :=
  fun text =>
    atStep (.index position) <|
      match nextElement position text with
      | .error problem => .error (.here problem)
      | .ok (none, rest) => .ok (none, rest)
      | .ok (some text, _) =>
          match element text with
          | .error failure => .error failure
          | .ok (value, rest) => .ok (some value, rest)

/-- Reads the elements of an array from a position on, with those before it in reverse,
up to the closing bracket. -/
def readElements {α : Type} (element : Reader α) :
    (steps position : Nat) → (read : List α) → Reader (List α)
  | 0, _, _, _ => .error (.here .listNotClosed)
  | steps + 1, position, read, text =>
      match readElement element position text with
      | .error failure => .error failure
      | .ok (none, rest) => .ok (read.reverse, rest)
      | .ok (some value, rest) => readElements element steps (position + 1) (value :: read) rest

/-- Reads the closing bracket of an array. -/
def closeArray (text : List Char) : Except Problem (List Char) :=
  match dropBlank text with
  | [] => .error .listNotClosed
  | ']' :: rest => .ok rest
  | ',' :: rest =>
      match dropBlank rest with
      | ']' :: _ => .error .trailingComma
      | _ => .error .trailingCharacters
  | _ => .error .trailingCharacters

/-- Goes to the next member of an object after its opening brace: the text after the
opening quote of its name, or nothing after the closing brace. -/
def nextMember (first : Bool) (text : List Char) :
    Except Problem (Option (List Char) × List Char) :=
  match dropBlank text with
  | [] => .error .objectNotClosed
  | '\x7d' :: rest => .ok (none, rest)
  | c :: rest =>
      if first then
        if c = '"' then .ok (some rest, []) else .error .keyNotString
      else if c = ',' then
        match dropBlank rest with
        | [] => .error .valueMissing
        | '"' :: name => .ok (some name, [])
        | '\x7d' :: _ => .error .trailingComma
        | _ => .error .keyNotString
      else .error .objectCommaOrEndExpected

/-- Reads the colon between a name and its value. -/
def readColon (text : List Char) : Except Problem (List Char) :=
  match dropBlank text with
  | [] => .error .objectNotClosed
  | ':' :: rest => .ok rest
  | _ => .error .colonExpected

/-- Reads the members of an object up to and including the closing brace.  What has been
gathered so far and a name decide what to do with the member of that name: refuse it
before its colon, or read its value and gather more. -/
def readMembers {σ : Type} (member : σ → String → Except Problem (Reader σ)) :
    (steps : Nat) → (first : Bool) → σ → Reader σ
  | 0, _, _, _ => .error (.here .objectNotClosed)
  | steps + 1, first, gathered, text =>
      match nextMember first text with
      | .error problem => .error (.here problem)
      | .ok (none, rest) => .ok (gathered, rest)
      | .ok (some text, _) =>
          match readChars (steps + 1) (some []) text with
          | .error problem => .error (.here problem)
          | .ok (name, rest) =>
              match member gathered name with
              | .error problem => .error (.here problem)
              | .ok read =>
                  let value := match readColon rest with
                    | .error problem => .error (.here problem)
                    | .ok rest => read rest
                  match atStep (.key name) value with
                  | .error failure => .error failure
                  | .ok (gathered, rest) => readMembers member steps false gathered rest

/-! ## Whole values -/

/-- Reads a value that is neither an array nor an object.  The text has no blank in
front. -/
def readScalar (steps : Nat) : Reader Value
  | [] => .error (.here .valueMissing)
  | c :: rest =>
      atHere <|
        if c = 'n' then (readWord ['u', 'l', 'l'] rest).map fun rest => (.null, rest)
        else if c = 't' then (readWord ['r', 'u', 'e'] rest).map fun rest => (.bool true, rest)
        else if c = 'f' then
          (readWord ['a', 'l', 's', 'e'] rest).map fun rest => (.bool false, rest)
        else if c = '"' then
          (readChars steps (some []) rest).map fun (value, rest) => (.string value, rest)
        else if c = '-' then
          (readNumber true rest).map fun (value, rest) => (.number value, rest)
        else if c.isDigit then
          (readNumber false (c :: rest)).map fun (value, rest) => (.number value, rest)
        else .error .valueExpected

/-- Reads a whole value with at most `depth` values nested in one another. -/
def readValue (steps : Nat) : (depth : Nat) → Reader Value
  | depth, text =>
      match dropBlank text with
      | '[' :: rest =>
          match depth with
          | 0 => .error (.here .nestingTooDeep)
          | depth + 1 =>
              match readElements (readValue steps depth) steps 0 [] rest with
              | .error failure => .error failure
              | .ok (elements, rest) =>
                  match closeArray rest with
                  | .error problem => .error (.here problem)
                  | .ok rest => .ok (.array elements, rest)
      | '\x7b' :: rest =>
          match depth with
          | 0 => .error (.here .nestingTooDeep)
          | depth + 1 =>
              let member (read : List (String × Value)) (name : String) :
                  Except Problem (Reader (List (String × Value))) :=
                .ok fun text =>
                  match readValue steps depth text with
                  | .error failure => .error failure
                  | .ok (value, rest) => .ok ((name, value) :: read, rest)
              match readMembers member steps true [] rest with
              | .error failure => .error failure
              | .ok (read, rest) => .ok (.object read.reverse, rest)
      | text => readScalar steps text

/-! ## Skipped values

A skipped value may be nested to any depth, so the arrays and objects around the place
reached so far are kept in a list.  The grammar is that of kept values, but its problems
are named differently after a comma: what must follow is a value or a name, whatever
stands there instead. -/

/-- An array or an object that is not closed yet. -/
inductive Frame
  | array
  | object
deriving DecidableEq, Repr

/-- Where in a skipped value the text stands: before a value, after the bracket that
opened the innermost frame, or after a value. -/
inductive Place
  | beforeValue
  | opened
  | afterValue
deriving DecidableEq, Repr

/-- The problem of a text that ends inside a frame. -/
def Frame.notClosed : Frame → Problem
  | .array => .listNotClosed
  | .object => .objectNotClosed

/-- The problem of a value in a frame that is followed neither by a comma nor by the end
of the frame. -/
def Frame.separatorExpected : Frame → Problem
  | .array => .listCommaOrEndExpected
  | .object => .objectCommaOrEndExpected

/-- The character that closes a frame. -/
def Frame.closing : Frame → Char
  | .array => ']'
  | .object => '\x7d'

/-- Skips the start of a value: a whole scalar, or the bracket that opens a frame. -/
def skipStart (steps : Nat) (frames : List Frame) (text : List Char) :
    Except Problem (List Frame × Place × List Char) :=
  match dropBlank text with
  | [] => .error .valueMissing
  | c :: rest =>
      let scalar (result : Except Problem (List Char)) :
          Except Problem (List Frame × Place × List Char) :=
        result.map fun rest => (frames, .afterValue, rest)
      if c = 'n' then scalar (readWord ['u', 'l', 'l'] rest)
      else if c = 't' then scalar (readWord ['r', 'u', 'e'] rest)
      else if c = 'f' then scalar (readWord ['a', 'l', 's', 'e'] rest)
      else if c = '"' then scalar (skipChars steps rest)
      else if c = '-' then scalar (skipNumber rest)
      else if c.isDigit then scalar (skipNumber (c :: rest))
      else if c = '[' then .ok (.array :: frames, .opened, rest)
      else if c = '\x7b' then .ok (.object :: frames, .opened, rest)
      else .error .valueExpected

/-- Skips a name and its colon. -/
def skipName (steps : Nat) (text : List Char) : Except Problem (List Char) :=
  match dropBlank text with
  | [] => .error .objectNotClosed
  | '"' :: name =>
      match skipChars steps name with
      | .error problem => .error problem
      | .ok rest => readColon rest
  | _ => .error .keyNotString

/-- Skips what must come next in a frame: the start of an element or of a member. -/
def skipPart (steps : Nat) (frame : Frame) (frames : List Frame) (text : List Char) :
    Except Problem (List Frame × Place × List Char) :=
  match frame with
  | .array => skipStart steps (.array :: frames) text
  | .object =>
      match skipName steps text with
      | .error problem => .error problem
      | .ok rest => .ok (.object :: frames, .beforeValue, rest)

/-- Skips up to the end of the outermost value. -/
def skipFrom : (steps : Nat) → List Frame → Place → List Char → Except Problem (List Char)
  | 0, _, _, _ => .error .valueMissing
  | steps + 1, frames, .beforeValue, text =>
      match skipStart (steps + 1) frames text with
      | .error problem => .error problem
      | .ok (frames, place, rest) => skipFrom steps frames place rest
  | _ + 1, [], _, text => .ok text
  | steps + 1, frame :: frames, place, text =>
      match dropBlank text with
      | [] => .error frame.notClosed
      | c :: rest =>
          if c = frame.closing then skipFrom steps frames .afterValue rest
          else
            let part : Except Problem (List Char) :=
              if place = .opened then .ok (c :: rest)
              else if c = ',' then .ok rest
              else .error frame.separatorExpected
            match part with
            | .error problem => .error problem
            | .ok text =>
                match skipPart (steps + 1) frame frames text with
                | .error problem => .error problem
                | .ok (frames, place, rest) => skipFrom steps frames place rest

/-- Skips a value. -/
def skipValue (steps : Nat) (text : List Char) : Except Problem (List Char) :=
  skipFrom (steps + 1) [] .beforeValue text

end ResultBoards.Json
