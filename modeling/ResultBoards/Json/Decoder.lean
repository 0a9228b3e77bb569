import ResultBoards.Json.Reader

/-!
# Decoding data from JSON

A decoder reads a value of a type straight from a text, so the first problem of the
text is the one reported, whether it lies in the grammar or in the data.  Structures are
decoded from an object, whose members may come in any order and with unknown ones
among them, or from an array of their fields in the order of declaration.
-/

namespace ResultBoards.Json

/-- What a value is, for a message that expected something else. -/
def Value.found : Value → Found
  | .null => .null
  | .bool value => .bool value
  | .number (.integer value) => .integer value
  | .number (.real value) => .real value
  | .string value => .string value
  | .array _ => .sequence
  | .object _ => .map

/-- Reads a value of a type within limits. -/
abbrev Decoder (α : Type) := Limits → Reader α

namespace Decoder

/-- The problem of a value that is not what was expected.  A scalar is read first, so
one that is malformed is reported as such. -/
def mismatch {α : Type} (expected : String) : Decoder α := fun limits text =>
  match dropBlank text with
  | '[' :: _ => .error (.here (.typeMismatch .sequence expected))
  | '\x7b' :: _ => .error (.here (.typeMismatch .map expected))
  | text =>
      match readScalar limits.steps text with
      | .error failure => .error failure
      | .ok (value, _) => .error (.here (.typeMismatch value.found expected))

/-- A value inside one more array or object. -/
def nested {α : Type} (inside : Decoder α) : Decoder α := fun limits text =>
  match limits.depth with
  | 0 => .error (.here .nestingTooDeep)
  | depth + 1 => inside ⟨limits.steps, depth⟩ text

/-- Decodes a string, which is then checked. -/
def checkedString {α : Type} (expected : String) (check : String → Except Problem α) :
    Decoder α := fun limits text =>
  match dropBlank text with
  | '"' :: rest =>
      match readChars limits.steps (some []) rest with
      | .error problem => .error (.here problem)
      | .ok (value, rest) =>
          match check value with
          | .error problem => .error (.here problem)
          | .ok checked => .ok (checked, rest)
  | text => mismatch expected limits text

/-- Decodes a string. -/
def string : Decoder String :=
  checkedString "a string" .ok

/-- Decodes `null` or a value. -/
def optional {α : Type} (decoder : Decoder α) : Decoder (Option α) := fun limits text =>
  match dropBlank text with
  | 'n' :: rest => atHere ((readWord ['u', 'l', 'l'] rest).map fun rest => (none, rest))
  | text => (decoder limits text).map fun (value, rest) => (some value, rest)

/-- Decodes the elements of an array after its opening bracket. -/
def elements {α : Type} (decoder : Decoder α) : Decoder (List α) := fun limits text =>
  match readElements (decoder limits) limits.steps 0 [] text with
  | .error failure => .error failure
  | .ok (values, rest) => (atHere (closeArray rest)).map fun rest => (values, rest)

/-- Decodes an array. -/
def list {α : Type} (decoder : Decoder α) : Decoder (List α) := fun limits text =>
  match dropBlank text with
  | '[' :: rest => nested (elements decoder) limits rest
  | text => mismatch "a sequence" limits text

/-- Decodes the members of an object after its opening brace: puts each into what has
been gathered, in the order of the text. -/
def members {σ β : Type} (decoder : Decoder β) (put : σ → String → β → σ) (empty : σ) :
    Decoder σ := fun limits text =>
  let member (gathered : σ) (name : String) : Except Problem (Reader σ) :=
    .ok fun text =>
      (decoder limits text).map fun (value, rest) => (put gathered name value, rest)
  readMembers member limits.steps true empty text

/-- Decodes an object whose names are data. -/
def map {σ β : Type} (decoder : Decoder β) (put : σ → String → β → σ) (empty : σ) :
    Decoder σ := fun limits text =>
  match dropBlank text with
  | '\x7b' :: rest => nested (members decoder put empty) limits rest
  | text => mismatch "a map" limits text

/-- Decodes a text that holds a value and nothing else but blanks. -/
def decode {α : Type} (decoder : Decoder α) (text : String) : Except Failure α :=
  match decoder (.forText (inputOfText text)) (inputOfText text) with
  | .error failure => .error failure
  | .ok (value, rest) =>
      match dropBlank rest with
      | [] => .ok value
      | _ => .error (.here .trailingCharacters)

/-- Decodes the value that bytes start with. -/
def decodeFirst {α : Type} (decoder : Decoder α) (bytes : ByteArray) : Except Failure α :=
  (decoder (.forText (inputOfBytes bytes)) (inputOfBytes bytes)).map Prod.fst

end Decoder

/-! ## Structures -/

/-- A field of a structure while its fields are being gathered in a `σ`. -/
structure Field (σ : Type) where
  name : String
  isRequired : Bool
  isSet : σ → Bool
  read : σ → Decoder σ

/-- A field whose value is kept in a slot of the gathering. -/
def Field.ofSlot {σ β : Type} (name : String) (isRequired : Bool) (decoder : Decoder β)
    (slot : σ → Option β) (fill : σ → β → σ) : Field σ where
  name := name
  isRequired := isRequired
  isSet gathered := (slot gathered).isSome
  read gathered limits text :=
    (decoder limits text).map fun (value, rest) => (fill gathered value, rest)

/-- How the fields of a structure are gathered and what they are built into. -/
structure Shape (σ α : Type) where
  name : String
  empty : σ
  fields : List (Field σ)
  build : σ → Except Problem α

/-- A field that must be there. -/
def required {β : Type} (name : String) : Option β → Except Problem β
  | some value => .ok value
  | none => .error (.fieldMissing name)

namespace Shape

variable {σ α : Type}

/-- What was expected where the fields are too few. -/
def expectedLength (shape : Shape σ α) : String :=
  let count := shape.fields.length
  if count = 1 then s!"struct {shape.name} with 1 element"
  else s!"struct {shape.name} with {count} elements"

/-- Reads the member of a structure with the given name.  Unknown members are skipped. -/
def member (shape : Shape σ α) (limits : Limits) (gathered : σ) (name : String) :
    Except Problem (Reader σ) :=
  match shape.fields.find? fun field => field.name = name with
  | none =>
      .ok fun text => (atHere (skipValue limits.steps text)).map fun rest => (gathered, rest)
  | some field =>
      if field.isSet gathered then .error (.fieldRepeated name)
      else .ok (field.read gathered limits)

/-- Decodes the members of a structure after the opening brace. -/
def members (shape : Shape σ α) : Decoder α := fun limits text =>
  match readMembers (shape.member limits) limits.steps true shape.empty text with
  | .error failure => .error failure
  | .ok (gathered, rest) => (atHere (shape.build gathered)).map fun value => (value, rest)

/-- Reads the fields of a structure from the elements of an array. -/
def readFields (shape : Shape σ α) (limits : Limits) :
    List (Field σ) → (position : Nat) → σ → Reader σ
  | [], _, gathered, text => .ok (gathered, text)
  | field :: fields, position, gathered, text =>
      match readElement (field.read gathered limits) position text with
      | .error failure => .error failure
      | .ok (some gathered, rest) => readFields shape limits fields (position + 1) gathered rest
      | .ok (none, rest) =>
          if field.isRequired then
            .error (.here (.lengthMismatch position shape.expectedLength))
          else readFields shape limits fields (position + 1) gathered rest

/-- Decodes the fields of a structure after the opening bracket. -/
def elements (shape : Shape σ α) : Decoder α := fun limits text =>
  match shape.readFields limits shape.fields 0 shape.empty text with
  | .error failure => .error failure
  | .ok (gathered, rest) =>
      match shape.build gathered with
      | .error problem => .error (.here problem)
      | .ok value => (atHere (closeArray rest)).map fun rest => (value, rest)

/-- Decodes a structure from an object or from an array of its fields. -/
def decoder (shape : Shape σ α) : Decoder α := fun limits text =>
  match dropBlank text with
  | '[' :: rest => Decoder.nested shape.elements limits rest
  | '\x7b' :: rest => Decoder.nested shape.members limits rest
  | text => Decoder.mismatch s!"struct {shape.name}" limits text

end Shape

end ResultBoards.Json
