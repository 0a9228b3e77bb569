import ResultBoards.Number.Shortest
import ResultBoards.Text.Quoted

/-!
# What can be wrong with a JSON text

A failure is the first problem met in a text, together with the place in the document
where it was met.  A problem concerns the end of the text, the grammar, or the data: a
well-formed value that is not the one asked for.
-/

namespace ResultBoards.Json

/-- What stood where something else was expected. -/
inductive Found
  | null
  | bool (value : Bool)
  | integer (value : Int)
  | real (value : Binary64)
  | string (value : String)
  | sequence
  | map
deriving DecidableEq, Repr

/-- A problem with a text or with the value it holds. -/
inductive Problem
  | listNotClosed
  | objectNotClosed
  | stringNotClosed
  | valueMissing
  | colonExpected
  | listCommaOrEndExpected
  | objectCommaOrEndExpected
  | identifierExpected
  | valueExpected
  | escapeInvalid
  | numberInvalid
  | numberOutOfRange
  | controlCharacter
  | characterInvalid
  | keyNotString
  | loneSurrogate
  | secondSurrogateMissing
  | trailingComma
  | trailingCharacters
  | nestingTooDeep
  | typeMismatch (found : Found) (expected : String)
  | valueMismatch (found : Found) (expected : String)
  | lengthMismatch (length : Nat) (expected : String)
  | fieldMissing (name : String)
  | fieldRepeated (name : String)
  | variantUnknown (variant : String) (expected : List String)
  | noVariantMatches (type : String)
  | custom (message : String)
deriving DecidableEq, Repr

/-- The kinds of problems. -/
inductive Category
  | eof
  | syntactic
  | data
deriving DecidableEq, Repr

/-- A step from a value to one of its parts. -/
inductive PathStep
  | key (name : String)
  | index (position : Nat)
deriving DecidableEq, Repr

/-- A problem and the path from the root of the document to the value it was met in. -/
structure Failure where
  path : List PathStep
  problem : Problem
deriving DecidableEq, Repr

/-- The found value in words. -/
def Found.describe : Found → String
  | .null => "null"
  | .bool value => s!"boolean `{value}`"
  | .integer value => s!"integer `{value}`"
  | .real value => s!"floating point `{value.toJsonText}`"
  | .string value => s!"string {Text.quoted value}"
  | .sequence => "sequence"
  | .map => "map"

/-- Names in back quotes with commas between them. -/
def listNames (names : List String) : String :=
  ", ".intercalate (names.map fun name => s!"`{name}`")

/-- The choices a name was expected among. -/
def describeChoices : List String → String
  | [] => "there are no variants"
  | [only] => s!"expected `{only}`"
  | [first, second] => s!"expected `{first}` or `{second}`"
  | several => s!"expected one of {listNames several}"

namespace Problem

/-- The kind of a problem. -/
def category : Problem → Category
  | .listNotClosed | .objectNotClosed | .stringNotClosed | .valueMissing => .eof
  | .typeMismatch .. | .valueMismatch .. | .lengthMismatch .. | .fieldMissing _
  | .fieldRepeated _ | .variantUnknown .. | .noVariantMatches _ | .custom _ => .data
  | _ => .syntactic

/-- A problem in words. -/
def message : Problem → String
  | .listNotClosed => "EOF while parsing a list"
  | .objectNotClosed => "EOF while parsing an object"
  | .stringNotClosed => "EOF while parsing a string"
  | .valueMissing => "EOF while parsing a value"
  | .colonExpected => "expected `:`"
  | .listCommaOrEndExpected => "expected `,` or `]`"
  | .objectCommaOrEndExpected => "expected `,` or `\x7d`"
  | .identifierExpected => "expected ident"
  | .valueExpected => "expected value"
  | .escapeInvalid => "invalid escape"
  | .numberInvalid => "invalid number"
  | .numberOutOfRange => "number out of range"
  | .controlCharacter => "control character (\\u0000-\\u001F) found while parsing a string"
  | .characterInvalid => "invalid unicode code point"
  | .keyNotString => "key must be a string"
  | .loneSurrogate => "lone leading surrogate in hex escape"
  | .secondSurrogateMissing => "unexpected end of hex escape"
  | .trailingComma => "trailing comma"
  | .trailingCharacters => "trailing characters"
  | .nestingTooDeep => "recursion limit exceeded"
  | .typeMismatch found expected => s!"invalid type: {found.describe}, expected {expected}"
  | .valueMismatch found expected => s!"invalid value: {found.describe}, expected {expected}"
  | .lengthMismatch length expected => s!"invalid length {length}, expected {expected}"
  | .fieldMissing name => s!"missing field `{name}`"
  | .fieldRepeated name => s!"duplicate field `{name}`"
  | .variantUnknown variant expected => s!"unknown variant `{variant}`, {describeChoices expected}"
  | .noVariantMatches type => s!"data did not match any variant of untagged enum {type}"
  | .custom message => message

end Problem

namespace Failure

/-- A problem with the value at hand itself. -/
def here (problem : Problem) : Failure :=
  ⟨[], problem⟩

/-- The failure seen from the value that holds the one it was met in. -/
def below (step : PathStep) (failure : Failure) : Failure :=
  ⟨step :: failure.path, failure.problem⟩

/-- The failure in words, without its place. -/
def message (failure : Failure) : String :=
  failure.problem.message

/-- A path, with names separated by points and positions in brackets. -/
def pathText : List PathStep → String
  | [] => ""
  | .key name :: rest => name ++ restText rest
  | .index position :: rest => s!"[{position}]" ++ restText rest
where
  restText : List PathStep → String
    | [] => ""
    | .key name :: rest => "." ++ name ++ restText rest
    | .index position :: rest => s!"[{position}]" ++ restText rest

/-- The failure in words after its place, where that is not the root. -/
def placedMessage (failure : Failure) : String :=
  match failure.path with
  | [] => failure.message
  | path => s!"{pathText path}: {failure.message}"

end Failure

end ResultBoards.Json
