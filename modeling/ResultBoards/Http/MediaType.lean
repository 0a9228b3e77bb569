/-!
# Media types

A media type is a type and a subtype with a slash between them, where the subtype may
end in a suffix after a plus sign.  Parameters may follow; they must be well-formed but
do not matter here.
-/

namespace ResultBoards.Http

/-- The characters of names in media types. -/
def isTokenChar (c : Char) : Bool :=
  c.isAlphanum || "!#$%&'*+-.^_\x60|~".toList.contains c

/-- The characters of quoted parameter values. -/
def isQuotedChar (c : Char) : Bool :=
  '\x1f' < c && c != '\x7f'

/-- A media type without its parameters, in lower case. -/
structure MediaType where
  type : String
  subtype : String
  suffix : Option String
deriving DecidableEq, Repr

/-- Where a list of parameters stands: before a name, in a name or a value of which at
least one character was met or not, in a quoted value, or behind one. -/
inductive ParameterPlace
  | beforeName
  | inName
  | beforeValue
  | inValue
  | inQuotes (isEmpty : Bool)
  | afterQuotes
deriving DecidableEq, Repr

/-- Whether the rest of a list of parameters is well-formed. -/
def areParameters : ParameterPlace → List Char → Bool
  | .beforeName, [] => true
  | .beforeName, c :: rest =>
      if c = ' ' then areParameters .beforeName rest
      else if isTokenChar c then areParameters .inName rest
      else false
  | .inName, [] => false
  | .inName, c :: rest =>
      if isTokenChar c then areParameters .inName rest
      else if c = '=' then areParameters .beforeValue rest
      else false
  | .beforeValue, [] => true
  | .beforeValue, c :: rest =>
      if c = '"' then areParameters (.inQuotes true) rest
      else if isTokenChar c then areParameters .inValue rest
      else false
  | .inValue, [] => true
  | .inValue, c :: rest =>
      if isTokenChar c then areParameters .inValue rest
      else if c = ';' then areParameters .beforeName rest
      else false
  | .inQuotes _, [] => false
  | .inQuotes isEmpty, c :: rest =>
      if c = '"' ∧ !isEmpty then areParameters .afterQuotes rest
      else if isQuotedChar c then areParameters (.inQuotes false) rest
      else false
  | .afterQuotes, [] => true
  | .afterQuotes, c :: rest =>
      if c = ';' then areParameters .beforeName rest
      else if c = ' ' then areParameters .afterQuotes rest
      else false

namespace MediaType

/-- The subtype and the suffix of what stands after the slash.  A plus sign in front
belongs to the subtype, and the last of several starts the suffix. -/
def splitSuffix (text : List Char) : List Char × Option (List Char) :=
  let suffix := (text.reverse.takeWhile (· ≠ '+')).reverse
  if suffix.length + 1 < text.length then
    (text.take (text.length - suffix.length - 1), some suffix)
  else (text, none)

/-- Text in lower case, as far as ASCII goes. -/
def lowered (text : List Char) : String :=
  String.ofList (text.map Char.toLower)

/-- Reads a media type. -/
def ofText? (text : String) : Option MediaType :=
  let type := text.toList.takeWhile isTokenChar
  match text.toList.dropWhile isTokenChar with
  | '/' :: rest =>
      let subtype := rest.takeWhile isTokenChar
      let parameters := match rest.dropWhile isTokenChar with
        | [] => true
        | c :: rest => c = ';' && !subtype.isEmpty && areParameters .beforeName rest
      if type.isEmpty ∨ !parameters then none
      else
        let (subtype, suffix) := splitSuffix subtype
        some ⟨lowered type, lowered subtype, suffix.map lowered⟩
  | _ => none

/-- Whether JSON is meant. -/
def isJson (mediaType : MediaType) : Bool :=
  mediaType.type = "application" &&
    (mediaType.subtype = "json" || mediaType.suffix = some "json")

end MediaType

end ResultBoards.Http
