import ResultBoards.Text.Digits
import ResultBoards.Text.Percent

/-!
# URLs

The addresses that requests are sent to.  They are read the way browsers do: backslashes
count as slashes, segments of dots are resolved, and characters that may not stand in a
URL are percent-encoded.  Only HTTP is spoken, plain or secured, without user names and
with host names in ASCII.
-/

namespace ResultBoards.Http

/-- The schemes of HTTP. -/
inductive Scheme
  | http
  | https
deriving DecidableEq, Repr

namespace Scheme

/-- The scheme of a name in lower case. -/
def ofName? (name : List Char) : Option Scheme :=
  if name = "http".toList then some .http
  else if name = "https".toList then some .https
  else none

/-- The port that is meant where none is given. -/
def defaultPort : Scheme → Nat
  | .http => 80
  | .https => 443

end Scheme

/-- An address as it is sent: a scheme, a host, a port, the segments of the path and the
query, all of them encoded. -/
structure Url where
  scheme : Scheme
  host : String
  port : Nat
  path : List (List Char)
  query : Option (List Char)
deriving DecidableEq, Repr

/-- What the text of a URL leads to. -/
inductive Destination
  | http (url : Url)
  | otherScheme
deriving DecidableEq, Repr

namespace Url

/-- A character that separates segments. -/
def isSlash (c : Char) : Bool :=
  c == '/' || c == '\\'

/-- The characters that stand for themselves in a path. -/
def isPathChar (c : Char) : Bool :=
  ' ' < c && c ≤ '~' && !("\"#<>?\x60\x7b\x7d".toList.contains c)

/-- The characters that stand for themselves in a query. -/
def isQueryChar (c : Char) : Bool :=
  ' ' < c && c ≤ '~' && !("\"#<>'".toList.contains c)

/-- The characters of a host name. -/
def isHostChar (c : Char) : Bool :=
  ' ' < c && c ≤ '~' && !("#/:<>?@[\\]^|%".toList.contains c)

/-- A text without the blanks and control characters around it and without tabs and line
ends inside. -/
def trim (text : List Char) : List Char :=
  let isPadding (c : Char) : Bool := c ≤ ' '
  let front := text.dropWhile isPadding
  (front.reverse.dropWhile isPadding).reverse.filter fun c => c ≠ '\t' ∧ c ≠ '\n' ∧ c ≠ '\r'

/-! ## Paths -/

/-- The names of the segment that stays and of the one that leads up, where a dot may be
encoded. -/
def isDots (count : Nat) (segment : List Char) : Bool :=
  let rec dots : Nat → List Char → Bool
    | 0, rest => rest.isEmpty
    | count + 1, '.' :: rest => dots count rest
    | count + 1, '%' :: '2' :: e :: rest => (e == 'e' || e == 'E') && dots count rest
    | _ + 1, _ => false
  dots count segment

/-- Cuts a text at its slashes. -/
def splitSegments (text : List Char) : List (List Char) :=
  match text with
  | [] => [[]]
  | c :: rest =>
      match splitSegments rest with
      | [] => [[]]
      | first :: others => if isSlash c then [] :: first :: others else (c :: first) :: others

/-- The path reached from some segments, given in reverse, by further ones.  At the end
of the path a segment of dots leaves an empty segment. -/
def resolve : (reached segments : List (List Char)) → List (List Char)
  | reached, [] => reached.reverse
  | reached, segment :: rest =>
      let encoded := Text.Percent.encodeExcept isPathChar segment
      if isDots 2 encoded then
        if rest.isEmpty then ([] :: reached.drop 1).reverse else resolve (reached.drop 1) rest
      else if isDots 1 encoded then
        if rest.isEmpty then ([] :: reached).reverse else resolve reached rest
      else resolve (encoded :: reached) rest

/-- The path and the query that a text starts with, after the segments reached so far. -/
def readPath (reached : List (List Char)) (text : List Char) :
    List (List Char) × Option (List Char) :=
  let path := text.takeWhile fun c => c ≠ '?' ∧ c ≠ '#'
  let segments := match path with
    | [] => [[]]
    | c :: rest => splitSegments (if isSlash c then rest else c :: rest)
  (resolve reached segments, match text.drop path.length with
    | '?' :: rest =>
        some (Text.Percent.encodeExcept isQueryChar (rest.takeWhile (· ≠ '#')))
    | _ => none)

/-- The path and the query as they are sent. -/
def target (url : Url) : String :=
  let path := url.path.flatMap ('/' :: ·)
  String.ofList <| match url.query with
    | some query => path ++ '?' :: query
    | none => path

/-! ## Hosts -/

/-- Reads a port after its colon, where it may be left out. -/
def readPort? (text : List Char) : Option (Option Nat) :=
  if text.isEmpty then some none
  else if text.all Char.isDigit then
    let port := Text.numberOf 10 text
    if port < 65536 then some (some port) else none
  else none

/-- Reads what may follow a host: nothing, or a colon and a port. -/
def readPortPart? : List Char → Option (Option Nat)
  | [] => some none
  | ':' :: rest => readPort? rest
  | _ => none

/-- Reads a host and the port that is given, if there is one. -/
def readAuthority? (text : List Char) : Option (String × Option Nat) :=
  match text with
  | '[' :: rest =>
      let address := rest.takeWhile (· ≠ ']')
      let fits := address.all fun c => (Text.hexValue? c).isSome || c == ':' || c == '.'
      match rest.drop address.length with
      | ']' :: rest =>
          if address.isEmpty ∨ !fits then none
          else (readPortPart? rest).map fun port =>
            (String.ofList ('[' :: address.map Char.toLower ++ [']']), port)
      | _ => none
  | text =>
      let host := text.takeWhile (· ≠ ':')
      if host.isEmpty ∨ !host.all isHostChar then none
      else (readPortPart? (text.drop host.length)).map fun port =>
        (String.ofList (host.map Char.toLower), port)

/-- Reads an address of some scheme from its authority on. -/
def readFromAuthority? (scheme : Scheme) (text : List Char) : Option Url := do
  let authority := text.takeWhile fun c => !(isSlash c) && c != '?' && c != '#'
  let (host, port) ← readAuthority? authority
  let (path, query) := readPath [] (text.drop authority.length)
  return ⟨scheme, host, port.getD scheme.defaultPort, path, query⟩

/-! ## Whole addresses -/

/-- The scheme a text starts with, in lower case, and what follows its colon. -/
def splitScheme? (text : List Char) : Option (List Char × List Char) :=
  let scheme := text.takeWhile fun c => c.isAlphanum || c == '+' || c == '-' || c == '.'
  match scheme, text.drop scheme.length with
  | c :: _, ':' :: rest => if c.isAlpha then some (scheme.map Char.toLower, rest) else none
  | _, _ => none

/-- Reads an address that is relative to another. -/
def readRelative? (base : Url) : List Char → Option Url
  | [] => some base
  | c :: rest =>
      if c = '#' then some base
      else if c = '?' then
        some { base with query := (readPath [] ('/' :: c :: rest)).2 }
      else if isSlash c then
        match rest with
        | d :: _ =>
            if isSlash d then readFromAuthority? base.scheme (rest.dropWhile isSlash)
            else
              let (path, query) := readPath [] (c :: rest)
              some { base with path := path, query := query }
        | [] => some { base with path := [[]], query := none }
      else
        let (path, query) := readPath base.path.dropLast.reverse (c :: rest)
        some { base with path := path, query := query }

/-- Reads an address, which may be relative where there is another to start from.  Behind
a scheme it is relative only to an address of that scheme, and unless two slashes come
first. -/
def read? (base : Option Url) (text : String) : Option Destination :=
  let text := trim text.toList
  match splitScheme? text with
  | some (name, rest) =>
      match Scheme.ofName? name with
      | none => some .otherScheme
      | some scheme =>
          let slashes := (rest.takeWhile isSlash).length
          match base.filter fun base => base.scheme = scheme ∧ slashes < 2 with
          | some base => (readRelative? base rest).map .http
          | none => (readFromAuthority? scheme (rest.dropWhile isSlash)).map .http
  | none => base.bind fun base => (readRelative? base text).map .http

end Url

end ResultBoards.Http
