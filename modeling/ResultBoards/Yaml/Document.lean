import ResultBoards.Yaml.Node.Reader
import ResultBoards.Yaml.Token.Reader

/-!
# YAML documents

A text holds one document at most, with directives in front of it.
-/

namespace ResultBoards.Yaml

/-- The tokens after the ends of documents. -/
def dropEnds (tokens : List Token) : List Token :=
  tokens.dropWhile (· == .documentEnd)

/-- What directives say: whether there is one on the version, and what the handle of the last
one stands for. -/
structure Preamble where
  hasVersion : Bool
  handle : Option (String × String)

/-- Reads the directives in front of a document.  A second one on the version is refused. -/
def readPreamble (preamble : Preamble) : List Token → Option (Preamble × List Token)
  | .directive .version :: tokens =>
      if preamble.hasVersion then none else readPreamble ⟨true, none⟩ tokens
  | .directive (.tag name base) :: tokens =>
      readPreamble { preamble with handle := some (name, base) } tokens
  | tokens => some (preamble, tokens)

/-- Whether a token stands between documents. -/
def isBoundary : Token → Bool
  | .directive _ => true
  | .documentStart => true
  | .documentEnd => true
  | .textEnd => true
  | _ => false

/-- Reads the node of a document.  After the line that starts a document it may be left
out. -/
def readRoot (tokens : List Token) : Option (Node × List Token) := do
  let fuel := 4 * tokens.length + 4
  let (preamble, start) ← readPreamble ⟨false, none⟩ tokens
  if start.head? = some .documentStart then
    let (node, draft) ←
      Node.readOptional .block isBoundary fuel ⟨start.drop 1, preamble.handle, []⟩
    return (node, draft.tokens)
  else if start.length < tokens.length then none
  else
    let (node, draft) ← Node.read .block fuel ⟨start, none, []⟩
    return (node, draft.tokens)

/-- The node of the only document of some tokens.  Without a document it is an empty mapping.
Directives need the end of a document in front of them. -/
def rootOf? (tokens : List Token) : Option Node :=
  match dropEnds tokens with
  | [.textEnd] => some (.map [])
  | start => do
      let (node, rest) ← readRoot start
      if dropEnds rest = [.textEnd] then some node else none

/-- The value of a document. -/
def ofText? (text : String) : Option Json.Value := do
  (← rootOf? (← Token.ofText? text)).toValue?

end ResultBoards.Yaml
