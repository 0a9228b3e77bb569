import ResultBoards.Yaml.Node
import ResultBoards.Yaml.Token

/-!
# Reading nodes

The tokens of a document make up one node.  A node that may be left out is nothing.
-/

namespace ResultBoards.Yaml.Node

/-- How far the nodes of a document have been read: the tokens that are left, what the handle
of the last directive stands for, and the anchors so far with their nodes.  A node is bad
until it is complete. -/
structure Draft where
  tokens : List Token
  handle : Option (String × String)
  anchors : List (String × Node)

/-- Where a node stands: in flow style, in block style, or in a mapping in block style, where
a sequence needs no indentation of its own. -/
inductive Context
  | flow
  | block
  | member
deriving DecidableEq, Repr

/-- What stands in front of a node: the number of its anchor and its kind. -/
structure Properties where
  anchor : Option Nat
  kind : Option Kind
deriving DecidableEq, Repr

namespace Draft

/-- The draft with other tokens left. -/
def moveTo (draft : Draft) (tokens : List Token) : Draft :=
  { draft with tokens := tokens }

/-- The next token, where the text ends after the last one. -/
def next (draft : Draft) : Token :=
  draft.tokens.head?.getD .textEnd

/-- The draft without the next token. -/
def advance (draft : Draft) : Draft :=
  draft.moveTo (draft.tokens.drop 1)

/-! ## Anchors -/

/-- The node of the latest anchor of a name. -/
def node? (draft : Draft) (name : String) : Option Node :=
  draft.anchors.reverse.lookup name

/-- Adds an anchor, whose node is not complete yet. -/
def addAnchor (draft : Draft) (name : String) : Draft :=
  { draft with anchors := draft.anchors ++ [(name, .bad)] }

/-- The draft where the node of an anchor is complete. -/
def complete (draft : Draft) (anchor : Option Nat) (node : Node) : Draft :=
  match anchor with
  | some number =>
      { draft with anchors := draft.anchors.modify number fun (name, _) => (name, node) }
  | none => draft

/-! ## Tags -/

/-- What the tags of the core schema start with. -/
def coreBase : String := "tag:yaml.org,2002:"

/-- What a handle stands for in a directive. -/
def declared? (draft : Draft) (handle : String) : Option String :=
  draft.handle.bind fun (name, base) => if name = handle then some base else none

/-- Whether a handle has to stand in a directive. -/
def isNamed (handle : String) : Bool :=
  1 < handle.length && handle.startsWith "!" && handle.endsWith "!"

/-- What a handle stands for. -/
def baseOf? (draft : Draft) (handle : String) : Option String :=
  match draft.declared? handle with
  | some base => some base
  | none =>
      if handle = "!!" then some coreBase else if isNamed handle then none else some handle

/-- The kinds of the core schema by what is added to its start. -/
def coreKinds : List (String × Kind) :=
  [("bool", .bool), ("int", .integer), ("float", .real), ("null", .null)]

/-- The kind of a tag. -/
def kindOf? (draft : Draft) (tag : TagText) : Option Kind := do
  let base ← draft.baseOf? tag.handle
  if base = coreBase then return (coreKinds.lookup tag.suffix).getD .other else return .other

/-! ## Properties -/

/-- Reads the anchor and the tag in front of a node, in either order. -/
def readProperties (draft : Draft) : Option (Properties × Draft) :=
  let number := some draft.anchors.length
  match draft.tokens with
  | .anchor name :: .tag tag :: tokens => do
      let kind ← draft.kindOf? tag
      return (⟨number, some kind⟩, (draft.addAnchor name).moveTo tokens)
  | .tag tag :: .anchor name :: tokens => do
      let kind ← draft.kindOf? tag
      return (⟨number, some kind⟩, (draft.addAnchor name).moveTo tokens)
  | .tag tag :: tokens => do
      let kind ← draft.kindOf? tag
      return (⟨none, some kind⟩, draft.moveTo tokens)
  | .anchor name :: tokens => some (⟨number, none⟩, (draft.addAnchor name).moveTo tokens)
  | _ => some (⟨none, none⟩, draft)

end Draft

/-! ## Nodes -/

/-- Whether a token ends an entry of a sequence in flow style. -/
def endsFlowElement (token : Token) : Bool :=
  token == .flowEntry || token == .flowSequenceEnd

/-- Whether a token ends a member of a mapping in flow style. -/
def endsFlowMember (token : Token) : Bool :=
  token == .flowEntry || token == .flowMappingEnd

/-- Whether a token ends a key or a value of a mapping in block style. -/
def endsBlockMember (token : Token) : Bool :=
  token == .key || token == .value || token == .blockEnd

/-- Whether a token ends an entry of a sequence in block style. -/
def endsBlockElement (token : Token) : Bool :=
  token == .blockEntry || token == .blockEnd

/-- Whether a token ends an entry of a sequence that is not indented. -/
def endsLooseElement (token : Token) : Bool :=
  token == .blockEntry || endsBlockMember token

mutual

/-- Reads a node. -/
def read (context : Context) : (fuel : Nat) → Draft → Option (Node × Draft)
  | 0, _ => none
  | fuel + 1, draft =>
      match draft.next with
      | .reference name => (draft.node? name).map (·, draft.advance)
      | _ =>
          match draft.readProperties with
          | none => none
          | some (properties, draft) =>
              match readContent context properties fuel draft with
              | none => none
              | some (node, draft) => some (node, draft.complete properties.anchor node)

/-- Reads a node unless it is left out, which the next token tells. -/
def readOptional (context : Context) (isLeftOut : Token → Bool) : (fuel : Nat) → Draft →
    Option (Node × Draft)
  | 0, _ => none
  | fuel + 1, draft =>
      if isLeftOut draft.next then some (.null, draft) else read context fuel draft

/-- Reads what stands after the properties of a node.  There has to be something unless there
are properties. -/
def readContent (context : Context) (properties : Properties) : (fuel : Nat) → Draft →
    Option (Node × Draft)
  | 0, _ => none
  | fuel + 1, draft =>
      match draft.next, context with
      | .scalar isPlain text, _ => some (ofScalar properties.kind isPlain text, draft.advance)
      | .flowSequenceStart, _ => readFlowSequence true [] fuel draft.advance
      | .flowMappingStart, _ => readFlowMapping true [] fuel draft.advance
      | .blockEntry, .member => readLooseSequence [] fuel draft
      | .blockSequenceStart, .block => readBlockSequence [] fuel draft.advance
      | .blockSequenceStart, .member => readBlockSequence [] fuel draft.advance
      | .blockMappingStart, .block => readBlockMapping [] fuel draft.advance
      | .blockMappingStart, .member => readBlockMapping [] fuel draft.advance
      | _, _ =>
          if properties = ⟨none, none⟩ then none
          else some (ofScalar properties.kind true "", draft)

/-- Reads the entries of a sequence in block style. -/
def readBlockSequence (elements : List Node) : (fuel : Nat) → Draft → Option (Node × Draft)
  | 0, _ => none
  | fuel + 1, draft =>
      match draft.next with
      | .blockEnd => some (.list elements.reverse, draft.advance)
      | .blockEntry =>
          match readOptional .block endsBlockElement fuel draft.advance with
          | none => none
          | some (element, draft) => readBlockSequence (element :: elements) fuel draft
      | _ => none

/-- Reads the entries of a sequence that is not indented. -/
def readLooseSequence (elements : List Node) : (fuel : Nat) → Draft → Option (Node × Draft)
  | 0, _ => none
  | fuel + 1, draft =>
      match draft.next with
      | .blockEntry =>
          match readOptional .block endsLooseElement fuel draft.advance with
          | none => none
          | some (element, draft) => readLooseSequence (element :: elements) fuel draft
      | _ => some (.list elements.reverse, draft)

/-- Reads the members of a mapping in block style.  Keys and values are gathered in turn, the
last one first. -/
def readBlockMapping (nodes : List Node) : (fuel : Nat) → Draft → Option (Node × Draft)
  | 0, _ => none
  | fuel + 1, draft =>
      match draft.next with
      | .blockEnd => (ofPairs? nodes.reverse).map (·, draft.advance)
      | .key =>
          match readOptional .member endsBlockMember fuel draft.advance with
          | none => none
          | some (key, draft) => readBlockValue (key :: nodes) fuel draft
      | .value => readBlockValue (.null :: nodes) fuel draft
      | _ => none

/-- Reads the value after a key in block style, which may be left out with its colon, and the
members after it. -/
def readBlockValue (nodes : List Node) : (fuel : Nat) → Draft → Option (Node × Draft)
  | 0, _ => none
  | fuel + 1, draft =>
      if draft.next = .value then
        match readOptional .member endsBlockMember fuel draft.advance with
        | none => none
        | some (value, draft) => readBlockMapping (value :: nodes) fuel draft
      else readBlockMapping (.null :: nodes) fuel draft

/-- Reads the entries of a sequence in flow style.  Each but the first stands after a comma. -/
def readFlowSequence (isFirst : Bool) (elements : List Node) : (fuel : Nat) → Draft →
    Option (Node × Draft)
  | 0, _ => none
  | fuel + 1, draft =>
      let start := if isFirst then draft else draft.advance
      if draft.next = .flowSequenceEnd then some (.list elements.reverse, draft.advance)
      else if !isFirst ∧ draft.next ≠ .flowEntry then none
      else if start.next = .flowSequenceEnd then some (.list elements.reverse, start.advance)
      else
        match if start.next = .key then readPair fuel start.advance else read .flow fuel start with
        | none => none
        | some (element, draft) => readFlowSequence false (element :: elements) fuel draft

/-- Reads a pair without braces after the mark of its key.  Where no key follows, the next
token is passed over, whatever it ends. -/
def readPair : (fuel : Nat) → Draft → Option (Node × Draft)
  | 0, _ => none
  | fuel + 1, draft =>
      let key :=
        if draft.next = .value ∨ endsFlowElement draft.next then some (.null, draft.advance)
        else read .flow fuel draft
      match key with
      | none => none
      | some (key, draft) =>
          match readFlowValue endsFlowElement fuel draft with
          | none => none
          | some (value, draft) => (ofPairs? [key, value]).map (·, draft)

/-- Reads the value after a key in flow style, which may be left out with its colon. -/
def readFlowValue (isLeftOut : Token → Bool) : (fuel : Nat) → Draft → Option (Node × Draft)
  | 0, _ => none
  | fuel + 1, draft =>
      if draft.next = .value then readOptional .flow isLeftOut fuel draft.advance
      else some (.null, draft)

/-- Reads the members of a mapping in flow style.  Keys and values are gathered in turn, the
last one first. -/
def readFlowMapping (isFirst : Bool) (nodes : List Node) : (fuel : Nat) → Draft →
    Option (Node × Draft)
  | 0, _ => none
  | fuel + 1, draft =>
      let start := if isFirst then draft else draft.advance
      if draft.next = .flowMappingEnd then (ofPairs? nodes.reverse).map (·, draft.advance)
      else if !isFirst ∧ draft.next ≠ .flowEntry then none
      else if start.next = .flowMappingEnd then (ofPairs? nodes.reverse).map (·, start.advance)
      else
        match readFlowMember fuel start with
        | none => none
        | some (key, value, draft) => readFlowMapping false (value :: key :: nodes) fuel draft

/-- Reads a member of a mapping in flow style.  A node without the mark of a key is a key
without a value. -/
def readFlowMember : (fuel : Nat) → Draft → Option (Node × Node × Draft)
  | 0, _ => none
  | fuel + 1, draft =>
      let key :=
        match draft.next with
        | .key =>
            readOptional .flow (fun token => token == .value || endsFlowMember token) fuel
              draft.advance
        | .value => some (.null, draft)
        | _ => read .flow fuel draft
      match key, draft.next == .key || draft.next == .value with
      | none, _ => none
      | some (key, draft), true =>
          match readFlowValue endsFlowMember fuel draft with
          | none => none
          | some (value, draft) => some (key, value, draft)
      | some (key, draft), false => some (key, .null, draft)

end

end ResultBoards.Yaml.Node
