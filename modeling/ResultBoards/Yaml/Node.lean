import ResultBoards.Json.Value
import ResultBoards.Number.Numeral

/-!
# Nodes of YAML

A node is a scalar, a list or a mapping, whose keys may be nodes of any kind.  What a plain
scalar means depends on how it is written, unless a tag says it.
-/

namespace ResultBoards.Yaml

/-- A node.  A real number is kept as it is written.  A node is bad where it does not fit its
tag or refers to what is not complete. -/
inductive Node
  | bad
  | null
  | bool (value : Bool)
  | integer (value : Int)
  | real (text : String)
  | string (value : String)
  | list (elements : List Node)
  | map (members : List (Node × Node))
deriving Repr

/-- What the tag of a node says, as far as it matters to scalars: one of the kinds of the core
schema, or anything else. -/
inductive Kind
  | bool
  | integer
  | real
  | null
  | other
deriving DecidableEq, Repr

namespace Node

/-! ## Scalars -/

/-- An integer of 64 bits in digits of a base. -/
def integerOf? (base : Nat) (text : List Char) : Option Int :=
  let (negative, digits) := Text.splitSign text
  let value := Text.signed negative (Text.numberOf base digits)
  let areDigits := !digits.isEmpty && digits.all fun c => (Text.hexValue? c).any (· < base)
  if areDigits ∧ -0x8000000000000000 ≤ value ∧ value < 0x8000000000000000 then some value
  else none

/-- An integer with a mark of its base, or with a plus sign in front of one that may have a
sign of its own. -/
def markedIntegerOf? : List Char → Option Int
  | '0' :: 'x' :: text => integerOf? 16 text
  | '0' :: 'o' :: text => integerOf? 8 text
  | '+' :: text => integerOf? 10 text
  | _ => none

/-- The words for nothing. -/
def nullWords : List String := ["~", "null", "Null", "NULL"]

/-- The words for truth values. -/
def boolWords : List (String × Bool) := [
  ("true", true), ("True", true), ("TRUE", true), ("false", false), ("False", false),
  ("FALSE", false)]

/-- The words for what is no finite number. -/
def realWords : List String := [
  ".inf", ".Inf", ".INF", "+.inf", "+.Inf", "+.INF", "-.inf", "-.Inf", "-.INF", ".nan",
  ".NaN", ".NAN"]

/-- Whether a text writes a real number. -/
def isReal (text : String) : Bool :=
  realWords.contains text || (Numeral.ofText? text.toList).isSome

/-- The node of a plain scalar without a tag. -/
def ofPlain (text : String) : Node :=
  match markedIntegerOf? text.toList, boolWords.lookup text, integerOf? 10 text.toList with
  | some value, _, _ => .integer value
  | none, some value, _ => .bool value
  | none, none, some value => .integer value
  | none, none, none =>
      if text.isEmpty ∨ nullWords.contains text then .null
      else if isReal text then .real text
      else .string text

/-- The node of a plain scalar of a kind. -/
def ofKind (text : String) : Kind → Node
  | .bool => ((boolWords.lookup text).map .bool).getD .bad
  | .integer => ((integerOf? 10 text.toList).map .integer).getD .bad
  | .real => if isReal text then .real text else .bad
  | .null => if nullWords.contains text then .null else .bad
  | .other => .string text

/-- The node of a scalar.  Only plain scalars can be anything but a text. -/
def ofScalar (kind : Option Kind) (isPlain : Bool) (text : String) : Node :=
  match isPlain, kind with
  | false, _ => .string text
  | true, some kind => ofKind text kind
  | true, none => ofPlain text

/-! ## Mappings -/

mutual

/-- Whether two nodes are the same: numbers as they are written, mappings in their order. -/
def isSame : Node → Node → Bool
  | .bad, .bad => true
  | .null, .null => true
  | .bool first, .bool second => first == second
  | .integer first, .integer second => first == second
  | .real first, .real second => first == second
  | .string first, .string second => first == second
  | .list first, .list second => areSame first second
  | .map first, .map second => areSameMembers first second
  | _, _ => false

/-- Whether nodes are the same in pairs. -/
def areSame : List Node → List Node → Bool
  | [], [] => true
  | first :: firsts, second :: seconds => isSame first second && areSame firsts seconds
  | _, _ => false

/-- Whether members are the same in pairs. -/
def areSameMembers : List (Node × Node) → List (Node × Node) → Bool
  | [], [] => true
  | (firstKey, first) :: firsts, (secondKey, second) :: seconds =>
      isSame firstKey secondKey && isSame first second && areSameMembers firsts seconds
  | _, _ => false

end

example : isSame (ofPlain "0x-1f") (.integer (-31)) ∧ isSame (ofPlain "+-5") (.integer (-5)) ∧
    isSame (ofPlain "08") (.integer 8) ∧ isSame (ofPlain "1.") (.real "1.") ∧
    isSame (ofPlain "1.0.0") (.string "1.0.0") := by
  decide

/-- Joins nodes to members, each key being followed by its value.  What is bad is passed over
as a key, and a last key without a value is left out.  No key may occur twice. -/
def pair? (members : List (Node × Node)) : List Node → Option (List (Node × Node))
  | .bad :: nodes => pair? members nodes
  | key :: value :: nodes =>
      if members.any fun member => isSame member.1 key then none
      else pair? (members ++ [(key, value)]) nodes
  | _ => some members

/-- The mapping of keys and values in turn. -/
def ofPairs? (nodes : List Node) : Option Node :=
  (pair? [] nodes).map .map

/-! ## Values -/

/-- The name that a key stands for.  Lists, mappings and nothing stand for none. -/
def name? : Node → Option String
  | .string value => some value
  | .real text => some text
  | .integer value => some (toString value)
  | .bool value => some (toString value)
  | _ => none

mutual

/-- The value of a node.  What is bad counts as nothing.  The words for what is no finite
number have no value. -/
def toValue? : Node → Option Json.Value
  | .bad => some .null
  | .null => some .null
  | .bool value => some (.bool value)
  | .integer value => some (.number (.integer value))
  | .real text =>
      (Numeral.ofText? text.toList).map fun number => .number (.real number.toBinary64)
  | .string value => some (.string value)
  | .list elements => (toValues? elements).map .array
  | .map members => (toMembers? members).map .object

/-- The values of nodes. -/
def toValues? : List Node → Option (List Json.Value)
  | [] => some []
  | node :: nodes => do return (← toValue? node) :: (← toValues? nodes)

/-- The members of an object with names for keys. -/
def toMembers? : List (Node × Node) → Option (List (String × Json.Value))
  | [] => some []
  | (key, node) :: members => do
      return (← name? key, ← toValue? node) :: (← toMembers? members)

end

end Node

end ResultBoards.Yaml
