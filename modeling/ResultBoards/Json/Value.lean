import ResultBoards.Number.Binary64

/-!
# JSON values

A value as it stands in a text: members keep their order, and a name may occur more
than once.
-/

namespace ResultBoards.Json

/-- A number of a JSON text.  Integers that fit neither 64 bits with a sign nor 64 bits
without one are read as `real`. -/
inductive Number
  | integer (value : Int)
  | real (value : Binary64)
deriving DecidableEq, Repr

/-- A JSON value. -/
inductive Value
  | null
  | bool (value : Bool)
  | number (value : Number)
  | string (value : String)
  | array (elements : List Value)
  | object (members : List (String × Value))
deriving Repr

/-- A whole number as a value. -/
def Value.ofNat (value : Nat) : Value :=
  .number (.integer value)

/-- A list of strings as a value. -/
def Value.ofStrings (values : List String) : Value :=
  .array (values.map .string)

/-- The string, or `null` where there is none. -/
def Value.ofString? : Option String → Value
  | some value => .string value
  | none => .null

end ResultBoards.Json
