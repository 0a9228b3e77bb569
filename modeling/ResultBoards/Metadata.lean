import ResultBoards.Table.Basic

/-!
# Metadata

What a widget shows of an execution: the result of an action as a table or, where the
result is not one, as the raw text.
-/

namespace ResultBoards

open Json (Decoder Value)

/-- A result that is attached to a widget. -/
inductive Metadata
  | table (result : ResultTable)
  | raw (text : String)
deriving DecidableEq

namespace Metadata

/-- Metadata as a value: a table is an object, a raw text a string. -/
def toValue : Metadata → Value
  | .table result => result.toValue
  | .raw text => .string text

/-- Metadata from a value that is either. -/
def ofValue? : Value → Option Metadata
  | .string text => some (.raw text)
  | value => (ResultTable.ofValue? value).map .table

/-- Decodes metadata. -/
def decoder : Decoder Metadata := fun limits text =>
  match Json.readValue limits.steps limits.depth text with
  | .error failure => .error failure
  | .ok (value, rest) =>
      match ofValue? value with
      | some metadata => .ok (metadata, rest)
      | none => .error (.here (.noVariantMatches "Metadata"))

end Metadata

end ResultBoards
