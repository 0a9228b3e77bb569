import ResultBoards.Json.Decoder

/-!
# Data from values that were read before

Where a value is read whole before it is looked at, its members are gone through in
their order.  Each that is understood changes what has been gathered, so what is
missing keeps its default, and the first member that does not fit is the problem.
-/

namespace ResultBoards.Json

namespace Value

/-- A string. -/
def asString : Value → Except Problem String
  | .string value => .ok value
  | other => .error (.typeMismatch other.found "a string")

/-- A truth value. -/
def asBool : Value → Except Problem Bool
  | .bool value => .ok value
  | other => .error (.typeMismatch other.found "a boolean")

/-- A whole number of 32 bits. -/
def asWord : Value → Except Problem UInt32
  | .number (.integer value) =>
      if 0 ≤ value ∧ value < 0x100000000 then .ok (UInt32.ofNat value.toNat)
      else .error (.valueMismatch (.integer value) "u32")
  | other => .error (.typeMismatch other.found "u32")

/-- `null` or something else. -/
def asOptional {α : Type} (read : Value → Except Problem α) :
    Value → Except Problem (Option α)
  | .null => .ok none
  | other => (read other).map some

/-- A list. -/
def asList {α : Type} (read : Value → Except Problem α) : Value → Except Problem (List α)
  | .array elements => elements.mapM read
  | other => .error (.typeMismatch other.found "a sequence")

end Value

/-- A member that is understood: its name, and what its value makes of what has been
gathered so far. -/
structure KnownMember (σ : Type) where
  name : String
  read : σ → Value → Except Problem σ

/-- Gathers what the known among some members say.  None of them may come twice. -/
def gather {σ : Type} (known : List (KnownMember σ)) :
    (seen : List String) → σ → List (String × Value) → Except Problem σ
  | _, gathered, [] => .ok gathered
  | seen, gathered, (name, value) :: rest =>
      match known.find? fun member => member.name = name with
      | none => gather known seen gathered rest
      | some member =>
          if seen.contains name then .error (.fieldRepeated name)
          else
            match member.read gathered value with
            | .error problem => .error problem
            | .ok gathered => gather known (name :: seen) gathered rest

end ResultBoards.Json
