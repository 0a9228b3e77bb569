import ResultBoards.Json.Failure
import ResultBoards.Settings.Setting

/-!
# Converting settings

A setting is asked for as a text, a number or a section.  Texts and numbers are
converted into each other where that makes sense, so that a number in a file and a text
in the environment mean the same.
-/

namespace ResultBoards

open Json (PathStep)

/-- What a setting is, for a message that expected something else. -/
inductive SettingFound
  | unit
  | boolean (value : Bool)
  | integer (value : Int)
  | longInteger (value : Int)
  | real (value : Binary64)
  | text (value : String)
  | list
  | table
deriving DecidableEq, Repr

/-- What was found, in words. -/
def SettingFound.describe : SettingFound → String
  | .unit => "unit value"
  | .boolean value => s!"boolean `{value}`"
  | .integer value => s!"integer `{value}`"
  | .longInteger value => s!"64-bit integer `{value}`"
  | .real value => s!"floating point `{value.toPointed}`"
  | .text value => s!"string {Text.quoted value}"
  | .list => "sequence"
  | .table => "map"

/-- What is wrong with a setting. -/
inductive SettingProblem
  | mismatch (found : SettingFound) (expected : String)
  | choiceUnknown (type choice : String)
  | noChoice (type : String)
deriving DecidableEq, Repr

/-- The problem in words. -/
def SettingProblem.message : SettingProblem → String
  | .mismatch found expected => s!"invalid type: {found.describe}, expected {expected}"
  | .choiceUnknown type choice => s!"enum {type} does not have variant constructor {choice}"
  | .noChoice type =>
      s!"value of enum {type} should be represented by either string or table with exactly one key"

/-- A problem with a setting, the path to it, and where it came from if that is known. -/
structure SettingFailure where
  problem : SettingProblem
  path : List PathStep
  origin : Option String
deriving DecidableEq, Repr

namespace SettingFailure

/-- The failure seen from the setting around the one it concerns. -/
def below (step : PathStep) (failure : SettingFailure) : SettingFailure :=
  { failure with path := step :: failure.path }

/-- The failure in words. -/
def message (failure : SettingFailure) : String :=
  let key := match failure.path with
    | [] => ""
    | path => s!" for key `{Json.Failure.pathText path}`"
  let origin := match failure.origin with
    | some origin => s!" in {origin}"
    | none => ""
  failure.problem.message ++ key ++ origin

end SettingFailure

/-- A setting of a section: its name, and what it makes of the section. -/
structure SectionField (σ : Type) where
  name : String
  read : σ → Setting → Except SettingFailure σ

/-- A field of a section, from a conversion and a way to put its value into the
section. -/
def SectionField.ofConversion {σ β : Type} (name : String)
    (convert : Setting → Except SettingFailure β) (put : σ → β → σ) : SectionField σ :=
  ⟨name, fun gathered setting => (convert setting).map (put gathered)⟩

namespace Setting

/-- A setting as a text. -/
def toText : Setting → Except SettingFailure String
  | .scalar _ (.text value) => .ok value
  | .scalar _ (.boolean value) => .ok (if value then "true" else "false")
  | .scalar _ (.integer value) => .ok (toString value)
  | .scalar _ (.real value) => .ok value.toPositional
  | .scalar origin .nil => .error ⟨.mismatch .unit "a string", [], origin⟩
  | .list origin _ => .error ⟨.mismatch .list "a string", [], origin⟩
  | .table origin _ => .error ⟨.mismatch .table "a string", [], origin⟩

/-- A setting as a text, unless it is nothing. -/
def toOptionalText : Setting → Except SettingFailure (Option String)
  | .scalar _ .nil => .ok none
  | setting => setting.toText.map some

/-- The largest number of 64 bits. -/
def maxWord : Nat := 0xffffffffffffffff

/-- The number that a text writes in decimal digits, with a plus sign or without. -/
def wordOfText? (text : String) : Option Nat :=
  let digits := match text.toList with
    | '+' :: rest => rest
    | digits => digits
  if digits.isEmpty ∨ !digits.all Char.isDigit then none
  else
    let value := Text.numberOf 10 digits
    if value ≤ maxWord then some value else none

/-- The number that a text means.  Words for yes and no are numbers too. -/
def wordOfWords? (text : String) : Option Nat :=
  let word := text.map Char.toLower
  if ["true", "on", "yes"].contains word then some 1
  else if ["false", "off", "no"].contains word then some 0
  else wordOfText? text

/-- A setting as a number of 64 bits.  Numbers with a fraction are rounded and brought
into the range. -/
def toWord : Setting → Except SettingFailure UInt64
  | .scalar origin (.integer value) =>
      if 0 ≤ value then .ok (UInt64.ofNat value.toNat)
      else
        .error ⟨.mismatch (.longInteger value) "an unsigned 64 bit or less integer", [], origin⟩
  | .scalar origin (.text value) =>
      match wordOfWords? value with
      | some number => .ok (UInt64.ofNat number)
      | none => .error ⟨.mismatch (.text value) "an integer", [], origin⟩
  | .scalar _ (.boolean value) => .ok (if value then 1 else 0)
  | .scalar _ (.real value) => .ok (UInt64.ofNat (value.clampToNat maxWord))
  | .scalar origin .nil => .error ⟨.mismatch .unit "an integer", [], origin⟩
  | .list origin _ => .error ⟨.mismatch .list "an integer", [], origin⟩
  | .table origin _ => .error ⟨.mismatch .table "an integer", [], origin⟩

/-- A setting as one of some named choices: its name, or a table with the name alone. -/
def toChoice {α : Type} (type : String) (choices : List (String × α)) :
    Setting → Except SettingFailure α
  | .scalar _ (.text name) => named name
  | .table _ [(name, _)] => named name
  | _ => .error ⟨.noChoice type, [], none⟩
where
  named (name : String) : Except SettingFailure α :=
    match choices.lookup name with
    | some value => .ok value
    | none => .error ⟨.choiceUnknown type name, [], none⟩

/-! ## Sections -/

/-- What a scalar is, where a section was expected. -/
def foundScalar : Scalar → SettingFound
  | .nil => .unit
  | .boolean value => .boolean value
  | .integer value => .integer value
  | .real value => .real value
  | .text value => .text value

/-- A failure met in a part of a setting. -/
def atPart {α : Type} (step : PathStep) : Except SettingFailure α → Except SettingFailure α
  | .ok value => .ok value
  | .error failure => .error (failure.below step)

/-- Reads the fields of a section from the entries of a table.  Fields that are missing
keep their defaults. -/
def readEntries {σ : Type} (entries : List (String × Setting)) :
    List (SectionField σ) → σ → Except SettingFailure σ
  | [], gathered => .ok gathered
  | field :: fields, gathered =>
      match entries.lookup field.name with
      | none => readEntries entries fields gathered
      | some setting =>
          match atPart (.key field.name) (field.read gathered setting) with
          | .error failure => .error failure
          | .ok gathered => readEntries entries fields gathered

/-- Reads the fields of a section from the elements of a list, in the order of the
fields. -/
def readElements {σ : Type} : List (SectionField σ) → (position : Nat) → List Setting → σ →
    Except SettingFailure σ
  | field :: fields, position, setting :: rest, gathered =>
      match atPart (.index position) (field.read gathered setting) with
      | .error failure => .error failure
      | .ok gathered => readElements fields (position + 1) rest gathered
  | _, _, _, gathered => .ok gathered

/-- Reads a section, which is a table or a list of its fields. -/
def readSection {σ : Type} (name : String) (fields : List (SectionField σ)) (default : σ) :
    Setting → Except SettingFailure σ
  | .table _ entries => readEntries entries fields default
  | .list _ elements => readElements fields 0 elements default
  | .scalar _ value => .error ⟨.mismatch (foundScalar value) s!"struct {name}", [], none⟩

end Setting

end ResultBoards
