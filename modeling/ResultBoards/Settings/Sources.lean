import ResultBoards.Settings.Basic
import ResultBoards.Settings.File

/-!
# Where settings come from

Defaults are overridden by a file, and the file by variables of the environment.
-/

namespace ResultBoards

/-! ## The environment -/

/-- What the names of variables start with that hold settings. -/
def variableMark : List Char := "dashboards__".toList

/-- The lower case of a letter that a setting can be named with.  The Kelvin sign is a
capital `k`. -/
def lowerCase (c : Char) : Char :=
  if c = '\u212a' then 'k' else c.toLower

/-- The key that is written with two underscores for each point. -/
def keyWithPoints : List Char → List Char
  | '_' :: '_' :: rest => '.' :: keyWithPoints rest
  | c :: rest => c :: keyWithPoints rest
  | [] => []

/-- The key of the setting that a variable holds, if it holds one. -/
def keyOfVariable? (name : String) : Option String :=
  let name := name.toList.map lowerCase
  if variableMark.isPrefixOf name then
    some (String.ofList (keyWithPoints (name.drop variableMark.length)))
  else none

/-- The settings in the environment by their keys. -/
def environmentSource (environment : List (String × String)) : List (String × Setting) :=
  environment.filterMap fun (name, value) =>
    (keyOfVariable? name).map fun key =>
      (key, .scalar (some "the environment") (.text value))

/-! ## All sources -/

/-- Why there are no settings. -/
inductive SettingsFailure
  | notReadable (path : String)
  | notUsable (failure : SettingFailure)
deriving DecidableEq, Repr

/-- The failure in words. -/
def SettingsFailure.message : SettingsFailure → String
  | .notReadable path => s!"{path} does not hold settings"
  | .notUsable failure => failure.message

namespace Settings

/-- The tree of what the file and the environment say. -/
def tree (texts : String → Option String) (environment : List (String × String)) :
    Except SettingsFailure Setting :=
  let overriding := environmentSource environment
  match SettingsFile.find? texts with
  | none => .ok (Setting.empty.addSource overriding)
  | some file =>
      match file.source? with
      | some source => .ok ((Setting.empty.addSource source).addSource overriding)
      | none => .error (.notReadable file.path)

/-- The settings of the program, given the texts of all files by their paths and the
variables of the environment. -/
def load (texts : String → Option String) (environment : List (String × String)) :
    Except SettingsFailure Settings :=
  match tree texts environment with
  | .error failure => .error failure
  | .ok tree => (ofSetting tree).mapError .notUsable

end Settings

end ResultBoards
