import ResultBoards.Ini.Document
import ResultBoards.Json.Decoder
import ResultBoards.Json5.Document
import ResultBoards.Ron.Document
import ResultBoards.Settings.Setting
import ResultBoards.Toml.Document
import ResultBoards.Yaml.Document

/-!
# Settings files

Settings may stand in a file, whose extension says how it is written.
-/

namespace ResultBoards

/-- The ways to write settings. -/
inductive SettingsFormat
  | toml
  | json
  | yaml
  | ini
  | ron
  | json5
deriving DecidableEq, Repr

namespace SettingsFormat

/-- The formats by extension, in the order in which they are looked for. -/
def extensions : List (String × SettingsFormat) :=
  [("toml", .toml), ("json", .json), ("yaml", .yaml), ("yml", .yaml), ("ini", .ini),
    ("ron", .ron), ("json5", .json5)]

/-- The value that a text is written for. -/
def read? : SettingsFormat → String → Option Json.Value
  | .toml, text => Toml.ofText? text
  | .json, text =>
      (Json.Decoder.decode (fun limits => Json.readValue limits.steps limits.depth) text).toOption
  | .yaml, text => Yaml.ofText? text
  | .ini, text => Ini.ofText? text
  | .ron, text => Ron.ofText? text
  | .json5, text => Json5.ofText? text

end SettingsFormat

/-- A file that holds settings. -/
structure SettingsFile where
  path : String
  format : SettingsFormat
  text : String
deriving DecidableEq, Repr

namespace SettingsFile

/-- The path of the file without its extension. -/
def base : String := "config/dashboards"

/-- The file that is used, given the texts of all files by their paths: the first with a
known extension.  A file without one takes the place of all of them, but holds no
settings. -/
def find? (texts : String → Option String) : Option SettingsFile :=
  if (texts base).isSome then none
  else
    SettingsFormat.extensions.findSome? fun (extension, format) =>
      let path := s!"{base}.{extension}"
      (texts path).map fun text => ⟨path, format, text⟩

/-- The text without a mark of its byte order. -/
def unmarked (text : String) : String :=
  match text.toList with
  | '\ufeff' :: rest => String.ofList rest
  | _ => text

/-- The settings in a file by their keys, if it is written properly. -/
def source? (file : SettingsFile) : Option (List (String × Setting)) :=
  match file.format.read? (unmarked file.text) with
  | some (.object members) => some (Setting.ofMembers file.path members)
  | _ => none

end SettingsFile

end ResultBoards
