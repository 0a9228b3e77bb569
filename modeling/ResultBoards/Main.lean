import ResultBoards.Startup

/-!
# The command line

Reads the files and the environment, starts the program and reports.  It has no way to
listen on an address, so every start ends with a failure.
-/

namespace ResultBoards.Main

/-- The text of a file, unless there is none. -/
def readText? (path : String) : IO (Option String) := do
  try
    return some (← IO.FS.readFile path)
  catch _ =>
    return none

/-- The variables of the environment. -/
def readVariables : IO (List (String × String)) := do
  let text := (← readText? "/proc/self/environ").getD ""
  return (text.splitOn "\x00").filterMap fun entry =>
    match entry.splitOn "=" with
    | name :: value :: rest => some (name, "=".intercalate (value :: rest))
    | _ => none

/-- The texts of the files that may hold settings. -/
def readTexts : IO (List (String × String)) := do
  let extensions := SettingsFormat.extensions.map fun (extension, _) => "." ++ extension
  let read ← ("" :: extensions).mapM fun extension => do
    let path := SettingsFile.base ++ extension
    return (← readText? path).map fun text => (path, text)
  return read.filterMap id

/-- Starts the program. -/
def run : IO UInt32 := do
  let texts ← readTexts
  let surroundings : Surroundings :=
    ⟨fun path => texts.lookup path, ← readVariables, fun _ => .error .permissionDenied⟩
  let start := Start.run surroundings
  IO.print (start.log surroundings.filter)
  IO.eprint start.report
  return start.exitCode.toUInt32

end ResultBoards.Main

def main : IO UInt32 :=
  ResultBoards.Main.run
