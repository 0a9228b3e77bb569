import ResultBoards.Store.Failure

/-!
# File systems

A directory tree with the few operations that a store needs.  Paths lead from the root
of the tree; on the way each name must belong to a directory.
-/

namespace ResultBoards

/-! ## Paths -/

/-- A path as the names it consists of.  A path that ends in a slash means a
directory, and a path of one empty name is empty. -/
structure FilePath where
  names : List String
  meansDirectory : Bool
deriving DecidableEq, Repr

namespace FilePath

/-- The name that leads to the directory above. -/
def up : String := ".."

/-- The path of an empty text. -/
def empty : FilePath := ⟨[""], false⟩

/-- Reads a path.  Empty names and single dots stay where they are. -/
def ofText (text : String) : FilePath :=
  if text.isEmpty then empty
  else
    let parts := text.splitOn "/"
    ⟨parts.filter fun name => name ≠ "" ∧ name ≠ ".", match parts.getLast? with
      | some last => parts.length > 1 && (last = "" || last = ".")
      | none => false⟩

/-- The characters of a name before its last dot, if the dot is not its first
character. -/
def stem (name : List Char) : List Char :=
  let ending := name.reverse.takeWhile (· ≠ '.')
  let before := (name.take (name.length - ending.length)).dropLast
  if ending.length = name.length ∨ before.isEmpty then name else before

/-- The path with the extension of its last name replaced by `tmp`, if it ends in the
name of a file. -/
def temporary (path : FilePath) : FilePath :=
  match path.names.getLast? with
  | none => path
  | some last =>
      if last = up ∨ last = "" then path
      else
        ⟨path.names.dropLast ++ [String.ofList (stem last.toList ++ ".tmp".toList)], false⟩

/-- Whether a name of the path holds a null character, which no file name does. -/
def hasNul (path : FilePath) : Bool :=
  path.names.any fun name => name.toList.contains '\x00'

end FilePath

/-! ## Trees -/

/-- What a name in a directory stands for. -/
inductive Node
  | file (bytes : ByteArray)
  | directory

instance : DecidableEq Node
  | .file first, .file second =>
      match ByteArray.instDecidableEq first second with
      | isTrue hsame => isTrue (congrArg Node.file hsame)
      | isFalse hne => isFalse fun hsame => hne (Node.file.inj hsame)
  | .directory, .directory => isTrue rfl
  | .file _, .directory => isFalse nofun
  | .directory, .file _ => isFalse nofun

/-- A directory tree: its files and directories by the names that lead to them.  The
root has no names and is always there. -/
structure FileSystem where
  nodes : List (List String × Node)

namespace FileSystem

/-- A tree with nothing but its root. -/
def empty : FileSystem := ⟨[]⟩

/-- What stands at a place. -/
def node? (files : FileSystem) (place : List String) : Option Node :=
  if place.isEmpty then some .directory else files.nodes.lookup place

/-- The tree without what stands at a place. -/
def erase (files : FileSystem) (place : List String) : FileSystem :=
  ⟨files.nodes.filter fun entry => entry.1 ≠ place⟩

/-- The tree with something put at a place. -/
def put (files : FileSystem) (place : List String) (node : Node) : FileSystem :=
  ⟨(files.erase place).nodes ++ [(place, node)]⟩

/-- The longest name in bytes. -/
def maxNameSize : Nat := 255

/-- Why nothing has some name, if that is so. -/
def nameProblem? (name : String) : Option IoProblem :=
  if name = "" then some .notFound
  else if maxNameSize < name.utf8ByteSize then some .nameTooLong
  else none

/-- Follows names from a place.  What they lead to need not exist. -/
def follow (files : FileSystem) : (place names : List String) →
    Except IoProblem (List String)
  | place, [] => .ok place
  | place, name :: rest =>
      match files.node? place with
      | none => .error .notFound
      | some (.file _) => .error .notADirectory
      | some .directory =>
          if name = FilePath.up then files.follow place.dropLast rest
          else
            match nameProblem? name with
            | some problem => .error problem
            | none => files.follow (place ++ [name]) rest

/-- The place that a path leads to. -/
def locate (files : FileSystem) (path : FilePath) : Except IoProblem (List String) :=
  if path.hasNul then .error .nulInName else files.follow [] path.names

/-- The bytes of a file. -/
def read (files : FileSystem) (path : FilePath) : Except IoProblem ByteArray :=
  match files.locate path with
  | .error problem => .error problem
  | .ok place =>
      match files.node? place with
      | none => .error .notFound
      | some .directory => .error .isADirectory
      | some (.file bytes) => if path.meansDirectory then .error .notADirectory else .ok bytes

/-- Makes a directory in one that exists. -/
def makeDirectory (files : FileSystem) (path : FilePath) : Except IoProblem FileSystem :=
  match files.locate path with
  | .error problem => .error problem
  | .ok place =>
      match files.node? place with
      | some _ => .error .alreadyExists
      | none => .ok (files.put place .directory)

/-- Whether a path leads to a directory. -/
def isDirectory (files : FileSystem) (path : FilePath) : Bool :=
  match files.locate path with
  | .error _ => false
  | .ok place => files.node? place = some .directory

/-- Makes a directory unless it is there. -/
def ensureDirectory (files : FileSystem) (path : FilePath) :
    Except IoProblem Unit × FileSystem :=
  match files.makeDirectory path with
  | .ok files => (.ok (), files)
  | .error problem => if files.isDirectory path then (.ok (), files) else (.error problem, files)

/-- Makes a directory and those above it, unless they are there.  The names of the
directory are given from the last to the first. -/
def ensureDirectories (files : FileSystem) : (reversed : List String) →
    Except IoProblem Unit × FileSystem
  | [] => (.ok (), files)
  | name :: above =>
      let path : FilePath := ⟨(name :: above).reverse, false⟩
      match files.makeDirectory path with
      | .error .notFound =>
          match files.ensureDirectories above with
          | (.error problem, files) => (.error problem, files)
          | (.ok (), files) => files.ensureDirectory path
      | _ => files.ensureDirectory path

/-- Writes a file, which need not exist. -/
def write (files : FileSystem) (path : FilePath) (bytes : ByteArray) :
    Except IoProblem FileSystem :=
  match files.locate path with
  | .error problem => .error problem
  | .ok place =>
      match files.node? place with
      | some .directory => .error .isADirectory
      | some (.file _) =>
          if path.meansDirectory then .error .notADirectory else .ok (files.put place (.file bytes))
      | none =>
          if path.meansDirectory then .error .isADirectory
          else .ok (files.put place (.file bytes))

/-- Moves a file to another path in one step.  A file that was there is gone. -/
def move (files : FileSystem) (source target : FilePath) : Except IoProblem FileSystem :=
  match files.locate source with
  | .error problem => .error problem
  | .ok old =>
      match files.locate target with
      | .error problem => .error problem
      | .ok new =>
          match files.node? old with
          | none => .error .notFound
          | some .directory => .error .isADirectory
          | some (.file bytes) =>
              if target.meansDirectory then .error .notADirectory
              else if files.node? new = some .directory then .error .isADirectory
              else if old = new then .ok files
              else .ok ((files.erase old).put new (.file bytes))

/-! ## Steps -/

/-- A change of a tree. -/
inductive Step
  | ensureDirectories (path : FilePath)
  | write (path : FilePath) (bytes : ByteArray)
  | move (source target : FilePath)

/-- A change that happens or does not happen. -/
def orUnchanged (files : FileSystem) :
    Except IoProblem FileSystem → Except IoProblem Unit × FileSystem
  | .ok files => (.ok (), files)
  | .error problem => (.error problem, files)

/-- Makes a change. -/
def apply (files : FileSystem) : Step → Except IoProblem Unit × FileSystem
  | .ensureDirectories path =>
      if path.hasNul then (.error .nulInName, files) else files.ensureDirectories path.names.reverse
  | .write path bytes => files.orUnchanged (files.write path bytes)
  | .move source target => files.orUnchanged (files.move source target)

/-- Makes changes up to the first that fails. -/
def applyAll (files : FileSystem) : List Step → Except IoProblem Unit × FileSystem
  | [] => (.ok (), files)
  | step :: rest =>
      match files.apply step with
      | (.error problem, files) => (.error problem, files)
      | (.ok (), files) => files.applyAll rest

end FileSystem

end ResultBoards
