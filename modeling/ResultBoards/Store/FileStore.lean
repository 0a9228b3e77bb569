import ResultBoards.Store.FileSystem
import ResultBoards.Store.KeyValue
import ResultBoards.Text.Blank

/-!
# Stores in files

A store that keeps all its entries in one file.  A file that is missing or blank holds
no entries.  A write goes to a temporary file beside the store, which then takes the
place of the old file, so a reader finds the old entries or the new ones.
-/

namespace ResultBoards

namespace FileStore

/-- The entries that the bytes of a file hold. -/
def entriesOfBytes (bytes : ByteArray) : Except StoreFailure Entries :=
  match String.fromUTF8? bytes with
  | none => .error (.io .notUtf8)
  | some text =>
      if Text.isAllBlank text.toList then .ok .empty
      else (Entries.decoder.decode text).mapError .decode

/-- The entries in the file at a path. -/
def readEntries (path : FilePath) (files : FileSystem) : Except StoreFailure Entries :=
  match files.read path with
  | .error .notFound => .ok .empty
  | .error problem => .error (.io problem)
  | .ok bytes => entriesOfBytes bytes

/-- The changes that replace the file at a path by one with some entries. -/
def steps (path : FilePath) (entries : Entries) : List FileSystem.Step := [
  .ensureDirectories ⟨path.names.dropLast, false⟩,
  .write path.temporary entries.toText.toUTF8,
  .move path.temporary path]

/-- The value of a key. -/
def get (path : FilePath) (files : FileSystem) (key : String) :
    Except StoreFailure (Option String) :=
  (readEntries path files).map fun entries => entries.get? key

/-- Writes the value of a key. -/
def set (path : FilePath) (files : FileSystem) (key value : String) :
    Except StoreFailure Unit × FileSystem :=
  match readEntries path files with
  | .error failure => (.error failure, files)
  | .ok entries =>
      let (result, files) := files.applyAll (steps path (entries.insert key value))
      (result.mapError .io, files)

/-- The store in the file at a path. -/
def store (path : FilePath) : KeyValueStore FileSystem where
  get := get path
  set := set path

end FileStore

end ResultBoards
