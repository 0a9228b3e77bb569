import ResultBoards.Json.Failure

/-!
# Failures of stores

A store fails where its files cannot be read or written, or where what they hold cannot
be understood.
-/

namespace ResultBoards

/-- Why a file cannot be read or written, or an address not be listened on. -/
inductive IoProblem
  | notFound
  | permissionDenied
  | alreadyExists
  | notADirectory
  | isADirectory
  | nameTooLong
  | nulInName
  | notUtf8
  | other (message : String)
deriving DecidableEq, Repr

/-- The problem in words. -/
def IoProblem.message : IoProblem → String
  | .notFound => "No such file or directory (os error 2)"
  | .permissionDenied => "Permission denied (os error 13)"
  | .alreadyExists => "File exists (os error 17)"
  | .notADirectory => "Not a directory (os error 20)"
  | .isADirectory => "Is a directory (os error 21)"
  | .nameTooLong => "File name too long (os error 36)"
  | .nulInName => "file name contained an unexpected NUL byte"
  | .notUtf8 => "stream did not contain valid UTF-8"
  | .other message => message

/-- Why a store did not do what it was asked. -/
inductive StoreFailure
  | io (problem : IoProblem)
  | decode (failure : Json.Failure)
deriving DecidableEq, Repr

namespace StoreFailure

/-- What lies behind a failure, in words. -/
def cause : StoreFailure → String
  | .io problem => problem.message
  | .decode failure => failure.message

/-- The failure in words. -/
def message : StoreFailure → String
  | .io problem => s!"store I/O failed: {problem.message}"
  | .decode failure => s!"failed to decode stored value: {failure.message}"

end StoreFailure

end ResultBoards
