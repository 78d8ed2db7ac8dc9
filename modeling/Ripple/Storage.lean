/-!
# Storage

Where texts are kept under paths. `Storage m` says what a computation in `m` can do with them:
read a text, write one, and ask whether there is anything under a path. Every attempt answers
with a result or with the reason why there is none.
-/

namespace Ripple

/-- Why a text cannot be read or written. -/
inductive StorageError where
  | notFound
  | notADirectory
  | isADirectory
  | notText
  | badPath
  | nameTooLong
  | denied
deriving DecidableEq, Repr

/-- The usual name of an error. -/
def StorageError.name : StorageError → String
  | .notFound => "NotFound"
  | .notADirectory => "NotADirectory"
  | .isADirectory => "IsADirectory"
  | .notText => "InvalidData"
  | .badPath => "InvalidInput"
  | .nameTooLong => "InvalidFilename"
  | .denied => "PermissionDenied"

/-- The wording of an error. -/
def StorageError.message : StorageError → String
  | .notFound => "No such file or directory"
  | .notADirectory => "Not a directory"
  | .isADirectory => "Is a directory"
  | .notText => "stream did not contain valid UTF-8"
  | .badPath => "file name contained an unexpected NUL byte"
  | .nameTooLong => "File name too long"
  | .denied => "Permission denied"

/-- Texts under paths, for computations in `m`. -/
class Storage (m : Type → Type) where
  read : String → m (Except StorageError String)
  write : String → String → m (Except StorageError Unit)
  holds : String → m Bool

end Ripple
