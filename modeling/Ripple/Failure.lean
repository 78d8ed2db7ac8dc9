import Ripple.Exchange.Code
import Ripple.Storage

/-!
# Failures

Why the program cannot do what it was asked to.
-/

namespace Ripple

/-- What went wrong. -/
inductive Failure where
  | storage (error : StorageError)
  | settings
  | pattern (text : String)
  | declarations (error : Json.ReadError)
  | unknownType (fullName : String)

/-- The wording of a text that cannot be read. -/
def Json.ReadError.message : Json.ReadError → String
  | .fault .malformed => "malformed text"
  | .fault .truncated => "text ends too early"
  | .mismatch m => m.message

/-- The wording of a failure. -/
def Failure.message : Failure → String
  | .storage e => "IO error: " ++ e.message
  | .settings => "Configuration error: not settings that can be kept in a document"
  | .pattern text => "Configuration error: Invalid service skip pattern '" ++ text ++ "'"
  | .declarations e => "Serialization error: " ++ e.message
  | .unknownType fullName => "Type not found: " ++ fullName

end Ripple
