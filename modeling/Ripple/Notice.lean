import Ripple.Call.Dispatch

/-!
# Notices

What is worth telling the user although the work goes on.
-/

namespace Ripple

/-- Something that was decided, or left out, without being asked for. -/
inductive Notice where
  | repeatedType (fullName : String)
  | ambiguous (ambiguity : Ambiguity)
  | tooDeep (limit : Nat) (message : String)
  | unhandled (command : String)
deriving DecidableEq, Repr

namespace Notice

/-- The wording of a notice. -/
def text : Notice → String
  | .repeatedType fullName => "Duplicate type " ++ fullName ++ ", keeping the first occurrence"
  | .ambiguous a =>
    a.interface ++ " has " ++ toString a.candidates ++ " implementers, using " ++ a.chosen
  | .tooDeep limit message =>
    "Message nesting deeper than " ++ toString limit ++ " at " ++ message ++ ", not following it"
  | .unhandled command => "No command handler found for " ++ command

end Notice

/-- The notices that reading declared types into a codebase gives. -/
def Codebase.declarationNotices (declared : List TypeDecl) : List Notice :=
  (repeatedNames declared).map .repeatedType

end Ripple
