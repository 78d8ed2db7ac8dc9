/-!
# Full names

A full name is a dotted path that may end in generic arguments, such as
`Shop.Domain.Aggregate<Shop.Domain.JobId>`. The last segment, generic arguments
included, is the simple name; everything before the dot in front of it is the scope.
Comparison is by character, with no normalization.
-/

namespace Ripple.Name

/-- Cuts at the last dot, which neither half keeps; `none` when there is no dot. -/
def cutLast : List Char → Option (List Char × List Char)
  | [] => none
  | c :: cs =>
    match cutLast cs with
    | some (before, after) => some (c :: before, after)
    | none => if c = '.' then some ([], cs) else none

/-- Scope and simple name. Dots inside generic arguments do not separate segments. -/
def cut (name : String) : Option (List Char × List Char) :=
  (cutLast (name.toList.takeWhile (· != '<'))).map fun (scope, last) =>
    (scope, last ++ name.toList.dropWhile (· != '<'))

/-- The last segment of a full name; all of it when it has no scope. -/
def simple (name : String) : String :=
  match cut name with
  | some (_, last) => String.ofList last
  | none => name

/-- Everything before the simple name; empty for a name without a scope. -/
def scope (name : String) : String :=
  match cut name with
  | some (before, _) => String.ofList before
  | none => ""

/-- The pieces between dots, generic arguments not excepted. There is always one. -/
def pieces : List Char → List (List Char)
  | [] => [[]]
  | c :: cs =>
    if c = '.' then [] :: pieces cs
    else
      match pieces cs with
      | [] => [[c]]
      | piece :: rest => (c :: piece) :: rest

/-- The dot-separated segments of a full name, empty ones included. -/
def segments (name : String) : List String :=
  (pieces name.toList).map String.ofList

/-- Whether `name` begins with `start`. -/
def beginsWith (name start : String) : Bool :=
  start.toList.isPrefixOf name.toList

/-- Whether `name` ends with `last`, at a segment boundary or not. -/
def endsWith (name last : String) : Bool :=
  last.toList.isSuffixOf name.toList

/-- Whether `name` is `last` inside some scope: it ends with a dot and then `last`. -/
def isScoped (name last : String) : Bool :=
  ('.' :: last.toList).isSuffixOf name.toList

end Ripple.Name
