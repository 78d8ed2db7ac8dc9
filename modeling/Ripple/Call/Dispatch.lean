import Ripple.Codebase

/-!
# Dispatch

Which method a call lands on. A call on an interface is sent on to the type that implements
it; where several do, to the first, and that ambiguity is reported. Among the methods of the
invoked name, the first with as many parameters as the call has arguments is taken, else the
first of all.
-/

namespace Ripple

/-- What stands behind an interface. -/
inductive Implementation (c : Codebase) where
  | missing
  | unique (chosen : c.Ref)
  | ambiguous (chosen : c.Ref) (candidates : List c.Ref)

/-- Several types implement one interface, and the calls on it go to the first. -/
structure Ambiguity where
  interface : String
  candidates : Nat
  chosen : String
deriving DecidableEq, Repr

namespace Implementation

variable {c : Codebase}

/-- The type that calls are sent on to. -/
def chosen? : Implementation c → Option c.Ref
  | .missing => none
  | .unique chosen | .ambiguous chosen _ => some chosen

end Implementation

namespace Codebase

variable (c : Codebase)

/-- The types behind a name, seen as that of an interface. -/
def implementation (interface : String) : Implementation c :=
  match c.implementers interface with
  | [] => .missing
  | [only] => .unique only
  | first :: others => .ambiguous first (first :: others)

/-- Whether a name is that of an interface of the codebase. -/
def isInterface (fullName : String) : Bool :=
  (c.find? fullName).any fun r => (c.decl r).isInterface

/-- Sends a call on an interface to the type that implements it. Other calls, and those on an
interface that nothing implements, stay as they are. -/
def redirect (call : Invocation) : Invocation :=
  if c.isInterface call.containingType then
    match (c.implementation call.containingType).chosen? with
    | some r => call.retarget (c.fullName r)
    | none => call
  else call

/-- The ambiguity that sending a call on meets. -/
def ambiguity? (call : Invocation) : Option Ambiguity :=
  if c.isInterface call.containingType then
    match c.implementation call.containingType with
    | .ambiguous chosen candidates =>
      some ⟨call.containingType, candidates.length, c.fullName chosen⟩
    | _ => none
  else none

/-- Among methods in order, the first of that name and number of parameters, else the first of
that name. -/
def select (methods : List c.MethodRef) (name : String) (arity : Nat) : Option c.MethodRef :=
  let named := methods.filter (·.method.name == name)
  (named.find? (·.method.parameters.length == arity)).or named.head?

/-- The method a call lands on. -/
def resolve (call : Invocation) : Option c.MethodRef :=
  (c.find? (c.redirect call).containingType).bind fun r =>
    c.select (c.methodsOf r) call.name call.arguments.length

/-- The statements a call runs; none when it lands nowhere. -/
def bodyOf (call : Invocation) : Body :=
  match c.resolve call with
  | some m => m.method.statements
  | none => []

end Codebase

end Ripple
