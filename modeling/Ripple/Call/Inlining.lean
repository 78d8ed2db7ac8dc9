import Ripple.Call.Dispatch
import Ripple.Messaging.Profile

/-!
# Inlining

What a call that publishes nothing stands for: the body of the method it lands on.

A call written in the codebase has a `Site`; a copy of it has none. Inlining a call keeps the
leaves at the top of the body as they are. Branches and loops are rebuilt from copies, in
which the calls that land somewhere are replaced by the statements of the method they land
on, one level deep. The very call that is being inlined is left out wherever its site shows.
-/

namespace Ripple

/-- Where a call is written: a method, and the path of indices that leads to it there. -/
structure Site (c : Codebase) where
  method : c.MethodRef
  path : List Nat
deriving DecidableEq

/-- A call, with its site unless it is a copy. -/
structure Call (c : Codebase) where
  invocation : Invocation
  site : Option (Site c)

/-- What an inlined call stands for: the method, and the statements to look at. -/
structure Inlined (c : Codebase) where
  method : c.MethodRef
  statements : List (Statement (Call c))

variable {c : Codebase}

namespace Call

/-- Whether two calls are written at the same place. A copy is at the place of no other. -/
def isAt (call origin : Call c) : Bool :=
  call.site.isSome && call.site == origin.site

/-- The same call as a copy. -/
def copy (call : Call c) : Call c := { call with site := none }

end Call

/-- The body of a method, each call with its site. -/
def Codebase.MethodRef.body (m : c.MethodRef) : List (Statement (Call c)) :=
  Statement.mapBodyAt (fun path call => ⟨call, some ⟨m, path⟩⟩) [] 0 m.method.statements

/-- Whether a statement is the call `origin` itself. -/
def Statement.isCallAt (origin : Call c) : Statement (Call c) → Bool
  | .call target => target.isAt origin
  | _ => false

namespace Codebase

variable (c) (p : Profile)

/-- What stands in place of a call inside a branch or loop when `origin` is inlined. -/
def standIn (origin call : Call c) : List (Statement (Call c)) :=
  if call.isAt origin then []
  else if p.publishes call.invocation then [.call call]
  else
    match c.resolve call.invocation with
    | some m => m.body.filter (!·.isCallAt origin)
    | none => [.call call]

/-- What stands in place of a statement at the top of a body when `origin` is inlined. -/
def unfold (origin : Call c) (statement : Statement (Call c)) : List (Statement (Call c)) :=
  if statement.isCallAt origin then []
  else if statement.isComposite then
    (statement.replace (c.standIn p origin)).map (·.map Call.copy)
  else [statement]

/-- Inlines a call; `none` when it lands nowhere. -/
def inline? (origin : Call c) : Option (Inlined c) :=
  (c.resolve origin.invocation).map fun m => ⟨m, m.body.flatMap (c.unfold p origin)⟩

/-- The calls whose landing decides what an inlined call stands for. -/
def consulted (origin : Call c) : List Invocation :=
  origin.invocation ::
    match c.resolve origin.invocation with
    | none => []
    | some m =>
      ((m.body.filter Statement.isComposite).flatMap Statement.exposed |>.filter fun call =>
        !call.isAt origin && !p.publishes call.invocation).map (·.invocation)

/-- The ambiguities met when a call is inlined. -/
def ambiguities (origin : Call c) : List Ambiguity :=
  (c.consulted p origin).filterMap c.ambiguity?

/-- The call written at a place; `none` if another statement or nothing stands there. -/
def callAt? (m : c.MethodRef) (path : List Nat) : Option (Call c) :=
  (Statement.callsOfBody m.body).find? fun call => call.site == some ⟨m, path⟩

end Codebase

end Ripple
