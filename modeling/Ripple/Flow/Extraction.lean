import Ripple.Flow.Walk

/-!
# Extractions

The flow that one message starts, as a renderer needs it: the participants in order and the
diagram. The walk starts at the external actor. Where exactly one type constructs the message
and its service is known, that service is the caller: it becomes the first participant and the
source of the first arrow.
-/

namespace Ripple

/-- One flow, under the full name of the message that starts it. -/
structure Extraction where
  message : String
  participants : List String
  fragments : List Fragment
deriving Inhabited

/-- Names the caller of a flow, if there is an arrow to name it on. -/
def Extraction.withCaller (e : Extraction) (service : String) : Extraction :=
  if e.fragments.any Fragment.isArrow then
    { e with
      participants := service :: e.participants.filter (· != service)
      fragments := Fragment.withFirstSource service e.fragments }
  else e

namespace Codebase

variable (c : Codebase) (p : Profile)

/-- The service that sends a message, when exactly one type constructs it. -/
def caller? (message : c.Ref) : Option String :=
  match c.origins message with
  | [origin] => p.serviceOf (c.decl origin)
  | _ => none

/-- Names the caller of the flow that `message` starts, if it has one. -/
def repairCaller (message : c.Ref) (e : Extraction) : Extraction :=
  match c.caller? p message with
  | some service => e.withCaller service
  | none => e

/-- The walk that a message starts, from the external actor and with nothing on record. -/
def freshVisit (message : c.Ref) : List Fragment × Ledger c :=
  visit c p message none none {} {}

/-- The flow that a message starts. -/
def extractFrom (message : c.Ref) : Extraction :=
  let walked := c.freshVisit p message
  c.repairCaller p message
    { message := c.fullName message
      participants := walked.2.participants
      fragments := walked.1 }

/-- The flow that the message of that full name starts; `none` if there is no such type. -/
def extract (fullName : String) : Option Extraction :=
  (c.find? fullName).map (c.extractFrom p)

/-- The notices that extracting a flow gives. -/
def extractNotices (message : c.Ref) : List Notice :=
  (c.freshVisit p message).2.notices p.maxDepth

end Codebase

end Ripple
