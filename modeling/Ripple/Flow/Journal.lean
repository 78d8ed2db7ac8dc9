import Ripple.Call.Inlining
import Ripple.Diagram.Fragment
import Ripple.Notice

/-!
# The state of a walk

A walk keeps two kinds of record. Its `Trail` says what is being worked on, from the outermost
call to the innermost, and changes only on the way down. Its `Ledger` is handed on from each
step to the next: the participants seen so far, the services that are active, and a journal
of what happened. A journal entry holds the trail and the lists as they stood at that moment.
-/

namespace Ripple

/-- The visit of a message to a handler, by full names. -/
structure Visit where
  handler : String
  message : String
deriving DecidableEq, Repr

/-- What is being worked on, innermost first: the visits whose bodies are being walked, and
the methods inlined within the body of the innermost. -/
structure Trail (c : Codebase) where
  visits : List Visit := []
  inlined : List c.MethodRef := []

namespace Trail

variable {c : Codebase}

/-- Enters the body of a visit, in which no method is inlined yet. -/
def enter (t : Trail c) (visit : Visit) : Trail c := ⟨visit :: t.visits, []⟩

/-- Enters the body of an inlined method. -/
def enterInlined (t : Trail c) (m : c.MethodRef) : Trail c := { t with inlined := m :: t.inlined }

end Trail

/-- Something that happens during a walk. -/
inductive Event (c : Codebase) where
  | arrived (message : c.Ref)
  | tooDeep (message : c.Ref)
  | opened (visit : Visit) (service : Option String)
  | reentered (visit : Visit)
  | entered (visit : Visit) (m : c.MethodRef)
  | published (handler : c.Ref) (call : Invocation)
  | ambiguous (ambiguity : Ambiguity)
  | inlined (m : c.MethodRef)
  | closed (visit : Visit) (service : Option String)
  | left (message : c.Ref)

/-- An event with the trail, the participants and the active services as they stood then. -/
structure Entry (c : Codebase) where
  event : Event c
  trail : Trail c
  participants : List String
  active : List String

/-- What a walk hands on: participants in the order first seen, active services innermost
last, and the journal, latest entry first. -/
structure Ledger (c : Codebase) where
  participants : List String := []
  active : List String := []
  journal : List (Entry c) := []

namespace Ledger

variable {c : Codebase} (l : Ledger c)

/-- Enters an event in the journal. -/
def record (trail : Trail c) (event : Event c) : Ledger c :=
  { l with journal := ⟨event, trail, l.participants, l.active⟩ :: l.journal }

/-- Enters several events. -/
def recordAll (trail : Trail c) (events : List (Event c)) : Ledger c :=
  events.foldl (fun l event => l.record trail event) l

/-- Adds a participant unless it was seen. -/
def join (participant : String) : Ledger c :=
  if l.participants.contains participant then l
  else { l with participants := l.participants ++ [participant] }

/-- Activates a service unless it is active or unknown. -/
def activate (service : Option String) : Ledger c :=
  match service with
  | some name => if l.active.contains name then l else { l with active := l.active ++ [name] }
  | none => l

/-- Deactivates a known service if it is the innermost active one and not pinned. -/
def deactivate (service pinned : Option String) : Ledger c :=
  if service.isSome && l.active.getLast? == service && service != pinned then
    { l with active := l.active.dropLast }
  else l

end Ledger

/-- The notice an event is worth. -/
def Event.notice? {c : Codebase} (limit : Nat) : Event c → Option Notice
  | .tooDeep message => some (.tooDeep limit (c.fullName message))
  | .ambiguous a => some (.ambiguous a)
  | _ => none

/-- The notices in a journal, in the order they arose. -/
def Ledger.notices {c : Codebase} (limit : Nat) (l : Ledger c) : List Notice :=
  l.journal.reverse.filterMap (·.event.notice? limit)

end Ripple
