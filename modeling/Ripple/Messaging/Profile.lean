import Ripple.Codebase
import Ripple.Pattern

/-!
# Messaging profiles

How the analysed code sends and handles messages: the base types of commands and events, how
handlers are recognised, which calls publish, how services are named, and how the diagram
names and colours what it shows.
-/

namespace Ripple

/-- A method whose call puts a message on the bus; `argument` counts from zero and says which
argument is the message. -/
structure PublishOperation where
  name : String
  argument : Nat
deriving DecidableEq, Repr, Inhabited

/-- What kind of message a type is. -/
inductive MessageKind where
  | command
  | event
  | other
deriving DecidableEq, Repr, Inhabited

/-- The conventions of one code base, ready for use. -/
structure Profile where
  commandType : String
  eventType : String
  handlerCallbackType : String
  bodyMarker : String
  eventHandlerMethod : String
  commandHandlerMethod : String
  publishOperations : List PublishOperation
  skippedSegments : List Pattern
  externalActor : String
  unknownService : String
  commandColor : String
  eventColor : String
  maxDepth : Nat

namespace Profile

variable (p : Profile)

/-- The service a full name belongs to: its first segment that no pattern skips. -/
def serviceFor (fullName : String) : Option String :=
  (Name.segments fullName).find? fun part => !p.skippedSegments.any (·.occursIn part)

/-- The service a type belongs to. -/
def serviceOf (t : TypeDecl) : Option String := p.serviceFor t.fullName

/-- The participant that stands for a service, known or not. -/
def participant (service : Option String) : String := service.getD p.unknownService

/-- Commands before events: a type that is both is a command. -/
def kindOf (message : TypeDecl) : MessageKind :=
  if message.implements p.commandType then .command
  else if message.implements p.eventType then .event
  else .other

/-- The colour of an arrow: all that is no command looks like an event. -/
def colorOf : MessageKind → String
  | .command => p.commandColor
  | .event | .other => p.eventColor

/-- The publish operation that a call performs. -/
def publishOperation (call : Invocation) : Option PublishOperation :=
  p.publishOperations.find? (·.name == call.name)

/-- Whether a call puts a message on the bus. -/
def publishes (call : Invocation) : Bool := (p.publishOperation call).isSome

/-- The full name of the type of the message that a publishing call sends. -/
def publishedName (call : Invocation) : Option String :=
  (p.publishOperation call).bind fun op => (call.arguments[op.argument]?).map (·.typeName)

end Profile

end Ripple
