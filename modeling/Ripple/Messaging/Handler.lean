import Ripple.Messaging.Profile

/-!
# Handlers

Which types handle a message, and with which of their methods.

Event handlers are the classes that derive from the handler callback type and have a handle
method taking a type of the message's simple name, in whatever scope. The command handler is
the first class with a method that takes the message itself in a parameter bound from the
request body.
-/

namespace Ripple

namespace Profile

variable (p : Profile)

/-- Whether a method takes exactly this message in a parameter bound from the request body. -/
def bindsFromBody (m : Method) (message : TypeDecl) : Bool :=
  m.parameters.any fun q => q.typeName == message.fullName && q.hasAttribute p.bodyMarker

/-- Whether a method has the name and a parameter of an event handler for the message. -/
def handlesEvent (m : Method) (message : TypeDecl) : Bool :=
  m.name == p.eventHandlerMethod && m.takes message.name

/-- Whether a method handles the message as a command, bound from a body or by its name. -/
def handlesCommand (m : Method) (message : TypeDecl) : Bool :=
  p.bindsFromBody m message || (m.name == p.commandHandlerMethod && m.takes message.name)

/-- Whether a type is an event handler for the message. -/
def isEventHandler (t message : TypeDecl) : Bool :=
  t.isClass && t.implements p.handlerCallbackType
    && t.methods.any (p.handlesEvent · message)

/-- Whether a type can be the command handler for the message. -/
def isCommandHandler (t message : TypeDecl) : Bool :=
  t.isClass && t.methods.any (p.bindsFromBody · message)

/-- Whether a method is the one to run for a message, by the kind of the message. -/
def isHandlingMethod (m : Method) (message : TypeDecl) : Bool :=
  match p.kindOf message with
  | .event => p.handlesEvent m message
  | .command => p.handlesCommand m message
  | .other => false

end Profile

namespace Codebase

variable (c : Codebase) (p : Profile)

/-- Every event handler for a message, in order. -/
def eventHandlers (message : TypeDecl) : List c.Ref :=
  c.refs.filter fun r => p.isEventHandler (c.decl r) message

/-- The first type that can be the command handler for a message. -/
def commandHandler (message : TypeDecl) : Option c.Ref :=
  c.refs.find? fun r => p.isCommandHandler (c.decl r) message

/-- The event handlers, then the command handler. -/
def handlers (message : TypeDecl) : List c.Ref :=
  c.eventHandlers p message ++ (c.commandHandler p message).toList

/-- The first method of a type that is to run for a message. -/
def handlingMethod (handler : c.Ref) (message : TypeDecl) : Option c.MethodRef :=
  (c.methodsOf handler).find? fun m => p.isHandlingMethod m.method message

end Codebase

end Ripple
