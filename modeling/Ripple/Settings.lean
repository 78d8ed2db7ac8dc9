import Ripple.Messaging.Profile
import Ripple.Pattern.Reader

/-!
# Settings

The conventions of a code base as a user writes them down. `Settings.profile` makes them ready
for use, which fails if a pattern for segments to skip is none.
-/

namespace Ripple

/-- How messages and their handlers are recognised. -/
structure MessagingSettings where
  commandType : String
  eventType : String
  handlerCallbackType : String
  bodyMarker : String
  eventHandlerMethod : String
  commandHandlerMethod : String
  publishOperations : List PublishOperation
deriving DecidableEq, Repr

/-- How services are named: the patterns of segments that name none. -/
structure ServiceSettings where
  skipSegments : List String
deriving DecidableEq, Repr

/-- How participants and arrows are shown. -/
structure DiagramSettings where
  externalActor : String
  unknownService : String
  commandColor : String
  eventColor : String
deriving DecidableEq, Repr

/-- How far a flow is followed. -/
structure TraversalSettings where
  maxDepth : Nat
deriving DecidableEq, Repr

/-- All settings. -/
structure Settings where
  messaging : MessagingSettings
  services : ServiceSettings
  diagram : DiagramSettings
  traversal : TraversalSettings
deriving DecidableEq, Repr

namespace Settings

/-- The settings that hold unless others are given. -/
def standard : Settings :=
  { messaging :=
      { commandType := "Pitstop.Infrastructure.Messaging.Command"
        eventType := "Pitstop.Infrastructure.Messaging.Event"
        handlerCallbackType := "Pitstop.Infrastructure.Messaging.IMessageHandlerCallback"
        bodyMarker := "Microsoft.AspNetCore.Mvc.FromBodyAttribute"
        eventHandlerMethod := "HandleAsync"
        commandHandlerMethod := "HandleCommandAsync"
        publishOperations := [⟨"PublishMessageAsync", 1⟩, ⟨"RaiseEvent", 0⟩] }
    services := { skipSegments := ["(?i)^pitstop$", "^Application$"] }
    diagram :=
      { externalActor := "A"
        unknownService := "Q"
        commandColor := "DodgerBlue"
        eventColor := "ForestGreen" }
    traversal := { maxDepth := 32 } }

/-- Reads patterns in order; the first text that is no pattern is reported. -/
def patterns : List String → Except String (List Pattern)
  | [] => .ok []
  | text :: rest =>
    match Pattern.read? text with
    | none => .error text
    | some pattern => (patterns rest).map (pattern :: ·)

/-- The settings ready for use; the first text among the patterns that is none, otherwise. -/
def profile (s : Settings) : Except String Profile :=
  (patterns s.services.skipSegments).map fun skippedSegments =>
    { commandType := s.messaging.commandType
      eventType := s.messaging.eventType
      handlerCallbackType := s.messaging.handlerCallbackType
      bodyMarker := s.messaging.bodyMarker
      eventHandlerMethod := s.messaging.eventHandlerMethod
      commandHandlerMethod := s.messaging.commandHandlerMethod
      publishOperations := s.messaging.publishOperations
      skippedSegments
      externalActor := s.diagram.externalActor
      unknownService := s.diagram.unknownService
      commandColor := s.diagram.commandColor
      eventColor := s.diagram.eventColor
      maxDepth := s.traversal.maxDepth }

end Settings

end Ripple
