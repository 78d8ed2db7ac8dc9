import Ripple.Json
import Ripple.Json.Decode
import Ripple.Settings

/-!
# The exchange form of settings

How settings are written as JSON and read from it. No field may be missing.
-/

namespace Ripple

open Json (Decoder)
open Json.Decoder (need)

namespace PublishOperation

def toJson (op : PublishOperation) : Json :=
  .object [("name", .string op.name), ("argument", .number op.argument)]

/-- A publish operation that is being read. -/
structure Draft where
  name : Option String := none
  argument : Option Nat := none

def decoder : Decoder PublishOperation := .record
  { name := "PublishOperation"
    fields := [
      .of "name" true .string Draft.name fun x s => { s with name := some x },
      .of "argument" true .word Draft.argument fun x s => { s with argument := some x }]
    start := {}
    finish := fun s => do
      return { name := ← need "name" s.name, argument := ← need "argument" s.argument } }

end PublishOperation

namespace MessagingSettings

def toJson (m : MessagingSettings) : Json :=
  .object [("command_type", .string m.commandType), ("event_type", .string m.eventType),
    ("handler_callback_type", .string m.handlerCallbackType),
    ("body_marker", .string m.bodyMarker),
    ("event_handler_method", .string m.eventHandlerMethod),
    ("command_handler_method", .string m.commandHandlerMethod),
    ("publish_operations", .ofList PublishOperation.toJson m.publishOperations)]

/-- Messaging settings that are being read. -/
structure Draft where
  commandType : Option String := none
  eventType : Option String := none
  handlerCallbackType : Option String := none
  bodyMarker : Option String := none
  eventHandlerMethod : Option String := none
  commandHandlerMethod : Option String := none
  publishOperations : Option (List PublishOperation) := none

def decoder : Decoder MessagingSettings := .record
  { name := "MessagingConfig"
    fields := [
      .of "command_type" true .string Draft.commandType
        fun x s => { s with commandType := some x },
      .of "event_type" true .string Draft.eventType fun x s => { s with eventType := some x },
      .of "handler_callback_type" true .string Draft.handlerCallbackType
        fun x s => { s with handlerCallbackType := some x },
      .of "body_marker" true .string Draft.bodyMarker fun x s => { s with bodyMarker := some x },
      .of "event_handler_method" true .string Draft.eventHandlerMethod
        fun x s => { s with eventHandlerMethod := some x },
      .of "command_handler_method" true .string Draft.commandHandlerMethod
        fun x s => { s with commandHandlerMethod := some x },
      .of "publish_operations" true (.list PublishOperation.decoder) Draft.publishOperations
        fun x s => { s with publishOperations := some x }]
    start := {}
    finish := fun s => do
      return {
        commandType := ← need "command_type" s.commandType
        eventType := ← need "event_type" s.eventType
        handlerCallbackType := ← need "handler_callback_type" s.handlerCallbackType
        bodyMarker := ← need "body_marker" s.bodyMarker
        eventHandlerMethod := ← need "event_handler_method" s.eventHandlerMethod
        commandHandlerMethod := ← need "command_handler_method" s.commandHandlerMethod
        publishOperations := ← need "publish_operations" s.publishOperations } }

end MessagingSettings

namespace ServiceSettings

def toJson (s : ServiceSettings) : Json := .object [("skip_segments", .strings s.skipSegments)]

/-- Service settings that are being read. -/
structure Draft where
  skipSegments : Option (List String) := none

def decoder : Decoder ServiceSettings := .record
  { name := "ServicesConfig"
    fields := [
      .of "skip_segments" true (.list .string) Draft.skipSegments
        fun x s => { s with skipSegments := some x }]
    start := {}
    finish := fun s => (need "skip_segments" s.skipSegments).map fun x => ⟨x⟩ }

end ServiceSettings

namespace DiagramSettings

def toJson (d : DiagramSettings) : Json :=
  .object [("external_actor", .string d.externalActor),
    ("unknown_service", .string d.unknownService), ("command_color", .string d.commandColor),
    ("event_color", .string d.eventColor)]

/-- Diagram settings that are being read. -/
structure Draft where
  externalActor : Option String := none
  unknownService : Option String := none
  commandColor : Option String := none
  eventColor : Option String := none

def decoder : Decoder DiagramSettings := .record
  { name := "DiagramConfig"
    fields := [
      .of "external_actor" true .string Draft.externalActor
        fun x s => { s with externalActor := some x },
      .of "unknown_service" true .string Draft.unknownService
        fun x s => { s with unknownService := some x },
      .of "command_color" true .string Draft.commandColor
        fun x s => { s with commandColor := some x },
      .of "event_color" true .string Draft.eventColor
        fun x s => { s with eventColor := some x }]
    start := {}
    finish := fun s => do
      return {
        externalActor := ← need "external_actor" s.externalActor
        unknownService := ← need "unknown_service" s.unknownService
        commandColor := ← need "command_color" s.commandColor
        eventColor := ← need "event_color" s.eventColor } }

end DiagramSettings

namespace TraversalSettings

def toJson (t : TraversalSettings) : Json := .object [("max_depth", .number t.maxDepth)]

/-- Traversal settings that are being read. -/
structure Draft where
  maxDepth : Option Nat := none

def decoder : Decoder TraversalSettings := .record
  { name := "TraversalConfig"
    fields := [
      .of "max_depth" true .word Draft.maxDepth fun x s => { s with maxDepth := some x }]
    start := {}
    finish := fun s => (need "max_depth" s.maxDepth).map fun x => ⟨x⟩ }

end TraversalSettings

namespace Settings

def toJson (s : Settings) : Json :=
  .object [("messaging", s.messaging.toJson), ("services", s.services.toJson),
    ("diagram", s.diagram.toJson), ("traversal", s.traversal.toJson)]

/-- Settings that are being read. -/
structure Draft where
  messaging : Option MessagingSettings := none
  services : Option ServiceSettings := none
  diagram : Option DiagramSettings := none
  traversal : Option TraversalSettings := none

def decoder : Decoder Settings := .record
  { name := "Config"
    fields := [
      .of "messaging" true MessagingSettings.decoder Draft.messaging
        fun x s => { s with messaging := some x },
      .of "services" true ServiceSettings.decoder Draft.services
        fun x s => { s with services := some x },
      .of "diagram" true DiagramSettings.decoder Draft.diagram
        fun x s => { s with diagram := some x },
      .of "traversal" true TraversalSettings.decoder Draft.traversal
        fun x s => { s with traversal := some x }]
    start := {}
    finish := fun s => do
      return {
        messaging := ← need "messaging" s.messaging
        services := ← need "services" s.services
        diagram := ← need "diagram" s.diagram
        traversal := ← need "traversal" s.traversal } }

end Settings

end Ripple
