import Ripple.Settings
import Ripple.Toml.Layout
import Ripple.Toml.Reader

/-!
# Settings as a document

How settings are kept in a text that users write and read: `Settings.write?` lays them out in
stanzas, `Settings.read?` finds them in a document. A document may have entries besides; none
of the settings may be missing. Where a table is wanted an array of its fields in order will do.
-/

namespace Ripple

open Toml (Item Entries Plain Stanza)

/-! ### Reading -/

/-- Where fields are found: by name in a table, or by position in an array. -/
inductive FieldSource where
  | named (entries : Entries)
  | listed (items : List Item)

namespace FieldSource

/-- The items that an array, or an array of tables, consists of. -/
def items? : Item → Option (List Item)
  | .array items => some items
  | .tables last earlier => some ((earlier.reverse ++ [last]).map (.table .header))
  | _ => none

/-- The fields of an item. -/
def ofItem? : Item → Option FieldSource
  | .table _ entries => some (.named entries)
  | item => (items? item).map .listed

/-- What stands for a field. -/
def field? (source : FieldSource) (position : Nat) (name : String) : Option Item :=
  match source with
  | .named entries => Entries.get? name entries
  | .listed items => items[position]?

def text? (source : FieldSource) (position : Nat) (name : String) : Option String :=
  match source.field? position name with
  | some (.string s) => some s
  | _ => none

/-- A count is an integer that is not negative. -/
def count? (source : FieldSource) (position : Nat) (name : String) : Option Nat :=
  match source.field? position name with
  | some (.integer (.ofNat n)) => some n
  | _ => none

def record? {α : Type} (read? : FieldSource → Option α) (source : FieldSource) (position : Nat)
    (name : String) : Option α :=
  (source.field? position name).bind fun item => (ofItem? item).bind read?

def list? {α : Type} (read? : Item → Option α) (source : FieldSource) (position : Nat)
    (name : String) : Option (List α) :=
  (source.field? position name).bind fun item => (items? item).bind (·.mapM read?)

end FieldSource

open FieldSource (ofItem?)

def PublishOperation.ofFields? (f : FieldSource) : Option PublishOperation := do
  return { name := ← f.text? 0 "name", argument := ← f.count? 1 "argument" }

def MessagingSettings.ofFields? (f : FieldSource) : Option MessagingSettings := do
  return {
    commandType := ← f.text? 0 "command_type"
    eventType := ← f.text? 1 "event_type"
    handlerCallbackType := ← f.text? 2 "handler_callback_type"
    bodyMarker := ← f.text? 3 "body_marker"
    eventHandlerMethod := ← f.text? 4 "event_handler_method"
    commandHandlerMethod := ← f.text? 5 "command_handler_method"
    publishOperations := ← f.list? (fun item => (ofItem? item).bind PublishOperation.ofFields?) 6
      "publish_operations" }

def ServiceSettings.ofFields? (f : FieldSource) : Option ServiceSettings := do
  return {
    skipSegments := ← f.list? (fun | .string s => some s | _ => none) 0 "skip_segments" }

def DiagramSettings.ofFields? (f : FieldSource) : Option DiagramSettings := do
  return {
    externalActor := ← f.text? 0 "external_actor"
    unknownService := ← f.text? 1 "unknown_service"
    commandColor := ← f.text? 2 "command_color"
    eventColor := ← f.text? 3 "event_color" }

def TraversalSettings.ofFields? (f : FieldSource) : Option TraversalSettings := do
  return { maxDepth := ← f.count? 0 "max_depth" }

namespace Settings

def ofFields? (f : FieldSource) : Option Settings := do
  return {
    messaging := ← f.record? MessagingSettings.ofFields? 0 "messaging"
    services := ← f.record? ServiceSettings.ofFields? 1 "services"
    diagram := ← f.record? DiagramSettings.ofFields? 2 "diagram"
    traversal := ← f.record? TraversalSettings.ofFields? 3 "traversal" }

/-- The settings that a text holds. -/
def read? (text : String) : Option Settings :=
  (Toml.read text).bind fun entries => ofFields? (.named entries)

end Settings

/-! ### Writing -/

/-- Publish operations have a stanza each. -/
def PublishOperation.toStanza (op : PublishOperation) : Stanza :=
  { heading := .element ["messaging", "publish_operations"]
    entries := [("name", .text op.name), ("argument", .count op.argument)] }

/-- The entries of messaging settings. That there are no publish operations needs an entry. -/
def MessagingSettings.toEntries (m : MessagingSettings) : List (String × Plain) :=
  [("command_type", .text m.commandType), ("event_type", .text m.eventType),
    ("handler_callback_type", .text m.handlerCallbackType), ("body_marker", .text m.bodyMarker),
    ("event_handler_method", .text m.eventHandlerMethod),
    ("command_handler_method", .text m.commandHandlerMethod)] ++
  if m.publishOperations.isEmpty then [("publish_operations", .texts [])] else []

def MessagingSettings.toStanzas (m : MessagingSettings) : List Stanza :=
  { heading := .table ["messaging"], entries := m.toEntries } ::
    m.publishOperations.map PublishOperation.toStanza

def ServiceSettings.toStanza (s : ServiceSettings) : Stanza :=
  { heading := .table ["services"], entries := [("skip_segments", .texts s.skipSegments)] }

def DiagramSettings.toStanza (d : DiagramSettings) : Stanza :=
  { heading := .table ["diagram"]
    entries := [("external_actor", .text d.externalActor),
      ("unknown_service", .text d.unknownService), ("command_color", .text d.commandColor),
      ("event_color", .text d.eventColor)] }

def TraversalSettings.toStanza (t : TraversalSettings) : Stanza :=
  { heading := .table ["traversal"], entries := [("max_depth", .count t.maxDepth)] }

namespace Settings

def toStanzas (s : Settings) : List Stanza :=
  s.messaging.toStanzas ++ [s.services.toStanza, s.diagram.toStanza, s.traversal.toStanza]

/-- The text of settings, unless one of their counts is too large to be written. -/
def write? (s : Settings) : Option String := Toml.write? s.toStanzas

end Settings

end Ripple
