import Ripple.Flow.Commands
import Ripple.Json
import Ripple.Json.Decode

/-!
# The exchange form of diagrams

How fragments, extractions and command diagrams are written as JSON for a renderer, and read
back.
-/

namespace Ripple

open Json (Decoder)
open Json.Decoder (need)

namespace Arrow

/-- The members of an arrow, without a tag. -/
def members (a : Arrow) : List (String × Json) :=
  [("source", .string a.source), ("target", .string a.target), ("label", .string a.label),
    ("color", .string a.color)]

/-- An arrow that is being read. -/
structure Draft where
  source : Option String := none
  target : Option String := none
  label : Option String := none
  color : Option String := none

def decoder : Decoder Arrow := .record
  { name := "Arrow"
    fields := [
      .of "source" true .string Draft.source fun x s => { s with source := some x },
      .of "target" true .string Draft.target fun x s => { s with target := some x },
      .of "label" true .string Draft.label fun x s => { s with label := some x },
      .of "color" true .string Draft.color fun x s => { s with color := some x }]
    start := {}
    finish := fun s => do
      return {
        source := ← need "source" s.source
        target := ← need "target" s.target
        label := ← need "label" s.label
        color := ← need "color" s.color } }

end Arrow

namespace GroupKind

/-- Each kind of group under its name. -/
def names : List (String × GroupKind) :=
  [("forEach", .forEach), ("case", .case), ("if", .conditional)]

def name : GroupKind → String
  | .forEach => "forEach"
  | .case => "case"
  | .conditional => "if"

end GroupKind

/-- A section that is being read. -/
structure Section.Draft (φ : Type) where
  group : Option (Option GroupKind) := none
  label : Option String := none
  fragments : Option (List φ) := none

/-- A section of a group. The kind may be missing, which is the same as `null`. -/
def Section.decoder {φ : Type} (fragment : Decoder φ) : Decoder (Section φ) := .record
  { name := "AltSection"
    fields := [
      .of "groupType" true (.optional (.name GroupKind.names)) Section.Draft.group
        fun x s => { s with group := some x },
      .of "label" true .string Section.Draft.label fun x s => { s with label := some x },
      .of "fragments" true (.list fragment) Section.Draft.fragments
        fun x s => { s with fragments := some x }]
    start := {}
    finish := fun s => do
      return {
        group := s.group.getD none
        label := ← need "label" s.label
        fragments := ← need "fragments" s.fragments } }

namespace Fragment

mutual

/-- A fragment under its tag. -/
def toJson : Fragment → Json
  | .arrow a => .object (("type", .string "arrow") :: a.members)
  | .alt sections =>
    .object [("type", .string "alt"), ("sections", .array (sectionsToJson sections))]

/-- The fragments of a list. -/
def listToJson : List Fragment → List Json
  | [] => []
  | fragment :: rest => fragment.toJson :: listToJson rest

/-- The sections of a group. -/
def sectionsToJson : List (Section Fragment) → List Json
  | [] => []
  | ⟨group, label, fragments⟩ :: rest =>
    .object [("groupType", .ofOption (fun kind => .string kind.name) group),
      ("label", .string label), ("fragments", .array (listToJson fragments))]
      :: sectionsToJson rest

end

/-- A group that is being read. -/
structure Draft where
  sections : Option (List (Section Fragment)) := none

/-- A fragment in which no more than `depth` others nest. -/
def decoderWithin : Nat → Decoder Fragment
  | 0 => fun _ _ => .error (.fault .malformed)
  | depth + 1 => .tagged "internally tagged enum Fragment" "type" [
    ("arrow", fun p o => (Arrow.decoder p o).map .arrow),
    ("alt", .record
      { name := "Alt"
        fields := [
          .of "sections" true (.list (Section.decoder (decoderWithin depth))) Draft.sections
            fun x s => { s with sections := some x }]
        start := {}
        finish := fun s => (need "sections" s.sections).map .alt })]

/-- A fragment. The limit of nesting in a text is never reached before that of levels. -/
def decoder : Decoder Fragment := decoderWithin Json.nestingLimit

/-- The fragments of a diagram as a record of their own. -/
def diagramToJson (fragments : List Fragment) : Json :=
  .object [("fragments", .array (listToJson fragments))]

/-- A diagram that is being read. -/
structure DiagramDraft where
  fragments : Option (List Fragment) := none

/-- The fragments of a diagram. -/
def diagramDecoder : Decoder (List Fragment) := .record
  { name := "Interactions"
    fields := [
      .of "fragments" true (.list decoder) DiagramDraft.fragments
        fun x s => { s with fragments := some x }]
    start := {}
    finish := fun s => need "fragments" s.fragments }

end Fragment

namespace Extraction

def toJson (e : Extraction) : Json :=
  .object [("message", .string e.message), ("participants", .strings e.participants),
    ("interactions", Fragment.diagramToJson e.fragments)]

/-- An extraction that is being read. -/
structure Draft where
  message : Option String := none
  participants : Option (List String) := none
  fragments : Option (List Fragment) := none

def decoder : Decoder Extraction := .record
  { name := "Extraction"
    fields := [
      .of "message" true .string Draft.message fun x s => { s with message := some x },
      .of "participants" true (.list .string) Draft.participants
        fun x s => { s with participants := some x },
      .of "interactions" true Fragment.diagramDecoder Draft.fragments
        fun x s => { s with fragments := some x }]
    start := {}
    finish := fun s => do
      return {
        message := ← need "message" s.message
        participants := ← need "participants" s.participants
        fragments := ← need "interactions" s.fragments } }

end Extraction

namespace CommandDiagram

def toJson (d : CommandDiagram) : Json :=
  .object [("name", .string d.name), ("defined_in", .strings d.definedIn),
    ("extraction", .ofOption Extraction.toJson d.extraction)]

/-- A command diagram that is being read. -/
structure Draft where
  name : Option String := none
  definedIn : Option (List String) := none
  extraction : Option (Option Extraction) := none

def decoder : Decoder CommandDiagram := .record
  { name := "CommandDiagram"
    fields := [
      .of "name" true .string Draft.name fun x s => { s with name := some x },
      .of "defined_in" true (.list .string) Draft.definedIn
        fun x s => { s with definedIn := some x },
      .of "extraction" true (.optional Extraction.decoder) Draft.extraction
        fun x s => { s with extraction := some x }]
    start := {}
    finish := fun s => do
      return {
        name := ← need "name" s.name
        definedIn := ← need "defined_in" s.definedIn
        extraction := s.extraction.getD none } }

/-- Command diagrams as one JSON value. -/
def listToJson (diagrams : List CommandDiagram) : Json := .ofList toJson diagrams

/-- Reads command diagrams. -/
def listOfText (text : String) : Except Json.ReadError (List CommandDiagram) :=
  Json.read (.list decoder) text

end CommandDiagram

namespace MessageKind

/-- Each kind of message under its name. -/
def names : List (String × MessageKind) :=
  [("command", .command), ("event", .event), ("other", .other)]

def name : MessageKind → String
  | .command => "command"
  | .event => "event"
  | .other => "other"

end MessageKind

end Ripple
