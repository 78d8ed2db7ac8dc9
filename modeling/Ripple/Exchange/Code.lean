import Ripple.Code.TypeDecl
import Ripple.Json
import Ripple.Json.Decode

/-!
# The exchange form of analysed code

How declared types, their members and the statements of their methods are written as JSON, and
read from it. What a writer leaves out is empty: lists of members, parameters, attributes,
arguments and statements, and some texts.
-/

namespace Ripple

open Json (Decoder)
open Json.Decoder (need)

/-! ### Statements -/

namespace Argument

def toJson (a : Argument) : Json :=
  .object [("type", .string a.typeName), ("text", .string a.text)]

/-- An argument that is being read. -/
structure Draft where
  typeName : Option String := none
  text : Option String := none

def decoder : Decoder Argument := .record
  { name := "Argument"
    fields := [
      .of "type" true .string Draft.typeName fun x s => { s with typeName := some x },
      .of "text" false .string Draft.text fun x s => { s with text := some x }]
    start := {}
    finish := fun s => do
      return { typeName := ← need "type" s.typeName, text := s.text.getD "" } }

end Argument

namespace Invocation

/-- The members that say what is called, without a tag. -/
def members (i : Invocation) : List (String × Json) :=
  [("containingType", .string i.containingType), ("name", .string i.name),
    ("arguments", .ofList Argument.toJson i.arguments)]

def toJson (i : Invocation) : Json := .object i.members

/-- A call that is being read. -/
structure Draft where
  containingType : Option String := none
  name : Option String := none
  arguments : Option (List Argument) := none

def decoder : Decoder Invocation := .record
  { name := "Invocation"
    fields := [
      .of "containingType" true .string Draft.containingType
        fun x s => { s with containingType := some x },
      .of "name" true .string Draft.name fun x s => { s with name := some x },
      .of "arguments" false (.list Argument.decoder) Draft.arguments
        fun x s => { s with arguments := some x }]
    start := {}
    finish := fun s => do
      return {
        containingType := ← need "containingType" s.containingType
        name := ← need "name" s.name
        arguments := s.arguments.getD [] } }

end Invocation

/-- An arm that is being read. -/
structure Arm.Draft (γ σ : Type) where
  guard : Option γ := none
  body : Option (List σ) := none

/-- An arm of a branching statement. -/
def Arm.decoder {γ σ : Type} [Inhabited γ] (recordName guardName : String) (guard : Decoder γ)
    (statement : Decoder σ) : Decoder (Arm γ σ) := .record
  { name := recordName
    fields := [
      .of guardName false guard Arm.Draft.guard fun x s => { s with guard := some x },
      .of "statements" false (.list statement) Arm.Draft.body fun x s => { s with body := some x }]
    start := {}
    finish := fun s => .ok ⟨s.guard.getD default, s.body.getD []⟩ }

namespace Statement

mutual

/-- A statement under its tag. -/
def toJson : Statement Invocation → Json
  | .call target => .object (("kind", .string "invocation") :: target.members)
  | .conditional arms => .object [("kind", .string "if"), ("sections", .array (armsToJson arms))]
  | .switch subject arms =>
    .object [("kind", .string "switch"), ("expression", .string subject),
      ("sections", .array (casesToJson arms))]
  | .forEach items body =>
    .object [("kind", .string "forEach"), ("expression", .string items),
      ("statements", .array (bodyToJson body))]
  | .block body => .object [("kind", .string "block"), ("statements", .array (bodyToJson body))]

/-- The statements of a body. -/
def bodyToJson : List (Statement Invocation) → List Json
  | [] => []
  | statement :: rest => statement.toJson :: bodyToJson rest

/-- The arms of a conditional. -/
def armsToJson : List (Arm String (Statement Invocation)) → List Json
  | [] => []
  | ⟨guard, body⟩ :: rest =>
    .object [("condition", .string guard), ("statements", .array (bodyToJson body))]
      :: armsToJson rest

/-- The arms of a switch. -/
def casesToJson : List (Arm (List String) (Statement Invocation)) → List Json
  | [] => []
  | ⟨guard, body⟩ :: rest =>
    .object [("labels", .strings guard), ("statements", .array (bodyToJson body))]
      :: casesToJson rest

end

/-- A composite statement that is being read. -/
structure Draft (α : Type) where
  expression : Option String := none
  contents : Option (List α) := none

/-- A statement in which no more than `depth` others nest. -/
def decoderWithin : Nat → Decoder (Statement Invocation)
  | 0 => fun _ _ => .error (.fault .malformed)
  | depth + 1 => .tagged "internally tagged enum Statement" "kind" [
    ("invocation", fun p o => (Invocation.decoder p o).map .call),
    ("if", .record
      { name := "IfStatement"
        fields := [
          .of "sections" true (.list (Arm.decoder "IfSection" "condition" .string
            (decoderWithin depth))) Draft.contents fun x s => { s with contents := some x }]
        start := ({} : Draft (Arm String (Statement Invocation)))
        finish := fun s => (need "sections" s.contents).map .conditional }),
    ("switch", .record
      { name := "SwitchStatement"
        fields := [
          .of "expression" false .string Draft.expression
            fun x s => { s with expression := some x },
          .of "sections" true (.list (Arm.decoder "SwitchSection" "labels" (.list .string)
            (decoderWithin depth))) Draft.contents fun x s => { s with contents := some x }]
        start := ({} : Draft (Arm (List String) (Statement Invocation)))
        finish := fun s => (need "sections" s.contents).map (.switch (s.expression.getD "")) }),
    ("forEach", .record
      { name := "ForEach"
        fields := [
          .of "expression" true .string Draft.expression
            fun x s => { s with expression := some x },
          .of "statements" false (.list (decoderWithin depth)) Draft.contents
            fun x s => { s with contents := some x }]
        start := ({} : Draft (Statement Invocation))
        finish := fun s => do
          return .forEach (← need "expression" s.expression) (s.contents.getD []) }),
    ("block", .record
      { name := "Block"
        fields := [
          .of "statements" false (.list (decoderWithin depth)) Draft.contents
            fun x s => { s with contents := some x }]
        start := ({} : Draft (Statement Invocation))
        finish := fun s => .ok (.block (s.contents.getD [])) })]

/-- A statement. The limit of nesting in a text is never reached before that of levels. -/
def decoder : Decoder (Statement Invocation) := decoderWithin Json.nestingLimit

end Statement

/-! ### Types and their members -/

namespace TypeKind

/-- Each kind under its name. -/
def names : List (String × TypeKind) :=
  [("class", .classType), ("interface", .interfaceType), ("struct", .structType),
    ("enum", .enumType), ("other", .other)]

def name : TypeKind → String
  | .classType => "class"
  | .interfaceType => "interface"
  | .structType => "struct"
  | .enumType => "enum"
  | .other => "other"

def decoder : Decoder TypeKind := .name names

end TypeKind

namespace Member

def toJson (m : Member) : Json :=
  .object [("name", .string m.name), ("type", .string m.typeName)]

/-- A field or property that is being read. -/
structure Draft where
  name : Option String := none
  typeName : Option String := none

def decoder : Decoder Member := .record
  { name := "MemberDescription"
    fields := [
      .of "name" true .string Draft.name fun x s => { s with name := some x },
      .of "type" true .string Draft.typeName fun x s => { s with typeName := some x }]
    start := {}
    finish := fun s => do
      return { name := ← need "name" s.name, typeName := ← need "type" s.typeName } }

end Member

namespace Parameter

def toJson (p : Parameter) : Json :=
  .object [("type", .string p.typeName), ("name", .string p.name),
    ("attributes", .strings p.attributes)]

/-- A parameter that is being read. -/
structure Draft where
  typeName : Option String := none
  name : Option String := none
  attributes : Option (List String) := none

def decoder : Decoder Parameter := .record
  { name := "ParameterDescription"
    fields := [
      .of "type" true .string Draft.typeName fun x s => { s with typeName := some x },
      .of "name" true .string Draft.name fun x s => { s with name := some x },
      .of "attributes" false (.list .string) Draft.attributes
        fun x s => { s with attributes := some x }]
    start := {}
    finish := fun s => do
      return {
        typeName := ← need "type" s.typeName
        name := ← need "name" s.name
        attributes := s.attributes.getD [] } }

end Parameter

namespace Method

def toJson (m : Method) : Json :=
  .object [("name", .string m.name), ("parameters", .ofList Parameter.toJson m.parameters),
    ("statements", .array (Statement.bodyToJson m.statements))]

/-- A method that is being read. -/
structure Draft where
  name : Option String := none
  parameters : Option (List Parameter) := none
  statements : Option Body := none

def decoder : Decoder Method := .record
  { name := "MethodDescription"
    fields := [
      .of "name" true .string Draft.name fun x s => { s with name := some x },
      .of "parameters" false (.list Parameter.decoder) Draft.parameters
        fun x s => { s with parameters := some x },
      .of "statements" false (.list Statement.decoder) Draft.statements
        fun x s => { s with statements := some x }]
    start := {}
    finish := fun s => do
      return {
        name := ← need "name" s.name
        parameters := s.parameters.getD []
        statements := s.statements.getD [] } }

end Method

namespace TypeDecl

def toJson (t : TypeDecl) : Json :=
  .object [("kind", .string t.kind.name), ("fullName", .string t.fullName),
    ("baseTypes", .strings t.baseTypes), ("fields", .ofList Member.toJson t.fields),
    ("properties", .ofList Member.toJson t.properties),
    ("methods", .ofList Method.toJson t.methods)]

/-- A type that is being read. -/
structure Draft where
  kind : Option TypeKind := none
  fullName : Option String := none
  baseTypes : Option (List String) := none
  fields : Option (List Member) := none
  properties : Option (List Member) := none
  methods : Option (List Method) := none

def decoder : Decoder TypeDecl := .record
  { name := "TypeDescription"
    fields := [
      .of "kind" true TypeKind.decoder Draft.kind fun x s => { s with kind := some x },
      .of "fullName" true .string Draft.fullName fun x s => { s with fullName := some x },
      .of "baseTypes" false (.list .string) Draft.baseTypes
        fun x s => { s with baseTypes := some x },
      .of "fields" false (.list Member.decoder) Draft.fields
        fun x s => { s with fields := some x },
      .of "properties" false (.list Member.decoder) Draft.properties
        fun x s => { s with properties := some x },
      .of "methods" false (.list Method.decoder) Draft.methods
        fun x s => { s with methods := some x }]
    start := {}
    finish := fun s => do
      return {
        kind := ← need "kind" s.kind
        fullName := ← need "fullName" s.fullName
        baseTypes := s.baseTypes.getD []
        fields := s.fields.getD []
        properties := s.properties.getD []
        methods := s.methods.getD [] } }

end TypeDecl

/-- The types of an analysed code base as one JSON value. -/
def TypeDecl.listToJson (types : List TypeDecl) : Json := .ofList TypeDecl.toJson types

/-- Reads the types of an analysed code base. -/
def TypeDecl.listOfText (text : String) : Except Json.ReadError (List TypeDecl) :=
  Json.read (.list TypeDecl.decoder) text

end Ripple
