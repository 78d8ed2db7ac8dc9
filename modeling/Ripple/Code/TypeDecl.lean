import Ripple.Code.Statement
import Ripple.Name

/-!
# Type declarations

What is known of one type of the analysed code: its kind, its full name, the names of its
base types, and its members. `TypeDecl.empty` and the `with…` functions build one step by step.
-/

namespace Ripple

/-- The kind of a declared type. -/
inductive TypeKind where
  | classType
  | interfaceType
  | structType
  | enumType
  | other
deriving DecidableEq, Repr, Inhabited

/-- A field or property. -/
structure Member where
  name : String
  typeName : String
deriving DecidableEq, Repr, Inhabited

/-- A parameter, with the full names of the attributes attached to it. -/
structure Parameter where
  typeName : String
  name : String
  attributes : List String
deriving DecidableEq, Repr, Inhabited

/-- A method, constructor or accessor with its body. -/
structure Method where
  name : String
  parameters : List Parameter
  statements : Body
deriving Inhabited

/-- A declared type. -/
structure TypeDecl where
  kind : TypeKind
  fullName : String
  baseTypes : List String
  fields : List Member
  properties : List Member
  methods : List Method
deriving Inhabited

namespace Parameter

/-- Whether an attribute of that full name is attached. -/
def hasAttribute (p : Parameter) (fullName : String) : Bool :=
  p.attributes.contains fullName

/-- Whether the type of the parameter is `simpleName` in some scope. -/
def isOfType (p : Parameter) (simpleName : String) : Bool :=
  Name.isScoped p.typeName simpleName

end Parameter

namespace Method

/-- Same name and parameter types: what makes a method override an inherited one. -/
def sameSignature (m other : Method) : Bool :=
  m.name == other.name
    && m.parameters.map (·.typeName) == other.parameters.map (·.typeName)

/-- Whether some parameter is of a type with that simple name. -/
def takes (m : Method) (simpleName : String) : Bool :=
  m.parameters.any (·.isOfType simpleName)

/-- Every call in the body, in source order. -/
def calls (m : Method) : List Invocation :=
  Statement.callsOfBody m.statements

end Method

namespace TypeDecl

/-- A type that declares nothing yet. -/
def empty (kind : TypeKind) (fullName : String) : TypeDecl :=
  { kind, fullName, baseTypes := [], fields := [], properties := [], methods := [] }

def withBase (t : TypeDecl) (name : String) : TypeDecl :=
  { t with baseTypes := t.baseTypes ++ [name] }

def withField (t : TypeDecl) (field : Member) : TypeDecl :=
  { t with fields := t.fields ++ [field] }

def withProperty (t : TypeDecl) (property : Member) : TypeDecl :=
  { t with properties := t.properties ++ [property] }

def withMethod (t : TypeDecl) (method : Method) : TypeDecl :=
  { t with methods := t.methods ++ [method] }

/-- The last segment of the full name, generic arguments included. -/
def name (t : TypeDecl) : String := Name.simple t.fullName

/-- What stands before the simple name; empty in the global scope. -/
def scope (t : TypeDecl) : String := Name.scope t.fullName

def isClass (t : TypeDecl) : Bool := t.kind == .classType

def isInterface (t : TypeDecl) : Bool := t.kind == .interfaceType

/-- Whether the type is, or derives from, the type of that full name. -/
def implements (t : TypeDecl) (fullName : String) : Bool :=
  t.fullName == fullName || t.baseTypes.contains fullName

/-- Whether the type is, or derives from, a type whose full name begins with `start`: an open
generic type, such as `Aggregate<`, is named this way. -/
def implementsBeginning (t : TypeDecl) (start : String) : Bool :=
  Name.beginsWith t.fullName start || t.baseTypes.any (Name.beginsWith · start)

end TypeDecl

end Ripple
