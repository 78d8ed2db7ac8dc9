import Ripple.Codebase.Inheritance

/-!
# Codebases

A codebase is the list of all analysed types, each complete with what it inherits. A name
stands for the first type that bears it; later types of that name keep their place in the
list but are never found by name. A `Ref` points at one type, a `MethodRef` at one method of
one type, so an inherited copy of a method is a method of its own.
-/

namespace Ripple

/-- All types of the analysed code, in the order they were given. -/
structure Codebase where
  types : List TypeDecl

namespace Codebase

/-- Completes every declared type. -/
def ofDeclared (declared : List TypeDecl) : Codebase :=
  ⟨declared.map (TypeDecl.complete declared)⟩

/-- The full name of each declared type that comes after another of the same name. -/
def repeatedNames (declared : List TypeDecl) : List String :=
  go [] declared
where
  /-- Walks the declarations, knowing the names that came before. -/
  go (before : List String) : List TypeDecl → List String
    | [] => []
    | t :: rest =>
      if before.contains t.fullName then t.fullName :: go before rest
      else go (t.fullName :: before) rest

/-- A type of the codebase, by position. -/
abbrev Ref (c : Codebase) := Fin c.types.length

variable (c : Codebase)

/-- The number of types, repeated names included. -/
def size : Nat := c.types.length

/-- Every type, in order. -/
def refs : List c.Ref := List.finRange c.types.length

/-- The type a reference points at. -/
def decl (r : c.Ref) : TypeDecl := c.types[r]

/-- The full name of the type a reference points at. -/
def fullName (r : c.Ref) : String := (c.decl r).fullName

/-- The first type of that full name. -/
def find? (fullName : String) : Option c.Ref :=
  c.refs.find? (fun r => c.fullName r == fullName)

/-- The types other than `fullName` that derive from it, in order. The name itself need not
be that of a type. -/
def implementers (fullName : String) : List c.Ref :=
  c.refs.filter fun r => c.fullName r != fullName && (c.decl r).implements fullName

/-- Every call in the codebase, inherited copies included, in order. -/
def calls : List Invocation :=
  c.types.flatMap fun t => t.methods.flatMap Method.calls

/-- Whether a call constructs a message of that simple name: it is named after the message,
and its containing type ends with that name, so that the copies of a message that several
services keep all count. -/
def constructs (name : String) (call : Invocation) : Bool :=
  call.name == name && Name.endsWith call.containingType name

/-- Adds a type at the end unless one of that full name is already listed. -/
def addDistinct (known : List c.Ref) (r : c.Ref) : List c.Ref :=
  if known.any (fun k => c.fullName k == c.fullName r) then known else known ++ [r]

/-- The types that some body constructs under the simple name of `message`, each once, in the
order in which a construction of each is first met. -/
def origins (message : c.Ref) : List c.Ref :=
  ((c.calls.filter (constructs (c.decl message).name)).filterMap
    (fun call => c.find? call.containingType)).foldl c.addDistinct []

/-- A method of a type of the codebase, by position. -/
structure MethodRef where
  owner : c.Ref
  index : Fin (c.decl owner).methods.length
deriving DecidableEq

variable {c}

/-- The method a reference points at. -/
def MethodRef.method (m : c.MethodRef) : Method :=
  (c.decl m.owner).methods[m.index]

variable (c)

/-- The methods of one type, in order. -/
def methodsOf (r : c.Ref) : List c.MethodRef :=
  (List.finRange (c.decl r).methods.length).map fun i => ⟨r, i⟩

/-- Every method of every type. -/
def methodRefs : List c.MethodRef :=
  c.refs.flatMap c.methodsOf

variable {c}

theorem mem_refs (r : c.Ref) : r ∈ c.refs := List.mem_finRange r

theorem mem_methodsOf (m : c.MethodRef) : m ∈ c.methodsOf m.owner :=
  List.mem_map.2 ⟨m.index, List.mem_finRange _, rfl⟩

theorem mem_methodRefs (m : c.MethodRef) : m ∈ c.methodRefs :=
  List.mem_flatMap.2 ⟨m.owner, mem_refs _, mem_methodsOf m⟩

end Codebase

end Ripple
