/-!
# Method bodies

A body is a list of statements. Only what decides which messages a method sends is
kept: calls, the branches and loops around them, and blocks of any other kind.

The type is generic in what a call carries, so the same tree serves for bodies as they
are read (`Statement Invocation`) and for bodies whose calls know where they stand.
-/

namespace Ripple

/-- An argument of a call: the full name of its type, and its source text. -/
structure Argument where
  typeName : String
  text : String
deriving DecidableEq, Repr, Inhabited

/-- A call to a method or constructor; a constructor goes by the simple name of its type. -/
structure Invocation where
  containingType : String
  name : String
  arguments : List Argument
deriving DecidableEq, Repr, Inhabited

/-- The same call on another declaring type. -/
def Invocation.retarget (call : Invocation) (containingType : String) : Invocation :=
  { call with containingType }

/-- One way through a branching statement: what selects it and what it runs. -/
structure Arm (γ σ : Type) where
  guard : γ
  body : List σ

/-- A statement of a method body. The arms of a conditional are guarded by a condition,
empty in a final `else`; those of a switch by a list of labels. -/
inductive Statement (α : Type) where
  | call (target : α)
  | conditional (arms : List (Arm String (Statement α)))
  | switch (subject : String) (arms : List (Arm (List String) (Statement α)))
  | forEach (items : String) (body : List (Statement α))
  | block (body : List (Statement α))

/-- The statements of a method as they are read. -/
abbrev Body := List (Statement Invocation)

namespace Statement

variable {α β : Type}

instance : Inhabited (Statement α) := ⟨.block []⟩

/-- Branches and loops, whose shape a diagram shows. A block is not one of them. -/
def isComposite : Statement α → Bool
  | .conditional _ | .switch _ _ | .forEach _ _ => true
  | .call _ | .block _ => false

mutual

/-- Every call in a statement and below it, in source order. -/
def calls : Statement α → List α
  | .call target => [target]
  | .conditional arms => callsOfArms arms
  | .switch _ arms => callsOfCases arms
  | .forEach _ body => callsOfBody body
  | .block body => callsOfBody body

/-- Every call in a body, in source order. -/
def callsOfBody : List (Statement α) → List α
  | [] => []
  | statement :: rest => statement.calls ++ callsOfBody rest

/-- Every call in the arms of a conditional. -/
def callsOfArms : List (Arm String (Statement α)) → List α
  | [] => []
  | ⟨_, body⟩ :: rest => callsOfBody body ++ callsOfArms rest

/-- Every call in the arms of a switch. -/
def callsOfCases : List (Arm (List String) (Statement α)) → List α
  | [] => []
  | ⟨_, body⟩ :: rest => callsOfBody body ++ callsOfCases rest

end

mutual

/-- The calls of a statement that stand outside blocks, in source order. -/
def exposed : Statement α → List α
  | .call target => [target]
  | .conditional arms => exposedOfArms arms
  | .switch _ arms => exposedOfCases arms
  | .forEach _ body => exposedOfBody body
  | .block _ => []

/-- The calls of a body that stand outside blocks. -/
def exposedOfBody : List (Statement α) → List α
  | [] => []
  | statement :: rest => statement.exposed ++ exposedOfBody rest

/-- The calls in the arms of a conditional that stand outside blocks. -/
def exposedOfArms : List (Arm String (Statement α)) → List α
  | [] => []
  | ⟨_, body⟩ :: rest => exposedOfBody body ++ exposedOfArms rest

/-- The calls in the arms of a switch that stand outside blocks. -/
def exposedOfCases : List (Arm (List String) (Statement α)) → List α
  | [] => []
  | ⟨_, body⟩ :: rest => exposedOfBody body ++ exposedOfCases rest

end

mutual

/-- Changes every call, told where it stands below `path`: the index of a statement in its
body, then for an arm its index and the index in its body, for a loop or block the index in
its body, and so on down. -/
def mapAt (f : List Nat → α → β) (path : List Nat) : Statement α → Statement β
  | .call target => .call (f path target)
  | .conditional arms => .conditional (mapArmsAt f path 0 arms)
  | .switch subject arms => .switch subject (mapCasesAt f path 0 arms)
  | .forEach items body => .forEach items (mapBodyAt f path 0 body)
  | .block body => .block (mapBodyAt f path 0 body)

/-- Changes every call of a body whose first statement has index `i` below `path`. -/
def mapBodyAt (f : List Nat → α → β) (path : List Nat) (i : Nat) :
    List (Statement α) → List (Statement β)
  | [] => []
  | statement :: rest => statement.mapAt f (path ++ [i]) :: mapBodyAt f path (i + 1) rest

/-- Changes every call in the arms of a conditional, the first of which has index `i`. -/
def mapArmsAt (f : List Nat → α → β) (path : List Nat) (i : Nat) :
    List (Arm String (Statement α)) → List (Arm String (Statement β))
  | [] => []
  | ⟨guard, body⟩ :: rest =>
    ⟨guard, mapBodyAt f (path ++ [i]) 0 body⟩ :: mapArmsAt f path (i + 1) rest

/-- Changes every call in the arms of a switch, the first of which has index `i`. -/
def mapCasesAt (f : List Nat → α → β) (path : List Nat) (i : Nat) :
    List (Arm (List String) (Statement α)) → List (Arm (List String) (Statement β))
  | [] => []
  | ⟨guard, body⟩ :: rest =>
    ⟨guard, mapBodyAt f (path ++ [i]) 0 body⟩ :: mapCasesAt f path (i + 1) rest

end

/-- Changes every call of a statement. -/
def map (f : α → β) (statement : Statement α) : Statement β :=
  statement.mapAt (fun _ => f) []

mutual

/-- What stands in place of a statement when `f` says what stands in place of each call.
Branches and loops keep their shape, and blocks are left alone. -/
def replace (f : α → List (Statement α)) : Statement α → List (Statement α)
  | .call target => f target
  | .conditional arms => [.conditional (replaceArms f arms)]
  | .switch subject arms => [.switch subject (replaceCases f arms)]
  | .forEach items body => [.forEach items (replaceBody f body)]
  | .block body => [.block body]

/-- Replaces the calls of a body. -/
def replaceBody (f : α → List (Statement α)) : List (Statement α) → List (Statement α)
  | [] => []
  | statement :: rest => statement.replace f ++ replaceBody f rest

/-- Replaces the calls in the arms of a conditional. -/
def replaceArms (f : α → List (Statement α)) :
    List (Arm String (Statement α)) → List (Arm String (Statement α))
  | [] => []
  | ⟨guard, body⟩ :: rest => ⟨guard, replaceBody f body⟩ :: replaceArms f rest

/-- Replaces the calls in the arms of a switch. -/
def replaceCases (f : α → List (Statement α)) :
    List (Arm (List String) (Statement α)) → List (Arm (List String) (Statement α))
  | [] => []
  | ⟨guard, body⟩ :: rest => ⟨guard, replaceBody f body⟩ :: replaceCases f rest

end

mutual

/-- A measure of a statement that exceeds that of every part of it. -/
def size : Statement α → Nat
  | .call _ => 1
  | .conditional arms => sizeOfArms arms + 1
  | .switch _ arms => sizeOfCases arms + 1
  | .forEach _ body => sizeOfBody body + 2
  | .block body => sizeOfBody body + 2

/-- The measure of a body. -/
def sizeOfBody : List (Statement α) → Nat
  | [] => 0
  | statement :: rest => statement.size + sizeOfBody rest + 1

/-- The measure of the arms of a conditional. -/
def sizeOfArms : List (Arm String (Statement α)) → Nat
  | [] => 0
  | ⟨_, body⟩ :: rest => sizeOfBody body + sizeOfArms rest + 1

/-- The measure of the arms of a switch. -/
def sizeOfCases : List (Arm (List String) (Statement α)) → Nat
  | [] => 0
  | ⟨_, body⟩ :: rest => sizeOfBody body + sizeOfCases rest + 1

end

/-- Each arm of a conditional under its condition. -/
def labelArms : List (Arm String (Statement α)) → List (String × List (Statement α)) :=
  List.map fun arm => (arm.guard, arm.body)

/-- Each arm of a switch under its labels, written together. -/
def labelCases : List (Arm (List String) (Statement α)) → List (String × List (Statement α)) :=
  List.map fun arm => (String.join arm.guard, arm.body)

/-- The measure of labelled bodies. -/
def sizeOfLabelled : List (String × List (Statement α)) → Nat
  | [] => 0
  | (_, body) :: rest => sizeOfBody body + sizeOfLabelled rest + 1

theorem sizeOfLabelled_labelArms (arms : List (Arm String (Statement α))) :
    sizeOfLabelled (labelArms arms) = sizeOfArms arms := by
  induction arms with
  | nil => rfl
  | cons arm rest ih => simpa [labelArms, sizeOfLabelled, sizeOfArms] using ih

theorem sizeOfLabelled_labelCases (arms : List (Arm (List String) (Statement α))) :
    sizeOfLabelled (labelCases arms) = sizeOfCases arms := by
  induction arms with
  | nil => rfl
  | cons arm rest ih => simpa [labelCases, sizeOfLabelled, sizeOfCases] using ih

end Statement

end Ripple
