/-!
# Arguments

What an argument list may hold: switches with a long name and a letter, some of which take a
value, and the name of a command, behind which the switches of that command follow.

`Switches.read` reads switches from left to right and stops at the first thing that is wrong or
asks for help or the version. The value of a switch is part of its argument or the whole next
one. No switch is given twice, and a path is not empty.
-/

namespace Ripple.CommandLine

/-- What a switch takes, or asks for. -/
inductive SwitchKind where
  | flag
  | text
  | path
  | help
  | version
deriving DecidableEq, Repr

/-- A switch; one that is `required` must be given. -/
structure Switch where
  name : String
  letter : Char
  kind : SwitchKind
  about : String
  required : Bool := false
deriving Repr

/-- The values that switches were given, under the names of the switches. -/
abbrev Given := List (String × String)

/-- Why the reading of arguments stops early. -/
inductive Halt where
  | wrong
  | help
  | version
deriving DecidableEq, Repr

/-- The value of a switch. -/
def Given.value? (given : Given) (name : String) : Option String :=
  (given.find? (·.1 == name)).map (·.2)

/-- Adds a value. -/
def Given.add (given : Given) (s : Switch) (value : String) : Except Halt Given :=
  if (given.value? s.name).isSome || (s.kind == .path && value.isEmpty) then .error .wrong
  else .ok (given ++ [(s.name, value)])

/-- Acts on a switch that takes no value. -/
def Given.act (given : Given) (s : Switch) : Except Halt Given :=
  match s.kind with
  | .help => .error .help
  | .version => .error .version
  | _ => given.add s ""

/-- Whether a switch takes a value. -/
def Switch.takesValue (s : Switch) : Bool := s.kind == .text || s.kind == .path

/-- Whether an argument is one or more switches, and no value. -/
def isSwitch (argument : String) : Bool :=
  match argument.toList with
  | '-' :: _ :: _ => true
  | _ => false

/-- What letters say: values for switches, and perhaps a switch that takes the next argument. -/
def readLetters (switches : List Switch) :
    List Char → Given → Except Halt (Given × Option Switch)
  | [], given => .ok (given, none)
  | c :: cs, given => do
    match switches.find? (·.letter == c) with
    | none => .error .wrong
    | some s =>
      if s.takesValue then
        match cs with
        | [] => return (given, some s)
        | '=' :: cs => return (← given.add s (String.ofList cs), none)
        | cs => return (← given.add s (String.ofList cs), none)
      else readLetters switches cs (← given.act s)

/-- What a long name says, with a value behind an equals sign or without. -/
def readName (switches : List Switch) (cs : List Char) (given : Given) :
    Except Halt (Given × Option Switch) := do
  let name := String.ofList (cs.takeWhile (· != '='))
  match switches.find? (·.name == name), cs.dropWhile (· != '=') with
  | none, _ => .error .wrong
  | some s, [] => if s.takesValue then return (given, some s) else return (← given.act s, none)
  | some s, _ :: value =>
    if s.takesValue then return (← given.add s (String.ofList value), none) else .error .wrong

/-- Reads arguments up to the name of one of the `commands`, and gives the arguments behind it.
`waiting` is a switch that takes the next argument. -/
def readSwitches (switches : List Switch) (commands : List String) :
    (waiting : Option Switch) → List String → Given →
      Except Halt (Given × Option (String × List String))
  | some _, [], _ => .error .wrong
  | none, [], given => .ok (given, none)
  | some s, argument :: rest, given => do
    if isSwitch argument then .error .wrong
    else readSwitches switches commands none rest (← given.add s argument)
  | none, argument :: rest, given => do
    match argument.toList with
    | ['-', '-'] => if rest.isEmpty then return (given, none) else .error .wrong
    | '-' :: '-' :: cs =>
      let (given, waiting) ← readName switches cs given
      readSwitches switches commands waiting rest given
    | '-' :: c :: cs =>
      let (given, waiting) ← readLetters switches (c :: cs) given
      readSwitches switches commands waiting rest given
    | _ =>
      if commands.contains argument then return (given, some (argument, rest))
      else .error .wrong

/-- Whether every required switch was given. -/
def complete (switches : List Switch) (given : Given) : Bool :=
  switches.all fun s => !s.required || (given.value? s.name).isSome

end Ripple.CommandLine
