import Ripple.Flow.Extraction

/-!
# Command diagrams

One diagram for each simple name of a command. Several services may declare a command of the
same name; the diagram lists them by scope, and shows the flow of the first declaration that
has a command handler.
-/

namespace Ripple

/-- The diagram of the commands of one simple name. -/
structure CommandDiagram where
  name : String
  definedIn : List String
  extraction : Option Extraction
deriving Inhabited

namespace Codebase

variable (c : Codebase) (p : Profile)

/-- Whether a type is a command, and not the base type of commands itself. -/
def isCommand (r : c.Ref) : Bool :=
  c.fullName r != p.commandType && (c.decl r).implements p.commandType

/-- Every command, in order. -/
def commands : List c.Ref := c.refs.filter (c.isCommand p)

/-- Inserts a name into a list in increasing order that holds each name once. -/
def insertName (name : String) : List String → List String
  | [] => [name]
  | first :: rest =>
    if name < first then name :: first :: rest
    else if name == first then first :: rest
    else first :: insertName name rest

/-- The simple names of the commands, each once, in increasing order. -/
def commandNames : List String :=
  (c.commands p).foldl (fun names r => insertName (c.decl r).name names) []

/-- The commands of one simple name, in order. -/
def commandsNamed (name : String) : List c.Ref :=
  (c.commands p).filter fun r => (c.decl r).name == name

/-- The commands grouped by simple name, names in increasing order. -/
def commandGroups : List (String × List c.Ref) :=
  (c.commandNames p).map fun name => (name, c.commandsNamed p name)

/-- Sorts types by scope; types of one scope keep their order. -/
def sortByScope (group : List c.Ref) : List c.Ref :=
  group.mergeSort fun a b => (c.decl a).scope ≤ (c.decl b).scope

/-- The services that declare the commands of a group, by scope. -/
def definedIn (group : List c.Ref) : List String :=
  (c.sortByScope group).filterMap fun r => p.serviceOf (c.decl r)

/-- The first command of a group that has a command handler. -/
def firstHandled (group : List c.Ref) : Option c.Ref :=
  group.find? fun r => (c.commandHandler p (c.decl r)).isSome

/-- The diagram of one group of commands. -/
def commandDiagram (name : String) (group : List c.Ref) : CommandDiagram :=
  { name
    definedIn := c.definedIn p group
    extraction := (c.firstHandled p group).bind fun r => c.extract p (c.fullName r) }

/-- The diagrams of all commands, names in increasing order. -/
def extractCommands : List CommandDiagram :=
  (c.commandGroups p).map fun (name, group) => c.commandDiagram p name group

/-- The notices that drawing one group gives. -/
def commandNotices (name : String) (group : List c.Ref) : List Notice :=
  match c.firstHandled p group with
  | none => [.unhandled name]
  | some r => ((c.find? (c.fullName r)).map (c.extractNotices p)).getD []

/-- The notices that drawing all commands gives. -/
def extractCommandsNotices : List Notice :=
  (c.commandGroups p).flatMap fun (name, group) => c.commandNotices p name group

end Codebase

end Ripple
