import Ripple.CommandLine.Task
import Ripple.Exchange.Diagram
import Ripple.Workspace

/-!
# Running the program

`run` does what an argument list asks for. Results go to a file or to the output of the program;
a task that fails leaves the output empty and says why in its complaint. The exit code is 1 for a
task that fails and 2 for arguments that ask for nothing the program can do.
-/

namespace Ripple.CommandLine

/-- What a run leaves behind, files apart. -/
structure Outcome where
  code : Nat
  output : String := ""
  complaint : String := ""
  notices : List Notice := []

namespace Outcome

/-- The outcome of a task that failed. -/
def failed (reason : String) : Outcome := { code := 1, complaint := "Error: " ++ reason ++ "\n" }

/-- The outcome of a task that failed on a file it should write. -/
def notWritten (path : String) : Outcome := failed ("Failed to write " ++ path)

end Outcome

def programName : String := "msgflow"

def programVersion : String := "0.1.0"

def programAbout : String :=
  "Extracts cross-service message flows as sequence diagram fragments"

/-! ### Help -/

/-- A switch as help shows it: its letter, its name, and the name of its value. -/
def Switch.shown (s : Switch) : String :=
  "-" ++ s.letter.toString ++ ", --" ++ s.name ++
    if s.takesValue then " <" ++ s.name.toUpper ++ ">" else ""

/-- Lines of two columns under a title. -/
def table (title : String) (rows : List (String × String)) : String :=
  let width := (rows.map (·.1.length)).foldl max 0
  title ++ ":\n" ++ String.join (rows.map fun (left, right) =>
    "  " ++ left ++ String.ofList (List.replicate (width - left.length) ' ') ++ "  " ++ right
      ++ "\n")

def switchTable (switches : List Switch) : String :=
  table "Options" (switches.map fun s => (s.shown, s.about))

/-- Help on the program. -/
def programHelp : String :=
  programAbout ++ "\n\nUsage: " ++ programName ++ " [OPTIONS] <COMMAND>\n\n" ++
    table "Commands" (commands.map (fun c => (c.name, c.about)) ++
      [(helpCommand, "Print this message or the help of the given subcommand(s)")]) ++
    "\n" ++ switchTable mainSwitches

/-- Help on a command. -/
def Command.help (c : Command) : String :=
  c.about ++ "\n\nUsage: " ++ programName ++ " " ++ c.name ++ " [OPTIONS]" ++
    String.join ((c.switches.filter (·.required)).map fun s =>
      " --" ++ s.name ++ " <" ++ s.name.toUpper ++ ">") ++
    "\n\n" ++ switchTable c.switches

/-- Help on the program or on one of its commands. -/
def helpOn (command : Option String) : String :=
  match command.bind fun name => commands.find? (·.name == name) with
  | some c => c.help
  | none => programHelp

/-- The outcome of arguments that give no task. -/
def NoTask.outcome : NoTask → Outcome
  | .wrong => { code := 2, complaint := "error: unexpected arguments\n\n" ++ programHelp }
  | .help command => { code := 0, output := helpOn command }
  | .version => { code := 0, output := programName ++ " " ++ programVersion ++ "\n" }

/-! ### Tasks -/

variable {m : Type → Type} [Monad m] [Storage m]

/-- Writes a result to a file or to the output, where a line end follows. -/
def deliver (result : Json) (notices : List Notice) : Option String → m Outcome
  | none => return { code := 0, output := result.pretty ++ "\n", notices }
  | some path => do
    match ← Storage.write path result.pretty with
    | .ok () => return { code := 0, notices }
    | .error _ => return .notWritten path

/-- Loads a workspace and delivers what `work` makes of its analysis. -/
def analyse (settings : Option String) (input : String) (output : Option String)
    (work : Analysis → Except Failure (Json × List Notice)) : m Outcome := do
  match ← Workspace.load settings input with
  | .error e => return .failed e.message
  | .ok w =>
    match w.analyse >>= work with
    | .error e => return .failed e.message
    | .ok (result, notices) => deliver result (w.notices ++ notices) output

/-- The flow of one message. -/
def extractOne (message : String) (a : Analysis) : Except Failure (Json × List Notice) :=
  match a.codebase.find? message with
  | none => .error (.unknownType message)
  | some r =>
    .ok ((a.codebase.extractFrom a.profile r).toJson, a.codebase.extractNotices a.profile r)

/-- The flows of all commands. -/
def extractAll (a : Analysis) : Except Failure (Json × List Notice) :=
  .ok (CommandDiagram.listToJson (a.codebase.extractCommands a.profile),
    a.codebase.extractCommandsNotices a.profile)

/-- Where standard settings are written unless a path is given. -/
def usualTarget : String := "msgflow.toml"

/-- Does a task. -/
def Order.run (order : Order) : m Outcome :=
  match order.task with
  | .init path => do
    let path := path.getD usualTarget
    match ← Settings.standard.save path with
    | .ok () => return { code := 0 }
    | .error _ => return .notWritten path
  | .extract input message output => analyse order.settings input output (extractOne message)
  | .commands input output => analyse order.settings input output extractAll

/-- Does what arguments ask for. -/
def run (arguments : List String) : m Outcome :=
  match Order.ofArguments arguments with
  | .error reason => return reason.outcome
  | .ok order => order.run

end Ripple.CommandLine
