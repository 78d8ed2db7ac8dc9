import Ripple.CommandLine.Arguments

/-!
# Tasks

What the program can be asked to do. A few switches stand in front of the name of the command,
the others behind it. `Task.ofArguments` reads a whole argument list.
-/

namespace Ripple.CommandLine

/-- What the program is asked to do. -/
inductive Task where
  | init (path : Option String)
  | extract (input message : String) (output : Option String)
  | commands (input : String) (output : Option String)
deriving DecidableEq, Repr

/-- A task, and where the settings for it are. -/
structure Order where
  settings : Option String
  verbose : Bool
  task : Task
deriving DecidableEq, Repr

/-- Why there is nothing to do. Help is asked for on the program or on one of its commands. -/
inductive NoTask where
  | wrong
  | help (command : Option String)
  | version
deriving DecidableEq, Repr

/-- The switch that every command has. -/
def helpSwitch : Switch := ⟨"help", 'h', .help, "Print help", false⟩

/-- The switches in front of the command. -/
def mainSwitches : List Switch :=
  [⟨"config", 'c', .path, "Path to configuration file", false⟩,
    ⟨"verbose", 'v', .flag, "Enable verbose logging", false⟩,
    helpSwitch,
    ⟨"version", 'V', .version, "Print version", false⟩]

/-- A command: its name, what it does, and its switches. -/
structure Command where
  name : String
  about : String
  switches : List Switch
deriving Repr

def inputSwitch : Switch :=
  ⟨"input", 'i', .path, "Analyzed types JSON produced by the front end", true⟩

def outputSwitch : Switch := ⟨"output", 'o', .path, "Output file (defaults to stdout)", false⟩

/-- The commands. -/
def commands : List Command :=
  [⟨"init", "Write a default configuration file",
      [⟨"path", 'p', .path, "Target file (defaults to msgflow.toml)", false⟩, helpSwitch]⟩,
    ⟨"extract", "Extract the flow started by one message",
      [inputSwitch, ⟨"message", 'm', .text, "Full name of the originating message", true⟩,
        outputSwitch, helpSwitch]⟩,
    ⟨"commands", "Extract one flow per command", [inputSwitch, outputSwitch, helpSwitch]⟩]

/-- The command that explains the others. -/
def helpCommand : String := "help"

def commandNames : List String := commands.map (·.name)

/-- The task that a command with given switches is. -/
def Task.ofGiven? (command : String) (given : Given) : Option Task := do
  match command with
  | "init" => return .init (given.value? "path")
  | "extract" =>
    return .extract (← given.value? "input") (← given.value? "message") (given.value? "output")
  | "commands" => return .commands (← given.value? "input") (given.value? "output")
  | _ => none

/-- What the arguments behind the command that explains others ask for. -/
def helpAbout : List String → NoTask
  | [] => .help none
  | [name] =>
    if commandNames.contains name then .help (some name)
    else if name = helpCommand then .help none
    else .wrong
  | _ => .wrong

/-- Why the reading of arguments stops, said of the program or one of its commands. -/
def Halt.noTask (command : Option String) : Halt → NoTask
  | .wrong => .wrong
  | .help => .help command
  | .version => .version

/-- Reads the arguments behind the name of a command. -/
def Command.read (command : Command) (arguments : List String) : Except NoTask Task :=
  match readSwitches command.switches [] none arguments [] with
  | .error halt => .error (halt.noTask (some command.name))
  | .ok (given, _) =>
    match complete command.switches given, Task.ofGiven? command.name given with
    | true, some task => .ok task
    | _, _ => .error .wrong

/-- Reads an argument list. -/
def Order.ofArguments (arguments : List String) : Except NoTask Order := do
  match readSwitches mainSwitches (helpCommand :: commandNames) none arguments [] with
  | .error halt => .error (halt.noTask none)
  | .ok (_, none) => .error .wrong
  | .ok (given, some (name, rest)) =>
    match commands.find? (·.name == name) with
    | none => .error (helpAbout rest)
    | some command =>
      let task ← command.read rest
      return { settings := given.value? "config", verbose := (given.value? "verbose").isSome, task }

end Ripple.CommandLine
