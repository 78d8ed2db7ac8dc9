import Ripple.CommandLine.Run

/-!
# The program

Runs the command line on the files of the machine.
-/

namespace Ripple

/-- How the machine's errors appear as errors of storage. -/
def storageError : IO.Error → StorageError
  | .noFileOrDirectory .. => .notFound
  | .inappropriateType _ code _ => if code = 21 then .isADirectory else .notADirectory
  | .permissionDenied .. => .denied
  | .invalidArgument .. => .badPath
  | _ => .notFound

/-- The files of the machine. -/
instance : Storage IO where
  read path := do
    match ← (IO.FS.readBinFile path).toBaseIO with
    | .error e => return .error (storageError e)
    | .ok bytes =>
      match String.fromUTF8? bytes with
      | some text => return .ok text
      | none => return .error .notText
  write path text := do
    match ← (IO.FS.writeFile path text).toBaseIO with
    | .error e => return .error (storageError e)
    | .ok () => return .ok ()
  holds path := do
    match ← (IO.FS.readBinFile path).toBaseIO with
    | .error e => return storageError e == .isADirectory || storageError e == .denied
    | .ok _ => return true

end Ripple

open Ripple in
/-- Runs the program and leaves with its exit code. -/
def main (arguments : List String) : IO UInt32 := do
  let outcome ← (CommandLine.run arguments : IO CommandLine.Outcome)
  for notice in outcome.notices do
    IO.eprintln ("Warning: " ++ notice.text)
  IO.print outcome.output
  IO.eprint outcome.complaint
  return outcome.code.toUInt32
