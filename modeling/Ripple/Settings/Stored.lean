import Ripple.Failure
import Ripple.Settings.Document

/-!
# Stored settings

Settings are kept in a text under a path. Where no path is given a few are tried, and where
there is nothing the standard settings hold. Settings that cannot be written leave what is stored
as it was.
-/

namespace Ripple.Settings

variable {m : Type → Type} [Monad m] [Storage m]

/-- Reads the settings under a path. -/
def load (path : String) : m (Except Failure Settings) := do
  match ← Storage.read path with
  | .error e => return .error (.storage e)
  | .ok text =>
    match read? text with
    | none => return .error .settings
    | some s => return .ok s

/-- Writes settings under a path. -/
def save (s : Settings) (path : String) : m (Except Failure Unit) := do
  match s.write? with
  | none => return .error .settings
  | some text =>
    match ← Storage.write path text with
    | .error e => return .error (.storage e)
    | .ok () => return .ok ()

/-- Where settings are looked for, in order. -/
def usualPaths : List String := ["msgflow.toml", "Msgflow.toml", ".msgflow.toml"]

/-- Reads the settings under the first of several paths that there is anything under; where
there is none, the standard settings hold. -/
def loadFirst : List String → m (Except Failure Settings)
  | [] => return .ok standard
  | path :: rest => do
    if ← Storage.holds path then load path else loadFirst rest

/-- Reads the settings under a given path, or else under a usual one. -/
def loadOrStandard (path : Option String) : m (Except Failure Settings) :=
  loadFirst (match path with
    | some path => [path]
    | none => usualPaths)

end Ripple.Settings
