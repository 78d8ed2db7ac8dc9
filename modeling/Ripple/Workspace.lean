import Ripple.Flow.Commands
import Ripple.Settings.Stored

/-!
# Workspaces

A workspace is declared types together with settings. `Workspace.load` reads both from storage,
the settings first; `Workspace.analyse` makes them ready for use.
-/

namespace Ripple

/-- Declared types and settings. -/
structure Workspace where
  settings : Settings
  declared : List TypeDecl

/-- A codebase and the conventions that it keeps to. -/
structure Analysis where
  codebase : Codebase
  profile : Profile

namespace Workspace

/-- Completes the declared types and reads the patterns among the settings. -/
def analyse (w : Workspace) : Except Failure Analysis :=
  match w.settings.profile with
  | .error text => .error (.pattern text)
  | .ok profile => .ok ⟨.ofDeclared w.declared, profile⟩

/-- The notices that analysing a workspace gives. -/
def notices (w : Workspace) : List Notice := Codebase.declarationNotices w.declared

variable {m : Type → Type} [Monad m] [Storage m]

/-- Reads settings, and declared types under the path `input`. -/
def load (settingsPath : Option String) (input : String) : m (Except Failure Workspace) := do
  match ← Settings.loadOrStandard settingsPath with
  | .error e => return .error e
  | .ok settings =>
    match ← Storage.read input with
    | .error e => return .error (.storage e)
    | .ok text =>
      match TypeDecl.listOfText text with
      | .error e => return .error (.declarations e)
      | .ok declared => return .ok { settings, declared }

end Workspace

end Ripple
