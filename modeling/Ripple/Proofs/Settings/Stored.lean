import Ripple.Settings.Stored
import Ripple.Proofs.Folder.Writing
import Ripple.Proofs.Settings.Document

/-!
# Settings read back from storage

Settings that are saved are loaded as they were, if their counts are integers in range. Otherwise
saving fails before anything is written.
-/

namespace Ripple

variable {s : Settings} {path text : String} {f : Folder}

namespace Settings

section Storage

variable {m : Type → Type} [Monad m] [Storage m]

/-- Settings that cannot be written are not saved, and the storage is not asked for anything. -/
theorem save_of_not_isWritable (h : ¬s.IsWritable) (path : String) :
    (s.save path : m (Except Failure Unit)) = pure (.error .settings) := by
  rw [save, write?_eq_none_iff.2 h]

end Storage

theorem save_of_write {f' : Folder} (hwrite : s.write? = some text)
    (h : f.write path text = .ok f') : (s.save path : StateM Folder _) f = (.ok (), f') := by
  have hstorage : (Storage.write path text : StateM Folder _) f = (.ok (), f') := by
    simp [Storage.write, h]
  rw [save, hwrite]
  simp only [bind, StateT.bind, hstorage]
  rfl

theorem load_of_read (hread : f.read path = .ok text) (h : read? text = some s) :
    (load path : StateM Folder _) f = (.ok s, f) := by
  have hstorage : (Storage.read path : StateM Folder _) f = (.ok text, f) := by
    simp [Storage.read, hread]
  rw [load]
  simp only [bind, StateT.bind, hstorage, h]
  rfl

end Settings

/-- Settings whose counts are integers of 64 bits with a sign are loaded as they were saved,
wherever a file can be written, whatever their strings and lists hold. The saving of any other
settings fails and leaves the folder as it was. -/
theorem saved_settings_load_back (s : Settings) (path : String) (f : Folder) :
    (s.IsWritable → f.CanWrite path → ∃ f',
      (s.save path : StateM Folder _) f = (.ok (), f') ∧
      (Settings.load path : StateM Folder _) f' = (.ok s, f')) ∧
    (¬s.IsWritable → (s.save path : StateM Folder _) f = (.error .settings, f)) := by
  refine ⟨fun hs hpath => ?_, fun hs => ?_⟩
  · obtain ⟨text, hwrite⟩ :=
      Option.ne_none_iff_exists'.1 fun hnone => Settings.write?_eq_none_iff.1 hnone hs
    obtain ⟨f', hf'⟩ := Folder.canWrite_iff.1 hpath
    exact ⟨f', Settings.save_of_write hwrite hf',
      Settings.load_of_read (Folder.read_of_write hf') (Settings.read?_write? hwrite)⟩
  · rw [Settings.save_of_not_isWritable hs]
    rfl

namespace Relay

/-- Settings with strings that are hard to write. -/
def oddSettings : Settings :=
  { messaging :=
      { commandType := ""
        eventType := "it's \"quoted\""
        handlerCallbackType := "\\ back\\slash \\"
        bodyMarker := "\n'''\n\"\"\"\"\t\r\n"
        eventHandlerMethod := "\x00\x07\x7f"
        commandHandlerMethod := "γειά 🚀 # = [x]"
        publishOperations := [⟨"\"\"", Nat.pow 2 63 - 1⟩, ⟨"''", 0⟩, ⟨"''", 0⟩] }
    services := { skipSegments := ["", "\n", ""] }
    diagram := Settings.standard.diagram
    traversal := { maxDepth := Nat.pow 2 63 - 1 } }

/-- A folder with settings in it. -/
def cabinet : Folder := Folder.ofList [("desk/msgflow.toml", .file (.text "old"))]

/-- The odd settings are kept, also along a roundabout way. With a depth that is one too large, they
are not. -/
theorem odd_settings_load_back :
    (oddSettings.IsWritable ∧ cabinet.CanWrite "desk/.//../desk/msgflow.toml" ∧ ∃ f',
      (oddSettings.save "desk/.//../desk/msgflow.toml" : StateM Folder _) cabinet = (.ok (), f') ∧
      (Settings.load "desk/.//../desk/msgflow.toml" : StateM Folder _) f' =
        (.ok oddSettings, f')) ∧
    ¬{ oddSettings with traversal := ⟨Nat.pow 2 63⟩ }.IsWritable ∧
    (Settings.save { oddSettings with traversal := ⟨Nat.pow 2 63⟩ } "desk/msgflow.toml" :
      StateM Folder _) cabinet = (.error .settings, cabinet) := by
  have hs : oddSettings.IsWritable := by decide
  have hpath : cabinet.CanWrite "desk/.//../desk/msgflow.toml" :=
    ⟨["desk", "msgflow.toml"], rfl, nofun⟩
  have hlarge : ¬{ oddSettings with traversal := ⟨Nat.pow 2 63⟩ }.IsWritable := by decide
  exact ⟨⟨hs, hpath, (saved_settings_load_back oddSettings _ cabinet).1 hs hpath⟩, hlarge,
    (saved_settings_load_back _ _ cabinet).2 hlarge⟩

end Relay

end Ripple
