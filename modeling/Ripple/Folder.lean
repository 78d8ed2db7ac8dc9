import Ripple.Storage

/-!
# Folders

A folder with the files in it, as a value. `Folder.read`, `Folder.write` and `Folder.holds` find
their way along a path as a file system does: every step must start at a directory, an empty
step or a single point stays where it is, and two points lead one level up. Of what surrounds the
folder nothing is known, except that the levels above it and the root are directories.

A `Folder` serves as the storage of computations that carry it as their state.
-/

namespace Ripple

/-- What a file holds. Bytes may be no text. -/
inductive FileContent where
  | text (value : String)
  | bytes (value : ByteArray)

/-- The text of a file. -/
def FileContent.text? : FileContent → Option String
  | text s => some s
  | bytes b => String.fromUTF8? b

/-- What stands in a folder. -/
inductive FolderItem where
  | file (content : FileContent)
  | directory

/-- The steps from a folder to what stands in it. A place above the folder has only double
points as its steps, and one in the root a slash in front. -/
abbrev Place := List String

/-- What stands in a folder, at every level. -/
structure Folder where
  items : List (Place × FolderItem)

namespace Folder

/-! ### Places -/

/-- Whether a place is a directory that is not in the folder: itself, one above it, or the
root. -/
def isAround (place : Place) : Bool := place.all (· == "..") || place == ["/"]

/-- What stands at a place. -/
def item? (f : Folder) (place : Place) : Option FolderItem :=
  if isAround place then some .directory else (f.items.find? (·.1 == place)).map (·.2)

/-- One level up. -/
def above (place : Place) : Place :=
  if place == ["/"] then place
  else if place.all (· == "..") then place ++ [".."]
  else place.dropLast

/-- How many bytes the name of a file may have. -/
def nameLimit : Nat := 255

/-- How many bytes a path must stay below. -/
def pathLimit : Nat := 4096

/-- One step from a place that must be a directory. -/
def step (f : Folder) (place : Place) (name : String) : Except StorageError Place :=
  match f.item? place with
  | none => .error .notFound
  | some (.file _) => .error .notADirectory
  | some .directory =>
    if name.isEmpty || name == "." then .ok place
    else if name == ".." then .ok (above place)
    else if nameLimit < name.utf8ByteSize then .error .nameTooLong
    else .ok (place ++ [name])

/-- Takes steps one after the other. -/
def follow (f : Folder) : Place → List String → Except StorageError Place
  | place, [] => .ok place
  | place, name :: rest => do follow f (← f.step place name) rest

/-- The steps of a path. -/
def steps (path : List Char) : List String := (path.splitOn '/').map String.ofList

/-- The place that a path leads to, which need not hold anything. -/
def resolve (f : Folder) (path : String) : Except StorageError Place :=
  if path.toList.contains '\x00' then .error .badPath
  else if pathLimit ≤ path.utf8ByteSize then .error .nameTooLong
  else
    match path.toList with
    | [] => .error .notFound
    | '/' :: rest => f.follow ["/"] (steps rest)
    | cs => f.follow [] (steps cs)

/-! ### Operations -/

/-- Puts an item at a place, instead of what stands there. -/
def put (f : Folder) (place : Place) (item : FolderItem) : Folder :=
  if f.items.any (·.1 == place) then
    ⟨f.items.map fun entry => if entry.1 == place then (place, item) else entry⟩
  else ⟨f.items ++ [(place, item)]⟩

/-- The text of the file at the end of a path. -/
def read (f : Folder) (path : String) : Except StorageError String := do
  match f.item? (← f.resolve path) with
  | none => .error .notFound
  | some .directory => .error .isADirectory
  | some (.file content) =>
    match content.text? with
    | some text => return text
    | none => .error .notText

/-- Writes the file at the end of a path. A file that stands there is replaced. -/
def write (f : Folder) (path text : String) : Except StorageError Folder := do
  let place ← f.resolve path
  match f.item? place with
  | some .directory => .error .isADirectory
  | _ => return f.put place (.file (.text text))

/-- Whether there is anything at the end of a path. -/
def holds (f : Folder) (path : String) : Bool :=
  match f.resolve path with
  | .ok place => (f.item? place).isSome
  | .error _ => false

instance : Storage (StateM Folder) where
  read path := fun f => (f.read path, f)
  write path text := fun f =>
    match f.write path text with
    | .ok f' => (.ok (), f')
    | .error e => (.error e, f)
  holds path := fun f => (f.holds path, f)

/-! ### Making and comparing folders -/

/-- The places on the way to a place, nearest to the folder first. -/
def onTheWay (place : Place) : List Place := (List.range place.length).map place.take

/-- Adds an item and the directories on the way to it. -/
def add (f : Folder) (place : Place) (item : FolderItem) : Folder :=
  ((onTheWay place).foldl (fun f p => if (f.item? p).isSome then f else f.put p .directory) f).put
    place item

/-- The folder that holds items at the ends of relative paths. -/
def ofList (items : List (String × FolderItem)) : Folder :=
  items.foldl (fun f (path, item) => f.add (steps path.toList) item) ⟨[]⟩

/-- The text files in a folder that are new, or not as they were `before`. -/
def changes (before after : Folder) : List (String × String) :=
  after.items.filterMap fun (place, item) =>
    match item, before.item? place with
    | .file content, some (.file old) =>
      if content.text? == old.text? then none else named place content
    | .file content, _ => named place content
    | .directory, _ => none
where
  /-- A file under its path, if it is in the folder. -/
  named (place : Place) (content : FileContent) : Option (String × String) :=
    match place with
    | "/" :: _ | ".." :: _ => none
    | place => content.text?.map fun text => (String.intercalate "/" place, text)

end Folder

end Ripple
