/-!
# Documents of tables and entries

A document is a list of lines. A header says into which table the entries below it go, or adds
an element to an array of tables; an entry has a key, which may be dotted, and an item.
`assemble` puts the lines together into the entries of one table, or refuses them.

No key is given twice, and no table is written in two places. A table comes about through its
own header, through the header of a table inside it, or through dotted keys. A table of the
second kind may still get its own header; one of the third kind may only get more dotted keys.
-/

namespace Ripple.Toml

/-- How a table came about: between braces, through its own header, through the header of a
table inside it, or through a dotted key. -/
inductive Form where
  | closed
  | header
  | implied
  | dotted
deriving DecidableEq, Repr

/-- What stands under a key. A float, a truth value or a date is `other`: its form is checked
and its value forgotten. An array of tables holds its last element, the one that grows, apart
from the earlier ones, latest first. -/
inductive Item where
  | string (value : String)
  | integer (value : Int)
  | other
  | array (items : List Item)
  | table (form : Form) (entries : List (String × Item))
  | tables (last : List (String × Item)) (earlier : List (List (String × Item)))

/-- The entries of a table, in order. -/
abbrev Entries := List (String × Item)

/-- The keys from the outermost table to one inside it. -/
abbrev Path := List String

/-- A line that says something. -/
inductive Line where
  | header (path : Path)
  | element (path : Path)
  | entry (key : Path) (item : Item)

namespace Entries

/-- Changes what stands under a key, which may be nothing; `change` may refuse. -/
def alter (key : String) (change : Option Item → Option Item) : Entries → Option Entries
  | [] => (change none).map fun item => [(key, item)]
  | (k, item) :: rest =>
    if k = key then (change (some item)).map fun item => (k, item) :: rest
    else (alter key change rest).map ((k, item) :: ·)

/-- Changes the entries of the table that headers lead to. Tables that are missing on the way
are implied; the way through an array of tables goes through its last element. -/
def within (change : Entries → Option Entries) : Path → Entries → Option Entries
  | [] => change
  | key :: path => alter key fun
    | none => (within change path []).map (.table .implied)
    | some (.table .closed _) => none
    | some (.table form entries) => (within change path entries).map (.table form)
    | some (.tables last earlier) => (within change path last).map (.tables · earlier)
    | some _ => none

/-- Adds an item under a dotted key. The table that it goes to must have come about through
dotted keys itself, unless the key has one part only. -/
def put (item : Item) : Path → Entries → Option Entries
  | [] => fun _ => none
  | [key] => alter key fun
    | none => some item
    | some _ => none
  | key :: next :: path => alter key fun
    | none => (put item (next :: path) []).map (.table .dotted)
    | some (.table .dotted entries) => (put item (next :: path) entries).map (.table .dotted)
    | some (.table .implied entries) =>
      if path.isEmpty then none else (put item (next :: path) entries).map (.table .implied)
    | some (.tables last earlier) =>
      if path.isEmpty then none else (put item (next :: path) last).map (.tables · earlier)
    | some _ => none

/-- Gives a table its own header. -/
def openTable : Option Item → Option Item
  | none => some (.table .header [])
  | some (.table .implied entries) => some (.table .header entries)
  | some _ => none

/-- Adds an element to an array of tables. -/
def openElement : Option Item → Option Item
  | none => some (.tables [] [])
  | some (.tables last earlier) => some (.tables [] (last :: earlier))
  | some _ => none

/-- Changes what a header names. -/
def enter (change : Option Item → Option Item) (path : Path) : Entries → Option Entries :=
  match path.getLast? with
  | none => fun _ => none
  | some key => within (alter key change) path.dropLast

/-- Adds entries with dotted keys one after the other. -/
def putAll : List (Path × Item) → Entries → Option Entries
  | [], entries => some entries
  | (key, item) :: rest, entries => (put item key entries).bind (putAll rest)

/-- Adds the lines of a document below the header with the given path. -/
def addLines : Path → List Line → Entries → Option Entries
  | _, [], entries => some entries
  | _, .header path :: rest, entries => (enter openTable path entries).bind (addLines path rest)
  | _, .element path :: rest, entries =>
    (enter openElement path entries).bind (addLines path rest)
  | path, .entry key item :: rest, entries =>
    (within (put item key) path entries).bind (addLines path rest)

/-- What stands under a key. -/
def get? (key : String) (entries : Entries) : Option Item :=
  (entries.find? (·.1 == key)).map (·.2)

end Entries

/-- Puts the lines of a document together. -/
def assemble (lines : List Line) : Option Entries := Entries.addLines [] lines []

end Ripple.Toml
