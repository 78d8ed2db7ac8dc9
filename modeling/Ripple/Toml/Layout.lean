import Ripple.Toml.Quoted
import Ripple.Toml.Scalar

/-!
# The layout of written documents

A document is written as a list of stanzas, each a header and the entries below it, with a
blank line between stanzas. Only texts, counts and lists of texts are written. A list of two or
more texts gets a line for each. `Stanza.lines` says what a stanza means as lines of a
document.
-/

namespace Ripple.Toml

/-- A value to be written. -/
inductive Plain where
  | text (value : String)
  | count (value : Nat)
  | texts (values : List String)
deriving DecidableEq, Repr

/-- What names a stanza: a table, or a new element of an array of tables. -/
inductive Heading where
  | table (path : Path)
  | element (path : Path)
deriving DecidableEq, Repr

/-- A header and the entries below it. -/
structure Stanza where
  heading : Heading
  entries : List (String × Plain)
deriving DecidableEq, Repr

namespace Plain

/-- The item that a value is read as. -/
def item : Plain → Item
  | text s => .string s
  | count n => .integer n
  | texts ss => .array (ss.map .string)

/-- Whether a value can be written: a count must be an integer in range. -/
def isWritable : Plain → Bool
  | count n => n ≤ integerMax
  | _ => true

/-- The text of a value. -/
def chars : Plain → List Char
  | text s => quote s
  | count n => Nat.toDigits 10 n
  | texts [] => ['[', ']']
  | texts [s] => '[' :: quote s ++ [']']
  | texts ss => '[' :: '\n' :: ss.flatMap line ++ [']']
where
  /-- The line of a text in a list. -/
  line (s : String) : List Char := ' ' :: ' ' :: ' ' :: ' ' :: quote s ++ [',', '\n']

end Plain

namespace Heading

/-- The keys of a path with points between them. -/
def pathChars (path : Path) : List Char := (String.intercalate "." path).toList

/-- The text of a header. -/
def chars : Heading → List Char
  | table path => '[' :: pathChars path ++ [']']
  | element path => '[' :: '[' :: pathChars path ++ [']', ']']

/-- The line that a header is. -/
def line : Heading → Line
  | table path => .header path
  | element path => .element path

end Heading

namespace Stanza

/-- The text of an entry, with its line end. -/
def entryChars (key : String) (value : Plain) : List Char :=
  key.toList ++ ' ' :: '=' :: ' ' :: value.chars ++ ['\n']

/-- The text of a stanza. -/
def chars (s : Stanza) : List Char :=
  s.heading.chars ++ '\n' :: s.entries.flatMap fun (key, value) => entryChars key value

/-- The lines of a stanza. -/
def lines (s : Stanza) : List Line :=
  s.heading.line :: s.entries.map fun (key, value) => .entry [key] value.item

/-- Whether all values of a stanza can be written. -/
def isWritable (s : Stanza) : Bool := s.entries.all (·.2.isWritable)

end Stanza

/-- The text of stanzas. -/
def documentChars : List Stanza → List Char
  | [] => []
  | [s] => s.chars
  | s :: rest => s.chars ++ '\n' :: documentChars rest

/-- The text of a document, unless one of its values cannot be written. -/
def write? (stanzas : List Stanza) : Option String :=
  if stanzas.all (·.isWritable) then some (String.ofList (documentChars stanzas)) else none

end Ripple.Toml
