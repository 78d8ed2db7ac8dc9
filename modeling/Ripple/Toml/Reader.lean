import Ripple.Toml.Quoted
import Ripple.Toml.Scalar

/-!
# Reading documents

`readLines` reads the lines of a document, `read` puts them together. A reader takes what it
reads from the front of a text and gives the rest; it refuses a text that does not begin as it
should. A line ends with a line feed, in front of which there may be a carriage return.

Arrays may run over several lines and have comments in them; tables between braces stay on one
line. Arrays and tables nest less than `nestingLimit` deep, and a key has fewer parts than that.
-/

namespace Ripple.Toml

/-- What nesting must stay below. -/
def nestingLimit : Nat := 80

/-! ### Blanks, comments and line ends -/

def dropBlanks (cs : List Char) : List Char := cs.dropWhile isBlank

/-- Drops a comment up to the end of its line, as far as its characters may stand there. -/
def dropComment : List Char → List Char
  | '#' :: cs => cs.dropWhile isPlain
  | cs => cs

/-- Takes the end of a line, which may be the end of the text, with blanks and a comment in
front of it. -/
def endLine (cs : List Char) : Option (List Char) :=
  match dropComment (dropBlanks cs) with
  | [] => some []
  | '\n' :: rest => some rest
  | '\r' :: '\n' :: rest => some rest
  | _ => none

/-- Drops blanks, comments and line ends inside an array. -/
def dropGap (inComment : Bool) : List Char → List Char
  | [] => []
  | '\r' :: '\n' :: cs => dropGap false cs
  | c :: cs =>
    if c = '\n' then dropGap false cs
    else if inComment then if isPlain c then dropGap true cs else c :: cs
    else if c = '#' then dropGap true cs
    else if isBlank c then dropGap false cs
    else c :: cs

/-- Takes a character. -/
def expect (c : Char) : List Char → Option (List Char)
  | [] => none
  | d :: cs => if d = c then some cs else none

/-! ### Keys -/

/-- Whether a character may be part of a key without quotes. -/
def isBare (c : Char) : Bool := c.isAlphanum || c = '_' || c = '-'

/-- Reads one part of a key. -/
def readPart : List Char → Option (String × List Char)
  | '"' :: cs => asString (readBasic .plain cs)
  | '\'' :: cs => asString (readLiteral cs)
  | cs =>
    match cs.takeWhile isBare with
    | [] => none
    | part => some (String.ofList part, cs.dropWhile isBare)

/-- Reads a key of at most `n` parts, with points between them and blanks around each. -/
def readParts : Nat → List Char → Option (Path × List Char)
  | 0, _ => none
  | n + 1, cs => do
    let (part, rest) ← readPart (dropBlanks cs)
    match dropBlanks rest with
    | '.' :: rest =>
      let (parts, rest) ← readParts n rest
      return (part :: parts, rest)
    | rest => return ([part], rest)

/-- Reads a key. -/
def readKey (cs : List Char) : Option (Path × List Char) := readParts (nestingLimit - 1) cs

/-! ### Items -/

/-- Reads a number, truth value or date. The time of day may follow a date behind a blank. -/
def readWord (cs : List Char) : Option (Item × List Char) := do
  let word := cs.takeWhile isWordChar
  let rest := cs.dropWhile isWordChar
  let item ← Item.ofWord? word
  match rest with
  | ' ' :: more =>
    if isDate word && isClock (more.takeWhile isWordChar) then
      return (item, more.dropWhile isWordChar)
    else return (item, rest)
  | rest => return (item, rest)

/-- Reads the items of an array up to the bracket that closes it, at most `n` of them. -/
def readItems (readItem : List Char → Option (Item × List Char)) :
    Nat → List Char → Option (List Item × List Char)
  | 0, _ => none
  | n + 1, cs => do
    match dropGap false cs with
    | ']' :: rest => return ([], rest)
    | cs =>
      let (item, rest) ← readItem cs
      match dropGap false rest with
      | ',' :: rest =>
        let (items, rest) ← readItems readItem n rest
        return (item :: items, rest)
      | rest => return ([item], ← expect ']' rest)

/-- Reads a key, the sign behind it, and an item. -/
def readEntry (readItem : List Char → Option (Item × List Char)) (cs : List Char) :
    Option ((Path × Item) × List Char) := do
  let (key, rest) ← readKey cs
  let rest ← expect '=' rest
  let (item, rest) ← readItem (dropBlanks rest)
  return ((key, item), rest)

/-- Reads the entries of a table up to the brace that closes it, at most `n` of them and at
least one. -/
def readEntries (readItem : List Char → Option (Item × List Char)) :
    Nat → List Char → Option (List (Path × Item) × List Char)
  | 0, _ => none
  | n + 1, cs => do
    let (entry, rest) ← readEntry readItem cs
    match dropBlanks rest with
    | ',' :: rest =>
      let (entries, rest) ← readEntries readItem n rest
      return (entry :: entries, rest)
    | rest => return ([entry], ← expect '\x7d' rest)

/-- Reads an item, in which arrays and tables nest at most `room` deep. -/
def readItem (room : Nat) (cs : List Char) : Option (Item × List Char) :=
  match room, cs with
  | room + 1, '[' :: rest => do
    let (items, rest) ← readItems (readItem room) (rest.length + 1) rest
    return (.array items, rest)
  | room + 1, '\x7b' :: rest =>
    match dropBlanks rest with
    | '\x7d' :: rest => some (.table .closed [], rest)
    | rest => do
      let (entries, rest) ← readEntries (readItem room) (rest.length + 1) rest
      return (.table .closed (← Entries.putAll entries []), rest)
  | _, cs =>
    match cs.head? with
    | some '"' | some '\'' => (readString cs).map fun (text, rest) => (.string text, rest)
    | _ => readWord cs

/-! ### Lines -/

/-- Reads a line that says something, with its end. -/
def readLine : List Char → Option (Line × List Char)
  | '[' :: '[' :: cs => do
    let (path, rest) ← readKey cs
    let rest ← endLine (← expect ']' (← expect ']' rest))
    return (.element path, rest)
  | '[' :: cs => do
    let (path, rest) ← readKey cs
    let rest ← endLine (← expect ']' rest)
    return (.header path, rest)
  | cs => do
    let ((key, item), rest) ← readEntry (readItem (nestingLimit - 1)) cs
    return (.entry key item, ← endLine rest)

/-- Reads at most `n` lines up to the end of the text. Lines that are blank or hold a comment
only say nothing. -/
def readLinesUpTo : Nat → List Char → Option (List Line)
  | 0, _ => none
  | n + 1, cs =>
    match endLine cs with
    | some [] => some []
    | some rest => readLinesUpTo n rest
    | none => do
      let (line, rest) ← readLine (dropBlanks cs)
      match rest with
      | [] => return [line]
      | rest => return line :: (← readLinesUpTo n rest)

/-- Reads the lines of a document, in front of which there may be a byte order mark. -/
def readLines (cs : List Char) : Option (List Line) :=
  let cs := match cs with
    | '\ufeff' :: cs => cs
    | cs => cs
  readLinesUpTo (cs.length + 1) cs

/-- The entries of a document. -/
def read (text : String) : Option Entries := (readLines text.toList).bind assemble

end Ripple.Toml
