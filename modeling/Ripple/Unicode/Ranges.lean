/-!
# Ranges of code points

The tables of this folder list sets of characters as closed ranges of code points. They are
kept as rows of text: hexadecimal numbers, a range as two of them with a hyphen between, set
apart by blanks.
-/

namespace Ripple.Unicode

/-- A set of characters, as closed ranges of code points. -/
abbrev Ranges := List (Nat × Nat)

/-- The value of one hexadecimal digit in lower case. -/
def hexDigit (c : Char) : Nat :=
  if c.isDigit then c.toNat - '0'.toNat else c.toNat - 'a'.toNat + 10

/-- The value of a hexadecimal number in lower case. -/
def hexNumber (text : String) : Nat :=
  text.toList.foldl (fun n c => 16 * n + hexDigit c) 0

namespace Ranges

/-- Reads one entry of a table. -/
def entry (text : String) : Nat × Nat :=
  match text.splitOn "-" with
  | [low, high] => (hexNumber low, hexNumber high)
  | _ => (hexNumber text, hexNumber text)

/-- Reads a table, row by row. -/
def ofRows (rows : List String) : Ranges :=
  rows.flatMap fun row => (row.splitOn " ").map entry

/-- Whether a character lies in one of the ranges. -/
def contains (ranges : Ranges) (c : Char) : Bool :=
  ranges.any fun (low, high) => low ≤ c.toNat && c.toNat ≤ high

end Ranges

end Ripple.Unicode
