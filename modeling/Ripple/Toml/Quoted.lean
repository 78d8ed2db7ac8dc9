/-!
# Quoted strings

A string is written in one of four forms: between single or triple quotes, with escapes
(`"`) or without (`'`). `readBasic`, `readLiteral`, `readBasicBlock` and `readLiteralBlock` read
what stands behind the opening quotes; `quote` writes a string in the plainest form it fits.

Each reader is one pass over the characters. A block may hold line ends, which read as line
feeds, and one or two quotes in a row; a line end right behind its opening quotes does not
count.
-/

namespace Ripple.Toml

/-- Whether a character may stand in a string or a comment as it is, quotes and backslashes
apart. -/
def isPlain (c : Char) : Bool := c = '\t' || (32 ≤ c.toNat && c.toNat ≠ 127)

/-- Whether a character is a blank within a line. -/
def isBlank (c : Char) : Bool := c = ' ' || c = '\t'

/-- The value of a hexadecimal digit. -/
def hexValue? (c : Char) : Option Nat :=
  if '0' ≤ c && c ≤ '9' then some (c.toNat - '0'.toNat)
  else if 'A' ≤ c && c ≤ 'F' then some (c.toNat - 'A'.toNat + 10)
  else if 'a' ≤ c && c ≤ 'f' then some (c.toNat - 'a'.toNat + 10)
  else none

/-- The character with a given code, unless there is none. -/
def charOf? (code : Nat) : Option Char :=
  if code.isValidChar then some (Char.ofNat code) else none

/-- The character that a backslash and a letter stand for. -/
def escaped? (c : Char) : Option Char :=
  if c = 'b' then some '\x08'
  else if c = 't' then some '\t'
  else if c = 'n' then some '\n'
  else if c = 'f' then some '\x0c'
  else if c = 'r' then some '\r'
  else if c = '"' then some '"'
  else if c = '\\' then some '\\'
  else none

/-- How many digits the code of a character has behind a backslash and a letter. -/
def codeWidth? (c : Char) : Option Nat :=
  if c = 'u' then some 4 else if c = 'U' then some 8 else none

/-! ### Reading -/

/-- Where a reader stands: at a character of its own, behind a backslash, within a code with
some digits left, behind a backslash that ends a line, or among the blanks and line ends that
such a backslash makes invisible. -/
inductive Spot where
  | plain
  | escape
  | code (left : Nat) (value : Nat)
  | lineEnd
  | gap
deriving DecidableEq, Repr

/-- Puts a character in front of a string that was read. -/
def push (c : Char) (read : Option (List Char × List Char)) : Option (List Char × List Char) :=
  read.map fun (text, rest) => (c :: text, rest)

/-- Reads a string with escapes up to its closing quote. -/
def readBasic : Spot → List Char → Option (List Char × List Char)
  | .plain, '"' :: cs => some ([], cs)
  | .plain, c :: cs =>
    if c = '\\' then readBasic .escape cs
    else if isPlain c then push c (readBasic .plain cs)
    else none
  | .escape, c :: cs =>
    match escaped? c, codeWidth? c with
    | some e, _ => push e (readBasic .plain cs)
    | none, some width => readBasic (.code (width - 1) 0) cs
    | none, none => none
  | .code left value, c :: cs => do
    let value := 16 * value + (← hexValue? c)
    match left with
    | 0 => push (← charOf? value) (readBasic .plain cs)
    | left + 1 => readBasic (.code left value) cs
  | _, _ => none

/-- Reads a string without escapes up to its closing quote. -/
def readLiteral : List Char → Option (List Char × List Char)
  | [] => none
  | '\'' :: cs => some ([], cs)
  | c :: cs => if isPlain c then push c (readLiteral cs) else none

/-- What is left of a block behind three quotes: up to two more quotes belong to its text. -/
def closeBlock (mark : Char) : List Char → List Char × List Char
  | c :: d :: cs =>
    if c = mark then if d = mark then ([mark, mark], cs) else ([mark], d :: cs)
    else ([], c :: d :: cs)
  | [c] => if c = mark then ([mark], []) else ([], [c])
  | [] => ([], [])

/-- Reads a block with escapes up to its closing quotes. -/
def readBasicBlock : Spot → List Char → Option (List Char × List Char)
  | .plain, '"' :: '"' :: '"' :: cs => some (closeBlock '"' cs)
  | .plain, '\r' :: '\n' :: cs => push '\n' (readBasicBlock .plain cs)
  | .plain, c :: cs =>
    if c = '\\' then readBasicBlock .escape cs
    else if c = '\n' || isPlain c then push c (readBasicBlock .plain cs)
    else none
  | .escape, '\r' :: '\n' :: cs => readBasicBlock .gap cs
  | .escape, c :: cs =>
    if c = '\n' then readBasicBlock .gap cs
    else if isBlank c then readBasicBlock .lineEnd cs
    else
      match escaped? c, codeWidth? c with
      | some e, _ => push e (readBasicBlock .plain cs)
      | none, some width => readBasicBlock (.code (width - 1) 0) cs
      | none, none => none
  | .code left value, c :: cs => do
    let value := 16 * value + (← hexValue? c)
    match left with
    | 0 => push (← charOf? value) (readBasicBlock .plain cs)
    | left + 1 => readBasicBlock (.code left value) cs
  | .lineEnd, '\r' :: '\n' :: cs => readBasicBlock .gap cs
  | .lineEnd, c :: cs =>
    if c = '\n' then readBasicBlock .gap cs
    else if isBlank c then readBasicBlock .lineEnd cs
    else none
  | .gap, '"' :: '"' :: '"' :: cs => some (closeBlock '"' cs)
  | .gap, '\r' :: '\n' :: cs => readBasicBlock .gap cs
  | .gap, c :: cs =>
    if c = '\n' || isBlank c then readBasicBlock .gap cs
    else if c = '\\' then readBasicBlock .escape cs
    else if isPlain c then push c (readBasicBlock .plain cs)
    else none
  | _, [] => none

/-- Reads a block without escapes up to its closing quotes. -/
def readLiteralBlock : List Char → Option (List Char × List Char)
  | [] => none
  | '\'' :: '\'' :: '\'' :: cs => some (closeBlock '\'' cs)
  | '\r' :: '\n' :: cs => push '\n' (readLiteralBlock cs)
  | c :: cs => if c = '\n' || isPlain c then push c (readLiteralBlock cs) else none

/-- Drops a line end at the beginning. -/
def dropLineEnd : List Char → List Char
  | '\n' :: cs => cs
  | '\r' :: '\n' :: cs => cs
  | cs => cs

/-- A string that was read as characters. -/
def asString (read : Option (List Char × List Char)) : Option (String × List Char) :=
  read.map fun (text, rest) => (String.ofList text, rest)

/-- Reads a string in any form, with its opening quotes. -/
def readString : List Char → Option (String × List Char)
  | '"' :: '"' :: '"' :: cs => asString (readBasicBlock .plain (dropLineEnd cs))
  | '"' :: cs => asString (readBasic .plain cs)
  | '\'' :: '\'' :: '\'' :: cs => asString (readLiteralBlock (dropLineEnd cs))
  | '\'' :: cs => asString (readLiteral cs)
  | _ => none

/-! ### Writing -/

/-- Whether a character can only be written as an escape. -/
def isCode (c : Char) : Bool := (c.toNat < 32 && c ≠ '\t' && c ≠ '\n') || c.toNat = 127

/-- The longest run of a character in a string, of which `n` came right in front of it. -/
def longestRun (mark : Char) (n : Nat) : List Char → Nat
  | [] => n
  | c :: cs => if c = mark then longestRun mark (n + 1) cs else max n (longestRun mark 0 cs)

/-- A hexadecimal digit in upper case. -/
def hexDigit (n : Nat) : Char :=
  if n < 10 then Char.ofNat ('0'.toNat + n) else Char.ofNat ('A'.toNat + (n - 10))

/-- A character other than a quote in a form with escapes. A line feed is escaped unless the
form is a `block`. -/
def escape (block : Bool) (c : Char) : List Char :=
  if c = '\x08' then ['\\', 'b']
  else if c = '\t' then ['\\', 't']
  else if c = '\n' then if block then ['\n'] else ['\\', 'n']
  else if c = '\x0c' then ['\\', 'f']
  else if c = '\r' then ['\\', 'r']
  else if c = '\\' then ['\\', '\\']
  else if isCode c then ['\\', 'u', '0', '0', hexDigit (c.toNat / 16), hexDigit (c.toNat % 16)]
  else [c]

/-- A string in a form with escapes, without its quotes, behind `n` quotes that are not escaped.
On a line every quote is escaped, in a block every third in a row. -/
def escapeAll (block : Bool) (n : Nat) : List Char → List Char
  | [] => []
  | c :: cs =>
    if c = '"' then
      if n < (if block then 2 else 0) then '"' :: escapeAll block (n + 1) cs
      else '\\' :: '"' :: escapeAll block 0 cs
    else escape block c ++ escapeAll block 0 cs

/-- The line end behind the opening quotes of a block, which makes one that follows count. -/
def blockStart (cs : List Char) : List Char := if cs.contains '\n' then ['\n'] else []

/-- A string with escapes on one line. -/
def basic (cs : List Char) : List Char := '"' :: escapeAll false 0 cs ++ ['"']

/-- A string without escapes on one line. -/
def literal (cs : List Char) : List Char := '\'' :: cs ++ ['\'']

/-- A block with escapes. -/
def basicBlock (cs : List Char) : List Char :=
  '"' :: '"' :: '"' :: blockStart cs ++ escapeAll true 0 cs ++ ['"', '"', '"']

/-- A block without escapes. -/
def literalBlock (cs : List Char) : List Char :=
  '\'' :: '\'' :: '\'' :: blockStart cs ++ cs ++ ['\'', '\'', '\'']

/-- A string in the plainest form that it fits: between double quotes if nothing in it needs an
escape but a tab, then without escapes, then as a block of either kind, and with escapes where
nothing else will do. -/
def quote (s : String) : List Char :=
  let cs := s.toList
  let code := cs.any isCode
  let lines := cs.contains '\n'
  let backslash := cs.contains '\\'
  if !code && !backslash && !lines && !cs.contains '"' then basic cs
  else if !code && !lines && !cs.contains '\'' then literal cs
  else if !code && !backslash && longestRun '"' 0 cs < 3 then basicBlock cs
  else if !code && longestRun '\'' 0 cs < 3 then literalBlock cs
  else if lines then basicBlock cs
  else basic cs

end Ripple.Toml
