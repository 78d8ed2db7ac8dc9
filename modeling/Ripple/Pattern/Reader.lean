import Ripple.Pattern
import Ripple.Pattern.Property

/-!
# Reading patterns

The notation of patterns: literals and escapes, `.`, bracketed classes with set operations,
groups with names or flags, alternatives, repetitions, and assertions. There is no look-around
and no reference back to a group. A text that is no pattern reads as `none`.

Reading is one pass over the characters. The flags in force change at a flag group and come
back when the group around it closes.
-/

namespace Ripple.Pattern

/-- The flags in force: ignore case, lines within the text, dot matches line ends, carriage
returns end lines too, Unicode classes, and blanks and comments between the parts. -/
structure Flags where
  ignoreCase : Bool := false
  multiLine : Bool := false
  dotAll : Bool := false
  crlf : Bool := false
  unicode : Bool := true
  verbose : Bool := false
deriving Repr

/-- How deep parts of a pattern may nest. -/
def nestingLimit : Nat := 250

/-- How heavy a pattern may be. -/
def weightLimit : Nat := 327680

/-- What an escape or a plain character stands for. `fromByte` marks a character written as
a fixed number of hexadecimal digits with `\x`. -/
inductive Piece where
  | literal (code : Nat) (fromByte : Bool)
  | set (s : CharSet)
  | assertion (a : Assertion)

/-- Drops blanks and comments; a comment runs from `#` to the end of the line. -/
def dropBlank (inComment : Bool) : List Char → List Char
  | [] => []
  | c :: cs =>
    if inComment then dropBlank (c != '\n') cs
    else if Unicode.whiteSpace.contains c then dropBlank false cs
    else if c == '#' then dropBlank true cs
    else c :: cs

/-- Drops what does not count under the flags in force. -/
def skip (f : Flags) (cs : List Char) : List Char :=
  if f.verbose then dropBlank false cs else cs

/-! ### Escapes -/

/-- Punctuation that has a meaning of its own somewhere in a pattern. -/
def isMeta (c : Char) : Bool := "\\.+*?()|[]\x7b\x7d^$#&-~".toList.contains c

/-- Whether a backslash in front of the character makes it literal. -/
def isEscapable (c : Char) : Bool :=
  isMeta c || (c.toNat < 128 && !c.isAlphanum && c != '<' && c != '>')

def isHexDigit (c : Char) : Bool :=
  c.isDigit || ('a' ≤ c && c ≤ 'f') || ('A' ≤ c && c ≤ 'F')

/-- The value of hexadecimal digits, if it is a code point. -/
def codePoint? (digits : List Char) : Option Nat :=
  let n := digits.foldl (fun n c => 16 * n + Unicode.hexDigit c.toLower) 0
  if n.isValidChar then some n else none

/-- Reads exactly `n` hexadecimal digits. -/
def hexDigits (f : Flags) : Nat → List Char → Option (List Char × List Char)
  | 0, cs => some ([], cs)
  | _ + 1, [] => none
  | n + 1, c :: cs =>
    if isHexDigit c then
      (hexDigits f n (skip f cs)).map fun (digits, rest) => (c :: digits, rest)
    else none

/-- Collects characters up to a closing brace. -/
def upToBrace (f : Flags) : Nat → List Char → Option (List Char × List Char)
  | 0, _ => none
  | fuel + 1, cs =>
    match skip f cs with
    | [] => none
    | '}' :: rest => some ([], rest)
    | c :: rest => (upToBrace f fuel rest).map fun (name, rest) => (c :: name, rest)

/-- Reads a code point after `\x`, `\u` or `\U`, with that many digits or in braces. -/
def hexEscape (f : Flags) (width : Nat) (cs : List Char) : Option (Piece × List Char) :=
  match skip f cs with
  | '{' :: rest => do
    let (digits, rest) ← upToBrace f (rest.length + 1) rest
    if digits.isEmpty || !digits.all isHexDigit then none
    else return (.literal (← codePoint? digits) false, skip f rest)
  | cs => do
    let (digits, rest) ← hexDigits f width cs
    return (.literal (← codePoint? digits) (width == 2), rest)

/-- Cuts a name at the first place where `at?` sees a separator of the given length. -/
def cutAt (separator : List Char) : List Char → Option (List Char × List Char)
  | [] => none
  | c :: cs =>
    if separator.isPrefixOf (c :: cs) then some ([], (c :: cs).drop separator.length)
    else (cutAt separator cs).map fun (before, after) => (c :: before, after)

/-- The set that the text between the braces of `\p` names. -/
def propertySet? (name : List Char) : Option CharSet :=
  match cutAt ['!', '='] name, cutAt [':'] name, cutAt ['='] name with
  | some (property, value), _, _ =>
    (CharSet.ofNameAndValue? (String.ofList property) (String.ofList value)).map .compl
  | none, some (property, value), _ | none, none, some (property, value) =>
    CharSet.ofNameAndValue? (String.ofList property) (String.ofList value)
  | none, none, none => CharSet.ofName? (String.ofList name)

/-- Reads the name after `\p` or `\P`. -/
def propertyEscape (f : Flags) (negated : Bool) (cs : List Char) : Option (Piece × List Char) := do
  if !f.unicode then none
  let (name, rest) ←
    match skip f cs with
    | [] => none
    | '{' :: rest => upToBrace f (rest.length + 1) rest
    | '\\' :: _ => none
    | c :: rest => some ([c], skip f rest)
  let s ← propertySet? name
  let s := if f.ignoreCase then s.fold else s
  return (.set (s.negateIf negated), rest)

/-- Decimal digits, white space and word characters, or what is not one of them. Without
Unicode they are ASCII, and their complements would match parts of characters. -/
def classEscape (f : Flags) (c : Char) : Option CharSet :=
  let kind := c.toLower
  let s : CharSet :=
    if f.unicode then
      .ranges (if kind == 'd' then Unicode.digit
        else if kind == 's' then Unicode.whiteSpace else Unicode.word)
    else
      .ranges (if kind == 'd' then [(0x30, 0x39)]
        else if kind == 's' then [(9, 13), (32, 32)]
        else [(0x30, 0x39), (0x41, 0x5a), (0x5f, 0x5f), (0x61, 0x7a)])
  if c == kind then some s
  else if f.unicode then some (.compl s)
  else none

/-- The word boundary named in braces after `\b`. `none` is a name that is none of them;
`some none` leaves the brace to the reading of repetitions. -/
def namedBoundary (f : Flags) (cs : List Char) :
    Option (Option (Assertion × List Char)) :=
  let isNameChar (c : Char) : Bool := c.isAlpha || c == '-'
  match skip f cs with
  | [] => none
  | c :: rest =>
    if !isNameChar c then some none
    else do
      let (name, rest) ← upToBrace f (rest.length + 2) (c :: rest)
      let a ←
        match String.ofList name with
        | "start" => some (Assertion.wordStart f.unicode)
        | "end" => some (.wordEnd f.unicode)
        | "start-half" => some (.wordStartHalf f.unicode)
        | "end-half" => some (.wordEndHalf f.unicode)
        | _ => none
      return some (a, rest)

/-- Reads what follows a backslash. -/
def escape (f : Flags) : List Char → Option (Piece × List Char)
  | [] => none
  | c :: cs =>
    if c.isDigit then none
    else if c == 'x' then hexEscape f 2 cs
    else if c == 'u' then hexEscape f 4 cs
    else if c == 'U' then hexEscape f 8 cs
    else if c == 'p' || c == 'P' then propertyEscape f (c == 'P') cs
    else if "dswDSW".toList.contains c then (classEscape f c).map fun s => (.set s, cs)
    else if isEscapable c then some (.literal c.toNat false, cs)
    else
      match c with
      | 'a' => some (.literal 7 false, cs)
      | 'f' => some (.literal 12 false, cs)
      | 't' => some (.literal 9 false, cs)
      | 'n' => some (.literal 10 false, cs)
      | 'r' => some (.literal 13 false, cs)
      | 'v' => some (.literal 11 false, cs)
      | 'A' => some (.assertion .textStart, cs)
      | 'z' => some (.assertion .textEnd, cs)
      | 'B' => some (.assertion (.notWordBoundary f.unicode), cs)
      | '<' => some (.assertion (.wordStart f.unicode), cs)
      | '>' => some (.assertion (.wordEnd f.unicode), cs)
      | 'b' =>
        match cs with
        | '{' :: rest =>
          match namedBoundary f rest with
          | none => none
          | some none => some (.assertion (.wordBoundary f.unicode), cs)
          | some (some (a, rest)) => some (.assertion a, rest)
        | _ => some (.assertion (.wordBoundary f.unicode), cs)
      | _ => none

/-! ### Bracketed classes -/

/-- A class as far as it is read: the set, and how deep its parts nest. -/
structure Class where
  set : CharSet
  depth : Nat

/-- The items read since the class, or its last operator, began. -/
structure Items where
  set : CharSet := .empty
  count : Nat := 0
  depth : Nat := 0

namespace Items

def add (items : Items) (s : CharSet) (depth : Nat) : Items :=
  ⟨if items.count = 0 then s else .union items.set s, items.count + 1, max items.depth depth⟩

/-- The items as one class; several nest one level deeper than one. -/
def toClass (items : Items) : Class :=
  ⟨items.set, if items.count ≤ 1 then items.depth else items.depth + 1⟩

end Items

/-- The set operators between the parts of a class. -/
inductive SetOp where
  | inter
  | diff
  | symmDiff

def foldUnder (f : Flags) (s : CharSet) : CharSet :=
  if !f.ignoreCase then s else if f.unicode then s.fold else s.foldAscii

/-- Joins what stands left of the last operator, if there is one, with what was read since. -/
def joinClass (f : Flags) (left : Option (SetOp × Class)) (items : Items) : Class :=
  let right := items.toClass
  match left with
  | none => right
  | some (op, left) =>
    let a := foldUnder f left.set
    let b := foldUnder f right.set
    let s := match op with
      | .inter => .inter a b
      | .diff => .diff a b
      | .symmDiff => a.symmDiff b
    ⟨s, max left.depth right.depth + 1⟩

/-- Closes a bracket: case first, then negation. Without Unicode the class must not match
parts of characters. -/
def closeClass (f : Flags) (negated : Bool) (c : Class) : Option Class :=
  let s := (foldUnder f c.set).negateIf negated
  if !f.unicode && !s.sparesHighBytes then none else some ⟨s, c.depth + 1⟩

/-- The ASCII classes that stand in `[:…:]`. -/
def asciiClass? (name : String) : Option Unicode.Ranges :=
  match name with
  | "alnum" => some [(0x30, 0x39), (0x41, 0x5a), (0x61, 0x7a)]
  | "alpha" => some [(0x41, 0x5a), (0x61, 0x7a)]
  | "ascii" => some [(0, 0x7f)]
  | "blank" => some [(9, 9), (32, 32)]
  | "cntrl" => some [(0, 0x1f), (0x7f, 0x7f)]
  | "digit" => some [(0x30, 0x39)]
  | "graph" => some [(0x21, 0x7e)]
  | "lower" => some [(0x61, 0x7a)]
  | "print" => some [(0x20, 0x7e)]
  | "punct" => some [(0x21, 0x2f), (0x3a, 0x40), (0x5b, 0x60), (0x7b, 0x7e)]
  | "space" => some [(9, 13), (32, 32)]
  | "upper" => some [(0x41, 0x5a)]
  | "word" => some [(0x30, 0x39), (0x41, 0x5a), (0x5f, 0x5f), (0x61, 0x7a)]
  | "xdigit" => some [(0x30, 0x39), (0x41, 0x46), (0x61, 0x66)]
  | _ => none

/-- Reads an ASCII class behind its opening `[`; `none` if there is none. -/
def asciiClass (cs : List Char) : Option (Bool × Unicode.Ranges × List Char) :=
  match cs with
  | ':' :: rest =>
    let (negated, rest) := match rest with
      | '^' :: rest => (true, rest)
      | _ => (false, rest)
    match rest.dropWhile (· != ':') with
    | ':' :: ']' :: after =>
      (asciiClass? (String.ofList (rest.takeWhile (· != ':')))).map fun ranges =>
        (negated, ranges, after)
    | _ => none
  | _ => none

/-- Reads one character or escape of a class. -/
def classItem (f : Flags) : List Char → Option (Piece × List Char)
  | [] => none
  | '\\' :: cs => escape f cs
  | c :: cs => some (.literal c.toNat false, cs)

/-- A literal of a class. Without Unicode it must be ASCII. -/
def classLiteral (f : Flags) : Piece → Option Nat
  | .literal code _ => if !f.unicode && 128 ≤ code then none else some code
  | _ => none

/-- Reads a single item of a class or a range of two literals. -/
def classRange (f : Flags) (cs : List Char) : Option (CharSet × List Char) := do
  let (first, rest) ← classItem f cs
  let rest := skip f rest
  let alone : Option (CharSet × List Char) :=
    match first with
    | .literal .. => (classLiteral f first).map fun n => (.single n, rest)
    | .set s => some (s, rest)
    | .assertion _ => none
  match rest with
  | [] => none
  | '-' :: after =>
    match skip f after with
    | [] => none
    | ']' :: _ | '-' :: _ => alone
    | after => do
      let (last, rest) ← classItem f after
      let low ← classLiteral f first
      let high ← classLiteral f last
      if high < low then none else return (.ranges [(low, high)], rest)
  | _ => alone

/-- Takes the hyphens at the beginning of a class, which are literal. -/
def leadingHyphens (f : Flags) : Nat → Items → List Char → Items × List Char
  | fuel + 1, items, '-' :: cs => leadingHyphens f fuel (items.add (.single 0x2d) 0) (skip f cs)
  | _, items, cs => (items, cs)

mutual

/-- Reads a class behind its opening bracket. -/
def bracketed (f : Flags) : Nat → List Char → Option (Class × List Char)
  | 0, _ => none
  | fuel + 1, cs =>
    let cs := skip f cs
    let (negated, cs) := match cs with
      | '^' :: rest => (true, skip f rest)
      | _ => (false, cs)
    let (items, cs) := leadingHyphens f cs.length {} cs
    let (items, cs) := match items.count, cs with
      | 0, ']' :: rest => (items.add (.single 0x5d) 0, skip f rest)
      | _, _ => (items, cs)
    match classBody f fuel none items cs with
    | some (c, rest) => (closeClass f negated c).map fun c => (c, rest)
    | none => none

/-- Reads the rest of a class up to its closing bracket. -/
def classBody (f : Flags) : Nat → Option (SetOp × Class) → Items → List Char →
    Option (Class × List Char)
  | 0, _, _, _ => none
  | fuel + 1, left, items, cs =>
    match skip f cs with
    | [] => none
    | ']' :: rest => some (joinClass f left items, rest)
    | '[' :: rest =>
      match asciiClass rest with
      | some (negated, ranges, rest) =>
        match closeClass f negated ⟨.ranges ranges, 0⟩ with
        | some c => classBody f fuel left (items.add c.set 0) rest
        | none => none
      | none =>
        match bracketed f fuel rest with
        | some (c, rest) => classBody f fuel left (items.add c.set c.depth) rest
        | none => none
    | '&' :: '&' :: rest => classBody f fuel (some (.inter, joinClass f left items)) {} rest
    | '-' :: '-' :: rest => classBody f fuel (some (.diff, joinClass f left items)) {} rest
    | '~' :: '~' :: rest => classBody f fuel (some (.symmDiff, joinClass f left items)) {} rest
    | c :: rest =>
      match classRange f (c :: rest) with
      | some (s, rest) => classBody f fuel left (items.add s 0) rest
      | none => none

end

/-! ### Groups, alternatives and repetitions -/

/-- A finished part of a pattern and how deep its parts nest. A flag directive is a part that
matches the empty text and cannot be repeated. -/
structure Part where
  pattern : Pattern
  depth : Nat
  isDirective : Bool := false

/-- What is read of a group: its finished alternatives and the parts of the last one, both
latest first, and the flags that hold again when it closes. -/
structure Level where
  alternatives : List Part := []
  parts : List Part := []
  outerFlags : Flags := {}

/-- The parts of an alternative in a row. -/
def sequence (parts : List Part) : Part :=
  match parts with
  | [] => ⟨.empty, 0, false⟩
  | [only] => ⟨only.pattern, only.depth, false⟩
  | last :: earlier =>
    ⟨earlier.foldl (fun p part => .seq part.pattern p) last.pattern,
      (parts.foldl (fun d part => max d part.depth) 0) + 1, false⟩

/-- The alternatives of a group. -/
def Level.close (level : Level) : Part :=
  let last := sequence level.parts
  match level.alternatives with
  | [] => last
  | others =>
    ⟨others.foldl (fun p part => .either part.pattern p) last.pattern,
      (others.foldl (fun d part => max d part.depth) last.depth) + 1, false⟩

/-- The state between two parts: the innermost open group, those around it, the flags in
force, and the group names in use. -/
structure Progress where
  level : Level := {}
  outer : List Level := []
  flags : Flags := {}
  names : List (List Char) := []

def Progress.push (s : Progress) (part : Part) : Progress :=
  { s with level := { s.level with parts := part :: s.level.parts } }

/-- One literal character, or its case variants. -/
def literalPattern (f : Flags) (code : Nat) (fromByte : Bool) : Option Pattern :=
  if !f.unicode && 128 ≤ code && (fromByte || f.ignoreCase) then none
  else some (.char (foldUnder f (.single code)))

/-- Whether a character may stand in the name of a group. -/
def isNameChar (first : Bool) (c : Char) : Bool :=
  c == '_' || Unicode.alphabetic.contains c
    || (!first && (c == '.' || c == '[' || c == ']'
      || (Unicode.category "Nd" ++ Unicode.category "Nl" ++ Unicode.category "No").contains c))

/-- Reads the name of a group up to its closing angle bracket. -/
def groupName (cs : List Char) : Option (List Char × List Char) :=
  match cs.takeWhile (· != '>'), cs.dropWhile (· != '>') with
  | first :: more, '>' :: rest =>
    if isNameChar true first && more.all (isNameChar false) then some (first :: more, rest)
    else none
  | _, _ => none

/-- Reads the flags of a group up to `:` or `)`. Each flag and the hyphen may stand once, and
a hyphen is followed by a flag. -/
def flagItems (f : Flags) (seen : List Char) : List Char → Option (Flags × Bool × List Char)
  | [] => none
  | ')' :: cs => if seen.isEmpty || seen.head? == some '-' then none else some (f, true, cs)
  | ':' :: cs => if seen.head? == some '-' then none else some (f, false, cs)
  | c :: cs =>
    if seen.contains c then none
    else
      let on := !seen.contains '-'
      match c with
      | '-' => flagItems f (c :: seen) cs
      | 'i' => flagItems { f with ignoreCase := on } (c :: seen) cs
      | 'm' => flagItems { f with multiLine := on } (c :: seen) cs
      | 's' => flagItems { f with dotAll := on } (c :: seen) cs
      | 'U' => flagItems f (c :: seen) cs
      | 'u' => flagItems { f with unicode := on } (c :: seen) cs
      | 'R' => flagItems { f with crlf := on } (c :: seen) cs
      | 'x' => flagItems { f with verbose := on } (c :: seen) cs
      | _ => none

/-- Opens a group with the flags it sets. -/
def Progress.openGroup (s : Progress) (flags : Flags) : Progress :=
  { s with level := { outerFlags := s.flags }, outer := s.level :: s.outer, flags }

/-- Opens a group with a name, which must be new. -/
def openNamed (s : Progress) (cs : List Char) : Option (Progress × List Char) := do
  let (name, rest) ← groupName cs
  if s.names.contains name then none
  else return ({ s.openGroup s.flags with names := name :: s.names }, rest)

/-- Reads what follows an opening parenthesis. -/
def openParen (s : Progress) (cs : List Char) : Option (Progress × List Char) :=
  match skip s.flags cs with
  | '?' :: '=' :: _ | '?' :: '!' :: _ | '?' :: '<' :: '=' :: _ | '?' :: '<' :: '!' :: _ => none
  | '?' :: 'P' :: '<' :: rest | '?' :: '<' :: rest => openNamed s rest
  | '?' :: rest => do
    let (flags, isDirective, rest) ← flagItems s.flags [] rest
    if isDirective then return ({ s.push ⟨.empty, 0, true⟩ with flags }, rest)
    else return (s.openGroup flags, rest)
  | cs => some (s.openGroup s.flags, cs)

/-- Closes the innermost group. -/
def Progress.closeGroup (s : Progress) : Option Progress :=
  match s.outer with
  | [] => none
  | enclosing :: outer =>
    let part := s.level.close
    some { s with
      level :=
        { enclosing with parts := ⟨part.pattern, part.depth + 1, false⟩ :: enclosing.parts }
      outer
      flags := s.level.outerFlags }

/-- Repeats the last part of the alternative. What matches only the empty text is not taken
more than once. -/
def Progress.repeatLast (s : Progress) (least : Nat) (most : Option Nat) : Option Progress :=
  match s.level.parts with
  | [] => none
  | part :: earlier =>
    if part.isDirective then none
    else
      let p : Pattern :=
        if part.pattern.isEmptyOnly then .repeated part.pattern (min least 1) (some (match most with
          | some n => min n 1
          | none => 1))
        else .repeated part.pattern least most
      some { s with level := { s.level with parts := ⟨p, part.depth + 1, false⟩ :: earlier } }

/-- Drops the mark of a repetition that takes as little as it can: it matters to what is
matched, not to whether something is. -/
def dropLazyMark : List Char → List Char
  | '?' :: cs => cs
  | cs => cs

/-- Reads a decimal number of at most 32 bits, blanks around it allowed; the inner `none` is
no number at all. -/
def decimal (f : Flags) (cs : List Char) : Option (Option Nat × List Char) :=
  let cs := cs.dropWhile Unicode.whiteSpace.contains
  let rec digits : Nat → List Char → List Char × List Char
    | fuel + 1, c :: cs =>
      if c.isDigit then
        let (more, rest) := digits fuel (skip f cs)
        (c :: more, rest)
      else ([], c :: cs)
    | _, cs => ([], cs)
  let (number, rest) := digits cs.length cs
  let rest := skip f (rest.dropWhile Unicode.whiteSpace.contains)
  if number.isEmpty then some (none, rest)
  else
    let n := number.foldl (fun n c => 10 * n + (c.toNat - '0'.toNat)) 0
    if n < Nat.pow 2 32 then some (some n, rest) else none

/-- Reads the bounds of a repetition behind its opening brace. -/
def counted (f : Flags) (cs : List Char) : Option (Nat × Option Nat × List Char) := do
  let (least, rest) ← decimal f (skip f cs)
  match rest with
  | '}' :: rest => return (← least, least, dropLazyMark (skip f rest))
  | ',' :: rest =>
    match skip f rest with
    | '}' :: rest => return (← least, none, dropLazyMark (skip f rest))
    | rest =>
      let (most, rest) ← decimal f rest
      match rest with
      | '}' :: rest =>
        let low ← least
        let high ← most
        if high < low then none else return (low, some high, dropLazyMark (skip f rest))
      | _ => none
  | _ => none

/-- What one character or escape matches by itself. -/
def Piece.pattern? (f : Flags) : Piece → Option Pattern
  | .literal code fromByte => literalPattern f code fromByte
  | .set s => some (.char s)
  | .assertion a => some (.assertion a)

/-- The dot: every character, or every one that ends no line. -/
def dot? (f : Flags) : Option Pattern :=
  if !f.unicode then none
  else if f.dotAll then some (.char (.compl .empty))
  else if f.crlf then some (.char (.compl (.ranges [(10, 10), (13, 13)])))
  else some (.char (.compl (.single 10)))

def caret (f : Flags) : Assertion :=
  if !f.multiLine then .textStart else if f.crlf then .lineStartCrlf else .lineStart

def dollar (f : Flags) : Assertion :=
  if !f.multiLine then .textEnd else if f.crlf then .lineEndCrlf else .lineEnd

/-- Reads one part, or what stands between two parts. -/
def step (s : Progress) (c : Char) (cs : List Char) : Option (Progress × List Char) :=
  let leaf (p : Option Pattern) (rest : List Char) : Option (Progress × List Char) :=
    p.map fun p => (s.push ⟨p, 0, false⟩, rest)
  match c with
  | '(' => openParen s cs
  | ')' => s.closeGroup.map fun s => (s, cs)
  | '|' =>
    let level := { s.level with
      alternatives := sequence s.level.parts :: s.level.alternatives
      parts := [] }
    some ({ s with level }, cs)
  | '[' => do
    let (bracket, rest) ← bracketed s.flags (2 * cs.length + 2) cs
    return (s.push ⟨.char bracket.set, bracket.depth, false⟩, rest)
  | '?' => (s.repeatLast 0 (some 1)).map fun s => (s, dropLazyMark cs)
  | '*' => (s.repeatLast 0 none).map fun s => (s, dropLazyMark cs)
  | '+' => (s.repeatLast 1 none).map fun s => (s, dropLazyMark cs)
  | '{' => do
    let (least, most, rest) ← counted s.flags cs
    return (← s.repeatLast least most, rest)
  | '.' => leaf (dot? s.flags) cs
  | '^' => leaf (some (.assertion (caret s.flags))) cs
  | '$' => leaf (some (.assertion (dollar s.flags))) cs
  | '\\' => do
    let (piece, rest) ← escape s.flags cs
    leaf (piece.pattern? s.flags) rest
  | c => leaf (literalPattern s.flags c.toNat false) cs

/-- Reads parts to the end of the text, where no group may be open. -/
def readParts : Nat → Progress → List Char → Option Part
  | 0, _, _ => none
  | fuel + 1, s, cs =>
    match skip s.flags cs with
    | [] => if s.outer.isEmpty then some s.level.close else none
    | c :: cs =>
      match step s c cs with
      | some (s, rest) => readParts fuel s rest
      | none => none

/-- Reads a pattern. Every step takes at least one character. -/
def read? (text : String) : Option Pattern :=
  match readParts (text.length + 1) {} text.toList with
  | some part =>
    if part.depth ≤ nestingLimit && part.pattern.weight ≤ weightLimit then some part.pattern
    else none
  | none => none

end Ripple.Pattern
