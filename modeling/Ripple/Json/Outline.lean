import Ripple.Json.Numeral

/-!
# Outlines of JSON texts

An outline is what can be made out of a text before it is known what the text should say: the
tree of its values, as far as the text keeps to the grammar. Where it breaks off, the outline
ends in a fault. Whoever reads the outline from left to right meets the fault just where it
stands, after everything in front of it.

Some faults depend on the reader. A value that is skipped need not be meaningful: a number may
be out of range, a string may hold half a surrogate pair, and nesting has no limit.
-/

namespace Ripple.Json

/-- Why a text is not JSON: it breaks the grammar, or it ends too early. -/
inductive Fault where
  | malformed
  | truncated
deriving DecidableEq, Repr, Inhabited

/-- A string between its quotes. Where `fault` is present the string can be skipped but not
read, and `value` is meaningless. -/
structure Text where
  value : String
  fault : Option Fault := none
deriving DecidableEq, Repr, Inhabited

/-- What kind of value stands where another was wanted. -/
inductive Found where
  | null
  | bool (value : Bool)
  | integer (value : Int)
  | float (value : Float)
  | string (value : String)
  | array
  | object

/-- How the inside of an array or object ends. `ended` is the end of the text, `afterComma` if
a comma came last; `inside` says that the last item holds the fault; `notKey` that something
other than a string stands where the first key should; `badKey` that a key cannot be read, or
not even skipped. -/
inductive Stop where
  | closed
  | ended (afterComma : Bool)
  | broken
  | inside
  | notKey (found : Except Fault Found)
  | badKey (read skipped : Fault)

/-- How a value that breaks off begins. -/
inductive Start where
  | nothing
  | quote
  | other
deriving DecidableEq, Repr

/-- What can be made out of a value. A value that breaks off has one fault for those who read it
and one for those who skip it. -/
inductive Outline where
  | null
  | bool (value : Bool)
  | number (numeral : Numeral)
  | string (text : Text)
  | array (items : List Outline) (stop : Stop)
  | object (members : List (Text × Outline)) (stop : Stop)
  | broken (start : Start) (read skipped : Fault)

/-! ### Blanks, digits and words -/

def isBlank (c : Char) : Bool := c == ' ' || c == '\n' || c == '\t' || c == '\r'

def dropBlanks (cs : List Char) : List Char := cs.dropWhile isBlank

def digitValue (c : Char) : Nat := c.toNat - '0'.toNat

/-- The digits at the beginning of a text, and the rest. -/
def spanDigits (cs : List Char) : List Nat × List Char :=
  ((cs.takeWhile Char.isDigit).map digitValue, cs.dropWhile Char.isDigit)

/-- A value that does not keep to the grammar whoever reads it. -/
def Outline.fail (fault : Fault) : Outline := .broken .other fault fault

/-- A number that stops short: at the end of the text those who read it find it truncated, those
who skip it malformed. -/
def Outline.shortNumber (rest : List Char) : Outline :=
  if rest.isEmpty then .broken .other .truncated .malformed else .fail .malformed

/-- Reads a word, of which the first character has been seen. -/
def word (value : Outline) : List Char → List Char → Outline × Option (List Char)
  | [], rest => (value, some rest)
  | _ :: _, [] => (.fail .truncated, none)
  | w :: ws, c :: cs => if w = c then word value ws cs else (.fail .malformed, none)

/-! ### Numbers -/

/-- Reads the exponent of a number, if there is one. -/
def exponentPart (n : Numeral) (cs : List Char) : Outline × Option (List Char) :=
  match cs with
  | e :: cs =>
    if e = 'e' || e = 'E' then
      let (negative, cs) := match cs with
        | '+' :: cs => (false, cs)
        | '-' :: cs => (true, cs)
        | cs => (false, cs)
      match spanDigits cs with
      | ([], rest) => (.shortNumber rest, none)
      | (digits, rest) => (.number { n with exponent := some (negative, digits) }, some rest)
    else (.number n, some (e :: cs))
  | [] => (.number n, some [])

/-- Reads the digits after the point of a number, if there are any, and the exponent. -/
def fractionPart (n : Numeral) (cs : List Char) : Outline × Option (List Char) :=
  match cs with
  | '.' :: cs =>
    match spanDigits cs with
    | ([], rest) => (.shortNumber rest, none)
    | (digits, rest) => exponentPart { n with fraction := some digits } rest
  | cs => exponentPart n cs

/-- Reads a number behind its sign. A zero in front is the only whole digit. -/
def numberOutline (negative : Bool) (cs : List Char) : Outline × Option (List Char) :=
  match spanDigits cs with
  | ([], rest) => (.shortNumber rest, none)
  | (0 :: _ :: _, _) => (.fail .malformed, none)
  | (digits, rest) => fractionPart ⟨negative, digits, none, none⟩ rest

/-! ### Strings -/

def hexValue? (c : Char) : Option Nat :=
  if c.isDigit then some (c.toNat - '0'.toNat)
  else if 'a' ≤ c && c ≤ 'f' then some (c.toNat - 'a'.toNat + 10)
  else if 'A' ≤ c && c ≤ 'F' then some (c.toNat - 'A'.toNat + 10)
  else none

/-- The value of four hexadecimal digits. -/
def hexValue4? (a b c d : Char) : Option Nat :=
  match hexValue? a, hexValue? b, hexValue? c, hexValue? d with
  | some a, some b, some c, some d => some (4096 * a + 256 * b + 16 * c + d)
  | _, _, _, _ => none

/-- The fault of four hexadecimal digits that are not there: fewer than four bytes are left, or
what is left is something else. -/
def hexFault (cs : List Char) : Fault :=
  if (String.ofList cs).utf8ByteSize < 4 then .truncated else .malformed

/-- What a letter after a backslash stands for. -/
def unescape? (c : Char) : Option Char :=
  match c with
  | '"' => some '"'
  | '\\' => some '\\'
  | '/' => some '/'
  | 'b' => some '\x08'
  | 'f' => some '\x0c'
  | 'n' => some '\n'
  | 'r' => some '\r'
  | 't' => some '\t'
  | _ => none

/-- A string as far as it is read: its characters, the fault of reading it, and the text behind
its closing quote, or the fault of skipping it. -/
structure Spell where
  chars : List Char
  fault : Option Fault
  rest : Except Fault (List Char)

namespace Spell

/-- Puts a character in front. -/
def push (c : Char) (s : Spell) : Spell := { s with chars := c :: s.chars }

/-- Puts in front what can be skipped but not read. -/
def spoil (fault : Fault) (s : Spell) : Spell := { s with fault := some fault }

def stop (fault : Fault) : Spell := ⟨[], some fault, .error fault⟩

end Spell

/-- Whether a code is the first or the second half of a surrogate pair. -/
def isLead (n : Nat) : Bool := 0xD800 ≤ n && n ≤ 0xDBFF

def isTrail (n : Nat) : Bool := 0xDC00 ≤ n && n ≤ 0xDFFF

/-- The fault of a first half that no second half follows. -/
def leadFault : List Char → Fault
  | [] => .truncated
  | ['\\'] => .truncated
  | '\\' :: 'u' :: cs =>
    match cs with
    | a :: b :: c :: d :: _ => if (hexValue4? a b c d).isSome then .malformed else hexFault cs
    | _ => hexFault cs
  | _ => .malformed

/-- Reads a string behind its opening quote. -/
def spell : List Char → Spell
  | [] => .stop .truncated
  | '"' :: rest => ⟨[], none, .ok rest⟩
  | '\\' :: 'u' :: a :: b :: c :: d :: '\\' :: 'u' :: e :: f :: g :: h :: rest =>
    match hexValue4? a b c d with
    | none => .stop (hexFault (a :: b :: c :: d :: '\\' :: 'u' :: e :: f :: g :: h :: rest))
    | some n =>
      if isLead n then
        match hexValue4? e f g h with
        | none => .stop (hexFault (e :: f :: g :: h :: rest))
        | some m =>
          if isTrail m then
            (spell rest).push (Char.ofNat (0x10000 + 1024 * (n - 0xD800) + (m - 0xDC00)))
          else (spell ('\\' :: 'u' :: e :: f :: g :: h :: rest)).spoil .malformed
      else
        let others := spell ('\\' :: 'u' :: e :: f :: g :: h :: rest)
        if isTrail n then others.spoil .malformed else others.push (Char.ofNat n)
  | '\\' :: 'u' :: a :: b :: c :: d :: rest =>
    match hexValue4? a b c d with
    | none => .stop (hexFault (a :: b :: c :: d :: rest))
    | some n =>
      if isLead n then (spell rest).spoil (leadFault rest)
      else if isTrail n then (spell rest).spoil .malformed
      else (spell rest).push (Char.ofNat n)
  | '\\' :: 'u' :: rest => .stop (hexFault rest)
  | ['\\'] => .stop .truncated
  | '\\' :: c :: rest =>
    match unescape? c with
    | some c => (spell rest).push c
    | none => .stop .malformed
  | c :: rest => if c.toNat < 32 then .stop .malformed else (spell rest).push c

namespace Spell

/-- The string as a text. -/
def text (s : Spell) : Text := ⟨String.ofList s.chars, s.fault⟩

end Spell

/-! ### Values -/

/-- What kind of value an outline shows; its fault if it is none. -/
def Outline.found : Outline → Except Fault Found
  | .null => .ok .null
  | .bool b => .ok (.bool b)
  | .number n =>
    match n.value? with
    | some (.natural n) => .ok (.integer n)
    | some (.negative n) => .ok (.integer (-n))
    | some (.float f) => .ok (.float f)
    | none => .error .malformed
  | .string t =>
    match t.fault with
    | none => .ok (.string t.value)
    | some fault => .error fault
  | .array _ _ => .ok .array
  | .object _ _ => .ok .object
  | .broken _ fault _ => .error fault

/-- Reads what begins with a quote. -/
def stringOutline (cs : List Char) : Outline × Option (List Char) :=
  let s := spell cs
  match s.rest with
  | .ok rest => (.string s.text, some rest)
  | .error fault => (.broken .quote (s.fault.getD fault) fault, none)

mutual

/-- Makes out the value at the beginning of a text, and gives the rest of the text unless the
value breaks off. Each step takes a character, so `fuel` beyond the length of the text is
never used up. -/
def outline : Nat → List Char → Outline × Option (List Char)
  | 0, _ => (.fail .malformed, none)
  | fuel + 1, cs =>
    match dropBlanks cs with
    | [] => (.broken .nothing .truncated .truncated, none)
    | '[' :: cs =>
      let (items, stop, rest) := outlineItems fuel true cs
      (.array items stop, rest)
    | '{' :: cs =>
      let (members, stop, rest) := outlineMembers fuel true cs
      (.object members stop, rest)
    | '"' :: cs => stringOutline cs
    | 'n' :: cs => word .null ['u', 'l', 'l'] cs
    | 't' :: cs => word (.bool true) ['r', 'u', 'e'] cs
    | 'f' :: cs => word (.bool false) ['a', 'l', 's', 'e'] cs
    | '-' :: cs => numberOutline true cs
    | c :: cs => if c.isDigit then numberOutline false (c :: cs) else (.fail .malformed, none)

/-- Makes out the items of an array, behind its bracket or behind an item. -/
def outlineItems : Nat → Bool → List Char → List Outline × Stop × Option (List Char)
  | 0, _, _ => ([], .broken, none)
  | fuel + 1, isFirst, cs =>
    match dropBlanks cs with
    | [] => ([], .ended false, none)
    | ']' :: rest => ([], .closed, some rest)
    | c :: rest =>
      if isFirst then outlineItem fuel (c :: rest)
      else if c = ',' then
        match dropBlanks rest with
        | [] => ([], .ended true, none)
        | ']' :: _ => ([], .broken, none)
        | rest => outlineItem fuel rest
      else ([], .broken, none)

/-- Makes out one item of an array and those behind it. -/
def outlineItem : Nat → List Char → List Outline × Stop × Option (List Char)
  | 0, _ => ([], .broken, none)
  | fuel + 1, cs =>
    match outline fuel cs with
    | (item, none) => ([item], .inside, none)
    | (item, some rest) =>
      let (items, stop, rest) := outlineItems fuel false rest
      (item :: items, stop, rest)

/-- Makes out the members of an object, behind its brace or behind a member. -/
def outlineMembers : Nat → Bool → List Char → List (Text × Outline) × Stop × Option (List Char)
  | 0, _, _ => ([], .broken, none)
  | fuel + 1, isFirst, cs =>
    match dropBlanks cs with
    | [] => ([], .ended false, none)
    | '}' :: rest => ([], .closed, some rest)
    | c :: rest =>
      if isFirst then
        if c = '"' then outlineMember fuel rest
        else ([], .notKey (outline fuel (c :: rest)).1.found, none)
      else if c = ',' then
        match dropBlanks rest with
        | [] => ([], .ended true, none)
        | '"' :: rest => outlineMember fuel rest
        | _ => ([], .broken, none)
      else ([], .broken, none)

/-- Makes out one member of an object behind the quote of its key, and those behind it. -/
def outlineMember : Nat → List Char → List (Text × Outline) × Stop × Option (List Char)
  | 0, _ => ([], .broken, none)
  | fuel + 1, cs =>
    let key := spell cs
    match key.rest with
    | .error fault => ([], .badKey (key.fault.getD fault) fault, none)
    | .ok rest =>
      match dropBlanks rest with
      | [] => ([(key.text, .fail .truncated)], .inside, none)
      | ':' :: rest =>
        match outline fuel rest with
        | (value, none) => ([(key.text, value)], .inside, none)
        | (value, some rest) =>
          let (members, stop, rest) := outlineMembers fuel false rest
          ((key.text, value) :: members, stop, rest)
      | _ => ([(key.text, .fail .malformed)], .inside, none)

end

/-- The outline of a text, and what stands behind the value. -/
def Outline.ofText (text : String) : Outline × Option (List Char) :=
  outline (3 * text.length + 3) text.toList

/-! ### Faults -/

/-- The fault in which the inside of an array or object ends, for those who read it. -/
def Stop.fault? : Stop → Option Fault
  | .closed | .inside => none
  | .ended _ => some .truncated
  | .broken | .notKey _ => some .malformed
  | .badKey fault _ => some fault

/-- The fault in which the inside of an array or object ends, for those who skip it. -/
def Stop.skipFault? : Stop → Option Fault
  | .badKey _ fault => some fault
  | stop => stop.fault?

mutual

/-- The first fault met by skipping a value. -/
def Outline.skipFault? : Outline → Option Fault
  | .null | .bool _ | .number _ | .string _ => none
  | .array items stop => (skipItems items).or stop.skipFault?
  | .object members stop => (skipMembers members).or stop.skipFault?
  | .broken _ _ fault => some fault

/-- The first fault met by skipping the items of an array. -/
def skipItems : List Outline → Option Fault
  | [] => none
  | item :: rest => item.skipFault?.or (skipItems rest)

/-- The first fault met by skipping the members of an object. -/
def skipMembers : List (Text × Outline) → Option Fault
  | [] => none
  | (_, value) :: rest => value.skipFault?.or (skipMembers rest)

end

mutual

/-- The first fault met by reading a value whole, with `room` levels left to nest in. -/
def Outline.readFault? (room : Nat) : Outline → Option Fault
  | .null | .bool _ => none
  | .number n => if n.value?.isNone then some .malformed else none
  | .string t => t.fault
  | .array items stop =>
    match room with
    | 0 => some .malformed
    | room + 1 => (readItems room items).or stop.fault?
  | .object members stop =>
    match room with
    | 0 => some .malformed
    | room + 1 => (readMembers room members).or stop.fault?
  | .broken _ fault _ => some fault

/-- The first fault met by reading the items of an array. -/
def readItems (room : Nat) : List Outline → Option Fault
  | [] => none
  | item :: rest => (item.readFault? room).or (readItems room rest)

/-- The first fault met by reading the members of an object. -/
def readMembers (room : Nat) : List (Text × Outline) → Option Fault
  | [] => none
  | (key, value) :: rest => (key.fault.or (value.readFault? room)).or (readMembers room rest)

end

end Ripple.Json
