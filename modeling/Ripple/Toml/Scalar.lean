import Ripple.Toml.Document

/-!
# Numbers, truth values and dates

These items are written as one word: letters, digits, signs, points, colons and underscores.
`Item.ofWord?` says what item a word is. Underscores may stand between digits; a number other
than zero does not begin with a zero. Integers have 64 bits with a sign. A float must not be
greater than the greatest of 64 bits.
-/

namespace Ripple.Toml

/-- Whether a character may be part of a word. -/
def isWordChar (c : Char) : Bool :=
  c.isAlphanum || c = '+' || c = '-' || c = '.' || c = ':' || c = '_'

/-! ### Digits -/

/-- The digits of a group, without the underscores between them. -/
def ungroup (isDigit : Char → Bool) : List Char → Option (List Char)
  | [] => none
  | [c] => if isDigit c then some [c] else none
  | c :: '_' :: cs => if isDigit c then (ungroup isDigit cs).map (c :: ·) else none
  | c :: cs => if isDigit c then (ungroup isDigit cs).map (c :: ·) else none

/-- The value of a digit in a base up to sixteen. -/
def digitOf (c : Char) : Nat :=
  if c.isDigit then c.toNat - '0'.toNat
  else if 'a' ≤ c then c.toNat - 'a'.toNat + 10
  else c.toNat - 'A'.toNat + 10

/-- The number that digits stand for. -/
def number (base : Nat) (digits : List Char) : Nat :=
  digits.foldl (fun n c => base * n + digitOf c) 0

/-- The digits of a whole number in base ten. -/
def wholeDigits? (cs : List Char) : Option (List Char) :=
  match ungroup Char.isDigit cs with
  | some ('0' :: _ :: _) => none
  | digits => digits

/-- A sign, which may be left out, and what follows. -/
def splitSign : List Char → Bool × List Char
  | '+' :: cs => (false, cs)
  | '-' :: cs => (true, cs)
  | cs => (false, cs)

/-! ### Integers -/

/-- The greatest integer. -/
def integerMax : Nat := Nat.pow 2 63 - 1

/-- An integer, if it is in range. -/
def inRange (negative : Bool) (n : Nat) : Option Int :=
  if negative then if n ≤ integerMax + 1 then some (-(n : Int)) else none
  else if n ≤ integerMax then some n else none

/-- Whether a character is a digit in base sixteen. -/
def isHexDigit (c : Char) : Bool := c.isDigit || ('a' ≤ c && c ≤ 'f') || ('A' ≤ c && c ≤ 'F')

/-- The integer that a word is. -/
def integer? : List Char → Option Int
  | '0' :: 'x' :: cs =>
    (ungroup isHexDigit cs).bind fun digits => inRange false (number 16 digits)
  | '0' :: 'o' :: cs =>
    (ungroup (fun c => '0' ≤ c && c ≤ '7') cs).bind fun digits => inRange false (number 8 digits)
  | '0' :: 'b' :: cs =>
    (ungroup (fun c => c = '0' || c = '1') cs).bind fun digits => inRange false (number 2 digits)
  | cs =>
    let (negative, cs) := splitSign cs
    (wholeDigits? cs).bind fun digits => inRange negative (number 10 digits)

/-! ### Floats -/

/-- The least number that rounds to no float: the greatest float and half of what would follow. -/
def overflow : Nat := Nat.pow 2 1024 - Nat.pow 2 970

/-- Whether digits times a power of ten are less than `overflow`. What has far more or far fewer
digits is told by their count. -/
def fits (digits : List Char) (exponent : Int) : Bool :=
  let digits := digits.dropWhile (· = '0')
  let size : Int := digits.length + exponent
  if digits.isEmpty || size ≤ 300 then true
  else if 310 ≤ size then false
  else if 0 ≤ exponent then number 10 digits * Nat.pow 10 exponent.toNat < overflow
  else number 10 digits < overflow * Nat.pow 10 (-exponent).toNat

/-- The exponent behind its letter. -/
def exponent? (cs : List Char) : Option Int :=
  let (negative, cs) := splitSign cs
  (ungroup Char.isDigit cs).map fun digits =>
    if negative then -(number 10 digits : Int) else number 10 digits

/-- Whether a word is a float. -/
def isFloat (cs : List Char) : Bool :=
  let (negative, cs) := splitSign cs
  if cs = ['i', 'n', 'f'] || cs = ['n', 'a', 'n'] then true
  else
    let isMark (c : Char) : Bool := c = 'e' || c = 'E'
    let (front, back) := cs.span (!isMark ·)
    let whole := front.takeWhile (· ≠ '.')
    let fraction := match front.dropWhile (· ≠ '.') with
      | [] => some []
      | _ :: digits => ungroup Char.isDigit digits
    let exponent := match back with
      | [] => some 0
      | _ :: digits => exponent? digits
    match wholeDigits? whole, fraction, exponent with
    | some whole, some fraction, some exponent =>
      (!fraction.isEmpty || !back.isEmpty) &&
        (negative || fits (whole ++ fraction) (exponent - fraction.length))
    | _, _, _ => false

/-! ### Dates and times -/

/-- The value of two digits, if it lies in a range. -/
def twoDigits (low high : Nat) (a b : Char) : Bool :=
  let n := number 10 [a, b]
  a.isDigit && b.isDigit && low ≤ n && n ≤ high

/-- The number of days in a month. -/
def daysIn (year month : Nat) : Nat :=
  if month = 2 then
    if year % 4 = 0 && (year % 100 ≠ 0 || year % 400 = 0) then 29 else 28
  else if month = 4 || month = 6 || month = 9 || month = 11 then 30
  else 31

/-- Whether a word is a date of the calendar. -/
def isDate : List Char → Bool
  | [y₁, y₂, y₃, y₄, '-', m₁, m₂, '-', d₁, d₂] =>
    [y₁, y₂, y₃, y₄].all Char.isDigit && twoDigits 1 12 m₁ m₂ &&
      twoDigits 1 (daysIn (number 10 [y₁, y₂, y₃, y₄]) (number 10 [m₁, m₂])) d₁ d₂
  | _ => false

/-- Whether a word is a time of day. A minute may have a leap second. -/
def isTime : List Char → Bool
  | h₁ :: h₂ :: ':' :: m₁ :: m₂ :: ':' :: s₁ :: s₂ :: rest =>
    twoDigits 0 23 h₁ h₂ && twoDigits 0 59 m₁ m₂ && twoDigits 0 60 s₁ s₂ &&
      match rest with
      | [] => true
      | c :: digits => c = '.' && !digits.isEmpty && digits.all Char.isDigit
  | _ => false

/-- Whether a word is the distance of a clock from universal time, or says that there is none. -/
def isOffset : List Char → Bool
  | [] => true
  | [c] => c = 'Z' || c = 'z'
  | [c, h₁, h₂, ':', m₁, m₂] =>
    (c = '+' || c = '-') && twoDigits 0 23 h₁ h₂ && twoDigits 0 59 m₁ m₂
  | _ => false

/-- Whether a word is what follows a date: a time of day with or without an offset. -/
def isClock (cs : List Char) : Bool :=
  let (time, offset) := cs.span fun c => c.isDigit || c = ':' || c = '.'
  isTime time && isOffset offset

/-- Whether a word is a date, a time of day, or both. -/
def isMoment (cs : List Char) : Bool :=
  isTime cs || (isDate (cs.take 10) &&
    match cs.drop 10 with
    | [] => true
    | c :: rest => (c = 'T' || c = 't') && isClock rest)

/-- The item that a word is. -/
def Item.ofWord? (cs : List Char) : Option Item :=
  if cs = ['t', 'r', 'u', 'e'] || cs = ['f', 'a', 'l', 's', 'e'] || isFloat cs || isMoment cs then
    some .other
  else (integer? cs).map .integer

end Ripple.Toml
