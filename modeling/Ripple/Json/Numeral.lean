import Ripple.Decimal.Shortest

/-!
# JSON numbers

A number is read in three parts: whole digits, digits after the point, and an exponent. Whole
numbers that fit 64 bits are exact. Any other number is a float: its leading digits, as many as
fit 64 bits, are scaled by a power of ten in one floating-point operation.
-/

namespace Ripple.Json

/-- A number as it is written. Digits are values from 0 to 9; the exponent has a sign. -/
structure Numeral where
  negative : Bool
  whole : List Nat
  fraction : Option (List Nat)
  exponent : Option (Bool × List Nat)
deriving DecidableEq, Repr, Inhabited

/-- The value of a number. -/
inductive Number where
  | natural (n : Nat)
  | negative (n : Nat)
  | float (value : Float)

namespace Numeral

/-- The greatest number of 64 bits. -/
def wordMax : Nat := Nat.pow 2 64 - 1

/-- Takes digits into `n` for as long as the result fits 64 bits; gives it and the digits that
are left. -/
def take (n : Nat) : List Nat → Nat × List Nat
  | [] => (n, [])
  | d :: ds => if 10 * n + d ≤ wordMax then take (10 * n + d) ds else (n, d :: ds)

/-- Scales a float by a power of ten; `none` if the result is too large. -/
def scale (f : Float) (exponent : Int) : Option Float :=
  let rec down : Nat → Float → Int → Option Float
    | 0, f, _ => some f
    | n + 1, f, e =>
      if 0 ≤ e then
        if e ≤ 308 then
          let scaled : Float := f * Float.ofScientific 1 false e.toNat
          if scaled.isInf then none else some scaled
        else if f == 0 then some f
        else none
      else if -308 ≤ e then some (f / Float.ofScientific 1 false (-e).toNat)
      else if f == 0 then some f
      else down n (f / Float.ofScientific 1 false 308) (e + (308 : Int))
  down (exponent.natAbs / 308 + 2) f exponent

/-- What exponents must stay below. -/
def exponentLimit : Nat := Nat.pow 2 31

/-- The exponent as it is written; `none` when it does not fit 31 bits. -/
def writtenExponent : Option (Bool × List Nat) → Option Int
  | none => some 0
  | some (negative, digits) =>
    let n : Nat := digits.foldl (fun n d => min (10 * n + d) exponentLimit) 0
    if exponentLimit ≤ n then none else some (if negative then -(n : Int) else n)

/-- The float a number reads as; `none` if it is too large. -/
def float? (n : Numeral) : Option Float :=
  let (wholePart, dropped) := take 0 n.whole
  let (significand, spare) := take wholePart (n.fraction.getD [])
  let used : Nat := (n.fraction.getD []).length - spare.length
  let shift : Int := (dropped.length : Int) - (used : Int)
  let size : Option Float :=
    match n.exponent, writtenExponent n.exponent with
    | some (negative, _), none =>
      if significand != 0 && !negative then none else some 0
    | _, e => scale significand.toUInt64.toFloat (shift + e.getD 0)
  size.map fun f => if n.negative then -f else f

/-- The value of a number; `none` if it is too large. A whole number is exact if it fits 64 bits,
with its sign if it is negative; negative zero is a float. -/
def value? (n : Numeral) : Option Number :=
  let size := n.whole.foldl (fun m d => 10 * m + d) 0
  if n.fraction.isNone && n.exponent.isNone then
    if !n.negative && size ≤ wordMax then some (.natural size)
    else if n.negative && 0 < size && size ≤ Nat.pow 2 63 then some (.negative size)
    else n.float?.map .float
  else n.float?.map .float

end Numeral

/-- Floats are shown with a point from `0.00001` up to sixteen whole digits. -/
def floatLayout : Decimal.Layout := ⟨-5, 15⟩

end Ripple.Json
