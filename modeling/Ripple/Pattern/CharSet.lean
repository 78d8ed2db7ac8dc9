import Ripple.Unicode.Folding
import Ripple.Unicode.Property

/-!
# Sets of characters

What one position of a pattern may match, built from ranges by the set operations that
bracketed classes offer.
-/

namespace Ripple

/-- A set of characters. -/
inductive CharSet where
  | ranges (ranges : Unicode.Ranges)
  | union (a b : CharSet)
  | inter (a b : CharSet)
  | diff (a b : CharSet)
  | compl (a : CharSet)
deriving Repr, Inhabited

namespace CharSet

/-- Membership of a code point. -/
def holds : CharSet → Nat → Bool
  | .ranges rs, n => rs.any fun (low, high) => low ≤ n && n ≤ high
  | .union a b, n => a.holds n || b.holds n
  | .inter a b, n => a.holds n && b.holds n
  | .diff a b, n => a.holds n && !b.holds n
  | .compl a, n => !a.holds n

/-- Membership of a character. -/
def contains (s : CharSet) (c : Char) : Bool := s.holds c.toNat

def empty : CharSet := .ranges []

/-- The set of one code point. -/
def single (n : Nat) : CharSet := .ranges [(n, n)]

/-- What is in exactly one of two sets. -/
def symmDiff (a b : CharSet) : CharSet := .union (.diff a b) (.diff b a)

/-- The set itself or its complement. -/
def negateIf (negated : Bool) (s : CharSet) : CharSet := if negated then .compl s else s

/-- Adds every character that differs in case only from one of the set. -/
def fold (s : CharSet) : CharSet :=
  .union s (.ranges
    ((Unicode.foldingGroups.filter (·.any s.holds)).flatten.map fun n => (n, n)))

/-- Adds the other case of every ASCII letter of the set. -/
def foldAscii (s : CharSet) : CharSet :=
  let upper := (List.range 26).map (· + 'A'.toNat)
  .union s (.ranges
    ((upper.filter fun n => s.holds n || s.holds (n + 32)).flatMap fun n =>
      [(n, n), (n + 32, n + 32)]))

/-- Whether no code point from 128 to 255 is in the set. -/
def sparesHighBytes (s : CharSet) : Bool :=
  (List.range 128).all fun n => !s.holds (n + 128)

/-- The number of ranges the set is built from. -/
def rangeCount : CharSet → Nat
  | .ranges rs => rs.length
  | .union a b | .inter a b | .diff a b => a.rangeCount + b.rangeCount
  | .compl a => a.rangeCount + 1

end CharSet

end Ripple
