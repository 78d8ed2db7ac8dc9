import Ripple.Pattern.CharSet

/-!
# Patterns

Regular expressions over characters, with assertions about the place between two characters.
A pattern is asked one thing only: whether it `occursIn` a text, anywhere.

Matching follows sets of places. A text of `n` characters has the places `0` to `n`; a set of
places is a number whose bit `i` stands for place `i`. `reach` says to which places a pattern
can lead from a set of places, so it runs through the pattern once, whatever it repeats.
-/

namespace Ripple

/-- An assertion about the place between two characters. -/
inductive Assertion where
  | textStart
  | textEnd
  | lineStart
  | lineEnd
  | lineStartCrlf
  | lineEndCrlf
  | wordBoundary (unicode : Bool)
  | notWordBoundary (unicode : Bool)
  | wordStart (unicode : Bool)
  | wordEnd (unicode : Bool)
  | wordStartHalf (unicode : Bool)
  | wordEndHalf (unicode : Bool)
deriving DecidableEq, Repr

/-- A regular expression. A repetition has a least and perhaps a greatest number of rounds. -/
inductive Pattern where
  | empty
  | char (set : CharSet)
  | assertion (a : Assertion)
  | seq (p q : Pattern)
  | either (p q : Pattern)
  | repeated (p : Pattern) (least : Nat) (most : Option Nat)
deriving Repr, Inhabited

namespace Assertion

/-- Whether a neighbouring character is a word character; the edge of the text is not. -/
def isWord (unicode : Bool) : Option Char → Bool
  | none => false
  | some c => if unicode && 128 ≤ c.toNat then Unicode.word.contains c
      else c.isAlphanum || c == '_'

/-- Whether the assertion holds between two neighbours; `none` is the edge of the text. -/
def holds (before after : Option Char) : Assertion → Bool
  | .textStart => before.isNone
  | .textEnd => after.isNone
  | .lineStart => before.isNone || before == some '\n'
  | .lineEnd => after.isNone || after == some '\n'
  | .lineStartCrlf =>
    before.isNone || before == some '\n' || (before == some '\r' && after != some '\n')
  | .lineEndCrlf =>
    after.isNone || after == some '\r' || (after == some '\n' && before != some '\r')
  | .wordBoundary u => isWord u before != isWord u after
  | .notWordBoundary u => isWord u before == isWord u after
  | .wordStart u => !isWord u before && isWord u after
  | .wordEnd u => isWord u before && !isWord u after
  | .wordStartHalf u => !isWord u before
  | .wordEndHalf u => !isWord u after

end Assertion

namespace Pattern

/-- The places in front of a character of `set`. -/
def placesBefore (set : CharSet) : List Char → Nat
  | [] => 0
  | c :: text => (if set.contains c then 1 else 0) + 2 * placesBefore set text

/-- The places where an assertion holds, the first of which has `before` on its left. -/
def placesWhere (a : Assertion) (before : Option Char) : List Char → Nat
  | [] => if a.holds before none then 1 else 0
  | c :: text =>
    (if a.holds before (some c) then 1 else 0) + 2 * placesWhere a (some c) text

/-- Takes `n` rounds of `step`. -/
def rounds (step : Nat → Nat) : Nat → Nat → Nat
  | 0, places => places
  | n + 1, places => if places = 0 then 0 else rounds step n (step places)

/-- Collects the places met in at most `n` rounds of `step`. -/
def within (step : Nat → Nat) : Nat → Nat → Nat
  | 0, places => places
  | n + 1, places =>
    let more := places ||| step places
    if more = places then places else within step n more

/-- The places to which a pattern leads from a set of places of `text`. Where the number of
rounds has no bound, one round for each place is enough. -/
def reach (text : List Char) : Pattern → Nat → Nat
  | .empty, places => places
  | .char set, places => 2 * (places &&& placesBefore set text)
  | .assertion a, places => places &&& placesWhere a none text
  | .seq p q, places => reach text q (reach text p places)
  | .either p q, places => reach text p places ||| reach text q places
  | .repeated p least most, places =>
    let rest := match most with
      | some n => n - least
      | none => text.length + 1
    within (reach text p) rest (rounds (reach text p) least places)

/-- Whether the pattern matches some part of a text. -/
def occursIn (p : Pattern) (text : String) : Bool :=
  let chars := text.toList
  reach chars p (Nat.pow 2 (chars.length + 1) - 1) != 0

/-- Whether the pattern can match nothing but the empty text. -/
def isEmptyOnly : Pattern → Bool
  | .empty | .assertion _ => true
  | .char _ => false
  | .seq p q | .either p q => p.isEmptyOnly && q.isEmptyOnly
  | .repeated p _ most => p.isEmptyOnly || most == some 0

/-- A rough count of the steps a pattern spells out when its repetitions are written in full. -/
def weight : Pattern → Nat
  | .empty | .assertion _ => 1
  | .char set => 1 + set.rangeCount
  | .seq p q | .either p q => p.weight + q.weight
  | .repeated p least most => 1 + p.weight * (match most with
      | some n => n
      | none => least + 1)

end Pattern

end Ripple
