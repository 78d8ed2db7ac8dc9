/-!
# Shortest decimals

The decimal with the fewest digits that reads back as a given binary number; of several, the
one nearest to it.

A positive binary number is `m * 2 ^ q`. The numbers that round to it lie between the points
halfway to its neighbours, ends included exactly when `m` is even. A decimal is `d * 10 ^ k`.
-/

namespace Ripple.Decimal

/-- A positive binary number, `m * 2 ^ q`. `narrow` marks the least number of its binade,
whose lower neighbour is only half as far as the upper. -/
structure Binary where
  m : Nat
  q : Int
  narrow : Bool

/-- A decimal, `digits * 10 ^ exponent`. -/
structure Scaled where
  digits : Nat
  exponent : Int
deriving Repr

/-- How many times `10 ^ k` goes into a unit of `m`, as a fraction. -/
def Binary.unit (b : Binary) (k : Int) : Nat × Nat :=
  (Nat.pow 2 b.q.toNat * Nat.pow 10 (-k).toNat, Nat.pow 2 (-b.q).toNat * Nat.pow 10 k.toNat)

/-- Whether `d * 10 ^ k` rounds to the binary number. -/
def Binary.rounds (b : Binary) (k : Int) (d : Nat) : Bool :=
  let (num, den) := b.unit k
  let low := (4 * b.m - (if b.narrow then 1 else 2)) * num
  let high := (4 * b.m + 2) * num
  let point := 4 * d * den
  if b.m % 2 = 0 then low ≤ point && point ≤ high else low < point && point < high

/-- The nearest multiple of `10 ^ k` that rounds to the binary number. -/
def Binary.onGrid (b : Binary) (k : Int) : Option Nat :=
  let (num, den) := b.unit k
  let below := b.m * num / den
  let twiceRest := 2 * (b.m * num - below * den)
  let (near, far) :=
    if twiceRest < den || (twiceRest = den && below % 2 = 0) then (below, below + 1)
    else (below + 1, below)
  if b.rounds k near then some near
  else if b.rounds k far then some far
  else none

/-- Tries `n` grids, from the coarsest, `10 ^ k`, to finer ones. -/
def Binary.search (b : Binary) : Nat → Int → Option Scaled
  | 0, _ => none
  | n + 1, k =>
    match b.onGrid k with
    | some d => some ⟨d, k⟩
    | none => b.search n (k - 1)

/-- The shortest decimal of a positive number of double precision. -/
def Binary.shortest (b : Binary) : Option Scaled := b.search 640 309

/-- The binary number behind a positive finite float. -/
def Binary.ofFloat (f : Float) : Binary :=
  let bits : Nat := f.toBits.toNat % Nat.pow 2 63
  let fraction : Nat := bits % Nat.pow 2 52
  let exponent : Nat := bits / Nat.pow 2 52
  if exponent = 0 then ⟨fraction, -1074, false⟩
  else ⟨Nat.pow 2 52 + fraction, (exponent : Int) - 1075, fraction == 0 && 1 < exponent⟩

/-- How a number is laid out: with a point if the exponent of its first digit lies in the given
range, else with an exponent of at least two digits. -/
structure Layout where
  leastPositional : Int
  greatestPositional : Int

/-- The text of a positive decimal. -/
def Layout.positive (layout : Layout) (d : Scaled) : String :=
  let digits := Nat.toDigits 10 d.digits
  let lead : Int := d.exponent + digits.length - 1
  if layout.leastPositional ≤ lead && lead ≤ layout.greatestPositional then
    if lead < 0 then
      String.ofList ('0' :: '.' :: List.replicate (-lead - 1).toNat '0' ++ digits)
    else
      let whole := lead.toNat + 1
      let padded := digits ++ List.replicate (whole - digits.length) '0'
      let rest := padded.drop whole
      String.ofList (padded.take whole ++ '.' :: (if rest.isEmpty then ['0'] else rest))
  else
    let mantissa := match digits with
      | [] => []
      | [only] => [only]
      | first :: rest => first :: '.' :: rest
    let exponent := Nat.toDigits 10 lead.natAbs
    let padded := if exponent.length < 2 then '0' :: exponent else exponent
    String.ofList (mantissa ++ 'e' :: (if lead < 0 then '-' else '+') :: padded)

/-- The text of a finite float. -/
def Layout.text (layout : Layout) (f : Float) : String :=
  let negative := Nat.pow 2 63 ≤ f.toBits.toNat
  let body :=
    if f == 0 then "0.0"
    else
      match (Binary.ofFloat f).shortest with
      | some d => layout.positive d
      | none => "0.0"
  if negative then "-" ++ body else body

end Ripple.Decimal
