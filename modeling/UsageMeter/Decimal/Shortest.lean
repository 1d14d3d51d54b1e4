import UsageMeter.Decimal.Binary64

/-!
The shortest decimal that reads back as a given double. A double stands for
every real that rounds to it; `Interval` is that set. On the grid of the
multiples of a power of ten, only the two neighbours of the double matter:
if any grid point is in the interval, one of them is. The digits are taken
from the coarsest grid with a neighbour in the interval, and of two such
neighbours the nearer is taken.
-/
namespace UsageMeter.Decimal

/-- The number `coefficient · 10 ^ exponent`. -/
structure Digits where
  coefficient : Nat
  exponent : Int
deriving DecidableEq, Repr

/-- The reals that round to a double, as numerators over one denominator. -/
structure Interval where
  low : Nat
  value : Nat
  high : Nat
  denominator : Nat
  /-- Whether the ends belong to the interval. -/
  closed : Bool
deriving Repr

namespace Interval

/-- The reals that round to `mantissa · 2 ^ exponent`. The gap below the least
mantissa of a binade is half as wide as the gap above it. -/
def of (mantissa : Nat) (exponent : Int) : Interval :=
  let below :=
    if mantissa = Binary64.hidden ∧ Binary64.leastExponent < exponent then 1 else 2
  let up := twoTo (exponent - 2).toNat
  { low := (4 * mantissa - below) * up
    value := 4 * mantissa * up
    high := (4 * mantissa + 2) * up
    denominator := twoTo (2 - exponent).toNat
    closed := mantissa % 2 == 0 }

/-- Whether the numerator `n` over the denominator times `scale` is inside. -/
def contains (i : Interval) (scale n : Nat) : Bool :=
  if i.closed then i.low * scale ≤ n && n ≤ i.high * scale
  else i.low * scale < n && n < i.high * scale

/-- The neighbour on the grid of `10 ^ g` that is in the interval, and the
nearer of two. -/
def onGrid (i : Interval) (tie : Tie) (g : Int) : Option Nat :=
  let unit := i.denominator * tenTo g.toNat
  let scale := tenTo (-g).toNat
  let value := i.value * scale
  let down := value / unit
  match i.contains scale (down * unit), i.contains scale ((down + 1) * unit) with
  | true, true => some (roundDiv tie value unit)
  | true, false => some down
  | false, true => some (down + 1)
  | false, false => none

/-- The first of `n` grids, each ten times as fine as the one before, that has
a point in the interval. -/
def firstGrid (i : Interval) (tie : Tie) : Nat → Int → Option Digits
  | 0, _ => none
  | n + 1, g =>
    match i.onGrid tie g with
    | some c => some ⟨c, g⟩
    | none => firstGrid i tie n (g - 1)

end Interval

/-- How many decimal places a fraction below one begins with before its first
digit, searched among `n` places. -/
def leadingPlaces (num den : Nat) : Nat → Nat
  | 0 => 0
  | n + 1 => if den ≤ num * 10 then 0 else leadingPlaces (num * 10) den n + 1

/-- The exponent `p` with `10 ^ (p - 1) ≤ num / den < 10 ^ p`. -/
def magnitude (num den : Nat) : Int :=
  if den ≤ num then ((Nat.toDigits 10 (num / den)).length : Int)
  else -(leadingPlaces num den 400 : Int)

/-- Drops the zeros at the end of a coefficient. -/
def Digits.strip (d : Digits) : Digits :=
  go 20 d
where
  go : Nat → Digits → Digits
    | 0, d => d
    | n + 1, d =>
      if d.coefficient ≠ 0 ∧ d.coefficient % 10 = 0 then
        go n ⟨d.coefficient / 10, d.exponent + 1⟩
      else d

/-- The shortest digits that read back as the positive double
`mantissa · 2 ^ exponent`; seventeen always suffice. -/
def shortest (tie : Tie) (mantissa : Nat) (exponent : Int) : Digits :=
  let i := Interval.of mantissa exponent
  let p := magnitude i.value i.denominator
  match i.firstGrid tie 17 (p - 1) with
  | some d => d.strip
  | none => ⟨0, 0⟩

end UsageMeter.Decimal
