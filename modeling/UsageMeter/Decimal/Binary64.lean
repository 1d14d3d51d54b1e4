import UsageMeter.Bounds

/-!
The numbers a double stands for. `Binary64.ofFloat` takes a double apart into
a sign, an integer mantissa and a power of two, and `nearest` goes the other
way: it rounds a quotient of naturals to the nearest double, a tie to the even
mantissa. All arithmetic is on naturals, so both can be computed with in proofs.
-/
namespace UsageMeter.Decimal

/-- Which way an exact half goes. -/
inductive Tie where
  /-- To the even neighbour. -/
  | toEven
  /-- Away from zero. -/
  | away
deriving DecidableEq, Repr

/-- The quotient `num / den` as the nearest natural. -/
def roundDiv (tie : Tie) (num den : Nat) : Nat :=
  let down := num / den
  let twice := 2 * (num % den)
  if twice < den then down
  else if den < twice then down + 1
  else
    match tie with
    | .toEven => down + down % 2
    | .away => down + 1

/-- What the bits of a double mean. -/
inductive Binary64 where
  /-- The number `± mantissa · 2 ^ exponent`. -/
  | finite (negative : Bool) (mantissa : Nat) (exponent : Int)
  /-- An infinity. -/
  | infinite (negative : Bool)
  /-- No number. -/
  | notANumber
deriving DecidableEq, Repr

namespace Binary64

/-- The least exponent of a double, which is that of the subnormal numbers. -/
def leastExponent : Int := -1074

/-- The mantissa at which the normal numbers begin. -/
def hidden : Nat := twoTo 52

/-- Takes the bits of a double apart. -/
def ofBits (bits : UInt64) : Binary64 :=
  let n := bits.toNat
  let negative := n / twoTo 63 == 1
  let biased : Nat := n / hidden % twoTo 11
  let fraction := n % hidden
  if biased = 2047 then
    if fraction = 0 then .infinite negative else .notANumber
  else if biased = 0 then .finite negative fraction leastExponent
  else .finite negative (hidden + fraction) (leastExponent + (biased : Int) - 1)

/-- What a double means. -/
def ofFloat (x : Float) : Binary64 :=
  ofBits x.toBits

/-- The magnitude bits of the positive infinity. -/
def infinityBits : Nat := 2047 * hidden

/-- The exponent at which a positive quotient has a mantissa of 53 bits, or the
least exponent if that is greater. -/
def exponentFor (num den : Nat) : Int :=
  let guess : Int := (Nat.log2 num : Int) - (Nat.log2 den : Int) - 52
  let full := den * hidden
  let reached :=
    if 0 ≤ guess then full * twoTo guess.toNat ≤ num else full ≤ num * twoTo (-guess).toNat
  max leastExponent (if reached then guess else guess - 1)

/-- The magnitude bits of the double nearest to the quotient `num / den`. -/
def nearestBits (num den : Nat) : Nat :=
  if num = 0 then 0
  else
    let e := exponentFor num den
    let mantissa :=
      if 0 ≤ e then roundDiv .toEven num (den * twoTo e.toNat)
      else roundDiv .toEven (num * twoTo (-e).toNat) den
    min infinityBits ((e - leastExponent).toNat * hidden + mantissa)

/-- The double nearest to `± num / den`. -/
def nearest (negative : Bool) (num den : Nat) : Float :=
  Float.ofBits (UInt64.ofNat (nearestBits num den + if negative then twoTo 63 else 0))

end Binary64
end UsageMeter.Decimal
