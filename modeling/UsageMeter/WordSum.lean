import UsageMeter.Bounds

/-!
Sums of 64-bit words. A sum that has no room in 64 bits is not formed; whatever was
being done breaks off there.
-/
namespace UsageMeter

/-- A sum of words has no room. -/
inductive SumOverflow where
  | mk
deriving DecidableEq, Repr

/-- The wording of an overflow. -/
def SumOverflow.message (_ : SumOverflow) : String :=
  "attempt to add with overflow"

/-- The sum of two words, if it has room. -/
def addWords (a b : UInt64) : Except SumOverflow UInt64 :=
  if a.toNat + b.toNat ≤ maxWord64 then .ok (a + b) else .error .mk

/-- Words added onto another one after the other. -/
def addAll : UInt64 → List UInt64 → Except SumOverflow UInt64
  | a, [] => .ok a
  | a, w :: ws =>
    match addWords a w with
    | .ok sum => addAll sum ws
    | .error o => .error o

end UsageMeter
