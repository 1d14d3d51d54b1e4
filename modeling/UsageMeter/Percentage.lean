import UsageMeter.Sample

/-!
Percentages of elapsed time. The arithmetic is taken from a `Quantity`, so the
same definition computes with doubles when the program runs and with exact
numbers in statements about it.
-/
namespace UsageMeter

/-- The arithmetic that percentages are computed in. -/
class Quantity (α : Type) extends Mul α, Div α, LT α where
  ofNat : Nat → α
  decideLt : DecidableLT α

instance Quantity.instDecidableLT (α : Type) [Quantity α] : DecidableLT α := Quantity.decideLt

instance Quantity.instFloat : Quantity Float where
  ofNat := Float.ofNat
  decideLt := inferInstance

/-- A value brought between 0 and 100. -/
def clampPercent {α : Type} [Quantity α] (x : α) : α :=
  if x < Quantity.ofNat 0 then Quantity.ofNat 0
  else if Quantity.ofNat 100 < x then Quantity.ofNat 100
  else x

/-- Used time as a percentage of the time that elapsed on so many CPUs; zero if
none did. -/
def percentage {α : Type} [Quantity α] (used elapsed cpus : Nat) : α :=
  if elapsed = 0 then Quantity.ofNat 0
  else
    clampPercent
      (Quantity.ofNat used * Quantity.ofNat 100 / Quantity.ofNat elapsed / Quantity.ofNat cpus)

/-- The number of CPUs whose time the elapsed time has to be multiplied by. The
host's counters already add up the time of every CPU. -/
def Tier.divisor (tier : Tier) (cpus : UInt32) : Nat :=
  match tier with
  | .procStat => 1
  | _ => max cpus.toNat 1

/-- The utilization over an interval in which the counters of a tier grew by
`active` and `total`. -/
def utilization {α : Type} [Quantity α] (active total : UInt64) (cpus : UInt32) (tier : Tier) : α :=
  percentage active.toNat total.toNat (tier.divisor cpus)

/-- The CPU time of a process between two readings as a percentage of one CPU.
There is none if the process is another one or its CPU time went backwards. -/
def processUtilization {α : Type} [Quantity α] (prev curr : ProcessSample) : Option α :=
  if prev.pid ≠ curr.pid ∨ curr.cpuTime < prev.cpuTime then none
  else some (percentage (curr.cpuTime - prev.cpuTime).toNat (curr.takenAt - prev.takenAt) 1)

end UsageMeter
