import UsageMeter.Bounds
import UsageMeter.Tier

/-!
Readings of cumulative counters. A `CounterSample` holds the CPU counters of a
tier, a `ProcessSample` the CPU time and resident memory of one process; both
say when they were taken. Counters are 64-bit words, and `saturate` brings a
natural into their range.
-/
namespace UsageMeter

/-- The 64-bit word nearest to a natural. -/
def saturate (n : Nat) : UInt64 :=
  UInt64.ofNat (min n maxWord64)

theorem toNat_saturate (n : Nat) : (saturate n).toNat = min n maxWord64 := by
  have h : min n maxWord64 < 18446744073709551616 := by unfold maxWord64; omega
  exact UInt64.toNat_ofNat_of_lt' h

/-- A reading of the CPU counters of a tier. -/
structure CounterSample where
  tier : Tier
  /-- CPU time used so far: nanoseconds, or clock ticks for the host. -/
  active : UInt64
  /-- Time passed so far: nanoseconds, or clock ticks of all CPUs for the host. -/
  total : UInt64
  /-- Nanoseconds of CPU time granted in each period, where there is a grant. -/
  quota : Option Int
  /-- Nanoseconds in a period of the grant. -/
  period : Option UInt64
  /-- The number of CPUs at hand. -/
  cpus : UInt32
  /-- When the reading was taken, in nanoseconds of the monotonic clock. -/
  takenAt : Nat
deriving DecidableEq, Repr

/-- A reading of one process. -/
structure ProcessSample where
  pid : UInt32
  /-- The name of the command that the process runs. -/
  name : String
  /-- CPU time used so far, in nanoseconds. -/
  cpuTime : UInt64
  /-- Resident memory in bytes. -/
  memory : UInt64
  /-- When the reading was taken, in nanoseconds of the monotonic clock. -/
  takenAt : Nat
deriving DecidableEq, Repr

end UsageMeter
