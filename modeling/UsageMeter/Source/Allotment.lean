import UsageMeter.Sample

/-!
How many CPUs a grant of CPU time is worth: the quota divided by the period,
but at least one. Without a grant all CPUs of the host count.
-/
namespace UsageMeter.Source

/-- The CPUs that a quota in each period is worth. -/
def onlineCpus (quota : Option Int) (period : Option UInt64) (hostCpus : UInt32) : UInt32 :=
  match quota, period with
  | some q, some p =>
    if 0 < q ∧ 0 < p.toNat then UInt32.ofNat (max 1 (min maxWord32 (q.toNat / p.toNat)))
    else max hostCpus 1
  | _, _ => max hostCpus 1

/-- Nanoseconds in a microsecond. -/
def nanosPerMicro : Nat := 1000

/-- Microseconds of a quota in nanoseconds, kept within 64 bits. -/
def quotaNanos (q : Int) : Int :=
  max (-(maxInt64 : Int) - 1) (min maxInt64 (q * nanosPerMicro))

/-- Microseconds in nanoseconds, kept within 64 bits. -/
def nanos (micros : UInt64) : UInt64 :=
  saturate (micros.toNat * nanosPerMicro)

/-- A reading of a control group: CPU nanoseconds used at a time of the
monotonic clock, under a grant in microseconds. -/
def groupSample (tier : Tier) (used now : UInt64) (quota : Option Int) (period : Option UInt64)
    (hostCpus : UInt32) : CounterSample :=
  { tier
    active := used
    total := now
    quota := quota.map quotaNanos
    period := period.map nanos
    cpus := onlineCpus (quota.map quotaNanos) (period.map nanos) hostCpus
    takenAt := now.toNat }

end UsageMeter.Source
