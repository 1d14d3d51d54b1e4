import UsageMeter.Files
import UsageMeter.Kernel.CpuTicks
import UsageMeter.Sample

/-!
Reading the counters of the host. They know of no grant, so all CPUs count.
-/
namespace UsageMeter.Source
open UsageMeter.Kernel

/-- A reading of the host: clock ticks worked and passed. -/
def hostSample (active total : UInt64) (hostCpus : UInt32) (now : UInt64) : CounterSample :=
  { tier := .procStat
    active
    total
    quota := none
    period := none
    cpus := max hostCpus 1
    takenAt := now.toNat }

/-- Reads the counters of the host under a root directory. -/
def readProcStat (files : Files) (root : String) (hostCpus : UInt32) (now : UInt64) :
    Readout CounterSample :=
  match files.parse (Files.join root "stat") CpuTicks.read? CpuTicksError.message with
  | .error e => .ok (.error e)
  | .ok ticks =>
    ticks.active.bind fun active =>
      ticks.total.map fun total => .ok (hostSample active total hostCpus now)

end UsageMeter.Source
