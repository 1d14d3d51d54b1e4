import UsageMeter.Files
import UsageMeter.Kernel.CpuMax
import UsageMeter.Kernel.CpuStat
import UsageMeter.Source.Allotment

/-!
Reading the unified control group tree. The statistics file must be there; a
bandwidth file that cannot be read means that there is no limit.
-/
namespace UsageMeter.Source
open UsageMeter.Kernel

/-- Reads the counters of the unified tree under a root directory. -/
def readCgroupV2 (files : Files) (root : String) (hostCpus : UInt32) (now : UInt64) :
    Except ReadError CounterSample := do
  let usage ← files.parse (Files.join root "cpu.stat") cpuStatUsage CpuStatError.message
  let limit ← files.parseIfReadable (Files.join root "cpu.max") cpuMax CpuMaxError.message
  let limit := limit.getD Bandwidth.unlimited
  .ok (groupSample .cgroupV2 (nanos usage) now limit.quota limit.period hostCpus)

end UsageMeter.Source
