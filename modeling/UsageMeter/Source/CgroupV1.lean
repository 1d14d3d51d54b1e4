import UsageMeter.Files
import UsageMeter.Kernel.CpuMax
import UsageMeter.Kernel.SingleValue
import UsageMeter.Source.Allotment

/-!
Reading the older control group trees. A controller may be mounted under
either of two directories: the first whose file can be read is taken, and a
file that can be read must be of its format. Quota and period are read from
the same directory.
-/
namespace UsageMeter.Source
open UsageMeter.Kernel

/-- The directories of the accounting controller, the preferred one first. -/
def accountingDirectories : List String := ["cpu,cpuacct", "cpuacct"]

/-- The directories of the bandwidth controller, the preferred one first. -/
def bandwidthDirectories : List String := ["cpu", "cpu,cpuacct"]

/-- The file of CPU time used, in a directory under a root. -/
def usagePath (root directory : String) : String :=
  Files.join (Files.join root directory) "cpuacct.usage"

/-- The file of the quota. -/
def quotaPath (root directory : String) : String :=
  Files.join (Files.join root directory) "cpu.cfs_quota_us"

/-- The file of the period. -/
def periodPath (root directory : String) : String :=
  Files.join (Files.join root directory) "cpu.cfs_period_us"

/-- The first file of several that can be read, with its path; if none can, the
failure of the last. -/
def firstReadable (files : Files) : String → List String → Except ReadError (String × String)
  | path, [] => (files.text path).map (path, ·)
  | path, next :: rest =>
    match files path with
    | .ok content => .ok (path, content)
    | .error _ => firstReadable files next rest

/-- Nanoseconds of CPU time used. -/
def readUsage (files : Files) (root : String) : Except ReadError UInt64 :=
  match accountingDirectories.map (usagePath root) with
  | [] => .error (.malformed root "no cpuacct controller directory")
  | path :: rest => do
    let (path, content) ← firstReadable files path rest
    match singleWord content with
    | .ok n => .ok n
    | .error e => .error (.malformed path e.message)

/-- The grant in the first of several directories whose quota can be read. A
negative quota is no limit. -/
def readBandwidth (files : Files) (root : String) : List String → Except ReadError Bandwidth
  | [] => .ok Bandwidth.unlimited
  | directory :: rest =>
    match files (quotaPath root directory) with
    | .error _ => readBandwidth files root rest
    | .ok content =>
      match singleInt content with
      | .error e => .error (.malformed (quotaPath root directory) e.message)
      | .ok quota => do
        let period ←
          files.parseIfReadable (periodPath root directory) singleWord SingleValueError.message
        .ok ⟨if quota < 0 then none else some quota, period⟩

/-- Reads the counters of the older trees under a root directory. -/
def readCgroupV1 (files : Files) (root : String) (hostCpus : UInt32) (now : UInt64) :
    Except ReadError CounterSample := do
  let usage ← readUsage files root
  let limit ← readBandwidth files root bandwidthDirectories
  .ok (groupSample .cgroupV1 usage now limit.quota limit.period hostCpus)

end UsageMeter.Source
