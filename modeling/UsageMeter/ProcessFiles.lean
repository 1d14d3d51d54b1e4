import UsageMeter.Files
import UsageMeter.Kernel.MemoryPages
import UsageMeter.Kernel.ProcessStat
import UsageMeter.Sample

/-!
Reading a process: its CPU time and command name from the status line, its
resident memory from the memory file. Clock ticks and pages are converted to
nanoseconds and bytes, as far as 64 bits reach; the ticks of both modes are added up
before that, and their sum must have room.
-/
namespace UsageMeter
open UsageMeter.Kernel

/-- The units the kernel counts in. -/
structure KernelUnits where
  /-- Clock ticks in a second; zero counts as one. -/
  ticksPerSecond : UInt64
  /-- Bytes in a page. -/
  pageSize : UInt64
deriving DecidableEq, Repr

/-- The units of common machines. -/
def KernelUnits.common : KernelUnits := ⟨100, 4096⟩

namespace KernelUnits

/-- Clock ticks in nanoseconds. -/
def nanosOfTicks (u : KernelUnits) (ticks : UInt64) : UInt64 :=
  saturate (ticks.toNat * 1000000000 / max u.ticksPerSecond.toNat 1)

/-- Pages in bytes. -/
def bytesOfPages (u : KernelUnits) (pages : UInt64) : UInt64 :=
  saturate (pages.toNat * u.pageSize.toNat)

end KernelUnits

/-- The directory of a process. -/
def processDirectory (root : String) (pid : UInt32) : String :=
  Files.join root (toString pid.toNat)

/-- The status line of a process. -/
def processStatPath (root : String) (pid : UInt32) : String :=
  Files.join (processDirectory root pid) "stat"

/-- The memory file of a process. -/
def processMemoryPath (root : String) (pid : UInt32) : String :=
  Files.join (processDirectory root pid) "statm"

/-- What the two files of a process tell: its status and its resident pages. -/
def readProcessFiles (files : Files) (root : String) (pid : UInt32) :
    Except ReadError (ProcessStat × UInt64) := do
  let stat ← files.parse (processStatPath root pid) ProcessStat.read? ProcessStatError.message
  let pages ← files.parse (processMemoryPath root pid) residentPages MemoryPagesError.message
  .ok (stat, pages)

/-- Reads a process under a root directory. -/
def readProcess (files : Files) (root : String) (units : KernelUnits) (pid : UInt32) (now : Nat) :
    Readout ProcessSample :=
  match readProcessFiles files root pid with
  | .error e => .ok (.error e)
  | .ok (stat, pages) =>
    (addWords stat.userTicks stat.systemTicks).map fun ticks =>
      .ok
        { pid
          name := stat.command
          cpuTime := units.nanosOfTicks ticks
          memory := units.bytesOfPages pages
          takenAt := now }

end UsageMeter
