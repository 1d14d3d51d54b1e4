import UsageMeter.Sample
import UsageMeter.Event
import UsageMeter.Time.Timestamp

/-!
The published state of the meter. A `Snapshot` holds the newest figures and
says how far they can be trusted: which tier the container's figure was
measured under, when the counters were read last, and whether some figure is
not fresh. A snapshot is stale when it is older than two refresh intervals.
-/
namespace UsageMeter
open UsageMeter.Time

/-- The newest figures. -/
structure Snapshot where
  /-- CPU usage of the container or the host, from 0 to 100. -/
  cpuPercent : Float
  /-- CPU usage of the process as a share of one CPU, from 0 to 100. -/
  processCpuPercent : Float
  /-- Resident memory of the process in bytes. -/
  processMemory : UInt64
  pid : UInt32
  /-- The command name of the process, empty until it has been read. -/
  processName : String
  cpus : UInt32
  /-- When counters were last read. -/
  updatedAt : Option Timestamp
  /-- Whether some figure is not fresh, or not the container's. -/
  degraded : Bool
  /-- The tier that the container's figure was measured under. -/
  tier : Option Tier

namespace Snapshot

/-- The snapshot before any reading. -/
def initial (pid cpus : UInt32) : Snapshot :=
  { cpuPercent := Float.ofNat 0
    processCpuPercent := Float.ofNat 0
    processMemory := 0
    pid := pid
    processName := ""
    cpus := cpus
    updatedAt := none
    degraded := true
    tier := none }

/-- What the container's figure is about. -/
def scope (s : Snapshot) : Scope :=
  match s.tier with
  | some t => t.scope
  | none => .container

/-- The time since counters were last read; a time in the future counts as now. -/
def age (s : Snapshot) (now : Timestamp) : Option Span :=
  s.updatedAt.map now.since

/-- Whether the snapshot is older than two intervals, or counters were never read. -/
def isStale (s : Snapshot) (now : Timestamp) (interval : Span) : Except SpanOverflow Bool :=
  match s.age now with
  | none => .ok true
  | some age => interval.twice.map fun limit => decide (limit.nanos < age.nanos)

/-- The figures for the event of its publication. -/
def figures (s : Snapshot) : PublishedFigures :=
  { cpuPercent := s.cpuPercent
    processCpuPercent := s.processCpuPercent
    processMemory := s.processMemory
    scope := s.scope
    degraded := s.degraded }

end Snapshot
end UsageMeter
