import UsageMeter.Snapshot

/-!
The exported gauges. `Snapshot.readings` turns a snapshot into gauge readings:
whether it can be trusted is always told, and the other gauges only once
counters have been read.
-/
namespace UsageMeter
open UsageMeter.Time

/-- The gauges. -/
inductive Gauge where
  | containerCpu
  | processCpu
  | processMemory
  | degraded
  | age
deriving DecidableEq, Repr

namespace Gauge

/-- Every gauge, in the order of their definition. -/
def all : List Gauge := [.containerCpu, .processCpu, .processMemory, .degraded, .age]

/-- The name of a gauge. -/
def name : Gauge → String
  | .containerCpu => "container_cpu_usage"
  | .processCpu => "process_cpu_usage"
  | .processMemory => "process_memory_usage"
  | .degraded => "usage_snapshot_degraded"
  | .age => "usage_snapshot_age_seconds"

/-- What a gauge measures. -/
def help : Gauge → String
  | .containerCpu => "CPU utilization of the container (or host when scope=system), 0-100"
  | .processCpu => "CPU utilization of the monitored process as a share of one core, 0-100"
  | .processMemory => "Resident memory of the monitored process in bytes"
  | .degraded =>
    "1 when the published figures come from a fallback, a discarded interval or are stale"
  | .age => "Seconds since the snapshot was last refreshed"

/-- The keys of the labels that every reading of a gauge has. -/
def labelKeys : Gauge → List String
  | .containerCpu => ["service.name", "metric.type", "scope"]
  | .processCpu => ["service.name", "process.pid", "process.name", "metric.type"]
  | .processMemory => ["service.name", "process.pid", "process.name", "metric.type"]
  | .degraded => ["service.name"]
  | .age => ["service.name"]

end Gauge

/-- A value of a gauge. -/
structure GaugeReading where
  gauge : Gauge
  value : Float
  /-- Labels by their keys. -/
  labels : List (String × String)

/-- The value of a label. -/
def GaugeReading.label? (r : GaugeReading) (key : String) : Option String :=
  (r.labels.find? fun l => l.1 == key).map Prod.snd

namespace Snapshot

/-- Whether the snapshot can be trusted. -/
def degradedReading (service : String) (degraded : Bool) : GaugeReading :=
  { gauge := .degraded
    value := Float.ofNat (if degraded then 1 else 0)
    labels := [("service.name", service)] }

/-- How old the snapshot is. -/
def ageReading (service : String) (age : Span) : GaugeReading :=
  { gauge := .age, value := age.toFloat, labels := [("service.name", service)] }

/-- The CPU usage of the container or the host. -/
def cpuReading (s : Snapshot) (service : String) : GaugeReading :=
  { gauge := .containerCpu
    value := s.cpuPercent
    labels := [("service.name", service), ("metric.type", "container_cpu"),
      ("scope", s.scope.name)] }

/-- The labels of a gauge of the process. -/
def processLabels (s : Snapshot) (service metricType : String) : List (String × String) :=
  [("service.name", service), ("process.pid", toString s.pid.toNat),
    ("process.name", s.processName), ("metric.type", metricType)]

/-- The gauges of the process. -/
def processReadings (s : Snapshot) (service : String) : List GaugeReading :=
  [{ gauge := .processCpu
     value := s.processCpuPercent
     labels := s.processLabels service "process_cpu" },
   { gauge := .processMemory
     value := Float.ofNat s.processMemory.toNat
     labels := s.processLabels service "process_memory" }]

/-- The readings of every gauge that the snapshot has a value for. -/
def readings (s : Snapshot) (service : String) (now : Timestamp) (interval : Span) :
    Except SpanOverflow (List GaugeReading) :=
  (s.isStale now interval).map fun stale =>
    degradedReading service (s.degraded || stale) ::
      match s.age now with
      | none => []
      | some age =>
        ageReading service age ::
          ((if s.tier.isSome then [s.cpuReading service] else []) ++ s.processReadings service)

end Snapshot
end UsageMeter
