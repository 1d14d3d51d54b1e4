import UsageMeter.ReadError

/-!
What the program reports while it runs. An `Event` is one thing that happened;
its level, its words and its fields are what a log line is made of.
-/
namespace UsageMeter

/-- How grave an event is. -/
inductive Level where
  | debug
  | info
  | warn
deriving DecidableEq, Repr

/-- The name of a level. -/
def Level.name : Level → String
  | .debug => "DEBUG"
  | .info => "INFO"
  | .warn => "WARN"

/-- The value of a field of an event. -/
inductive FieldValue where
  | text (s : String)
  | number (n : Nat)
  | percent (x : Float)
  | flag (b : Bool)
  /-- Several texts, shown as a quoted list. -/
  | texts (ss : List String)

/-- What a reading was made of. -/
inductive Component where
  | counterSource
  | processProbe
deriving DecidableEq, Repr

/-- The name of a component. -/
def Component.name : Component → String
  | .counterSource => "counter_source"
  | .processProbe => "process_probe"

/-- The figures of a published snapshot. -/
structure PublishedFigures where
  cpuPercent : Float
  processCpuPercent : Float
  processMemory : UInt64
  scope : Scope
  degraded : Bool

/-- Something that happened. -/
inductive Event where
  /-- The first tier answered. -/
  | tierSelected (tier : Tier)
  /-- A later tier of the container answered. -/
  | tierFallback (tier : Tier) (skipped : List String)
  /-- Only the host's counters answered. -/
  | hostFallback (skipped : List String)
  /-- No tier answered. -/
  | tiersExhausted (attempts : List String)
  /-- Two readings do not bound an interval. -/
  | intervalDiscarded (prev curr : Tier)
  /-- A counter of a tier went backwards. -/
  | counterReset (service : String) (tier : Tier)
  /-- A reading failed. -/
  | readFailed (service component error : String)
  /-- A snapshot was published. -/
  | published (service : String) (figures : PublishedFigures)
  /-- The program started. -/
  | started (service version : String) (pid : UInt32) (intervalSeconds : Float)
  /-- The program is about to end. -/
  | stopping (service reason : String)
  /-- Periodic refreshing began. -/
  | refreshingStarted (intervalSeconds : Float) (pid : UInt32)
  /-- Periodic refreshing ends. -/
  | refreshingStopped

namespace Event

/-- The event of a tier that answered after others had failed. -/
def ofSelection (tier : Tier) (skipped : List String) : Event :=
  match tier, skipped with
  | .procStat, _ => .hostFallback skipped
  | tier, [] => .tierSelected tier
  | tier, _ => .tierFallback tier skipped

/-- How grave an event is. -/
def level : Event → Level
  | .tierSelected .. => .info
  | .tierFallback .. => .warn
  | .hostFallback .. => .warn
  | .tiersExhausted .. => .warn
  | .intervalDiscarded .. => .debug
  | .counterReset .. => .warn
  | .readFailed .. => .warn
  | .published .. => .debug
  | .started .. => .info
  | .stopping .. => .info
  | .refreshingStarted .. => .info
  | .refreshingStopped => .info

/-- The words of an event. -/
def message : Event → String
  | .tierSelected .. => "Selected counter source"
  | .tierFallback .. => "Selected fallback counter source"
  | .hostFallback .. => "No cgroup CPU accounting available, reporting system-wide usage"
  | .tiersExhausted .. => "All counter sources failed"
  | .intervalDiscarded .. => "Discarding interval after counter discontinuity"
  | .counterReset .. => "Counter went backwards, keeping previous percentage"
  | .readFailed .. => "Refresh read failed"
  | .published .. => "Published metrics snapshot"
  | .started .. => "Usage engine started"
  | .stopping .. => "Usage engine shutting down"
  | .refreshingStarted .. => "Starting usage refresh loop"
  | .refreshingStopped => "Shutting down usage refresh loop"

/-- The fields of an event, each with its name. -/
def fields : Event → List (String × FieldValue)
  | .tierSelected tier => [("source", .text tier.name)]
  | .tierFallback tier skipped => [("source", .text tier.name), ("skipped", .texts skipped)]
  | .hostFallback skipped => [("source", .text Tier.procStat.name), ("skipped", .texts skipped)]
  | .tiersExhausted attempts => [("attempts", .texts attempts)]
  | .intervalDiscarded prev curr =>
    [("prev_source", .text prev.name), ("curr_source", .text curr.name)]
  | .counterReset service tier =>
    [("event", .text "counter_reset"), ("service", .text service), ("source", .text tier.name)]
  | .readFailed service component error =>
    [("event", .text "refresh_read_failed"), ("service", .text service),
      ("component", .text component), ("error", .text error)]
  | .published service figures =>
    [("event", .text "snapshot_published"), ("service", .text service),
      ("container_cpu_pct", .percent figures.cpuPercent),
      ("process_cpu_pct", .percent figures.processCpuPercent),
      ("process_memory_bytes", .number figures.processMemory.toNat),
      ("scope", .text figures.scope.name), ("degraded", .flag figures.degraded)]
  | .started service version pid intervalSeconds =>
    [("event", .text "usage_engine_started"), ("service", .text service),
      ("version", .text version), ("pid", .number pid.toNat),
      ("interval_secs", .percent intervalSeconds)]
  | .stopping service reason =>
    [("event", .text "usage_engine_shutdown"), ("service", .text service),
      ("reason", .text reason)]
  | .refreshingStarted intervalSeconds pid =>
    [("interval_secs", .percent intervalSeconds), ("pid", .number pid.toNat)]
  | .refreshingStopped => []

end Event
end UsageMeter
