import UsageMeter.Exposition

/-!
Where metrics are gathered from. A `Registry` has room for one collector of the
gauges, since two would tell the same metrics; gathering asks the collector for
its readings of the latest snapshot.
-/
namespace UsageMeter
open UsageMeter.Time

/-- What tells the gauges of a snapshot. -/
structure Collector where
  /-- The service the gauges are labelled with. -/
  service : String
  /-- The refresh interval that staleness is judged by. -/
  interval : Span
deriving DecidableEq, Repr

/-- Why a collector was not registered. -/
inductive RegistryError where
  | duplicate
deriving DecidableEq, Repr

/-- The wording of a registry error. -/
def RegistryError.message : RegistryError → String
  | .duplicate => "Duplicate metrics collector registration attempted"

/-- The collector that is gathered from, if one is registered. -/
structure Registry where
  collector : Option Collector
deriving DecidableEq, Repr

namespace Registry

/-- A registry without a collector. -/
def empty : Registry := ⟨none⟩

/-- Registers a collector where there is none. -/
def register (r : Registry) (c : Collector) : Except RegistryError Registry :=
  match r.collector with
  | none => .ok ⟨some c⟩
  | some _ => .error .duplicate

/-- The gauge readings of the registered collector. -/
def gather (r : Registry) (s : Snapshot) (now : Timestamp) :
    Except SpanOverflow (List GaugeReading) :=
  match r.collector with
  | none => .ok []
  | some c => s.readings c.service now c.interval

end Registry
end UsageMeter
