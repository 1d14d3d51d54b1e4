import UsageMeter.Percentage
import UsageMeter.Event

/-!
Figures of CPU usage. Two readings of one tier bound an interval if no counter
went backwards between them; an interval gives a `Figure`. A `Meter` remembers
the figure it gave last and gives it again, marked as degraded, for readings
that bound no interval.
-/
namespace UsageMeter

/-- A percentage and what it is based on. -/
structure Figure where
  percent : Float
  /-- The tier it was measured under. -/
  basis : Tier
  /-- When the interval ended, in nanoseconds of the monotonic clock. -/
  computedAt : Nat
  /-- Whether it is not a fresh figure of the container. -/
  degraded : Bool

namespace CounterSample

/-- A counter of the same tier went backwards. -/
def resets (prev curr : CounterSample) : Bool :=
  curr.tier == prev.tier && (curr.active < prev.active || curr.total < prev.total)

/-- The two readings bound an interval. -/
def bounds (prev curr : CounterSample) : Bool :=
  curr.tier == prev.tier && !resets prev curr

/-- The error of a counter that went backwards, if one did. -/
def continuity (prev curr : CounterSample) : Except ReadError Unit :=
  if resets prev curr then .error (.counterReset curr.tier) else .ok ()

end CounterSample

/-- The figure of an interval. -/
def Figure.ofInterval (prev curr : CounterSample) : Figure :=
  { percent :=
      utilization (curr.active - prev.active) (curr.total - prev.total) curr.cpus curr.tier
    basis := curr.tier
    computedAt := curr.takenAt
    degraded := !curr.tier.isContainer }

/-- The figure before any interval: nothing used, by the tier of a reading. -/
def Figure.unmeasured (curr : CounterSample) : Figure :=
  { percent := Quantity.ofNat 0, basis := curr.tier, computedAt := curr.takenAt, degraded := true }

/-- The memory of figures: the one given last. -/
structure Meter where
  last : Option Figure

namespace Meter

/-- A meter that has given no figure. -/
def new : Meter := ⟨none⟩

/-- The figure for two readings. -/
def figure (m : Meter) (prev curr : CounterSample) : Figure :=
  if CounterSample.bounds prev curr then Figure.ofInterval prev curr
  else
    match m.last with
    | some last => { last with degraded := true }
    | none => Figure.unmeasured curr

/-- What measuring two readings reports. -/
def events (prev curr : CounterSample) : List Event :=
  if CounterSample.bounds prev curr then [] else [.intervalDiscarded prev.tier curr.tier]

/-- The figure for two readings, and the meter that remembers it. -/
def measure (m : Meter) (prev curr : CounterSample) : Figure × Meter :=
  (m.figure prev curr, ⟨some (m.figure prev curr)⟩)

@[simp] theorem measure_fst (m : Meter) (prev curr : CounterSample) :
    (m.measure prev curr).1 = m.figure prev curr := rfl

@[simp] theorem last_measure (m : Meter) (prev curr : CounterSample) :
    (m.measure prev curr).2.last = some (m.figure prev curr) := rfl

end Meter
end UsageMeter
