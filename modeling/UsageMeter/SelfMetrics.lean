import UsageMeter.Tier
import UsageMeter.Event

/-!
What the meter counts about itself: failed reads, intervals lost to a counter
that went backwards, the tier in use, and how long refreshes take.
-/
namespace UsageMeter

/-- A count of durations by upper bounds. -/
structure Histogram where
  /-- Each bound in seconds with the number of durations up to it. -/
  buckets : List (Float × Nat)
  sum : Float
  count : Nat

namespace Histogram

/-- A histogram of nothing. -/
def empty (bounds : List Float) : Histogram :=
  ⟨bounds.map (·, 0), Float.ofNat 0, 0⟩

/-- Adds a duration in seconds. -/
def observe (h : Histogram) (seconds : Float) : Histogram :=
  { buckets := h.buckets.map fun (bound, n) => (bound, if seconds ≤ bound then n + 1 else n)
    sum := h.sum + seconds
    count := h.count + 1 }

end Histogram

/-- The bounds that refresh durations are counted by, in seconds. -/
def latencyBounds : List Float :=
  [0.0001, 0.0005, 0.001, 0.0025, 0.005, 0.01, 0.025, 0.05, 0.1, 0.25, 0.5, 1.0]

/-- The meter's account of itself. A metric with a label has one count or gauge for
each value of the label, which is not there before it is first written. -/
structure SelfMetrics where
  /-- Failed reads of each component. -/
  errors : Component → Option Nat
  /-- Intervals over which a counter went backwards. -/
  resets : Nat
  /-- The gauge of each tier. -/
  tiers : Tier → Option Nat
  latency : Histogram

namespace SelfMetrics

/-- Nothing counted yet. -/
def new : SelfMetrics :=
  ⟨fun _ => none, 0, fun _ => none, Histogram.empty latencyBounds⟩

/-- How often a component could not be read. -/
def errorCount (m : SelfMetrics) (c : Component) : Nat :=
  (m.errors c).getD 0

/-- Counts a component that could not be read. -/
def countError (m : SelfMetrics) (c : Component) : SelfMetrics :=
  { m with errors := fun d => if d = c then some (m.errorCount c + 1) else m.errors d }

/-- Counts a counter that went backwards. -/
def countReset (m : SelfMetrics) : SelfMetrics :=
  { m with resets := m.resets + 1 }

/-- Writes the gauge of a tier. -/
def setTier (m : SelfMetrics) (t : Tier) (value : Nat) : SelfMetrics :=
  { m with tiers := fun u => if u = t then some value else m.tiers u }

/-- Writes the gauges of all tiers one by one: 1 for the tier in use and 0 for the others. -/
def useTier (m : SelfMetrics) (used : Option Tier) : SelfMetrics :=
  Tier.all.foldl (fun m t => m.setTier t (if used = some t then 1 else 0)) m

@[simp] theorem errors_useTier (m : SelfMetrics) (used : Option Tier) :
    (m.useTier used).errors = m.errors := rfl

@[simp] theorem resets_useTier (m : SelfMetrics) (used : Option Tier) :
    (m.useTier used).resets = m.resets := rfl

/-- Once a tier was used or none could be, every tier has a gauge. -/
theorem tiers_useTier (m : SelfMetrics) (used : Option Tier) (t : Tier) :
    (m.useTier used).tiers t = some (if used = some t then 1 else 0) := by
  cases t <;> rfl

/-- Counts a refresh that took some seconds. -/
def observeRefresh (m : SelfMetrics) (seconds : Float) : SelfMetrics :=
  { m with latency := m.latency.observe seconds }

end SelfMetrics
end UsageMeter
