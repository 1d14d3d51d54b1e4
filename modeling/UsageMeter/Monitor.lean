import UsageMeter.Moment
import UsageMeter.ProcessFiles
import UsageMeter.Refresher
import UsageMeter.Source.Chain

/-!
A refresher with what it reads from: a chain of tiers for the counters and the
files of one process. A refresh of a `Monitor` takes both readings at a moment; one
that breaks off gives nothing to go on with.
-/
namespace UsageMeter
open UsageMeter.Source

/-- A refresher and its sources. -/
structure Monitor where
  chain : TierChain
  units : KernelUnits
  refresher : Refresher

namespace Monitor

/-- A monitor that has read nothing. -/
def new (roots : Roots) (units : KernelUnits) (refresher : Refresher) : Monitor :=
  ⟨TierChain.new roots, units, refresher⟩

/-- The readings at a moment, unless their sums have no room. -/
def reading (m : Monitor) (moment : Moment) : Except SumOverflow Reading := do
  let counters ← (m.chain.read moment.files moment.now).1
  let process ← readProcess moment.files m.chain.roots.proc m.units m.refresher.settings.pid
    moment.now.toNat
  .ok { counters, process, now := moment.clock, seconds := Quantity.ofNat 0 }

/-- The monitor after a refresh. -/
def refresh (m : Monitor) (moment : Moment) : Except SumOverflow Monitor :=
  (m.reading moment).map fun x =>
    { m with
      chain := (m.chain.read moment.files moment.now).2.1
      refresher := m.refresher.refresh x }

/-- What a refresh does to the snapshot. -/
def outcome (m : Monitor) (moment : Moment) : Except SumOverflow Outcome :=
  (m.reading moment).map m.refresher.outcome

/-- What a refresh reports. -/
def events (m : Monitor) (moment : Moment) : Except SumOverflow (List Event) :=
  (m.reading moment).map fun x =>
    (m.chain.read moment.files moment.now).2.2 ++ m.refresher.events x

end Monitor
end UsageMeter
