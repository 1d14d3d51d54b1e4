import UsageMeter.Event
import UsageMeter.Source.CgroupV1
import UsageMeter.Source.CgroupV2
import UsageMeter.Source.ProcStat

/-!
The tiers in their order of preference. A reading takes the first tier that can
be read and collects the errors of those before it. A `TierChain` remembers
which tier was taken last, so that only changes are reported and counted. Where the
sums of a tier have no room, a reading breaks off before anything is remembered.
-/
namespace UsageMeter.Source

/-- Where the tiers are read from. -/
structure Roots where
  cgroup : String
  proc : String
  /-- Whether the host's counters may stand in for the container's. -/
  fallback : Bool
  hostCpus : UInt32
deriving DecidableEq, Repr

namespace Roots

/-- The tiers that are tried, in order. -/
def tiers (roots : Roots) : List Tier :=
  if roots.fallback then [.cgroupV2, .cgroupV1, .procStat] else [.cgroupV2, .cgroupV1]

/-- Reads one tier. -/
def readTier (roots : Roots) (files : Files) (now : UInt64) (tier : Tier) :
    Readout CounterSample :=
  match tier with
  | .cgroupV2 => .ok (readCgroupV2 files roots.cgroup roots.hostCpus now)
  | .cgroupV1 => .ok (readCgroupV1 files roots.cgroup roots.hostCpus now)
  | .procStat => readProcStat files roots.proc roots.hostCpus now

/-- Every path that a reading of the tiers may ask for. -/
def paths (roots : Roots) : List String :=
  [Files.join roots.cgroup "cpu.stat", Files.join roots.cgroup "cpu.max"] ++
    accountingDirectories.map (usagePath roots.cgroup) ++
    bandwidthDirectories.map (quotaPath roots.cgroup) ++
    bandwidthDirectories.map (periodPath roots.cgroup) ++
    [Files.join roots.proc "stat"]

end Roots

/-- The entry of a tier that could not be read. -/
def attempt (tier : Tier) (e : ReadError) : String :=
  tier.name ++ ": " ++ e.message

/-- What going through the tiers came to. -/
inductive Descent where
  /-- A tier was read, after these attempts. -/
  | found (tier : Tier) (sample : CounterSample) (attempts : List String)
  /-- No tier could be read. -/
  | exhausted (attempts : List String)
  /-- An error after which no further tier is tried. -/
  | broken (e : ReadError)
  /-- A tier whose sums had no room. -/
  | aborted (o : SumOverflow)
deriving Repr

/-- Goes through tiers until one can be read. -/
def descend (read : Tier → Readout CounterSample) : List Tier → List String → Descent
  | [], attempts => .exhausted attempts
  | tier :: rest, attempts =>
    match read tier with
    | .error o => .aborted o
    | .ok (.ok sample) => .found tier sample attempts
    | .ok (.error e) =>
      if e.fallsThrough then descend read rest (attempts ++ [attempt tier e]) else .broken e

/-- Which tier the last reading took. -/
inductive Selection where
  /-- Nothing was read yet. -/
  | unset
  | active (tier : Tier)
  /-- No tier could be read. -/
  | exhausted
deriving DecidableEq, Repr

/-- What going through the tiers reports, if it is a change. -/
def Descent.event? : Descent → Option Event
  | .found tier _ attempts => some (Event.ofSelection tier attempts)
  | .exhausted attempts => some (.tiersExhausted attempts)
  | .broken _ => none
  | .aborted _ => none

/-- Which tier going through the tiers took, if it came to an end. -/
def Descent.selection? : Descent → Option Selection
  | .found tier _ _ => some (.active tier)
  | .exhausted _ => some .exhausted
  | .broken _ => none
  | .aborted _ => none

/-- What a reading gives. -/
def Descent.result : Descent → Readout CounterSample
  | .found _ sample _ => .ok (.ok sample)
  | .exhausted attempts => .ok (.error (.exhausted attempts))
  | .broken e => .ok (.error e)
  | .aborted o => .error o

/-- A chain of tiers and what it took last. -/
structure TierChain where
  roots : Roots
  selection : Selection
  /-- How often the tier taken has changed. -/
  transitions : Nat
deriving DecidableEq, Repr

namespace TierChain

/-- A chain that has read nothing. -/
def new (roots : Roots) : TierChain := ⟨roots, .unset, 0⟩

/-- The tier taken last, if the last reading succeeded. -/
def activeTier (chain : TierChain) : Option Tier :=
  match chain.selection with
  | .active tier => some tier
  | _ => none

/-- Goes through the tiers. -/
def descent (chain : TierChain) (files : Files) (now : UInt64) : Descent :=
  descend (chain.roots.readTier files now) chain.roots.tiers []

/-- Whether going through the tiers came to something else than last time. -/
def changes (chain : TierChain) (d : Descent) : Bool :=
  match d.selection? with
  | none => false
  | some s => s != chain.selection

/-- The chain after going through the tiers. -/
def record (chain : TierChain) (d : Descent) : TierChain :=
  match d.selection? with
  | none => chain
  | some s =>
    if s = chain.selection then chain
    else { chain with selection := s, transitions := chain.transitions + 1 }

/-- What a reading gives, the chain after it, and what it reports. -/
def read (chain : TierChain) (files : Files) (now : UInt64) :
    Readout CounterSample × TierChain × List Event :=
  let d := chain.descent files now
  (d.result, chain.record d, if chain.changes d then d.event?.toList else [])

end TierChain
end UsageMeter.Source
