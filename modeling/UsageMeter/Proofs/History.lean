import UsageMeter.Proofs.Interval
import UsageMeter.Refresher

/-!
# Histories of readings

What a list of readings says by itself, before any refresher has seen it: the
samples that were read and when counters were read last. The statements about
refreshers compare what they publish with these.
-/

namespace UsageMeter
open UsageMeter.Time

/-! ## What was read -/

/-- The counters that were read, in order. -/
def counterSamples (ticks : List Reading) : List CounterSample :=
  ticks.filterMap fun x => x.counters.toOption

/-- The readings of the process that succeeded, in order. -/
def processSamples (ticks : List Reading) : List ProcessSample :=
  ticks.filterMap fun x => x.process.toOption

/-- When counters were read last. -/
def countersReadAt (ticks : List Reading) : Option Timestamp :=
  (ticks.filterMap fun x => x.counters.toOption.map fun _ => x.now).getLast?

theorem counterSamples_cons (x : Reading) (xs : List Reading) :
    counterSamples (x :: xs) = x.counters.toOption.toList ++ counterSamples xs := by
  cases h : x.counters.toOption <;> simp [counterSamples, h]

theorem processSamples_cons (x : Reading) (xs : List Reading) :
    processSamples (x :: xs) = x.process.toOption.toList ++ processSamples xs := by
  cases h : x.process.toOption <;> simp [processSamples, h]

theorem counterSamples_append (xs ys : List Reading) :
    counterSamples (xs ++ ys) = counterSamples xs ++ counterSamples ys :=
  List.filterMap_append

/-- Later readings hide the time of earlier ones if any of them has counters. -/
theorem countersReadAt_append (xs ys : List Reading) :
    countersReadAt (xs ++ ys) = (countersReadAt ys).or (countersReadAt xs) := by
  simp [countersReadAt, List.getLast?_append]

theorem countersReadAt_singleton (x : Reading) :
    countersReadAt [x] = x.counters.toOption.map fun _ => x.now := by
  cases h : x.counters.toOption <;> simp [countersReadAt, h]

/-- Counters were read at some time exactly if some were read at all. -/
theorem countersReadAt_eq_none_iff (ticks : List Reading) :
    countersReadAt ticks = none ↔ counterSamples ticks = [] := by
  simp [countersReadAt, counterSamples]

end UsageMeter
