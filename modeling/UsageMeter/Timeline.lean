import UsageMeter.Refresher
import UsageMeter.Schedule

/-!
Periodic refreshing on a clock. A run starts at time zero, refreshes at every
tick of its schedule and ends at the first tick that would not fire before the
shutdown; a refresh in progress is finished. A run leaves the refresher
stopped and without earlier readings, and a stopped refresher does nothing.
Times are nanoseconds since the start of the run.
-/
namespace UsageMeter
open UsageMeter.Time

/-- How a run is told to end; time zero stands for what happened before the run. -/
inductive Shutdown where
  /-- A message is sent. -/
  | message (time : Nat)
  /-- The sender of messages goes away. -/
  | dropped (time : Nat)
deriving DecidableEq, Repr

/-- When a run hears of its end: a message and a sender that went away both end its wait. -/
def Shutdown.time : Shutdown → Nat
  | .message time => time
  | .dropped time => time

/-- Two readings and the time each of them takes. -/
structure TimedReading where
  counters : Except ReadError CounterSample
  countersTook : Nat
  process : Except ReadError ProcessSample
  processTook : Nat

/-- The readings of a run in order, and the time of day at each of its times. -/
structure Surroundings where
  reading : Nat → TimedReading
  clock : Nat → Timestamp

namespace TimedReading

/-- How long a refresh with these readings takes. -/
def duration (t : TimedReading) : Nat := t.countersTook + t.processTook

/-- The readings as a refresh gets them that starts at a time. -/
def toReading (t : TimedReading) (clock : Nat → Timestamp) (start : Nat) : Reading :=
  { counters := t.counters
    process := t.process
    now := clock (start + t.duration)
    seconds := (Span.ofNanos t.duration).toFloat }

end TimedReading

/-- When the two reads of a refresh start. -/
structure ReadTimes where
  counters : Nat
  process : Nat
deriving DecidableEq, Repr

/-- How far a run has come. -/
structure Progress where
  refresher : Refresher
  /-- When the next tick is due. -/
  deadline : Nat
  /-- The time from which the next tick is waited for. -/
  now : Nat
  /-- The reads so far, the newest first. -/
  reads : List ReadTimes
  /-- What was reported so far. -/
  events : List Event

namespace Progress

/-- When the next refresh starts. -/
def start (p : Progress) : Nat := Schedule.firing p.deadline p.now

/-- The next refresh of a run. -/
def advance (period : Nat) (around : Surroundings) (p : Progress) : Progress :=
  let timed := around.reading p.reads.length
  let reading := timed.toReading around.clock p.start
  { refresher := p.refresher.refresh reading
    deadline := Schedule.nextDeadline period p.deadline p.start
    now := p.start + timed.duration
    reads := ⟨p.start, p.start + timed.countersTook⟩ :: p.reads
    events := p.events ++ p.refresher.events reading }

/-- Refreshes as long as a refresh starts before the end. -/
def runUntil (period : Nat) (pos : 0 < period) (stop : Nat) (around : Surroundings)
    (p : Progress) : Progress :=
  if p.start < stop then runUntil period pos stop around (p.advance period around) else p
termination_by stop - p.deadline
decreasing_by
  have h : p.start < stop := by assumption
  have before := Schedule.deadline_le_firing p.deadline p.now
  have after := Schedule.deadline_lt_nextDeadline pos p.deadline p.now
  simp only [start, advance] at h ⊢
  omega

end Progress

/-- A run that has ended: its reads in order, and what it reported. -/
structure Run where
  refresher : Refresher
  reads : List ReadTimes
  events : List Event

namespace Refresher

/-- A refresher whose run has ended. -/
def stop (r : Refresher) : Refresher :=
  { r with phase := .stopped, previousCounters := none, previousProcess := none }

/-- The progress of a run at its start. -/
def begin (r : Refresher) : Progress :=
  { refresher := r
    deadline := 0
    now := 0
    reads := []
    events := [.refreshingStarted r.settings.interval.toFloat r.settings.pid] }

/-- Refreshes at every tick until the shutdown. -/
def run (r : Refresher) (shutdown : Shutdown) (around : Surroundings) : Run :=
  match r.phase with
  | .stopped => ⟨r, [], []⟩
  | .collecting =>
    let p := r.begin.runUntil r.settings.interval.nanos r.settings.interval_pos
      shutdown.time around
    ⟨p.refresher.stop, p.reads.reverse, p.events ++ [.refreshingStopped]⟩

end Refresher
end UsageMeter
