import UsageMeter.Figure
import UsageMeter.SelfMetrics
import UsageMeter.Store

/-!
One refresh: a reading of the counters and a reading of the process are folded
into the snapshot. Either may fail. Counters need an earlier reading to bound
an interval with, so the first reading only primes; a reading that bounds no
interval carries the last figure over. Whatever is not fresh degrades the
snapshot, and only a reading of the counters renews its time. If both readings
fail, the snapshot stays as it is but for its degraded flag.
-/
namespace UsageMeter
open UsageMeter.Time

/-- Whether refreshing may still be started. -/
inductive Phase where
  | collecting
  | stopped
deriving DecidableEq, Repr

/-- The name of a phase. -/
def Phase.name : Phase → String
  | .collecting => "Collecting"
  | .stopped => "Stopped"

/-- What a refresh did to the snapshot. -/
inductive Outcome where
  /-- Every figure is fresh. -/
  | published
  /-- Some figure is carried over, primed, or the host's. -/
  | degraded
  /-- Both readings failed. -/
  | keptPrevious
deriving DecidableEq, Repr

/-- The name of an outcome. -/
def Outcome.name : Outcome → String
  | .published => "Published"
  | .degraded => "Degraded"
  | .keptPrevious => "KeptPrevious"

/-- What one refresh has to go on. -/
structure Reading where
  counters : Except ReadError CounterSample
  process : Except ReadError ProcessSample
  /-- When the readings had been taken. -/
  now : Timestamp
  /-- How long they took, in seconds. -/
  seconds : Float

/-- What a refresher is set up with. -/
structure RefresherSettings where
  /-- The process that is reported on. -/
  pid : UInt32
  /-- The name under which it reports events. -/
  service : String
  /-- The time from one refresh to the next. -/
  interval : Span
  interval_pos : 0 < interval.nanos

/-- The interval of a refresher is empty. -/
inductive RefresherError where
  | emptyInterval
deriving DecidableEq, Repr

/-- The wording of a refresher error. -/
def RefresherError.message : RefresherError → String
  | .emptyInterval => "Refresh interval must be greater than zero"

/-- The interval where none is given: five seconds. -/
def defaultInterval : Span := Span.ofSeconds 5

/-- Settings with the given interval, which must not be empty. -/
def RefresherSettings.make (pid : UInt32) (service : String) (interval : Span) :
    Except RefresherError RefresherSettings :=
  if h : 0 < interval.nanos then .ok ⟨pid, service, interval, h⟩ else .error .emptyInterval

/-- A refresher: its settings, its phase, what it remembers of earlier
readings, and what it has published. -/
structure Refresher where
  settings : RefresherSettings
  phase : Phase
  previousCounters : Option CounterSample
  previousProcess : Option ProcessSample
  meter : Meter
  metrics : SelfMetrics
  store : Store

namespace Refresher

/-- A refresher that has read nothing. -/
def new (settings : RefresherSettings) (store : Store) : Refresher :=
  { settings
    phase := .collecting
    previousCounters := none
    previousProcess := none
    meter := Meter.new
    metrics := SelfMetrics.new
    store }

/-! ## Counters -/

/-- A snapshot with the counters read into it. -/
def withCounters (r : Refresher) (curr : CounterSample) (s : Snapshot) : Snapshot :=
  match r.previousCounters with
  | none => { s with cpus := curr.cpus, tier := some curr.tier }
  | some prev =>
    let figure := r.meter.figure prev curr
    { s with cpus := curr.cpus, cpuPercent := figure.percent, tier := some figure.basis }

/-- Whether the counters give no fresh figure of the container. -/
def countersDegraded (r : Refresher) (counters : Except ReadError CounterSample) : Bool :=
  match counters, r.previousCounters with
  | .ok curr, some prev => (r.meter.figure prev curr).degraded
  | _, _ => true

/-- The meter after the counters were measured. -/
def nextMeter (r : Refresher) (counters : Except ReadError CounterSample) : Meter :=
  match counters, r.previousCounters with
  | .ok curr, some prev => (r.meter.measure prev curr).2
  | _, _ => r.meter

/-- Whether a counter went backwards since the counters were read before. -/
def countersReset (r : Refresher) (counters : Except ReadError CounterSample) : Bool :=
  match counters, r.previousCounters with
  | .ok curr, some prev => CounterSample.resets prev curr
  | _, _ => false

/-! ## Process -/

/-- A snapshot with the process read into it. -/
def withProcess (r : Refresher) (curr : ProcessSample) (s : Snapshot) : Snapshot :=
  let s :=
    { s with pid := curr.pid, processName := curr.name, processMemory := curr.memory }
  match r.previousProcess.bind fun prev => processUtilization prev curr with
  | some percent => { s with processCpuPercent := percent }
  | none => s

/-- Whether the process gives no fresh figure. -/
def processDegraded (r : Refresher) (process : Except ReadError ProcessSample) : Bool :=
  match process, r.previousProcess with
  | .ok curr, some prev => (processUtilization (α := Float) prev curr).isNone
  | _, _ => true

/-! ## The refresh -/

/-- The snapshot after a refresh. -/
def nextSnapshot (r : Refresher) (reading : Reading) : Snapshot :=
  let prior := r.store.latest
  match reading.counters, reading.process with
  | .error _, .error _ => { prior with degraded := true }
  | counters, process =>
    let afterCounters :=
      match counters with
      | .ok curr => { r.withCounters curr prior with updatedAt := some reading.now }
      | .error _ => prior
    let afterProcess :=
      match process with
      | .ok curr => r.withProcess curr afterCounters
      | .error _ => afterCounters
    { afterProcess with degraded := r.countersDegraded counters || r.processDegraded process }

/-- What a refresh does to the snapshot. -/
def outcome (r : Refresher) (reading : Reading) : Outcome :=
  match reading.counters, reading.process with
  | .error _, .error _ => .keptPrevious
  | counters, process =>
    if r.countersDegraded counters || r.processDegraded process then .degraded else .published

/-- The account of itself with the counters of a reading. -/
def countCounters (r : Refresher) (m : SelfMetrics) (counters : Except ReadError CounterSample) :
    SelfMetrics :=
  match counters with
  | .error _ => (m.countError .counterSource).useTier none
  | .ok curr =>
    let m := m.useTier (some curr.tier)
    if r.countersReset counters then m.countReset else m

/-- The account of itself with the process of a reading. -/
def countProcess (m : SelfMetrics) (process : Except ReadError ProcessSample) : SelfMetrics :=
  match process with
  | .error _ => m.countError .processProbe
  | .ok _ => m

/-- The account of itself after a refresh. -/
def nextMetrics (r : Refresher) (reading : Reading) : SelfMetrics :=
  (countProcess (r.countCounters r.metrics reading.counters) reading.process).observeRefresh
    reading.seconds

/-- A refresh. -/
def refresh (r : Refresher) (reading : Reading) : Refresher :=
  { r with
    previousCounters := reading.counters.toOption <|> r.previousCounters
    previousProcess := reading.process.toOption <|> r.previousProcess
    meter := r.nextMeter reading.counters
    metrics := r.nextMetrics reading
    store := r.store.publish (r.nextSnapshot reading) }

/-- What a failed reading reports. -/
def failureEvents {α : Type} (r : Refresher) (component : Component) (read : Except ReadError α) :
    List Event :=
  match read with
  | .ok _ => []
  | .error e => [.readFailed r.settings.service component.name e.message]

/-- What measuring the counters reports. -/
def counterEvents (r : Refresher) (counters : Except ReadError CounterSample) : List Event :=
  match counters, r.previousCounters with
  | .ok curr, some prev =>
    (if CounterSample.resets prev curr then
        [.counterReset r.settings.service curr.tier] else []) ++
      Meter.events prev curr
  | _, _ => []

/-- What a refresh reports. -/
def events (r : Refresher) (reading : Reading) : List Event :=
  r.failureEvents .counterSource reading.counters ++
    r.failureEvents .processProbe reading.process ++
    match reading.counters, reading.process with
    | .error _, .error _ => []
    | counters, _ =>
      r.counterEvents counters ++
        [.published r.settings.service (r.nextSnapshot reading).figures]

/-- Refreshes one after the other. -/
def refreshAll (r : Refresher) (readings : List Reading) : Refresher :=
  readings.foldl refresh r

@[simp] theorem refreshAll_nil (r : Refresher) : r.refreshAll [] = r := rfl

@[simp] theorem refreshAll_cons (r : Refresher) (x : Reading) (xs : List Reading) :
    r.refreshAll (x :: xs) = (r.refresh x).refreshAll xs := rfl

@[simp] theorem latest_refresh (r : Refresher) (reading : Reading) :
    (r.refresh reading).store.latest = r.nextSnapshot reading := rfl

end Refresher
end UsageMeter
