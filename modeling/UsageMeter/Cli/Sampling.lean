import UsageMeter.Cli.Amount
import UsageMeter.Cli.Report
import UsageMeter.Cli.Table
import UsageMeter.Figure
import UsageMeter.Moment
import UsageMeter.ProcessFiles
import UsageMeter.Report
import UsageMeter.Source.Chain

/-!
The command that takes samples of usage. A sampling begins with a reading that
bounds no interval yet; every further reading gives a row for the interval
before it. The first reading that fails ends the sampling without its rows.
-/
namespace UsageMeter.Cli
open UsageMeter.Json UsageMeter.Source UsageMeter.Time

/-- What is sampled and how it is shown. -/
structure SamplingPlan where
  roots : Roots
  units : KernelUnits
  pid : UInt32
  /-- The time between readings. -/
  interval : Span
  format : Format
  colour : Bool

/-- The usage over one interval. -/
structure Row where
  index : Nat
  /-- The end of the interval. -/
  time : Timestamp
  figure : Figure
  processPercent : Option Float
  memory : UInt64
  cpus : UInt32

namespace Row

/-- Whether some figure is not a fresh one of the container. -/
def degraded (r : Row) : Bool :=
  r.figure.degraded || r.processPercent.isNone

/-- The hour, minute and second of a time. -/
def timeOfDay (t : Timestamp) : String :=
  let ofDay := (t.seconds % 86400).toNat
  String.ofList (Time.padded 2 (ofDay / 3600) ++ ':' :: Time.padded 2 (ofDay / 60 % 60) ++
    ':' :: Time.padded 2 (ofDay % 60))

/-- The fields of the JSON form of a row. -/
def fields (r : Row) : List (String × Value) :=
  [("index", .integer r.index),
    ("timestamp", .string (timeOfDay r.time)),
    ("source", r.figure.basis.toJson),
    ("scope", .string r.figure.basis.scope.name),
    ("container_cpu_pct", .float r.figure.percent),
    ("process_cpu_pct", (r.processPercent.map Value.float).getD .null),
    ("process_memory_bytes", .integer r.memory.toNat),
    ("online_cpus", .integer r.cpus.toNat),
    ("degraded", .bool r.degraded)]

/-- The JSON form of a row. -/
def toJson (r : Row) : Value := .object r.fields

/-- Where the figure comes from. -/
def sourceText (r : Row) (colour : Bool) : String :=
  let words := r.figure.basis.name ++ " (" ++ r.figure.basis.scope.name ++ ")"
  if r.degraded then Paint.yellow.apply colour words else words

/-- The heads of the columns. -/
def header : List String :=
  ["#", "Time", "Source", "CPU", "Process CPU", "RSS", "CPUs"]

/-- The cells of a row. -/
def cells (r : Row) (colour : Bool) : List String :=
  [toString r.index, timeOfDay r.time, r.sourceText colour, percentText colour r.figure.percent,
    (r.processPercent.map (percentText colour)).getD "-", bytesText r.memory,
    toString r.cpus.toNat]

end Row

/-- Why a sampling ended early. -/
inductive SamplingError where
  | counters (cause : ReadError)
  | process (pid : UInt32) (cause : ReadError)
deriving DecidableEq, Repr

/-- The message of a sampling error and its causes. -/
def SamplingError.messages : SamplingError → List String
  | .counters cause => "Failed to read CPU counters" :: cause.causes
  | .process pid cause => ("Failed to read process " ++ toString pid.toNat) :: cause.causes

/-- What ends a sampling early. -/
inductive SamplingEnd where
  | failed (e : SamplingError)
  | overflow (o : SumOverflow)
deriving DecidableEq, Repr

/-- What one reading of everything gives. -/
structure Observation where
  counters : CounterSample
  process : ProcessSample
  time : Timestamp
  /-- The chain after the reading. -/
  chain : TierChain
  /-- What was reported up to then. -/
  events : List Event

/-- A sampling between two of its readings. -/
structure Sampling where
  chain : TierChain
  meter : Meter
  counters : CounterSample
  process : ProcessSample
  /-- The rows so far. -/
  rows : List Row
  /-- What was reported so far. -/
  events : List Event

/-- A sampling that ended early, and what was reported up to then. -/
structure BrokenSampling where
  cause : SamplingEnd
  events : List Event

namespace Sampling

/-- Reads the counters and then the process. -/
def readBoth (plan : SamplingPlan) (chain : TierChain) (events : List Event) (m : Moment) :
    Except BrokenSampling Observation :=
  let (read, chain, selected) := chain.read m.files m.now
  let events := events ++ selected
  match read with
  | .error o => .error ⟨.overflow o, events⟩
  | .ok (.error e) => .error ⟨.failed (.counters e), events⟩
  | .ok (.ok counters) =>
    match readProcess m.files plan.roots.proc plan.units plan.pid m.now.toNat with
    | .error o => .error ⟨.overflow o, events⟩
    | .ok (.error e) => .error ⟨.failed (.process plan.pid e), events⟩
    | .ok (.ok process) => .ok { counters, process, time := m.clock, chain, events }

/-- The sampling that begins with an observation. -/
def begin (o : Observation) : Sampling :=
  { chain := o.chain
    meter := Meter.new
    counters := o.counters
    process := o.process
    rows := []
    events := o.events }

/-- The row for the interval up to an observation. -/
def row (s : Sampling) (o : Observation) : Row :=
  { index := s.rows.length + 1
    time := o.time
    figure := (s.meter.measure s.counters o.counters).1
    processPercent := processUtilization s.process o.process
    memory := o.process.memory
    cpus := o.counters.cpus }

/-- The sampling after a further observation. -/
def extend (s : Sampling) (o : Observation) : Sampling :=
  { chain := o.chain
    meter := (s.meter.measure s.counters o.counters).2
    counters := o.counters
    process := o.process
    rows := s.rows ++ [s.row o]
    events := o.events ++ Meter.events s.counters o.counters }

/-- The sampling after its first reading. -/
def start (plan : SamplingPlan) (m : Moment) : Except BrokenSampling Sampling :=
  (readBoth plan (TierChain.new plan.roots) [] m).map begin

/-- The sampling after a further reading. -/
def advance (plan : SamplingPlan) (s : Sampling) (m : Moment) : Except BrokenSampling Sampling :=
  (readBoth plan s.chain s.events m).map s.extend

/-- The sampling after further readings. -/
def advanceAll (plan : SamplingPlan) : Sampling → List Moment → Except BrokenSampling Sampling
  | s, [] => .ok s
  | s, m :: ms =>
    match s.advance plan m with
    | .error e => .error e
    | .ok s => advanceAll plan s ms

/-- What is printed after the first reading. -/
def opening (plan : SamplingPlan) (s : Sampling) : String :=
  match plan.format with
  | .json => ""
  | .table =>
    line ("Sampling " ++ Paint.cyan.apply plan.colour s.process.name ++ " (" ++
      toString plan.pid.toNat ++ ") every " ++ Decimal.fixed 1 plan.interval.toFloat ++ "s")

/-- What is printed after the last reading. -/
def closing (plan : SamplingPlan) (s : Sampling) : String :=
  match plan.format with
  | .json => jsonText (.array (s.rows.map Row.toJson))
  | .table =>
    if s.rows.isEmpty then line (Paint.yellow.apply plan.colour "No items found")
    else
      tableText Row.header (s.rows.map fun r => r.cells plan.colour) ++
        line (Paint.boldGreen.apply plan.colour "✓" ++ " Collected " ++
          toString s.rows.length ++ " samples")

/-- The report of a sampling that ended early, after what was printed before. -/
def brokenReport (printed : String) (b : BrokenSampling) : Except Abort Report :=
  match b.cause with
  | .failed e => .ok ⟨printed, some e.messages, b.events⟩
  | .overflow o => .error ⟨printed, o⟩

end Sampling

/-- The command, with the moments of its readings. -/
def sample (plan : SamplingPlan) (first : Moment) (further : List Moment) : Except Abort Report :=
  match Sampling.start plan first with
  | .error b => Sampling.brokenReport "" b
  | .ok s =>
    let opening := s.opening plan
    match s.advanceAll plan further with
    | .error b => Sampling.brokenReport opening b
    | .ok s => .ok ⟨opening ++ s.closing plan, none, s.events⟩

end UsageMeter.Cli
