import UsageMeter.Cli.Program

/-!
The program on a real system. Here the arguments and the environment are taken,
files and clocks are read, and output is written; everything else is decided by
the functions this module calls.
-/
namespace UsageMeter.Main
open UsageMeter.Cli UsageMeter.Source UsageMeter.Time

/-- What the system says about a file that could not be read. -/
def fileFailure : IO.Error → FileFailure
  | .noFileOrDirectory .. => .notFound
  | .permissionDenied .. => .notPermitted
  | .inappropriateType _ 21 _ => .isDirectory
  | .inappropriateType _ 20 _ => .notDirectory
  | e => .other (toString e)

/-- The text of a file. -/
def readText (path : String) : IO (Except FileFailure String) := do
  try
    let bytes ← IO.FS.readBinFile path
    match String.fromUTF8? bytes with
    | some text => return .ok text
    | none => return .error .notText
  catch e => return .error (fileFailure e)

/-- The words of a file; none if it cannot be read. -/
def wordsOf (path : String) : IO (List String) := do
  match ← readText path with
  | .ok text => return (Text.words text.toList).map String.ofList
  | .error _ => return []

/-- The word after another one. -/
def wordAfter (key : String) : List String → Option String
  | a :: b :: rest => if a = key then some b else wordAfter key (b :: rest)
  | _ => none

/-- Whole seconds of a decimal. -/
def wholeSeconds (s : String) : Nat :=
  Decimal.digitsValue 0 (Decimal.spanDigits s.toList).1

/-- The time of day, as the time since the start of the system added to that start. -/
def timeOfDay : IO Timestamp := do
  let started := (wordAfter "btime" (← wordsOf "/proc/stat")).getD "0"
  let up := ((← wordsOf "/proc/uptime").head?).getD "0"
  return ⟨((wholeSeconds started + wholeSeconds up : Nat) : Int), 0⟩

/-- The system as it is now, as far as the given paths go. -/
def observe (paths : List String) : IO Moment := do
  let table ← paths.mapM fun path => return (path, ← readText path)
  let now ← IO.monoNanosNow
  return ⟨Files.ofTable table, UInt64.ofNat now, ← timeOfDay⟩

/-- The machine, as its own files describe it. -/
def machine : IO Machine := do
  let processors := (← wordsOf "/proc/cpuinfo").count "processor"
  let pid := ((← wordsOf "/proc/self/stat").head?).bind number32?
  let plainOutput := (← IO.getEnv "NO_COLOR").isSome
  let terminal ← (← IO.getStdout).isTty
  return ⟨UInt32.ofNat processors, KernelUnits.common, UInt32.ofNat (pid.getD 0),
    terminal && !plainOutput⟩

/-- The environment, as far as options look at it. -/
def environment : IO (String → Option String) := do
  let names := Key.shared.filterMap Key.variableName?
  let table ← names.mapM fun name => return (name, ← IO.getEnv name)
  return fun name => (table.find? fun e => e.1 == name).bind Prod.snd

/-- Waits for a span, in steps that a sleep can take. -/
partial def pause (millis : Nat) : IO Unit := do
  if millis ≤ maxWord32 then IO.sleep (UInt32.ofNat millis)
  else
    IO.sleep (UInt32.ofNat maxWord32)
    pause (millis - maxWord32)

/-- Writes how the program ends. -/
def finish (e : Ending) : IO UInt32 := do
  IO.print e.output
  IO.eprint e.errors
  return UInt32.ofNat e.status

/-- Takes samples, printing the opening before the first pause. -/
def sample (plan : SamplingPlan) (count : Nat) : IO UInt32 := do
  let paths := plan.roots.paths ++
    [processStatPath plan.roots.proc plan.pid, processMemoryPath plan.roots.proc plan.pid]
  match Sampling.start plan (← observe paths) with
  | .error b => finish (ending (Sampling.brokenReport "" b))
  | .ok first =>
    IO.print (first.opening plan)
    let mut sampling := first
    for _ in List.range count do
      pause ((plan.interval.nanos + 999999) / 1000000)
      match sampling.advance plan (← observe paths) with
      | .error b => return ← finish (ending (Sampling.brokenReport "" b))
      | .ok next => sampling := next
    finish ⟨0, sampling.closing plan, ""⟩

/-- Runs an invocation. -/
def run (i : Invocation) : IO UInt32 := do
  let machine ← machine
  match i.command with
  | .sample count seconds pid =>
    match sampleInterval seconds with
    | .ok interval => sample (i.plan machine interval pid) count
    | .error message => finish (plainFailure message).ending
  | .detect =>
    let moment ← observe (i.roots machine).paths
    finish (ending (i.report machine fun _ => moment))

end UsageMeter.Main

open UsageMeter.Cli in
/-- Runs the program. -/
def main (args : List String) : IO UInt32 := do
  match Request.ofArguments? (← UsageMeter.Main.environment) args with
  | some (.run i) => UsageMeter.Main.run i
  | some .help => UsageMeter.Main.finish ⟨0, helpText, ""⟩
  | some .version => UsageMeter.Main.finish ⟨0, versionText, ""⟩
  | none => UsageMeter.Main.finish misuse
