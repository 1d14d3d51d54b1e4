import UsageMeter.Cli.Arguments
import UsageMeter.Cli.Detect
import UsageMeter.Cli.Sampling

/-!
The program as a function of its arguments, its environment and the moments at
which it reads. It ends with 0 where all went well, with 1 where a command
failed, with 2 where the arguments are not in order, and with 101 where a command
broke off.
-/
namespace UsageMeter.Cli
open UsageMeter.Source UsageMeter.Time

/-- The machine and the process that the program runs on and as. -/
structure Machine where
  hostCpus : UInt32
  units : KernelUnits
  /-- The process of the program, which is sampled where no other is named. -/
  pid : UInt32
  /-- Whether output may be in colour. -/
  colour : Bool

/-- How a run of the program ended. -/
structure Ending where
  status : Nat
  output : String
  errors : String
deriving DecidableEq, Repr

/-- A failure of one message, before anything was printed. -/
def plainFailure (message : String) : Report := ⟨"", some [message], []⟩

/-- Where the tiers are read from by an invocation. -/
def Invocation.roots (i : Invocation) (machine : Machine) : Roots :=
  ⟨i.cgroupRoot, i.procRoot, i.fallback, machine.hostCpus⟩

/-- The interval of a number of seconds, or what is wrong with it. -/
def sampleInterval (seconds : Float) : Except String Span :=
  if 0.0 < seconds ∧ seconds.isFinite then
    match Span.ofFloat? seconds with
    | some interval => .ok interval
    | none =>
      .error ("--interval " ++ Decimal.plain.render seconds ++ " is out of range: cannot convert " ++
        "float seconds to Duration: value is either too big or NaN")
  else .error "--interval must be a positive number of seconds"

/-- What an invocation samples. -/
def Invocation.plan (i : Invocation) (machine : Machine) (interval : Span) (pid : Option UInt32) :
    SamplingPlan :=
  { roots := i.roots machine
    units := machine.units
    pid := pid.getD machine.pid
    interval
    format := i.format
    colour := machine.colour }

/-- Runs a command; `moments` are those of its readings in order. -/
def Invocation.report (i : Invocation) (machine : Machine) (moments : Nat → Moment) :
    Except Abort Report :=
  match i.command with
  | .detect => Cli.detect (i.roots machine) i.format machine.colour (moments 0)
  | .sample count interval pid =>
    match sampleInterval interval with
    | .error message => .ok (plainFailure message)
    | .ok interval =>
      Cli.sample (i.plan machine interval pid) (moments 0)
        ((List.range count).map fun k => moments (k + 1))

/-- The name and version of the program. -/
def versionText : String := line "cusage 0.1.0"

/-- How the program is used. -/
def helpText : String :=
  line "Usage: cusage [OPTIONS] <COMMAND>" ++ line "" ++
    line "Commands:" ++
    line "  detect  Show which tiers can be read and which one is used" ++
    line "  sample  Take samples of usage [-n COUNT] [-i SECONDS] [--pid PID]" ++ line "" ++
    line "Options:" ++
    line "      --cgroup-root <DIRECTORY>" ++
    line "      --proc-root <DIRECTORY>" ++
    line "      --no-fallback" ++
    line "  -f, --format <table|json>"

/-- How a report ends the program. -/
def Report.ending (r : Report) : Ending :=
  match r.failure with
  | none => ⟨0, r.output, ""⟩
  | some messages => ⟨1, r.output, failureText messages⟩

/-- How a command that broke off ends the program. -/
def Abort.ending (a : Abort) : Ending :=
  ⟨101, a.printed, line a.cause.message⟩

/-- How a command ends the program. -/
def ending : Except Abort Report → Ending
  | .ok r => r.ending
  | .error a => a.ending

/-- The end of a program whose arguments are not in order. -/
def misuse : Ending := ⟨2, "", "error: the arguments are not in order\n\n" ++ helpText⟩

/-- The whole program. -/
def program (machine : Machine) (environment : String → Option String) (args : List String)
    (moments : Nat → Moment) : Ending :=
  match Request.ofArguments? environment args with
  | none => misuse
  | some .help => ⟨0, helpText, ""⟩
  | some .version => ⟨0, versionText, ""⟩
  | some (.run i) => ending (i.report machine moments)

end UsageMeter.Cli
