import UsageMeter.Cli.Report
import UsageMeter.Decimal.Reading
import UsageMeter.Text.Numeral

/-!
Arguments of the command line. Options are known by a long name and some by a
letter; a value is joined to its option or follows it, but a following argument
that looks like an option is none. Options shared by all commands may stand
before or after the name of the command, and are read after it first; two of
them may also be set by variables of the environment. No option may be given
twice on one side.
-/
namespace UsageMeter.Cli
open UsageMeter.Text (int64?)

/-- An option. -/
inductive Key where
  | cgroupRoot
  | procRoot
  | noFallback
  | format
  | count
  | interval
  | pid
  | help
  | version
deriving DecidableEq, Repr

namespace Key

/-- The long name of an option. -/
def name : Key → String
  | .cgroupRoot => "cgroup-root"
  | .procRoot => "proc-root"
  | .noFallback => "no-fallback"
  | .format => "format"
  | .count => "count"
  | .interval => "interval"
  | .pid => "pid"
  | .help => "help"
  | .version => "version"

/-- The letter of an option. -/
def letter? : Key → Option Char
  | .format => some 'f'
  | .count => some 'n'
  | .interval => some 'i'
  | .help => some 'h'
  | .version => some 'V'
  | _ => none

/-- Whether an option has a value. -/
def hasValue : Key → Bool
  | .noFallback => false
  | .help => false
  | .version => false
  | _ => true

/-- The options that every command knows. -/
def shared : List Key := [.cgroupRoot, .procRoot, .noFallback, .format, .help]

/-- The variable of the environment that sets an option. -/
def variableName? : Key → Option String
  | .cgroupRoot => some "USAGE_CGROUP_ROOT"
  | .procRoot => some "USAGE_PROC_ROOT"
  | _ => none

end Key

/-- Reads a natural number of 32 bits. -/
def number32? (s : String) : Option Nat :=
  match int64? s.toList with
  | .ok n => if 0 ≤ n ∧ n ≤ maxWord32 then some n.toNat else none
  | .error _ => none

/-- Whether an option takes a value. -/
def Key.accepts (k : Key) (value : String) : Bool :=
  match k with
  | .format => (Format.ofName? value).isSome
  | .count => (number32? value).isSome
  | .pid => (number32? value).isSome
  | .interval => (Decimal.float? value.toList).isSome
  | _ => !value.isEmpty

/-- Options with their values, the last one first. -/
abbrev Given := List (Key × String)

/-- The value given for an option. -/
def Given.value? (given : Given) (k : Key) : Option String :=
  (given.find? fun g => g.1 == k).map Prod.snd

/-- The options given with one more, unless it is given already or its value
will not do. -/
def Given.add? (given : Given) (k : Key) (value : String) : Option Given :=
  if (given.value? k).isSome || !k.accepts value then none else some ((k, value) :: given)

/-- An argument by its form. -/
inductive Argument where
  /-- The argument that ends all options. -/
  | endOfOptions
  /-- An option, with the value joined to it. -/
  | option (key : Key) (value : Option String)
  /-- An option that is not known here. -/
  | unknown
  /-- A word that is no option. -/
  | word (w : String)
deriving DecidableEq, Repr

/-- A text that begins like an option. -/
def looksLikeOption (s : String) : Bool :=
  match s.toList with
  | '-' :: _ :: _ => true
  | _ => false

/-- The characters up to an equals sign, and those after it. -/
def cutEquals : List Char → List Char × Option (List Char)
  | [] => ([], none)
  | '=' :: r => ([], some r)
  | c :: r =>
    let (name, value) := cutEquals r
    (c :: name, value)

/-- The form of an argument where the given options are known. -/
def Argument.of (known : List Key) (s : String) : Argument :=
  match s.toList with
  | ['-', '-'] => .endOfOptions
  | '-' :: '-' :: r =>
    let (name, value) := cutEquals r
    match known.find? fun k => k.name.toList == name with
    | some k => .option k (value.map String.ofList)
    | none => .unknown
  | '-' :: c :: r =>
    match known.find? fun k => k.letter? == some c with
    | some k =>
      match r with
      | [] => .option k none
      | '=' :: v => .option k (some (String.ofList v))
      | v => .option k (some (String.ofList v))
    | none => .unknown
  | _ => .word s

/-- Where the options before a word lead. -/
inductive Stop where
  /-- There are no more arguments. -/
  | finished (given : Given)
  /-- A word stands after the options, and arguments after it. -/
  | word (w : String) (rest : List String) (given : Given)
  | help
  | version
deriving Repr

/-- Reads options up to the first word, or none if they are not in order. -/
def scan (known : List Key) : Given → List String → Option Stop
  | given, [] => some (.finished given)
  | given, arg :: rest =>
    match Argument.of known arg with
    | .endOfOptions => if rest.isEmpty then some (.finished given) else none
    | .unknown => none
    | .word w => some (.word w rest given)
    | .option k value =>
      if k.hasValue then
        match value, rest with
        | some v, rest => (given.add? k v).bind fun given => scan known given rest
        | none, [] => none
        | none, v :: rest =>
          if looksLikeOption v then none
          else (given.add? k v).bind fun given => scan known given rest
      else if value.isSome then none
      else
        match k with
        | .help => some .help
        | .version => some .version
        | k => (given.add? k "true").bind fun given => scan known given rest
termination_by _ args => args.length

/-- What is to be done. -/
inductive Command where
  /-- Show the tiers. -/
  | detect
  /-- Take samples. -/
  | sample (count : Nat) (interval : Float) (pid : Option UInt32)

/-- A command with the options that all commands know. -/
structure Invocation where
  cgroupRoot : String
  procRoot : String
  fallback : Bool
  format : Format
  command : Command

/-- What arguments ask for. -/
inductive Request where
  | run (i : Invocation)
  | help
  | version

/-- The options given before and after the name of a command. -/
structure Sides where
  before : Given
  after : Given

namespace Sides

/-- The value given for an option, after the name first. -/
def value? (s : Sides) (k : Key) : Option String :=
  s.after.value? k <|> s.before.value? k

/-- The value of an option that has a variable: as given, or as the variable
says, or the default. An empty variable will not do where it is looked at. -/
def valueOr (s : Sides) (environment : String → Option String) (k : Key) (default : String) :
    Option String :=
  let value := ((s.value? k <|> k.variableName?.bind environment).getD default)
  if k.variableName?.bind environment = some "" ∧
      ((s.after.value? k).isNone ∨ (s.before.value? k).isNone) then none
  else some value

/-- The invocation of a command. -/
def invocation? (s : Sides) (environment : String → Option String) (command : Command) :
    Option Invocation := do
  let cgroupRoot ← s.valueOr environment .cgroupRoot "/sys/fs/cgroup"
  let procRoot ← s.valueOr environment .procRoot "/proc"
  some
    { cgroupRoot, procRoot
      fallback := (s.value? .noFallback).isNone
      format := ((s.value? .format).bind Format.ofName?).getD .table
      command }

/-- The command of sampling, with its options. -/
def sampling (s : Sides) : Command :=
  .sample (((s.after.value? .count).bind number32?).getD 5)
    (((s.after.value? .interval).bind fun v => Decimal.float? v.toList).getD 1.0)
    (((s.after.value? .pid).bind number32?).map UInt32.ofNat)

end Sides

/-- Reads the options after the name of a command. -/
def readCommand (environment : String → Option String) (known : List Key)
    (command : Sides → Command) (before : Given) (args : List String) : Option Request :=
  match scan known [] args with
  | some (.finished after) =>
    let sides : Sides := ⟨before, after⟩
    (sides.invocation? environment (command sides)).map .run
  | some .help => some .help
  | _ => none

/-- The names of commands. -/
def commandNames : List String := ["detect", "sample", "help"]

/-- Reads arguments; none if they are not in order. -/
def Request.ofArguments? (environment : String → Option String) (args : List String) :
    Option Request :=
  match scan (.version :: Key.shared) [] args with
  | some (.word w rest before) =>
    if w = "detect" then
      readCommand environment Key.shared (fun _ => .detect) before rest
    else if w = "sample" then
      readCommand environment (Key.shared ++ [.count, .interval, .pid]) Sides.sampling before rest
    else if w = "help" ∧ rest.all (commandNames.contains ·) ∧ rest.length ≤ 1 then some .help
    else none
  | some .help => some .help
  | some .version => some .version
  | _ => none

end UsageMeter.Cli
