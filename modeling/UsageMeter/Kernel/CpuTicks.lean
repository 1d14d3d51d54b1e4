import UsageMeter.Text.Blank
import UsageMeter.Text.Numeral
import UsageMeter.WordSum

/-!
The CPU line of the host's statistics file: the word `cpu` and the clock ticks
that all CPUs together spent in each state. Seven counters must be there; the
eighth, stolen time, counts as zero where it is missing, and later ones are not read.
-/
namespace UsageMeter.Kernel
open UsageMeter.Text

/-- Clock ticks spent in each state. -/
structure CpuTicks where
  user : UInt64
  nice : UInt64
  system : UInt64
  idle : UInt64
  iowait : UInt64
  irq : UInt64
  softirq : UInt64
  steal : UInt64
deriving DecidableEq, Repr

namespace CpuTicks

/-- Ticks spent working, if their sum has room. -/
def active (t : CpuTicks) : Except SumOverflow UInt64 :=
  addAll t.user [t.nice, t.system, t.irq, t.softirq, t.steal]

/-- Ticks spent at all, if their sum has room. -/
def total (t : CpuTicks) : Except SumOverflow UInt64 := do
  addAll (← t.active) [t.idle, t.iowait]

end CpuTicks

/-- Why a statistics file gives no ticks. -/
inductive CpuTicksError where
  | emptyFile
  /-- The first line does not begin with the word `cpu`. -/
  | notCpuLine (line : String)
  /-- A counter is no numeral of 64 bits. -/
  | badCount (token : String) (cause : NumeralError)
  /-- There are fewer than seven counters. -/
  | tooFew (count : Nat)
deriving DecidableEq, Repr

/-- The wording of a ticks error. -/
def CpuTicksError.message : CpuTicksError → String
  | .emptyFile => "empty file"
  | .notCpuLine line => "first line is not the aggregate cpu line: '" ++ line ++ "'"
  | .badCount token cause => "invalid tick count '" ++ token ++ "': " ++ cause.message
  | .tooFew count => "expected at least 7 tick counters, got " ++ toString count

/-- Reads counters up to the first that is no numeral. -/
def counts? : List (List Char) → Except CpuTicksError (List UInt64)
  | [] => .ok []
  | token :: rest =>
    match word64? token with
    | .ok n => (counts? rest).map (n :: ·)
    | .error e => .error (.badCount (String.ofList token) e)

/-- The ticks of the counters in their order. -/
def CpuTicks.ofCounts? : List UInt64 → Except CpuTicksError CpuTicks
  | [a, b, c, d, e, f, g] => .ok ⟨a, b, c, d, e, f, g, 0⟩
  | a :: b :: c :: d :: e :: f :: g :: h :: _ => .ok ⟨a, b, c, d, e, f, g, h⟩
  | short => .error (.tooFew short.length)

/-- The ticks in the line of all CPUs. -/
def CpuTicks.ofLine? (line : List Char) : Except CpuTicksError CpuTicks :=
  match words line with
  | [] => .error (.notCpuLine (String.ofList line))
  | key :: tokens =>
    if key = "cpu".toList then do
      let counts ← counts? (tokens.take 8)
      CpuTicks.ofCounts? counts
    else .error (.notCpuLine (String.ofList line))

/-- The ticks in a statistics file, by its first line. -/
def CpuTicks.read? (content : String) : Except CpuTicksError CpuTicks :=
  match lines content.toList with
  | [] => .error .emptyFile
  | line :: _ => CpuTicks.ofLine? line

end UsageMeter.Kernel
