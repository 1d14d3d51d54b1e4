import UsageMeter.Text.Blank
import UsageMeter.Text.Numeral

/-!
The statistics file of the unified control group tree: lines of a key and a
value. Only the CPU time used is wanted, in microseconds; the first line with
its key decides.
-/
namespace UsageMeter.Kernel
open UsageMeter.Text

/-- Why the statistics give no CPU time. -/
inductive CpuStatError where
  /-- No line has the key. -/
  | keyMissing
  /-- The line has no value. -/
  | valueMissing
  /-- The value is no numeral of 64 bits. -/
  | badValue (token : String) (cause : NumeralError)
deriving DecidableEq, Repr

/-- The wording of a statistics error. -/
def CpuStatError.message : CpuStatError → String
  | .keyMissing => "usage_usec not found"
  | .valueMissing => "usage_usec has no value"
  | .badValue token cause => "invalid usage_usec '" ++ token ++ "': " ++ cause.message

/-- The key of the CPU time used. -/
def usageKey : List Char := "usage_usec".toList

/-- The value in the words after the key. -/
def usageValue : List (List Char) → Except CpuStatError UInt64
  | [] => .error .valueMissing
  | v :: _ =>
    match word64? v with
    | .ok n => .ok n
    | .error e => .error (.badValue (String.ofList v) e)

/-- The value of the first line, given by its words, that begins with the key. -/
def usageOfLines : List (List (List Char)) → Except CpuStatError UInt64
  | [] => .error .keyMissing
  | [] :: rest => usageOfLines rest
  | (key :: values) :: rest => if key = usageKey then usageValue values else usageOfLines rest

/-- Microseconds of CPU time used, by the statistics file. -/
def cpuStatUsage (content : String) : Except CpuStatError UInt64 :=
  usageOfLines ((lines content.toList).map words)

end UsageMeter.Kernel
