import UsageMeter.Text.Blank
import UsageMeter.Text.Numeral

/-!
The bandwidth file of the unified control group tree: a quota, which is a
numeral or `max`, and an optional period, both in microseconds.
-/
namespace UsageMeter.Kernel
open UsageMeter.Text

/-- A grant of CPU time: so many microseconds in each period. -/
structure Bandwidth where
  /-- The microseconds granted, unless there is no limit. -/
  quota : Option Int
  /-- The microseconds in a period. -/
  period : Option UInt64
deriving DecidableEq, Repr

/-- No limit at all. -/
def Bandwidth.unlimited : Bandwidth := ⟨none, none⟩

/-- Why a bandwidth file gives no bandwidth. -/
inductive CpuMaxError where
  /-- There are not one or two words; the text is given without its outer blanks. -/
  | wordCount (content : String)
  /-- The quota is neither `max` nor a numeral. -/
  | badQuota (token : String) (cause : NumeralError)
  /-- The period is no numeral. -/
  | badPeriod (token : String) (cause : NumeralError)
deriving DecidableEq, Repr

/-- The wording of a bandwidth error. -/
def CpuMaxError.message : CpuMaxError → String
  | .wordCount content => "expected '<quota> <period>', got '" ++ content ++ "'"
  | .badQuota token cause => "invalid quota '" ++ token ++ "': " ++ cause.message
  | .badPeriod token cause => "invalid period '" ++ token ++ "': " ++ cause.message

/-- Reads the quota. -/
def quota? (token : List Char) : Except CpuMaxError (Option Int) :=
  if token = "max".toList then .ok none
  else
    match int64? token with
    | .ok n => .ok (some n)
    | .error e => .error (.badQuota (String.ofList token) e)

/-- Reads the period. -/
def period? (token : List Char) : Except CpuMaxError UInt64 :=
  match word64? token with
  | .ok n => .ok n
  | .error e => .error (.badPeriod (String.ofList token) e)

/-- The bandwidth that a bandwidth file grants. -/
def cpuMax (content : String) : Except CpuMaxError Bandwidth :=
  match words content.toList with
  | [q] => (quota? q).map fun q => ⟨q, none⟩
  | [q, p] => do
    let q ← quota? q
    let p ← period? p
    .ok ⟨q, some p⟩
  | _ => .error (.wordCount (String.ofList (trim content.toList)))

end UsageMeter.Kernel
