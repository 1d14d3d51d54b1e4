import UsageMeter.Text.Blank
import UsageMeter.Text.Numeral

/-!
The memory file of a process: numbers of pages, of which the second counts
the resident ones.
-/
namespace UsageMeter.Kernel
open UsageMeter.Text

/-- Why a memory file gives no number of resident pages. -/
inductive MemoryPagesError where
  | residentMissing
  | badResident (token : String) (cause : NumeralError)
deriving DecidableEq, Repr

/-- The wording of a memory file error. -/
def MemoryPagesError.message : MemoryPagesError → String
  | .residentMissing => "resident field missing"
  | .badResident token cause => "invalid resident '" ++ token ++ "': " ++ cause.message

/-- The number of resident pages. -/
def residentPages (content : String) : Except MemoryPagesError UInt64 :=
  match words content.toList with
  | _ :: token :: _ =>
    match word64? token with
    | .ok n => .ok n
    | .error e => .error (.badResident (String.ofList token) e)
  | _ => .error .residentMissing

end UsageMeter.Kernel
