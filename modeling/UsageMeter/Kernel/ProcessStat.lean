import UsageMeter.Text.Blank
import UsageMeter.Text.Numeral

/-!
The status line of a process. The command name stands in parentheses and may
itself hold blanks and parentheses, so it reaches from the first opening
parenthesis to the last closing one, and fields are counted after that.
-/
namespace UsageMeter.Kernel
open UsageMeter.Text

/-- Cuts a text at the first occurrence of a character. -/
def cutFirst (c : Char) : List Char → Option (List Char × List Char)
  | [] => none
  | d :: r =>
    if d = c then some ([], r)
    else (cutFirst c r).map fun (before, after) => (d :: before, after)

/-- Cuts a text at the last occurrence of a character. -/
def cutLast (c : Char) : List Char → Option (List Char × List Char)
  | [] => none
  | d :: r =>
    match cutLast c r with
    | some (before, after) => some (d :: before, after)
    | none => if d = c then some ([], r) else none

/-- What is wanted of a status line. -/
structure ProcessStat where
  /-- The command name. -/
  command : String
  /-- Clock ticks spent in user mode. -/
  userTicks : UInt64
  /-- Clock ticks spent in the kernel. -/
  systemTicks : UInt64
deriving DecidableEq, Repr

/-- Why a text is no status line. -/
inductive ProcessStatError where
  | openMissing
  | closeMissing
  /-- The only closing parentheses come before the first opening one. -/
  | unbalanced
  | fieldMissing (field : Nat)
  | badField (field : Nat) (token : String) (cause : NumeralError)
deriving DecidableEq, Repr

/-- The wording of a status line error. -/
def ProcessStatError.message : ProcessStatError → String
  | .openMissing => "missing '(' before comm"
  | .closeMissing => "missing ')' after comm"
  | .unbalanced => "unbalanced comm parentheses"
  | .fieldMissing field => "field " ++ toString field ++ " missing"
  | .badField field token cause =>
    "invalid field " ++ toString field ++ " '" ++ token ++ "': " ++ cause.message

/-- Reads a field; the first word after the command name is field 3. -/
def statField? (tokens : List (List Char)) (field : Nat) : Except ProcessStatError UInt64 :=
  match tokens[field - 3]? with
  | none => .error (.fieldMissing field)
  | some token =>
    match word64? token with
    | .ok n => .ok n
    | .error e => .error (.badField field (String.ofList token) e)

/-- Reads a status line. -/
def ProcessStat.read? (content : String) : Except ProcessStatError ProcessStat :=
  match cutFirst '(' content.toList with
  | none => .error .openMissing
  | some (before, after) =>
    match cutLast ')' after with
    | none => .error (if ')' ∈ before then .unbalanced else .closeMissing)
    | some (command, tail) => do
      let tokens := words tail
      let userTicks ← statField? tokens 14
      let systemTicks ← statField? tokens 15
      .ok ⟨String.ofList command, userTicks, systemTicks⟩

end UsageMeter.Kernel
