import UsageMeter.Text.Blank
import UsageMeter.Text.Numeral

/-!
The files of the older control group trees: a single numeral, with blanks
around it.
-/
namespace UsageMeter.Kernel
open UsageMeter.Text

/-- The text of a file is no numeral of the wanted range. -/
structure SingleValueError where
  /-- The text without its outer blanks. -/
  token : String
  cause : NumeralError
deriving DecidableEq, Repr

/-- The wording of the error of a single-value file. -/
def SingleValueError.message (e : SingleValueError) : String :=
  "invalid value '" ++ e.token ++ "': " ++ e.cause.message

/-- Reads a text without its outer blanks by a reader of numerals. -/
def singleValue {α : Type} (read : List Char → Except NumeralError α) (content : String) :
    Except SingleValueError α :=
  let token := trim content.toList
  match read token with
  | .ok n => .ok n
  | .error e => .error ⟨String.ofList token, e⟩

/-- The 64-bit word in a file. -/
def singleWord (content : String) : Except SingleValueError UInt64 :=
  singleValue word64? content

/-- The signed 64-bit integer in a file. -/
def singleInt (content : String) : Except SingleValueError Int :=
  singleValue int64? content

end UsageMeter.Kernel
