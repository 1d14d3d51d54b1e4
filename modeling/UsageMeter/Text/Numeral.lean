import UsageMeter.Bounds

/-!
Decimal numerals of bounded integers. A natural numeral is an optional `+`
and at least one digit; an integer numeral may have `-` instead. Digits are
read from the left, and reading stops at the first character that is no digit
or the first digit that leaves the bounds, whichever comes first; the error
says which.
-/
namespace UsageMeter.Text

/-- Why a text is not a numeral of the wanted range. -/
inductive NumeralError where
  /-- There is nothing to read. -/
  | empty
  /-- A character is no digit, or a sign stands alone. -/
  | badDigit
  /-- The value is above the range. -/
  | tooLarge
  /-- The value is below the range. -/
  | tooSmall
deriving DecidableEq, Repr

/-- The wording of a numeral error. -/
def NumeralError.message : NumeralError → String
  | .empty => "cannot parse integer from empty string"
  | .badDigit => "invalid digit found in string"
  | .tooLarge => "number too large to fit in target type"
  | .tooSmall => "number too small to fit in target type"

/-- The value of a decimal digit. -/
def digit? (c : Char) : Option Nat :=
  if 48 ≤ c.toNat ∧ c.toNat ≤ 57 then some (c.toNat - 48) else none

/-- Reads digits onto the value `acc`; `excess` is the error of the first step
that exceeds `limit`. -/
def readDigits (limit : Nat) (excess : NumeralError) :
    Nat → List Char → Except NumeralError Nat
  | acc, [] => .ok acc
  | acc, c :: r =>
    match digit? c with
    | none => .error .badDigit
    | some d =>
      if acc * 10 + d ≤ limit then readDigits limit excess (acc * 10 + d) r
      else .error excess

/-- Reads a natural numeral that is at most `limit`. -/
def natural? (limit : Nat) : List Char → Except NumeralError Nat
  | [] => .error .empty
  | ['+'] => .error .badDigit
  | '+' :: r => readDigits limit .tooLarge 0 r
  | s => readDigits limit .tooLarge 0 s

/-- Reads an integer numeral from `-(limit + 1)` to `limit`. -/
def integer? (limit : Nat) : List Char → Except NumeralError Int
  | [] => .error .empty
  | ['+'] => .error .badDigit
  | ['-'] => .error .badDigit
  | '+' :: r => (readDigits limit .tooLarge 0 r).map Int.ofNat
  | '-' :: r => (readDigits (limit + 1) .tooSmall 0 r).map fun n => -(Int.ofNat n)
  | s => (readDigits limit .tooLarge 0 s).map Int.ofNat

/-- Reads a natural numeral of 64 bits. -/
def word64? (s : List Char) : Except NumeralError UInt64 :=
  (natural? maxWord64 s).map UInt64.ofNat

/-- Reads an integer numeral of 64 bits. -/
def int64? (s : List Char) : Except NumeralError Int :=
  integer? maxInt64 s

end UsageMeter.Text
