import UsageMeter.Decimal.Binary64
import UsageMeter.Text.Numeral

/-!
Reading doubles. A decimal is an optional sign, digits with an optional point
among or around them, and an optional exponent; the words `inf`, `infinity`
and `nan` are read in any case. The value is the double nearest to the exact
decimal.
-/
namespace UsageMeter.Decimal
open UsageMeter.Text (digit?)

/-- The digits a text begins with, and what follows them. -/
def spanDigits : List Char → List Nat × List Char
  | [] => ([], [])
  | c :: r =>
    match digit? c with
    | none => ([], c :: r)
    | some d =>
      let (ds, rest) := spanDigits r
      (d :: ds, rest)

/-- The value of digits read onto `acc`. -/
def digitsValue (acc : Nat) (ds : List Nat) : Nat :=
  ds.foldl (fun n d => n * 10 + d) acc

/-- The double nearest to `± coefficient · 10 ^ exponent`. Exponents at which
every such number is beyond the doubles are answered without computing. -/
def toFloat (negative : Bool) (coefficient : Nat) (exponent : Int) : Float :=
  let length : Int := (Nat.toDigits 10 coefficient).length
  if coefficient = 0 ∨ length + exponent < -330 then Binary64.nearest negative 0 1
  else if 310 < length + exponent then Binary64.nearest negative (twoTo 1100) 1
  else Binary64.nearest negative (coefficient * tenTo exponent.toNat) (tenTo (-exponent).toNat)

/-- Reads the exponent of a decimal, which ends the text. -/
def exponent? : List Char → Option Int
  | [] => some 0
  | c :: r =>
    if c = 'e' ∨ c = 'E' then
      let (negative, digits) :=
        match r with
        | '-' :: t => (true, t)
        | '+' :: t => (false, t)
        | t => (false, t)
      match spanDigits digits with
      | ([], _) => none
      | (ds, []) =>
        let n : Int := digitsValue 0 ds
        some (if negative then -n else n)
      | (_, _ :: _) => none
    else none

/-- Reads a decimal without its sign. -/
def magnitude? (negative : Bool) (s : List Char) : Option Float :=
  let (whole, afterWhole) := spanDigits s
  let (part, afterPart) :=
    match afterWhole with
    | '.' :: r => spanDigits r
    | r => ([], r)
  if whole.isEmpty && part.isEmpty then none
  else
    (exponent? afterPart).map fun e =>
      toFloat negative (digitsValue (digitsValue 0 whole) part) (e - part.length)

/-- The double no number is read as. -/
def notANumber : Float := Float.ofBits 0x7ff8000000000000

/-- Reads a double. -/
def float? (s : List Char) : Option Float :=
  let (negative, r) :=
    match s with
    | '-' :: t => (true, t)
    | '+' :: t => (false, t)
    | t => (false, t)
  let word := String.ofList (r.map Char.toLower)
  if word = "nan" then some notANumber
  else if word = "inf" ∨ word = "infinity" then some (Binary64.nearest negative (twoTo 1100) 1)
  else magnitude? negative r

end UsageMeter.Decimal
