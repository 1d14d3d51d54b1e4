import UsageMeter.Decimal.Reading
import UsageMeter.Decimal.Style
import UsageMeter.Json.Value
import UsageMeter.Text.Case
import UsageMeter.Text.Numeral

/-!
Values as settings of a wanted kind. Numbers and truth values count as texts
and as each other where that makes sense; a collection or nothing at all counts
as none of them.
-/
namespace UsageMeter.Settings
open UsageMeter.Decimal UsageMeter.Json

/-- A value whose integers are all kept exactly; a greater one is a double. -/
def exact (v : Value) : Value :=
  match v with
  | .integer n => if n ≤ maxInt64 then .integer n else .float (Float.ofNat n.toNat)
  | v => v

/-- A value as a text: numbers are written out plainly. -/
def text? (v : Value) : Option String :=
  match exact v with
  | .bool b => some (if b then "true" else "false")
  | .integer n => some (String.ofList (integerText n))
  | .float x => some (plain.render x)
  | .string s => some s
  | _ => none

/-- A word for a truth value. -/
def boolWord? (s : String) : Option Bool :=
  if s ∈ ["true", "on", "yes"] then some true
  else if s ∈ ["false", "off", "no"] then some false
  else none

/-- A value as a truth value: a number is true if it is not zero. -/
def bool? (v : Value) : Option Bool :=
  match exact v with
  | .bool b => some b
  | .integer n => some (n != 0)
  | .float x => some (x != 0.0)
  | .string s =>
    let word := Text.lower s
    if word = "1" then some true else if word = "0" then some false else boolWord? word
  | _ => none

/-- The natural of 64 bits nearest to a double, a half going away from zero. -/
def nearestNatural (x : Float) : Nat :=
  match Binary64.ofFloat x with
  | .finite false mantissa exponent =>
    min maxWord64 (roundDiv .away (mantissa * twoTo exponent.toNat) (twoTo (-exponent).toNat))
  | .infinite false => maxWord64
  | _ => 0

/-- A value as a natural that is at most `limit`. -/
def natural? (limit : Nat) (v : Value) : Option Nat :=
  let found : Option Nat :=
    match exact v with
    | .bool b => some (if b then 1 else 0)
    | .integer n => if 0 ≤ n then some n.toNat else none
    | .float x => some (nearestNatural x)
    | .string s =>
      match boolWord? (Text.lower s) with
      | some b => some (if b then 1 else 0)
      | none => ((Text.word64? s.toList).toOption).map UInt64.toNat
    | _ => none
  found.bind fun n => if n ≤ limit then some n else none

end UsageMeter.Settings
