import UsageMeter.Cli.Paint
import UsageMeter.Decimal.Style
import UsageMeter.Text.Case

/-!
How amounts are shown to people: bytes in the greatest binary unit that they
fill, times in microseconds, percentages with one place, and the words for how
a tier fares. Colour tells what needs attention.
-/
namespace UsageMeter.Cli
open UsageMeter.Decimal

/-- Bytes in a unit, with two places. -/
def inUnit (unit : Nat) (name : String) (n : UInt64) : String :=
  fixed 2 (Float.ofNat n.toNat / Float.ofNat unit) ++ name

/-- Bytes in the greatest unit that they fill. -/
def bytesText (n : UInt64) : String :=
  if twoTo 30 ≤ n.toNat then inUnit (twoTo 30) "Gi" n
  else if twoTo 20 ≤ n.toNat then inUnit (twoTo 20) "Mi" n
  else if twoTo 10 ≤ n.toNat then inUnit (twoTo 10) "Ki" n
  else toString n.toNat ++ "B"

/-- Microseconds, or a dash where there is no limit. -/
def microsText : Option Nat → String
  | some n => toString n ++ "us"
  | none => "-"

/-- The colour of a percentage: red from 90 on, yellow from 70 on. -/
def percentPaint (x : Float) : Paint :=
  if 90.0 ≤ x then .red else if 70.0 ≤ x then .yellow else .green

/-- A percentage with one place. -/
def percentText (colour : Bool) (x : Float) : String :=
  (percentPaint x).apply colour (fixed 1 x ++ "%")

/-- The colour of a word for how something fares, whatever its case. -/
def statusPaint? (status : String) : Option Paint :=
  let word := Text.lower status
  if word ∈ ["available", "active", "ok"] then some .green
  else if word ∈ ["degraded", "fallback"] then some .yellow
  else if word ∈ ["unavailable", "error", "disabled"] then some .red
  else none

/-- A word for how something fares. -/
def statusText (colour : Bool) (status : String) : String :=
  match statusPaint? status with
  | some p => p.apply colour status
  | none => status

end UsageMeter.Cli
