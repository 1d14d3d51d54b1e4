import UsageMeter.Time.Span
import UsageMeter.Time.Calendar

/-!
Points in time and their text. A `Timestamp` counts seconds from the start of
1970 and nanoseconds within the second; a leap second is written as
nanoseconds beyond the fifty-ninth second. `Timestamp.text` writes a point in
time in the Internet date format, in UTC.
-/
namespace UsageMeter.Time

/-- A point in time. -/
structure Timestamp where
  /-- Seconds since the start of 1970. -/
  seconds : Int
  /-- Nanoseconds within the second. -/
  nanos : Nat
deriving DecidableEq, Repr

/-- Digits of a natural, with zeros in front up to a width. -/
def padded (width n : Nat) : List Char :=
  let digits := Nat.toDigits 10 n
  List.replicate (width - digits.length) '0' ++ digits

namespace Timestamp

/-- Nanoseconds since the start of 1970. -/
def toNanos (t : Timestamp) : Int :=
  t.seconds * nanosPerSecond + t.nanos

/-- The time from `earlier` to `later`, or none at all if `later` comes first. -/
def since (later earlier : Timestamp) : Span :=
  Span.ofNanos (later.toNanos - earlier.toNanos).toNat

/-- The year, with a sign unless it has four digits. -/
def yearText (year : Int) : List Char :=
  if 0 ≤ year ∧ year ≤ 9999 then padded 4 year.toNat
  else (if year < 0 then '-' else '+') :: padded 4 year.natAbs

/-- The fraction of a second: none, or 3, 6 or 9 digits, as few as are exact. -/
def fractionText (nanos : Nat) : List Char :=
  if nanos = 0 then []
  else if nanos % 1000000 = 0 then '.' :: padded 3 (nanos / 1000000)
  else if nanos % 1000 = 0 then '.' :: padded 6 (nanos / 1000)
  else '.' :: padded 9 nanos

/-- The Internet date format in UTC. -/
def text (t : Timestamp) : String :=
  let date := Date.ofDay (t.seconds / 86400)
  let ofDay := (t.seconds % 86400).toNat
  let leap := t.nanos / nanosPerSecond
  String.ofList <|
    yearText date.year ++ '-' :: padded 2 date.month ++ '-' :: padded 2 date.dayOfMonth ++
    'T' :: padded 2 (ofDay / 3600) ++ ':' :: padded 2 (ofDay / 60 % 60) ++
    ':' :: padded 2 (ofDay % 60 + leap) ++ fractionText (t.nanos % nanosPerSecond) ++ ['Z']

end Timestamp
end UsageMeter.Time
