import UsageMeter.Decimal.Binary64

/-!
Lengths of time. A `Span` is a number of nanoseconds whose whole seconds fit
64 bits, so not every span can be doubled: `Span.twice` fails where twice the
span has no room.
-/
namespace UsageMeter.Time
open UsageMeter.Decimal

/-- Nanoseconds in a second. -/
def nanosPerSecond : Nat := 1000000000

/-- The first number of nanoseconds that is too long for a span. -/
def spanLimit : Nat := (maxWord64 + 1) * nanosPerSecond

/-- A length of time in nanoseconds. -/
structure Span where
  nanos : Nat
  inRange : nanos < spanLimit := by decide
deriving DecidableEq, Repr

/-- A multiple of a span has no room. -/
inductive SpanOverflow where
  | mk
deriving DecidableEq, Repr

/-- The wording of an overflow. -/
def SpanOverflow.message (_ : SpanOverflow) : String :=
  "overflow when multiplying duration by scalar"

namespace Span

/-- The empty span. -/
def zero : Span := ⟨0, by decide⟩

/-- The longest span. -/
def longest : Span := ⟨spanLimit - 1, by decide⟩

/-- The span of so many nanoseconds, if it has room. -/
def ofNanos? (n : Nat) : Option Span :=
  if h : n < spanLimit then some ⟨n, h⟩ else none

/-- The span of so many nanoseconds, or the longest one. -/
def ofNanos (n : Nat) : Span :=
  if h : n < spanLimit then ⟨n, h⟩ else longest

/-- The span of so many seconds. -/
def ofSeconds (n : UInt64) : Span :=
  ⟨n.toNat * nanosPerSecond,
    Nat.mul_lt_mul_of_lt_of_le n.toNat_lt (Nat.le_refl _) (by decide)⟩

/-- The span of so many milliseconds. -/
def ofMillis (n : UInt64) : Span :=
  ofNanos (n.toNat * 1000000)

/-- The whole seconds of a span. -/
def seconds (s : Span) : Nat := s.nanos / nanosPerSecond

/-- The nanoseconds of a span beyond its whole seconds. -/
def subsecond (s : Span) : Nat := s.nanos % nanosPerSecond

/-- The whole milliseconds of a span. -/
def millis (s : Span) : Nat := s.nanos / 1000000

/-- A span twice as long. -/
def twice (s : Span) : Except SpanOverflow Span :=
  match ofNanos? (2 * s.nanos) with
  | some t => .ok t
  | none => .error .mk

/-- A span in seconds, as the sum of its whole seconds and the rest. -/
def toFloat (s : Span) : Float :=
  Float.ofNat s.seconds + Float.ofNat s.subsecond / Float.ofNat nanosPerSecond

/-- The span of a positive number of seconds, to the nearest nanosecond, if it
has room. -/
def ofFloat? (x : Float) : Option Span :=
  match Binary64.ofFloat x with
  | .finite false mantissa exponent =>
    ofNanos? (roundDiv .toEven (mantissa * nanosPerSecond * twoTo exponent.toNat)
      (twoTo (-exponent).toNat))
  | _ => none

theorem ofNanos?_of_lt {n : Nat} (h : n < spanLimit) : ofNanos? n = some ⟨n, h⟩ := by
  simp [ofNanos?, h]

theorem ofNanos?_of_le {n : Nat} (h : spanLimit ≤ n) : ofNanos? n = none := by
  simp [ofNanos?, Nat.not_lt.mpr h]

theorem twice_of_lt {s : Span} (h : 2 * s.nanos < spanLimit) :
    s.twice = .ok ⟨2 * s.nanos, h⟩ := by
  simp [twice, ofNanos?_of_lt h]

theorem twice_of_le {s : Span} (h : spanLimit ≤ 2 * s.nanos) : s.twice = .error .mk := by
  simp [twice, ofNanos?_of_le h]

end Span
end UsageMeter.Time
