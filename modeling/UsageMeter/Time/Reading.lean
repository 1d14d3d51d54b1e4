import UsageMeter.Time.Timestamp
import UsageMeter.Text.Blank
import UsageMeter.Text.Numeral

/-!
Reading points in time. The form is that of Internet dates, read leniently:
blanks may stand before each number, each dash and each colon, numbers may have fewer
digits, a space may stand for the `T`, and the zone is `Z`, `UTC` or an offset
in hours and minutes.
-/
namespace UsageMeter.Time
open UsageMeter.Text (digit? trimStart isBlank)

/-- Reads at most `n` further digits onto `acc`. -/
def takeDigits : Nat → Nat → List Char → Nat × List Char
  | 0, acc, s => (acc, s)
  | _ + 1, acc, [] => (acc, [])
  | n + 1, acc, c :: r =>
    match digit? c with
    | some d => takeDigits n (acc * 10 + d) r
    | none => (acc, c :: r)

/-- Reads a number of one to `width` digits. -/
def number? (width : Nat) (s : List Char) : Option (Nat × List Char) :=
  match s with
  | [] => none
  | c :: _ => if (digit? c).isSome then some (takeDigits width 0 s) else none

/-- Reads a number within bounds, after blanks. -/
def field? (width low high : Nat) (s : List Char) : Option (Nat × List Char) := do
  let (n, r) ← number? width (trimStart s)
  if low ≤ n ∧ n ≤ high then some (n, r) else none

/-- Reads a year: up to four digits, or a sign and any number of them. -/
def year? (s : List Char) : Option (Int × List Char) :=
  match trimStart s with
  | '-' :: r => (number? r.length r).map fun (n, rest) => (-(n : Int), rest)
  | '+' :: r => (number? r.length r).map fun (n, rest) => ((n : Int), rest)
  | r => (number? 4 r).map fun (n, rest) => ((n : Int), rest)

/-- Reads one character, after blanks. -/
def mark? (c : Char) (s : List Char) : Option (List Char) :=
  match trimStart s with
  | [] => none
  | d :: r => if d = c then some r else none

/-- Reads the fraction of a second; digits after the ninth are dropped. -/
def fraction? (s : List Char) : Option (Nat × List Char) :=
  match s with
  | '.' :: r => do
    let (n, rest) ← number? 9 r
    some (n * tenTo (9 - (r.length - rest.length)), rest.dropWhile fun c => (digit? c).isSome)
  | r => some (0, r)

/-- Reads exactly two digits. -/
def twoDigits? : List Char → Option (Nat × List Char)
  | a :: b :: r => do
    let x ← digit? a
    let y ← digit? b
    some (x * 10 + y, r)
  | _ => none

/-- Reads an offset from UTC, in seconds. -/
def offset? (s : List Char) : Option (Int × List Char) :=
  match s with
  | [] => none
  | c :: r =>
    if c = 'Z' ∨ c = 'z' then some (0, r)
    else if c = '+' ∨ c = '-' ∨ c = '−' then do
      let (hours, r) ← twoDigits? r
      let (minutes, r) ← twoDigits? (r.dropWhile fun c => c == ':' || isBlank c)
      if minutes ≤ 59 then
        let seconds : Int := hours * 3600 + minutes * 60
        some (if c = '+' then seconds else -seconds, r)
      else none
    else none

/-- Reads the zone: `UTC` in any case, or an offset. -/
def zone? (s : List Char) : Option (Int × List Char) :=
  if (s.take 3).map Char.toUpper = ['U', 'T', 'C'] then some (0, s.drop 3) else offset? s

/-- The years the calendar of timestamps covers. -/
def yearInRange (year : Int) : Bool :=
  -262143 ≤ year && year ≤ 262142

/-- Reads a point in time. -/
def Timestamp.read? (s : List Char) : Option Timestamp := do
  let (year, s) ← year? s
  let (month, s) ← field? 2 1 12 (← mark? '-' s)
  let (dayOfMonth, s) ← field? 2 1 31 (← mark? '-' s)
  let s ←
    match s with
    | 'T' :: r => some r
    | 't' :: r => some r
    | ' ' :: r => some r
    | _ => none
  let (hour, s) ← field? 2 0 23 s
  let (minute, s) ← field? 2 0 59 (← mark? ':' s)
  let (second, s) ← field? 2 0 60 (← mark? ':' s)
  let (nanos, s) ← fraction? s
  let (offset, s) ← zone? (trimStart s)
  let date : Date := ⟨year, month, dayOfMonth⟩
  if !(trimStart s).isEmpty || !date.valid || !yearInRange year then none
  else if offset ≤ -86400 ∨ 86400 ≤ offset then none
  else
    let ofDay : Nat := hour * 3600 + minute * 60 + min second 59
    let seconds := date.day * 86400 + ofDay - offset
    if yearInRange (Date.ofDay (seconds / 86400)).year then
      some ⟨seconds, nanos + if second = 60 then nanosPerSecond else 0⟩
    else none

end UsageMeter.Time
