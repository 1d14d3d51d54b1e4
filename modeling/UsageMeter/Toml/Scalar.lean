import UsageMeter.Decimal.Reading
import UsageMeter.Json.Value
import UsageMeter.Time.Reading
import UsageMeter.Toml.Strings

/-!
TOML values that are neither strings nor made of other values: truth values,
integers in four bases, doubles, and dates and times, which are kept as text in
their usual form.
-/
namespace UsageMeter.Toml
open UsageMeter.Json (Value hexValue?)
open UsageMeter.Text (digit?)
open UsageMeter.Time (Date takeDigits)

/-- The characters that numbers, dates and words are made of. -/
def isWordChar (c : Char) : Bool :=
  c.isAlphanum || c == '_' || c == '+' || c == '-' || c == '.' || c == ':'

/-! ## Numbers -/

/-- Digits without the underscores that may stand between two of them. -/
def digits? (isDigit : Char → Bool) : List Char → Option (List Char)
  | [] => none
  | [c] => if isDigit c then some [c] else none
  | c :: '_' :: r => if isDigit c then (digits? isDigit r).map (c :: ·) else none
  | c :: r => if isDigit c then (digits? isDigit r).map (c :: ·) else none

/-- The value of digits in a base. -/
def baseValue? (base : Nat) (s : List Char) : Option Nat := do
  let ds ← digits? (fun c => (hexValue? c).any (· < base)) s
  some (ds.foldl (fun n c => n * base + (hexValue? c).getD 0) 0)

/-- Digits of a whole number, which begin with no needless zero. -/
def wholeDigits? (s : List Char) : Option (List Char) := do
  let ds ← digits? Char.isDigit s
  if 1 < ds.length ∧ ds.head? = some '0' then none else some ds

/-- A sign and what follows it. -/
def cutSign : List Char → List Char × List Char
  | '-' :: r => (['-'], r)
  | '+' :: r => ([], r)
  | r => ([], r)

/-- An integer of 64 bits. -/
def integer? (s : List Char) : Option Int := do
  let n ←
    match s with
    | '0' :: 'x' :: r => (baseValue? 16 r).map Int.ofNat
    | '0' :: 'o' :: r => (baseValue? 8 r).map Int.ofNat
    | '0' :: 'b' :: r => (baseValue? 2 r).map Int.ofNat
    | s =>
      let (sign, r) := cutSign s
      (wholeDigits? r).map fun ds =>
        let n : Int := Decimal.digitsValue 0 (ds.filterMap digit?)
        if sign.isEmpty then n else -n
  if -(maxInt64 : Int) - 1 ≤ n ∧ n ≤ maxInt64 then some n else none

/-- The exponent of a double, from its letter on. -/
def exponentDigits? : List Char → Option (List Char)
  | [] => some []
  | _ :: r =>
    let (sign, r) := cutSign r
    (digits? Char.isDigit r).map fun ds => 'e' :: (sign ++ ds)

/-- The fraction and the exponent of a double, of which one must be there. -/
def fractionDigits? (s : List Char) : Option (List Char) :=
  let isLetter (c : Char) : Bool := c == 'e' || c == 'E'
  match s with
  | [] => none
  | '.' :: r => do
    let part ← digits? Char.isDigit (r.takeWhile fun c => !isLetter c)
    let e ← exponentDigits? (r.dropWhile fun c => !isLetter c)
    some ('.' :: (part ++ e))
  | c :: r => if isLetter c then exponentDigits? (c :: r) else none

/-- A double; a number too great for one is none. -/
def float? (s : List Char) : Option Float := do
  let (sign, r) := cutSign s
  if r = "inf".toList ∨ r = "nan".toList then Decimal.float? (sign ++ r)
  else
    let isWhole (c : Char) : Bool := c.isDigit || c == '_'
    let whole ← wholeDigits? (r.takeWhile isWhole)
    let part ← fractionDigits? (r.dropWhile isWhole)
    let x ← Decimal.float? (sign ++ whole ++ part)
    if sign.isEmpty ∧ x.isInf then none else some x

/-! ## Dates and times -/

/-- Reads a number of exactly so many digits. -/
def exactly? (width : Nat) (s : List Char) : Option (Nat × List Char) :=
  if (s.take width).length = width ∧ (s.take width).all Char.isDigit then
    some (takeDigits width 0 s)
  else none

/-- Reads a character. -/
def mark? (c : Char) : List Char → Option (List Char)
  | d :: r => if d = c then some r else none
  | [] => none

/-- Reads a date as its text. -/
def date? (s : List Char) : Option (List Char × List Char) := do
  let (year, r) ← exactly? 4 s
  let (month, r) ← exactly? 2 (← mark? '-' r)
  let (day, r) ← exactly? 2 (← mark? '-' r)
  if (⟨year, month, day⟩ : Date).valid then some (s.take 10, r) else none

/-- The fraction of a second, to nine digits and without zeros at its end. -/
def fractionText (ds : List Char) : List Char :=
  let kept := ((ds.take 9).reverse.dropWhile (· == '0')).reverse
  if kept.isEmpty then [] else '.' :: kept

/-- Reads a time of day as its text. -/
def time? (s : List Char) : Option (List Char × List Char) := do
  let (hour, r) ← exactly? 2 s
  let (minute, r) ← exactly? 2 (← mark? ':' r)
  let (second, r) ← exactly? 2 (← mark? ':' r)
  if hour ≤ 23 ∧ minute ≤ 59 ∧ second ≤ 60 then
    match r with
    | '.' :: f =>
      let ds := f.takeWhile Char.isDigit
      if ds.isEmpty then none else some (s.take 8 ++ fractionText ds, f.dropWhile Char.isDigit)
    | r => some (s.take 8, r)
  else none

/-- The offset of a time from UTC, as its text. -/
def offset? (s : List Char) : Option (List Char) :=
  match s with
  | [] => some []
  | ['Z'] => some ['Z']
  | ['z'] => some ['Z']
  | sign :: r => do
    let (hours, t) ← exactly? 2 r
    let (minutes, t) ← exactly? 2 (← mark? ':' t)
    if (sign = '+' ∨ sign = '-') ∧ hours ≤ 23 ∧ minutes ≤ 59 ∧ t.isEmpty then
      some ((if hours = 0 ∧ minutes = 0 then '+' else sign) :: r)
    else none

/-- A date, a time of day, or both with or without an offset. -/
def moment? (s : List Char) : Option (List Char) :=
  match date? s with
  | some (date, []) => some date
  | some (date, c :: r) =>
    if c = 'T' ∨ c = 't' ∨ c = ' ' then do
      let (time, rest) ← time? r
      let offset ← offset? rest
      some (date ++ 'T' :: (time ++ offset))
    else none
  | none =>
    match time? s with
    | some (time, []) => some time
    | _ => none

/-- Cuts the word off that a text begins with. A date may be followed by a blank
and a time of day. -/
def cutWord (s : List Char) : List Char × List Char :=
  let w := s.takeWhile isWordChar
  let rest := s.dropWhile isWordChar
  match date? w, rest with
  | some (_, []), ' ' :: a :: r =>
    if a.isDigit then
      (w ++ ' ' :: (a :: r).takeWhile isWordChar, (a :: r).dropWhile isWordChar)
    else (w, rest)
  | _, _ => (w, rest)

/-- The value of a word. -/
def wordValue? (w : List Char) : Option Value :=
  if w = "true".toList then some (.bool true)
  else if w = "false".toList then some (.bool false)
  else
    ((integer? w).map .integer).orElse fun _ =>
      ((float? w).map .float).orElse fun _ =>
        (moment? w).map fun t => .string (String.ofList t)

end UsageMeter.Toml
