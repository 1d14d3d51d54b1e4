import UsageMeter.Text.Numeral
import UsageMeter.Decimal.Reading

/-!
Reading the parts of a JSON text. Every reader takes the rest of a text and
gives what it read with what follows it, or a `Fault` that says whether the
text breaks the grammar, ends too early, or holds a value of the wrong kind.
A text is read from the left and the first fault counts.
-/
namespace UsageMeter.Json
open UsageMeter.Text (digit?)

/-- What is wrong with a text. -/
inductive Fault where
  /-- The text breaks the grammar. -/
  | malformed
  /-- The text ends inside a value. -/
  | unfinished
  /-- A value is well formed but not of the wanted kind. -/
  | unfit
deriving DecidableEq, Repr

/-- What a reader gives: a value and the rest of the text. -/
abbrev Read (α : Type) := Except Fault (α × List Char)

/-- The blanks between parts of a text. -/
def isGap (c : Char) : Bool :=
  c == ' ' || c == '\n' || c == '\t' || c == '\r'

/-- The text without the blanks in front. -/
def skipGaps (s : List Char) : List Char :=
  s.dropWhile isGap

/-- Reads the rest of a word. -/
def word : List Char → List Char → Except Fault (List Char)
  | [], s => .ok s
  | _ :: _, [] => .error .unfinished
  | c :: cs, d :: s => if c = d then word cs s else .error .malformed

/-! ## Strings -/

/-- The value of a hexadecimal digit. -/
def hexValue? (c : Char) : Option Nat :=
  let n := c.toNat
  if 48 ≤ n ∧ n ≤ 57 then some (n - 48)
  else if 97 ≤ n ∧ n ≤ 102 then some (n - 87)
  else if 65 ≤ n ∧ n ≤ 70 then some (n - 55)
  else none

/-- Reads four hexadecimal digits. With fewer than four bytes left the text is
unfinished, whatever they are. -/
def fourHex (s : List Char) : Read Nat :=
  match s with
  | a :: b :: c :: d :: r =>
    match hexValue? a, hexValue? b, hexValue? c, hexValue? d with
    | some w, some x, some y, some z => .ok (((w * 16 + x) * 16 + y) * 16 + z, r)
    | _, _, _, _ => .error .malformed
  | short =>
    if (String.ofList short).utf8ByteSize < 4 then .error .unfinished else .error .malformed

/-- Reads the second half of a surrogate pair. -/
def lowSurrogate (high : Nat) (s : List Char) : Read Char :=
  match s with
  | [] => .error .unfinished
  | '\\' :: [] => .error .unfinished
  | '\\' :: 'u' :: r =>
    match fourHex r with
    | .error e => .error e
    | .ok (low, r) =>
      if 0xDC00 ≤ low ∧ low ≤ 0xDFFF then
        .ok (Char.ofNat (0x10000 + (high - 0xD800) * 0x400 + (low - 0xDC00)), r)
      else .error .malformed
  | _ => .error .malformed

/-- Reads what follows a backslash. -/
def escaped (s : List Char) : Read Char :=
  match s with
  | [] => .error .unfinished
  | '"' :: r => .ok ('"', r)
  | '\\' :: r => .ok ('\\', r)
  | '/' :: r => .ok ('/', r)
  | 'b' :: r => .ok ('\x08', r)
  | 'f' :: r => .ok ('\x0c', r)
  | 'n' :: r => .ok ('\n', r)
  | 'r' :: r => .ok ('\r', r)
  | 't' :: r => .ok ('\t', r)
  | 'u' :: r =>
    match fourHex r with
    | .error e => .error e
    | .ok (n, r) =>
      if 0xDC00 ≤ n ∧ n ≤ 0xDFFF then .error .malformed
      else if 0xD800 ≤ n ∧ n ≤ 0xDBFF then lowSurrogate n r
      else .ok (Char.ofNat n, r)
  | _ => .error .malformed

theorem fourHex_length {s r : List Char} {n : Nat} (h : fourHex s = .ok (n, r)) :
    r.length < s.length := by
  unfold fourHex at h
  split at h
  · split at h
    · simp only [Except.ok.injEq, Prod.mk.injEq] at h
      simp only [← h.2, List.length_cons]
      omega
    · cases h
  · split at h <;> cases h

theorem lowSurrogate_length {high : Nat} {s r : List Char} {c : Char}
    (h : lowSurrogate high s = .ok (c, r)) : r.length < s.length := by
  unfold lowSurrogate at h
  split at h
  · cases h
  · cases h
  · split at h
    · cases h
    · rename_i hex
      split at h
      · simp only [Except.ok.injEq, Prod.mk.injEq] at h
        have := fourHex_length hex
        simp only [← h.2, List.length_cons]
        omega
      · cases h
  · cases h

theorem escaped_length {s r : List Char} {c : Char} (h : escaped s = .ok (c, r)) :
    r.length < s.length := by
  unfold escaped at h
  split at h
  · cases h
  all_goals try
    (simp only [Except.ok.injEq, Prod.mk.injEq] at h
     simp only [← h.2, List.length_cons]
     omega)
  · split at h
    · cases h
    · rename_i hex
      have := fourHex_length hex
      split at h
      · cases h
      · split at h
        · have := lowSurrogate_length h
          simp only [List.length_cons]
          omega
        · simp only [Except.ok.injEq, Prod.mk.injEq] at h
          simp only [← h.2, List.length_cons]
          omega
  · cases h

/-- Reads a string after its first quote, up to its last. -/
def stringBody (s : List Char) : Read (List Char) :=
  match s with
  | [] => .error .unfinished
  | c :: r =>
    if c = '"' then .ok ([], r)
    else if c = '\\' then
      match h : escaped r with
      | .error e => .error e
      | .ok (d, rest) =>
        have : rest.length < r.length := escaped_length h
        (stringBody rest).map fun (t, after) => (d :: t, after)
    else if c.toNat < 32 then .error .malformed
    else (stringBody r).map fun (t, after) => (c :: t, after)
termination_by s.length

/-- Passes over a string after its first quote; escapes need only be of the
right form. -/
def skipString (s : List Char) : Except Fault (List Char) :=
  match s with
  | [] => .error .unfinished
  | '"' :: r => .ok r
  | '\\' :: [] => .error .unfinished
  | '\\' :: 'u' :: r =>
    match h : fourHex r with
    | .error e => .error e
    | .ok (_, rest) =>
      have : rest.length < r.length := fourHex_length h
      skipString rest
  | '\\' :: c :: r =>
    if c = '"' ∨ c = '\\' ∨ c = '/' ∨ c = 'b' ∨ c = 'f' ∨ c = 'n' ∨ c = 'r' ∨ c = 't' then
      skipString r
    else .error .malformed
  | c :: r => if c.toNat < 32 then .error .malformed else skipString r
termination_by s.length
decreasing_by all_goals (simp only [List.length_cons]; omega)

/-! ## Numbers -/

/-- A number: a natural or a negative integer if it is written as one and fits
64 bits, else a double. -/
inductive Number where
  | natural (n : Nat)
  | negative (n : Int)
  | double (x : Float)

/-- Brings an exponent to the whole number of its digits, by one power of ten
or, far below, by several. -/
def scaleDown (x : Float) : Nat → Nat → Float
  | 0, _ => x
  | fuel + 1, places =>
    if places ≤ 308 then x / Decimal.toFloat false 1 places
    else scaleDown (x / Decimal.toFloat false 1 308) fuel (places - 308)

/-- The double of `± significand · 10 ^ exponent`, by one multiplication or
division of doubles for each power of ten that a double can hold. -/
def double (negative : Bool) (significand : Nat) (exponent : Int) : Except Fault Float :=
  let x := Float.ofNat significand
  let signed (y : Float) := if negative then -y else y
  if exponent < 0 then .ok (signed (if significand = 0 then x else
    scaleDown x 12 (min exponent.natAbs 3000)))
  else if significand = 0 then .ok (signed x)
  else if 308 < exponent then .error .malformed
  else
    let y := x * Decimal.toFloat false 1 exponent
    if y.isInf then .error .malformed else .ok (signed y)

/-- Takes digits into a significand as long as it fits; gives the number of
digits taken and of digits passed over. -/
def takeSignificand : Nat → List Char → Nat × Nat × Nat × List Char
  | acc, [] => (acc, 0, 0, [])
  | acc, c :: r =>
    match digit? c with
    | none => (acc, 0, 0, c :: r)
    | some d =>
      if acc * 10 + d ≤ maxWord64 then
        let (n, taken, passed, rest) := takeSignificand (acc * 10 + d) r
        (n, taken + 1, passed, rest)
      else
        let (ds, rest) := Decimal.spanDigits (c :: r)
        (acc, 0, ds.length, rest)

/-- Reads an exponent after its letter. -/
def exponentPart (negative : Bool) (significand : Nat) (before : Int) (s : List Char) :
    Read Float :=
  let (down, r) :=
    match s with
    | '+' :: r => (false, r)
    | '-' :: r => (true, r)
    | r => (false, r)
  match r with
  | [] => .error .unfinished
  | _ :: _ =>
    let (ds, rest) := Decimal.spanDigits r
    if ds.isEmpty then .error .malformed
    else
      let e : Int := Decimal.digitsValue 0 ds
      let e := min e 2147483648
      (double negative significand (if down then before - e else before + e)).map (·, rest)

/-- Reads an exponent if there is one. -/
def exponentIfAny (negative : Bool) (significand : Nat) (before : Int) (s : List Char) :
    Read Float :=
  match s with
  | 'e' :: r => exponentPart negative significand before r
  | 'E' :: r => exponentPart negative significand before r
  | r => (double negative significand before).map (·, r)

/-- Reads a fraction after its point. -/
def fractionPart (negative : Bool) (significand : Nat) (before : Int) (s : List Char) :
    Read Float :=
  let (n, taken, passed, rest) := takeSignificand significand s
  if taken = 0 ∧ passed = 0 then
    (match rest with
     | [] => .error .unfinished
     | _ => .error .malformed)
  else exponentIfAny negative n (before - taken) rest

/-- Reads a number after its sign. -/
def number (negative : Bool) (s : List Char) : Read Number :=
  match s with
  | [] => .error .unfinished
  | c :: r =>
    match digit? c with
    | none => .error .malformed
    | some d =>
      let startsWithDigit (t : List Char) : Bool :=
        match t with
        | [] => false
        | c :: _ => (digit? c).isSome
      if d = 0 ∧ startsWithDigit r then .error .malformed
      else
        let (n, _, passed, rest) := takeSignificand 0 (c :: r)
        match rest with
        | '.' :: t => (fractionPart negative n passed t).map fun (x, u) => (.double x, u)
        | 'e' :: t => (exponentPart negative n passed t).map fun (x, u) => (.double x, u)
        | 'E' :: t => (exponentPart negative n passed t).map fun (x, u) => (.double x, u)
        | _ =>
          if passed ≠ 0 then (double negative n passed).map fun x => (.double x, rest)
          else if !negative then .ok (.natural n, rest)
          else if n = 0 ∨ maxInt64 + 1 < n then .ok (.double (-(Float.ofNat n)), rest)
          else .ok (.negative (-(n : Int)), rest)

/-- Passes over digits of which there must be one. -/
def skipDigits (s : List Char) : Except Fault (List Char) :=
  match Decimal.spanDigits s with
  | ([], _) => .error .malformed
  | (_, rest) => .ok rest

/-- Passes over an exponent if there is one. -/
def skipExponent (s : List Char) : Except Fault (List Char) :=
  let afterSign (r : List Char) : Except Fault (List Char) :=
    match r with
    | '+' :: t => skipDigits t
    | '-' :: t => skipDigits t
    | t => skipDigits t
  match s with
  | 'e' :: r => afterSign r
  | 'E' :: r => afterSign r
  | r => .ok r

/-- Passes over a number after its sign. -/
def skipNumber (s : List Char) : Except Fault (List Char) :=
  match Decimal.spanDigits s with
  | ([], _) => .error .malformed
  | (0 :: _ :: _, _) => .error .malformed
  | (_, rest) =>
    match rest with
    | '.' :: r => skipDigits r >>= skipExponent
    | r => skipExponent r

/-! ## Values of no interest -/

mutual

/-- Passes over a value of any kind; `fuel` bounds the steps. -/
def skipValue (fuel : Nat) (s : List Char) : Except Fault (List Char) :=
  match fuel with
  | 0 => .error .malformed
  | fuel + 1 =>
    match skipGaps s with
    | [] => .error .unfinished
    | 'n' :: r => word "ull".toList r
    | 't' :: r => word "rue".toList r
    | 'f' :: r => word "alse".toList r
    | '-' :: r => skipNumber r
    | '"' :: r => skipString r
    | '[' :: r => skipElements fuel true r
    | '\x7b' :: r => skipFields fuel true r
    | c :: r => if (digit? c).isSome then skipNumber (c :: r) else .error .malformed

/-- Passes over the elements of an array. -/
def skipElements (fuel : Nat) (first : Bool) (s : List Char) : Except Fault (List Char) :=
  match fuel with
  | 0 => .error .malformed
  | fuel + 1 =>
    match skipGaps s with
    | [] => .error .unfinished
    | ']' :: r => .ok r
    | c :: r =>
      if first then skipValue fuel (c :: r) >>= skipElements fuel false
      else if c = ',' then skipValue fuel r >>= skipElements fuel false
      else .error .malformed

/-- Passes over the fields of an object. -/
def skipFields (fuel : Nat) (first : Bool) (s : List Char) : Except Fault (List Char) :=
  match fuel with
  | 0 => .error .malformed
  | fuel + 1 =>
    let field (t : List Char) : Except Fault (List Char) :=
      match skipGaps t with
      | [] => .error .unfinished
      | '"' :: r => do
        match skipGaps (← skipString r) with
        | [] => .error .unfinished
        | ':' :: r => skipValue fuel r >>= skipFields fuel false
        | _ => .error .malformed
      | _ => .error .malformed
    match skipGaps s with
    | [] => .error .unfinished
    | '\x7d' :: r => .ok r
    | c :: r =>
      if first then field (c :: r)
      else if c = ',' then field r
      else .error .malformed

end

/-- Passes over a value. -/
def skip (s : List Char) : Except Fault (List Char) :=
  skipValue (2 * s.length + 2) s

end UsageMeter.Json
