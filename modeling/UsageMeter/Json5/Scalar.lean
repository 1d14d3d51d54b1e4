import UsageMeter.Decimal.Reading
import UsageMeter.Json.Scan
import UsageMeter.Json.Value
import UsageMeter.Text.Blank
import UsageMeter.Text.Listing

/-!
The parts of a JSON5 text: gaps with comments, strings in either quotes, names
without quotes, and numbers, which may be hexadecimal, signed, or not finite.
-/
namespace UsageMeter.Json5
open UsageMeter.Json (Value hexValue?)
open UsageMeter.Text (after?)

/-! ## Gaps -/

/-- Whether a character ends a line. -/
def isBreak (c : Char) : Bool :=
  c == '\n' || c == '\r' || c == '\u2028' || c == '\u2029'

/-- Whether a character may stand between any two parts. -/
def isGap (c : Char) : Bool :=
  (Text.isBlank c && c != '\u0085') || c == '\ufeff'

/-- Where a gap stands. -/
inductive Gap where
  | plain
  /-- In a comment that its line ends. -/
  | line
  /-- In a comment that has a mark of its own at its end. -/
  | block

/-- Passes over a gap; none if a comment lacks its end. -/
def skipGap : Gap → List Char → Option (List Char)
  | .block, [] => none
  | _, [] => some []
  | .block, '*' :: '/' :: r => skipGap .plain r
  | .block, _ :: r => skipGap .block r
  | .line, c :: r => if isBreak c then skipGap .plain r else skipGap .line r
  | .plain, '/' :: '/' :: r => skipGap .line r
  | .plain, '/' :: '*' :: r => skipGap .block r
  | .plain, c :: r => if isGap c then skipGap .plain r else some (c :: r)

/-- Passes over blanks and comments. -/
def skipGaps (s : List Char) : Option (List Char) :=
  skipGap .plain s

/-! ## Strings -/

/-- The character of an escape of one letter. The letters that begin other escapes,
and the digits, have none; every other character stands for itself. -/
def escape? (c : Char) : Option Char :=
  match c with
  | 'b' => some '\x08'
  | 'f' => some '\x0c'
  | 'n' => some '\n'
  | 'r' => some '\r'
  | 't' => some '\t'
  | 'v' => some '\x0b'
  | '0' => some '\x00'
  | 'x' => none
  | 'u' => none
  | c => if c.isDigit then none else some c

/-- Reads what follows a backslash: a character, or nothing where a line ends. -/
def escaped (s : List Char) : Option (List Char × List Char) :=
  match s with
  | [] => none
  | '\r' :: '\n' :: r => some ([], r)
  | 'x' :: a :: b :: r => do
    let high ← hexValue? a
    let low ← hexValue? b
    some ([Char.ofNat (high * 16 + low)], r)
  | 'u' :: r => ((Json.escaped ('u' :: r)).toOption).map fun (c, rest) => ([c], rest)
  | c :: r => if isBreak c then some ([], r) else (escape? c).map fun d => ([d], r)

/-- Reads a string up to its closing quote, by steps. -/
def string (quote : Char) : Nat → List Char → Option (List Char × List Char)
  | 0, _ => none
  | _ + 1, [] => none
  | n + 1, c :: r =>
    if c = quote then some ([], r)
    else if c = '\\' then do
      let (t, rest) ← escaped r
      (string quote n rest).map fun (more, rest) => (t ++ more, rest)
    else if isBreak c then none
    else (string quote n r).map fun (more, rest) => (c :: more, rest)

/-- Reads a string, if a quote stands here. -/
def quoted? (s : List Char) : Option (Option (List Char × List Char)) :=
  match s with
  | '"' :: r => some (string '"' (r.length + 1) r)
  | '\'' :: r => some (string '\'' (r.length + 1) r)
  | _ => none

/-! ## Names -/

/-- Whether a character may begin a name; outside ASCII all but gaps may. -/
def isNameStart (c : Char) : Bool :=
  c.isAlpha || c == '$' || c == '_' || (128 ≤ c.toNat && !isGap c && c != '\u0085')

/-- Reads the characters of a name, by steps; `first` tells whether it begins here. -/
def nameChars (first : Bool) : Nat → List Char → List Char × List Char
  | 0, s => ([], s)
  | n + 1, s =>
    match s with
    | [] => ([], [])
    | '\\' :: 'u' :: r =>
      match Json.fourHex r with
      | .error _ => ([], s)
      | .ok (code, rest) =>
        if code.isValidChar then
          let (t, rest) := nameChars false n rest
          (Char.ofNat code :: t, rest)
        else ([], s)
    | c :: r =>
      if isNameStart c || (!first && c.isDigit) then
        let (t, rest) := nameChars false n r
        (c :: t, rest)
      else ([], s)

/-- Reads the name of a field, with or without quotes. -/
def name (s : List Char) : Option (String × List Char) :=
  match quoted? s with
  | some read => read.map fun (t, rest) => (String.ofList t, rest)
  | none =>
    match nameChars true s.length s with
    | ([], _) => none
    | (t, rest) => some (String.ofList t, rest)

/-! ## Numbers -/

/-- Takes an exponent, if the text begins with its letter. -/
def takeExponent (s : List Char) : Option (List Char × List Char) :=
  match s with
  | [] => some ([], [])
  | c :: r =>
    if c = 'e' ∨ c = 'E' then
      let (sign, r) :=
        match r with
        | '+' :: r => ([], r)
        | '-' :: r => (['-'], r)
        | r => ([], r)
      let digits := r.takeWhile Char.isDigit
      if digits.isEmpty then none
      else some ('e' :: (sign ++ digits), r.dropWhile Char.isDigit)
    else some ([], c :: r)

/-- Takes the digits in front of a point; no zero stands in front of others. -/
def takeWhole (s : List Char) : List Char × List Char :=
  match s with
  | '0' :: r => (['0'], r)
  | s => (s.takeWhile Char.isDigit, s.dropWhile Char.isDigit)

/-- Reads a decimal behind its sign: an integer of 64 bits, or a double if there is
a point or an exponent. -/
def decimal (sign s : List Char) : Option (Value × List Char) := do
  let (whole, rest) := takeWhole s
  let (part, rest) :=
    match rest with
    | '.' :: r => ('.' :: r.takeWhile Char.isDigit, r.dropWhile Char.isDigit)
    | r => ([], r)
  if whole.isEmpty ∧ part.length ≤ 1 then none
  else
    let (e, rest) ← takeExponent rest
    if part.isEmpty ∧ e.isEmpty then
      ((UsageMeter.Text.int64? (sign ++ whole)).toOption).map fun n => (.integer n, rest)
    else
      let x ← Decimal.float? (sign ++ whole ++ part ++ e)
      if x.isFinite then some (.float x, rest) else none

/-- Reads a number in hexadecimal digits of at most 32 bits. -/
def hexadecimal (s : List Char) : Option (Value × List Char) :=
  let digits := s.takeWhile fun c => (hexValue? c).isSome
  let n := digits.foldl (fun n c => n * 16 + (hexValue? c).getD 0) 0
  if digits.isEmpty ∨ maxWord32 < n then none
  else some (.integer n, s.drop digits.length)

/-- Reads a number. Only decimals may have a plus sign, and a number in hexadecimal
digits has no sign. -/
def number (s : List Char) : Option (Value × List Char) :=
  let (sign, r) :=
    match s with
    | '+' :: r => (['+'], r)
    | '-' :: r => (['-'], r)
    | r => ([], r)
  match r with
  | '0' :: 'x' :: t => if sign.isEmpty then hexadecimal t else none
  | '0' :: 'X' :: t => if sign.isEmpty then hexadecimal t else none
  | r =>
    match after? "Infinity".toList r, after? "NaN".toList r with
    | some rest, _ =>
      if sign = ['+'] then none
      else (Decimal.float? (sign ++ "inf".toList)).map fun x => (.float x, rest)
    | _, some rest => if sign = ['+'] then none else some (.float Decimal.notANumber, rest)
    | none, none => decimal sign r

/-- The words that are values. -/
def word? (s : List Char) : Option (Value × List Char) :=
  match after? "null".toList s, after? "true".toList s, after? "false".toList s with
  | some rest, _, _ => some (.null, rest)
  | _, some rest, _ => some (.bool true, rest)
  | _, _, some rest => some (.bool false, rest)
  | none, none, none => none

/-- Reads a value that holds no others. -/
def scalar (s : List Char) : Option (Value × List Char) :=
  match quoted? s with
  | some read => read.map fun (t, rest) => (.string (String.ofList t), rest)
  | none => (word? s).orElse fun _ => number s

end UsageMeter.Json5
