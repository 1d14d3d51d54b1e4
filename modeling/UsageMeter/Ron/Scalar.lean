import UsageMeter.Decimal.Reading
import UsageMeter.Json.Scan
import UsageMeter.Json.Value
import UsageMeter.Text.Listing

/-!
The parts of a RON text: gaps with comments that nest, identifiers, characters,
strings with and without escapes, and numbers.
-/
namespace UsageMeter.Ron
open UsageMeter.Json (Value hexValue?)

/-! ## Gaps -/

/-- Whether a character may stand between any two parts. -/
def isGap (c : Char) : Bool :=
  c == ' ' || c == '\t' || c == '\n' || c == '\r'

/-- Where a gap stands. -/
inductive Gap where
  /-- In so many comments, one in the other. -/
  | inside (depth : Nat)
  /-- In a comment that its line ends. -/
  | line

/-- Passes over a gap; none if a comment lacks its end. -/
def skipGap : Gap → List Char → Option (List Char)
  | .inside (_ + 1), [] => none
  | _, [] => some []
  | .line, c :: r => if c = '\n' then skipGap (.inside 0) r else skipGap .line r
  | .inside depth, '/' :: '*' :: r => skipGap (.inside (depth + 1)) r
  | .inside (depth + 1), '*' :: '/' :: r => skipGap (.inside depth) r
  | .inside (depth + 1), _ :: r => skipGap (.inside (depth + 1)) r
  | .inside 0, '/' :: '/' :: r => skipGap .line r
  | .inside 0, c :: r => if isGap c then skipGap (.inside 0) r else some (c :: r)

/-- Passes over blanks and comments. -/
def skipGaps (s : List Char) : Option (List Char) :=
  skipGap (.inside 0) s

/-! ## Identifiers -/

/-- Whether a character may begin an identifier. -/
def isIdentStart (c : Char) : Bool :=
  c.isAlpha || c == '_'

/-- Whether a character may go on an identifier. -/
def isIdentChar (c : Char) : Bool :=
  c.isAlphanum || c == '_'

/-- Whether a character may go on an identifier that is marked as raw. -/
def isRawChar (c : Char) : Bool :=
  isIdentChar c || c == '.' || c == '+' || c == '-'

/-- Reads an identifier; one with further characters needs the mark of a raw one. -/
def identifier (s : List Char) : Option (String × List Char) :=
  match s with
  | 'r' :: '#' :: r =>
    let t := r.takeWhile isRawChar
    if t.isEmpty then none else some (String.ofList t, r.drop t.length)
  | 'r' :: '"' :: _ => none
  | s =>
    let t := s.takeWhile isIdentChar
    let rest := s.drop t.length
    if !(s.head?).any isIdentStart || (rest.head?).any isRawChar then none
    else some (String.ofList t, rest)

/-- What follows a given identifier. -/
def afterIdent? (ident : String) (s : List Char) : Option (List Char) :=
  let t := s.takeWhile isIdentChar
  if t = ident.toList then some (s.drop t.length) else none

/-! ## Characters and strings -/

/-- The character of a code point in hexadecimal digits. -/
def codePoint? (digits : List Char) : Option Char := do
  let values ← digits.mapM hexValue?
  let n := values.foldl (fun n d => n * 16 + d) 0
  if !values.isEmpty ∧ n.isValidChar then some (Char.ofNat n) else none

/-- Reads what follows a backslash. -/
def escaped (s : List Char) : Option (Char × List Char) :=
  match s with
  | '\'' :: r => some ('\'', r)
  | '"' :: r => some ('"', r)
  | '\\' :: r => some ('\\', r)
  | 'n' :: r => some ('\n', r)
  | 'r' :: r => some ('\r', r)
  | 't' :: r => some ('\t', r)
  | '0' :: r => some ('\x00', r)
  | 'x' :: a :: b :: r => (codePoint? [a, b]).map fun c => (c, r)
  | 'u' :: '\x7b' :: r =>
    let digits := (r.take 6).takeWhile (· != '\x7d')
    match r.drop digits.length with
    | '\x7d' :: rest => (codePoint? digits).map fun c => (c, rest)
    | _ => none
  | _ => none

/-- Reads a character after its first quote. -/
def character (s : List Char) : Option (Char × List Char) :=
  let read : Option (Char × List Char) :=
    match s with
    | [] => none
    | '\\' :: r => escaped r
    | c :: r => if c = '\'' then none else some (c, r)
  match read with
  | some (c, '\'' :: rest) => some (c, rest)
  | _ => none

/-- Reads a string after its first quote, by steps. -/
def stringBody : Nat → List Char → Option (List Char × List Char)
  | 0, _ => none
  | _ + 1, [] => none
  | _ + 1, '"' :: r => some ([], r)
  | n + 1, '\\' :: r => do
    let (c, rest) ← escaped r
    (stringBody n rest).map fun (t, rest) => (c :: t, rest)
  | n + 1, c :: r => (stringBody n r).map fun (t, rest) => (c :: t, rest)

/-- Reads up to a text that ends it. -/
def upToText (close : List Char) : List Char → Option (List Char × List Char)
  | [] => none
  | c :: r =>
    if close.isPrefixOf (c :: r) then some ([], (c :: r).drop close.length)
    else (upToText close r).map fun (t, rest) => (c :: t, rest)

/-- Reads a string without escapes after its letter; as many marks as stand before
its first quote stand behind its last. -/
def rawString (s : List Char) : Option (List Char × List Char) :=
  let marks := s.takeWhile (· == '#')
  match s.drop marks.length with
  | '"' :: r => upToText ('"' :: marks) r
  | _ => none

/-! ## Numbers -/

/-- Whether a character may stand in a double. -/
def isFloatChar (c : Char) : Bool :=
  c.isDigit || c ∈ ['e', 'E', '.', '+', '-', '_']

/-- Whether a character may stand in an integer. -/
def isIntegerChar (c : Char) : Bool :=
  (hexValue? c).isSome || c == '_'

/-- The text of a double without the low lines that may follow its digits. -/
def withoutLines (mayFollow : Bool) : List Char → Option (List Char)
  | [] => some []
  | c :: r =>
    if c = '_' then if mayFollow then withoutLines true r else none
    else (withoutLines c.isDigit r).map (c :: ·)

/-- Reads a double. -/
def double (s : List Char) : Option (Value × List Char) := do
  let t := s.takeWhile isFloatChar
  let x ← Decimal.float? (← withoutLines false t)
  some (.float x, s.drop t.length)

/-- The base of an integer, by its first two characters, and the rest of it. -/
def cutBase (s : List Char) : Nat × List Char :=
  match s with
  | '0' :: 'x' :: r => (16, r)
  | '0' :: 'o' :: r => (8, r)
  | '0' :: 'b' :: r => (2, r)
  | s => (10, s)

/-- Reads the digits of an integer. -/
def magnitude (s : List Char) : Option (Nat × List Char) :=
  let (base, r) := cutBase s
  let t := r.takeWhile isIntegerChar
  let digits := t.filter (· != '_')
  if t.isEmpty || t.head? == some '_' || !digits.all (fun c => (hexValue? c).any (· < base)) then none
  else some (digits.foldl (fun n c => n * base + (hexValue? c).getD 0) 0, r.drop t.length)

/-- Reads an integer: of 64 bits with its sign, or of 64 bits if it has none, and
then one beyond the signed ones is a double. -/
def integer (s : List Char) : Option (Value × List Char) :=
  match s with
  | '-' :: r => do
    let (n, rest) ← magnitude r
    if n ≤ maxInt64 + 1 then some (.integer (-(n : Int)), rest) else none
  | '+' :: r => do
    let (n, rest) ← magnitude r
    if n ≤ maxInt64 then some (.integer n, rest) else none
  | s => do
    let (n, rest) ← magnitude s
    if n ≤ maxInt64 then some (.integer n, rest)
    else if n ≤ maxWord64 then some (.float (Float.ofNat n), rest)
    else none

/-- Reads a number. It is a double if more of it could stand in a double than in an
integer. -/
def number (s : List Char) : Option (Value × List Char) :=
  let r :=
    match s with
    | '+' :: r => r
    | '-' :: r => r
    | r => r
  if (r.takeWhile isIntegerChar).length < (r.takeWhile isFloatChar).length then double s
  else integer s

end UsageMeter.Ron
