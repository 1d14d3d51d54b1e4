import UsageMeter.Decimal.Reading
import UsageMeter.Json.Scan
import UsageMeter.Json.Value

/-!
Scalars of a YAML text: plain ones, which may stand for a number or a truth
value, and quoted ones, which are always texts. A line end inside a scalar
becomes a blank, and further ones stay line ends.
-/
namespace UsageMeter.Yaml
open UsageMeter.Json (Value hexValue?)
open UsageMeter.Text (int64?)

/-- The blanks within a line. -/
def isBlank (c : Char) : Bool :=
  c == ' ' || c == '\t'

/-- The characters that end a line. -/
def isBreak (c : Char) : Bool :=
  c == '\n' || c == '\r'

/-- Whether the text ends here or goes on with a blank or a line end. -/
def endsWord : List Char → Bool
  | [] => true
  | c :: _ => isBlank c || isBreak c

/-- The characters that structure collections in brackets. -/
def isBracket (c : Char) : Bool :=
  c ∈ [',', '[', ']', '\x7b', '\x7d']

/-! ## Plain scalars -/

/-- The value of digits in a base, with an optional sign. -/
def baseInteger? (base : Nat) (s : List Char) : Option Int :=
  let (negative, r) :=
    match s with
    | '-' :: r => (true, r)
    | '+' :: r => (false, r)
    | r => (false, r)
  if r.isEmpty || !r.all (fun c => (hexValue? c).any (· < base)) then none
  else
    let n : Int := r.foldl (fun n c => n * base + (hexValue? c).getD 0) 0
    let n := if negative then -n else n
    if -(maxInt64 : Int) - 1 ≤ n ∧ n ≤ maxInt64 then some n else none

/-- The integer a plain scalar stands for. -/
def integer? (s : List Char) : Option Int :=
  let based :=
    match s with
    | '0' :: 'x' :: r => baseInteger? 16 r
    | '0' :: 'o' :: r => baseInteger? 8 r
    | '+' :: r => (int64? r).toOption
    | _ => none
  based.orElse fun _ => (int64? s).toOption

/-- The words for doubles that are not finite, which have no value here. -/
def isSpecialWord (s : List Char) : Bool :=
  String.ofList s ∈
    [".inf", ".Inf", ".INF", "+.inf", "+.Inf", "+.INF", "-.inf", "-.Inf", "-.INF", ".nan", ".NAN"]

/-- Whether a text is a word for nothing. -/
def isNullWord (s : List Char) : Bool :=
  s == ['~'] || s == "null".toList

/-- The truth value of a word. -/
def boolean? (s : List Char) : Option Bool :=
  if s = "true".toList then some true else if s = "false".toList then some false else none

/-- The value of a plain scalar. -/
def plainValue? (s : List Char) : Option Value :=
  match integer? s with
  | some n => some (.integer n)
  | none =>
    if isNullWord s then some .null
    else
      match boolean? s with
      | some b => some (.bool b)
      | none =>
        if isSpecialWord s then none
        else
          match Decimal.float? s with
          | some x => some (.float x)
          | none => some (.string (String.ofList s))

/-- Whether a text can begin a plain scalar. -/
def beginsPlain (s : List Char) : Bool :=
  match s with
  | [] => false
  | c :: r =>
    if c = '-' ∨ c = '?' ∨ c = ':' then !endsWord r
    else
      !(isBlank c || isBreak c || isBracket c ||
        c ∈ ['#', '&', '*', '!', '|', '>', '\'', '"', '%', '@', Char.ofNat 96])

/-- Whether a colon, by what follows it, ends a plain scalar. -/
def endsKey (inBrackets : Bool) (after : List Char) : Bool :=
  endsWord after || (inBrackets && (after.head?).any isBracket)

/-- Reads a plain scalar to the end of its line; `blank` tells whether a blank
came before. -/
def plainLine (inBrackets blank : Bool) : List Char → List Char × List Char
  | [] => ([], [])
  | c :: r =>
    if isBreak c || (c == ':' && endsKey inBrackets r) || (c == '#' && blank) ||
        (inBrackets && isBracket c) then ([], c :: r)
    else
      let (t, rest) := plainLine inBrackets (isBlank c) r
      (c :: t, rest)

/-- The text without the blanks at its end. -/
def trimEnd (s : List Char) : List Char :=
  (s.reverse.dropWhile isBlank).reverse

/-- The line ends at the start of a text, the blanks after the last of them, and
the rest. -/
def skipBreaks (breaks column : Nat) : List Char → Nat × Nat × List Char
  | '\r' :: '\n' :: r => skipBreaks (breaks + 1) 0 r
  | '\n' :: r => skipBreaks (breaks + 1) 0 r
  | ' ' :: r => skipBreaks breaks (column + 1) r
  | r => (breaks, column, r)

/-- What line ends inside a scalar become. -/
def fold (breaks : Nat) : List Char :=
  if breaks ≤ 1 then [' '] else List.replicate (breaks - 1) '\n'

/-- Whether a text goes on with the mark of the start or the end of a document. -/
def isDocumentMark (s : List Char) : Bool :=
  match s with
  | '-' :: '-' :: '-' :: r => endsWord r
  | '.' :: '.' :: '.' :: r => endsWord r
  | _ => false

/-- Reads a plain scalar over lines that are indented by at least `least`. -/
def plainLines (inBrackets : Bool) (least : Nat) : Nat → List Char → List Char × List Char
  | 0, s => ([], s)
  | n + 1, s =>
    let (t, rest) := plainLine inBrackets false s
    let t := trimEnd t
    match rest with
    | [] => (t, rest)
    | c :: _ =>
      if !isBreak c then (t, rest)
      else
        let (breaks, column, next) := skipBreaks 0 0 rest
        let ended :=
          match next with
          | [] => true
          | d :: r =>
            d == '#' || d == '\t' || column < least || (column == 0 && isDocumentMark next) ||
              (inBrackets && (isBracket d || (d == ':' && endsKey true r)))
        if ended then (t, rest)
        else
          let (more, rest) := plainLines inBrackets least n next
          (t ++ fold breaks ++ more, rest)

/-! ## Quoted scalars -/

/-- The character of an escape of one letter. -/
def escape? (c : Char) : Option Char :=
  match c with
  | '0' => some '\x00'
  | 'a' => some '\x07'
  | 'b' => some '\x08'
  | 't' => some '\t'
  | '\t' => some '\t'
  | 'n' => some '\n'
  | 'v' => some '\x0b'
  | 'f' => some '\x0c'
  | 'r' => some '\r'
  | 'e' => some '\x1b'
  | ' ' => some ' '
  | '"' => some '"'
  | '/' => some '/'
  | '\\' => some '\\'
  | 'N' => some '\u0085'
  | '_' => some '\u00a0'
  | 'L' => some '\u2028'
  | 'P' => some '\u2029'
  | _ => none

/-- The number of digits of an escape by code point. -/
def escapeWidth? (c : Char) : Option Nat :=
  match c with
  | 'x' => some 2
  | 'u' => some 4
  | 'U' => some 8
  | _ => none

/-- The character of a code point in hexadecimal digits. -/
def codePoint? (width : Nat) (digits : List Char) : Option Char := do
  let values ← digits.mapM hexValue?
  let n := values.foldl (fun n d => n * 16 + d) 0
  if values.length = width ∧ n.isValidChar then some (Char.ofNat n) else none

/-- Reads a scalar in double quotes after the first, by steps; `blanks` are those
that count only if no line end follows. -/
def doubleQuoted : Nat → List Char → List Char → Option (List Char × List Char)
  | 0, _, _ => none
  | _ + 1, _, [] => none
  | _ + 1, blanks, '"' :: r => some (blanks, r)
  | n + 1, blanks, '\\' :: c :: r =>
    let after (t : List Char) (rest : List Char) : Option (List Char × List Char) :=
      (doubleQuoted n [] rest).map fun (more, rest) => (blanks ++ t ++ more, rest)
    if isBreak c then after [] (r.dropWhile fun c => isBlank c || isBreak c)
    else
      match escapeWidth? c with
      | some width => (codePoint? width (r.take width)).bind fun c => after [c] (r.drop width)
      | none => (escape? c).bind fun c => after [c] r
  | n + 1, blanks, c :: r =>
    if isBreak c then
      let (breaks, _, next) := skipBreaks 0 0 (c :: r)
      (doubleQuoted n [] (next.dropWhile isBlank)).map fun (more, rest) => (fold breaks ++ more, rest)
    else if isBlank c then doubleQuoted n (blanks ++ [c]) r
    else (doubleQuoted n [] r).map fun (more, rest) => (blanks ++ c :: more, rest)

/-- Reads a scalar in single quotes after the first, by steps. -/
def singleQuoted : Nat → List Char → List Char → Option (List Char × List Char)
  | 0, _, _ => none
  | _ + 1, _, [] => none
  | n + 1, blanks, '\'' :: '\'' :: r =>
    (singleQuoted n [] r).map fun (more, rest) => (blanks ++ '\'' :: more, rest)
  | _ + 1, blanks, '\'' :: r => some (blanks, r)
  | n + 1, blanks, c :: r =>
    if isBreak c then
      let (breaks, _, next) := skipBreaks 0 0 (c :: r)
      (singleQuoted n [] (next.dropWhile isBlank)).map fun (more, rest) => (fold breaks ++ more, rest)
    else if isBlank c then singleQuoted n (blanks ++ [c]) r
    else (singleQuoted n [] r).map fun (more, rest) => (blanks ++ c :: more, rest)

/-- Reads a quoted scalar, or nothing if the text begins with no quote. -/
def quoted? (s : List Char) : Option (Option (List Char × List Char)) :=
  match s with
  | '"' :: r => some (doubleQuoted (r.length + 1) [] r)
  | '\'' :: r => some (singleQuoted (r.length + 1) [] r)
  | _ => none

end UsageMeter.Yaml
