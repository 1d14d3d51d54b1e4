import UsageMeter.Json.Scan

/-!
The small parts of a TOML text: blanks, comments and line ends, strings of four
kinds, and keys. Every reader takes the rest of a text and gives what it read
with what follows it.
-/
namespace UsageMeter.Toml
open UsageMeter.Json (hexValue?)

/-- The blanks within a line. -/
def isBlank (c : Char) : Bool :=
  c == ' ' || c == '\t'

/-- The text without the blanks in front. -/
def skipBlanks (s : List Char) : List Char :=
  s.dropWhile isBlank

/-- Whether a character may stand in a comment or a string. -/
def isPlain (c : Char) : Bool :=
  c == '\t' || (32 ≤ c.toNat && c.toNat != 127)

/-- Passes over blanks, comments and line ends. -/
def skipGaps : Bool → List Char → Option (List Char)
  | _, [] => some []
  | _, '\r' :: '\n' :: r => skipGaps false r
  | _, '\n' :: r => skipGaps false r
  | true, c :: r => if isPlain c then skipGaps true r else none
  | false, c :: r =>
    if isBlank c then skipGaps false r
    else if c = '#' then skipGaps true r
    else some (c :: r)

/-- Passes over the rest of a line, which holds nothing but a comment. -/
def endLine (s : List Char) : Option (List Char) :=
  let after :=
    match skipBlanks s with
    | '#' :: r => r.dropWhile isPlain
    | r => r
  match after with
  | [] => some []
  | '\n' :: r => some r
  | '\r' :: '\n' :: r => some r
  | _ => none

/-! ## Strings -/

/-- The character of a code point in hexadecimal digits. -/
def codePoint? (width : Nat) (digits : List Char) : Option Char := do
  let values ← digits.mapM hexValue?
  let n := values.foldl (fun n d => n * 16 + d) 0
  if values.length = width ∧ n.isValidChar then some (Char.ofNat n) else none

/-- The character of an escape of one letter. -/
def escape? (c : Char) : Option Char :=
  match c with
  | 'b' => some '\x08'
  | 't' => some '\t'
  | 'n' => some '\n'
  | 'f' => some '\x0c'
  | 'r' => some '\r'
  | '"' => some '"'
  | '\\' => some '\\'
  | _ => none

/-- A character in front of what a reader gives. -/
def consRead (c : Char) (r : Option (List Char × List Char)) : Option (List Char × List Char) :=
  r.map fun (t, rest) => (c :: t, rest)

/-- Reads a string after its first quote. -/
def basicString : List Char → Option (List Char × List Char)
  | [] => none
  | '"' :: r => some ([], r)
  | '\\' :: 'u' :: r =>
    (codePoint? 4 (r.take 4)).bind fun c => consRead c (basicString (r.drop 4))
  | '\\' :: 'U' :: r =>
    (codePoint? 8 (r.take 8)).bind fun c => consRead c (basicString (r.drop 8))
  | '\\' :: e :: r => (escape? e).bind fun c => consRead c (basicString r)
  | c :: r => if isPlain c then consRead c (basicString r) else none
termination_by s => s.length
decreasing_by all_goals (simp only [List.length_cons, List.length_drop]; omega)

/-- Passes over the line ends and blanks after a backslash that ends a line. -/
def joinLines (s : List Char) : Option (List Char) :=
  match skipBlanks s with
  | '\n' :: r => some (r.dropWhile fun c => isBlank c || c == '\n' || c == '\r')
  | '\r' :: '\n' :: r => some (r.dropWhile fun c => isBlank c || c == '\n' || c == '\r')
  | _ => none

/-- Reads a string over several lines after its first quotes, by steps. -/
def basicLines : Nat → List Char → Option (List Char × List Char)
  | 0, _ => none
  | _ + 1, [] => none
  | _ + 1, '"' :: '"' :: '"' :: '"' :: '"' :: r => some (['"', '"'], r)
  | _ + 1, '"' :: '"' :: '"' :: '"' :: r => some (['"'], r)
  | _ + 1, '"' :: '"' :: '"' :: r => some ([], r)
  | n + 1, '\\' :: 'u' :: r =>
    (codePoint? 4 (r.take 4)).bind fun c => consRead c (basicLines n (r.drop 4))
  | n + 1, '\\' :: 'U' :: r =>
    (codePoint? 8 (r.take 8)).bind fun c => consRead c (basicLines n (r.drop 8))
  | n + 1, '\\' :: e :: r =>
    match joinLines (e :: r) with
    | some rest => basicLines n rest
    | none => (escape? e).bind fun c => consRead c (basicLines n r)
  | n + 1, '\r' :: '\n' :: r => consRead '\n' (basicLines n r)
  | n + 1, c :: r =>
    if isPlain c || c == '\n' then consRead c (basicLines n r) else none

/-- Reads a string without escapes after its first quote. -/
def literalString : List Char → Option (List Char × List Char)
  | [] => none
  | '\'' :: r => some ([], r)
  | c :: r => if isPlain c then consRead c (literalString r) else none

/-- Reads a string without escapes over several lines after its first quotes. -/
def literalLines : List Char → Option (List Char × List Char)
  | [] => none
  | '\'' :: '\'' :: '\'' :: '\'' :: '\'' :: r => some (['\'', '\''], r)
  | '\'' :: '\'' :: '\'' :: '\'' :: r => some (['\''], r)
  | '\'' :: '\'' :: '\'' :: r => some ([], r)
  | '\r' :: '\n' :: r => consRead '\n' (literalLines r)
  | c :: r => if isPlain c || c == '\n' then consRead c (literalLines r) else none

/-- The text without a line end right at its start. -/
def dropFirstLineEnd : List Char → List Char
  | '\n' :: r => r
  | '\r' :: '\n' :: r => r
  | r => r

/-- Reads a string of any kind, or nothing if the text begins with no quote. -/
def string? (s : List Char) : Option (Option (List Char × List Char)) :=
  match s with
  | '"' :: '"' :: '"' :: r => some (basicLines (r.length + 1) (dropFirstLineEnd r))
  | '"' :: r => some (basicString r)
  | '\'' :: '\'' :: '\'' :: r => some (literalLines (dropFirstLineEnd r))
  | '\'' :: r => some (literalString r)
  | _ => none

/-! ## Keys -/

/-- The characters of a key without quotes. -/
def isKeyChar (c : Char) : Bool :=
  c.isAlphanum || c == '_' || c == '-'

/-- Reads a key without dots. -/
def simpleKey (s : List Char) : Option (String × List Char) :=
  match s with
  | '"' :: r => (basicString r).map fun (t, rest) => (String.ofList t, rest)
  | '\'' :: r => (literalString r).map fun (t, rest) => (String.ofList t, rest)
  | s =>
    let name := s.takeWhile isKeyChar
    if name.isEmpty then none else some (String.ofList name, s.dropWhile isKeyChar)

/-- Reads keys with dots between them, at most so many. -/
def dottedKey : Nat → List Char → Option (List String × List Char)
  | 0, _ => none
  | n + 1, s => do
    let (key, rest) ← simpleKey s
    match skipBlanks rest with
    | '.' :: r =>
      let (keys, rest) ← dottedKey n (skipBlanks r)
      some (key :: keys, rest)
    | rest => some ([key], rest)

end UsageMeter.Toml
