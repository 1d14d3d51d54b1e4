import UsageMeter.Json.Scan
import UsageMeter.Json.Value
import UsageMeter.Text.Blank

/-!
Reading an INI text: settings, one a line, as a name and a text with `=` or `:`
between them, and headers of sections in square brackets. The settings in front
of the first header stand on their own; those of a section make a table of its
name, and of equal names the last counts.
-/
namespace UsageMeter.Ini
open UsageMeter.Json (Value hexValue?)
open UsageMeter.Text (isBlank)

/-- A part of a text. -/
inductive Item where
  | header (name : String)
  | setting (name value : String)
deriving DecidableEq, Repr

/-- What a backslash and a letter stand for. A backslash at the end of a line
takes the line end away. -/
def escape (c : Char) : List Char :=
  match c with
  | '0' => ['\x00']
  | 'a' => ['\x07']
  | 'b' => ['\x08']
  | 't' => ['\t']
  | 'r' => ['\r']
  | 'n' => ['\n']
  | '\n' => []
  | c => [c]

/-- The character of four hexadecimal digits. -/
def codePoint? (digits : List Char) : Option Char := do
  let values ← digits.mapM hexValue?
  let n := values.foldl (fun n d => n * 16 + d) 0
  if values.length = 4 ∧ n.isValidChar then some (Char.ofNat n) else none

/-- Reads up to a character that `ends` the text, or up to the end if the text may
end without one. -/
def upTo (ends : Char → Bool) (mayLack : Bool) : List Char → Option (List Char × List Char)
  | [] => if mayLack then some ([], []) else none
  | c :: r =>
    if ends c then some ([], c :: r)
    else if c = '\\' then
      match r with
      | [] => none
      | 'x' :: r => do
        let d ← codePoint? (r.take 4)
        let (t, rest) ← upTo ends mayLack (r.drop 4)
        some (d :: t, rest)
      | e :: r => (upTo ends mayLack r).map fun (t, rest) => (escape e ++ t, rest)
    else (upTo ends mayLack r).map fun (t, rest) => (c :: t, rest)
termination_by s => s.length
decreasing_by all_goals (simp only [List.length_cons, List.length_drop]; omega)

/-- Whether a character ends a line. -/
def isBreak (c : Char) : Bool :=
  c == '\n' || c == '\r'

/-- A text without the blanks around it. -/
def trimmed (s : List Char) : String :=
  String.ofList (Text.trim s)

/-- Reads a value after its mark. Quotes it begins with keep line ends. -/
def value? (s : List Char) : Option (String × List Char) := do
  match s.dropWhile fun c => isBlank c && !isBreak c with
  | [] => some ("", [])
  | c :: r =>
    if c = '"' ∨ c = '\'' then
      let (t, rest) ← upTo (· == c) false r
      let (more, rest) ← upTo isBreak true (rest.drop 1)
      some (trimmed (t ++ more), rest)
    else
      let (t, rest) ← upTo isBreak true (c :: r)
      some (trimmed t, rest)

/-- Passes over blanks; tells whether what follows begins a line. -/
def skipBlanks (fresh : Bool) : List Char → Bool × List Char
  | [] => (fresh, [])
  | c :: r => if isBlank c then skipBlanks (c == '\n') r else (fresh, c :: r)

/-- Reads the parts of a text, by steps. A comment has to begin its line. -/
def items : Nat → Bool → List Char → Option (List Item)
  | 0, _, _ => none
  | n + 1, fresh, s =>
    match skipBlanks fresh s with
    | (_, []) => some []
    | (fresh, c :: r) =>
      if c = ';' ∨ c = '#' then
        if fresh then items n true ((r.dropWhile (· != '\n')).drop 1) else none
      else if c = '[' then do
        let (name, rest) ← upTo (· == ']') false r
        return .header (trimmed name) :: (← items n false (rest.drop 1))
      else do
        let (name, rest) ← upTo (fun d => d == '=' || d == ':') false (c :: r)
        let name := trimmed name
        if name.isEmpty then none
        else
          let (v, rest) ← value? (rest.drop 1)
          return .setting name v :: (← items n false rest)

/-- The settings in front of the first header, and the tables of the sections. -/
def tables : List Item → List (String × Value) × List (String × Value)
  | [] => ([], [])
  | .setting name v :: rest =>
    let (own, sections) := tables rest
    ((name, .string v) :: own, sections)
  | .header name :: rest =>
    let (own, sections) := tables rest
    ([], (name, .object own) :: sections)

/-- Reads a text. -/
def parse (s : List Char) : Option Value :=
  (items (s.length + 1) true s).map fun is => .object ((tables is).1 ++ (tables is).2)

end UsageMeter.Ini
