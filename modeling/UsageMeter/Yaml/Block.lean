import UsageMeter.Yaml.Scalar

/-!
Scalars of whole lines: the lines below a mark that are indented further than
what they belong to. They are kept as lines or folded into one; the mark says
so, and what becomes of the line ends at the end.
-/
namespace UsageMeter.Yaml

/-- What becomes of the line ends at the end of a scalar of lines. -/
inductive Chomp where
  /-- One is kept. -/
  | clip
  /-- None is kept. -/
  | strip
  /-- All are kept. -/
  | keep
deriving DecidableEq, Repr

/-- What the mark of a scalar of lines says. -/
structure LinesMark where
  folded : Bool
  chomp : Chomp
  /-- The indent of its lines beyond that of what they belong to, if it is given. -/
  indent : Option Nat
deriving DecidableEq, Repr

/-- Reads a mark after its first character, up to the end of its line. -/
def linesMark? (m : LinesMark) : List Char → Option (LinesMark × List Char)
  | [] => some (m, [])
  | '\r' :: '\n' :: r => some (m, r)
  | '\n' :: r => some (m, r)
  | '-' :: r => linesMark? { m with chomp := .strip } r
  | '+' :: r => linesMark? { m with chomp := .keep } r
  | ' ' :: r =>
    let rest := r.dropWhile isBlank
    let rest := if rest.head? = some '#' then rest.dropWhile fun c => !isBreak c else rest
    match rest with
    | [] => some (m, [])
    | '\n' :: r => some (m, r)
    | '\r' :: '\n' :: r => some (m, r)
    | _ => none
  | c :: r =>
    if '1' ≤ c ∧ c ≤ '9' then linesMark? { m with indent := some (c.toNat - 48) } r else none

/-- Cuts the first line off, without its end; none if the text has ended. -/
def cutLine? (s : List Char) : Option (List Char × List Char) :=
  match s with
  | [] => none
  | s =>
    let line := s.takeWhile fun c => !isBreak c
    let rest := s.dropWhile fun c => !isBreak c
    match rest with
    | '\r' :: '\n' :: r => some (line, r)
    | _ :: r => some (line, r)
    | [] => some (line, [])

/-- The number of blanks a line begins with. -/
def indentOf (line : List Char) : Nat :=
  (line.takeWhile (· == ' ')).length

/-- Takes the lines that are empty or indented by at least `indent`, without
that indent, by steps. -/
def takeLines (indent : Nat) : Nat → List Char → List (List Char) × List Char
  | 0, s => ([], s)
  | n + 1, s =>
    match cutLine? s with
    | none => ([], s)
    | some (line, rest) =>
      if indent ≤ indentOf line || line.all (· == ' ') then
        let (lines, rest) := takeLines indent n rest
        (line.drop indent :: lines, rest)
      else ([], s)

/-- The indent of the first line that is not empty, by steps. -/
def firstIndent : Nat → List Char → Nat
  | 0, _ => 0
  | n + 1, s =>
    match cutLine? s with
    | none => 0
    | some (line, rest) => if line.all (· == ' ') then firstIndent n rest else indentOf line

/-- Lines joined by line ends. -/
def joinLines : List (List Char) → List Char
  | [] => []
  | [line] => line
  | line :: rest => line ++ '\n' :: joinLines rest

/-- Lines folded into one, but at empty lines and at lines that begin with a blank. -/
def foldLines : List (List Char) → List Char
  | [] => []
  | [line] => line
  | line :: next :: rest =>
    let joined := foldLines (next :: rest)
    let opens (l : List Char) : Bool := (l.head?).any isBlank
    if line.isEmpty then '\n' :: joined
    else if opens line || opens next then line ++ '\n' :: joined
    else if next.isEmpty then line ++ joined
    else line ++ ' ' :: joined

/-- Reads a scalar of lines after its mark has begun, for something at the indent
`parent` (counted from one, so that zero is a whole document). -/
def linesScalar (folded : Bool) (parent : Nat) (s : List Char) :
    Option (List Char × List Char) := do
  let (mark, rest) ← linesMark? ⟨folded, .clip, none⟩ s
  let least := max parent (firstIndent (rest.length + 1) rest)
  let indent := (mark.indent.map fun i => parent - 1 + i).getD least
  let (lines, rest) := takeLines indent (rest.length + 1) rest
  let empties := (lines.reverse.takeWhile List.isEmpty).length
  let body := lines.take (lines.length - empties)
  let text := if mark.folded then foldLines body else joinLines body
  let ends :=
    match mark.chomp with
    | .strip => 0
    | .clip => if body.isEmpty then 0 else 1
    | .keep => empties + if body.isEmpty then 0 else 1
  some (text ++ List.replicate ends '\n', rest)

end UsageMeter.Yaml
