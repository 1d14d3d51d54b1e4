import UsageMeter.Text.Columns

/-!
Tables in a frame with round corners. A column is as wide as the widest line of
its cells, and a cell with several lines takes several lines of the table. A
rule stands under the header.
-/
namespace UsageMeter.Cli
open UsageMeter.Text

/-- Cuts a text at its line feeds. -/
def splitLines : List Char → List (List Char)
  | [] => [[]]
  | '\n' :: r => [] :: splitLines r
  | c :: r =>
    match splitLines r with
    | [] => [[c]]
    | l :: ls => (c :: l) :: ls

/-- A cell by its lines. -/
abbrev Cell := List (List Char)

/-- The cell of a text. -/
def cell (s : String) : Cell := splitLines s.toList

/-- The columns that a cell takes up. -/
def cellWidth (c : Cell) : Nat :=
  (c.map columns).foldl max 0

/-- The widths of columns that have room for a row, given those for others. -/
def widen : List Nat → List Cell → List Nat
  | ws, [] => ws
  | [], c :: cs => cellWidth c :: widen [] cs
  | w :: ws, c :: cs => max w (cellWidth c) :: widen ws cs

/-- The widths of the columns of rows. -/
def widths (rows : List (List Cell)) : List Nat :=
  rows.foldl widen []

/-- A text filled up with blanks to a width, and one blank on each side. -/
def padded (width : Nat) (line : List Char) : List Char :=
  ' ' :: (line ++ List.replicate (width - columns line) ' ' ++ [' '])

/-- A horizontal rule with its ends and its crossings. -/
def rule (left cross right : Char) (ws : List Nat) : List Char :=
  left :: ([cross].intercalate (ws.map fun w => List.replicate (w + 2) '─') ++ [right])

/-- The line of a row that shows the line `i` of each cell. -/
def rowLine (ws : List Nat) (row : List Cell) (i : Nat) : List Char :=
  '│' :: (['│'].intercalate (List.zipWith (fun w c => padded w (c.getD i [])) ws row) ++ ['│'])

/-- The lines of a row. -/
def rowLines (ws : List Nat) (row : List Cell) : List (List Char) :=
  (List.range ((row.map List.length).foldl max 1)).map (rowLine ws row)

/-- The lines of a table. -/
def tableLines (header : List String) (rows : List (List String)) : List (List Char) :=
  let header := header.map cell
  let rows := rows.map fun row => row.map cell
  let ws := widths (header :: rows)
  rule '╭' '┬' '╮' ws :: (rowLines ws header ++
    rule '├' '┼' '┤' ws :: (rows.flatMap (rowLines ws) ++ [rule '╰' '┴' '╯' ws]))

/-- The text of a table, each line with its end. -/
def tableText (header : List String) (rows : List (List String)) : String :=
  String.ofList ((tableLines header rows).flatMap (· ++ ['\n']))

end UsageMeter.Cli
