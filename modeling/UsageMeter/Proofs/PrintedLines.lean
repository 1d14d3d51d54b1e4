import Mathlib.Data.List.Forall2
import UsageMeter.Cli.Amount
import UsageMeter.Cli.Report
import UsageMeter.Cli.Table

/-!
# Printed lines

What people see of an output: lines that stand in it, and rows of texts in the lines of
a table, each between bars and with blanks around it. In colour a text stands between
the code of its style and the one that ends every style.
-/

namespace UsageMeter.Cli
open UsageMeter.Text

/-! ## Lines of an output -/

/-- An output consists of lines, each with its end, and these stand in it one after
another. -/
def HasLines (lines : List (List Char)) (output : String) : Prop :=
  ∃ before after, output.toList = (before ++ lines ++ after).flatMap (· ++ ['\n'])

/-- A text stands on a line of its own in an output. -/
def HasLine (s output : String) : Prop := HasLines [s.toList] output

/-- The text of lines, each with its end. -/
def linesText (lines : List (List Char)) : String :=
  String.ofList (lines.flatMap (· ++ ['\n']))

theorem hasLines_linesText {lines all : List (List Char)} (part : lines <:+: all) :
    HasLines lines (linesText all) := by
  obtain ⟨before, after, rfl⟩ := part
  exact ⟨before, after, String.toList_ofList⟩

theorem hasLine_linesText {s : String} {all : List (List Char)} (mem : s.toList ∈ all) :
    HasLine s (linesText all) := by
  obtain ⟨before, after, rfl⟩ := List.append_of_mem mem
  exact hasLines_linesText ⟨before, after, by simp⟩

theorem hasLines_nil (s : String) : HasLines [] (line s) :=
  ⟨[s.toList], [], by simp [line]⟩

theorem HasLines.append_left {lines : List (List Char)} {output : String}
    (has : HasLines lines output) (above : String) : HasLines lines (line above ++ output) := by
  obtain ⟨before, after, split⟩ := has
  exact ⟨above.toList :: before, after, by simp [line, split]⟩

theorem HasLines.append_right {lines : List (List Char)} {output : String}
    (has : HasLines lines output) (below : String) : HasLines lines (output ++ line below) := by
  obtain ⟨before, after, split⟩ := has
  exact ⟨before, after ++ [below.toList], by simp [line, split]⟩

theorem line_eq (s : String) : line s = linesText [s.toList] := by
  apply String.toList_inj.mp
  simp [line, linesText]

theorem linesText_append (as bs : List (List Char)) :
    linesText as ++ linesText bs = linesText (as ++ bs) := by
  apply String.toList_inj.mp
  simp [linesText]

/-! ## Rows of a table -/

/-- The line `i` of a text, empty behind its last one. -/
def textLine (i : Nat) (s : String) : List Char := (s.toList.splitOn '\n').getD i []

/-- Texts between bars, with a blank before each of them and as many as are said behind,
but one at least. -/
def barred (cells : List (List Char × Nat)) : List Char :=
  '│' :: cells.flatMap fun c => ' ' :: (c.1 ++ List.replicate (c.2 + 1) ' ' ++ ['│'])

/-- A row of texts stands in lines of a table: each line has the next line of every text,
and there are enough for all of them. -/
structure RowIn (row : List String) (lines : List (List Char)) : Prop where
  whole : ∀ s ∈ row, (s.toList.splitOn '\n').length ≤ lines.length
  each : ∀ i line, lines[i]? = some line → ∃ blanks : List Nat, blanks.length = row.length ∧
    line = barred ((row.map (textLine i)).zip blanks)

/-- An output shows rows of texts, in lines one after another. -/
def ShowsRows (rows : List (List String)) (output : String) : Prop :=
  ∃ blocks, List.Forall₂ RowIn rows blocks ∧ HasLines blocks.flatten output

theorem splitLines_eq (s : List Char) : splitLines s = s.splitOn '\n' := by
  induction s with
  | nil => rfl
  | cons c s ih =>
      rw [List.splitOn, List.splitOnP_cons_eq_if_modifyHead, ← List.splitOn, ← ih]
      by_cases feed : c = '\n'
      · subst feed
        rfl
      · rw [if_neg (by simpa using feed), splitLines]
        · cases split : splitLines s with
          | nil => exact (List.splitOnP_ne_nil _ _ (ih.symm.trans split)).elim
          | cons l ls => rfl
        · exact feed

theorem length_widen (ws : List Nat) (row : List Cell) :
    (widen ws row).length = max ws.length row.length := by
  fun_induction widen ws row with
  | case1 ws => simp
  | case2 c cs ih => simp [ih]
  | case3 w ws c cs ih => simp [ih, Nat.succ_max_succ]

/-- There is a width for each cell of a row. -/
theorem length_le_widths {rows : List (List Cell)} {row : List Cell} (mem : row ∈ rows) :
    row.length ≤ (widths rows).length := by
  have grow : ∀ (rows : List (List Cell)) (ws : List Nat),
      ws.length ≤ (rows.foldl widen ws).length ∧
        ∀ row ∈ rows, row.length ≤ (rows.foldl widen ws).length := by
    intro rows
    induction rows with
    | nil => exact fun ws => ⟨Nat.le_refl _, nofun⟩
    | cons row rows ih =>
        intro ws
        obtain ⟨longer, each⟩ := ih (widen ws row)
        rw [length_widen] at longer
        rw [List.foldl_cons, List.forall_mem_cons]
        exact ⟨by omega, by omega, each⟩
  exact (grow rows []).2 row mem

theorem bars_intercalate {cells : List (List Char)} (nonempty : cells ≠ []) :
    '│' :: (['│'].intercalate cells ++ ['│']) = '│' :: cells.flatMap (· ++ ['│']) := by
  induction cells with
  | nil => exact absurd rfl nonempty
  | cons c cells ih =>
      cases cells with
      | nil => simp
      | cons d cells =>
          have rest := ih (List.cons_ne_nil d cells)
          rw [List.cons.injEq] at rest
          rw [List.intercalate_cons_cons, List.flatMap_cons, ← rest.2]
          simp

/-- The line of a row has a cell for each of its texts. -/
theorem rowLine_eq {ws : List Nat} {row : List Cell} (nonempty : row ≠ [])
    (room : row.length ≤ ws.length) (i : Nat) :
    ∃ blanks : List Nat, blanks.length = row.length ∧
      rowLine ws row i = barred ((row.map (·.getD i [])).zip blanks) := by
  refine ⟨List.zipWith (fun w c => w - columns (c.getD i [])) ws row, ?_, ?_⟩
  · rw [List.length_zipWith, Nat.min_eq_right room]
  · have cells : List.zipWith (fun w c => padded w (c.getD i [])) ws row ≠ [] := by
      rw [← List.length_pos_iff, List.length_zipWith, Nat.min_eq_right room]
      exact List.length_pos_iff.mpr nonempty
    rw [rowLine, bars_intercalate cells, barred]
    congr 1
    clear nonempty cells
    induction row generalizing ws with
    | nil => simp
    | cons c row ih =>
        cases ws with
        | nil => cases room
        | cons w ws =>
            have rest := ih (Nat.le_of_succ_le_succ room)
            rw [List.zipWith_cons_cons, List.zipWith_cons_cons, List.map_cons, List.zip_cons_cons,
              List.flatMap_cons, List.flatMap_cons, rest]
            simp [padded, List.replicate_succ']

theorem le_foldl_max {n : Nat} {ns : List Nat} (mem : n ∈ ns) (m : Nat) : n ≤ ns.foldl max m := by
  have start : ∀ (ns : List Nat) (m : Nat), m ≤ ns.foldl max m := by
    intro ns
    induction ns with
    | nil => exact Nat.le_refl
    | cons k ns ih => exact fun m => Nat.le_trans (Nat.le_max_left m k) (ih _)
  induction ns generalizing m with
  | nil => cases mem
  | cons k ns ih =>
      rcases List.mem_cons.mp mem with rfl | later
      · exact Nat.le_trans (Nat.le_max_right m n) (start ns _)
      · exact ih later _

/-- A row stands in its lines. -/
theorem rowIn_rowLines {ws : List Nat} {row : List String} (nonempty : row ≠ [])
    (room : row.length ≤ ws.length) : RowIn row (rowLines ws (row.map cell)) where
  whole s mem := by
    rw [rowLines, List.length_map, List.length_range]
    refine le_foldl_max (List.mem_map.mpr ⟨cell s, List.mem_map_of_mem mem, ?_⟩) 1
    rw [cell, splitLines_eq]
  each i line found := by
    rw [rowLines, List.getElem?_map, Option.map_eq_some_iff] at found
    obtain ⟨j, at_i, rfl⟩ := found
    obtain ⟨-, rfl⟩ := List.getElem?_eq_some_iff.mp at_i
    rw [List.getElem_range]
    have cells : row.map cell ≠ [] := by simpa using nonempty
    have width : (row.map cell).length ≤ ws.length := by simpa using room
    obtain ⟨blanks, length, shown⟩ := rowLine_eq cells width i
    refine ⟨blanks, by simpa using length, ?_⟩
    rw [shown, List.map_map]
    congr 2
    refine List.map_congr_left fun s _ => ?_
    rw [Function.comp, cell, splitLines_eq, textLine]

theorem tableText_eq (head : List String) (rows : List (List String)) :
    tableText head rows = linesText (tableLines head rows) := rfl

/-- A table shows its rows. -/
theorem rowsIn_tableLines (head : List String) {rows : List (List String)}
    (nonempty : ∀ row ∈ rows, row ≠ []) :
    ∃ blocks, List.Forall₂ RowIn rows blocks ∧ blocks.flatten <:+: tableLines head rows := by
  obtain ⟨ws, width⟩ : ∃ ws, ws = widths (head.map cell :: rows.map fun row => row.map cell) :=
    ⟨_, rfl⟩
  refine ⟨rows.map fun row => rowLines ws (row.map cell), ?_, ?_⟩
  · rw [List.forall₂_map_right_iff, List.forall₂_same]
    intro row mem
    refine rowIn_rowLines (nonempty row mem) ?_
    rw [width, ← List.length_map cell]
    exact length_le_widths (List.mem_cons_of_mem _ (List.mem_map_of_mem mem))
  · refine ⟨rule '╭' '┬' '╮' ws :: (rowLines ws (head.map cell) ++ [rule '├' '┼' '┤' ws]),
      [rule '╰' '┴' '╯' ws], ?_⟩
    simp only [tableLines, ← width, List.flatten_eq_flatMap, List.flatMap_map]
    simp

/-! ## Colour -/

/-- A text is shown as it is or, in colour, between a code and the code that ends it. -/
def Painted (colour : Bool) (text shown : String) : Prop :=
  ∃ code, shown = if colour then "\x1b[" ++ code ++ "m" ++ text ++ "\x1b[0m" else text

theorem resume_of_notMem {start s : List Char} (clean : '\x1b' ∉ s) :
    Paint.resume start s = s := by
  induction s with
  | nil => rfl
  | cons c s ih =>
      rw [List.mem_cons, not_or] at clean
      rw [Paint.resume, ih clean.2]
      rintro r rfl
      exact absurd rfl clean.1

theorem painted_apply (p : Paint) (colour : Bool) {s : String} (clean : '\x1b' ∉ s.toList) :
    Painted colour s (p.apply colour s) := by
  refine ⟨p.code, ?_⟩
  cases colour with
  | false => rfl
  | true =>
      rw [Paint.apply, if_pos rfl, resume_of_notMem clean, if_pos rfl]
      apply String.toList_inj.mp
      simp [Paint.start, Paint.stop]

end UsageMeter.Cli
