import UsageMeter.Cli.Sampling
import UsageMeter.Proofs.PrintedJson
import UsageMeter.Proofs.PrintedLines
import UsageMeter.Proofs.ReadBack

/-!
# Printed rows of samples

What people see of the rows of a sampling. On JSON lines each field of a row has a line
of its own, and its figures read back; in a table the figures are told in tenths.
-/

namespace UsageMeter.Cli
open UsageMeter.Decimal UsageMeter.Json

/-! ## Percentages -/

/-- A text tells a number if there is one: it reads back as the number, and null tells
that there is none or none that is finite. -/
inductive TellsNumber : String → Option Float → Prop where
  | finite {text : String} {x : Float} {negative : Bool} {m : Nat} {e : Int}
      (parts : Binary64.ofFloat x = .finite negative m e)
      (read : float? text.toList = some x) : TellsNumber text (some x)
  | special {x : Float} (parts : ∀ negative m e, Binary64.ofFloat x ≠ .finite negative m e) :
      TellsNumber "null" (some x)
  | absent : TellsNumber "null" none

/-- A text tells a percentage to the nearest tenth, halfway to the even one. -/
inductive TellsTenths : String → Float → Prop where
  | finite {x : Float} {negative : Bool} {m : Nat} {e : Int} {tenths : Nat}
      (parts : Binary64.ofFloat x = .finite negative m e)
      (near : Near (10 * (m * 2 ^ e)) tenths) :
      TellsTenths ((if negative then "-" else "") ++ toString (tenths / 10) ++ "." ++
        toString (tenths % 10) ++ "%") x
  | special {x : Float} (parts : ∀ negative m e, Binary64.ofFloat x ≠ .finite negative m e) :
      TellsTenths (plain.render x ++ "%") x

theorem tellsNumber_render (x : Float) : TellsNumber (numberStyle.render x) (some x) := by
  have word (parts : ∀ negative m e, Binary64.ofFloat x ≠ .finite negative m e) :
      numberStyle.render x = "null" := by
    unfold Style.render
    split
    · rfl
    · rfl
    · exact absurd ‹_› (parts _ _ _)
  cases parts : Binary64.ofFloat x with
  | finite negative m e => exact .finite parts (float?_render parts numberStyle)
  | infinite negative =>
      have special : ∀ n m e, Binary64.ofFloat x ≠ .finite n m e := by simp [parts]
      exact word special ▸ .special special
  | notANumber =>
      have special : ∀ n m e, Binary64.ofFloat x ≠ .finite n m e := by simp [parts]
      exact word special ▸ .special special

/-- A double with one place tells the nearest tenth. -/
theorem fixed_one {x : Float} {negative : Bool} {m : Nat} {e : Int}
    (parts : Binary64.ofFloat x = .finite negative m e) :
    ∃ tenths : Nat, Near (10 * (m * 2 ^ e)) tenths ∧
      fixed 1 x = (if negative then "-" else "") ++ toString (tenths / 10) ++ "." ++
        toString (tenths % 10) := by
  have near := near_roundDiv (m * tenTo 1 * twoTo e.toNat) (twoTo_pos (-e).toNat)
  have number : ((m * tenTo 1 * twoTo e.toNat : Nat) / (twoTo (-e).toNat : Nat) : ℚ) =
      10 * (m * 2 ^ e) := by
    rw [← twoTo_div_twoTo, show tenTo 1 = 10 from rfl]
    push_cast
    ring
  rw [number] at near
  refine ⟨_, near, ?_⟩
  unfold fixed
  rw [parts]
  simp only [show tenTo 1 = 10 from rfl]
  generalize roundDiv .toEven (m * 10 * twoTo e.toNat) (twoTo (-e).toNat) = tenths
  have digit : Nat.toDigits 10 (tenths % 10) = [Nat.digitChar (tenths % 10)] :=
    Nat.toDigits_of_lt_base (Nat.mod_lt _ (by decide))
  apply String.toList_inj.mp
  cases negative <;> simp [natDigits, digit]

theorem tellsTenths_fixed (x : Float) : TellsTenths (fixed 1 x ++ "%") x := by
  have word (parts : ∀ negative m e, Binary64.ofFloat x ≠ .finite negative m e) :
      fixed 1 x = plain.render x := by
    unfold fixed Style.render
    split
    · rfl
    · rfl
    · exact absurd ‹_› (parts _ _ _)
  cases parts : Binary64.ofFloat x with
  | finite negative m e =>
      obtain ⟨tenths, near, text⟩ := fixed_one parts
      exact text ▸ .finite parts near
  | infinite negative =>
      have special : ∀ n m e, Binary64.ofFloat x ≠ .finite n m e := by simp [parts]
      exact word special ▸ .special special
  | notANumber =>
      have special : ∀ n m e, Binary64.ofFloat x ≠ .finite n m e := by simp [parts]
      exact word special ▸ .special special

/-! ## Rows on JSON lines -/

/-- Lines tell a row field by field. -/
def Row.ToldIn (row : Row) (lines : List (List Char)) : Prop :=
  ∃ percent processPercent close, TellsNumber percent (some row.figure.percent) ∧
    TellsNumber processPercent row.processPercent ∧ (close = "  \x7d" ∨ close = "  \x7d,") ∧
    lines =
      ["  \x7b",
        "    \"index\": " ++ toString row.index ++ ",",
        "    \"timestamp\": \"" ++ timeOfDay row.time ++ "\",",
        "    \"source\": \"" ++ row.figure.basis.name ++ "\",",
        "    \"scope\": \"" ++ row.figure.basis.scope.name ++ "\",",
        "    \"container_cpu_pct\": " ++ percent ++ ",",
        "    \"process_cpu_pct\": " ++ processPercent ++ ",",
        "    \"process_memory_bytes\": " ++ toString row.memory.toNat ++ ",",
        "    \"online_cpus\": " ++ toString row.cpus.toNat ++ ",",
        "    \"degraded\": " ++ (if row.degraded then "true" else "false"),
        close].map String.toList

/-- The blanks before a line. -/
def blanks (level : Nat) : List Char := List.replicate (2 * level) ' '

/-- The lines of fields, with a comma after each but the last. -/
def fieldLines (level : Nat) : List (String × Value) → List (List Char)
  | [] => []
  | [(key, v)] => [blanks level ++ quoted key ++ ':' :: ' ' :: prettyText level v]
  | (key, v) :: rest =>
    (blanks level ++ quoted key ++ ':' :: ' ' :: (prettyText level v ++ [','])) ::
      fieldLines level rest

theorem prettyFields_eq (level : Nat) (fields : List (String × Value)) :
    prettyFields level fields = (fieldLines level fields).flatMap ('\n' :: ·) := by
  fun_induction fieldLines level fields with
  | case1 => rfl
  | case2 key v => simp [prettyFields, indent, blanks]
  | case3 key v rest several ih => simp [prettyFields, ih, indent, blanks]

/-- The lines of an object, with what stands behind it. -/
theorem prettyText_object (level : Nat) {fields : List (String × Value)} (some : fields ≠ [])
    (close : List Char) :
    indent level ++ prettyText level (.object fields) ++ close =
      ((blanks level ++ ['\x7b']) :: (fieldLines (level + 1) fields ++
        [blanks level ++ '\x7d' :: close])).flatMap ('\n' :: ·) := by
  rw [prettyText]
  · simp [prettyFields_eq, indent, blanks]
  · exact fun h => some h

/-- The lines of objects that are the elements of an array, with a comma after each but the
last. -/
def objectLines (level : Nat) : List (List (String × Value)) → List (List (List Char))
  | [] => []
  | [fields] => [(blanks level ++ ['\x7b']) :: (fieldLines (level + 1) fields ++
      [blanks level ++ ['\x7d']])]
  | fields :: rest => ((blanks level ++ ['\x7b']) :: (fieldLines (level + 1) fields ++
      [blanks level ++ ['\x7d', ',']])) :: objectLines level rest

theorem prettyElements_eq (level : Nat) {objects : List (List (String × Value))}
    (some : ∀ fields ∈ objects, fields ≠ []) :
    prettyElements level (objects.map Value.object) =
      (objectLines level objects).flatten.flatMap ('\n' :: ·) := by
  fun_induction objectLines level objects with
  | case1 => rfl
  | case2 fields =>
      have lines := prettyText_object level (some fields List.mem_cons_self) []
      rw [List.append_nil] at lines
      rw [List.map_singleton, prettyElements, lines, List.flatten_singleton]
  | case3 fields rest several ih =>
      rw [List.forall_mem_cons] at some
      have lines := prettyText_object level some.1 [',']
      rw [List.map_cons, prettyElements, ih some.2, List.flatten_cons, List.flatMap_append, ← lines]
      · simp
      · simpa using several

theorem flatMap_feed (lines : List (List Char)) :
    lines.flatMap ('\n' :: ·) ++ ['\n'] = '\n' :: lines.flatMap (· ++ ['\n']) := by
  induction lines with
  | nil => rfl
  | cons line lines ih => simp [ih]

/-- An array of objects stands on lines of its own, object by object. -/
theorem hasLines_jsonText {objects : List (List (String × Value))}
    (some : ∀ fields ∈ objects, fields ≠ []) :
    HasLines (objectLines 1 objects).flatten (jsonText (.array (objects.map Value.object))) := by
  cases objects with
  | nil => exact ⟨[['[', ']']], [], by decide⟩
  | cons fields rest =>
      refine ⟨[['[']], [[']']], ?_⟩
      have elements := prettyElements_eq 1 some
      have feeds := flatMap_feed ((objectLines 1 (fields :: rest)).flatten ++ [[']']])
      simp only [jsonText, line, Value.pretty, String.toList_append, String.toList_ofList]
      rw [prettyText, elements]
      · simp [indent] at feeds ⊢
        exact feeds
      · simp

theorem escapeChar_of_isDigit {c : Char} (digit : c.isDigit = true) : escapeChar c = [c] := by
  have range := Text.range_of_isDigit digit
  have other (d : Char) (no : d.isDigit = false) : c ≠ d := by
    rintro rfl
    rw [digit] at no
    cases no
  have graphic : ¬ c.toNat < 32 := by omega
  simp only [escapeChar, other '"' rfl, other '\\' rfl, other '\n' rfl, other '\r' rfl,
    other '\t' rfl, other '\x08' rfl, other '\x0c' rfl, graphic, if_false]

theorem quoted_of_plain {s : String} (plain : ∀ c ∈ s.toList, escapeChar c = [c]) :
    quoted s = '"' :: (s.toList ++ ['"']) := by
  rw [quoted, List.flatMap_def, List.map_congr_left plain, ← List.flatMap_def,
    List.flatMap_singleton']

theorem isDigit_of_mem_padded {width n : Nat} {c : Char} (mem : c ∈ Time.padded width n) :
    c.isDigit = true := by
  rcases List.mem_append.mp mem with zero | digit
  · rw [(List.mem_replicate.mp zero).2]
    rfl
  · exact (Text.digitRun_toDigits n).digits c digit

/-- A time of day is quoted as it is. -/
theorem quoted_timeOfDay (t : Time.Timestamp) :
    quoted (Row.timeOfDay t) = '"' :: ((Row.timeOfDay t).toList ++ ['"']) := by
  refine quoted_of_plain fun c mem => ?_
  simp only [Row.timeOfDay, String.toList_ofList, List.mem_append, List.mem_cons] at mem
  have plain : c.isDigit = true ∨ c = ':' := by
    rcases mem with (digit | rfl | digit) | rfl | digit
    all_goals first | exact .inl (isDigit_of_mem_padded digit) | exact .inr rfl
  rcases plain with digit | rfl
  · exact escapeChar_of_isDigit digit
  · rfl

theorem quoted_name (t : Tier) : quoted t.name = '"' :: (t.name.toList ++ ['"']) := by
  cases t <;> decide

theorem quoted_scope (s : Scope) : quoted s.name = '"' :: (s.name.toList ++ ['"']) := by
  cases s <;> decide

theorem Row.toldIn_lines (row : Row) {close : List Char} (ends : close = [] ∨ close = [',']) :
    row.ToldIn ((blanks 1 ++ ['\x7b']) :: (fieldLines 2 row.fields ++
      [blanks 1 ++ '\x7d' :: close])) := by
  have tells : ∃ text, TellsNumber text row.processPercent ∧
      prettyText 2 ((row.processPercent.map Value.float).getD .null) = text.toList := by
    cases row.processPercent with
    | none => exact ⟨"null", .absent, rfl⟩
    | some x => exact ⟨numberStyle.render x, tellsNumber_render x, rfl⟩
  obtain ⟨processPercent, tells, text⟩ := tells
  refine ⟨numberStyle.render row.figure.percent, processPercent,
    String.ofList ("  \x7d".toList ++ close), tellsNumber_render _, tells, ?_, ?_⟩
  · rcases ends with rfl | rfl
    · exact .inl rfl
    · exact .inr rfl
  · have keys : quoted "index" = "\"index\"".toList ∧ quoted "timestamp" = "\"timestamp\"".toList ∧
        quoted "source" = "\"source\"".toList ∧ quoted "scope" = "\"scope\"".toList ∧
        quoted "container_cpu_pct" = "\"container_cpu_pct\"".toList ∧
        quoted "process_cpu_pct" = "\"process_cpu_pct\"".toList ∧
        quoted "process_memory_bytes" = "\"process_memory_bytes\"".toList ∧
        quoted "online_cpus" = "\"online_cpus\"".toList ∧
        quoted "degraded" = "\"degraded\"".toList := by decide
    simp only [Row.fields, fieldLines, keys, text, Tier.toJson, prettyText, quoted_timeOfDay,
      quoted_name, quoted_scope]
    simp [blanks, integerText, natDigits]

theorem toldIn_objectLines (rows : List Row) :
    List.Forall₂ Row.ToldIn rows (objectLines 1 (rows.map Row.fields)) := by
  induction rows with
  | nil => exact .nil
  | cons row rows ih =>
      cases rows with
      | nil => exact .cons (row.toldIn_lines (.inl rfl)) .nil
      | cons next rows => exact .cons (row.toldIn_lines (.inr rfl)) ih

/-! ## Rows of a table -/

/-- A cell tells a percentage, perhaps in colour, and a dash that there is none. -/
inductive CellTells (colour : Bool) : String → Option Float → Prop where
  | percentage {text shown : String} {x : Float} (tells : TellsTenths text x)
      (painted : Painted colour text shown) : CellTells colour shown (some x)
  | dash : CellTells colour "-" none

/-- The cells of a row. The words for its source are in colour if it is degraded. -/
def Row.CellsOf (colour : Bool) (row : Row) (cells : List String) : Prop :=
  ∃ source percent processPercent,
    Painted (colour && row.degraded)
      (row.figure.basis.name ++ " (" ++ row.figure.basis.scope.name ++ ")") source ∧
    CellTells colour percent (some row.figure.percent) ∧
    CellTells colour processPercent row.processPercent ∧
    cells = [toString row.index, timeOfDay row.time, source, percent, processPercent,
      bytesText row.memory, toString row.cpus.toNat]

theorem escape_notMem_toDigits (n : Nat) : '\x1b' ∉ Nat.toDigits 10 n :=
  fun mem => absurd ((Text.digitRun_toDigits n).digits _ mem) (by decide)

theorem TellsTenths.escape_notMem {text : String} {x : Float} (tells : TellsTenths text x) :
    '\x1b' ∉ text.toList := by
  cases tells with
  | @finite _ negative =>
      cases negative <;> simp [escape_notMem_toDigits]
  | special parts =>
      unfold Style.render
      split
      · decide
      · rename_i negative _
        cases negative <;> decide
      · exact absurd ‹_› (parts _ _ _)

theorem cellTells_percentText (colour : Bool) (x : Float) :
    CellTells colour (percentText colour x) (some x) :=
  .percentage (tellsTenths_fixed x) (painted_apply _ colour (tellsTenths_fixed x).escape_notMem)

theorem Row.cellsOf_cells (colour : Bool) (row : Row) : row.CellsOf colour (row.cells colour) := by
  refine ⟨row.sourceText colour, percentText colour row.figure.percent,
    (row.processPercent.map (percentText colour)).getD "-", ?_, cellTells_percentText colour _, ?_,
    rfl⟩
  · have clean : '\x1b' ∉ (row.figure.basis.name ++ " (" ++ row.figure.basis.scope.name ++
        ")").toList := by
      cases row.figure.basis <;> decide
    unfold sourceText
    cases row.degraded with
    | true =>
        rw [if_pos rfl, Bool.and_true]
        exact painted_apply .yellow colour clean
    | false =>
        rw [if_neg (by decide), Bool.and_false]
        exact ⟨"", rfl⟩
  · cases row.processPercent with
    | none => exact .dash
    | some x => exact cellTells_percentText colour x

/-! ## Outputs -/

/-- An output shows rows one after another: field by field on JSON lines, or in a table. -/
def ShowsSamples (colour : Bool) (rows : List Row) (output : String) : Format → Prop
  | .json => ∃ blocks, List.Forall₂ Row.ToldIn rows blocks ∧ HasLines blocks.flatten output
  | .table => ∃ cells, List.Forall₂ (Row.CellsOf colour) rows cells ∧ ShowsRows cells output

/-- **A sampling that ends shows its rows.** -/
theorem Sampling.showsSamples_closing (plan : SamplingPlan) (first s : Sampling) :
    ShowsSamples plan.colour s.rows (first.opening plan ++ s.closing plan) plan.format := by
  unfold opening closing ShowsSamples
  cases plan.format with
  | json =>
      have has : HasLines (objectLines 1 (s.rows.map Row.fields)).flatten
          (jsonText (.array ((s.rows.map Row.fields).map Value.object))) :=
        hasLines_jsonText (List.forall_mem_map.mpr fun _ _ => List.cons_ne_nil _ _)
      rw [List.map_map] at has
      refine ⟨_, toldIn_objectLines s.rows, ?_⟩
      rwa [String.empty_append]
  | table =>
      refine ⟨s.rows.map fun row => row.cells plan.colour, ?_, ?_⟩
      · rw [List.forall₂_map_right_iff, List.forall₂_same]
        exact fun row _ => row.cellsOf_cells plan.colour
      · have nonempty : ∀ row ∈ s.rows.map fun r => r.cells plan.colour, row ≠ [] :=
          List.forall_mem_map.mpr fun _ _ => List.cons_ne_nil _ _
        obtain ⟨blocks, rows, part⟩ := rowsIn_tableLines Row.header nonempty
        refine ⟨blocks, rows, HasLines.append_left ?_ _⟩
        cases empty : s.rows.isEmpty with
        | true =>
            rw [List.isEmpty_iff.mp empty] at rows
            cases rows
            rw [if_pos rfl]
            exact hasLines_nil _
        | false =>
            rw [if_neg (by decide)]
            exact (hasLines_linesText part).append_right _

end UsageMeter.Cli
