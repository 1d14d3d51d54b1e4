import UsageMeter.Json.Document
import UsageMeter.Proofs.JsonObjects

/-!
# Printed JSON, read back

What is printed on indented lines is read from them again. A value comes back as it was
if its numbers are integers of 64 bits, no object of it has a key twice, and it nests no
deeper than a reader goes.
-/

namespace UsageMeter.Json
open UsageMeter.Decimal UsageMeter.Text

/-- A value that can come back from its text as it was, for a reader that goes so deep. -/
inductive Plain : Nat → Value → Prop where
  | null {depth : Nat} : Plain depth .null
  | bool {depth : Nat} (b : Bool) : Plain depth (.bool b)
  | natural {depth n : Nat} (word : n ≤ maxWord64) : Plain depth (.integer n)
  | string {depth : Nat} (s : String) : Plain depth (.string s)
  | array {depth : Nat} {elements : List Value} (each : ∀ v ∈ elements, Plain depth v) :
      Plain (depth + 1) (.array elements)
  | object {depth : Nat} {fields : List (String × Value)}
      (distinct : (fields.map Prod.fst).Nodup) (each : ∀ f ∈ fields, Plain depth f.2) :
      Plain (depth + 1) (.object fields)

/-! ## Between the lines -/

theorem skipGaps_indent (level : Nat) (s : List Char) : skipGaps (indent level ++ s) = skipGaps s :=
  List.dropWhile_append_of_pos fun c mem => by
    rcases List.mem_cons.mp mem with rfl | blank
    · rfl
    · rw [List.eq_of_mem_replicate blank]
      rfl

/-- The elements behind the first one, each behind a comma on a line of its own. -/
def laterElementLines (level : Nat) (elements : List Value) : List Char :=
  elements.flatMap fun v => ',' :: (indent level ++ prettyText level v)

theorem prettyElements_cons (level : Nat) (v : Value) (later : List Value) :
    prettyElements level (v :: later) =
      indent level ++ prettyText level v ++ laterElementLines level later := by
  induction later generalizing v with
  | nil => simp [prettyElements, laterElementLines]
  | cons w later ih => simp [prettyElements, laterElementLines, ih]

/-- The fields behind the first one, each behind a comma on a line of its own. -/
def laterFieldLines (level : Nat) (fields : List (String × Value)) : List Char :=
  fields.flatMap fun f =>
    ',' :: (indent level ++ (quoted f.1 ++ ':' :: ' ' :: prettyText level f.2))

theorem prettyFields_cons (level : Nat) (key : String) (v : Value)
    (later : List (String × Value)) :
    prettyFields level ((key, v) :: later) =
      indent level ++ (quoted key ++ ':' :: ' ' :: prettyText level v) ++
        laterFieldLines level later := by
  induction later generalizing key v with
  | nil => simp [prettyFields, laterFieldLines]
  | cons f later ih => simp [prettyFields, laterFieldLines, ih]

theorem nextKey_indented (level : Nat) (key : String) (r : List Char) :
    nextKey true (indent level ++ (quoted key ++ r)) = .ok (some key, r) := by
  rw [quoted_append, nextKey, skipGaps_indent, skipGaps_cons rfl]
  simp [stringBody_quoted, Except.map]

theorem nextKey_later_indented (level : Nat) (key : String) (r : List Char) :
    nextKey false (',' :: (indent level ++ (quoted key ++ r))) = .ok (some key, r) := by
  rw [quoted_append, nextKey, skipGaps_cons rfl]
  simp [skipGaps_indent, skipGaps_cons, isGap, stringBody_quoted, Except.map]

theorem nextKey_end_indented (first : Bool) (level : Nat) (r : List Char) :
    nextKey first (indent level ++ '\x7d' :: r) = .ok (none, r) := by
  rw [nextKey, skipGaps_indent, skipGaps_cons rfl]
  rfl

section
variable {c : Char} (solid : isGap c = false) (inner : c ≠ ']')
include solid inner

theorem nextElement_indented (level : Nat) (r : List Char) :
    nextElement true (indent level ++ c :: r) = .ok (true, c :: r) := by
  rw [nextElement, skipGaps_indent, skipGaps_cons solid]
  split <;> simp_all

theorem nextElement_later_indented (level : Nat) (r : List Char) :
    nextElement false (',' :: (indent level ++ c :: r)) = .ok (true, c :: r) := by
  have next : skipGaps (indent level ++ c :: r) = c :: r := by
    rw [skipGaps_indent, skipGaps_cons solid]
  rw [nextElement, skipGaps_cons rfl]
  split
  · simp_all
  · simp_all
  · rename_i same
    cases same
    simp only [Bool.false_eq_true, if_false, if_true, next]
    split <;> simp_all

end

theorem nextElement_end_indented (first : Bool) (level : Nat) (r : List Char) :
    nextElement first (indent level ++ ']' :: r) = .ok (false, ']' :: r) := by
  rw [nextElement, skipGaps_indent, skipGaps_cons rfl]
  rfl

/-! ## Values -/

/-- A reader of values, given enough steps, reads a value from its lines. -/
def Restores (depth : Nat) (v : Value) : Prop :=
  ∀ level fuel rest, EndsValue rest → (prettyText level v ++ rest).length ≤ fuel →
    readValue fuel depth (prettyText level v ++ rest) = .ok (v, rest)

theorem readValue_blank (fuel depth : Nat) (s : List Char) :
    readValue fuel depth (' ' :: s) = readValue fuel depth s := by
  cases fuel with
  | zero => rfl
  | succ fuel => rw [readValue, readValue]; rfl

theorem natDigits_head (n : Nat) :
    ∃ c r, natDigits n = c :: r ∧ c.isDigit = true := by
  obtain ⟨c, r, cut⟩ := List.exists_cons_of_ne_nil (digitRun_toDigits n).nonempty
  exact ⟨c, r, cut, (digitRun_toDigits n).digits c (cut ▸ List.mem_cons_self)⟩

/-- No text of a value begins with a gap or with the end of an array. -/
theorem Plain.head {depth : Nat} {v : Value} (plain : Plain depth v) (level : Nat) :
    ∃ c r, prettyText level v = c :: r ∧ isGap c = false ∧ c ≠ ']' := by
  cases plain with
  | null => exact ⟨_, _, rfl, rfl, by decide⟩
  | bool b => cases b <;> exact ⟨_, _, rfl, rfl, by decide⟩
  | natural word =>
      obtain ⟨c, r, cut, digit⟩ := natDigits_head _
      refine ⟨c, r, cut, isGap_of_isDigit digit, ?_⟩
      rintro rfl
      cases digit
  | string s => exact ⟨_, _, rfl, rfl, by decide⟩
  | @array _ elements each => cases elements <;> exact ⟨_, _, rfl, rfl, by decide⟩
  | @object _ fields distinct each => cases fields <;> exact ⟨_, _, rfl, rfl, by decide⟩

/-- A value takes a step at least. -/
theorem Plain.restores_of_step {depth : Nat} {v : Value} (plain : Plain depth v)
    (step : ∀ level fuel rest, EndsValue rest → (prettyText level v ++ rest).length ≤ fuel + 1 →
      readValue (fuel + 1) depth (prettyText level v ++ rest) = .ok (v, rest)) :
    Restores depth v := by
  intro level fuel rest ends enough
  cases fuel with
  | zero =>
      obtain ⟨c, r, cut, -, -⟩ := plain.head level
      rw [cut] at enough
      cases enough
  | succ fuel => exact step level fuel rest ends enough

theorem restores_natural {depth n : Nat} (word : n ≤ maxWord64) :
    Restores depth (.integer n) := by
  refine (Plain.natural word).restores_of_step fun level fuel rest ends enough => ?_
  have read := number_natDigits false word ends
  obtain ⟨c, r, cut, digit⟩ := natDigits_head n
  show readValue (fuel + 1) depth (natDigits n ++ rest) = _
  rw [cut, List.cons_append] at read ⊢
  rw [readValue, skipGaps_cons (isGap_of_isDigit digit)]
  -- of the characters that a value begins with, only digits are digits
  split
  case h_9 =>
    rename_i same
    cases same
    rw [if_pos (by simp [digit?_eq_some_iff.mpr ⟨digit, rfl⟩]), read]
    rfl
  all_goals
    rename_i same
    cases same
    try cases digit

/-! Arrays are read element by element, objects field by field. -/

section
variable {fuel depth : Nat} {first : Bool} {s text more : List Char} {v : Value}

theorem arrayElements_step (here : nextElement first s = .ok (true, text))
    (read : readValue fuel depth text = .ok (v, more)) :
    arrayElements (fuel + 1) depth first s =
      (arrayElements fuel depth false more).map fun p => (v :: p.1, p.2) := by
  rw [arrayElements]
  simp only [here, bind, Except.bind, read]
  cases arrayElements fuel depth false more <;> rfl

theorem objectFields_step {key : String} {fields : List (String × Value)}
    (here : nextKey first s = .ok (some key, ':' :: ' ' :: text))
    (read : readValue fuel depth text = .ok (v, more)) :
    objectFields (fuel + 1) depth first fields s =
      objectFields fuel depth false (insertField key v fields) more := by
  rw [objectFields]
  simp only [here, bind, Except.bind, colon_cons, readValue_blank, read]

end

theorem endsValue_indent (level : Nat) (r : List Char) : EndsValue (indent level ++ r) :=
  endsValue_newline _

section
variable {depth : Nat} (level outer : Nat) (rest : List Char)

theorem endsValue_laterElementLines (elements : List Value) :
    EndsValue (laterElementLines level elements ++ (indent outer ++ rest)) := by
  cases elements with
  | nil => exact endsValue_indent outer rest
  | cons v later => exact endsValue_comma _

theorem endsValue_laterFieldLines (fields : List (String × Value)) :
    EndsValue (laterFieldLines level fields ++ (indent outer ++ rest)) := by
  cases fields with
  | nil => exact endsValue_indent outer rest
  | cons f later => exact endsValue_comma _

theorem arrayElements_later {elements : List Value} (each : ∀ v ∈ elements, Plain depth v)
    (restored : ∀ v ∈ elements, Restores depth v) {fuel : Nat}
    (enough : (laterElementLines level elements ++ (indent outer ++ ']' :: rest)).length ≤ fuel) :
    arrayElements fuel depth false
        (laterElementLines level elements ++ (indent outer ++ ']' :: rest)) =
      .ok (elements, rest) := by
  induction elements generalizing fuel with
  | nil =>
      obtain ⟨fuel, rfl⟩ : ∃ n, fuel = n + 1 := ⟨fuel - 1, by simp [indent] at enough; omega⟩
      rw [arrayElements, laterElementLines, List.flatMap_nil, List.nil_append,
        nextElement_end_indented]
      rfl
  | cons v later ih =>
      rw [List.forall_mem_cons] at each restored
      obtain ⟨c, r, cut, solid, inner⟩ := each.1.head level
      have split : laterElementLines level (v :: later) ++ (indent outer ++ ']' :: rest) =
          ',' :: (indent level ++ (prettyText level v ++
            (laterElementLines level later ++ (indent outer ++ ']' :: rest)))) := by
        simp [laterElementLines]
      rw [split, List.length_cons, List.length_append, List.length_append] at enough
      obtain ⟨fuel, rfl⟩ : ∃ n, fuel = n + 1 := ⟨fuel - 1, by omega⟩
      have read := restored.1 level fuel _
        (endsValue_laterElementLines level outer (']' :: rest) later)
        (by rw [List.length_append]; omega)
      have next := nextElement_later_indented solid inner level
      rw [split, arrayElements_step (by rw [cut]; exact next _) read,
        ih each.2 restored.2 (by omega)]
      rfl

theorem objectFields_later {fields known : List (String × Value)}
    (distinct : ((known ++ fields).map Prod.fst).Nodup)
    (restored : ∀ f ∈ fields, Restores depth f.2) {fuel : Nat}
    (enough : (laterFieldLines level fields ++ (indent outer ++ '\x7d' :: rest)).length ≤ fuel) :
    objectFields fuel depth false known
        (laterFieldLines level fields ++ (indent outer ++ '\x7d' :: rest)) =
      .ok (known ++ fields, rest) := by
  induction fields generalizing known fuel with
  | nil =>
      obtain ⟨fuel, rfl⟩ : ∃ n, fuel = n + 1 := ⟨fuel - 1, by simp [indent] at enough; omega⟩
      rw [objectFields, laterFieldLines, List.flatMap_nil, List.nil_append, nextKey_end_indented,
        List.append_nil]
  | cons f later ih =>
      obtain ⟨key, v⟩ := f
      rw [List.forall_mem_cons] at restored
      have split : laterFieldLines level ((key, v) :: later) ++ (indent outer ++ '\x7d' :: rest) =
          ',' :: (indent level ++ (quoted key ++ ':' :: ' ' :: (prettyText level v ++
            (laterFieldLines level later ++ (indent outer ++ '\x7d' :: rest))))) := by
        simp [laterFieldLines]
      rw [split, List.length_cons, List.length_append, List.length_append, List.length_cons,
        List.length_cons, List.length_append] at enough
      obtain ⟨fuel, rfl⟩ : ∃ n, fuel = n + 1 := ⟨fuel - 1, by omega⟩
      have read := restored.1 level fuel _
        (endsValue_laterFieldLines level outer ('\x7d' :: rest) later)
        (by rw [List.length_append]; show (prettyText level v).length + _ ≤ _; omega)
      have new : key ∉ known.map Prod.fst := by
        rw [List.map_append, List.nodup_append] at distinct
        exact fun known => distinct.2.2 key known key (by simp) rfl
      have extended : known ++ (key, v) :: later = (known ++ [(key, v)]) ++ later := by simp
      rw [split, objectFields_step (nextKey_later_indented level key _) read,
        insertField_of_notMem new, ih (extended ▸ distinct) restored.2 (by omega), extended]

end

theorem restores_array {depth : Nat} {elements : List Value}
    (each : ∀ v ∈ elements, Plain depth v) (restored : ∀ v ∈ elements, Restores depth v) :
    Restores (depth + 1) (.array elements) := by
  refine (Plain.array each).restores_of_step fun level fuel rest ends enough => ?_
  have opens : ∀ s, readValue (fuel + 1) (depth + 1) ('[' :: s) =
      (arrayElements fuel depth true s).map fun p => (.array p.1, p.2) := by
    intro s
    rw [readValue, skipGaps_cons rfl]
    rfl
  cases elements with
  | nil =>
      obtain ⟨fuel, rfl⟩ : ∃ n, fuel = n + 1 := ⟨fuel - 1, by simp [prettyText] at enough; omega⟩
      exact opens (']' :: rest)
  | cons v later =>
      rw [List.forall_mem_cons] at each restored
      obtain ⟨c, r, cut, solid, inner⟩ := each.1.head (level + 1)
      have split : prettyText level (.array (v :: later)) ++ rest =
          '[' :: (indent (level + 1) ++ (prettyText (level + 1) v ++
            (laterElementLines (level + 1) later ++ (indent level ++ ']' :: rest)))) := by
        rw [prettyText, prettyElements_cons]
        · simp
        · simp
      rw [split, List.length_cons, List.length_append, List.length_append] at enough
      obtain ⟨fuel, rfl⟩ : ∃ n, fuel = n + 1 := ⟨fuel - 1, by simp [indent] at enough; omega⟩
      have read := restored.1 (level + 1) fuel _
        (endsValue_laterElementLines (level + 1) level (']' :: rest) later)
        (by rw [List.length_append]; simp [indent] at enough ⊢; omega)
      have next := nextElement_indented solid inner (level + 1)
      rw [split, opens, arrayElements_step (by rw [cut]; exact next _) read,
        arrayElements_later (level + 1) level rest each.2 restored.2
          (by simp [indent] at enough ⊢; omega)]
      rfl

theorem restores_object {depth : Nat} {fields : List (String × Value)}
    (distinct : (fields.map Prod.fst).Nodup) (each : ∀ f ∈ fields, Plain depth f.2)
    (restored : ∀ f ∈ fields, Restores depth f.2) :
    Restores (depth + 1) (.object fields) := by
  refine (Plain.object distinct each).restores_of_step fun level fuel rest ends enough => ?_
  have opens : ∀ s, readValue (fuel + 1) (depth + 1) ('\x7b' :: s) =
      (objectFields fuel depth true [] s).map fun p => (.object p.1, p.2) := by
    intro s
    rw [readValue, skipGaps_cons rfl]
    rfl
  cases fields with
  | nil =>
      obtain ⟨fuel, rfl⟩ : ∃ n, fuel = n + 1 := ⟨fuel - 1, by simp [prettyText] at enough; omega⟩
      exact opens ('\x7d' :: rest)
  | cons f later =>
      obtain ⟨key, v⟩ := f
      rw [List.forall_mem_cons] at restored
      have split : prettyText level (.object ((key, v) :: later)) ++ rest =
          '\x7b' :: (indent (level + 1) ++ (quoted key ++ ':' :: ' ' :: (prettyText (level + 1) v ++
            (laterFieldLines (level + 1) later ++ (indent level ++ '\x7d' :: rest))))) := by
        rw [prettyText, prettyFields_cons]
        · simp
        · simp
      rw [split] at enough
      obtain ⟨fuel, rfl⟩ : ∃ n, fuel = n + 1 := ⟨fuel - 1, by simp [indent] at enough; omega⟩
      have read := restored.1 (level + 1) fuel _
        (endsValue_laterFieldLines (level + 1) level ('\x7d' :: rest) later)
        (by simp [indent] at enough ⊢; omega)
      rw [split, opens, objectFields_step (nextKey_indented (level + 1) key _) read,
        insertField, objectFields_later (level + 1) level rest distinct restored.2
          (by simp [indent] at enough ⊢; omega)]
      rfl

/-- **Printed JSON comes back**: a reader that goes deep enough and takes a step for each
character reads a value from its lines, and what stands behind is left. -/
theorem Plain.restores {depth : Nat} {v : Value} (plain : Plain depth v) : Restores depth v := by
  induction plain with
  | natural word => exact restores_natural word
  | null =>
      refine Plain.null.restores_of_step fun level fuel rest ends enough => ?_
      exact congrArg (Except.map (Value.null, ·)) (word_append "ull".toList rest)
  | bool b =>
      refine (Plain.bool b).restores_of_step fun level fuel rest ends enough => ?_
      cases b with
      | true => exact congrArg (Except.map (Value.bool true, ·)) (word_append "rue".toList rest)
      | false => exact congrArg (Except.map (Value.bool false, ·)) (word_append "alse".toList rest)
  | string s =>
      refine (Plain.string s).restores_of_step fun level fuel rest ends enough => ?_
      rw [prettyText, quoted_append, readValue, skipGaps_cons rfl]
      simp only [stringBody_quoted, Except.map, String.ofList_toList]
  | array each ih => exact restores_array each ih
  | object distinct each ih => exact restores_object distinct each ih

/-- A value that is printed on lines of its own is what is read from them. -/
theorem Plain.parse_pretty {v : Value} (plain : Plain depthLimit v) :
    Value.parse (v.pretty ++ "\n") = .ok v := by
  have text : (v.pretty ++ "\n").toList = prettyText 0 v ++ ['\n'] := by simp [Value.pretty]
  have read := plain.restores 0 (2 * (v.pretty ++ "\n").toList.length + 2) ['\n']
    (endsValue_newline []) (by rw [text]; omega)
  rw [Value.parse, readAll]
  simp only [text] at read ⊢
  rw [read]
  rfl

end UsageMeter.Json
