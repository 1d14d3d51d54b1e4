import UsageMeter.Exposition

/-!
# Sample lines

Reading the line of a sample back. `readSample` takes a line apart into the name,
the labels with their escapes undone, and the text of the value. It inverts
`sampleLine` for every value of a label, so no value can pass for another label,
another value or the end of the line; and nothing that is written breaks its
line.
-/

namespace UsageMeter.Exposition
open UsageMeter.Decimal

/-! ## Reading a line -/

/-- Puts a character before what was read; what follows stays. -/
def prepend (c : Char) (read : Option (List Char × List Char)) :
    Option (List Char × List Char) :=
  read.map fun (front, rest) => (c :: front, rest)

/-- The characters before a mark, and what follows the mark. -/
def cut (mark : Char) : List Char → Option (List Char × List Char)
  | [] => none
  | c :: rest => if c = mark then some ([], rest) else prepend c (cut mark rest)

/-- The character that a backslash and this one stand for. -/
def escaped? : Char → Option Char
  | '\\' => some '\\'
  | 'n' => some '\n'
  | '"' => some '"'
  | _ => none

/-- The value of a label up to the quote that ends it, and what follows. -/
def readValue : List Char → Option (List Char × List Char)
  | [] => none
  | '"' :: rest => some ([], rest)
  | '\\' :: e :: rest => (escaped? e).bind fun c => prepend c (readValue rest)
  | c :: rest => prepend c (readValue rest)

/-- A label with its value, and what follows. -/
def readLabel (cs : List Char) : Option ((String × String) × List Char) :=
  match cut '=' cs with
  | some (name, '"' :: rest) =>
    (readValue rest).map fun (value, after) =>
      ((String.ofList name, String.ofList value), after)
  | _ => none

theorem exists_of_prepend {c : Char} {read : Option (List Char × List Char)}
    {front rest : List Char} (h : prepend c read = some (front, rest)) :
    ∃ later, read = some (later, rest) := by
  obtain ⟨⟨later, rest'⟩, hread, hmap⟩ := Option.map_eq_some_iff.mp h
  cases hmap
  exact ⟨later, hread⟩

theorem length_cut_lt {mark : Char} {cs front rest : List Char}
    (h : cut mark cs = some (front, rest)) : rest.length < cs.length := by
  induction cs generalizing front with
  | nil => cases h
  | cons c cs ih =>
      unfold cut at h
      split at h
      · cases h
        exact Nat.lt_succ_self _
      · obtain ⟨later, hlater⟩ := exists_of_prepend h
        exact Nat.lt_succ_of_lt (ih hlater)

theorem length_readValue_lt {cs value rest : List Char}
    (h : readValue cs = some (value, rest)) : rest.length < cs.length := by
  fun_induction readValue cs generalizing value with
  | case1 => cases h
  | case2 cs =>
      cases h
      exact Nat.lt_succ_self _
  | case3 e cs ih =>
      obtain ⟨c, -, hread⟩ := Option.bind_eq_some_iff.mp h
      obtain ⟨later, hlater⟩ := exists_of_prepend hread
      exact Nat.lt_succ_of_lt (Nat.lt_succ_of_lt (ih hlater))
  | case4 c cs _ _ ih =>
      obtain ⟨later, hlater⟩ := exists_of_prepend h
      exact Nat.lt_succ_of_lt (ih hlater)

theorem length_readLabel_lt {cs rest : List Char} {label : String × String}
    (h : readLabel cs = some (label, rest)) : rest.length < cs.length := by
  unfold readLabel at h
  split at h
  · rename_i name after hcut
    obtain ⟨⟨value, rest'⟩, hvalue, hmap⟩ := Option.map_eq_some_iff.mp h
    cases hmap
    exact Nat.lt_trans (length_readValue_lt hvalue) (Nat.lt_of_succ_lt (length_cut_lt hcut))
  · cases h

/-- The labels up to the brace that ends them, and what follows. -/
def readLabels (cs : List Char) : Option (List (String × String) × List Char) :=
  match _h : readLabel cs with
  | some (label, '\x7d' :: rest) => some ([label], rest)
  | some (label, ',' :: rest) =>
    (readLabels rest).map fun (labels, after) => (label :: labels, after)
  | _ => none
termination_by cs.length
decreasing_by exact Nat.lt_of_succ_lt (length_readLabel_lt _h)

/-- What the line of a sample tells. -/
structure SampleTold where
  name : String
  labels : List (String × String)
  value : String
deriving DecidableEq, Repr

/-- Whether a character ends the name of a sample. -/
def endsName (c : Char) : Bool := c == '\x7b' || c == ' '

/-- What a line tells, if it is the line of a sample. -/
def readSample (line : List Char) : Option SampleTold :=
  let name := String.ofList (line.takeWhile (!endsName ·))
  match line.dropWhile (!endsName ·) with
  | '\x7b' :: rest =>
    match readLabels rest with
    | some (labels, ' ' :: value) => some ⟨name, labels, String.ofList value⟩
    | _ => none
  | ' ' :: value => some ⟨name, [], String.ofList value⟩
  | _ => none

/-! ## What was written is read -/

theorem cut_append {mark : Char} {front : List Char} (h : mark ∉ front) (rest : List Char) :
    cut mark (front ++ mark :: rest) = some (front, rest) := by
  induction front with
  | nil => exact if_pos rfl
  | cons c cs ih =>
      rw [List.mem_cons, not_or] at h
      rw [List.cons_append, cut, if_neg (Ne.symm h.1), ih h.2]
      rfl

theorem readValue_escapeValue (value rest : List Char) :
    readValue (escapeValue value ++ '"' :: rest) = some (value, rest) := by
  fun_induction escapeValue value with
  | case1 => rfl
  | case2 cs ih => simp [readValue, escaped?, prepend, ih]
  | case3 cs ih => simp [readValue, escaped?, prepend, ih]
  | case4 cs ih => simp [readValue, escaped?, prepend, ih]
  | case5 c cs backslash feed quote ih =>
      -- any other character stands for itself
      rw [List.cons_append, readValue, ih]
      · rfl
      · exact quote
      · exact fun _ _ h => (backslash h).elim

theorem readLabel_labelText {label : String × String} (h : '=' ∉ label.1.toList)
    (rest : List Char) :
    readLabel ((labelText label).toList ++ rest) = some (label, rest) := by
  have written : (labelText label).toList ++ rest =
      label.1.toList ++ '=' :: '"' :: (escapeValue label.2.toList ++ '"' :: rest) := by
    simp [labelText]
  rw [written, readLabel, cut_append h]
  simp [readValue_escapeValue]

theorem readLabels_of_last {cs rest : List Char} {label : String × String}
    (h : readLabel cs = some (label, '\x7d' :: rest)) : readLabels cs = some ([label], rest) := by
  unfold readLabels
  split <;> simp_all

theorem readLabels_of_more {cs rest after : List Char} {label : String × String}
    {labels : List (String × String)} (h : readLabel cs = some (label, ',' :: rest))
    (more : readLabels rest = some (labels, after)) :
    readLabels cs = some (label :: labels, after) := by
  rw [readLabels]
  split <;> simp_all

/-- Labels with commas between them are read one by one. -/
theorem readLabels_intercalate {label : String × String} {labels : List (String × String)}
    (h : ∀ l ∈ label :: labels, '=' ∉ l.1.toList) (rest : List Char) :
    readLabels ([','].intercalate ((label :: labels).map fun l => (labelText l).toList) ++
      '\x7d' :: rest) = some (label :: labels, rest) := by
  induction labels generalizing label with
  | nil =>
      apply readLabels_of_last
      simpa using readLabel_labelText (h label List.mem_cons_self) ('\x7d' :: rest)
  | cons next labels ih =>
      refine readLabels_of_more ?_ (ih fun l hl => h l (List.mem_cons_of_mem _ hl))
      rw [← readLabel_labelText (h label List.mem_cons_self)]
      simp [List.intercalate_cons_cons]

/-- **A sample line tells its sample.** -/
theorem readSample_sampleLine {family : String} {s : FamilySample}
    (name : ∀ c ∈ (family ++ s.nameEnd).toList, endsName c = false)
    (labels : ∀ l ∈ s.labels, '=' ∉ l.1.toList) :
    readSample (sampleLine family s).toList =
      some ⟨family ++ s.nameEnd, s.labels, s.value⟩ := by
  have passed : ∀ c ∈ (family ++ s.nameEnd).toList, (!endsName c) = true := by simpa using name
  have line : (sampleLine family s).toList =
      (family ++ s.nameEnd).toList ++ ((labelsText s.labels).toList ++ ' ' :: s.value.toList) := by
    simp [sampleLine]
  rw [line, readSample, List.takeWhile_append_of_pos passed, List.dropWhile_append_of_pos passed]
  cases h : s.labels with
  | nil => simp [labelsText, endsName]
  | cons label rest =>
      rw [h] at labels
      have written : (labelsText (label :: rest)).toList ++ ' ' :: s.value.toList =
          '\x7b' :: ([','].intercalate ((label :: rest).map fun l => (labelText l).toList) ++
            '\x7d' :: ' ' :: s.value.toList) := by
        simp [labelsText, String.toList_intercalate, Function.comp_def]
      rw [written, List.takeWhile_cons_of_neg (by decide), List.dropWhile_cons_of_neg (by decide)]
      simp only [readLabels_intercalate labels, List.append_nil, String.ofList_toList]

end UsageMeter.Exposition
