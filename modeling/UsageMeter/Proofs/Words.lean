import UsageMeter.Text.Blank

/-!
# Words and lines

How a text is made of words and of lines, as relations between a text and what it
is cut into. Every text is cut in one way only, and `words` and `lines` find it.
-/

namespace UsageMeter.Text

/-! ## Words -/

/-- A text of blanks alone. -/
def Blanks (s : List Char) : Prop := ∀ c ∈ s, isBlank c = true

/-- A text without blanks. -/
def Unbroken (s : List Char) : Prop := ∀ c ∈ s, isBlank c = false

/-- A text that a word may stand before: it is empty or starts with a blank. -/
def EndsWord (s : List Char) : Prop := ∀ c ∈ s.head?, isBlank c = true

/-- A text consists of words, with blanks between them, and perhaps before the
first and after the last. -/
inductive Spaced : List Char → List (List Char) → Prop where
  | blanks {gap : List Char} (lead : Blanks gap) : Spaced gap []
  | word {gap w rest : List Char} {ws : List (List Char)} (lead : Blanks gap) (nonempty : w ≠ [])
      (unbroken : Unbroken w) (ends : EndsWord rest) (more : Spaced rest ws) :
      Spaced (gap ++ w ++ rest) (w :: ws)

theorem isBlank_of_isDigit {c : Char} (digit : c.isDigit = true) : isBlank c = false := by
  have range : 48 ≤ c.toNat ∧ c.toNat ≤ 57 := Char.isDigit_iff_toNat.mp digit
  grind [isBlank]

theorem Blanks.append {s t : List Char} (hs : Blanks s) (ht : Blanks t) : Blanks (s ++ t) := by
  intro c h
  rcases List.mem_append.mp h with front | back
  · exact hs c front
  · exact ht c back

theorem words_append_of_blanks {gap : List Char} (lead : Blanks gap) (s : List Char) :
    words (gap ++ s) = words s := by
  induction gap with
  | nil => rfl
  | cons c gap ih =>
      rw [Blanks, List.forall_mem_cons] at lead
      rw [List.cons_append, words_cons_blank lead.1, ih lead.2]

theorem cutWord_of_endsWord {s : List Char} (ends : EndsWord s) : cutWord s = ([], words s) := by
  cases s with
  | nil => rfl
  | cons c r =>
      have blank : isBlank c = true := ends c rfl
      rw [words_cons_blank blank]
      simp [cutWord, blank, words]

theorem cutWord_append {w rest : List Char} (unbroken : Unbroken w) (ends : EndsWord rest) :
    cutWord (w ++ rest) = (w, words rest) := by
  induction w with
  | nil => exact cutWord_of_endsWord ends
  | cons c w ih =>
      rw [Unbroken, List.forall_mem_cons] at unbroken
      simp [cutWord, ih unbroken.2, unbroken.1]

theorem Spaced.words_eq {s : List Char} {ws : List (List Char)} (h : Spaced s ws) :
    words s = ws := by
  induction h with
  | @blanks gap lead => simpa using words_append_of_blanks lead []
  | @word gap w rest ws lead nonempty unbroken ends more ih =>
      rw [List.append_assoc, words_append_of_blanks lead, words, cutWord_append unbroken ends, ih]
      simp [consWord, nonempty]

theorem Spaced.prepend {gap s : List Char} {ws : List (List Char)} (lead : Blanks gap)
    (h : Spaced s ws) : Spaced (gap ++ s) ws := by
  cases h with
  | blanks more => exact .blanks (lead.append more)
  | word more nonempty unbroken ends rest =>
      rw [← List.append_assoc, ← List.append_assoc]
      exact .word (lead.append more) nonempty unbroken ends rest

/-- What `consWord` puts before words is a word or nothing. -/
theorem Spaced.consWord {w rest : List Char} {ws : List (List Char)} (unbroken : Unbroken w)
    (ends : EndsWord rest) (more : Spaced rest ws) : Spaced (w ++ rest) (consWord w ws) := by
  cases w with
  | nil => exact more
  | cons c w =>
      have lead : Blanks [] := nofun
      exact .word lead nofun unbroken ends more

/-- Cutting off the front of a text leaves the words of the rest. -/
theorem exists_cutWord (s : List Char) :
    ∃ rest, s = (cutWord s).1 ++ rest ∧ Unbroken (cutWord s).1 ∧ EndsWord rest ∧
      Spaced rest (cutWord s).2 := by
  induction s with
  | nil => exact ⟨[], rfl, nofun, nofun, .blanks nofun⟩
  | cons c r ih =>
      obtain ⟨rest, cut, unbroken, ends, more⟩ := ih
      by_cases blank : isBlank c = true
      · have spaced := Spaced.consWord unbroken ends more
        rw [← cut] at spaced
        have lead : Blanks [c] := by simpa [Blanks] using blank
        refine ⟨c :: r, ?_, ?_, ?_, ?_⟩
        · simp [cutWord, blank]
        · simp [cutWord, blank, Unbroken]
        · simpa [EndsWord] using blank
        · simpa [cutWord, blank] using spaced.prepend lead
      · rw [Bool.not_eq_true] at blank
        refine ⟨rest, ?_, ?_, ends, ?_⟩
        · simpa [cutWord, blank] using cut
        · simpa [cutWord, blank, Unbroken] using unbroken
        · simpa [cutWord, blank] using more

theorem spaced_words (s : List Char) : Spaced s (words s) := by
  obtain ⟨rest, cut, unbroken, ends, more⟩ := exists_cutWord s
  have spaced := Spaced.consWord unbroken ends more
  rwa [← cut] at spaced

/-- **The words of a text** are those that it is made of. -/
theorem words_eq_iff {s : List Char} {ws : List (List Char)} : words s = ws ↔ Spaced s ws :=
  ⟨fun h => h ▸ spaced_words s, Spaced.words_eq⟩

/-! ## Lines -/

/-- A line without the carriage return that its end begins with. -/
def dropReturn (l : List Char) : List Char :=
  if l.getLast? = some '\r' then l.dropLast else l

/-- A text consists of lines. Each but the last ends at the first line feed, and
a carriage return before that belongs to its end; the last may go without. -/
inductive Lined : List Char → List (List Char) → Prop where
  | nil : Lined [] []
  | last {l : List Char} (nonempty : l ≠ []) (whole : '\n' ∉ l) : Lined l [l]
  | line {l rest : List Char} {ls : List (List Char)} (whole : '\n' ∉ l) (more : Lined rest ls) :
      Lined (l ++ '\n' :: rest) (dropReturn l :: ls)

/-- A character in front of a line is part of it, unless the end of a line begins
with it. -/
theorem lines_cons {c : Char} {r : List Char} (feed : c ≠ '\n')
    (ret : c = '\r' → r.head? ≠ some '\n') :
    lines (c :: r) =
      match lines r with
      | [] => [[c]]
      | l :: ls => (c :: l) :: ls := by
  have apart : ∀ t, c = '\r' → r = '\n' :: t → False := by
    rintro t rfl rfl
    exact ret rfl rfl
  exact lines.eq_4 c r apart feed

theorem lines_of_whole {l : List Char} (nonempty : l ≠ []) (whole : '\n' ∉ l) : lines l = [l] := by
  induction l with
  | nil => exact absurd rfl nonempty
  | cons c l ih =>
      rw [List.mem_cons, not_or] at whole
      rw [lines_cons (Ne.symm whole.1) fun _ h => whole.2 (List.mem_of_mem_head? h)]
      cases l with
      | nil => rfl
      | cons d l => rw [ih nofun whole.2]

theorem dropReturn_cons_cons (c d : Char) (l : List Char) :
    dropReturn (c :: d :: l) = c :: dropReturn (d :: l) := by
  unfold dropReturn
  rw [List.getLast?_cons_cons]
  split <;> simp

theorem lines_append {l : List Char} (whole : '\n' ∉ l) (rest : List Char) :
    lines (l ++ '\n' :: rest) = dropReturn l :: lines rest := by
  induction l with
  | nil => rfl
  | cons c l ih =>
      rw [List.mem_cons, not_or] at whole
      specialize ih whole.2
      cases l with
      | nil =>
          by_cases ret : c = '\r'
          · subst ret
            rfl
          · rw [List.cons_append, lines_cons (Ne.symm whole.1) fun h => absurd h ret, ih]
            simp [dropReturn, ret]
      | cons d l =>
          have next : ((d :: l) ++ '\n' :: rest).head? ≠ some '\n' := by
            simpa using fun h : d = '\n' => whole.2 (h ▸ List.mem_cons_self)
          rw [List.cons_append, lines_cons (Ne.symm whole.1) fun _ => next, ih,
            dropReturn_cons_cons]

theorem Lined.lines_eq {s : List Char} {ls : List (List Char)} (h : Lined s ls) :
    lines s = ls := by
  induction h with
  | nil => rfl
  | last nonempty whole => exact lines_of_whole nonempty whole
  | line whole more ih => rw [lines_append whole, ih]

theorem lined_lines (s : List Char) : Lined s (lines s) := by
  -- on the length, since a whole line is taken off at a time
  induction h : s.length using Nat.strongRecOn generalizing s with
  | ind n ih =>
      by_cases feed : '\n' ∈ s
      · obtain ⟨l, rest, rfl, whole⟩ := List.eq_append_cons_of_mem feed
        rw [lines_append whole]
        have shorter : rest.length < n := by
          rw [List.length_append, List.length_cons] at h
          omega
        exact .line whole (ih _ shorter rest rfl)
      · by_cases empty : s = []
        · subst empty
          exact .nil
        · rw [lines_of_whole empty feed]
          exact .last empty feed

/-- **The lines of a text** are those that it consists of. -/
theorem lines_eq_iff {s : List Char} {ls : List (List Char)} : lines s = ls ↔ Lined s ls :=
  ⟨fun h => h ▸ lined_lines s, Lined.lines_eq⟩

/-! ## A single word -/

theorem trimStart_append_of_blanks {gap : List Char} (lead : Blanks gap) (s : List Char) :
    trimStart (gap ++ s) = trimStart s :=
  List.dropWhile_append_of_pos lead

theorem trimStart_word {w : List Char} (nonempty : w ≠ []) (unbroken : Unbroken w)
    (rest : List Char) : trimStart (w ++ rest) = w ++ rest := by
  cases w with
  | nil => exact absurd rfl nonempty
  | cons c w => simp [trimStart, unbroken c List.mem_cons_self]

theorem trim_append {lead w trail : List Char} (before : Blanks lead) (nonempty : w ≠ [])
    (unbroken : Unbroken w) (behind : Blanks trail) : trim (lead ++ w ++ trail) = w := by
  have back : Blanks trail.reverse := fun c h => behind c (List.mem_reverse.mp h)
  have turned : Unbroken w.reverse := fun c h => unbroken c (List.mem_reverse.mp h)
  rw [List.append_assoc, trim, trimStart_append_of_blanks before, trimStart_word nonempty unbroken,
    List.reverse_append, trimStart_append_of_blanks back]
  have kept := trimStart_word (by simpa using nonempty) turned []
  rw [List.append_nil] at kept
  rw [kept, List.reverse_reverse]

theorem exists_trimStart (s : List Char) : ∃ gap, Blanks gap ∧ s = gap ++ trimStart s := by
  exact ⟨s.takeWhile isBlank, List.all_eq_true.mp List.all_takeWhile,
    List.takeWhile_append_dropWhile.symm⟩

theorem exists_trim (s : List Char) :
    ∃ lead trail, Blanks lead ∧ Blanks trail ∧ s = lead ++ trim s ++ trail := by
  obtain ⟨lead, before, front⟩ := exists_trimStart s
  obtain ⟨turned, behind, back⟩ := exists_trimStart (trimStart s).reverse
  refine ⟨lead, turned.reverse, before, fun c h => behind c (List.mem_reverse.mp h), ?_⟩
  have shape := congrArg List.reverse back
  rw [List.reverse_reverse, List.reverse_append] at shape
  rw [List.append_assoc, trim, ← shape]
  exact front

/-- A text without its outer blanks is a word exactly if that is its only one. -/
theorem trim_eq_iff {s w : List Char} (nonempty : w ≠ []) (unbroken : Unbroken w) :
    trim s = w ↔ Spaced s [w] := by
  constructor
  · rintro rfl
    obtain ⟨lead, trail, before, behind, shape⟩ := exists_trim s
    have spaced : Spaced (lead ++ trim s ++ trail) [trim s] :=
      .word before nonempty unbroken
        (fun c h => behind c (List.mem_of_mem_head? h)) (.blanks behind)
    rwa [← shape] at spaced
  · intro spaced
    cases spaced with
    | word before _ _ _ more =>
        cases more with
        | blanks behind => exact trim_append before nonempty unbroken behind

end UsageMeter.Text
