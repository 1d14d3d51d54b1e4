import UsageMeter.Proofs.NumberTexts
import UsageMeter.Proofs.Words
import UsageMeter.Settings.Conversion
import UsageMeter.Settings.Layer

/-!
# What a text is taken as

A variable is read as a truth value, an integer or a double where it can be, and written
out again for a setting that is a text. A text comes through that unchanged exactly if it is
the one text of what it reads as. Only blanks come out of it blank.
-/

namespace UsageMeter
open UsageMeter.Decimal UsageMeter.Settings

/-! ## Values of variables -/

/-- A text that is a truth value, in any case. -/
def IsWord (s : String) : Prop := Text.lower s = "true" ∨ Text.lower s = "false"

/-- An integer of 64 bits. -/
def IsInt64 (z : Int) : Prop := -(maxInt64 + 1 : Int) ≤ z ∧ z ≤ maxInt64

/-- The text that a variable's text is taken as, for a setting that is a text. -/
inductive TakenAs (s : String) : String → Prop where
  /-- A truth value, in lower case. -/
  | word (is : IsWord s) : TakenAs s (Text.lower s)
  /-- An integer, written out. -/
  | integer {z : Int} (writes : Text.WritesInt s.toList z) (small : IsInt64 z) :
      TakenAs s (String.ofList (Json.integerText z))
  /-- Another number, written out as the double nearest to it. -/
  | double {x : Float} (noWord : ¬ IsWord s)
      (noInteger : ∀ z, Text.WritesInt s.toList z → ¬ IsInt64 z)
      (reads : Decimal.float? s.toList = some x) : TakenAs s (plain.render x)
  /-- Any other text, as it is. -/
  | itself (noWord : ¬ IsWord s) (noNumber : Decimal.float? s.toList = none) : TakenAs s s

/-- A text is the one that is written out for what it reads as. -/
structure Canonical (s : String) : Prop where
  word : IsWord s → s = "true" ∨ s = "false"
  integer : ∀ z, Text.WritesInt s.toList z → IsInt64 z → Text.PlainInt s.toList
  double : ¬ IsWord s → (∀ z, Text.WritesInt s.toList z → ¬ IsInt64 z) →
    ∀ x, Decimal.float? s.toList = some x → plain.render x = s

section
variable {s : String}

theorem lowerChar_digitChar : ∀ n < 10, Text.lowerChar (Nat.digitChar n) = Nat.digitChar n := by
  decide

theorem lower_ne_of_digit {word : String} (digit : ∃ c ∈ s.toList, c.isDigit = true)
    (letters : word.toList.any Char.isDigit = false) : Text.lower s ≠ word := by
  refine ofList_ne_of_digit ?_ letters
  obtain ⟨c, mem, is⟩ := digit
  refine ⟨Text.lowerChar c, List.mem_map_of_mem mem, ?_⟩
  have range := Text.range_of_isDigit is
  have kept : Text.lowerChar c = c := by
    rw [← Text.digitChar_of_isDigit is]
    exact lowerChar_digitChar _ (by omega)
  rw [kept, is]

theorem not_isWord_of_writesInt {z : Int} (writes : Text.WritesInt s.toList z) : ¬ IsWord s :=
  not_or.mpr ⟨lower_ne_of_digit writes.exists_digit (by decide),
    lower_ne_of_digit writes.exists_digit (by decide)⟩

theorem int64?_error_of_not {s : List Char} (no : ∀ z, Text.WritesInt s z → ¬ IsInt64 z) :
    ∃ e, Text.int64? s = .error e := by
  cases read : Text.int64? s with
  | error e => exact ⟨e, rfl⟩
  | ok z =>
      obtain ⟨writes, small⟩ := Text.int64?_eq_ok_iff.mp read
      exact absurd small (no z writes)

theorem variableValue_integer {z : Int} (writes : Text.WritesInt s.toList z) (small : IsInt64 z) :
    variableValue s = .integer z := by
  obtain ⟨noTrue, noFalse⟩ := not_or.mp (not_isWord_of_writesInt writes)
  have read : Text.int64? s.toList = .ok z := Text.int64?_eq_ok_iff.mpr ⟨writes, small⟩
  simp only [variableValue, noTrue, noFalse, if_false, read]

section
variable (noWord : ¬ IsWord s) (noInteger : ∀ z, Text.WritesInt s.toList z → ¬ IsInt64 z)
include noWord noInteger

theorem variableValue_double {x : Float} (reads : Decimal.float? s.toList = some x) :
    variableValue s = .float x := by
  obtain ⟨noTrue, noFalse⟩ := not_or.mp noWord
  obtain ⟨e, failed⟩ := int64?_error_of_not noInteger
  simp only [variableValue, noTrue, noFalse, if_false, failed, reads]

theorem variableValue_text (noNumber : Decimal.float? s.toList = none) :
    variableValue s = .string s := by
  obtain ⟨noTrue, noFalse⟩ := not_or.mp noWord
  obtain ⟨e, failed⟩ := int64?_error_of_not noInteger
  simp only [variableValue, noTrue, noFalse, if_false, failed, noNumber]

end

theorem exists_takenAs (s : String) : ∃ t, TakenAs s t ∧ text? (variableValue s) = some t := by
  by_cases isTrue : Text.lower s = "true"
  · refine ⟨_, .word (.inl isTrue), ?_⟩
    rw [variableValue, isTrue]
    rfl
  by_cases isFalse : Text.lower s = "false"
  · refine ⟨_, .word (.inr isFalse), ?_⟩
    rw [variableValue, isFalse]
    rfl
  have noWord : ¬ IsWord s := not_or.mpr ⟨isTrue, isFalse⟩
  by_cases integer : ∃ z, Text.WritesInt s.toList z ∧ IsInt64 z
  · obtain ⟨z, writes, small⟩ := integer
    refine ⟨_, .integer writes small, ?_⟩
    rw [variableValue_integer writes small, text?, exact, if_pos small.2]
  · have noInteger : ∀ z, Text.WritesInt s.toList z → ¬ IsInt64 z :=
      fun z writes small => integer ⟨z, writes, small⟩
    cases reads : Decimal.float? s.toList with
    | some x =>
        refine ⟨_, .double noWord noInteger reads, ?_⟩
        rw [variableValue_double noWord noInteger reads]
        rfl
    | none =>
        refine ⟨_, .itself noWord reads, ?_⟩
        rw [variableValue_text noWord noInteger reads]
        rfl

theorem lower_true : Text.lower "true" = "true" := by decide +kernel

theorem lower_false : Text.lower "false" = "false" := by decide +kernel

/-- **A text is kept** exactly if it is the one text of what it reads as. -/
theorem TakenAs.eq_iff {t : String} (taken : TakenAs s t) : t = s ↔ Canonical s := by
  -- what a text reads as decides which field of `Canonical` says something about it
  cases taken with
  | word is =>
      constructor
      · intro same
        exact ⟨fun _ => by rwa [IsWord, same] at is,
          fun _ writes => absurd is (not_isWord_of_writesInt writes), absurd is⟩
      · intro canonical
        rcases canonical.word is with rfl | rfl
        · exact lower_true
        · exact lower_false
  | @integer z writes small =>
      have texts : String.ofList (Json.integerText z) = s ↔ Text.PlainInt s.toList := by
        rw [← Text.integerText_eq_iff writes, ← String.toList_inj, String.toList_ofList]
      rw [texts]
      exact ⟨fun plain => ⟨fun is => absurd is (not_isWord_of_writesInt writes),
          fun _ _ _ => plain, fun _ noInteger => absurd small (noInteger z writes)⟩,
        fun canonical => canonical.integer z writes small⟩
  | @double x noWord noInteger reads =>
      constructor
      · intro same
        refine ⟨fun is => absurd is noWord,
          fun z writes small => absurd small (noInteger z writes), fun _ _ y other => ?_⟩
        rw [reads, Option.some.injEq] at other
        rw [← other, same]
      · exact fun canonical => canonical.double noWord noInteger x reads
  | itself noWord noNumber =>
      refine iff_of_true rfl ⟨fun is => absurd is noWord, fun z writes => ?_, fun _ _ x reads => ?_⟩
      · obtain ⟨negative, reads, -⟩ := float?_numeral writes
        rw [noNumber] at reads
        cases reads
      · rw [noNumber] at reads
        cases reads

end

/-! ## Blank texts -/

theorem trim_isEmpty_iff {s : List Char} : (Text.trim s).isEmpty = true ↔ Text.Blanks s := by
  rw [List.isEmpty_iff]
  constructor
  · intro empty
    obtain ⟨lead, trail, before, behind, shape⟩ := Text.exists_trim s
    rw [empty, List.append_nil] at shape
    rw [shape]
    exact before.append behind
  · intro blanks
    have trimmed := Text.trimStart_append_of_blanks blanks []
    rw [List.append_nil] at trimmed
    rw [Text.trim, trimmed]
    rfl

/-- Blanks have one case only. -/
theorem toLower_of_isBlank {c : Char} (blank : Text.isBlank c = true) : c.toLower = c := by
  have small : ¬ (65 ≤ c.toNat ∧ c.toNat ≤ 90) := by
    simp only [Text.isBlank, Bool.or_eq_true, Bool.and_eq_true, decide_eq_true_eq, beq_iff_eq]
      at blank
    omega
  unfold Char.toLower
  rw [dif_neg]
  exact small

theorem lowerChar_of_isBlank {c : Char} (blank : Text.isBlank c = true) :
    Text.lowerChar c = c := by
  have other : c ≠ '\u212a' := by
    rintro rfl
    cases blank
  rw [Text.lowerChar, if_neg other, toLower_of_isBlank blank]

theorem digit?_of_isBlank {c : Char} (blank : Text.isBlank c = true) : Text.digit? c = none := by
  cases value : Text.digit? c with
  | none => rfl
  | some d =>
      have solid := Text.isBlank_of_isDigit (Text.digit?_eq_some_iff.mp value).1
      rw [blank] at solid
      cases solid

theorem cons_ne_of_isBlank {c x : Char} (blank : Text.isBlank c = true)
    (solid : Text.isBlank x = false) (r t : List Char) : c :: r ≠ x :: t := by
  intro same
  rw [List.cons.injEq] at same
  rw [same.1, solid] at blank
  cases blank

section
variable {s : List Char} (blanks : Text.Blanks s)
include blanks

theorem map_of_blanks {f : Char → Char} (keeps : ∀ c, Text.isBlank c = true → f c = c) :
    s.map f = s :=
  List.map_congr_left (fun c mem => keeps c (blanks c mem)) |>.trans (List.map_id s)

theorem ofList_ne_of_blanks {word : String}
    (letters : word.toList.any (fun c => !Text.isBlank c) = true) : String.ofList s ≠ word := by
  rintro rfl
  rw [String.toList_ofList] at letters
  obtain ⟨c, mem, solid⟩ := List.any_eq_true.mp letters
  rw [blanks c mem] at solid
  cases solid

/-- Blanks are no number. -/
theorem float?_of_blanks : Decimal.float? s = none := by
  have lowered : s.map Char.toLower = s := map_of_blanks blanks fun _ => toLower_of_isBlank
  have nan : String.ofList s ≠ "nan" := ofList_ne_of_blanks blanks (by decide)
  have inf : ¬ (String.ofList s = "inf" ∨ String.ofList s = "infinity") :=
    not_or.mpr ⟨ofList_ne_of_blanks blanks (by decide), ofList_ne_of_blanks blanks (by decide)⟩
  cases s with
  | nil => rfl
  | cons c r =>
      have blank := blanks c List.mem_cons_self
      unfold Decimal.float?
      -- neither a sign nor a point is a blank
      split
      rename_i cut
      split at cut
      · exact absurd ‹_› (cons_ne_of_isBlank blank rfl r _)
      · exact absurd ‹_› (cons_ne_of_isBlank blank rfl r _)
      · cases cut
        simp only [lowered, nan, inf, if_false]
        unfold magnitude?
        simp only [spanDigits, digit?_of_isBlank blank]
        split
        · exact absurd ‹_› (cons_ne_of_isBlank blank rfl r _)
        · rfl

/-- Blanks are no truth value. -/
theorem not_isWord_of_blanks : ¬ IsWord (String.ofList s) := by
  have lowered : s.map Text.lowerChar = s := map_of_blanks blanks fun _ => lowerChar_of_isBlank
  rw [IsWord, Text.lower, String.toList_ofList, lowered]
  exact not_or.mpr ⟨ofList_ne_of_blanks blanks (by decide), ofList_ne_of_blanks blanks (by decide)⟩

end

/-- A text with a character that is no blank. -/
def Solid (s : List Char) : Prop := ∃ c ∈ s, Text.isBlank c = false

theorem not_blanks_iff {s : List Char} : ¬ Text.Blanks s ↔ Solid s := by
  simp [Text.Blanks, Solid]

theorem solid_of_digit {s : List Char} (digit : ∃ c ∈ s, c.isDigit = true) : Solid s := by
  obtain ⟨c, mem, is⟩ := digit
  exact ⟨c, mem, Text.isBlank_of_isDigit is⟩

theorem solid_positionalText {digits : List Char} (solid : Solid digits) (point : Int) :
    Solid (positionalText false digits point) := by
  unfold positionalText
  split
  · exact ⟨'0', List.mem_cons_self, rfl⟩
  split
  · obtain ⟨c, mem, is⟩ := solid
    exact ⟨c, by simp [mem], is⟩
  · exact ⟨'.', by simp, rfl⟩

/-- Every number is written with more than blanks. -/
theorem solid_render (x : Float) : Solid (plain.render x).toList := by
  have magnitude (d : Digits) : Solid (plain.magnitudeText d) :=
    solid_positionalText
      (solid_of_digit (Text.digitRun_toDigits d.coefficient).exists_digit) _
  unfold Style.render
  split
  · exact ⟨'N', by decide, rfl⟩
  · rename_i negative _
    exact ⟨'n', by cases negative <;> decide, rfl⟩
  · rename_i negative mantissa exponent _
    have written : Solid (if mantissa = 0 then plain.magnitudeText ⟨0, 0⟩
        else plain.magnitudeText (shortest plain.tie mantissa exponent)) := by
      split <;> exact magnitude _
    rw [String.toList_ofList]
    cases negative with
    | false => exact written
    | true =>
        obtain ⟨c, mem, is⟩ := written
        exact ⟨c, List.mem_cons_of_mem _ mem, is⟩

theorem solid_integerText (z : Int) : Solid (Json.integerText z) := by
  have written (n : Nat) : Solid (natDigits n) :=
    solid_of_digit (Text.digitRun_toDigits n).exists_digit
  cases z with
  | ofNat n => exact written n
  | negSucc n =>
      obtain ⟨c, mem, is⟩ := written (n + 1)
      exact ⟨c, List.mem_cons_of_mem _ mem, is⟩

/-- Only blanks are taken as blanks. -/
theorem TakenAs.blanks_iff {s t : String} (taken : TakenAs s t) :
    Text.Blanks t.toList ↔ Text.Blanks s.toList := by
  cases taken with
  | word is =>
      have solid : ¬ Text.Blanks s.toList := fun blanks => by
        have noWord := not_isWord_of_blanks blanks
        rw [String.ofList_toList] at noWord
        exact noWord is
      refine iff_of_false ?_ solid
      rcases is with is | is
      · rw [is]
        exact not_blanks_iff.mpr ⟨'t', by decide, rfl⟩
      · rw [is]
        exact not_blanks_iff.mpr ⟨'f', by decide, rfl⟩
  | @integer z writes small =>
      refine iff_of_false ?_ (not_blanks_iff.mpr (solid_of_digit writes.exists_digit))
      rw [String.toList_ofList]
      exact not_blanks_iff.mpr (solid_integerText z)
  | @double x noWord noInteger reads =>
      refine iff_of_false (not_blanks_iff.mpr (solid_render x)) fun blanks => ?_
      rw [float?_of_blanks blanks] at reads
      cases reads
  | itself => exact Iff.rfl

end UsageMeter
