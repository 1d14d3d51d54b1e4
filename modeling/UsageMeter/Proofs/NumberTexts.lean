import UsageMeter.Decimal.Reading
import UsageMeter.Json.Value
import UsageMeter.Proofs.Numerals

/-!
# Texts of numbers

A numeral writes one integer only, but an integer has many numerals: one of them is the
text that it is written out as. A numeral without bounds is read as a double.
-/

namespace UsageMeter

/-! ## Numerals -/

namespace Text

theorem WritesNat.unique {s : List Char} {m n : Nat} (hm : WritesNat s m) (hn : WritesNat s n) :
    m = n := by
  by_cases sign : s.head? = some '+'
  · obtain ⟨ds, rfl⟩ := List.head?_eq_some_iff.mp sign
    rw [writesNat_plus_iff] at hm hn
    rw [hm.2, hn.2]
  · rw [writesNat_iff sign] at hm hn
    rw [hm.2, hn.2]

/-- A numeral writes one integer only. -/
theorem WritesInt.unique {s : List Char} {y z : Int} (hy : WritesInt s y) (hz : WritesInt s z) :
    y = z := by
  by_cases sign : s.head? = some '-'
  · obtain ⟨ds, rfl⟩ := List.head?_eq_some_iff.mp sign
    rw [writesInt_minus_iff] at hy hz
    rw [hy.2, hz.2]
  · rw [writesInt_iff sign] at hy hz
    obtain ⟨m, hm, rfl⟩ := hy
    obtain ⟨n, hn, rfl⟩ := hz
    rw [hm.unique hn]

theorem DigitRun.exists_digit {ds : List Char} (run : DigitRun ds) :
    ∃ c ∈ ds, c.isDigit = true := by
  obtain ⟨c, mem⟩ := List.exists_mem_of_ne_nil ds run.nonempty
  exact ⟨c, mem, run.digits c mem⟩

theorem WritesInt.exists_digit {s : List Char} {z : Int} (writes : WritesInt s z) :
    ∃ c ∈ s, c.isDigit = true := by
  cases writes with
  | natural writes =>
      cases writes with
      | digits run => exact run.exists_digit
      | plus run =>
          obtain ⟨c, mem, digit⟩ := run.exists_digit
          exact ⟨c, List.mem_cons_of_mem _ mem, digit⟩
  | minus run =>
      obtain ⟨c, mem, digit⟩ := run.exists_digit
      exact ⟨c, List.mem_cons_of_mem _ mem, digit⟩

/-! ## Integers that are written out -/

/-- Digits without a zero in front that says nothing. -/
def ShortRun (ds : List Char) : Prop := ds.head? = some '0' → ds = ['0']

/-- A numeral without a plus sign, without zeros in front, and zero without a minus sign. -/
inductive PlainInt : List Char → Prop where
  | natural {ds : List Char} (run : DigitRun ds) (short : ShortRun ds) : PlainInt ds
  | minus {ds : List Char} (run : DigitRun ds) (lead : ds.head? ≠ some '0') : PlainInt ('-' :: ds)

theorem range_of_isDigit {c : Char} (digit : c.isDigit = true) : 48 ≤ c.toNat ∧ c.toNat ≤ 57 :=
  Char.isDigit_iff_toNat.mp digit

theorem digitChar_of_isDigit {c : Char} (digit : c.isDigit = true) :
    Nat.digitChar (c.toNat - 48) = c := by
  have range := range_of_isDigit digit
  apply Char.toNat_inj.mp
  rw [Nat.toNat_digitChar_of_lt_ten (by omega)]
  omega

/-- Digits behind a positive natural are those that their value onto it is written with. -/
theorem toDigits_append {ds : List Char} (digits : ∀ c ∈ ds, c.isDigit = true) {acc : Nat}
    (positive : 0 < acc) :
    Nat.toDigits 10 acc ++ ds = Nat.toDigits 10 (Nat.ofDigitChars 10 ds acc) := by
  induction ds generalizing acc with
  | nil => rw [List.append_nil, Nat.ofDigitChars_nil]
  | cons c ds ih =>
      rw [List.forall_mem_cons] at digits
      have range := range_of_isDigit digits.1
      have small : c.toNat - 48 < 10 := by omega
      have single : Nat.toDigits 10 (c.toNat - 48) = [c] := by
        rw [Nat.toDigits_of_lt_base small, digitChar_of_isDigit digits.1]
      have joined : Nat.toDigits 10 acc ++ [c] = Nat.toDigits 10 (10 * acc + (c.toNat - 48)) := by
        rw [← single]
        exact Nat.toDigits_append_toDigits (by decide) positive small
      calc Nat.toDigits 10 acc ++ c :: ds = (Nat.toDigits 10 acc ++ [c]) ++ ds := by simp
        _ = Nat.toDigits 10 (10 * acc + (c.toNat - 48)) ++ ds := by rw [joined]
        _ = Nat.toDigits 10 (Nat.ofDigitChars 10 (c :: ds) acc) := ih digits.2 (by omega)

/-- Digits are what their value is written with, unless they have zeros in front. -/
theorem toDigits_ofDigitChars_iff {ds : List Char} (run : DigitRun ds) :
    Nat.toDigits 10 (Nat.ofDigitChars 10 ds 0) = ds ↔ ShortRun ds := by
  cases ds with
  | nil => exact absurd rfl run.nonempty
  | cons c ds =>
      have digits := run.digits
      rw [List.forall_mem_cons] at digits
      by_cases zero : c = '0'
      · subst zero
        constructor
        · intro same _
          rw [(toDigits_eq_zero_cons same).2]
        · intro short
          rw [short rfl]
          rfl
      · have short : ShortRun (c :: ds) := fun h => absurd (Option.some.inj h) zero
        refine iff_of_true ?_ short
        have range := range_of_isDigit digits.1
        have positive : 0 < c.toNat - 48 := by
          have : c.toNat ≠ 48 := fun h => zero (Char.toNat_inj.mp h)
          omega
        have joined := toDigits_append digits.2 positive
        rw [Nat.toDigits_of_lt_base (by omega), digitChar_of_isDigit digits.1] at joined
        rw [Nat.ofDigitChars_cons, Nat.mul_zero, Nat.zero_add]
        exact joined.symm

theorem plainInt_digits_iff {ds : List Char} (run : DigitRun ds) : PlainInt ds ↔ ShortRun ds := by
  constructor
  · intro plain
    cases plain with
    | natural _ short => exact short
    | minus _ _ => exact absurd run (not_digitRun_cons rfl _)
  · exact .natural run

theorem not_plainInt_plus (ds : List Char) : ¬ PlainInt ('+' :: ds) := by
  intro plain
  cases plain with
  | natural run _ => exact not_digitRun_cons rfl ds run

theorem plainInt_minus_iff {ds : List Char} (run : DigitRun ds) :
    PlainInt ('-' :: ds) ↔ ds.head? ≠ some '0' := by
  constructor
  · intro plain
    cases plain with
    | natural run _ => exact absurd run (not_digitRun_cons rfl ds)
    | minus _ lead => exact lead
  · exact .minus run

/-- **The text of an integer** is the one plain numeral that writes it. -/
theorem integerText_eq_iff {s : List Char} {z : Int} (writes : WritesInt s z) :
    Json.integerText z = s ↔ PlainInt s := by
  cases writes with
  | natural writes =>
      cases writes with
      | digits run =>
          rw [plainInt_digits_iff run, ← toDigits_ofDigitChars_iff run]
          rfl
      | @plus ds run =>
          refine iff_of_false (fun same => ?_) (not_plainInt_plus ds)
          have written := digitRun_toDigits (Nat.ofDigitChars 10 ds 0)
          rw [show Nat.toDigits 10 (Nat.ofDigitChars 10 ds 0) = '+' :: ds from same] at written
          exact not_digitRun_cons rfl ds written
  | @minus ds run =>
      rw [plainInt_minus_iff run]
      cases value : Nat.ofDigitChars 10 ds 0 with
      | zero =>
          -- zero is written without a sign, and digits of zero begin with it
          refine iff_of_false nofun fun lead => lead ?_
          have short := (toDigits_ofDigitChars_iff run).mpr fun h => absurd h lead
          rw [← short, value]
          rfl
      | succ n =>
          have same : Json.integerText (-((n + 1 : Nat) : Int)) =
              '-' :: Nat.toDigits 10 (n + 1) := rfl
          rw [same, List.cons.injEq, ← value, toDigits_ofDigitChars_iff run]
          constructor
          · intro short lead
            rw [short.2 lead] at value
            cases value
          · exact fun lead => ⟨rfl, fun h => absurd h lead⟩

end Text

/-! ## Numerals as doubles -/

namespace Decimal
open Text

/-- A text that no digit begins. -/
def EndsDigits (rest : List Char) : Prop := ∀ c ∈ rest.head?, c.isDigit = false

theorem endsDigits_nil : EndsDigits [] := nofun

theorem endsDigits_cons {c : Char} (other : c.isDigit = false) (r : List Char) :
    EndsDigits (c :: r) :=
  fun _ h => Option.mem_some.mp h ▸ other

theorem spanDigits_append {ds rest : List Char} (digits : ∀ c ∈ ds, c.isDigit = true)
    (ends : EndsDigits rest) : spanDigits (ds ++ rest) = (ds.map fun c => c.toNat - 48, rest) := by
  induction ds with
  | nil =>
      cases rest with
      | nil => rfl
      | cons c rest =>
          have other : digit? c = none := by
            rw [Option.eq_none_iff_forall_ne_some]
            intro d value
            exact absurd (digit?_eq_some_iff.mp value).1 (by simp [ends c rfl])
          simp [spanDigits, other]
  | cons c ds ih =>
      rw [List.forall_mem_cons] at digits
      have value : digit? c = some (c.toNat - 48) := digit?_eq_some_iff.mpr ⟨digits.1, rfl⟩
      simp only [List.cons_append, spanDigits, value, ih digits.2, List.map_cons]

theorem spanDigits_digits {ds : List Char} (digits : ∀ c ∈ ds, c.isDigit = true) :
    spanDigits ds = (ds.map fun c => c.toNat - 48, []) := by
  have all := spanDigits_append digits endsDigits_nil
  rwa [List.append_nil] at all

theorem digitsValue_digits (ds : List Char) (acc : Nat) :
    digitsValue acc (ds.map fun c => c.toNat - 48) = Nat.ofDigitChars 10 ds acc := by
  induction ds generalizing acc with
  | nil => rfl
  | cons c ds ih =>
      rw [Nat.ofDigitChars_cons, ← onto_digit, ← ih]
      rfl

theorem magnitude?_digits (negative : Bool) {ds : List Char} (run : DigitRun ds) :
    magnitude? negative ds = some (toFloat negative (Nat.ofDigitChars 10 ds 0) 0) := by
  have nonempty : (ds.map fun c => c.toNat - 48).isEmpty = false := by
    simpa using run.nonempty
  rw [magnitude?]
  simp only [spanDigits_digits run.digits, nonempty, Bool.false_and, digitsValue_digits]
  rfl

theorem toLower_digitChar : ∀ n < 10, (Nat.digitChar n).toLower = Nat.digitChar n := by decide

theorem toLower_of_isDigit {c : Char} (digit : c.isDigit = true) : c.toLower = c := by
  have range := range_of_isDigit digit
  rw [← digitChar_of_isDigit digit]
  exact toLower_digitChar _ (by omega)

/-- A text with a digit is no word of letters. -/
theorem ofList_ne_of_digit {s : List Char} {word : String} (digit : ∃ c ∈ s, c.isDigit = true)
    (letters : word.toList.any Char.isDigit = false) : String.ofList s ≠ word := by
  rintro rfl
  rw [String.toList_ofList] at letters
  obtain ⟨c, mem, is⟩ := digit
  exact List.any_eq_false.mp letters c mem is

/-- A text that a digit begins is no word, and is read as a magnitude after its sign. -/
theorem float?_cons {c : Char} (digit : c.isDigit = true) (r : List Char) :
    float? (c :: r) = magnitude? false (c :: r) ∧
      float? ('+' :: c :: r) = magnitude? false (c :: r) ∧
      float? ('-' :: c :: r) = magnitude? true (c :: r) := by
  have kept : ∃ d ∈ (c :: r).map Char.toLower, d.isDigit = true :=
    ⟨c.toLower, List.mem_map_of_mem List.mem_cons_self, by rw [toLower_of_isDigit digit, digit]⟩
  have nan : String.ofList ((c :: r).map Char.toLower) ≠ "nan" :=
    ofList_ne_of_digit kept (by decide)
  have inf : ¬ (String.ofList ((c :: r).map Char.toLower) = "inf" ∨
      String.ofList ((c :: r).map Char.toLower) = "infinity") :=
    not_or.mpr ⟨ofList_ne_of_digit kept (by decide), ofList_ne_of_digit kept (by decide)⟩
  refine ⟨?_, ?_, ?_⟩
  · unfold float?
    split
    rename_i cut
    split at cut
    · rename_i minus
      cases minus
      cases digit
    · rename_i plus
      cases plus
      cases digit
    · cases cut
      simp only [nan, inf, if_false]
  · simp only [float?, nan, inf, if_false]
  · simp only [float?, nan, inf, if_false]

/-- Digits after a sign are read as a double, as the text of their number is. -/
theorem float?_digits {negative : Bool} {s ds : List Char} (run : DigitRun ds)
    (sign : s = ds ∧ negative = false ∨ s = '+' :: ds ∧ negative = false ∨
      s = '-' :: ds ∧ negative = true) :
    float? s = some (toFloat negative (Nat.ofDigitChars 10 ds 0) 0) := by
  obtain ⟨c, r, rfl⟩ := List.exists_cons_of_ne_nil run.nonempty
  obtain ⟨unsigned, plus, minus⟩ := float?_cons (run.digits c List.mem_cons_self) r
  rcases sign with ⟨rfl, rfl⟩ | ⟨rfl, rfl⟩ | ⟨rfl, rfl⟩
  · rw [unsigned, magnitude?_digits _ run]
  · rw [plus, magnitude?_digits _ run]
  · rw [minus, magnitude?_digits _ run]

/-- **A numeral is a decimal**: read as a double it gives the one nearest to its integer,
of which only zero comes with either sign. -/
theorem float?_numeral {s : List Char} {z : Int} (writes : WritesInt s z) :
    ∃ negative, float? s = some (toFloat negative z.natAbs 0) ∧
      (negative = true → z ≤ 0) ∧ (negative = false → 0 ≤ z) := by
  cases writes with
  | natural writes =>
      refine ⟨false, ?_, nofun, fun _ => Int.natCast_nonneg _⟩
      cases writes with
      | digits run => exact float?_digits run (.inl ⟨rfl, rfl⟩)
      | plus run => exact float?_digits run (.inr (.inl ⟨rfl, rfl⟩))
  | minus run =>
      refine ⟨true, ?_, fun _ => Int.neg_nonpos_of_nonneg (Int.natCast_nonneg _), nofun⟩
      rw [Int.natAbs_neg, Int.natAbs_natCast]
      exact float?_digits run (.inr (.inr ⟨rfl, rfl⟩))

end Decimal
end UsageMeter
