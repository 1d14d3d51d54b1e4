import UsageMeter.Text.Numeral

/-!
# Numerals

Which texts write which numbers, and that the readers of numerals give exactly
those numbers: they accept every numeral within their bounds, nothing else, and
give its value.
-/

namespace UsageMeter

/-! ## Results in steps -/

section
variable {ε α β : Type} {x : Except ε α} {b : β}

theorem map_eq_ok_iff {f : α → β} : x.map f = .ok b ↔ ∃ a, x = .ok a ∧ f a = b := by
  cases x <;> simp [Except.map]

theorem bind_eq_ok_iff {f : α → Except ε β} : x >>= f = .ok b ↔ ∃ a, x = .ok a ∧ f a = .ok b := by
  cases x <;> simp [bind, Except.bind]

end

namespace Text

/-! ## What is written -/

/-- Decimal digits, one at least. -/
structure DigitRun (ds : List Char) : Prop where
  nonempty : ds ≠ []
  digits : ∀ c ∈ ds, c.isDigit = true

/-- A text writes a natural: in digits, perhaps with a plus sign before them. -/
inductive WritesNat : List Char → Nat → Prop where
  | digits {ds : List Char} (run : DigitRun ds) : WritesNat ds (Nat.ofDigitChars 10 ds 0)
  | plus {ds : List Char} (run : DigitRun ds) : WritesNat ('+' :: ds) (Nat.ofDigitChars 10 ds 0)

/-- A text writes an integer: as a natural, or in digits after a minus sign. -/
inductive WritesInt : List Char → Int → Prop where
  | natural {s : List Char} {n : Nat} (writes : WritesNat s n) : WritesInt s n
  | minus {ds : List Char} (run : DigitRun ds) :
      WritesInt ('-' :: ds) (-(Nat.ofDigitChars 10 ds 0 : Nat))

/-! ## Numbers that are written out -/

theorem digitRun_toDigits (n : Nat) : DigitRun (Nat.toDigits 10 n) :=
  ⟨Nat.toDigits_ne_nil, fun _ h => Nat.isDigit_of_mem_toDigits (by decide) (by decide) h⟩

theorem digitChar_eq_zero : ∀ n < 10, Nat.digitChar n = '0' → n = 0 := by decide

/-- Only zero is written with a zero in front. -/
theorem toDigits_eq_zero_cons {n : Nat} {ds : List Char} (h : Nat.toDigits 10 n = '0' :: ds) :
    n = 0 ∧ ds = [] := by
  induction n using Nat.strongRecOn generalizing ds with
  | ind n ih =>
      rw [Nat.toDigits_eq_if (by decide)] at h
      split at h
      · rename_i single
        rw [List.cons.injEq] at h
        exact ⟨digitChar_eq_zero n single h.1, h.2.symm⟩
      · rename_i several
        obtain ⟨d, front, cut⟩ :=
          List.exists_cons_of_ne_nil (Nat.toDigits_ne_nil (n := n / 10) (b := 10))
        rw [cut, List.cons_append, List.cons.injEq] at h
        obtain ⟨zero, -⟩ := ih (n / 10) (by omega) (h.1 ▸ cut)
        omega

/-! ## Digits -/

theorem digit?_eq_some_iff {c : Char} {d : Nat} :
    digit? c = some d ↔ c.isDigit = true ∧ d = c.toNat - 48 := by
  have digit : c.isDigit = true ↔ 48 ≤ c.toNat ∧ c.toNat ≤ 57 := Char.isDigit_iff_toNat
  rw [digit?, digit]
  split
  · simp [*, eq_comm]
  · simp [*]

theorem onto_digit (acc : Nat) (c : Char) :
    acc * 10 + (c.toNat - 48) = 10 * acc + (c.toNat - '0'.toNat) := by
  rw [Nat.mul_comm]
  rfl

theorem le_ofDigitChars (ds : List Char) (acc : Nat) : acc ≤ Nat.ofDigitChars 10 ds acc := by
  induction ds generalizing acc with
  | nil => exact Nat.le_refl acc
  | cons c ds ih =>
      rw [Nat.ofDigitChars_cons]
      have := ih (10 * acc + (c.toNat - '0'.toNat))
      omega

/-- Digits are read onto a value exactly if they are digits and stay within the
limit. -/
theorem readDigits_eq_ok_iff {limit : Nat} {excess : NumeralError} {ds : List Char} {acc n : Nat}
    (small : acc ≤ limit) :
    readDigits limit excess acc ds = .ok n ↔
      (∀ c ∈ ds, c.isDigit = true) ∧ n = Nat.ofDigitChars 10 ds acc ∧ n ≤ limit := by
  induction ds generalizing acc with
  | nil =>
      simp only [readDigits, Except.ok.injEq, Nat.ofDigitChars_nil]
      grind
  | cons c ds ih =>
      rw [readDigits, Nat.ofDigitChars_cons, List.forall_mem_cons]
      cases value : digit? c with
      | none =>
          have bad : ¬ c.isDigit = true := fun h =>
            absurd (digit?_eq_some_iff.mpr ⟨h, rfl⟩) (by simp [value])
          simp [bad]
      | some d =>
          obtain ⟨digit, rfl⟩ := digit?_eq_some_iff.mp value
          simp only [onto_digit, digit, true_and]
          split
          · exact ih ‹_›
          · -- the value only grows from here
            have grows := le_ofDigitChars ds (10 * acc + (c.toNat - '0'.toNat))
            simp only [reduceCtorEq, false_iff, not_and]
            omega

theorem readDigits_run_iff {limit : Nat} {excess : NumeralError} {ds : List Char} {n : Nat}
    (nonempty : ds ≠ []) :
    readDigits limit excess 0 ds = .ok n ↔
      (DigitRun ds ∧ n = Nat.ofDigitChars 10 ds 0) ∧ n ≤ limit := by
  rw [readDigits_eq_ok_iff (Nat.zero_le limit), and_assoc]
  exact and_congr_left fun _ => ⟨fun h => ⟨nonempty, h⟩, fun h => h.digits⟩

/-! ## Signs -/

theorem not_digitRun_nil : ¬ DigitRun [] := fun run => run.nonempty rfl

theorem not_digitRun_cons {c : Char} (sign : c.isDigit = false) (ds : List Char) :
    ¬ DigitRun (c :: ds) := by
  intro run
  have digit := run.digits c List.mem_cons_self
  rw [sign] at digit
  cases digit

theorem writesNat_plus_iff {ds : List Char} {n : Nat} :
    WritesNat ('+' :: ds) n ↔ DigitRun ds ∧ n = Nat.ofDigitChars 10 ds 0 := by
  constructor
  · intro writes
    cases writes with
    | digits run => exact absurd run (not_digitRun_cons rfl ds)
    | plus run => exact ⟨run, rfl⟩
  · rintro ⟨run, rfl⟩
    exact .plus run

theorem writesNat_iff {s : List Char} (unsigned : s.head? ≠ some '+') {n : Nat} :
    WritesNat s n ↔ DigitRun s ∧ n = Nat.ofDigitChars 10 s 0 := by
  constructor
  · intro writes
    cases writes with
    | digits run => exact ⟨run, rfl⟩
    | plus run => exact absurd rfl unsigned
  · rintro ⟨run, rfl⟩
    exact .digits run

/-- **Naturals are read as they are written.** -/
theorem natural?_eq_ok_iff {limit : Nat} {s : List Char} {n : Nat} :
    natural? limit s = .ok n ↔ WritesNat s n ∧ n ≤ limit := by
  unfold natural?
  split
  · simp [writesNat_iff (s := []) nofun, not_digitRun_nil]
  · simp [writesNat_plus_iff, not_digitRun_nil]
  · rename_i r alone
    have nonempty : r ≠ [] := by rintro rfl; exact alone rfl
    rw [readDigits_run_iff nonempty, writesNat_plus_iff]
  · rename_i nonempty _ unsigned
    have head : s.head? ≠ some '+' := by
      intro h
      obtain ⟨r, rfl⟩ := List.head?_eq_some_iff.mp h
      exact unsigned r rfl
    rw [readDigits_run_iff nonempty, writesNat_iff head]

theorem writesInt_minus_iff {ds : List Char} {i : Int} :
    WritesInt ('-' :: ds) i ↔ DigitRun ds ∧ i = -(Nat.ofDigitChars 10 ds 0 : Nat) := by
  constructor
  · intro writes
    cases writes with
    | natural writes =>
        obtain ⟨run, -⟩ := (writesNat_iff (by simp)).mp writes
        exact absurd run (not_digitRun_cons rfl ds)
    | minus run => exact ⟨run, rfl⟩
  · rintro ⟨run, rfl⟩
    exact .minus run

theorem writesInt_iff {s : List Char} (unsigned : s.head? ≠ some '-') {i : Int} :
    WritesInt s i ↔ ∃ n : Nat, WritesNat s n ∧ i = n := by
  constructor
  · intro writes
    cases writes with
    | natural writes => exact ⟨_, writes, rfl⟩
    | minus run => exact absurd rfl unsigned
  · rintro ⟨n, writes, rfl⟩
    exact .natural writes

/-- Without a minus sign an integer is read as a natural. -/
theorem integer?_of_unsigned {limit : Nat} {s : List Char} (unsigned : s.head? ≠ some '-') :
    integer? limit s = (natural? limit s).map Int.ofNat := by
  unfold integer? natural?
  split
  · rfl
  · rfl
  · exact absurd rfl unsigned
  · split <;> simp_all
  · exact absurd rfl unsigned
  · split <;> simp_all

theorem integer?_minus {limit : Nat} {ds : List Char} (nonempty : ds ≠ []) :
    integer? limit ('-' :: ds) =
      (readDigits (limit + 1) .tooSmall 0 ds).map fun n => -(Int.ofNat n) := by
  unfold integer?
  split <;> simp_all

/-- **Integers are read as they are written.** -/
theorem integer?_eq_ok_iff {limit : Nat} {s : List Char} {i : Int} :
    integer? limit s = .ok i ↔ WritesInt s i ∧ -(limit + 1 : Int) ≤ i ∧ i ≤ limit := by
  by_cases sign : s.head? = some '-'
  · obtain ⟨ds, rfl⟩ := List.head?_eq_some_iff.mp sign
    rw [writesInt_minus_iff]
    by_cases nonempty : ds = []
    · subst nonempty
      simp [integer?, not_digitRun_nil]
    · rw [integer?_minus nonempty, map_eq_ok_iff]
      simp only [readDigits_run_iff nonempty]
      constructor
      · rintro ⟨n, ⟨⟨run, rfl⟩, le⟩, rfl⟩
        exact ⟨⟨run, rfl⟩, by rw [Int.ofNat_eq_natCast]; omega⟩
      · rintro ⟨⟨run, rfl⟩, le, -⟩
        exact ⟨_, ⟨⟨run, rfl⟩, by omega⟩, rfl⟩
  · rw [integer?_of_unsigned sign, map_eq_ok_iff, writesInt_iff sign]
    simp only [natural?_eq_ok_iff]
    constructor
    · rintro ⟨n, ⟨writes, le⟩, rfl⟩
      exact ⟨⟨n, writes, rfl⟩, by rw [Int.ofNat_eq_natCast]; omega⟩
    · rintro ⟨⟨n, writes, rfl⟩, -, le⟩
      exact ⟨n, ⟨writes, by omega⟩, rfl⟩

/-! ## Words of 64 bits -/

theorem word64?_eq_ok_iff {s : List Char} {w : UInt64} :
    word64? s = .ok w ↔ WritesNat s w.toNat := by
  rw [word64?, map_eq_ok_iff]
  simp only [natural?_eq_ok_iff]
  constructor
  · rintro ⟨n, ⟨writes, le⟩, rfl⟩
    have word : n < 18446744073709551616 := by unfold maxWord64 at le; omega
    rwa [UInt64.toNat_ofNat_of_lt' word]
  · intro writes
    have := w.toNat_lt
    exact ⟨w.toNat, ⟨writes, by unfold maxWord64; omega⟩, UInt64.ofNat_toNat⟩

theorem int64?_eq_ok_iff {s : List Char} {i : Int} :
    int64? s = .ok i ↔ WritesInt s i ∧ -(maxInt64 + 1 : Int) ≤ i ∧ i ≤ maxInt64 :=
  integer?_eq_ok_iff

end Text
end UsageMeter
