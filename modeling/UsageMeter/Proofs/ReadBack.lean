import UsageMeter.Decimal.Style
import UsageMeter.Proofs.NumberTexts
import UsageMeter.Proofs.ShortestDigits

/-!
# Doubles read back from their texts

The text of a double, in whatever style it is written, is read as that double again. The
places of the point and of the exponent are only ways to write the number that the
shortest digits name.
-/

namespace UsageMeter.Decimal
open Text

/-! ## Digits, a point and an exponent -/

/-- **A text is read as a number**: it begins with a digit, and digits that name the number
are rounded. -/
structure ReadsAs (s : List Char) (q : ℚ) : Prop where
  first : ∃ c r, s = c :: r ∧ c.isDigit = true
  read : ∃ d : Digits, d.value = q ∧
    ∀ negative, magnitude? negative s = some (toFloat negative d.coefficient d.exponent)

theorem first_isDigit {whole : List Char} (run : DigitRun whole) (rest : List Char) :
    ∃ c r, whole ++ rest = c :: r ∧ c.isDigit = true := by
  obtain ⟨c, ds, rfl⟩ := List.exists_cons_of_ne_nil run.nonempty
  exact ⟨c, ds ++ rest, rfl, run.digits c List.mem_cons_self⟩

theorem readsAs_point {whole part : List Char} {e : Int} (run : DigitRun whole)
    (digits : ∀ c ∈ part, c.isDigit = true) (rest : List Char) (ends : EndsDigits rest)
    (power : exponent? rest = some e) :
    ReadsAs (whole ++ '.' :: (part ++ rest))
      (Digits.value ⟨Nat.ofDigitChars 10 (whole ++ part) 0, e - part.length⟩) := by
  have nonempty : (whole.map fun c => c.toNat - 48).isEmpty = false := by
    simpa using run.nonempty
  refine ⟨first_isDigit run _, _, rfl, fun negative => ?_⟩
  rw [magnitude?]
  simp only [spanDigits_append run.digits (endsDigits_cons (c := '.') rfl _),
    spanDigits_append digits ends, nonempty, Bool.false_and, digitsValue_digits, power,
    Nat.ofDigitChars_append, List.length_map]
  rfl

theorem readsAs_whole {whole : List Char} {e : Int} (run : DigitRun whole) (rest : List Char)
    (ends : EndsDigits rest) (plain : rest.head? ≠ some '.') (power : exponent? rest = some e) :
    ReadsAs (whole ++ rest) (Digits.value ⟨Nat.ofDigitChars 10 whole 0, e⟩) := by
  have nonempty : (whole.map fun c => c.toNat - 48).isEmpty = false := by
    simpa using run.nonempty
  refine ⟨first_isDigit run _, _, rfl, fun negative => ?_⟩
  rw [magnitude?]
  simp only [spanDigits_append run.digits ends]
  split
  · exact absurd rfl plain
  · simp only [nonempty, Bool.false_and, digitsValue_digits, power]
    simp [digitsValue]

theorem exponent?_power (z : Int) :
    exponent? ('e' :: (if z < 0 then '-' else '+') :: natDigits z.natAbs) = some z := by
  have spanned := spanDigits_append (digitRun_toDigits z.natAbs).digits endsDigits_nil
  have value := digitsValue_digits (natDigits z.natAbs) 0
  obtain ⟨d, ds, shape⟩ : ∃ d ds, (natDigits z.natAbs).map (fun c => c.toNat - 48) = d :: ds :=
    List.exists_cons_of_ne_nil (by simp [natDigits, Nat.toDigits_ne_nil])
  rw [List.append_nil, show Nat.toDigits 10 z.natAbs = natDigits z.natAbs from rfl,
    shape] at spanned
  rw [shape, natDigits, Nat.ofDigitChars_ten_toDigits] at value
  by_cases negative : z < 0
  · have sign : -(z.natAbs : Int) = z := by omega
    simp only [negative, if_true, exponent?, true_or, spanned, value, sign]
  · have sign : (z.natAbs : Int) = z := by omega
    simp only [negative, if_false, exponent?, true_or, if_true, spanned, value, sign]
    rfl

/-! ## Texts of magnitudes -/

section
variable {ds : List Char} (run : DigitRun ds)
include run

theorem isDigit_of_mem_zeros (n : Nat) : ∀ c ∈ List.replicate n '0' ++ ds, c.isDigit = true := by
  intro c mem
  rcases List.mem_append.mp mem with zero | digit
  · rw [(List.mem_replicate.mp zero).2]
    rfl
  · exact run.digits c digit

theorem digitRun_zeros (n : Nat) : DigitRun (ds ++ List.replicate n '0') := by
  refine ⟨by simp [run.nonempty], fun c mem => ?_⟩
  rcases List.mem_append.mp mem with digit | zero
  · exact run.digits c digit
  · rw [(List.mem_replicate.mp zero).2]
    rfl

theorem digitRun_take {n : Nat} (some : 0 < n) : DigitRun (ds.take n) :=
  ⟨by simp [run.nonempty, some.ne'], fun c mem => run.digits c (List.mem_of_mem_take mem)⟩

theorem isDigit_of_mem_drop (n : Nat) : ∀ c ∈ ds.drop n, c.isDigit = true :=
  fun c mem => run.digits c (List.mem_of_mem_drop mem)

/-- Zeros between the point and the digits. -/
theorem readsAs_leading (n : Nat) :
    ReadsAs ('0' :: '.' :: (List.replicate n '0' ++ ds))
      (Digits.value ⟨Nat.ofDigitChars 10 ds 0, -(n + ds.length : Int)⟩) := by
  have zero : DigitRun ['0'] := ⟨by simp, by simp⟩
  have read := readsAs_point zero (isDigit_of_mem_zeros run n) [] endsDigits_nil rfl
  have places : (0 : Int) - (List.replicate n '0' ++ ds).length = -(n + ds.length : Int) := by
    simp
  have value : Nat.ofDigitChars 10 (['0'] ++ (List.replicate n '0' ++ ds)) 0 =
      Nat.ofDigitChars 10 ds 0 := by
    rw [Nat.ofDigitChars_append, Nat.ofDigitChars_append, Nat.ofDigitChars_replicate_zero]
    simp [Nat.ofDigitChars_cons]
  rwa [List.append_nil, value, places] at read

/-- Zeros between the digits and the point. -/
theorem readsAs_trailing (wholeFraction : Bool) (n : Nat) :
    ReadsAs (ds ++ List.replicate n '0' ++ if wholeFraction then ['.', '0'] else [])
      (Digits.value ⟨Nat.ofDigitChars 10 ds 0, n⟩) := by
  have zeros : Nat.ofDigitChars 10 (ds ++ List.replicate n '0') 0 =
      10 ^ n * Nat.ofDigitChars 10 ds 0 := by
    rw [Nat.ofDigitChars_append, Nat.ofDigitChars_replicate_zero]
  cases wholeFraction with
  | true =>
      have read := readsAs_point (digitRun_zeros run n)
        (show ∀ c ∈ ['0'], c.isDigit = true by simp) [] endsDigits_nil rfl
      have value : Digits.value ⟨Nat.ofDigitChars 10
          (ds ++ List.replicate n '0' ++ ['0']) 0, 0 - (['0'].length : Int)⟩ =
            Digits.value ⟨Nat.ofDigitChars 10 ds 0, n⟩ := by
        rw [Nat.ofDigitChars_append, zeros, Digits.value, Digits.value, zpow_natCast]
        simp [Nat.ofDigitChars_cons]
        ring
      rwa [value] at read
  | false =>
      have read := readsAs_whole (digitRun_zeros run n) [] endsDigits_nil (by simp) rfl
      have value : Digits.value ⟨Nat.ofDigitChars 10 (ds ++ List.replicate n '0') 0, 0⟩ =
          Digits.value ⟨Nat.ofDigitChars 10 ds 0, n⟩ := by
        rw [zeros, Digits.value, Digits.value, zpow_natCast, zpow_zero, mul_one]
        push_cast
        ring
      rwa [value] at read

/-- A point among the digits. -/
theorem readsAs_among {n : Nat} (some : 0 < n) :
    ReadsAs (ds.take n ++ '.' :: ds.drop n)
      (Digits.value ⟨Nat.ofDigitChars 10 ds 0, -((ds.drop n).length : Int)⟩) := by
  have read := readsAs_point (digitRun_take run some) (isDigit_of_mem_drop run n) []
    endsDigits_nil rfl
  rwa [List.append_nil, List.take_append_drop, zero_sub] at read

/-- However the point is placed, the same number is read. -/
theorem readsAs_positionalText (wholeFraction : Bool) (exponent : Int) :
    ReadsAs (positionalText wholeFraction ds (exponent + ds.length))
      (Digits.value ⟨Nat.ofDigitChars 10 ds 0, exponent⟩) := by
  unfold positionalText
  split
  · rename_i before
    have places : -((-(exponent + ds.length)).toNat + ds.length : Int) = exponent := by omega
    have read := readsAs_leading run (-(exponent + ds.length)).toNat
    rwa [places] at read
  split
  · rename_i after
    have places : (((exponent + ds.length).toNat - ds.length : Nat) : Int) = exponent := by omega
    have read := readsAs_trailing run wholeFraction ((exponent + ds.length).toNat - ds.length)
    rwa [places] at read
  · rename_i before after
    have places : -((ds.drop (exponent + ds.length).toNat).length : Int) = exponent := by
      rw [List.length_drop]
      omega
    have read := readsAs_among run (by omega : 0 < (exponent + ds.length).toNat)
    rwa [places] at read

theorem readsAs_exponentText (exponent : Int) :
    ReadsAs (exponentText ds (exponent + ds.length - 1))
      (Digits.value ⟨Nat.ofDigitChars 10 ds 0, exponent⟩) := by
  have some : 0 < ds.length := List.length_pos_iff.mpr run.nonempty
  have power := exponent?_power (exponent + ds.length - 1)
  have ends := endsDigits_cons (c := 'e') rfl
    ((if exponent + ds.length - 1 < 0 then '-' else '+') ::
      natDigits (exponent + ds.length - 1).natAbs)
  unfold exponentText
  split
  · rename_i single
    have all : ds.take 1 = ds := List.take_of_length_le single
    have places : exponent + ds.length - 1 = exponent := by omega
    have read := readsAs_whole run _ ends (by simp) power
    rw [places] at read
    simpa [all, places] using read
  · have read := readsAs_point (digitRun_take run Nat.one_pos) (isDigit_of_mem_drop run 1) _ ends
      power
    have places : exponent + ds.length - 1 - (ds.drop 1).length = exponent := by
      simp
      omega
    rw [List.take_append_drop, places] at read
    simpa using read

end

/-- **The text of digits is read as the number that they name.** -/
theorem readsAs_magnitudeText (style : Style) (d : Digits) :
    ReadsAs (style.magnitudeText d) d.value := by
  have run : DigitRun (natDigits d.coefficient) := digitRun_toDigits d.coefficient
  have value : Nat.ofDigitChars 10 (natDigits d.coefficient) 0 = d.coefficient :=
    Nat.ofDigitChars_ten_toDigits
  unfold Style.magnitudeText
  simp only
  split
  · have read := readsAs_positionalText run style.wholeFraction d.exponent
    rwa [value] at read
  · have read := readsAs_exponentText run d.exponent
    rwa [value] at read

/-! ## Doubles -/

theorem ten_zpow_mono {g h : Int} (le : g ≤ h) : (10 : ℚ) ^ g ≤ 10 ^ h :=
  zpow_le_zpow_right₀ (by norm_num) le

theorem value_lt (d : Digits) :
    d.value < 10 ^ ((Nat.toDigits 10 d.coefficient).length + d.exponent) := by
  have bound : (d.coefficient : ℚ) < tenTo (Nat.toDigits 10 d.coefficient).length := by
    exact_mod_cast lt_tenTo_length d.coefficient
  rw [zpow_add₀ (by norm_num), zpow_natCast, ← cast_tenTo]
  exact mul_lt_mul_of_pos_right bound (by positivity)

theorem le_value {d : Digits} (positive : d.coefficient ≠ 0) :
    10 ^ ((Nat.toDigits 10 d.coefficient).length + d.exponent - 1) ≤ d.value := by
  have long : 0 < (Nat.toDigits 10 d.coefficient).length :=
    List.length_pos_iff.mpr Nat.toDigits_ne_nil
  have bound : (tenTo ((Nat.toDigits 10 d.coefficient).length - 1) : ℚ) ≤ d.coefficient := by
    exact_mod_cast tenTo_length_le positive
  have exponent : ((Nat.toDigits 10 d.coefficient).length + d.exponent - 1 : Int) =
      ((Nat.toDigits 10 d.coefficient).length - 1 : Nat) + d.exponent := by omega
  rw [exponent, zpow_add₀ (by norm_num), zpow_natCast, ← cast_tenTo]
  exact mul_le_mul_of_nonneg_right bound (by positivity)

namespace Binary64

/-- Below this no number is nearest to a double but zero. -/
theorem ten_zpow_le_least : 2 * (10 : ℚ) ^ (-330 : Int) ≤ 2 ^ leastExponent := by
  have ten : (10 : ℚ) ^ (-330 : Int) = 1 / tenTo 330 := by
    rw [cast_tenTo, ← zpow_natCast, one_div, ← zpow_neg]
    rfl
  have two : (2 : ℚ) ^ (-1075 : Int) = 1 / twoTo 1075 := by
    rw [cast_twoTo, ← zpow_natCast, one_div, ← zpow_neg]
    rfl
  have next : (2 : ℚ) ^ (-1075 + 1 : Int) = 2 * 2 ^ (-1075 : Int) := two_zpow_succ (-1075)
  have far : twoTo 1075 ≤ tenTo 330 := by decide +kernel
  rw [show leastExponent = -1075 + 1 from rfl, next, two, ten]
  have : (1 / tenTo 330 : ℚ) ≤ 1 / twoTo 1075 :=
    one_div_le_one_div_of_le (by exact_mod_cast twoTo_pos _) (by exact_mod_cast far)
  linarith

/-- Beyond this no number is nearest to a double. -/
theorem greatest_le_ten_zpow : (2 * hidden : ℚ) * 2 ^ (971 : Int) ≤ 10 ^ (310 : Int) := by
  have ten : (10 : ℚ) ^ (310 : Int) = tenTo 310 := by
    rw [cast_tenTo, ← zpow_natCast]
    rfl
  have two : (2 : ℚ) ^ (1024 : Int) = twoTo 1024 := by
    rw [cast_twoTo, ← zpow_natCast]
    rfl
  have far : twoTo 1024 ≤ tenTo 310 := by decide +kernel
  rw [cast_hidden, ← two_zpow_succ, ← zpow_add₀ (by norm_num),
    show (52 + 1 + 971 : Int) = 1024 from rfl, two, ten]
  exact_mod_cast far

section
variable {x : Float} {negative : Bool} {m : Nat} {e : Int}
  (parts : ofFloat x = .finite negative m e) (positive : m ≠ 0)
include parts positive

theorem toFloat_of_within {d : Digits} (within : Within d.value m e) :
    toFloat negative d.coefficient d.exponent = x := by
  obtain ⟨regular, -⟩ := bits_of_finite parts
  have unit := two_zpow_pos e
  have least := within.half_le positive
  have coefficient : d.coefficient ≠ 0 := by
    intro zero
    have none : d.value = 0 := by rw [Digits.value, zero, Nat.cast_zero, zero_mul]
    linarith
  have low : ¬ ((Nat.toDigits 10 d.coefficient).length + d.exponent : Int) < -330 := by
    intro tiny
    linarith [value_lt d, ten_zpow_mono tiny.le, two_zpow_mono regular.least, ten_zpow_le_least]
  have high : ¬ (310 : Int) < (Nat.toDigits 10 d.coefficient).length + d.exponent := by
    intro huge
    have : (2 * hidden : ℚ) * 2 ^ e ≤ 2 * hidden * 2 ^ (971 : Int) :=
      mul_le_mul_of_nonneg_left (two_zpow_mono regular.greatest) (by positivity)
    have := ten_zpow_mono (Int.le_sub_one_of_lt huge)
    linarith [le_value coefficient, within.lt regular, greatest_le_ten_zpow]
  have number : (d.coefficient * tenTo d.exponent.toNat : Nat) / (tenTo (-d.exponent).toNat : Nat) =
      d.value := by
    rw [Digits.value, ← tenTo_div_tenTo, ← mul_div_assoc]
    push_cast
    rfl
  rw [toFloat, if_neg (not_or.mpr ⟨coefficient, low⟩), if_neg high]
  refine nearest_of_within parts (Nat.mul_ne_zero coefficient (tenTo_pos _).ne')
    (tenTo_pos _).ne' ?_
  rw [number]
  exact within

end

/-- The text of a finite double is a magnitude that begins with a digit, after a sign if the
double has one. -/
theorem exists_magnitude {x : Float} {negative : Bool} {m : Nat} {e : Int}
    (parts : ofFloat x = .finite negative m e) (style : Style) :
    ∃ s, style.render x = String.ofList (if negative then '-' :: s else s) ∧
      (∃ c r, s = c :: r ∧ c.isDigit = true) ∧ magnitude? negative s = some x := by
  unfold Style.render
  simp only [parts]
  refine ⟨_, rfl, ?_⟩
  split
  · rename_i zero
    obtain ⟨first, d, value, read⟩ := readsAs_magnitudeText style ⟨0, 0⟩
    have coefficient : d.coefficient = 0 := by
      rw [Digits.value, Digits.value, Nat.cast_zero, zero_mul, mul_eq_zero,
        Nat.cast_eq_zero] at value
      exact value.resolve_right (by positivity)
    rw [read, toFloat, if_pos (.inl coefficient)]
    subst zero
    exact ⟨first, congrArg some (nearest_zero parts)⟩
  · rename_i positive
    obtain ⟨first, d, value, read⟩ := readsAs_magnitudeText style (shortest style.tie m e)
    have within := shortest_within (bits_of_finite parts).1 positive style.tie
    rw [← value] at within
    rw [read, toFloat_of_within parts positive within]
    exact ⟨first, rfl⟩

end Binary64

/-- **The text of a finite double is read as that double**, in every style. -/
theorem float?_render {x : Float} {negative : Bool} {m : Nat} {e : Int}
    (parts : Binary64.ofFloat x = .finite negative m e) (style : Style) :
    float? (style.render x).toList = some x := by
  obtain ⟨s, text, ⟨c, r, rfl, digit⟩, read⟩ := Binary64.exists_magnitude parts style
  obtain ⟨unsigned, -, minus⟩ := float?_cons digit r
  rw [text, String.toList_ofList]
  cases negative with
  | true => rw [if_pos rfl, minus, read]
  | false => rw [if_neg (by decide), unsigned, read]

/-- **Plain numbers are read as the doubles that they are written for**, whether finite,
infinite or none. -/
theorem float?_plain (x : Float) : float? (plain.render x).toList = some x := by
  cases parts : Binary64.ofFloat x with
  | finite negative m e => exact float?_render parts plain
  | infinite negative =>
      have text : plain.render x = if negative then "-inf" else "inf" := by
        rw [Style.render, parts]
        rfl
      rw [text, ← Binary64.nearest_infinite parts]
      cases negative <;> rfl
  | notANumber =>
      have text : plain.render x = "NaN" := by
        rw [Style.render, parts]
        rfl
      have word : Binary64.ofFloat notANumber = .notANumber := by decide +kernel
      rw [text, Binary64.eq_of_notANumber parts word]
      rfl

end UsageMeter.Decimal
