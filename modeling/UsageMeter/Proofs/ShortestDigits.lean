import UsageMeter.Decimal.Shortest
import UsageMeter.Proofs.NearestDoubles

/-!
# Shortest digits are near

The digits that a double is written with name a number that the double is nearest to.
Seventeen grids are enough to find one: on the finest of them the points stand closer than
the doubles do.
-/

namespace UsageMeter.Decimal
open Binary64

/-- The number that digits name. -/
def Digits.value (d : Digits) : ℚ := d.coefficient * 10 ^ d.exponent

/-! ## Points of a grid -/

theorem within_iff_of_even {q : ℚ} {m : Nat} {e : Int} (even : m % 2 = 0) :
    Within q m e ↔ (4 * m - gapBelow m e) * 2 ^ e ≤ 4 * q ∧ 4 * q ≤ (4 * m + 2) * 2 ^ e :=
  ⟨fun within => ⟨within.low, within.high⟩, fun ⟨low, high⟩ => ⟨low, high, by omega⟩⟩

theorem within_iff_of_odd {q : ℚ} {m : Nat} {e : Int} (odd : m % 2 = 1) :
    Within q m e ↔ (4 * m - gapBelow m e) * 2 ^ e < 4 * q ∧ 4 * q < (4 * m + 2) * 2 ^ e :=
  ⟨fun within => within.inside odd, fun ⟨low, high⟩ => ⟨low.le, high.le, fun _ => ⟨low, high⟩⟩⟩

namespace Interval
variable {m : Nat} {e : Int}

theorem denominator_pos (m : Nat) (e : Int) : (0 : ℚ) < (Interval.of m e).denominator := by
  exact_mod_cast twoTo_pos _

/-- The interval counts in quarters of the last place. -/
theorem quarters (m : Nat) (e : Int) :
    (2 : ℚ) ^ e = 4 * (twoTo (e - 2).toNat / (Interval.of m e).denominator) := by
  have opposite : 2 - e = -(e - 2) := by omega
  rw [Interval.of, opposite, twoTo_div_twoTo, zpow_sub₀ (by norm_num)]
  norm_num
  ring

theorem value_eq (m : Nat) (e : Int) :
    ((Interval.of m e).value / (Interval.of m e).denominator : ℚ) = m * 2 ^ e := by
  rw [quarters m, show (Interval.of m e).value = 4 * m * twoTo (e - 2).toNat from rfl]
  push_cast
  ring

/-- The numerators inside are those of the numbers that are nearest to the double. -/
theorem contains_iff (positive : m ≠ 0) {scale : Nat} (some : 0 < scale) (n : Nat) :
    (Interval.of m e).contains scale n = true ↔
      Within (n / ((Interval.of m e).denominator * scale)) m e := by
  have unit := denominator_pos m e
  have scale_pos : (0 : ℚ) < scale := by exact_mod_cast some
  obtain ⟨part, part_pos, number, bound⟩ : ∃ part : ℚ, 0 < part ∧
      4 * (n / ((Interval.of m e).denominator * scale) : ℚ) = part * n ∧
      ∀ c : ℚ, c * 2 ^ e = part * (c * twoTo (e - 2).toNat * scale) := by
    refine ⟨4 / ((Interval.of m e).denominator * scale), by positivity, by ring, fun c => ?_⟩
    rw [quarters m]
    field_simp
  have gap : gapBelow m e ≤ 4 * m := by
    unfold gapBelow
    split <;> omega
  have below : (4 * m - gapBelow m e : ℚ) = (4 * m - gapBelow m e : Nat) := by
    rw [Nat.cast_sub gap]
    push_cast
    rfl
  have closed : (Interval.of m e).closed = (m % 2 == 0) := rfl
  unfold contains
  obtain even | odd := Nat.mod_two_eq_zero_or_one m
  · rw [within_iff_of_even even, number, bound, bound, mul_le_mul_iff_right₀ part_pos,
      mul_le_mul_iff_right₀ part_pos, below, closed, even, beq_self_eq_true, if_pos rfl,
      Bool.and_eq_true, decide_eq_true_eq, decide_eq_true_eq]
    exact_mod_cast Iff.rfl
  · rw [within_iff_of_odd odd, number, bound, bound, mul_lt_mul_iff_right₀ part_pos,
      mul_lt_mul_iff_right₀ part_pos, below, closed, odd, if_neg (by decide),
      Bool.and_eq_true, decide_eq_true_eq, decide_eq_true_eq]
    exact_mod_cast Iff.rfl

/-- A point of the grid is inside if the double is nearest to it. -/
theorem contains_grid_iff (positive : m ≠ 0) (c : Nat) (g : Int) :
    (Interval.of m e).contains (tenTo (-g).toNat)
        (c * ((Interval.of m e).denominator * tenTo g.toNat)) = true ↔
      Within (Digits.value ⟨c, g⟩) m e := by
  have unit := (denominator_pos m e).ne'
  rw [contains_iff positive (tenTo_pos _), Digits.value, ← tenTo_div_tenTo]
  push_cast
  rw [← mul_div_assoc, ← mul_assoc, mul_comm (c : ℚ), mul_assoc, mul_div_mul_left _ _ unit]

theorem within_of_onGrid (positive : m ≠ 0) {tie : Tie} {g : Int} {c : Nat}
    (found : (Interval.of m e).onGrid tie g = some c) : Within (Digits.value ⟨c, g⟩) m e := by
  rw [← contains_grid_iff positive]
  unfold onGrid at found
  simp only at found
  split at found
  · rename_i down up
    obtain rfl | rfl : c = _ ∨ c = _ :=
      (roundDiv_cases tie _ _).imp (fun h => (Option.some.inj found).symm.trans h)
        fun h => (Option.some.inj found).symm.trans h
    · exact down
    · exact up
  · rename_i down _
    cases found
    exact down
  · rename_i _ up
    cases found
    exact up
  · cases found

/-- Where the points of a grid stand closer than the doubles do, one of those on either
side is nearest to the double. -/
theorem within_or_within {q r : ℚ} (low : q ≤ m * 2 ^ e) (high : m * 2 ^ e < r)
    (close : 4 * (r - q) < (gapBelow m e + 2) * 2 ^ e) : Within q m e ∨ Within r m e := by
  have unit := two_zpow_pos e
  have gap : (0 : ℚ) ≤ gapBelow m e * 2 ^ e := by positivity
  by_cases near : (4 * m - gapBelow m e) * 2 ^ e < 4 * q
  · have upper : 4 * q < (4 * m + 2) * 2 ^ e := by linarith
    exact .inl ⟨near.le, upper.le, fun _ => ⟨near, upper⟩⟩
  · have lower : (4 * m - gapBelow m e) * 2 ^ e < 4 * r := by linarith
    have upper : 4 * r < (4 * m + 2) * 2 ^ e := by linarith
    exact .inr ⟨lower.le, upper.le, fun _ => ⟨lower, upper⟩⟩

/-- The points on either side of a double. -/
theorem neighbours (m : Nat) (e g : Int) (down : Nat)
    (is : down = (Interval.of m e).value * tenTo (-g).toNat /
      ((Interval.of m e).denominator * tenTo g.toNat)) :
    Digits.value ⟨down, g⟩ ≤ m * 2 ^ e ∧ m * 2 ^ e < Digits.value ⟨down + 1, g⟩ := by
  have unit := denominator_pos m e
  have up : (0 : ℚ) < tenTo g.toNat := by exact_mod_cast tenTo_pos _
  have scale : (0 : ℚ) < tenTo (-g).toNat := by exact_mod_cast tenTo_pos _
  have both : 0 < (Interval.of m e).denominator * tenTo g.toNat := by exact_mod_cast mul_pos unit up
  have low := Nat.div_mul_le_self ((Interval.of m e).value * tenTo (-g).toNat)
    ((Interval.of m e).denominator * tenTo g.toNat)
  have high := Nat.lt_div_mul_add (a := (Interval.of m e).value * tenTo (-g).toNat) both
  rw [← is] at low high
  rw [← value_eq, Digits.value, Digits.value, ← tenTo_div_tenTo, ← mul_div_assoc, ← mul_div_assoc,
    div_le_div_iff₀ scale unit, div_lt_div_iff₀ unit scale]
  constructor
  · rw [mul_assoc, mul_comm (tenTo g.toNat : ℚ)]
    exact_mod_cast low
  · push_cast
    rw [mul_assoc, mul_comm (tenTo g.toNat : ℚ), add_mul, one_mul]
    exact_mod_cast high

theorem exists_onGrid (positive : m ≠ 0) (tie : Tie) {g : Int}
    (close : 4 * 10 ^ g < (gapBelow m e + 2 : ℚ) * 2 ^ e) :
    ∃ c, (Interval.of m e).onGrid tie g = some c := by
  unfold onGrid
  simp only
  generalize is : (Interval.of m e).value * tenTo (-g).toNat /
      ((Interval.of m e).denominator * tenTo g.toNat) = down
  obtain ⟨low, high⟩ := neighbours m e g down is.symm
  have step : Digits.value ⟨down + 1, g⟩ - Digits.value ⟨down, g⟩ = 10 ^ g := by
    rw [Digits.value, Digits.value]
    push_cast
    ring
  have near := within_or_within low high (by rwa [step])
  rw [← contains_grid_iff positive, ← contains_grid_iff positive] at near
  split
  · exact ⟨_, rfl⟩
  · exact ⟨_, rfl⟩
  · exact ⟨_, rfl⟩
  · simp_all

/-- Grids are searched until one has a point that the double is nearest to. -/
theorem firstGrid_within (positive : m ≠ 0) (tie : Tie) {n : Nat} {g : Int} {k : Nat} (few : k < n)
    (close : 4 * 10 ^ (g - k) < (gapBelow m e + 2 : ℚ) * 2 ^ e) :
    ∃ d, (Interval.of m e).firstGrid tie n g = some d ∧ Within d.value m e := by
  induction n generalizing g k with
  | zero => exact absurd few (Nat.not_lt_zero _)
  | succ n ih =>
      rw [firstGrid]
      cases found : (Interval.of m e).onGrid tie g with
      | some c => exact ⟨⟨c, g⟩, rfl, within_of_onGrid positive found⟩
      | none =>
          cases k with
          | zero =>
              obtain ⟨c, hit⟩ := exists_onGrid positive tie (by simpa using close)
              rw [found] at hit
              cases hit
          | succ k =>
              have next : g - (k + 1 : Nat) = g - 1 - k := by push_cast; ring
              rw [next] at close
              exact ih (Nat.lt_of_succ_lt_succ few) close

end Interval

/-! ## The first digit -/

theorem tenTo_succ (n : Nat) : tenTo (n + 1) = tenTo n * 10 :=
  Nat.pow_succ 10 n

theorem lt_tenTo_length (n : Nat) : n < tenTo (Nat.toDigits 10 n).length :=
  (Nat.length_toDigits_le_iff (by decide) (List.length_pos_iff.mpr Nat.toDigits_ne_nil)).mp le_rfl

theorem tenTo_length_le {n : Nat} (positive : n ≠ 0) :
    tenTo ((Nat.toDigits 10 n).length - 1) ≤ n := by
  by_cases several : 0 < (Nat.toDigits 10 n).length - 1
  · by_contra small
    have := (Nat.length_toDigits_le_iff (by decide) several).mpr (not_le.mp small)
    omega
  · rw [Nat.eq_zero_of_not_pos several]
    exact Nat.pos_of_ne_zero positive

theorem leadingPlaces_reach {num den fuel : Nat} (reach : den ≤ num * tenTo (fuel + 1)) :
    den ≤ num * tenTo (leadingPlaces num den fuel + 1) := by
  induction fuel generalizing num with
  | zero => exact reach
  | succ fuel ih =>
      rw [leadingPlaces]
      split
      · assumption
      · rw [tenTo_succ, ← mul_assoc, mul_right_comm] at reach ⊢
        exact ih reach

/-- The first digit of a quotient stands where its magnitude says. -/
theorem ten_zpow_magnitude_le {num den : Nat} (some : 0 < den) (reach : den ≤ num * tenTo 401) :
    (10 : ℚ) ^ (magnitude num den - 1) ≤ num / den := by
  have den_pos : (0 : ℚ) < den := by exact_mod_cast some
  unfold magnitude
  split
  · rename_i whole
    have first := tenTo_length_le (Nat.div_pos whole some).ne'
    have long : 0 < (Nat.toDigits 10 (num / den)).length :=
      List.length_pos_iff.mpr Nat.toDigits_ne_nil
    have exponent : ((Nat.toDigits 10 (num / den)).length - 1 : Int) =
        ((Nat.toDigits 10 (num / den)).length - 1 : Nat) := by omega
    rw [exponent, zpow_natCast, ← cast_tenTo, le_div_iff₀ den_pos]
    exact_mod_cast (Nat.le_div_iff_mul_le some).mp first
  · have places := leadingPlaces_reach reach
    have exponent : (-(leadingPlaces num den 400 : Int) - 1) =
        -((leadingPlaces num den 400 + 1 : Nat) : Int) := by omega
    rw [exponent, zpow_neg, zpow_natCast, ← cast_tenTo, ← one_div,
      div_le_div_iff₀ (by exact_mod_cast tenTo_pos _) den_pos, one_mul]
    exact_mod_cast places

/-! ## The shortest digits -/

theorem strip_value (d : Digits) : d.strip.value = d.value := by
  have go (n : Nat) (d : Digits) : (Digits.strip.go n d).value = d.value := by
    induction n generalizing d with
    | zero => rfl
    | succ n ih =>
        rw [Digits.strip.go]
        split
        · rename_i zero
          have whole : (d.coefficient : ℚ) = 10 * (d.coefficient / 10 : Nat) := by
            exact_mod_cast (Nat.mul_div_cancel' (Nat.dvd_of_mod_eq_zero zero.2)).symm
          rw [ih, Digits.value, Digits.value, whole, zpow_add₀ (by norm_num)]
          ring
        · rfl
  exact go 20 d

/-- Seventeen digits tell mantissas apart. -/
theorem four_mul_lt_of_regular {m : Nat} {e : Int} (regular : Regular m e) :
    (4 * m : ℚ) < 10 ^ 16 * (gapBelow m e + 2) := by
  have mantissa := regular.mantissa
  rw [hidden_eq] at mantissa
  unfold gapBelow
  rw [hidden_eq]
  split
  · rename_i lowest
    rw [lowest.1]
    norm_num
  · have : (4 * m : ℚ) < 10 ^ 16 * 4 := by exact_mod_cast (by omega : 4 * m < 10 ^ 16 * 4)
    norm_num at this ⊢
    exact this

/-- **The digits that a double is written with name a number that it is nearest to.** -/
theorem shortest_within {m : Nat} {e : Int} (regular : Regular m e) (positive : m ≠ 0)
    (tie : Tie) : Within (shortest tie m e).value m e := by
  have least := regular.least
  have unit := two_zpow_pos e
  have some : 0 < (Interval.of m e).denominator := twoTo_pos _
  have reach : (Interval.of m e).denominator ≤ (Interval.of m e).value * tenTo 401 := calc
    twoTo (2 - e).toNat ≤ twoTo 1076 :=
      twoTo_le_twoTo (by rw [leastExponent] at least; omega)
    _ ≤ tenTo 401 := by decide +kernel
    _ ≤ (Interval.of m e).value * tenTo 401 :=
      Nat.le_mul_of_pos_left _ (Nat.mul_pos (by omega) (twoTo_pos _))
  have first := ten_zpow_magnitude_le some reach
  rw [Interval.value_eq] at first
  generalize place : magnitude (Interval.of m e).value (Interval.of m e).denominator = p at first
  have fine : (10 : ℚ) ^ (p - 1) = 10 ^ 16 * 10 ^ (p - 1 - (16 : Nat)) := by
    rw [← zpow_natCast, ← zpow_add₀ (by norm_num)]
    congr 1
    push_cast
    ring
  have apart := four_mul_lt_of_regular regular
  have close : 4 * 10 ^ (p - 1 - (16 : Nat)) < (gapBelow m e + 2 : ℚ) * 2 ^ e := by
    have : 4 * m * 2 ^ e < 10 ^ 16 * (gapBelow m e + 2) * (2 : ℚ) ^ e := by gcongr
    rw [fine] at first
    linarith
  obtain ⟨d, found, within⟩ :=
    Interval.firstGrid_within positive tie (n := 17) (g := p - 1) (by decide) close
  rw [shortest]
  simp only [place, found, strip_value]
  exact within

end UsageMeter.Decimal
