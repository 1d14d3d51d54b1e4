import UsageMeter.Proofs.Doubles

/-!
# What a double is nearest to

A double with the mantissa `m` and the exponent `e` is nearest to all that lies within
half the gap to its neighbours on either side, and to what lies halfway if `m` is even.
The gap below the least mantissa of a binade is half as wide as the others.
-/

namespace UsageMeter.Decimal
open Float.Model Float.Model.UnpackedFloat

/-! ## Powers as quotients -/

theorem cast_twoTo (n : Nat) : (twoTo n : ℚ) = 2 ^ n := by
  show ((2 ^ n : Nat) : ℚ) = _
  push_cast
  rfl

theorem cast_tenTo (n : Nat) : (tenTo n : ℚ) = 10 ^ n := by
  show ((10 ^ n : Nat) : ℚ) = _
  push_cast
  rfl

/-- A power with an exponent of either sign is a quotient of two naturals. -/
theorem pow_div_pow {b : ℚ} (positive : 0 < b) (g : Int) :
    b ^ g.toNat / b ^ (-g).toNat = b ^ g := by
  rw [← zpow_natCast, ← zpow_natCast, ← zpow_sub₀ positive.ne']
  congr 1
  omega

theorem twoTo_div_twoTo (g : Int) : (twoTo g.toNat / twoTo (-g).toNat : ℚ) = 2 ^ g := by
  rw [cast_twoTo, cast_twoTo, pow_div_pow (by norm_num)]

theorem tenTo_div_tenTo (g : Int) : (tenTo g.toNat / tenTo (-g).toNat : ℚ) = 10 ^ g := by
  rw [cast_tenTo, cast_tenTo, pow_div_pow (by norm_num)]

theorem two_zpow_pos (e : Int) : (0 : ℚ) < 2 ^ e := by positivity

theorem two_zpow_mono {e f : Int} (le : e ≤ f) : (2 : ℚ) ^ e ≤ 2 ^ f :=
  zpow_le_zpow_right₀ (by norm_num) le

theorem two_zpow_succ (e : Int) : (2 : ℚ) ^ (e + 1) = 2 * 2 ^ e := by
  rw [zpow_add₀ (by norm_num), zpow_one, mul_comm]

theorem cast_hidden : (Binary64.hidden : ℚ) = 2 ^ (52 : Int) := by
  rw [Binary64.hidden, cast_twoTo, ← zpow_natCast]
  rfl

/-! ## Rounding a quotient -/

/-- A number is nearest to a natural, and halfway to an even one. -/
structure Near (x : ℚ) (n : Nat) : Prop where
  low : 2 * n - 1 ≤ 2 * x
  high : 2 * x ≤ 2 * n + 1
  inside : n % 2 = 1 → 2 * n - 1 < 2 * x ∧ 2 * x < 2 * n + 1

/-- Whether a quotient is nearest to a natural is told by naturals. -/
theorem near_div_iff {num den : Nat} (some : 0 < den) (n : Nat) :
    Near (num / den) n ↔ 2 * n * den ≤ 2 * num + den ∧ 2 * num ≤ (2 * n + 1) * den ∧
      (n % 2 = 1 → 2 * n * den < 2 * num + den ∧ 2 * num < (2 * n + 1) * den) := by
  have positive : (0 : ℚ) < den := by exact_mod_cast some
  have parts : Near (num / den) n ↔ (2 * n - 1 : ℚ) ≤ 2 * (num / den) ∧
      (2 * (num / den) : ℚ) ≤ 2 * n + 1 ∧
        (n % 2 = 1 → (2 * n - 1 : ℚ) < 2 * (num / den) ∧ (2 * (num / den) : ℚ) < 2 * n + 1) :=
    ⟨fun near => ⟨near.low, near.high, near.inside⟩, fun ⟨low, high, inside⟩ => ⟨low, high, inside⟩⟩
  simp only [parts, ← mul_div_assoc, le_div_iff₀ positive, div_le_iff₀ positive,
    lt_div_iff₀ positive, div_lt_iff₀ positive, sub_mul, sub_le_iff_le_add, sub_lt_iff_lt_add,
    one_mul]
  exact_mod_cast Iff.rfl

theorem near_roundDiv (num : Nat) {den : Nat} (some : 0 < den) :
    Near (num / den) (roundDiv .toEven num den) := by
  rw [near_div_iff some]
  have parts := Nat.div_add_mod num den
  have rest := Nat.mod_lt num some
  unfold roundDiv
  simp only
  generalize num / den = down at *
  generalize num % den = left at *
  subst parts
  split
  · refine ⟨by linarith, by linarith, fun _ => ⟨by linarith, by linarith⟩⟩
  split
  · refine ⟨by linarith, by linarith, fun _ => ⟨by linarith, by linarith⟩⟩
  · have half : 2 * left = den := by omega
    obtain even | odd := Nat.mod_two_eq_zero_or_one down
    · rw [even]
      exact ⟨by linarith, by linarith, by omega⟩
    · rw [odd]
      exact ⟨by linarith, by linarith, by omega⟩

/-- Halfway between two naturals only the even one is nearest. -/
theorem Near.not_succ {x : ℚ} {n : Nat} (lower : Near x n) (upper : Near x (n + 1)) : False := by
  have low := upper.low
  have inside := upper.inside
  push_cast at low inside
  obtain even | odd := Nat.mod_two_eq_zero_or_one n
  · linarith [lower.high, (inside (by omega)).1]
  · linarith [(lower.inside odd).2]

theorem Near.unique {x : ℚ} {k n : Nat} (hk : Near x k) (hn : Near x n) : k = n := by
  have up : k ≤ n + 1 := by
    have : (k : ℚ) ≤ n + 1 := by linarith [hk.low, hn.high]
    exact_mod_cast this
  have down : n ≤ k + 1 := by
    have : (n : ℚ) ≤ k + 1 := by linarith [hn.low, hk.high]
    exact_mod_cast this
  obtain rfl | rfl | same : k = n + 1 ∨ n = k + 1 ∨ k = n := by omega
  · exact (hn.not_succ hk).elim
  · exact (hk.not_succ hn).elim
  · exact same

theorem roundDiv_of_near {num den n : Nat} (some : 0 < den) (near : Near (num / den) n) :
    roundDiv .toEven num den = n :=
  (near_roundDiv num some).unique near

/-! ## The exponent of a quotient -/

namespace Binary64

/-- A natural lies between the power of its logarithm and the next one. -/
theorem log2_range {n : Nat} (positive : n ≠ 0) :
    (2 : ℚ) ^ (Nat.log2 n : Int) ≤ n ∧ (n : ℚ) < 2 * 2 ^ (Nat.log2 n : Int) := by
  rw [← two_zpow_succ, ← Nat.cast_succ, zpow_natCast, zpow_natCast]
  exact ⟨by exact_mod_cast Nat.log2_self_le positive, by exact_mod_cast Nat.lt_log2_self⟩

/-- The first guess at the exponent is right, or one too high. -/
theorem guess_range {num den : Nat} (positive : num ≠ 0) (some : den ≠ 0) {guess : Int}
    (is : guess = (Nat.log2 num : Int) - (Nat.log2 den : Int) - 52) :
    hidden * 2 ^ (guess - 1) ≤ (num / den : ℚ) ∧ (num / den : ℚ) < 2 * hidden * 2 ^ guess := by
  have den_pos : (0 : ℚ) < den := by exact_mod_cast Nat.pos_of_ne_zero some
  obtain ⟨num_low, num_high⟩ := log2_range positive
  obtain ⟨den_low, den_high⟩ := log2_range some
  have shift (f : Int) (g : Int) : (2 : ℚ) ^ f * 2 ^ g = 2 ^ (f + g) :=
    (zpow_add₀ (by norm_num) f g).symm
  rw [cast_hidden, le_div_iff₀ den_pos, div_lt_iff₀ den_pos, mul_assoc (2 : ℚ), shift, shift]
  have num_exponent : 52 + (guess - 1) + (Nat.log2 den + 1) = (Nat.log2 num : Int) := by omega
  have num_exponent' : 52 + guess + Nat.log2 den = (Nat.log2 num : Int) := by omega
  constructor
  · calc (2 : ℚ) ^ (52 + (guess - 1)) * den
        ≤ 2 ^ (52 + (guess - 1)) * (2 * 2 ^ (Nat.log2 den : Int)) :=
          mul_le_mul_of_nonneg_left den_high.le (two_zpow_pos _).le
      _ = 2 ^ (Nat.log2 num : Int) := by rw [← two_zpow_succ, shift, num_exponent]
      _ ≤ num := num_low
  · calc (num : ℚ) < 2 * 2 ^ (Nat.log2 num : Int) := num_high
      _ = 2 * 2 ^ (52 + guess) * 2 ^ (Nat.log2 den : Int) := by
        rw [mul_assoc, shift, num_exponent']
      _ ≤ 2 * 2 ^ (52 + guess) * den := by
        have := two_zpow_pos (52 + guess)
        gcongr

/-- A guess is reached if there are as many binary digits from it on. -/
theorem reached_iff (num : Nat) {den : Nat} (some : den ≠ 0) (guess : Int) :
    (if 0 ≤ guess then den * hidden * twoTo guess.toNat ≤ num
      else den * hidden ≤ num * twoTo (-guess).toNat) ↔
      hidden * 2 ^ guess ≤ (num / den : ℚ) := by
  have den_pos : (0 : ℚ) < den := by exact_mod_cast Nat.pos_of_ne_zero some
  have part : (0 : ℚ) < twoTo (-guess).toNat := by exact_mod_cast twoTo_pos _
  have both : hidden * 2 ^ guess ≤ (num / den : ℚ) ↔
      den * hidden * twoTo guess.toNat ≤ num * twoTo (-guess).toNat := by
    rw [← twoTo_div_twoTo, ← mul_div_assoc, div_le_div_iff₀ part den_pos]
    rw [show (hidden : ℚ) * twoTo guess.toNat * den = den * hidden * twoTo guess.toNat by ring]
    exact_mod_cast Iff.rfl
  have one : twoTo 0 = 1 := rfl
  rw [both]
  split
  · rw [show (-guess).toNat = 0 by omega, one, Nat.mul_one]
  · rw [show guess.toNat = 0 by omega, one, Nat.mul_one]

/-- From its exponent on a quotient has 53 binary digits, and from the least exponent on
as many or fewer. -/
theorem exponentFor_range {num den : Nat} (positive : num ≠ 0) (some : den ≠ 0) :
    leastExponent ≤ exponentFor num den ∧
      (num / den : ℚ) < 2 * hidden * 2 ^ exponentFor num den ∧
      (leastExponent < exponentFor num den →
        hidden * 2 ^ exponentFor num den ≤ (num / den : ℚ)) := by
  obtain ⟨low, high⟩ := guess_range positive some rfl
  have reached := reached_iff num some
    ((Nat.log2 num : Int) - (Nat.log2 den : Int) - 52)
  unfold exponentFor
  simp only [reached]
  generalize (Nat.log2 num : Int) - (Nat.log2 den : Int) - 52 = guess at *
  obtain ⟨e, is, least, most⟩ : ∃ e, (if hidden * 2 ^ guess ≤ (num / den : ℚ) then guess
      else guess - 1) = e ∧ hidden * 2 ^ e ≤ (num / den : ℚ) ∧
        (num / den : ℚ) < 2 * hidden * 2 ^ e := by
    by_cases full : hidden * 2 ^ guess ≤ (num / den : ℚ)
    · exact ⟨guess, if_pos full, full, high⟩
    · refine ⟨guess - 1, if_neg full, low, ?_⟩
      have next := two_zpow_succ (guess - 1)
      rw [Int.sub_add_cancel] at next
      rw [not_le, next] at full
      linarith
  rw [is]
  refine ⟨le_max_left _ _, most.trans_le ?_, fun above => ?_⟩
  · exact mul_le_mul_of_nonneg_left (two_zpow_mono (le_max_right _ _)) (by positivity)
  · have same : max leastExponent e = e := by omega
    rwa [same]

/-! ## The nearest mantissa -/

/-- The mantissas and exponents of doubles, of which each number has one. -/
structure Regular (m : Nat) (e : Int) : Prop where
  least : leastExponent ≤ e
  greatest : e ≤ 971
  mantissa : m < 2 * hidden
  normal : leastExponent < e → hidden ≤ m

/-- The gap below a mantissa, of which two are the gap above. -/
def gapBelow (m : Nat) (e : Int) : Nat :=
  if m = hidden ∧ leastExponent < e then 1 else 2

theorem gapBelow_le_two (m : Nat) (e : Int) : (gapBelow m e : ℚ) ≤ 2 := by
  rw [gapBelow]
  split <;> norm_num

/-- **A number is nearest to a mantissa and an exponent**, or halfway to it with the
mantissa even. -/
structure Within (q : ℚ) (m : Nat) (e : Int) : Prop where
  low : (4 * m - gapBelow m e) * 2 ^ e ≤ 4 * q
  high : 4 * q ≤ (4 * m + 2) * 2 ^ e
  inside : m % 2 = 1 → (4 * m - gapBelow m e) * 2 ^ e < 4 * q ∧ 4 * q < (4 * m + 2) * 2 ^ e

theorem nearestBits_eq {num den : Nat} (positive : num ≠ 0) (some : den ≠ 0) {n : Nat}
    (near : Near (num / den / 2 ^ exponentFor num den) n) :
    nearestBits num den =
      min infinityBits ((exponentFor num den - leastExponent).toNat * hidden + n) := by
  have one : twoTo 0 = 1 := rfl
  have parts : (num / den / 2 ^ exponentFor num den : ℚ) =
      (num * twoTo (-exponentFor num den).toNat : Nat) /
        (den * twoTo (exponentFor num den).toNat : Nat) := by
    rw [← twoTo_div_twoTo]
    push_cast
    rw [div_div_div_eq, mul_comm]
  have rounded : (if 0 ≤ exponentFor num den then
        roundDiv .toEven num (den * twoTo (exponentFor num den).toNat)
      else roundDiv .toEven (num * twoTo (-exponentFor num den).toNat) den) = n := by
    have both := roundDiv_of_near (Nat.mul_pos (Nat.pos_of_ne_zero some) (twoTo_pos _))
      (parts ▸ near)
    split
    · rwa [show (-exponentFor num den).toNat = 0 by omega, one, Nat.mul_one] at both
    · rwa [show (exponentFor num den).toNat = 0 by omega, one, Nat.mul_one] at both
  rw [nearestBits, if_neg positive]
  simp only [rounded]

theorem Within.near {q : ℚ} {m : Nat} {e : Int} (within : Within q m e) : Near (q / 2 ^ e) m := by
  have unit := two_zpow_pos e
  have gap := gapBelow_le_two m e
  obtain ⟨low, high, inside⟩ := within
  have wide : (4 * m - 2 : ℚ) * 2 ^ e ≤ (4 * m - gapBelow m e) * 2 ^ e := by gcongr
  constructor
  · rw [← mul_div_assoc, le_div_iff₀ unit]
    linarith
  · rw [← mul_div_assoc, div_le_iff₀ unit]
    linarith
  · intro odd
    obtain ⟨above, under⟩ := inside odd
    rw [← mul_div_assoc, lt_div_iff₀ unit, div_lt_iff₀ unit]
    exact ⟨by linarith, by linarith⟩

/-- What is nearest to a double other than zero is half a last place at least. -/
theorem Within.half_le {q : ℚ} {m : Nat} {e : Int} (positive : m ≠ 0) (within : Within q m e) :
    2 ^ e ≤ 2 * q := by
  have gap := gapBelow_le_two m e
  have some : (1 : ℚ) ≤ m := by exact_mod_cast Nat.one_le_iff_ne_zero.mpr positive
  have : 2 * 2 ^ e ≤ (4 * m - gapBelow m e) * (2 : ℚ) ^ e := by
    gcongr
    linarith
  linarith [within.low]

/-- What is nearest to a double is below the next binade. -/
theorem Within.lt {q : ℚ} {m : Nat} {e : Int} (regular : Regular m e) (within : Within q m e) :
    q < 2 * hidden * 2 ^ e := by
  have unit := two_zpow_pos e
  have last : (m : ℚ) + 1 ≤ 2 * hidden := by exact_mod_cast regular.mantissa
  have : (m + 1 : ℚ) * 2 ^ e ≤ 2 * hidden * 2 ^ e := by gcongr
  linarith [within.high]

/-- Above the least mantissa of a binade all that is nearest to a double is in it. -/
theorem Within.le {q : ℚ} {m : Nat} {e : Int} (above : hidden < m) (within : Within q m e) :
    hidden * 2 ^ e ≤ q := by
  have unit := two_zpow_pos e
  have next : (hidden : ℚ) + 1 ≤ m := by exact_mod_cast above
  have gap : gapBelow m e = 2 := if_neg fun least => above.ne' least.1
  have : (hidden + 1 : ℚ) * 2 ^ e ≤ m * 2 ^ e := by gcongr
  have low := within.low
  rw [gap] at low
  push_cast at low
  linarith

/-- What is nearest to the least mantissa of a binade may be in the binade below, but then
it is rounded up to the first number beyond it. -/
theorem Within.below {q : ℚ} {e f : Int} (above : leastExponent < e) (lower : f < e)
    (within : Within q hidden e) (most : q < 2 * hidden * 2 ^ f) :
    f = e - 1 ∧ Near (q / 2 ^ f) (2 * hidden) := by
  have some : (1 : ℚ) ≤ hidden := by exact_mod_cast twoTo_pos 52
  have gap : gapBelow hidden e = 1 := if_pos ⟨rfl, above⟩
  have next := two_zpow_succ (e - 1)
  rw [Int.sub_add_cancel] at next
  have low := within.low
  rw [gap, next] at low
  push_cast at low
  have last : f = e - 1 := by
    by_contra other
    have fine := two_zpow_mono (show f + 1 ≤ e - 1 by omega)
    rw [two_zpow_succ] at fine
    have : hidden * (2 * 2 ^ f) ≤ (hidden : ℚ) * 2 ^ (e - 1) := by gcongr
    have : 1 * 2 ^ (e - 1) ≤ (hidden : ℚ) * 2 ^ (e - 1) := by gcongr
    have := two_zpow_pos (e - 1)
    linarith
  subst last
  have unit := two_zpow_pos (e - 1)
  refine ⟨rfl, ?_, ?_, fun odd => ?_⟩
  · rw [← mul_div_assoc, le_div_iff₀ unit]
    push_cast
    linarith
  · rw [← mul_div_assoc, div_le_iff₀ unit]
    push_cast
    linarith
  · omega

/-- **What is nearest to a double is rounded to it.** -/
theorem nearestBits_of_within {num den m : Nat} {e : Int} (positive : num ≠ 0) (some : den ≠ 0)
    (regular : Regular m e) (within : Within (num / den) m e) :
    nearestBits num den = (e - leastExponent).toNat * hidden + m := by
  obtain ⟨least, most, full⟩ := exponentFor_range positive some
  have bits {n : Nat} := nearestBits_eq (n := n) positive some
  generalize exponentFor num den = f at *
  have finite : (e - leastExponent).toNat * hidden + m ≤ infinityBits := by
    obtain ⟨-, greatest, mantissa, -⟩ := regular
    rw [infinityBits_eq]
    rw [hidden_eq] at mantissa ⊢
    unfold leastExponent
    omega
  have hidden_pos : (0 : ℚ) < hidden := by exact_mod_cast twoTo_pos 52
  obtain higher | rfl | lower := lt_trichotomy e f
  · -- the quotient would be in a binade above all that is nearest
    have full := full (lt_of_le_of_lt regular.least higher)
    have unit := two_zpow_mono (show e + 1 ≤ f by omega)
    rw [two_zpow_succ] at unit
    have : (hidden : ℚ) * (2 * 2 ^ e) ≤ hidden * 2 ^ f := by gcongr
    linarith [within.lt regular]
  · rw [bits within.near, min_eq_right finite]
  · have above : leastExponent < e := lt_of_le_of_lt least lower
    obtain first | beyond := (regular.normal above).eq_or_lt
    · subst first
      obtain ⟨rfl, near⟩ := within.below above lower most
      have same : (e - 1 - leastExponent).toNat * hidden + 2 * hidden =
          (e - leastExponent).toNat * hidden + hidden := by
        have place : (e - leastExponent).toNat = (e - 1 - leastExponent).toNat + 1 := by omega
        rw [place]
        ring
      rw [bits near, same, min_eq_right finite]
    · -- the quotient would be in a binade below all that is nearest
      have unit := two_zpow_mono (show f + 1 ≤ e by omega)
      rw [two_zpow_succ] at unit
      have : (hidden : ℚ) * (2 * 2 ^ f) ≤ hidden * 2 ^ e := by gcongr
      linarith [within.le beyond]

/-! ## Doubles and their parts -/

/-- The bit above those of the magnitude is that of the sign. -/
theorem toNat_sign (bits : UInt64) :
    (bits.toNat / twoTo 63 == 1).toNat = bits.toNat / twoTo 63 := by
  have word := bits.toNat_lt
  have bit : twoTo 63 = 9223372036854775808 := by decide
  obtain zero | one : bits.toNat / twoTo 63 = 0 ∨ bits.toNat / twoTo 63 = 1 := by
    rw [bit]
    omega
  · rw [zero]
    rfl
  · rw [one]
    rfl

/-- The parts of a finite double are regular, and its bits are made of them. -/
theorem bits_of_finite {x : Float} {negative : Bool} {m : Nat} {e : Int}
    (parts : ofFloat x = .finite negative m e) :
    Regular m e ∧
      x.toBits.toNat = signed negative ((e - leastExponent).toNat * hidden + m) := by
  have sign := toNat_sign x.toBits
  have bit : twoTo 63 = 9223372036854775808 := by decide
  have eleven : twoTo 11 = 2048 := by decide
  unfold ofFloat ofBits at parts
  simp only [eleven] at parts
  generalize x.toBits.toNat = n at *
  split at parts
  · split at parts <;> cases parts
  split at parts
  · rename_i subnormal
    cases parts
    rw [hidden_eq] at subnormal
    refine ⟨⟨le_rfl, by decide, ?_, fun above => absurd above (lt_irrefl _)⟩, ?_⟩
    · rw [hidden_eq]
      omega
    · rw [signed_eq, sign, sub_self, Int.toNat_zero, Nat.zero_mul, Nat.zero_add, hidden_eq, bit]
      omega
  · rename_i finite normal
    cases parts
    rw [hidden_eq] at finite normal
    refine ⟨⟨?_, ?_, ?_, fun _ => ?_⟩, ?_⟩
    · rw [hidden_eq]
      omega
    · rw [hidden_eq, leastExponent]
      omega
    · rw [hidden_eq]
      omega
    · omega
    · rw [signed_eq, sign, hidden_eq, bit]
      omega

theorem bits_of_infinite {x : Float} {negative : Bool} (parts : ofFloat x = .infinite negative) :
    x.toBits.toNat = signed negative infinityBits := by
  have sign := toNat_sign x.toBits
  have bit : twoTo 63 = 9223372036854775808 := by decide
  have eleven : twoTo 11 = 2048 := by decide
  unfold ofFloat ofBits at parts
  simp only [eleven] at parts
  generalize x.toBits.toNat = n at *
  split at parts
  · rename_i top
    split at parts
    · rename_i none
      cases parts
      rw [signed_eq, sign, infinityBits_eq, bit]
      rw [hidden_eq] at top none
      omega
    · cases parts
  · split at parts <;> cases parts

theorem toBits_of_notANumber {x : Float} (parts : ofFloat x = .notANumber) :
    x.toBits.toBitVec = packedNaN Format.binary64 := by
  have fields : x.toBits.toNat / hidden % twoTo 11 = 2047 ∧ x.toBits.toNat % hidden ≠ 0 := by
    unfold ofFloat ofBits at parts
    simp only at parts
    split at parts
    · rename_i top
      split at parts
      · cases parts
      · exact ⟨top, ‹_›⟩
    · split at parts <;> cases parts
  refine x.toModel.valid.eq_packedNaN ?_ ?_
  · rw [← BitVec.toNat_inj]
    exact (toNat_unpackExponent x.toBits).trans fields.1
  · rw [Ne, ← BitVec.toNat_inj]
    exact fun zero => fields.2 ((toNat_unpackMantissa x.toBits).symm.trans zero)

/-- Only one double is no number. -/
theorem eq_of_notANumber {x y : Float} (hx : ofFloat x = .notANumber)
    (hy : ofFloat y = .notANumber) : x = y := by
  have same : x.toBits = y.toBits :=
    UInt64.eq_of_toBitVec_eq ((toBits_of_notANumber hx).trans (toBits_of_notANumber hy).symm)
  rw [← x.ofBits_toBits, same, y.ofBits_toBits]

/-- A double is known by the bits of its magnitude and by its sign. -/
theorem nearest_of_bits {x : Float} {negative : Bool} {num den bits : Nat}
    (rounded : nearestBits num den = bits) (own : x.toBits.toNat = signed negative bits) :
    nearest negative num den = x := by
  have same : UInt64.ofNat (signed negative (nearestBits num den)) = x.toBits := by
    rw [rounded, ← own, UInt64.ofNat_toNat]
  exact (congrArg Float.ofBits same).trans x.ofBits_toBits

/-- **The double nearest to a number is the one whose range it is within.** -/
theorem nearest_of_within {x : Float} {negative : Bool} {m : Nat} {e : Int}
    (parts : ofFloat x = .finite negative m e) {num den : Nat} (positive : num ≠ 0)
    (some : den ≠ 0) (within : Within (num / den) m e) : nearest negative num den = x := by
  obtain ⟨regular, bits⟩ := bits_of_finite parts
  exact nearest_of_bits (nearestBits_of_within positive some regular within) bits

/-- Zero is nearest to zero. -/
theorem nearest_zero {x : Float} {negative : Bool} {e : Int}
    (parts : ofFloat x = .finite negative 0 e) : nearest negative 0 1 = x := by
  obtain ⟨regular, bits⟩ := bits_of_finite parts
  have least : e = leastExponent := by
    by_contra other
    have normal := regular.normal (lt_of_le_of_ne regular.least (Ne.symm other))
    rw [hidden_eq] at normal
    omega
  rw [least, Int.sub_self, Int.toNat_zero, Nat.zero_mul] at bits
  exact nearest_of_bits rfl bits

theorem nearest_infinite {x : Float} {negative : Bool} (parts : ofFloat x = .infinite negative) :
    nearest negative (twoTo 1100) 1 = x := by
  have beyond : nearestBits (twoTo 1100) 1 = infinityBits := by decide +kernel
  exact nearest_of_bits beyond (bits_of_infinite parts)

end Binary64
end UsageMeter.Decimal
