import Mathlib
import UsageMeter.Settings.Conversion

/-!
# Doubles and naturals

What a double keeps of a natural that is rounded to it. From `2 ^ 52` on a double keeps
53 binary digits, rounded half to even, and taken for a word of 64 bits again it is
exact up to `2 ^ 64` but for the last eleven of them. Below zero it is taken for zero.
-/

namespace UsageMeter.Decimal
open Float.Model Float.Model.UnpackedFloat

/-! ## Bits -/

/-- Bits that stand for a number or an infinity. -/
def Numeric (bits : Nat) : Prop :=
  bits / Binary64.hidden % twoTo 11 = 2047 → bits % Binary64.hidden = 0

theorem toNat_unpackExponent (b : UInt64) :
    (@unpackExponent Format.binary64 b.toBitVec).toNat =
      b.toNat / Binary64.hidden % twoTo 11 := by
  rw [unpackExponent_def, BitVec.extractLsb'_toNat, Nat.shiftRight_eq_div_pow]
  rfl

theorem toNat_unpackMantissa (b : UInt64) :
    (@unpackMantissa Format.binary64 b.toBitVec).toNat = b.toNat % Binary64.hidden := by
  rw [unpackMantissa_def, BitVec.extractLsb'_toNat, Nat.shiftRight_eq_div_pow, Nat.pow_zero,
    Nat.div_one]
  rfl

theorem isNaNBits_eq_false {b : UInt64} (numeric : Numeric b.toNat) :
    @isNaNBits Format.binary64 b.toBitVec = false := by
  rw [isNaNBits, decide_eq_false_iff_not, ← BitVec.toNat_inj, Ne, ← BitVec.toNat_inj,
    toNat_unpackExponent, toNat_unpackMantissa]
  rintro ⟨top, nonzero⟩
  exact nonzero (numeric top)

/-- A double keeps its bits, unless it is no number. -/
theorem toBits_ofBits {b : UInt64} (numeric : Numeric b.toNat) : (Float.ofBits b).toBits = b := by
  have packed := @pack_unpack Format.binary64 b.toBitVec (by decide)
  rw [isNaNBits_eq_false numeric] at packed
  exact congrArg UInt64.ofBitVec packed

/-! ## Parts of a double -/

theorem hidden_eq : Binary64.hidden = 4503599627370496 := by decide

theorem infinityBits_eq : Binary64.infinityBits = 9218868437227405312 := by decide

/-- What a double with these bits of its magnitude means. -/
def Binary64.ofMagnitude (negative : Bool) (bits : Nat) : Binary64 :=
  if bits = infinityBits then .infinite negative
  else if bits < hidden then .finite negative bits leastExponent
  else .finite negative (hidden + bits % hidden) (leastExponent + (bits / hidden : Nat) - 1)

theorem nearestBits_le (num den : Nat) : Binary64.nearestBits num den ≤ Binary64.infinityBits := by
  unfold Binary64.nearestBits
  split
  · exact Nat.zero_le _
  · exact Nat.min_le_left _ _

/-- The bits of a magnitude with that of its sign above them. -/
def Binary64.signed (negative : Bool) (bits : Nat) : Nat :=
  bits + if negative then twoTo 63 else 0

theorem signed_eq (negative : Bool) (bits : Nat) :
    Binary64.signed negative bits = bits + negative.toNat * 9223372036854775808 := by
  cases negative <;> rfl

theorem toNat_ofNat_signed (negative : Bool) {bits : Nat}
    (small : bits ≤ Binary64.infinityBits) :
    (UInt64.ofNat (Binary64.signed negative bits)).toNat = Binary64.signed negative bits := by
  have room : Binary64.signed negative bits < 18446744073709551616 := by
    rw [infinityBits_eq] at small
    rw [signed_eq]
    have := negative.toNat_le
    omega
  exact UInt64.toNat_ofNat_of_lt' room

theorem numeric_signed (negative : Bool) {bits : Nat} (small : bits ≤ Binary64.infinityBits) :
    Numeric (Binary64.signed negative bits) := by
  have eleven : twoTo 11 = 2048 := by decide
  rw [infinityBits_eq] at small
  rw [Numeric, signed_eq, hidden_eq, eleven]
  omega

theorem ofBits_signed (negative : Bool) {bits : Nat} (small : bits ≤ Binary64.infinityBits) :
    Binary64.ofBits (UInt64.ofNat (Binary64.signed negative bits)) =
      Binary64.ofMagnitude negative bits := by
  have word : (UInt64.ofNat (Binary64.signed negative bits)).toNat =
      Binary64.signed negative bits := toNat_ofNat_signed negative small
  have sign : (Binary64.signed negative bits / twoTo 63 == 1) = negative := by
    have bit : twoTo 63 = 9223372036854775808 := by decide
    rw [infinityBits_eq] at small
    rw [signed_eq, bit]
    cases negative with
    | false =>
        rw [Bool.toNat_false, beq_eq_false_iff_ne]
        omega
    | true =>
        rw [Bool.toNat_true, beq_iff_eq]
        omega
  have eleven : twoTo 11 = 2048 := by decide
  have biased : Binary64.signed negative bits / Binary64.hidden % twoTo 11 =
      bits / Binary64.hidden := by
    rw [infinityBits_eq] at small
    rw [signed_eq, hidden_eq, eleven]
    omega
  have fraction : Binary64.signed negative bits % Binary64.hidden = bits % Binary64.hidden := by
    rw [signed_eq, hidden_eq]
    omega
  rw [Binary64.ofBits, word]
  simp only [sign, biased, fraction, Binary64.ofMagnitude]
  rw [infinityBits_eq] at small ⊢
  rw [hidden_eq]
  by_cases infinite : bits = 9218868437227405312
  · subst infinite
    rfl
  · by_cases subnormal : bits < 4503599627370496
    · rw [if_neg (by omega), if_pos (by omega), if_neg infinite, if_pos subnormal,
        Nat.mod_eq_of_lt subnormal]
    · rw [if_neg (by omega), if_neg (by omega), if_neg infinite, if_neg subnormal]

/-- What the double nearest to a quotient means is told by the bits of its magnitude. -/
theorem ofFloat_nearest (negative : Bool) (num den : Nat) :
    Binary64.ofFloat (Binary64.nearest negative num den) =
      Binary64.ofMagnitude negative (Binary64.nearestBits num den) := by
  have small := nearestBits_le num den
  have numeric : Numeric
      (UInt64.ofNat (Binary64.signed negative (Binary64.nearestBits num den))).toNat := by
    rw [toNat_ofNat_signed negative small]
    exact numeric_signed negative small
  exact (congrArg Binary64.ofBits (toBits_ofBits numeric)).trans (ofBits_signed negative small)

/-! ## Naturals as doubles -/

theorem roundDiv_cases (tie : Tie) (num den : Nat) :
    roundDiv tie num den = num / den ∨ roundDiv tie num den = num / den + 1 := by
  unfold roundDiv
  simp only
  split
  · exact .inl rfl
  split
  · exact .inr rfl
  cases tie with
  | toEven => simp only; omega
  | away => exact .inr rfl

theorem roundDiv_one (tie : Tie) (num : Nat) : roundDiv tie num 1 = num := by
  simp [roundDiv, Nat.mod_one]

/-- The place of the last binary digit of a natural that a double has room for. -/
def lastPlace (n : Nat) : Nat := Nat.log2 n - 52

/-- The binary digits of a natural that a double has room for, rounded. -/
def mantissaOf (n : Nat) : Nat := roundDiv .toEven n (twoTo (lastPlace n))

/-- What is left of a natural that is rounded to a double. -/
def roundedNatural (n : Nat) : Nat := mantissaOf n * twoTo (lastPlace n)

section
variable {n : Nat} (large : Binary64.hidden ≤ n)
include large

theorem ne_zero_of_hidden_le : n ≠ 0 := by
  rw [hidden_eq] at large
  omega

theorem le_log2 : 52 ≤ Nat.log2 n :=
  (Nat.le_log2 (ne_zero_of_hidden_le large)).mpr large

/-- A natural has 53 binary digits from its last place on. -/
theorem place_range : Binary64.hidden * twoTo (lastPlace n) ≤ n ∧
    n < 2 * Binary64.hidden * twoTo (lastPlace n) := by
  have above := le_log2 large
  have positive := ne_zero_of_hidden_le large
  have first : Binary64.hidden * twoTo (lastPlace n) = 2 ^ Nat.log2 n := by
    show 2 ^ 52 * 2 ^ (Nat.log2 n - 52) = _
    rw [← Nat.pow_add, Nat.add_sub_cancel' above]
  rw [Nat.mul_assoc, first]
  refine ⟨Nat.log2_self_le positive, ?_⟩
  have below : n < 2 ^ (Nat.log2 n + 1) := Nat.lt_log2_self
  rwa [Nat.pow_succ, Nat.mul_comm] at below

theorem mantissa_range : Binary64.hidden ≤ mantissaOf n ∧ mantissaOf n ≤ 2 * Binary64.hidden := by
  obtain ⟨least, greatest⟩ := place_range large
  have unit := twoTo_pos (lastPlace n)
  have low := (Nat.le_div_iff_mul_le unit).mpr least
  have high := (Nat.div_lt_iff_lt_mul unit).mpr greatest
  rcases roundDiv_cases .toEven n (twoTo (lastPlace n)) with down | up
  · rw [mantissaOf, down]
    omega
  · rw [mantissaOf, up]
    omega

theorem exponentFor_natural : Binary64.exponentFor n 1 = (lastPlace n : Int) := by
  have above := le_log2 large
  have guess : (Nat.log2 n : Int) - (Nat.log2 1 : Int) - 52 = (lastPlace n : Int) := by
    have one : Nat.log2 1 = 0 := by decide
    rw [one, lastPlace]
    omega
  have least : Binary64.leastExponent ≤ (lastPlace n : Int) := by
    unfold Binary64.leastExponent
    omega
  rw [Binary64.exponentFor]
  simp only [guess, Nat.one_mul, Int.toNat_natCast, Int.natCast_nonneg, if_true,
    (place_range large).1]
  exact max_eq_right least

theorem nearestBits_natural : Binary64.nearestBits n 1 =
    min Binary64.infinityBits ((lastPlace n + 1074) * Binary64.hidden + mantissaOf n) := by
  have positive := ne_zero_of_hidden_le large
  have place : ((lastPlace n : Int) - Binary64.leastExponent).toNat = lastPlace n + 1074 := by
    unfold Binary64.leastExponent
    omega
  rw [Binary64.nearestBits, if_neg positive]
  simp only [exponentFor_natural large, Int.natCast_nonneg, if_true, place, Nat.one_mul,
    Int.toNat_natCast, mantissaOf]

end

theorem twoTo_succ (n : Nat) : twoTo (n + 1) = 2 * twoTo n :=
  Nat.pow_succ'

theorem twoTo_le_twoTo {m n : Nat} (le : m ≤ n) : twoTo m ≤ twoTo n :=
  Nat.pow_le_pow_right (by decide) le

/-- Rounding up may give one more binary digit, which the exponent takes in. -/
theorem ofMagnitude_of_lt (negative : Bool) {place mantissa : Nat}
    (low : Binary64.hidden ≤ mantissa) (high : mantissa ≤ 2 * Binary64.hidden)
    (finite : (place + 1074) * Binary64.hidden + mantissa < Binary64.infinityBits) :
    ∃ m e : Nat, m * twoTo e = mantissa * twoTo place ∧
      Binary64.ofMagnitude negative ((place + 1074) * Binary64.hidden + mantissa) =
        .finite negative m e := by
  have exponent (q : Nat) (some : 1 ≤ q) : Binary64.leastExponent +
      ((place + 1074 + q : Nat) : Int) - 1 = ((place + (q - 1) : Nat) : Int) := by
    unfold Binary64.leastExponent
    omega
  have normal : ¬ (place + 1074) * Binary64.hidden + mantissa < Binary64.hidden :=
    Nat.not_lt_of_le (Nat.le_trans low (Nat.le_add_left _ _))
  rw [Binary64.ofMagnitude, if_neg (Nat.ne_of_lt finite), if_neg normal]
  by_cases full : mantissa = 2 * Binary64.hidden
  · have biased : ((place + 1074) * Binary64.hidden + mantissa) / Binary64.hidden =
        place + 1074 + 2 := by
      rw [full, hidden_eq]
      omega
    have fraction : ((place + 1074) * Binary64.hidden + mantissa) % Binary64.hidden = 0 := by
      rw [full, hidden_eq]
      omega
    refine ⟨Binary64.hidden, place + 1, ?_, ?_⟩
    · rw [full, twoTo_succ, Nat.mul_left_comm, Nat.mul_assoc]
    · rw [biased, fraction, exponent 2 (by decide)]
      rfl
  · have biased : ((place + 1074) * Binary64.hidden + mantissa) / Binary64.hidden =
        place + 1074 + 1 := by
      rw [hidden_eq] at low high full ⊢
      omega
    have fraction : Binary64.hidden + ((place + 1074) * Binary64.hidden + mantissa) %
        Binary64.hidden = mantissa := by
      rw [hidden_eq] at low high full ⊢
      omega
    refine ⟨mantissa, place, rfl, ?_⟩
    rw [biased, fraction, exponent 1 (by decide)]
    rfl

theorem word_le_of_infinite {place mantissa : Nat} (low : Binary64.hidden ≤ mantissa)
    (high : mantissa ≤ 2 * Binary64.hidden)
    (infinite : Binary64.infinityBits ≤ (place + 1074) * Binary64.hidden + mantissa) :
    maxWord64 ≤ mantissa * twoTo place := by
  have far : 12 ≤ place := by
    rw [hidden_eq] at high infinite
    rw [infinityBits_eq] at infinite
    omega
  calc maxWord64 ≤ Binary64.hidden * twoTo 12 := by decide
    _ ≤ mantissa * twoTo place :=
      Nat.mul_le_mul low (twoTo_le_twoTo far)

/-- A natural that is rounded to a double is taken for what is left of it, if that is a
word. -/
theorem nearestNatural_nearest {n : Nat} (large : Binary64.hidden ≤ n) :
    Settings.nearestNatural (Binary64.nearest false n 1) = min maxWord64 (roundedNatural n) := by
  obtain ⟨low, high⟩ := mantissa_range large
  rw [Settings.nearestNatural, ofFloat_nearest, nearestBits_natural large, roundedNatural]
  by_cases finite :
      (lastPlace n + 1074) * Binary64.hidden + mantissaOf n < Binary64.infinityBits
  · obtain ⟨m, e, same, means⟩ := ofMagnitude_of_lt false low high finite
    have whole : twoTo (-(e : Int)).toNat = 1 := by simp [twoTo]
    rw [Nat.min_eq_right (Nat.le_of_lt finite), means]
    simp only [whole, roundDiv_one, Int.toNat_natCast, same]
  · have infinite := Nat.le_of_not_lt finite
    rw [Nat.min_eq_left infinite, Nat.min_eq_left (word_le_of_infinite low high infinite)]
    rfl

/-- A double below zero is taken for zero. -/
theorem nearestNatural_negative (num den : Nat) :
    Settings.nearestNatural (Binary64.nearest true num den) = 0 := by
  rw [Settings.nearestNatural, ofFloat_nearest, Binary64.ofMagnitude]
  by_cases infinite : Binary64.nearestBits num den = Binary64.infinityBits
  · rw [if_pos infinite]
  · rw [if_neg infinite]
    by_cases subnormal : Binary64.nearestBits num den < Binary64.hidden
    · rw [if_pos subnormal]
    · rw [if_neg subnormal]

theorem min_roundDiv_of_le {n : Nat} (beyond : twoTo 64 ≤ n) :
    min maxWord64 (roundDiv .toEven n 2048 * 2048) = maxWord64 := by
  have word : twoTo 64 = 18446744073709551616 := by decide
  refine Nat.min_eq_left ?_
  rw [word] at beyond
  unfold maxWord64
  rcases roundDiv_cases .toEven n 2048 with down | up
  · rw [down]
    omega
  · rw [up]
    omega

/-- Of naturals from `2 ^ 63` on, those that fit a word lose eleven binary digits. -/
theorem min_roundedNatural {n : Nat} (large : maxInt64 < n) :
    min maxWord64 (roundedNatural n) = min maxWord64 (roundDiv .toEven n 2048 * 2048) := by
  have positive : n ≠ 0 := Nat.ne_of_gt (Nat.zero_lt_of_lt large)
  have digits : 63 ≤ Nat.log2 n := (Nat.le_log2 positive).mpr large
  by_cases word : Nat.log2 n = 63
  · have place : lastPlace n = 11 := by rw [lastPlace, word]
    rw [roundedNatural, mantissaOf, place]
    rfl
  · -- both are beyond the words, however they are rounded
    have beyond : twoTo 64 ≤ n := (Nat.le_log2 positive).mp (by omega)
    have natural : Binary64.hidden ≤ n := Nat.le_trans (by decide) beyond
    have rounded : maxWord64 ≤ roundedNatural n := calc
      maxWord64 ≤ Binary64.hidden * twoTo 12 := by decide
      _ ≤ mantissaOf n * twoTo (lastPlace n) :=
        Nat.mul_le_mul (mantissa_range natural).1
          (twoTo_le_twoTo (by rw [lastPlace]; omega))
    rw [Nat.min_eq_left rounded, min_roundDiv_of_le beyond]

/-! ## Naturals that are read as doubles -/

theorem twoTo_le_of_length {n k : Nat} (some : 0 < k) (long : k < (Nat.toDigits 10 n).length) :
    twoTo k ≤ n := by
  have beyond : ¬ n < 10 ^ k := by
    rw [← Nat.length_toDigits_le_iff (by decide) some]
    omega
  calc twoTo k ≤ 10 ^ k := Nat.pow_le_pow_left (by decide) k
    _ ≤ n := Nat.le_of_not_lt beyond

/-- A natural without a fraction is rounded at once, but where it is far beyond the doubles. -/
theorem toFloat_natural (negative : Bool) {n : Nat} (positive : n ≠ 0) :
    ∃ m, toFloat negative n 0 = Binary64.nearest negative m 1 ∧
      (m = n ∨ twoTo 64 ≤ m ∧ twoTo 64 ≤ n) := by
  unfold toFloat
  simp only [positive, false_or]
  rw [if_neg (by omega)]
  split
  · rename_i long
    have far : twoTo 310 ≤ n := twoTo_le_of_length (by decide) (by omega)
    exact ⟨twoTo 1100, rfl, .inr ⟨twoTo_le_twoTo (by decide),
      Nat.le_trans (twoTo_le_twoTo (by decide)) far⟩⟩
  · exact ⟨n, by simp [tenTo], .inl rfl⟩

theorem nearestNatural_toFloat {n : Nat} (large : maxInt64 < n) :
    Settings.nearestNatural (toFloat false n 0) =
      min maxWord64 (roundDiv .toEven n 2048 * 2048) := by
  have taken {m : Nat} (large : maxInt64 < m) :
      Settings.nearestNatural (Binary64.nearest false m 1) =
        min maxWord64 (roundDiv .toEven m 2048 * 2048) := by
    have natural : Binary64.hidden ≤ m := Nat.le_trans (by decide) large
    rw [nearestNatural_nearest natural, min_roundedNatural large]
  obtain ⟨m, same, rfl | ⟨beyond, far⟩⟩ :=
    toFloat_natural false (Nat.ne_of_gt (Nat.zero_lt_of_lt large))
  · rw [same, taken large]
  · rw [same, taken (Nat.le_trans (by decide) beyond), min_roundDiv_of_le beyond,
      min_roundDiv_of_le far]

theorem nearestNatural_toFloat_negative {n : Nat} (positive : n ≠ 0) :
    Settings.nearestNatural (toFloat true n 0) = 0 := by
  obtain ⟨m, same, -⟩ := toFloat_natural true positive
  rw [same, nearestNatural_negative]

end UsageMeter.Decimal
