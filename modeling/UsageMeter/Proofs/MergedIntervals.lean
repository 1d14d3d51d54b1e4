import Mathlib.Algebra.Order.Field.Rat
import Mathlib.Order.Interval.Set.UnorderedInterval
import Mathlib.Tactic.GCongr
import Mathlib.Tactic.Linarith
import Mathlib.Tactic.Positivity
import Mathlib.Tactic.Ring
import UsageMeter.Proofs.Resets

/-!
# Merged intervals

Where a reading is missed, one interval spans the two it replaces. In exact arithmetic
its percentage lies between theirs, because the time used and the time elapsed add up,
and every percentage keeps to its bounds.
-/

namespace UsageMeter

/-- Exact arithmetic. -/
instance Quantity.instRat : Quantity ℚ where
  ofNat n := n
  decideLt := inferInstance

/-! ## Percentages in exact arithmetic -/

theorem clampPercent_eq_max (x : ℚ) : clampPercent x = max 0 (min x 100) := by
  unfold clampPercent
  simp only [Quantity.ofNat, Nat.cast_zero, Nat.cast_ofNat]
  split
  · rename_i negative
    rw [max_eq_left ((min_le_left _ _).trans negative.le)]
  · rename_i nonneg
    rw [not_lt] at nonneg
    split
    · rename_i above
      rw [min_eq_right above.le, max_eq_right (by norm_num)]
    · rename_i within
      rw [min_eq_left (not_lt.mp within), max_eq_right nonneg]

theorem monotone_clampPercent : Monotone (clampPercent : ℚ → ℚ) := by
  intro x y le
  rw [clampPercent_eq_max, clampPercent_eq_max]
  exact max_le_max le_rfl (min_le_min le le_rfl)

theorem clampPercent_of_nonneg {x : ℚ} (nonneg : 0 ≤ x) : clampPercent x = min x 100 := by
  rw [clampPercent_eq_max, max_eq_right (le_min nonneg (by norm_num))]

/-- The percentage of a share of the time elapsed, on so many CPUs. -/
def percentOfShare (cpus : Nat) (share : ℚ) : ℚ :=
  clampPercent (share * 100 / cpus)

theorem monotone_percentOfShare (cpus : Nat) : Monotone (percentOfShare cpus) := by
  intro x y le
  apply monotone_clampPercent
  gcongr

/-- The share decides the percentage, also where no time elapsed. -/
theorem percentage_eq_percentOfShare (used elapsed cpus : Nat) :
    percentage used elapsed cpus = percentOfShare cpus (used / elapsed : ℚ) := by
  unfold percentage percentOfShare
  split
  · -- a share of no time is zero, which the bounds leave as it is
    rename_i none_elapsed
    subst none_elapsed
    simp [clampPercent_eq_max, Quantity.ofNat]
  · rw [div_mul_eq_mul_div]
    rfl

/-- The bounds that a percentage keeps to, and where it meets them. -/
structure WithinBounds (percent : ℚ) (used elapsed cpus : Nat) : Prop where
  nonneg : 0 ≤ percent
  le_hundred : percent ≤ 100
  eq_zero_iff : percent = 0 ↔ used = 0 ∨ elapsed = 0
  eq_hundred_iff : percent = 100 ↔ 0 < elapsed ∧ elapsed * cpus ≤ used

theorem percentage_eq_min (used elapsed cpus : Nat) :
    percentage used elapsed cpus = min ((used : ℚ) / elapsed * 100 / cpus) 100 := by
  rw [percentage_eq_percentOfShare, percentOfShare, clampPercent_of_nonneg (by positivity)]

section
variable (used elapsed : Nat) {cpus : Nat}

theorem percentage_eq_zero_iff (some_cpu : 0 < cpus) :
    (percentage used elapsed cpus : ℚ) = 0 ↔ used = 0 ∨ elapsed = 0 := by
  have cpus_ne : (cpus : ℚ) ≠ 0 := Nat.cast_ne_zero.mpr some_cpu.ne'
  rw [percentage_eq_min]
  constructor
  · intro zero
    rcases min_choice ((used : ℚ) / elapsed * 100 / cpus) 100 with rate | hundred
    · simpa [cpus_ne] using rate.symm.trans zero
    · rw [zero] at hundred
      norm_num at hundred
  · rintro (rfl | rfl) <;> simp

theorem percentage_eq_hundred_iff (some_cpu : 0 < cpus) :
    (percentage used elapsed cpus : ℚ) = 100 ↔ 0 < elapsed ∧ elapsed * cpus ≤ used := by
  have cpus_pos : (0 : ℚ) < cpus := Nat.cast_pos.mpr some_cpu
  rw [percentage_eq_min, min_eq_right_iff, le_div_iff₀ cpus_pos]
  rcases Nat.eq_zero_or_pos elapsed with rfl | some_time
  · simp [some_cpu]
  · have elapsed_pos : (0 : ℚ) < elapsed := Nat.cast_pos.mpr some_time
    calc 100 * (cpus : ℚ) ≤ used / elapsed * 100
      _ ↔ (cpus : ℚ) ≤ used / elapsed := by rw [mul_comm, mul_le_mul_iff_left₀ (by norm_num)]
      _ ↔ (elapsed * cpus : ℚ) ≤ used := by rw [le_div_iff₀ elapsed_pos, mul_comm]
      _ ↔ 0 < elapsed ∧ elapsed * cpus ≤ used := by exact_mod_cast (and_iff_right some_time).symm

theorem withinBounds_percentage (some_cpu : 0 < cpus) :
    WithinBounds (percentage used elapsed cpus) used elapsed cpus where
  nonneg := by
    rw [percentage_eq_min]
    positivity
  le_hundred := by
    rw [percentage_eq_min]
    exact min_le_right _ _
  eq_zero_iff := percentage_eq_zero_iff used elapsed some_cpu
  eq_hundred_iff := percentage_eq_hundred_iff used elapsed some_cpu

end

theorem Tier.divisor_eq (tier : Tier) (cpus : UInt32) :
    tier.divisor cpus = if tier = .procStat then 1 else max 1 cpus.toNat := by
  cases tier <;> simp [Tier.divisor, max_comm]

theorem Tier.divisor_pos (tier : Tier) (cpus : UInt32) : 0 < tier.divisor cpus := by
  rw [Tier.divisor_eq]
  split <;> omega

theorem withinBounds_utilization (active total : UInt64) (cpus : UInt32) (tier : Tier) :
    WithinBounds (utilization active total cpus tier) active.toNat total.toNat
      (if tier = .procStat then 1 else max 1 cpus.toNat) := by
  rw [← Tier.divisor_eq]
  exact withinBounds_percentage _ _ (tier.divisor_pos cpus)

/-! ## The mediant -/

/-- A sum over a sum lies between the two fractions. -/
theorem mediant_mem_uIcc (a c : ℚ) {b d : ℚ} (hb : 0 < b) (hd : 0 < d) :
    (a + c) / (b + d) ∈ Set.uIcc (a / b) (c / d) := by
  -- times the sum below, either end splits into one part for each fraction
  constructor
  · rw [le_div_iff₀ (add_pos hb hd), mul_add]
    exact add_le_add ((le_div_iff₀ hb).mp inf_le_left) ((le_div_iff₀ hd).mp inf_le_right)
  · rw [div_le_iff₀ (add_pos hb hd), mul_add]
    exact add_le_add ((div_le_iff₀ hb).mp le_sup_left) ((div_le_iff₀ hd).mp le_sup_right)

/-- Time used and elapsed that adds up gives a percentage between the two. -/
theorem percentage_add_mem_uIcc (used used' cpus : Nat) {elapsed elapsed' : Nat}
    (some_time : 0 < elapsed) (some_time' : 0 < elapsed') :
    (percentage (used + used') (elapsed + elapsed') cpus : ℚ) ∈
      Set.uIcc (percentage used elapsed cpus) (percentage used' elapsed' cpus) := by
  simp only [percentage_eq_percentOfShare, Nat.cast_add]
  exact (monotone_percentOfShare cpus).mapsTo_uIcc
    (mediant_mem_uIcc _ _ (Nat.cast_pos.mpr some_time) (Nat.cast_pos.mpr some_time'))

/-! ## Readings -/

theorem toNat_sub_add_toNat_sub {a b c : UInt64} (first : a ≤ b) (second : b ≤ c) :
    (c - a).toNat = (b - a).toNat + (c - b).toNat := by
  have left := toNat_sub_add_of_le first
  have right := toNat_sub_add_of_le second
  have whole := toNat_sub_add_of_le (UInt64.le_trans first second)
  omega

theorem toNat_sub_pos {a b : UInt64} (grows : a < b) : 0 < (b - a).toNat := by
  have grown := toNat_sub_add_of_le (UInt64.le_of_lt grows)
  rw [UInt64.lt_iff_toNat_lt] at grows
  omega

/-- The CPU usage of a tier between two readings of it. -/
def CounterSample.percentSince {α : Type} [Quantity α] (prev curr : CounterSample) : α :=
  utilization (curr.active - prev.active) (curr.total - prev.total) curr.cpus curr.tier

namespace CounterSample

theorem Continues.trans {s₁ s₂ s₃ : CounterSample} (first : s₁.Continues s₂)
    (second : s₂.Continues s₃) : s₁.Continues s₃ :=
  ⟨second.1.trans first.1, UInt64.le_trans first.2.1 second.2.1,
    UInt64.le_trans first.2.2 second.2.2⟩

theorem Continues.percent_measure {prev curr : CounterSample} (continues : prev.Continues curr)
    (m : Meter) : (m.measure prev curr).1.percent = prev.percentSince curr :=
  congrArg Figure.percent (m.figure_of_continues continues)

theorem percentSince_mem_uIcc {s₁ s₂ s₃ : CounterSample} (first : s₁.Continues s₂)
    (second : s₂.Continues s₃) (passes : s₁.total < s₂.total) (passes' : s₂.total < s₃.total)
    (cpus : s₂.cpus = s₃.cpus) :
    (s₁.percentSince s₃ : ℚ) ∈ Set.uIcc (s₁.percentSince s₂) (s₂.percentSince s₃) := by
  unfold percentSince utilization
  rw [cpus, ← second.1, toNat_sub_add_toNat_sub first.2.1 second.2.1,
    toNat_sub_add_toNat_sub first.2.2 second.2.2]
  exact percentage_add_mem_uIcc _ _ _ (toNat_sub_pos passes) (toNat_sub_pos passes')

end CounterSample

namespace ProcessSample

theorem Continues.processUtilization_eq {α : Type} [Quantity α] {prev curr : ProcessSample}
    (continues : prev.Continues curr) :
    processUtilization prev curr =
      some (percentage (curr.cpuTime - prev.cpuTime).toNat (curr.takenAt - prev.takenAt) 1 : α) :=
  if_neg fun broken =>
    broken.elim (fun other => other continues.1) (UInt64.not_lt.mpr continues.2)

theorem continues_of_processUtilization {prev curr : ProcessSample} {x : ℚ}
    (given : processUtilization prev curr = some x) : prev.Continues curr := by
  unfold processUtilization at given
  split at given
  · cases given
  · rename_i kept
    rw [not_or, not_not] at kept
    exact ⟨kept.1, UInt64.not_lt.mp kept.2⟩

theorem withinBounds_of_processUtilization {prev curr : ProcessSample} {x : ℚ}
    (given : processUtilization prev curr = some x) :
    WithinBounds x (curr.cpuTime.toNat - prev.cpuTime.toNat) (curr.takenAt - prev.takenAt) 1 := by
  have continues := continues_of_processUtilization given
  rw [continues.processUtilization_eq, Option.some.injEq] at given
  rw [← UInt64.toNat_sub_of_le _ _ continues.2, ← given]
  exact withinBounds_percentage _ _ Nat.one_pos

theorem processUtilization_mem_uIcc {p₁ p₂ p₃ : ProcessSample} (first : p₁.Continues p₂)
    (second : p₂.Continues p₃) (passes : p₁.takenAt < p₂.takenAt)
    (passes' : p₂.takenAt < p₃.takenAt) :
    ∃ x₁₂ x₂₃ x₁₃ : ℚ, processUtilization p₁ p₂ = some x₁₂ ∧
      processUtilization p₂ p₃ = some x₂₃ ∧ processUtilization p₁ p₃ = some x₁₃ ∧
      x₁₃ ∈ Set.uIcc x₁₂ x₂₃ := by
  have both : p₁.Continues p₃ := ⟨first.1.trans second.1, UInt64.le_trans first.2 second.2⟩
  refine ⟨_, _, _, first.processUtilization_eq, second.processUtilization_eq,
    both.processUtilization_eq, ?_⟩
  have elapsed : p₃.takenAt - p₁.takenAt =
      (p₂.takenAt - p₁.takenAt) + (p₃.takenAt - p₂.takenAt) := by omega
  rw [toNat_sub_add_toNat_sub first.2 second.2, elapsed]
  exact percentage_add_mem_uIcc _ _ _ (Nat.sub_pos_of_lt passes) (Nat.sub_pos_of_lt passes')

end ProcessSample

/-- **Spanning a missed reading gives a figure between the two it replaces.** In exact
arithmetic, every percentage of a tier is between 0 and 100, is 0 exactly if no time was
used or none elapsed, and is 100 exactly if some elapsed and all of it was used, on as
many CPUs as are at hand. Of three readings that continue one another, with time passing
in between and on equally many CPUs, the last continues the first, and the percentage
from first to last lies between those of the two intervals; it is by this percentage
that any meter measures. The same holds for a process, on one CPU. -/
theorem merged_percentage_between :
    (∀ active total cpus tier,
      WithinBounds (utilization active total cpus tier) active.toNat total.toNat
        (if tier = .procStat then 1 else max 1 cpus.toNat)) ∧
      (∀ s₁ s₂ s₃ : CounterSample, s₁.Continues s₂ → s₂.Continues s₃ → s₁.total < s₂.total →
        s₂.total < s₃.total → s₂.cpus = s₃.cpus → s₁.Continues s₃ ∧
        (s₁.percentSince s₃ : ℚ) ∈ Set.uIcc (s₁.percentSince s₂) (s₂.percentSince s₃)) ∧
      (∀ (m : Meter) (prev curr : CounterSample), prev.Continues curr →
        (m.measure prev curr).1.percent = prev.percentSince curr) ∧
      (∀ (prev curr : ProcessSample) (x : ℚ), processUtilization prev curr = some x →
        WithinBounds x (curr.cpuTime.toNat - prev.cpuTime.toNat) (curr.takenAt - prev.takenAt)
          1) ∧
      ∀ p₁ p₂ p₃ : ProcessSample, p₁.Continues p₂ → p₂.Continues p₃ →
        p₁.takenAt < p₂.takenAt → p₂.takenAt < p₃.takenAt →
        ∃ x₁₂ x₂₃ x₁₃ : ℚ, processUtilization p₁ p₂ = some x₁₂ ∧
          processUtilization p₂ p₃ = some x₂₃ ∧ processUtilization p₁ p₃ = some x₁₃ ∧
          x₁₃ ∈ Set.uIcc x₁₂ x₂₃ := by
  refine ⟨withinBounds_utilization,
    fun _ _ _ first second passes passes' cpus =>
      ⟨first.trans second,
        CounterSample.percentSince_mem_uIcc first second passes passes' cpus⟩,
    fun m _ _ continues => continues.percent_measure m,
    fun _ _ _ given => ProcessSample.withinBounds_of_processUtilization given,
    fun _ _ _ first second passes passes' =>
      ProcessSample.processUtilization_mem_uIcc first second passes passes'⟩

/-- Half of a tenth of a second was used, and a quarter of the next. -/
theorem merged_percentage_between_of_three :
    let s₁ : CounterSample := ⟨.cgroupV2, 7, 100000000, none, none, 1, 1⟩
    let s₂ : CounterSample := ⟨.cgroupV2, 50000007, 200000000, none, none, 0, 2⟩
    let s₃ : CounterSample := ⟨.cgroupV2, 75000007, 300000000, none, none, 0, 3⟩
    (s₁.percentSince s₃ : ℚ) = 75 / 2 ∧
      (s₁.percentSince s₃ : ℚ) ∈ Set.uIcc (s₁.percentSince s₂) (s₂.percentSince s₃) := by
  intro s₁ s₂ s₃
  refine ⟨by decide +kernel, (merged_percentage_between.2.1 s₁ s₂ s₃ ?_ ?_ ?_ ?_ rfl).2⟩
  · exact ⟨rfl, by decide, by decide⟩
  · exact ⟨rfl, by decide, by decide⟩
  · decide
  · decide

end UsageMeter
