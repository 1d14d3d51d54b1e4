import UsageMeter.Proofs.DetectedTiers
import UsageMeter.Proofs.GroupFiles

/-!
# Allotments

How many CPUs the kernel's files allot. Quota and period are brought to nanoseconds
and kept within 64 bits before they are divided. Where the quota has room, the
quotient is still that of the numbers in the files, whether the period has room or
not. In the arithmetic of words, no step of the division can go wrong.
-/

namespace UsageMeter
open UsageMeter.Kernel UsageMeter.Cli

namespace Source

/-! ## Microseconds in nanoseconds -/

section
variable {q : Int} {p : UInt64}

theorem quotaNanos_of_fits (nonneg : 0 ≤ q) (fits : 1000 * q ≤ maxInt64) :
    quotaNanos q = 1000 * q := by
  unfold quotaNanos nanosPerMicro
  unfold maxInt64 at *
  omega

theorem quotaNanos_of_excess (excess : maxInt64 < 1000 * q) : quotaNanos q = maxInt64 := by
  unfold quotaNanos nanosPerMicro
  unfold maxInt64 at *
  omega

theorem quotaNanos_pos_iff : 0 < quotaNanos q ↔ 0 < q := by
  unfold quotaNanos nanosPerMicro maxInt64
  omega

theorem toNat_nanos (p : UInt64) : (nanos p).toNat = min (1000 * p.toNat) maxWord64 := by
  rw [nanos, toNat_saturate, Nat.mul_comm]
  rfl

theorem nanos_pos_iff : 0 < (nanos p).toNat ↔ 0 < p.toNat := by
  rw [toNat_nanos]
  unfold maxWord64
  omega

/-- The common factor cancels, also where the period has no room for it: then either
quotient is zero. -/
theorem scaled_div_eq {q p : Nat} (fits : 1000 * q ≤ maxInt64) :
    1000 * q / min (1000 * p) maxWord64 = q / p := by
  unfold maxInt64 maxWord64 at *
  by_cases room : 1000 * p ≤ 18446744073709551615
  · rw [Nat.min_eq_left room, Nat.mul_div_mul_left q p (by decide)]
  · -- a quota that has room is below a period that has none
    rw [Nat.min_eq_right (by omega), Nat.div_eq_of_lt (by omega), Nat.div_eq_of_lt (by omega)]

end

/-! ## CPUs of a grant in nanoseconds -/

theorem toNat_max_one (n : UInt32) : (max n 1).toNat = max 1 n.toNat := by
  show (if n ≤ 1 then 1 else n : UInt32).toNat = _
  split
  · rename_i le
    rw [UInt32.le_iff_toNat_le] at le
    exact (Nat.max_eq_left le).symm
  · rename_i gt
    rw [UInt32.le_iff_toNat_le] at gt
    exact (Nat.max_eq_right (Nat.le_of_lt (Nat.not_le.mp gt))).symm

section
variable {q : Int} {p : UInt64} (hostCpus : UInt32)

theorem toNat_onlineCpus (quota : 0 < q) (period : 0 < p.toNat) :
    (onlineCpus (some q) (some p) hostCpus).toNat =
      max 1 (min maxWord32 (q.toNat / p.toNat)) := by
  have word : max 1 (min maxWord32 (q.toNat / p.toNat)) < 4294967296 := by
    unfold maxWord32
    omega
  rw [onlineCpus, if_pos ⟨quota, period⟩, UInt32.toNat_ofNat_of_lt' word]

/-- Without a quota and a period that are positive, all CPUs count. -/
theorem onlineCpus_of_none {quota : Option Int} {period : Option UInt64}
    (none : ∀ q p, quota = some q → period = some p → q ≤ 0 ∨ p.toNat = 0) :
    onlineCpus quota period hostCpus = max hostCpus 1 := by
  unfold onlineCpus
  split
  · rename_i q p
    refine if_neg fun positive => ?_
    have := none q p rfl rfl
    omega
  · rfl

end

/-! ## The same in words -/

/-- The quotient of words, unless it is one by zero. -/
def divide? (n d : UInt64) : Option UInt64 := if d = 0 then none else some (n / d)

/-- A signed word as an unsigned one, unless it is negative. -/
def unsigned? (q : Int64) : Option UInt64 := if q < 0 then none else some q.toUInt64

/-- A word in 32 bits, the greatest of these if it has no room. -/
def narrow (n : UInt64) : UInt32 := if n.toNat ≤ maxWord32 then n.toUInt32 else 4294967295

/-- The CPUs of a grant in the arithmetic of words, unless a step goes wrong. -/
def wordCpus? (quota : Option Int64) (period : Option UInt64) (hostCpus : UInt32) :
    Option UInt32 :=
  match quota, period with
  | some q, some p =>
    if 0 < q ∧ 0 < p then do
      let n ← divide? (← unsigned? q) p
      some (max (narrow n) 1)
    else some (max hostCpus 1)
  | _, _ => some (max hostCpus 1)

theorem toNat_narrow (n : UInt64) : (narrow n).toNat = min maxWord32 n.toNat := by
  unfold narrow maxWord32
  split
  · rename_i room
    rw [UInt64.toNat_toUInt32, Nat.min_eq_right room, Nat.mod_eq_of_lt (by omega)]
  · rename_i excess
    exact (Nat.min_eq_left (Nat.le_of_not_le excess)).symm

section
variable {q : Int} (lower : -(maxInt64 + 1 : Int) ≤ q) (upper : q ≤ maxInt64)
include lower upper

theorem toInt_ofInt : (Int64.ofInt q).toInt = q := by
  unfold maxInt64 at *
  exact Int64.toInt_ofInt_of_le (by omega) (by omega)

theorem ofInt_pos_iff : 0 < Int64.ofInt q ↔ 0 < q := by
  rw [Int64.lt_iff_toInt_lt, toInt_ofInt lower upper]
  rfl

/-- A quota that is positive keeps its value without its sign. -/
theorem unsigned?_ofInt (positive : 0 < q) :
    ∃ n : UInt64, unsigned? (Int64.ofInt q) = some n ∧ n.toNat = q.toNat := by
  have nonneg : (0 : Int64) ≤ Int64.ofInt q := by
    rw [Int64.le_iff_toInt_le, toInt_ofInt lower upper]
    exact Int.le_of_lt positive
  refine ⟨_, if_neg (Int64.not_lt.mpr nonneg), ?_⟩
  rw [Int64.toNat_toUInt64_of_le nonneg]
  unfold maxInt64 at *
  exact Int64.toNatClampNeg_ofInt_of_le (by omega) (by omega)

end

/-- In words no division is by zero, no sign is lost and no quotient is cut. -/
theorem wordCpus?_eq {quota : Option Int} (period : Option UInt64) (hostCpus : UInt32)
    (range : ∀ q, quota = some q → -(maxInt64 + 1 : Int) ≤ q ∧ q ≤ maxInt64) :
    wordCpus? (quota.map Int64.ofInt) period hostCpus =
      some (onlineCpus quota period hostCpus) := by
  cases quota with
  | none => rfl
  | some q =>
      cases period with
      | none => rfl
      | some p =>
          obtain ⟨lower, upper⟩ := range q rfl
          have same : (0 < Int64.ofInt q ∧ 0 < p) ↔ (0 < q ∧ 0 < p.toNat) :=
            and_congr (ofInt_pos_iff lower upper) UInt64.lt_iff_toNat_lt
          by_cases positive : 0 < q ∧ 0 < p.toNat
          · obtain ⟨n, unsigned, value⟩ := unsigned?_ofInt lower upper positive.1
            have divides : divide? n p = some (n / p) :=
              if_neg (UInt64.pos_iff_ne_zero.mp (same.mpr positive).2)
            simp only [wordCpus?, Option.map_some, if_pos (same.mpr positive), unsigned, divides,
              Option.bind_eq_bind, Option.bind_some, Option.some.injEq]
            rw [← UInt32.toNat_inj, toNat_onlineCpus hostCpus positive.1 positive.2,
              toNat_max_one, toNat_narrow, UInt64.toNat_div, value]
          · simp only [wordCpus?, onlineCpus, Option.map_some, if_neg positive,
              if_neg (mt same.mp positive)]

/-! ## What the files grant -/

/-- What the group files of a tier tell of its grant, in microseconds: the quota as it
is written, which may be negative, and the period. -/
inductive Granted (files : Files) (root : String) : Tier → Option Int → Option UInt64 → Prop where
  | unified {quota : Option Int} {period : Option UInt64}
      (tells : UnifiedLimit files root ⟨quota, period⟩) : Granted files root .cgroupV2 quota period
  | untold (h : ∀ d ∈ bandwidthDirectories, files.Unreadable (quotaPath root d)) :
      Granted files root .cgroupV1 none none
  | told {d text : String} {quota : Int} {period : Option UInt64}
      (first : files.FirstIn (quotaPath root) bandwidthDirectories d text)
      (tells : IntFile text quota) (beside : PeriodIn files root d period) :
      Granted files root .cgroupV1 (some quota) period

/-- A sample holds a grant: its quota, or none in the place of a negative one, and its
period, both in nanoseconds, and the CPUs that they are worth. -/
structure Holds (s : CounterSample) (quota : Option Int) (period : Option UInt64)
    (hostCpus : UInt32) : Prop where
  quota : s.quota = quota.map quotaNanos ∨ s.quota = none ∧ ∃ q, quota = some q ∧ q < 0
  period : s.period = period.map nanos
  cpus : s.cpus = onlineCpus s.quota s.period hostCpus

section
variable {files : Files} {root : String} {tier : Tier} {quota : Option Int}
  {period : Option UInt64}

theorem UnifiedLimit.unique {limit limit' : Bandwidth} (h : UnifiedLimit files root limit)
    (h' : UnifiedLimit files root limit') : limit = limit' := by
  obtain ⟨told, read, rfl⟩ := unifiedLimit_iff.mp h
  obtain ⟨told', read', rfl⟩ := unifiedLimit_iff.mp h'
  rw [read] at read'
  cases read'
  rfl

theorem LimitIn.unique {ds : List String} {limit limit' : Bandwidth}
    (h : LimitIn files root ds limit) (h' : LimitIn files root ds limit') : limit = limit' := by
  rw [← readBandwidth_eq_ok_iff] at h h'
  exact Except.ok.inj (h.symm.trans h')

theorem Granted.holds {roots : Roots} {now : UInt64} {s : CounterSample}
    (granted : Granted files roots.cgroup tier quota period)
    (read : roots.readTier files now tier = .ok (.ok s)) :
    Holds s quota period roots.hostCpus := by
  cases granted with
  | unified tells =>
      obtain ⟨micros, limit, -, told, rfl⟩ := readCgroupV2_eq_ok_iff.mp (Except.ok.inj read)
      cases told.unique tells
      exact ⟨.inl rfl, rfl, rfl⟩
  | untold h =>
      obtain ⟨used, limit, -, told, rfl⟩ := readCgroupV1_eq_ok_iff.mp (Except.ok.inj read)
      cases told.unique (.unreadable h)
      exact ⟨.inl rfl, rfl, rfl⟩
  | told first tells beside =>
      obtain ⟨used, limit, -, told, rfl⟩ := readCgroupV1_eq_ok_iff.mp (Except.ok.inj read)
      cases told.unique (.told first tells beside)
      rename_i quota
      refine ⟨?_, rfl, rfl⟩
      -- the sample of this tier drops a quota that is negative
      by_cases negative : quota < 0
      · exact .inr ⟨by simp [groupSample, negative], quota, rfl, negative⟩
      · exact .inl (by simp [groupSample, negative])

end

namespace Holds
variable {s : CounterSample} {quota : Option Int} {q : Int} {p : UInt64}
  {period : Option UInt64} {hostCpus : UInt32}

theorem quota_eq (h : Holds s (some q) period hostCpus) (nonneg : 0 ≤ q) :
    s.quota = some (quotaNanos q) := by
  rcases h.quota with same | ⟨-, _, ⟨⟩, negative⟩
  · exact same
  · omega

theorem toNat_cpus (h : Holds s (some q) (some p) hostCpus) (quota : 0 < q)
    (period : 0 < p.toNat) :
    s.cpus.toNat = max 1 (min maxWord32
      ((quotaNanos q).toNat / min (1000 * p.toNat) maxWord64)) := by
  rw [h.cpus, h.quota_eq (Int.le_of_lt quota), h.period, Option.map_some,
    toNat_onlineCpus hostCpus (quotaNanos_pos_iff.mpr quota) (nanos_pos_iff.mpr period),
    toNat_nanos]

theorem toNat_cpus_of_fits (h : Holds s (some q) (some p) hostCpus) (quota : 0 < q)
    (period : 0 < p.toNat) (fits : 1000 * q ≤ maxInt64) :
    s.cpus.toNat = max 1 (min maxWord32 (q.toNat / p.toNat)) := by
  have scaled : (quotaNanos q).toNat = 1000 * q.toNat := by
    rw [quotaNanos_of_fits (Int.le_of_lt quota) fits]
    omega
  rw [h.toNat_cpus quota period, scaled, scaled_div_eq (by omega)]

theorem toNat_cpus_of_excess (h : Holds s (some q) (some p) hostCpus) (period : 0 < p.toNat)
    (excess : maxInt64 < 1000 * q) :
    s.cpus.toNat = max 1 (min maxWord32 (maxInt64 / min (1000 * p.toNat) maxWord64)) := by
  have quota : 0 < q := by
    unfold maxInt64 at excess
    omega
  rw [h.toNat_cpus quota period, quotaNanos_of_excess excess, Int.toNat_natCast]

theorem toNat_cpus_of_none (h : Holds s quota period hostCpus)
    (none : ∀ q p, quota = some q → period = some p → q ≤ 0 ∨ p.toNat = 0) :
    s.cpus.toNat = max 1 hostCpus.toNat := by
  rw [h.cpus, onlineCpus_of_none, toNat_max_one]
  intro n m kept scaled
  rw [h.period] at scaled
  obtain ⟨p, told, rfl⟩ := Option.map_eq_some_iff.mp scaled
  rcases h.quota with same | ⟨dropped, -⟩
  · rw [same] at kept
    obtain ⟨q, written, rfl⟩ := Option.map_eq_some_iff.mp kept
    have positive := quotaNanos_pos_iff (q := q)
    have positive' := nanos_pos_iff (p := p)
    have := none q p written told
    omega
  · rw [dropped] at kept
    cases kept

theorem quota_range (h : Holds s quota period hostCpus) (n : Int) (kept : s.quota = some n) :
    -(maxInt64 + 1 : Int) ≤ n ∧ n ≤ maxInt64 := by
  rcases h.quota with same | ⟨dropped, -⟩
  · rw [same] at kept
    obtain ⟨q, -, rfl⟩ := Option.map_eq_some_iff.mp kept
    exact quotaNanos_range q
  · rw [dropped] at kept
    cases kept

theorem wordCpus?_eq (h : Holds s quota period hostCpus) :
    wordCpus? (s.quota.map Int64.ofInt) s.period hostCpus = some s.cpus := by
  rw [Source.wordCpus?_eq _ _ h.quota_range, h.cpus]

end Holds

end Source

/-! ## What a detection tells -/

namespace Cli
open Source

/-- An output tells a number of microseconds, or that there is none: under a key, or on a
line with a heading. -/
def TellsMicros (key heading : String) (output : String) (micros : Option Nat) : Format → Prop
  | .json => ∃ v, Json.Value.parse output = .ok v ∧
      field? key v = some ((micros.map fun n => .integer n).getD .null)
  | .table => HasLine (heading ++ (micros.map fun n => toString n ++ "us").getD "-") output

section
variable {d : Detection} {s : CounterSample} (selected : d.selected = some s)
include selected

/-- A report tells what the detection says of the grant in use. -/
theorem tellsMicros_report (word : ∀ n, d.quotaMicros = some n → n ≤ maxWord64)
    (events : List Event) (format : Format) (colour : Bool) :
    let output := (d.report events format colour).output
    TellsMicros "quota_us" "Quota:          " output d.quotaMicros format ∧
      TellsMicros "period_us" "Period:         " output d.periodMicros format := by
  cases format with
  | json =>
      have read := (d.plain_toJson word).parse_pretty
      refine ⟨⟨d.toJson, read, ?_⟩, ⟨d.toJson, read, ?_⟩⟩ <;> simp only [field?, Detection.toJson]
      · cases d.quotaMicros <;> rfl
      · cases d.periodMicros <;> rfl
  | table =>
      have lines : ∀ text ∈ d.selectedLines colour, HasLine text (d.text colour) :=
        fun _ => d.hasLine_text colour
      rw [Detection.selectedLines, selected] at lines
      refine ⟨?_, ?_⟩
      · cases quota : d.quotaMicros <;> exact lines _ (by simp [quota, microsText])
      · cases period : d.periodMicros <;> exact lines _ (by simp [period, microsText])

section
variable {quota : Option Int} {period : Option UInt64} {hostCpus : UInt32}
  (holds : Holds s quota period hostCpus)
include holds

theorem quotaMicros_of_fits {q : Int} (told : quota = some q) (nonneg : 0 ≤ q)
    (fits : 1000 * q ≤ maxInt64) : d.quotaMicros = some q.toNat := by
  subst told
  have scaled := quotaNanos_of_fits nonneg fits
  simp only [Detection.quotaMicros, selected, holds.quota_eq nonneg, Option.bind_eq_bind,
    Option.bind_some, scaled]
  rw [if_pos (by omega)]
  congr 1
  omega

theorem quotaMicros_of_none (lacking : ∀ q, quota = some q → q < 0) : d.quotaMicros = none := by
  have negative : ∀ n, s.quota = some n → n < 0 := by
    intro n kept
    rcases holds.quota with same | ⟨dropped, -⟩
    · rw [same] at kept
      obtain ⟨q, told, rfl⟩ := Option.map_eq_some_iff.mp kept
      have := lacking q told
      unfold quotaNanos nanosPerMicro maxInt64
      omega
    · rw [dropped] at kept
      cases kept
  simp only [Detection.quotaMicros, selected, Option.bind_eq_bind, Option.bind_some]
  cases kept : s.quota with
  | none => rfl
  | some n => exact if_neg (Int.not_le.mpr (negative n kept))

theorem periodMicros_of_fits {p : UInt64} (told : period = some p)
    (fits : 1000 * p.toNat ≤ maxWord64) : d.periodMicros = some p.toNat := by
  subst told
  simp only [Detection.periodMicros, selected, holds.period, Option.bind_eq_bind, Option.map_some,
    Option.bind_some, toNat_nanos, Nat.min_eq_left fits]
  congr 1
  omega

theorem periodMicros_of_none (told : period = none) : d.periodMicros = none := by
  subst told
  simp [Detection.periodMicros, selected, holds.period]

end
end

/-- The report of a detection whose chain reads a sample. -/
theorem exists_detection {roots : Roots} {moment : Moment} {s : CounterSample}
    (room : ¬ roots.ReadsOverflow moment.files)
    (read : ((TierChain.new roots).read moment.files moment.now).1 = .ok (.ok s)) :
    ∃ (d : Detection) (events : List Event), d.selected = some s ∧
      ∀ format colour, detect roots format colour moment = .ok (d.report events format colour) := by
  cases told : tierReports roots moment with
  | error o => exact absurd ((tierReports_eq_overflow_iff o).mp told) room
  | ok rows =>
      obtain ⟨events, detected⟩ := at_of_rows told read
      exact ⟨_, events, rfl, fun format colour => by rw [detect, detected]⟩

end Cli

/-- A group under a limit, beside the statistics of a host, at a moment. -/
def momentGranting (limit statistics : String) : Moment where
  files := Files.ofTable
    [("/group/cpu.stat", .ok "usage_usec 7"), ("/group/cpu.max", .ok limit),
      ("/proc/stat", .ok statistics)]
  now := 1000
  clock := ⟨0, 0⟩

end UsageMeter
