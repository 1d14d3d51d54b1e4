import UsageMeter.Moment
import UsageMeter.Proofs.Interval
import UsageMeter.Proofs.TickReadings
import UsageMeter.Source.Chain

/-!
# Resets through conversion

Counters are compared after they were brought to nanoseconds and kept within 64
bits. That neither makes nor hides a reset: what was counted in microseconds, in
nanoseconds or in clock ticks went backwards exactly if what is compared did. So
where an interval is measured, its subtractions are exact.
-/

namespace UsageMeter
open UsageMeter.Kernel UsageMeter.Source

/-! ## Measured and discarded intervals -/

/-- The interval between two readings is measured: its figure is given whatever was
remembered, nothing is reported, and its subtractions are exact. -/
structure Measured (prev curr : CounterSample) : Prop where
  figure : ∀ m : Meter, m.figure prev curr = Figure.ofInterval prev curr
  events : Meter.events prev curr = []
  active : (curr.active - prev.active).toNat + prev.active.toNat = curr.active.toNat
  total : (curr.total - prev.total).toNat + prev.total.toNat = curr.total.toNat

/-- The interval between two readings is discarded: the figure that was remembered is
given again, marked as degraded, and that is reported. -/
structure Discarded (prev curr : CounterSample) : Prop where
  figure : ∀ m : Meter, m.figure prev curr =
    (m.last.map fun last => { last with degraded := true }).getD (Figure.unmeasured curr)
  events : Meter.events prev curr = [.intervalDiscarded prev.tier curr.tier]

theorem toNat_sub_add_of_le {a b : UInt64} (h : a ≤ b) : (b - a).toNat + a.toNat = b.toNat := by
  rw [UInt64.toNat_sub_of_le _ _ h]
  exact Nat.sub_add_cancel h

namespace CounterSample
variable {prev curr : CounterSample}

theorem Continues.measured (h : prev.Continues curr) : Measured prev curr where
  figure m := m.figure_of_continues h
  events := if_pos ((bounds_iff prev curr).mpr h)
  active := toNat_sub_add_of_le h.2.1
  total := toNat_sub_add_of_le h.2.2

theorem discarded_of_not_continues (h : ¬ prev.Continues curr) : Discarded prev curr where
  figure m := by
    rw [Meter.figure, if_neg (mt (bounds_iff prev curr).mp h)]
    cases m.last <;> rfl
  events := if_neg (mt (bounds_iff prev curr).mp h)

theorem measured_iff_continues : Measured prev curr ↔ prev.Continues curr := by
  refine ⟨fun measured => ?_, Continues.measured⟩
  by_contra broken
  have told := measured.events
  rw [(discarded_of_not_continues broken).events] at told
  cases told

theorem discarded_iff_not_continues : Discarded prev curr ↔ ¬ prev.Continues curr := by
  refine ⟨fun discarded continues => ?_, discarded_of_not_continues⟩
  have silent := continues.measured.events
  rw [discarded.events] at silent
  cases silent

theorem measured_iff_not_discarded : Measured prev curr ↔ ¬ Discarded prev curr := by
  rw [measured_iff_continues, discarded_iff_not_continues, Classical.not_not]

/-- Where the total is the clock, the counter of the time used decides. -/
theorem discarded_iff_lt {tier : Tier} {active active' now now' : UInt64}
    (told : prev.tier = tier ∧ prev.active = active ∧ prev.total = now)
    (told' : curr.tier = tier ∧ curr.active = active' ∧ curr.total = now') (clock : now ≤ now') :
    Discarded prev curr ↔ active' < active := by
  obtain ⟨rfl, rfl, rfl⟩ := told
  obtain ⟨same, rfl, rfl⟩ := told'
  rw [discarded_iff_not_continues, Continues, ← UInt64.not_le]
  exact not_congr ⟨fun continues => continues.2.1, fun kept => ⟨same, kept, clock⟩⟩

end CounterSample

/-! ## Microseconds -/

theorem nanos_lt_nanos_iff {u u' : UInt64} (small : u'.toNat ≤ maxWord64 / 1000) :
    nanos u' < nanos u ↔ u' < u := by
  simp only [nanos, UInt64.lt_iff_toNat_lt, toNat_saturate, nanosPerMicro]
  unfold maxWord64 at *
  omega

/-! ## Clock ticks -/

/-- No counter is smaller than before. -/
def Kernel.CpuTicks.NoneDecreased (t t' : CpuTicks) : Prop :=
  List.Forall₂ (· ≤ ·) t.counters t'.counters

/-- Ticks of which none decreased are measured, and the time used is part of the time
passed. -/
theorem Kernel.CpuTicks.NoneDecreased.measured {t t' : CpuTicks} {prev curr : CounterSample}
    (kept : t.NoneDecreased t') (tier : curr.tier = prev.tier)
    (active : t.active = .ok prev.active ∧ t'.active = .ok curr.active)
    (total : t.total = .ok prev.total ∧ t'.total = .ok curr.total) :
    Measured prev curr ∧ curr.active - prev.active ≤ curr.total - prev.total := by
  simp only [CpuTicks.active_eq_ok_iff, CpuTicks.total_eq_ok_iff,
    CpuTicks.exactSum_passed] at active total
  simp only [CpuTicks.worked, exactSum, List.foldr_cons, List.foldr_nil] at active total
  simp only [CpuTicks.NoneDecreased, CpuTicks.counters, List.forall₂_cons,
    UInt64.le_iff_toNat_le] at kept
  have active_le : prev.active ≤ curr.active := by
    rw [UInt64.le_iff_toNat_le]
    omega
  have total_le : prev.total ≤ curr.total := by
    rw [UInt64.le_iff_toNat_le]
    omega
  refine ⟨CounterSample.Continues.measured ⟨tier, active_le, total_le⟩, ?_⟩
  rw [UInt64.le_iff_toNat_le, UInt64.toNat_sub_of_le _ _ active_le,
    UInt64.toNat_sub_of_le _ _ total_le]
  omega

theorem ticks_lt_ticks_iff {rate ticks ticks' : Nat} (positive : 1 ≤ rate)
    (small : rate ≤ 1000000000) :
    ticks * 1000000000 / rate < ticks' * 1000000000 / rate ↔ ticks < ticks' := by
  constructor
  · intro h
    by_contra le
    have := Nat.div_le_div_right (c := rate) (Nat.mul_le_mul_right 1000000000 (Nat.not_lt.mp le))
    omega
  · intro h
    -- one tick more is at least one nanosecond more
    calc ticks * 1000000000 / rate
        < ticks * 1000000000 / rate + 1 := Nat.lt_succ_self _
      _ = (ticks * 1000000000 + rate) / rate := (Nat.add_div_right _ positive).symm
      _ ≤ ticks' * 1000000000 / rate := Nat.div_le_div_right (by omega)

/-- The ticks of a process fit in 64 bits as nanoseconds. -/
def KernelUnits.Fits (units : KernelUnits) (stat : ProcessStat) : Prop :=
  stat.ticks * 1000000000 / units.ticksPerSecond.toNat ≤ maxWord64

instance (units : KernelUnits) (stat : ProcessStat) : Decidable (units.Fits stat) :=
  inferInstanceAs (Decidable (_ ≤ _))

theorem toNat_nanosOfTicks {units : KernelUnits} {stat : ProcessStat} {ticks : UInt64}
    (added : ticks.toNat = stat.ticks) (fits : units.Fits stat)
    (positive : 1 ≤ units.ticksPerSecond.toNat) :
    (units.nanosOfTicks ticks).toNat =
      stat.ticks * 1000000000 / units.ticksPerSecond.toNat := by
  rw [KernelUnits.nanosOfTicks, toNat_saturate, added, Nat.max_eq_left positive,
    Nat.min_eq_left fits]

/-! ## Readings of a tier and of a process -/

section
variable {files : Files} {root : String}

theorem unifiedUsage_iff_parse {u : UInt64} : UnifiedUsage files root u ↔
    files.parse (Files.join root "cpu.stat") cpuStatUsage CpuStatError.message = .ok u := by
  simp only [UnifiedUsage, ← cpuStatUsage_eq_ok_iff, Files.parse_eq_ok_iff]

theorem Source.UnifiedUsage.unique {u u' : UInt64} (h : UnifiedUsage files root u)
    (h' : UnifiedUsage files root u') : u = u' := by
  rw [unifiedUsage_iff_parse] at h h'
  exact Except.ok.inj (h.symm.trans h')

theorem Source.AccountedUsage.unique {n n' : UInt64} (h : AccountedUsage files root n)
    (h' : AccountedUsage files root n') : n = n' := by
  rw [← readUsage_eq_ok_iff] at h h'
  exact Except.ok.inj (h.symm.trans h')

end

/-- Two readings of a tier, in the order of the monotonic clock. -/
structure Successive (roots : Roots) (tier : Tier) (before after : Moment)
    (prev curr : CounterSample) : Prop where
  prev : roots.readTier before.files before.now tier = .ok (.ok prev)
  curr : roots.readTier after.files after.now tier = .ok (.ok curr)
  clock : before.now ≤ after.now

/-- Two readings of a process. -/
structure SuccessiveOf (roots : Roots) (units : KernelUnits) (pid : UInt32)
    (before after : Moment) (prev curr : ProcessSample) : Prop where
  prev : readProcess before.files roots.proc units pid before.now.toNat = .ok (.ok prev)
  curr : readProcess after.files roots.proc units pid after.now.toNat = .ok (.ok curr)

theorem readProcess_of_tells {files : Files} {root : String} {units : KernelUnits} {pid : UInt32}
    {time : Nat} {s : ProcessSample} {stat : ProcessStat}
    (read : readProcess files root units pid time = .ok (.ok s))
    (tells : ProcessTells files root pid stat) :
    s.pid = pid ∧ ∃ ticks, ticks.toNat = stat.ticks ∧ s.cpuTime = units.nanosOfTicks ticks := by
  obtain ⟨stat', pages, ticks, told, -, added, rfl⟩ := readProcess_eq_ok_iff.mp read
  rw [processTells_iff_parse] at told tells
  cases told.symm.trans tells
  exact ⟨rfl, ticks, added, rfl⟩

theorem readProcStat_of_tells {files : Files} {root : String} {hostCpus : UInt32} {now : UInt64}
    {s : CounterSample} {t : CpuTicks}
    (read : readProcStat files root hostCpus now = .ok (.ok s)) (tells : HostTicks files root t) :
    s.tier = .procStat ∧ t.active = .ok s.active ∧ t.total = .ok s.total := by
  obtain ⟨t', active, total, told, worked, passed, rfl⟩ := readProcStat_eq_ok_iff.mp read
  rw [hostTicks_iff_parse] at told tells
  cases told.symm.trans tells
  exact ⟨rfl, worked, passed⟩

theorem readCgroupV2_of_tells {files : Files} {root : String} {hostCpus : UInt32} {now : UInt64}
    {s : CounterSample} {u : UInt64} (read : readCgroupV2 files root hostCpus now = .ok s)
    (tells : UnifiedUsage files root u) :
    s.tier = .cgroupV2 ∧ s.active = nanos u ∧ s.total = now := by
  obtain ⟨micros, limit, usage, -, rfl⟩ := readCgroupV2_eq_ok_iff.mp read
  exact ⟨rfl, congrArg nanos (usage.unique tells), rfl⟩

theorem readCgroupV1_of_tells {files : Files} {root : String} {hostCpus : UInt32} {now : UInt64}
    {s : CounterSample} {n : UInt64} (read : readCgroupV1 files root hostCpus now = .ok s)
    (tells : AccountedUsage files root n) :
    s.tier = .cgroupV1 ∧ s.active = n ∧ s.total = now := by
  obtain ⟨used, limit, usage, -, rfl⟩ := readCgroupV1_eq_ok_iff.mp read
  exact ⟨rfl, usage.unique tells, rfl⟩

/-! ## Resets -/

section
variable {roots : Roots} {units : KernelUnits} {before after : Moment} {prev curr : CounterSample}

theorem Successive.discarded_iff_micros {u u' : UInt64}
    (readings : Successive roots .cgroupV2 before after prev curr)
    (usage : UnifiedUsage before.files roots.cgroup u)
    (usage' : UnifiedUsage after.files roots.cgroup u') (small : u'.toNat ≤ maxWord64 / 1000) :
    Discarded prev curr ↔ u' < u := by
  have told := readCgroupV2_of_tells (Except.ok.inj readings.prev) usage
  have told' := readCgroupV2_of_tells (Except.ok.inj readings.curr) usage'
  rw [CounterSample.discarded_iff_lt told told' readings.clock]
  exact nanos_lt_nanos_iff small

theorem Successive.discarded_iff_nanos {n n' : UInt64}
    (readings : Successive roots .cgroupV1 before after prev curr)
    (usage : AccountedUsage before.files roots.cgroup n)
    (usage' : AccountedUsage after.files roots.cgroup n') :
    Discarded prev curr ↔ n' < n :=
  CounterSample.discarded_iff_lt (readCgroupV1_of_tells (Except.ok.inj readings.prev) usage)
    (readCgroupV1_of_tells (Except.ok.inj readings.curr) usage') readings.clock

theorem Successive.measured_of_ticks {t t' : CpuTicks}
    (readings : Successive roots .procStat before after prev curr)
    (ticks : HostTicks before.files roots.proc t) (ticks' : HostTicks after.files roots.proc t')
    (kept : t.NoneDecreased t') :
    Measured prev curr ∧ curr.active - prev.active ≤ curr.total - prev.total := by
  obtain ⟨tier, active, total⟩ := readProcStat_of_tells readings.prev ticks
  obtain ⟨tier', active', total'⟩ := readProcStat_of_tells readings.curr ticks'
  exact kept.measured (tier'.trans tier.symm) ⟨active, active'⟩ ⟨total, total'⟩

theorem processUtilization_eq_none_iff {prev curr : ProcessSample} :
    processUtilization (α := Float) prev curr = none ↔ ¬ prev.Continues curr := by
  rw [← ProcessSample.isSome_processUtilization_iff]
  simp

theorem SuccessiveOf.reset_iff {pid : UInt32} {prev curr : ProcessSample} {stat stat' : ProcessStat}
    (readings : SuccessiveOf roots units pid before after prev curr)
    (positive : 1 ≤ units.ticksPerSecond.toNat) (small : units.ticksPerSecond.toNat ≤ 1000000000)
    (tells : ProcessTells before.files roots.proc pid stat)
    (tells' : ProcessTells after.files roots.proc pid stat') (fits : units.Fits stat)
    (fits' : units.Fits stat') :
    processUtilization (α := Float) prev curr = none ↔ stat'.ticks < stat.ticks := by
  obtain ⟨same, ticks, added, time⟩ := readProcess_of_tells readings.prev tells
  obtain ⟨same', ticks', added', time'⟩ := readProcess_of_tells readings.curr tells'
  rw [processUtilization_eq_none_iff, ProcessSample.Continues, same, same', time, time',
    UInt64.le_iff_toNat_le, toNat_nanosOfTicks added fits positive,
    toNat_nanosOfTicks added' fits' positive,
    ← ticks_lt_ticks_iff positive small]
  simp

end

/-- **Conversion neither makes nor hides a reset.** Of two readings of a tier in the
order of the clock, the interval is discarded exactly if the microseconds or the
nanoseconds that the group files tell decreased; for the host, whose sums have room
where it was read, it is measured if no ticks decreased, and then the time used is part
of the time passed. A process has no figure exactly if its ticks decreased. An interval
that is not discarded is measured, and wherever there is a figure, its subtractions are
exact. -/
theorem conversion_keeps_resets (roots : Roots) (units : KernelUnits) (before after : Moment) :
    (∀ prev curr u u', Successive roots .cgroupV2 before after prev curr →
        UnifiedUsage before.files roots.cgroup u → UnifiedUsage after.files roots.cgroup u' →
        u'.toNat ≤ maxWord64 / 1000 →
        (Discarded prev curr ↔ u' < u)) ∧
      (∀ prev curr n n', Successive roots .cgroupV1 before after prev curr →
        AccountedUsage before.files roots.cgroup n → AccountedUsage after.files roots.cgroup n' →
        (Discarded prev curr ↔ n' < n)) ∧
      (∀ prev curr t t', Successive roots .procStat before after prev curr →
        HostTicks before.files roots.proc t → HostTicks after.files roots.proc t' →
        t.NoneDecreased t' →
        Measured prev curr ∧ curr.active - prev.active ≤ curr.total - prev.total) ∧
      (∀ pid prev curr stat stat', SuccessiveOf roots units pid before after prev curr →
        1 ≤ units.ticksPerSecond.toNat → units.ticksPerSecond.toNat ≤ 1000000000 →
        ProcessTells before.files roots.proc pid stat →
        ProcessTells after.files roots.proc pid stat' → units.Fits stat → units.Fits stat' →
        (processUtilization (α := Float) prev curr = none ↔ stat'.ticks < stat.ticks)) ∧
      (∀ prev curr : CounterSample, Measured prev curr ↔ ¬ Discarded prev curr) ∧
      ∀ prev curr : ProcessSample, processUtilization (α := Float) prev curr ≠ none →
        (curr.cpuTime - prev.cpuTime).toNat + prev.cpuTime.toNat = curr.cpuTime.toNat := by
  refine ⟨fun _ _ _ _ readings usage usage' small =>
      readings.discarded_iff_micros usage usage' small,
    fun _ _ _ _ readings usage usage' => readings.discarded_iff_nanos usage usage',
    fun _ _ _ _ readings ticks ticks' kept => readings.measured_of_ticks ticks ticks' kept,
    fun _ _ _ _ _ readings positive small tells tells' fits fits' =>
      readings.reset_iff positive small tells tells' fits fits',
    fun _ _ => CounterSample.measured_iff_not_discarded, ?_⟩
  intro prev curr figure
  rw [Ne, processUtilization_eq_none_iff, Classical.not_not] at figure
  exact toNat_sub_add_of_le figure.2

/-- A group under either kind of tree, a host and a process that all tell one count, at a
moment. -/
def momentTelling (count : String) (now : UInt64) : Moment where
  files := Files.ofTable
    [("/group/cpu.stat", .ok ("usage_usec " ++ count)),
      ("/group/cpu,cpuacct/cpuacct.usage", .ok count),
      ("/proc/stat", .ok ("cpu " ++ count ++ " 0 0 9 0 0 0 0")),
      ("/proc/1/stat", .ok ("1 (a) S 0 0 0 0 0 0 0 0 0 0 " ++ count ++ " 5")),
      ("/proc/1/statm", .ok "1 1")]
  now := now
  clock := ⟨0, 0⟩

theorem conversion_keeps_resets_of_three_counts :
    let roots : Roots := ⟨"/group", "/proc", true, 1⟩
    let first := momentTelling "7" 1000
    let lower := momentTelling "5" 2000
    let higher := momentTelling "9" 3000
    (∃ prev curr, Successive roots .cgroupV2 first lower prev curr ∧ Discarded prev curr) ∧
      (∃ prev curr, Successive roots .cgroupV2 lower higher prev curr ∧ Measured prev curr) ∧
      (∃ prev curr, Successive roots .cgroupV1 first lower prev curr ∧ Discarded prev curr) ∧
      (∃ prev curr, Successive roots .cgroupV1 lower higher prev curr ∧ Measured prev curr) ∧
      (∃ prev curr, Successive roots .procStat lower higher prev curr ∧ Measured prev curr ∧
        curr.active - prev.active ≤ curr.total - prev.total) ∧
      (∃ prev curr, SuccessiveOf roots .common 1 first lower prev curr ∧
        processUtilization (α := Float) prev curr = none) ∧
      ∃ prev curr, SuccessiveOf roots .common 1 lower higher prev curr ∧
        processUtilization (α := Float) prev curr ≠ none := by
  intro roots first lower higher
  obtain ⟨micros, nanos, -, process, -, -⟩ :=
    conversion_keeps_resets roots .common first lower
  obtain ⟨micros', nanos', ticks', process', measured', -⟩ :=
    conversion_keeps_resets roots .common lower higher
  refine ⟨?_, ?_, ?_, ?_, ?_, ?_, ?_⟩
  · have readings : Successive roots .cgroupV2 first lower
        (groupSample .cgroupV2 (Source.nanos 7) 1000 none none 1)
        (groupSample .cgroupV2 (Source.nanos 5) 2000 none none 1) :=
      ⟨by decide +kernel, by decide +kernel, by decide⟩
    exact ⟨_, _, readings, (micros _ _ 7 5 readings
      (unifiedUsage_iff_parse.mpr (by decide +kernel))
      (unifiedUsage_iff_parse.mpr (by decide +kernel)) (by decide)).mpr (by decide)⟩
  · have readings : Successive roots .cgroupV2 lower higher
        (groupSample .cgroupV2 (Source.nanos 5) 2000 none none 1)
        (groupSample .cgroupV2 (Source.nanos 9) 3000 none none 1) :=
      ⟨by decide +kernel, by decide +kernel, by decide⟩
    refine ⟨_, _, readings, (measured' _ _).mpr fun discarded => ?_⟩
    exact absurd ((micros' _ _ 5 9 readings
      (unifiedUsage_iff_parse.mpr (by decide +kernel))
      (unifiedUsage_iff_parse.mpr (by decide +kernel)) (by decide)).mp discarded) (by decide)
  · have readings : Successive roots .cgroupV1 first lower
        (groupSample .cgroupV1 7 1000 none none 1) (groupSample .cgroupV1 5 2000 none none 1) :=
      ⟨by decide +kernel, by decide +kernel, by decide⟩
    exact ⟨_, _, readings, (nanos _ _ 7 5 readings
      (readUsage_eq_ok_iff.mp (by decide +kernel))
      (readUsage_eq_ok_iff.mp (by decide +kernel))).mpr (by decide)⟩
  · have readings : Successive roots .cgroupV1 lower higher
        (groupSample .cgroupV1 5 2000 none none 1) (groupSample .cgroupV1 9 3000 none none 1) :=
      ⟨by decide +kernel, by decide +kernel, by decide⟩
    refine ⟨_, _, readings, (measured' _ _).mpr fun discarded => ?_⟩
    exact absurd ((nanos' _ _ 5 9 readings
      (readUsage_eq_ok_iff.mp (by decide +kernel))
      (readUsage_eq_ok_iff.mp (by decide +kernel))).mp discarded) (by decide)
  · have readings : Successive roots .procStat lower higher
        (hostSample 5 14 1 2000) (hostSample 9 18 1 3000) :=
      ⟨by decide +kernel, by decide +kernel, by decide⟩
    exact ⟨_, _, readings, ticks' _ _ ⟨5, 0, 0, 9, 0, 0, 0, 0⟩ ⟨9, 0, 0, 9, 0, 0, 0, 0⟩ readings
      (hostTicks_iff_parse.mpr (by decide +kernel))
      (hostTicks_iff_parse.mpr (by decide +kernel)) (by simp [CpuTicks.NoneDecreased,
        CpuTicks.counters])⟩
  · have readings : SuccessiveOf roots .common 1 first lower
        ⟨1, "a", 120000000, 4096, 1000⟩ ⟨1, "a", 100000000, 4096, 2000⟩ :=
      ⟨by decide +kernel, by decide +kernel⟩
    exact ⟨_, _, readings, (process 1 _ _ ⟨"a", 7, 5⟩ ⟨"a", 5, 5⟩ readings (by decide) (by decide)
      (processTells_iff_parse.mpr (by decide +kernel))
      (processTells_iff_parse.mpr (by decide +kernel)) (by decide) (by decide)).mpr (by decide)⟩
  · have readings : SuccessiveOf roots .common 1 lower higher
        ⟨1, "a", 100000000, 4096, 2000⟩ ⟨1, "a", 140000000, 4096, 3000⟩ :=
      ⟨by decide +kernel, by decide +kernel⟩
    refine ⟨_, _, readings, fun lost => ?_⟩
    exact absurd ((process' 1 _ _ ⟨"a", 5, 5⟩ ⟨"a", 9, 5⟩ readings (by decide) (by decide)
      (processTells_iff_parse.mpr (by decide +kernel))
      (processTells_iff_parse.mpr (by decide +kernel)) (by decide) (by decide)).mp lost) (by decide)

end UsageMeter
