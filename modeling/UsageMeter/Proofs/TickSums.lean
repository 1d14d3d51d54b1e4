import UsageMeter.Proofs.TickReadings

/-!
# Sums of ticks

Ticks are added up as words of 64 bits, before anything is converted. As long as a sum
has room it is exact, and so is what is made of it: conversions stop at the greatest
word. A sum that has no room breaks the reading off, though its files can be read and
tell something.
-/

namespace UsageMeter
open UsageMeter.Kernel UsageMeter.Source

/-! ## Ticks of the host -/

/-- What the host's ticks come to: the time worked and the time passed are the exact
sums or, if these have no room, are not formed, and the one is part of the other. -/
structure Kernel.CpuTicks.AddedUp (t : CpuTicks) : Prop where
  active : ∀ n, t.active = .ok n ↔ n.toNat = exactSum t.worked
  total : ∀ n, t.total = .ok n ↔ n.toNat = exactSum t.passed
  active_lost : ∀ o, t.active = .error o ↔ maxWord64 < exactSum t.worked
  total_lost : ∀ o, t.total = .error o ↔ maxWord64 < exactSum t.passed
  within : ∀ a n, t.active = .ok a → t.total = .ok n → a ≤ n

theorem addedUp (t : CpuTicks) : t.AddedUp where
  active _ := CpuTicks.active_eq_ok_iff
  total _ := CpuTicks.total_eq_ok_iff
  active_lost := CpuTicks.active_eq_error_iff
  total_lost := CpuTicks.total_eq_error_iff
  within _ _ := CpuTicks.active_le_total

/-- What the host's statistics are read as: all of its time and the part it worked. -/
structure HostTold (t : CpuTicks) (hostCpus : UInt32) (now : UInt64) (s : CounterSample) :
    Prop where
  tier : s.tier = .procStat
  active : s.active.toNat = exactSum t.worked
  total : s.total.toNat = exactSum t.passed
  ungranted : s.quota = none ∧ s.period = none
  cpus : s.cpus = max hostCpus 1
  takenAt : s.takenAt = now.toNat

theorem hostTold_iff {t : CpuTicks} {hostCpus : UInt32} {now : UInt64} {s : CounterSample} :
    HostTold t hostCpus now s ↔ ∃ active total, t.active = .ok active ∧ t.total = .ok total ∧
      s = hostSample active total hostCpus now := by
  constructor
  · rintro ⟨tier, active, total, ⟨quota, period⟩, cpus, takenAt⟩
    refine ⟨s.active, s.total, CpuTicks.active_eq_ok_iff.mpr active,
      CpuTicks.total_eq_ok_iff.mpr total, ?_⟩
    rw [hostSample, ← tier, ← quota, ← period, ← cpus, ← takenAt]
  · rintro ⟨active, total, worked, passed, rfl⟩
    exact ⟨rfl, CpuTicks.active_eq_ok_iff.mp worked, CpuTicks.total_eq_ok_iff.mp passed,
      ⟨rfl, rfl⟩, rfl, rfl⟩

theorem readProcStat_eq_ok_iff_told {files : Files} {root : String} {hostCpus : UInt32}
    {now : UInt64} {s : CounterSample} :
    readProcStat files root hostCpus now = .ok (.ok s) ↔
      ∃ t, HostTicks files root t ∧ HostTold t hostCpus now s := by
  simp only [readProcStat_eq_ok_iff, hostTold_iff, exists_and_left]

/-! ## A process -/

/-- What the files of a process are read as: the exact sum of its ticks in nanoseconds
and its exact memory, both kept within 64 bits. -/
structure ProcessTold (stat : ProcessStat) (pages : UInt64) (units : KernelUnits) (pid : UInt32)
    (now : Nat) (s : ProcessSample) : Prop where
  pid : s.pid = pid
  name : s.name = stat.command
  cpuTime : s.cpuTime.toNat =
    min (stat.ticks * 1000000000 / max units.ticksPerSecond.toNat 1) maxWord64
  memory : s.memory.toNat = min (pages.toNat * units.pageSize.toNat) maxWord64
  takenAt : s.takenAt = now

theorem processTold_iff {stat : ProcessStat} {pages ticks : UInt64} {units : KernelUnits}
    {pid : UInt32} {now : Nat} {s : ProcessSample} (added : ticks.toNat = stat.ticks) :
    ProcessTold stat pages units pid now s ↔
      s = { pid, name := stat.command, cpuTime := units.nanosOfTicks ticks,
            memory := units.bytesOfPages pages, takenAt := now } := by
  have cpuTime : (units.nanosOfTicks ticks).toNat =
      min (stat.ticks * 1000000000 / max units.ticksPerSecond.toNat 1) maxWord64 := by
    rw [KernelUnits.nanosOfTicks, toNat_saturate, added]
  have memory : (units.bytesOfPages pages).toNat =
      min (pages.toNat * units.pageSize.toNat) maxWord64 := toNat_saturate _
  constructor
  · rintro ⟨rfl, name, time, bytes, rfl⟩
    rw [← cpuTime, UInt64.toNat_inj] at time
    rw [← memory, UInt64.toNat_inj] at bytes
    rw [← name, ← time, ← bytes]
  · rintro rfl
    exact ⟨rfl, rfl, cpuTime, memory, rfl⟩

theorem readProcess_eq_ok_iff_told {files : Files} {root : String} {units : KernelUnits}
    {pid : UInt32} {now : Nat} {s : ProcessSample} :
    readProcess files root units pid now = .ok (.ok s) ↔
      ∃ stat pages, ProcessTells files root pid stat ∧ ResidentTells files root pid pages ∧
        stat.ticks ≤ maxWord64 ∧ ProcessTold stat pages units pid now s := by
  rw [readProcess_eq_ok_iff]
  constructor
  · rintro ⟨stat, pages, ticks, status, memory, added, sample⟩
    exact ⟨stat, pages, status, memory, added ▸ toNat_le_maxWord64 ticks,
      (processTold_iff added).mpr sample⟩
  · rintro ⟨stat, pages, status, memory, room, told⟩
    obtain ⟨ticks, added⟩ := exists_word room
    exact ⟨stat, pages, ticks, status, memory, added, (processTold_iff added).mp told⟩

/-! ## What sums come to -/

/-- **Readings are exact while their sums have room.** A process is read exactly if its
two files can be read, tell something and its ticks in both modes have room together,
and the host exactly if its statistics can be read, tell something and all of its ticks
have room together. The time of the process, its memory and the host's counters are then
the exact ones, kept within 64 bits. If only the room is missing, the reading breaks off,
and so does every sum of the host's ticks that has no room. -/
theorem readings_exact_while_room (files : Files) (root : String) :
    (∀ units pid now s, readProcess files root units pid now = .ok (.ok s) ↔
        ∃ stat pages, ProcessTells files root pid stat ∧ ResidentTells files root pid pages ∧
          stat.ticks ≤ maxWord64 ∧ ProcessTold stat pages units pid now s) ∧
      (∀ units pid now o, readProcess files root units pid now = .error o ↔
        ∃ stat pages, ProcessTells files root pid stat ∧ ResidentTells files root pid pages ∧
          maxWord64 < stat.ticks) ∧
      (∀ hostCpus now s, readProcStat files root hostCpus now = .ok (.ok s) ↔
        ∃ t, HostTicks files root t ∧ HostTold t hostCpus now s) ∧
      (∀ hostCpus now o, readProcStat files root hostCpus now = .error o ↔
        ∃ t, HostTicks files root t ∧ maxWord64 < exactSum t.passed) ∧
      ∀ t : CpuTicks, t.AddedUp :=
  ⟨fun _ _ _ _ => readProcess_eq_ok_iff_told, fun _ _ _ => readProcess_eq_overflow_iff,
    fun _ _ _ => readProcStat_eq_ok_iff_told, fun _ _ => readProcStat_eq_overflow_iff, addedUp⟩

/-- Files that can be read and tell something, of a process and of a host that worked for
too long. No reading comes of them, and no total of the host's ticks. -/
theorem readings_lost_without_room :
    let files := Files.ofTable
      [("/proc/stat", .ok "cpu 18446744073709551615 0 0 1 0 0 0 0"),
        ("/proc/7/stat", .ok "7 (svc) S 0 0 0 0 0 0 0 0 0 0 18446744073709551615 1"),
        ("/proc/7/statm", .ok "1 1")]
    (∃ stat pages, ProcessTells files "/proc" 7 stat ∧ ResidentTells files "/proc" 7 pages ∧
        readProcess files "/proc" .common 7 0 = .error .mk) ∧
      ∃ t, HostTicks files "/proc" t ∧ t.active = .ok 18446744073709551615 ∧
        t.total = .error .mk ∧ readProcStat files "/proc" 1 0 = .error .mk := by
  refine ⟨⟨⟨"svc", 18446744073709551615, 1⟩, 1, processTells_iff_parse.mpr ?_,
    residentTells_iff_parse.mpr ?_, ?_⟩, ⟨18446744073709551615, 0, 0, 1, 0, 0, 0, 0⟩,
    hostTicks_iff_parse.mpr ?_, ?_, ?_, ?_⟩
  all_goals decide +kernel

end UsageMeter
