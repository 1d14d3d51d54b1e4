import UsageMeter.ProcessFiles
import UsageMeter.Proofs.GroupFiles
import UsageMeter.Proofs.StatusLine
import UsageMeter.Proofs.WordSums
import UsageMeter.Source.ProcStat

/-!
# Readings of ticks

The host and a process are read by adding up ticks. Such a reading gives a sample
exactly if the files can be read, tell something, and the sum of what they tell has
room; if only the room is missing, it breaks off.
-/

namespace UsageMeter
open UsageMeter.Kernel UsageMeter.Text

/-! ## The host -/

namespace Source

/-- The ticks that the statistics of the host tell. -/
def HostTicks (files : Files) (root : String) (t : CpuTicks) : Prop :=
  ∃ text, files (Files.join root "stat") = .ok text ∧ TicksFile text t

/-- The statistics of the host tell ticks whose sum has no room. -/
def HostOverflows (files : Files) (root : String) : Prop :=
  ∃ t, HostTicks files root t ∧ maxWord64 < exactSum t.passed

section
variable {files : Files} {root : String} {hostCpus : UInt32} {now : UInt64}

theorem hostTicks_iff_parse {t : CpuTicks} : HostTicks files root t ↔
    files.parse (Files.join root "stat") CpuTicks.read? CpuTicksError.message = .ok t := by
  simp only [HostTicks, ← CpuTicks.read?_eq_ok_iff, Files.parse_eq_ok_iff]

/-- The total has room only where the time worked has. -/
theorem total_of_active_error {t : CpuTicks} {o : SumOverflow} (h : t.active = .error o) :
    t.total = .error o := by
  rw [CpuTicks.total, h]
  rfl

theorem readProcStat_eq_ok_iff {s : CounterSample} :
    readProcStat files root hostCpus now = .ok (.ok s) ↔
      ∃ t active total, HostTicks files root t ∧ t.active = .ok active ∧ t.total = .ok total ∧
        s = hostSample active total hostCpus now := by
  simp only [hostTicks_iff_parse]
  unfold readProcStat
  split
  · rename_i e failed
    simp [failed]
  · rename_i t told
    simp only [told, Except.ok.injEq, existsAndEq, true_and]
    cases worked : t.active with
    | error o => simp [Except.bind]
    | ok active =>
        cases t.total with
        | error o => simp [Except.bind, Except.map]
        | ok total => simp [Except.bind, Except.map, eq_comm]

theorem readProcStat_eq_overflow_iff (o : SumOverflow) :
    readProcStat files root hostCpus now = .error o ↔ HostOverflows files root := by
  simp only [HostOverflows, hostTicks_iff_parse]
  unfold readProcStat
  split
  · rename_i e failed
    simp [failed]
  · rename_i t told
    simp only [told, Except.ok.injEq, existsAndEq, true_and, ← CpuTicks.total_eq_error_iff o]
    cases worked : t.active with
    | error o' => simp [Except.bind, total_of_active_error worked]
    | ok active => cases t.total <;> simp [Except.bind, Except.map]

end
end Source

/-! ## A process -/

/-- What the status line of a process tells. -/
def ProcessTells (files : Files) (root : String) (pid : UInt32) (stat : ProcessStat) : Prop :=
  ∃ text, files (processStatPath root pid) = .ok text ∧ StatusFile text stat

/-- What a memory file tells: its second word counts the resident pages. -/
def ResidentFile (content : String) (pages : UInt64) : Prop :=
  ∃ size token later, Spaced content.toList (size :: token :: later) ∧ WritesNat token pages.toNat

/-- What the memory file of a process tells. -/
def ResidentTells (files : Files) (root : String) (pid : UInt32) (pages : UInt64) : Prop :=
  ∃ text, files (processMemoryPath root pid) = .ok text ∧ ResidentFile text pages

section
variable {files : Files} {root : String} {pid : UInt32} {units : KernelUnits} {now : Nat}

theorem processTells_iff_parse {stat : ProcessStat} :
    ProcessTells files root pid stat ↔
      files.parse (processStatPath root pid) ProcessStat.read? ProcessStatError.message =
        .ok stat := by
  simp only [ProcessTells, ← ProcessStat.read?_eq_ok_iff, Files.parse_eq_ok_iff]

theorem residentPages_eq_ok_iff {content : String} {pages : UInt64} :
    residentPages content = .ok pages ↔ ResidentFile content pages := by
  simp only [ResidentFile, ← words_eq_iff, ← word64?_eq_ok_iff]
  unfold residentPages
  split
  · rename_i size token later cut
    simp only [cut, List.cons.injEq, existsAndEq, and_true, true_and]
    cases word64? token <;> simp
  · rename_i short
    simp only [reduceCtorEq, false_iff, not_exists, not_and]
    exact fun size token later cut => absurd cut (short size token later)

theorem residentTells_iff_parse {pages : UInt64} :
    ResidentTells files root pid pages ↔
      files.parse (processMemoryPath root pid) residentPages MemoryPagesError.message =
        .ok pages := by
  simp only [ResidentTells, ← residentPages_eq_ok_iff, Files.parse_eq_ok_iff]

theorem readProcessFiles_eq_ok_iff {stat : ProcessStat} {pages : UInt64} :
    readProcessFiles files root pid = .ok (stat, pages) ↔
      ProcessTells files root pid stat ∧ ResidentTells files root pid pages := by
  simp only [readProcessFiles, bind_eq_ok_iff, processTells_iff_parse, residentTells_iff_parse,
    Except.ok.injEq, Prod.mk.injEq]
  constructor
  · rintro ⟨_, told, _, told', rfl, rfl⟩
    exact ⟨told, told'⟩
  · rintro ⟨told, told'⟩
    exact ⟨_, told, _, told', rfl, rfl⟩

theorem readProcess_eq_ok_iff {s : ProcessSample} :
    readProcess files root units pid now = .ok (.ok s) ↔
      ∃ stat pages ticks, ProcessTells files root pid stat ∧ ResidentTells files root pid pages ∧
        ticks.toNat = stat.ticks ∧
        s = { pid, name := stat.command, cpuTime := units.nanosOfTicks ticks,
              memory := units.bytesOfPages pages, takenAt := now } := by
  unfold readProcess
  split
  · rename_i e failed
    refine iff_of_false nofun ?_
    rintro ⟨stat, pages, _, told, told', -⟩
    rw [readProcessFiles_eq_ok_iff.mpr ⟨told, told'⟩] at failed
    cases failed
  · rename_i stat pages read
    have told := readProcessFiles_eq_ok_iff.mp read
    constructor
    · intro h
      cases added : addWords stat.userTicks stat.systemTicks with
      | error o => rw [added] at h; cases h
      | ok ticks =>
          rw [added] at h
          cases h
          exact ⟨stat, pages, ticks, told.1, told.2, addWords_eq_ok_iff.mp added, rfl⟩
    · rintro ⟨stat', pages', ticks, told', told'', added, rfl⟩
      rw [readProcessFiles_eq_ok_iff.mpr ⟨told', told''⟩] at read
      cases read
      rw [addWords_eq_ok_iff.mpr added]
      rfl

theorem readProcess_eq_overflow_iff (o : SumOverflow) :
    readProcess files root units pid now = .error o ↔
      ∃ stat pages, ProcessTells files root pid stat ∧ ResidentTells files root pid pages ∧
        maxWord64 < stat.ticks := by
  unfold readProcess
  split
  · rename_i e failed
    refine iff_of_false nofun ?_
    rintro ⟨stat, pages, told, told', -⟩
    rw [readProcessFiles_eq_ok_iff.mpr ⟨told, told'⟩] at failed
    cases failed
  · rename_i stat pages read
    have told := readProcessFiles_eq_ok_iff.mp read
    have excess := addWords_eq_error_iff (a := stat.userTicks) (b := stat.systemTicks) o
    constructor
    · intro h
      refine ⟨stat, pages, told.1, told.2, excess.mp ?_⟩
      cases added : addWords stat.userTicks stat.systemTicks with
      | error o' => rfl
      | ok ticks => rw [added] at h; cases h
    · rintro ⟨stat', pages', told', told'', above⟩
      rw [readProcessFiles_eq_ok_iff.mpr ⟨told', told''⟩] at read
      cases read
      rw [excess.mpr above]
      rfl

end
end UsageMeter
