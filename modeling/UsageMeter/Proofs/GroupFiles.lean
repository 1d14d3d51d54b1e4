import UsageMeter.Proofs.CounterFiles
import UsageMeter.Source.CgroupV1
import UsageMeter.Source.CgroupV2

/-!
# Group files

What the two control group tiers take from the files of a moment. A file that
cannot be read may be made up for: by the next directory, or by the lack of a
limit. A file that can be read is never passed over, so a malformed one makes the
reading fail, and a period belongs to the quota it stands beside.
-/

namespace UsageMeter
open UsageMeter.Kernel

namespace Files

/-- A file cannot be read. -/
def Unreadable (files : Files) (path : String) : Prop := ∃ cause, files path = .error cause

/-- The first of several directories whose file can be read, and the text of that
file. -/
inductive FirstIn (files : Files) (path : String → String) :
    List String → String → String → Prop where
  | here {d text : String} {ds : List String} (read : files (path d) = .ok text) :
      FirstIn files path (d :: ds) d text
  | later {d d' text : String} {ds : List String} (unreadable : files.Unreadable (path d'))
      (more : FirstIn files path ds d text) : FirstIn files path (d' :: ds) d text

section
variable {files : Files} {path : String → String} {ds : List String}

theorem FirstIn.read {d text : String} (first : FirstIn files path ds d text) :
    files (path d) = .ok text := by
  induction first with
  | here read => exact read
  | later _ _ ih => exact ih

theorem FirstIn.unique {d d' text text' : String} (first : FirstIn files path ds d text)
    (first' : FirstIn files path ds d' text') : d = d' ∧ text = text' := by
  induction first with
  | here read =>
      cases first' with
      | here read' =>
          rw [read] at read'
          cases read'
          exact ⟨rfl, rfl⟩
      | later unreadable more =>
          obtain ⟨cause, failed⟩ := unreadable
          rw [read] at failed
          cases failed
  | later unreadable more ih =>
      cases first' with
      | here read =>
          obtain ⟨cause, failed⟩ := unreadable
          rw [read] at failed
          cases failed
      | later _ more' => exact ih more'

theorem FirstIn.not_unreadable {d text : String} (first : FirstIn files path ds d text) :
    ¬ ∀ d' ∈ ds, files.Unreadable (path d') := by
  intro unreadable
  induction first with
  | here read =>
      obtain ⟨cause, failed⟩ := unreadable _ List.mem_cons_self
      rw [read] at failed
      cases failed
  | later _ _ ih => exact ih (List.forall_mem_cons.mp unreadable).2

/-- There is a first file that can be read, unless there is none. -/
theorem exists_firstIn_or (files : Files) (path : String → String) (ds : List String) :
    (∃ d text, FirstIn files path ds d text) ∨ ∀ d ∈ ds, files.Unreadable (path d) := by
  induction ds with
  | nil => exact .inr nofun
  | cons d ds ih =>
      cases read : files (path d) with
      | ok text => exact .inl ⟨d, text, .here read⟩
      | error cause =>
          rcases ih with ⟨d', text, first⟩ | unreadable
          · exact .inl ⟨d', text, .later ⟨cause, read⟩ first⟩
          · exact .inr (List.forall_mem_cons.mpr ⟨⟨cause, read⟩, unreadable⟩)

end

section
variable {files : Files} {α ε : Type} {path : String} {parser : String → Except ε α}
  {message : ε → String}

theorem parse_eq_ok_iff {x : α} :
    files.parse path parser message = .ok x ↔
      ∃ text, files path = .ok text ∧ parser text = .ok x := by
  unfold parse text
  cases files path with
  | error cause => simp [bind, Except.bind]
  | ok content =>
      cases parsed : parser content <;> simp [bind, Except.bind, parsed]

theorem parseIfReadable_eq_ok_iff {y : Option α} :
    files.parseIfReadable path parser message = .ok y ↔
      files.Unreadable path ∧ y = none ∨
        ∃ text x, files path = .ok text ∧ parser text = .ok x ∧ y = some x := by
  unfold parseIfReadable Unreadable
  cases files path with
  | error cause => simp [eq_comm]
  | ok content =>
      cases parsed : parser content <;> simp [parsed, eq_comm]

theorem parse_of_malformed {text : String} {e : ε} (read : files path = .ok text)
    (malformed : parser text = .error e) :
    files.parse path parser message = .error (.malformed path (message e)) := by
  simp [parse, Files.text, read, malformed, bind, Except.bind]

theorem parseIfReadable_of_malformed {text : String} {e : ε} (read : files path = .ok text)
    (malformed : parser text = .error e) :
    files.parseIfReadable path parser message = .error (.malformed path (message e)) := by
  simp [parseIfReadable, read, malformed]

end
end Files

namespace Source

/-! ## The unified tree -/

section
variable (files : Files) (root : String)

/-- The CPU time that the unified tree tells, in microseconds. -/
def UnifiedUsage (micros : UInt64) : Prop :=
  ∃ text, files (Files.join root "cpu.stat") = .ok text ∧ UsageFile text micros

/-- The limit that the unified tree tells: none if its file cannot be read. -/
inductive UnifiedLimit : Bandwidth → Prop where
  | unreadable (h : files.Unreadable (Files.join root "cpu.max")) :
      UnifiedLimit Bandwidth.unlimited
  | told {text : String} {limit : Bandwidth} (read : files (Files.join root "cpu.max") = .ok text)
      (tells : BandwidthFile text limit) : UnifiedLimit limit

/-! ## The older trees -/

/-- The CPU time that the older trees tell, in nanoseconds. -/
def AccountedUsage (nanos : UInt64) : Prop :=
  ∃ d text, files.FirstIn (usagePath root) accountingDirectories d text ∧ WordFile text nanos

/-- The period in a directory: none if its file cannot be read. -/
inductive PeriodIn (d : String) : Option UInt64 → Prop where
  | unreadable (h : files.Unreadable (periodPath root d)) : PeriodIn d none
  | told {text : String} {p : UInt64} (read : files (periodPath root d) = .ok text)
      (tells : WordFile text p) : PeriodIn d (some p)

/-- The limit that the older trees tell in one of several directories: none if no
quota can be read, else the first quota that can, unless it is negative, and the
period beside it. -/
inductive LimitIn (ds : List String) : Bandwidth → Prop where
  | unreadable (h : ∀ d ∈ ds, files.Unreadable (quotaPath root d)) : LimitIn ds Bandwidth.unlimited
  | told {d text : String} {quota : Int} {period : Option UInt64}
      (first : files.FirstIn (quotaPath root) ds d text) (tells : IntFile text quota)
      (beside : PeriodIn files root d period) :
      LimitIn ds ⟨if quota < 0 then none else some quota, period⟩

end

section
variable {files : Files} {root : String}

theorem unifiedLimit_iff {limit : Bandwidth} :
    UnifiedLimit files root limit ↔
      ∃ told, files.parseIfReadable (Files.join root "cpu.max") cpuMax CpuMaxError.message =
          .ok told ∧ told.getD Bandwidth.unlimited = limit := by
  simp only [Files.parseIfReadable_eq_ok_iff, cpuMax_eq_ok_iff]
  constructor
  · intro tells
    cases tells with
    | unreadable h => exact ⟨none, .inl ⟨h, rfl⟩, rfl⟩
    | told read tells => exact ⟨some limit, .inr ⟨_, limit, read, tells, rfl⟩, rfl⟩
  · rintro ⟨told, ⟨h, rfl⟩ | ⟨text, limit', read, tells, rfl⟩, rfl⟩
    · exact .unreadable h
    · exact .told read tells

theorem readCgroupV2_eq_ok_iff {hostCpus : UInt32} {now : UInt64} {s : CounterSample} :
    readCgroupV2 files root hostCpus now = .ok s ↔
      ∃ micros limit, UnifiedUsage files root micros ∧ UnifiedLimit files root limit ∧
        s = groupSample .cgroupV2 (nanos micros) now limit.quota limit.period hostCpus := by
  simp only [readCgroupV2, bind_eq_ok_iff, Files.parse_eq_ok_iff, cpuStatUsage_eq_ok_iff,
    unifiedLimit_iff, UnifiedUsage, Except.ok.injEq]
  constructor
  · rintro ⟨micros, usage, told, limit, rfl⟩
    exact ⟨micros, _, usage, ⟨told, limit, rfl⟩, rfl⟩
  · rintro ⟨micros, limit, usage, ⟨told, read, rfl⟩, rfl⟩
    exact ⟨micros, usage, told, read, rfl⟩

/-! ## Reading the older trees -/

theorem firstReadable_of_first {path : String → String} {d d' text : String} {ds : List String}
    (first : files.FirstIn path (d :: ds) d' text) :
    firstReadable files (path d) (ds.map path) = .ok (path d', text) := by
  induction ds generalizing d with
  | nil =>
      cases first with
      | here read => simp [firstReadable, Files.text, read, Except.map]
      | later _ more => cases more
  | cons next ds ih =>
      cases first with
      | here read => simp [firstReadable, read]
      | later unreadable more =>
          obtain ⟨cause, failed⟩ := unreadable
          rw [List.map_cons, firstReadable, failed]
          exact ih more

theorem firstReadable_of_unreadable {path : String → String} {d : String} {ds : List String}
    (unreadable : ∀ d' ∈ d :: ds, files.Unreadable (path d')) :
    ∃ e, firstReadable files (path d) (ds.map path) = .error e := by
  induction ds generalizing d with
  | nil =>
      obtain ⟨cause, failed⟩ := unreadable d List.mem_cons_self
      exact ⟨.unavailable (path d) cause, by simp [firstReadable, Files.text, failed, Except.map]⟩
  | cons next ds ih =>
      rw [List.forall_mem_cons] at unreadable
      obtain ⟨⟨cause, failed⟩, rest⟩ := unreadable
      rw [List.map_cons, firstReadable, failed]
      exact ih rest

/-- The first accounting file that can be read is the one that is read. -/
theorem readUsage_of_first {d text : String}
    (first : files.FirstIn (usagePath root) accountingDirectories d text) :
    readUsage files root = files.parse (usagePath root d) singleWord SingleValueError.message := by
  have found : firstReadable files (usagePath root "cpu,cpuacct") [usagePath root "cpuacct"] =
      .ok (usagePath root d, text) := firstReadable_of_first first
  simp only [readUsage, accountingDirectories, List.map, found, Files.parse, Files.text, first.read]
  cases read : singleWord text <;> simp [bind, Except.bind, read]

theorem readUsage_of_unreadable
    (unreadable : ∀ d ∈ accountingDirectories, files.Unreadable (usagePath root d)) :
    ∃ e, readUsage files root = .error e := by
  obtain ⟨e, failed⟩ : ∃ e, firstReadable files (usagePath root "cpu,cpuacct")
      [usagePath root "cpuacct"] = .error e := firstReadable_of_unreadable unreadable
  exact ⟨e, by simp [readUsage, accountingDirectories, failed, bind, Except.bind]⟩

theorem readUsage_eq_ok_iff {nanos : UInt64} :
    readUsage files root = .ok nanos ↔ AccountedUsage files root nanos := by
  constructor
  · intro h
    rcases files.exists_firstIn_or (usagePath root) accountingDirectories with
      ⟨d, text, first⟩ | unreadable
    · rw [readUsage_of_first first] at h
      obtain ⟨text', read, value⟩ := Files.parse_eq_ok_iff.mp h
      rw [first.read] at read
      cases read
      exact ⟨d, text, first, singleWord_eq_ok_iff.mp value⟩
    · obtain ⟨e, failed⟩ := readUsage_of_unreadable unreadable
      rw [failed] at h
      cases h
  · rintro ⟨d, text, first, tells⟩
    rw [readUsage_of_first first, Files.parse_eq_ok_iff]
    exact ⟨text, first.read, singleWord_eq_ok_iff.mpr tells⟩

theorem readBandwidth_of_unreadable {ds : List String}
    (unreadable : ∀ d ∈ ds, files.Unreadable (quotaPath root d)) :
    readBandwidth files root ds = .ok Bandwidth.unlimited := by
  induction ds with
  | nil => rfl
  | cons d ds ih =>
      rw [List.forall_mem_cons] at unreadable
      obtain ⟨⟨cause, failed⟩, rest⟩ := unreadable
      rw [readBandwidth, failed]
      exact ih rest

/-- The first quota that can be read is the one that is read, and the period is read
beside it. -/
theorem readBandwidth_of_first {ds : List String} {d text : String}
    (first : files.FirstIn (quotaPath root) ds d text) :
    readBandwidth files root ds = (do
      let quota ← files.parse (quotaPath root d) singleInt SingleValueError.message
      let period ←
        files.parseIfReadable (periodPath root d) singleWord SingleValueError.message
      .ok ⟨if quota < 0 then none else some quota, period⟩) := by
  induction first with
  | here read =>
      simp only [readBandwidth, read, Files.parse, Files.text]
      cases value : singleInt _ <;> simp [bind, Except.bind, value]
  | later unreadable more ih =>
      obtain ⟨cause, failed⟩ := unreadable
      rw [readBandwidth, failed]
      exact ih

theorem periodIn_iff {d : String} {period : Option UInt64} :
    files.parseIfReadable (periodPath root d) singleWord SingleValueError.message = .ok period ↔
      PeriodIn files root d period := by
  simp only [Files.parseIfReadable_eq_ok_iff, singleWord_eq_ok_iff]
  constructor
  · rintro (⟨h, rfl⟩ | ⟨text, p, read, tells, rfl⟩)
    · exact .unreadable h
    · exact .told read tells
  · intro told
    cases told with
    | unreadable h => exact .inl ⟨h, rfl⟩
    | told read tells => exact .inr ⟨_, _, read, tells, rfl⟩

theorem readBandwidth_eq_ok_iff {ds : List String} {limit : Bandwidth} :
    readBandwidth files root ds = .ok limit ↔ LimitIn files root ds limit := by
  constructor
  · intro h
    rcases files.exists_firstIn_or (quotaPath root) ds with ⟨d, text, first⟩ | unreadable
    · rw [readBandwidth_of_first first] at h
      obtain ⟨quota, told, h⟩ := bind_eq_ok_iff.mp h
      obtain ⟨period, beside, h⟩ := bind_eq_ok_iff.mp h
      obtain ⟨text', read, value⟩ := Files.parse_eq_ok_iff.mp told
      rw [first.read] at read
      cases read
      cases h
      exact .told first (singleInt_eq_ok_iff.mp value) (periodIn_iff.mp beside)
    · rw [readBandwidth_of_unreadable unreadable] at h
      cases h
      exact .unreadable unreadable
  · intro told
    cases told with
    | unreadable h => exact readBandwidth_of_unreadable h
    | told first tells beside =>
        rw [readBandwidth_of_first first]
        exact bind_eq_ok_iff.mpr ⟨_, Files.parse_eq_ok_iff.mpr
          ⟨_, first.read, singleInt_eq_ok_iff.mpr tells⟩,
          bind_eq_ok_iff.mpr ⟨_, periodIn_iff.mpr beside, rfl⟩⟩

theorem readCgroupV1_eq_ok_iff {hostCpus : UInt32} {now : UInt64} {s : CounterSample} :
    readCgroupV1 files root hostCpus now = .ok s ↔
      ∃ nanos limit, AccountedUsage files root nanos ∧
        LimitIn files root bandwidthDirectories limit ∧
        s = groupSample .cgroupV1 nanos now limit.quota limit.period hostCpus := by
  simp only [readCgroupV1, bind_eq_ok_iff, readUsage_eq_ok_iff, readBandwidth_eq_ok_iff,
    Except.ok.injEq]
  constructor
  · rintro ⟨nanos, usage, limit, limited, rfl⟩
    exact ⟨nanos, limit, usage, limited, rfl⟩
  · rintro ⟨nanos, limit, usage, limited, rfl⟩
    exact ⟨nanos, usage, limit, limited, rfl⟩

/-! ## Malformed files -/

/-- A file of the older trees that is to be read, can be read and is malformed, where
what is read before it is not. -/
inductive Faulty (files : Files) (root : String) : String → Prop where
  | usage {d text : String}
      (first : files.FirstIn (usagePath root) accountingDirectories d text)
      (malformed : ∀ n, ¬ WordFile text n) : Faulty files root (usagePath root d)
  | quota {nanos : UInt64} {d text : String} (usage : AccountedUsage files root nanos)
      (first : files.FirstIn (quotaPath root) bandwidthDirectories d text)
      (malformed : ∀ i, ¬ IntFile text i) : Faulty files root (quotaPath root d)
  | period {nanos : UInt64} {d text text' : String} {quota : Int}
      (usage : AccountedUsage files root nanos)
      (first : files.FirstIn (quotaPath root) bandwidthDirectories d text)
      (tells : IntFile text quota) (read : files (periodPath root d) = .ok text')
      (malformed : ∀ n, ¬ WordFile text' n) : Faulty files root (periodPath root d)

theorem exists_error_of_not_ok {ε α : Type} {x : Except ε α} (h : ∀ a, x ≠ .ok a) :
    ∃ e, x = .error e := by
  cases x with
  | ok a => exact absurd rfl (h a)
  | error e => exact ⟨e, rfl⟩

theorem singleWord_of_malformed {text : String} (malformed : ∀ n, ¬ WordFile text n) :
    ∃ e, singleWord text = .error e :=
  exists_error_of_not_ok fun n h => malformed n (singleWord_eq_ok_iff.mp h)

theorem singleInt_of_malformed {text : String} (malformed : ∀ i, ¬ IntFile text i) :
    ∃ e, singleInt text = .error e :=
  exists_error_of_not_ok fun i h => malformed i (singleInt_eq_ok_iff.mp h)

/-- A malformed file is not passed over. -/
theorem Faulty.readCgroupV1 {path : String} (faulty : Faulty files root path) (hostCpus : UInt32)
    (now : UInt64) :
    ∃ reason, readCgroupV1 files root hostCpus now = .error (.malformed path reason) := by
  cases faulty with
  | usage first malformed =>
      obtain ⟨e, wrong⟩ := singleWord_of_malformed malformed
      refine ⟨e.message, ?_⟩
      rw [Source.readCgroupV1, readUsage_of_first first, Files.parse_of_malformed first.read wrong]
      rfl
  | quota usage first malformed =>
      obtain ⟨e, wrong⟩ := singleInt_of_malformed malformed
      refine ⟨e.message, ?_⟩
      rw [Source.readCgroupV1, readUsage_eq_ok_iff.mpr usage, readBandwidth_of_first first,
        Files.parse_of_malformed first.read wrong]
      rfl
  | period usage first tells read malformed =>
      obtain ⟨e, wrong⟩ := singleWord_of_malformed malformed
      refine ⟨e.message, ?_⟩
      have quota : files.parse _ singleInt SingleValueError.message = .ok _ :=
        Files.parse_eq_ok_iff.mpr ⟨_, first.read, singleInt_eq_ok_iff.mpr tells⟩
      rw [Source.readCgroupV1, readUsage_eq_ok_iff.mpr usage, readBandwidth_of_first first, quota,
        Files.parseIfReadable_of_malformed read wrong]
      rfl

/-! ## What is taken -/

theorem LimitIn.quota_eq_none_iff {ds : List String} {limit : Bandwidth}
    (limited : LimitIn files root ds limit) :
    limit.quota = none ↔ (∀ d ∈ ds, files.Unreadable (quotaPath root d)) ∨
      ∃ d text quota, files.FirstIn (quotaPath root) ds d text ∧ IntFile text quota ∧
        quota < 0 := by
  cases limited with
  | unreadable h => exact ⟨fun _ => .inl h, fun _ => rfl⟩
  | @told d text quota period first tells beside =>
      simp only [ite_eq_left_iff, reduceCtorEq, imp_false, not_not]
      constructor
      · intro negative
        exact .inr ⟨d, text, quota, first, tells, negative⟩
      · rintro (unreadable | ⟨d', text', quota', first', tells', negative⟩)
        · exact absurd unreadable first.not_unreadable
        · obtain ⟨-, rfl⟩ := first.unique first'
          have same := singleInt_eq_ok_iff.mpr tells
          rw [singleInt_eq_ok_iff.mpr tells'] at same
          cases same
          exact negative

end
end Source
end UsageMeter
