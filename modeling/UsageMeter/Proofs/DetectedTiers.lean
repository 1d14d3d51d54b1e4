import UsageMeter.Cli.Detect
import UsageMeter.Proofs.Fallback
import UsageMeter.Proofs.GroupFiles
import UsageMeter.Proofs.PrintedJson
import UsageMeter.Proofs.PrintedLines

/-!
# Detected tiers

A detection reads every tier on its own for its rows, and a chain of tiers for its
verdict. Both see the same files, so the rows tell what the chain comes to: it takes
the first tier whose row says that it can be read, and its attempts are the rows
before that one. None of this depends on the time at which a tier is read. If the host is
read and its ticks have no room together, nothing is told at all.
-/

namespace UsageMeter
open UsageMeter.Json

namespace Source

/-! ## Readings at any time -/

/-- What a detection shows of a sample: its tier and its CPUs. -/
def shownOf (s : CounterSample) : Tier × UInt32 := (s.tier, s.cpus)

/-- What a detection shows of a reading. -/
def shown (read : Readout CounterSample) : Readout (Tier × UInt32) :=
  read.map (Except.map shownOf)

section
variable (files : Files) (root : String) (hostCpus : UInt32) (now now' : UInt64)

theorem shown_readCgroupV2 :
    (readCgroupV2 files root hostCpus now).map shownOf =
      (readCgroupV2 files root hostCpus now').map shownOf := by
  unfold readCgroupV2
  cases files.parse (Files.join root "cpu.stat") Kernel.cpuStatUsage
    Kernel.CpuStatError.message with
  | error e => rfl
  | ok usage =>
      cases files.parseIfReadable (Files.join root "cpu.max") Kernel.cpuMax
        Kernel.CpuMaxError.message <;> rfl

theorem shown_readCgroupV1 :
    (readCgroupV1 files root hostCpus now).map shownOf =
      (readCgroupV1 files root hostCpus now').map shownOf := by
  unfold readCgroupV1
  cases readUsage files root with
  | error e => rfl
  | ok usage => cases readBandwidth files root bandwidthDirectories <;> rfl

theorem shown_readProcStat :
    shown (readProcStat files root hostCpus now) =
      shown (readProcStat files root hostCpus now') := by
  unfold readProcStat
  cases files.parse (Files.join root "stat") Kernel.CpuTicks.read?
    Kernel.CpuTicksError.message with
  | error e => rfl
  | ok t =>
      dsimp only
      cases t.active <;> cases t.total <;> rfl

end

namespace Roots
variable (roots : Roots)

theorem tiers_of_fallback (fallback : roots.fallback = true) :
    roots.tiers = [.cgroupV2, .cgroupV1, .procStat] := by
  simp [tiers, fallback]

theorem tiers_of_no_fallback (fallback : roots.fallback = false) :
    roots.tiers = [.cgroupV2, .cgroupV1] := by
  simp [tiers, fallback]

/-- Every tier is tried but for the host where it may not stand in. -/
theorem mem_tiers_iff {tier : Tier} :
    tier ∈ roots.tiers ↔ ¬ (tier = .procStat ∧ roots.fallback = false) := by
  unfold Roots.tiers
  cases tier <;> cases roots.fallback <;> decide

/-- The time of a reading does not show. -/
theorem shown_readTier (files : Files) (now now' : UInt64) (tier : Tier) :
    shown (roots.readTier files now tier) = shown (roots.readTier files now' tier) := by
  cases tier with
  | cgroupV2 =>
      exact congrArg Except.ok (shown_readCgroupV2 files roots.cgroup roots.hostCpus now now')
  | cgroupV1 =>
      exact congrArg Except.ok (shown_readCgroupV1 files roots.cgroup roots.hostCpus now now')
  | procStat => exact shown_readProcStat files roots.proc roots.hostCpus now now'

/-- The host is read, and its ticks have no room together. -/
def ReadsOverflow (files : Files) : Prop :=
  roots.fallback = true ∧ HostOverflows files roots.proc

/-- Otherwise every tier that is tried gives a sample or an error. -/
theorem exists_answers {files : Files} (room : ¬ roots.ReadsOverflow files) (now : UInt64) :
    ∃ answer : Tier → Except ReadError CounterSample,
      ∀ tier ∈ roots.tiers, roots.readTier files now tier = .ok (answer tier) := by
  have each : ∀ tier, ∃ r, tier ∈ roots.tiers → roots.readTier files now tier = .ok r := by
    intro tier
    cases h : roots.readTier files now tier with
    | ok r => exact ⟨r, fun _ => rfl⟩
    | error o =>
        refine ⟨.error (.exhausted []), fun tried => absurd ?_ room⟩
        obtain ⟨rfl, host⟩ := (readTier_eq_overflow_iff o).mp h
        rw [mem_tiers_iff, not_and, Bool.not_eq_false] at tried
        exact ⟨tried rfl, host⟩
  choose answer h using each
  exact ⟨answer, h⟩

end Roots

/-- The attempts that going through tiers collects. -/
def Descent.attempts : Descent → List String
  | .found _ _ attempts => attempts
  | .exhausted attempts => attempts
  | .broken _ => []
  | .aborted _ => []

/-- A descent that fails has been through all tiers. -/
theorem DescendsTo.eq_exhausted {read : Tier → Readout CounterSample}
    {tiers : List Tier} {attempts : List String} {d : Descent}
    (h : DescendsTo read tiers attempts d)
    {e : ReadError} (failed : d.result = .ok (.error e)) : e = .exhausted d.attempts := by
  cases h with
  | found split before answered => cases failed
  | exhausted before =>
      cases failed
      rfl
  | aborted split before lost => cases failed

/-- A sample that a chain reads is the reading of its tier. -/
theorem TierChain.readTier_of_read (chain : TierChain) {files : Files} {now : UInt64}
    {s : CounterSample} (read : (chain.read files now).1 = .ok (.ok s)) :
    chain.roots.readTier files now s.tier = .ok (.ok s) := by
  have descends := chain.descendsTo_descent files now
  unfold TierChain.read at read
  generalize chain.descent files now = d at *
  cases descends with
  | found split failed answered =>
      cases read
      rwa [(Roots.sampled_of_readTier answered).tier]
  | exhausted failed => cases read
  | aborted split failed lost => cases read

/-- A reading gives a sample or an error unless a tier breaks off. -/
theorem TierChain.exists_read (chain : TierChain) {files : Files} (now : UInt64)
    (room : ¬ chain.roots.ReadsOverflow files) : ∃ read, (chain.read files now).1 = .ok read := by
  cases h : (chain.read files now).1 with
  | ok read => exact ⟨read, rfl⟩
  | error o =>
      have overflows := (chain.read_eq_overflow_iff files now o).mp h
      exact absurd ⟨overflows.fallback, overflows.host⟩ room

theorem quotaNanos_range (q : Int) :
    -(maxInt64 + 1 : Int) ≤ quotaNanos q ∧ quotaNanos q ≤ maxInt64 := by
  unfold quotaNanos maxInt64
  omega

/-- The quota of a reading has 64 bits. -/
theorem Roots.quota_le_of_readTier {roots : Roots} {files : Files} {now : UInt64} {tier : Tier}
    {s : CounterSample} (read : roots.readTier files now tier = .ok (.ok s)) (q : Int)
    (kept : s.quota = some q) : q ≤ maxInt64 := by
  have scaled : ∀ quota : Option Int, quota.map quotaNanos = some q → q ≤ maxInt64 := by
    intro quota told
    obtain ⟨n, -, rfl⟩ := Option.map_eq_some_iff.mp told
    exact (quotaNanos_range n).2
  cases tier with
  | cgroupV2 =>
      obtain ⟨micros, limit, -, -, rfl⟩ := readCgroupV2_eq_ok_iff.mp (Except.ok.inj read)
      exact scaled limit.quota kept
  | cgroupV1 =>
      obtain ⟨micros, limit, -, -, rfl⟩ := readCgroupV1_eq_ok_iff.mp (Except.ok.inj read)
      exact scaled limit.quota kept
  | procStat =>
      obtain ⟨t, active, total, -, -, -, rfl⟩ := readProcStat_eq_ok_iff.mp read
      cases kept

end Source

namespace Cli
open Source

/-! ## Rows -/

namespace TierReport

/-- The row shows a tier that can be read. -/
def isAvailable (row : TierReport) : Bool := row.status == "available"

/-- The row shows a tier that was tried and could not be read. -/
def isUnavailable (row : TierReport) : Bool := row.status == "unavailable"

/-- The tier of a row and its detail, as an attempt is written. -/
def entry (row : TierReport) : String := row.tier.name ++ ": " ++ row.detail

/-- A row shows a tier and a number of CPUs. -/
def Shows (row : TierReport) (tier : Tier) (cpus : Nat) : Prop :=
  row.tier = tier ∧ row.detail = toString cpus ++ " online CPUs"

/-- The row of what is shown of a reading. -/
def ofShown (tier : Tier) : Except ReadError (Tier × UInt32) → TierReport
  | .ok (_, cpus) => ⟨tier, "available", toString cpus.toNat ++ " online CPUs"⟩
  | .error e => ⟨tier, "unavailable", e.message⟩

/-- A row shows no more of a reading than what is shown of it. -/
theorem map_ofRead_eq (tier : Tier) (read : Readout CounterSample) :
    read.map (ofRead tier) = (shown read).map (ofShown tier) := by
  rcases read with o | (e | s) <;> rfl

@[simp] theorem tier_ofRead (tier : Tier) (read : Except ReadError CounterSample) :
    (ofRead tier read).tier = tier := by
  cases read <;> rfl

@[simp] theorem tier_disabled (tier : Tier) : (disabled tier).tier = tier := rfl

theorem status_ofRead_ne (tier : Tier) (read : Except ReadError CounterSample) :
    (ofRead tier read).status ≠ "disabled" := by
  cases read <;> simp [ofRead]

end TierReport

/-- The rows of tiers that are all read at one time are their rows at any time. -/
theorem tierReports_of_time (roots : Roots) (moment : Moment) (now : UInt64) :
    tierReports roots { moment with now } = tierReports roots moment := by
  have same : tierReport roots { moment with now } = tierReport roots moment := by
    funext tier
    unfold tierReport
    rw [TierReport.map_ofRead_eq, TierReport.map_ofRead_eq,
      roots.shown_readTier _ now moment.now]
  rw [tierReports, same]
  rfl

/-- The rows of tiers by what reading them gave. -/
def readRows (answer : Tier → Except ReadError CounterSample) (tiers : List Tier) :
    List TierReport :=
  tiers.map fun tier => .ofRead tier (answer tier)

section
variable {roots : Roots} {moment : Moment}

/-- Behind the rows of the tiers that are tried stands that of the host if it is not. -/
theorem tierReports_eq {answer : Tier → Except ReadError CounterSample}
    (answers : ∀ tier ∈ roots.tiers,
      roots.readTier moment.files moment.now tier = .ok (answer tier)) :
    tierReports roots moment =
      .ok (readRows answer roots.tiers ++
        if roots.fallback then [] else [.disabled .procStat]) := by
  have tried : ∀ tier ∈ roots.tiers,
      tierReport roots moment tier = .ok (.ofRead tier (answer tier)) := by
    intro tier mem
    rw [tierReport, if_pos mem, answers tier mem]
    rfl
  unfold tierReports Tier.all
  cases fallback : roots.fallback with
  | true =>
      have tiers := roots.tiers_of_fallback fallback
      rw [tiers] at tried ⊢
      simp [tried, readRows, pure, Except.pure, bind, Except.bind]
  | false =>
      have tiers := roots.tiers_of_no_fallback fallback
      have untried : tierReport roots moment .procStat = .ok (.disabled .procStat) := by
        simp [tierReport, tiers]
      rw [tiers] at tried ⊢
      simp [tried, untried, readRows, pure, Except.pure, bind, Except.bind]

/-- There are no rows exactly if the host is read and its ticks have no room together. -/
theorem tierReports_eq_overflow_iff (o : SumOverflow) :
    tierReports roots moment = .error o ↔ roots.ReadsOverflow moment.files := by
  constructor
  · intro lost
    by_contra room
    obtain ⟨answer, answers⟩ := roots.exists_answers room moment.now
    rw [tierReports_eq answers] at lost
    cases lost
  · rintro ⟨fallback, host⟩
    have tiers := roots.tiers_of_fallback fallback
    have lost : readProcStat moment.files roots.proc roots.hostCpus moment.now = .error o :=
      (readProcStat_eq_overflow_iff o).mpr host
    simp [tierReports, Tier.all, tierReport, tiers, lost, Roots.readTier, Except.map, bind,
      Except.bind]

end

/-- The rows of tiers, with what reading them at any time gives. -/
structure RowsAt (roots : Roots) (files : Files) (now : UInt64)
    (answer : Tier → Except ReadError CounterSample) (rows : List TierReport) : Prop where
  answers : ∀ tier ∈ roots.tiers, roots.readTier files now tier = .ok (answer tier)
  rows : rows = readRows answer roots.tiers ++
    if roots.fallback then [] else [.disabled .procStat]

theorem exists_rowsAt {roots : Roots} {moment : Moment} {rows : List TierReport}
    (told : tierReports roots moment = .ok rows) (now : UInt64) :
    ∃ answer, RowsAt roots moment.files now answer rows := by
  have room : ¬ roots.ReadsOverflow moment.files := by
    rw [← tierReports_eq_overflow_iff .mk, told]
    exact nofun
  obtain ⟨answer, answers⟩ := roots.exists_answers room now
  refine ⟨answer, answers, ?_⟩
  have then_rows : tierReports roots { moment with now } = _ := tierReports_eq answers
  rw [tierReports_of_time, told] at then_rows
  exact Except.ok.inj then_rows

namespace RowsAt
variable {roots : Roots} {files : Files} {now : UInt64}
  {answer : Tier → Except ReadError CounterSample} {rows : List TierReport}

theorem tiers (h : RowsAt roots files now answer rows) :
    rows.map TierReport.tier = [.cgroupV2, .cgroupV1, .procStat] := by
  rw [h.rows, List.map_append, readRows, List.map_map]
  unfold Roots.tiers
  cases roots.fallback <;> simp

/-- A row is that of a reading, or of the host where it may not stand in. -/
theorem cases (h : RowsAt roots files now answer rows) {row : TierReport} (mem : row ∈ rows) :
    (row.tier ∈ roots.tiers ∧ row = .ofRead row.tier (answer row.tier)) ∨
      (roots.fallback = false ∧ row = .disabled .procStat) := by
  rw [h.rows, List.mem_append] at mem
  rcases mem with read | untried
  · obtain ⟨tier, tried, rfl⟩ := List.mem_map.mp read
    rw [TierReport.tier_ofRead]
    exact .inl ⟨tried, rfl⟩
  · cases fallback : roots.fallback with
    | true => simp [fallback] at untried
    | false =>
        simp only [fallback, Bool.false_eq_true, if_false, List.mem_singleton] at untried
        exact .inr ⟨rfl, untried⟩

theorem isDisabled_iff (h : RowsAt roots files now answer rows) {row : TierReport}
    (mem : row ∈ rows) :
    row.status = "disabled" ↔ row.tier = .procStat ∧ roots.fallback = false := by
  rcases h.cases mem with ⟨tried, read⟩ | ⟨fallback, rfl⟩
  · rw [read] at tried ⊢
    rw [TierReport.tier_ofRead] at tried ⊢
    exact iff_of_false (TierReport.status_ofRead_ne _ _) (roots.mem_tiers_iff.mp tried)
  · exact iff_of_true rfl ⟨rfl, fallback⟩

theorem status (h : RowsAt roots files now answer rows) {row : TierReport} (mem : row ∈ rows) :
    row.status = "available" ∨ row.status = "unavailable" ∨ row.status = "disabled" := by
  rcases h.cases mem with ⟨-, read⟩ | ⟨-, rfl⟩
  · rw [read]
    cases answer row.tier with
    | ok s => exact .inl rfl
    | error e => exact .inr (.inl rfl)
  · exact .inr (.inr rfl)

end RowsAt

/-! ## Rows and the descent -/

theorem isUnavailable_ofRead (tier : Tier) (read : Except ReadError CounterSample) :
    (TierReport.ofRead tier read).isUnavailable = !(TierReport.ofRead tier read).isAvailable := by
  cases read <;> rfl

/-- Of the rows before the first available one, those of tiers that are not tried drop out. -/
theorem filter_takeWhile_append {rows untried : List TierReport}
    (tried : ∀ row ∈ rows, row.isUnavailable = !row.isAvailable)
    (rest : ∀ row ∈ untried, row.isUnavailable = false) :
    ((rows ++ untried).takeWhile fun row => !row.isAvailable).filter TierReport.isUnavailable =
      rows.takeWhile fun row => !row.isAvailable := by
  induction rows with
  | nil =>
      rw [List.nil_append, List.takeWhile_nil, List.filter_eq_nil_iff]
      intro row mem
      simp [rest row ((List.takeWhile_sublist _).subset mem)]
  | cons row rows ih =>
      rw [List.forall_mem_cons] at tried
      obtain ⟨head, tail⟩ := tried
      cases h : row.isAvailable <;> simp [head, h, ih tail]

section
variable {read : Tier → Readout CounterSample} {answer : Tier → Except ReadError CounterSample}
  {tiers : List Tier} (tries : ∀ tier, Tries (Sampled tier) (read tier))
  (answers : ∀ tier ∈ tiers, read tier = .ok (answer tier))
include tries answers

/-- The rows before the first available one are what a descent attempts. -/
theorem attempts_descend (attempts : List String) :
    (descend read tiers attempts).attempts = attempts ++
      ((readRows answer tiers).takeWhile fun row => !row.isAvailable).map TierReport.entry := by
  induction tiers generalizing attempts with
  | nil => simp [descend, Descent.attempts, readRows]
  | cons tier rest ih =>
      rw [List.forall_mem_cons] at answers
      obtain ⟨here, later⟩ := answers
      -- a tier that cannot be read is passed over, since no error of a tier ends the descent
      rcases tries tier with ⟨s, answered, -⟩ | ⟨e, failed, falls⟩ | ⟨o, lost⟩
      · have told : answer tier = .ok s := Except.ok.inj (here.symm.trans answered)
        simp [descend, answered, Descent.attempts, readRows, told, TierReport.ofRead,
          TierReport.isAvailable]
      · have told : answer tier = .error e := Except.ok.inj (here.symm.trans failed)
        simp only [descend, failed, if_pos falls, ih later]
        simp [readRows, told, TierReport.ofRead, TierReport.isAvailable, TierReport.entry, attempt]
      · rw [lost] at here
        cases here

/-- The first available row shows what a descent finds. -/
theorem shows_descend (attempts : List String) {r : Except ReadError CounterSample}
    (result : (descend read tiers attempts).result = .ok r) :
    Option.Rel (fun row s => row.Shows s.tier s.cpus.toNat)
      ((readRows answer tiers).find? TierReport.isAvailable) r.toOption := by
  induction tiers generalizing attempts with
  | nil =>
      cases result
      exact .none
  | cons tier rest ih =>
      rw [List.forall_mem_cons] at answers
      obtain ⟨here, later⟩ := answers
      rcases tries tier with ⟨s, answered, sampled⟩ | ⟨e, failed, falls⟩ | ⟨o, lost⟩
      · have told : answer tier = .ok s := Except.ok.inj (here.symm.trans answered)
        simp only [descend, answered] at result
        cases result
        simp only [readRows, List.map_cons, told]
        exact .some ⟨sampled.tier.symm, rfl⟩
      · have told : answer tier = .error e := Except.ok.inj (here.symm.trans failed)
        simp only [descend, failed, if_pos falls] at result
        simpa [readRows, told, TierReport.ofRead, TierReport.isAvailable] using ih later _ result
      · rw [lost] at here
        cases here

end

namespace RowsAt
variable {chain : TierChain} {files : Files} {now : UInt64}
  {answer : Tier → Except ReadError CounterSample} {rows : List TierReport}

/-- The first available row shows the sample that a chain reads. -/
theorem shows_read (h : RowsAt chain.roots files now answer rows)
    {read : Except ReadError CounterSample} (result : (chain.read files now).1 = .ok read) :
    Option.Rel (fun row s => row.Shows s.tier s.cpus.toNat)
      (rows.find? TierReport.isAvailable) read.toOption := by
  have untried : (if chain.roots.fallback then [] else [TierReport.disabled .procStat]).find?
      TierReport.isAvailable = none := by
    cases chain.roots.fallback <;> rfl
  rw [h.rows, List.find?_append, untried, Option.or_none]
  exact shows_descend (chain.roots.tries_readTier files now) h.answers [] result

/-- The attempts of a chain are the unavailable rows before the first available one. -/
theorem attempts_descent (h : RowsAt chain.roots files now answer rows) :
    (chain.descent files now).attempts =
      ((rows.takeWhile fun row => !row.isAvailable).filter
        TierReport.isUnavailable).map TierReport.entry := by
  rw [h.rows, filter_takeWhile_append]
  · exact attempts_descend (chain.roots.tries_readTier files now) h.answers []
  · intro row mem
    obtain ⟨tier, -, rfl⟩ := List.mem_map.mp mem
    exact isUnavailable_ofRead tier _
  · cases chain.roots.fallback <;> simp [TierReport.isUnavailable, TierReport.disabled]

end RowsAt

/-! ## What is printed -/

/-- The value of a field of an object. -/
def field? (key : String) : Value → Option Value
  | .object fields => (fields.find? fun f => f.1 == key).map Prod.snd
  | _ => none

/-- A value has the fields of a row. -/
structure FieldsOf (row : TierReport) (v : Value) : Prop where
  kind : field? "kind" v = some (.string row.tier.name)
  status : field? "status" v = some (.string row.status)
  detail : field? "detail" v = some (.string row.detail)

/-- The cells of a row: its tier, its status and its detail. -/
def CellsOf (colour : Bool) (row : TierReport) (cells : List String) : Prop :=
  ∃ status, Painted colour row.status status ∧ cells = [row.tier.name, status, row.detail]

/-- What an output tells of the tier in use, a tier with a number of CPUs, in lines. -/
def TellsUsed (colour : Bool) (output : String) : Option (Tier × Nat) → Prop
  | none => ∃ mark, Painted colour "⚠" mark ∧
      HasLine (mark ++ " No usable counter source on this host") output
  | some u => (∃ name, Painted colour u.1.name name ∧
      HasLine ("Active Source:  " ++ name) output) ∧
      HasLine ("Scope:          " ++ u.1.scope.name) output ∧
      HasLine ("Online CPUs:    " ++ toString u.2) output

/-- What an output tells of the tiers and of the one in use, a tier with a number of CPUs,
if there is one. -/
def Tells (colour : Bool) (rows : List TierReport) (used : Option (Tier × Nat))
    (output : String) : Format → Prop
  | .json => ∃ v tiers, Value.parse output = .ok v ∧
      field? "tiers" v = some (.array tiers) ∧ List.Forall₂ FieldsOf rows tiers ∧
      field? "active" v = some (.ofText? (used.map fun u => u.1.name)) ∧
      field? "scope" v = some (.ofText? (used.map fun u => u.1.scope.name)) ∧
      field? "online_cpus" v = some ((used.map fun u => .integer u.2).getD .null)
  | .table =>
      (∃ cells, List.Forall₂ (CellsOf colour) rows cells ∧ ShowsRows cells output) ∧
        TellsUsed colour output used

theorem painted_statusText (colour : Bool) {status : String}
    (known : status = "available" ∨ status = "unavailable" ∨ status = "disabled") :
    Painted colour status (statusText colour status) := by
  rcases known with rfl | rfl | rfl
  · exact painted_apply .green colour (by decide)
  · exact painted_apply .red colour (by decide)
  · exact painted_apply .red colour (by decide)

theorem painted_name (p : Paint) (colour : Bool) (t : Tier) :
    Painted colour t.name (p.apply colour t.name) :=
  painted_apply p colour (by cases t <;> decide)

namespace Detection
variable (d : Detection) (colour : Bool)

/-- The lines about the tier in use. -/
def selectedLines : List String :=
  match d.selected with
  | none => [Paint.boldYellow.apply colour "⚠" ++ " No usable counter source on this host"]
  | some s =>
    ["Active Source:  " ++ Paint.cyan.apply colour s.tier.name,
      "Scope:          " ++ s.tier.scope.name,
      "Quota:          " ++ microsText d.quotaMicros,
      "Period:         " ++ microsText d.periodMicros,
      "Online CPUs:    " ++ toString s.cpus.toNat,
      "Host CPUs:      " ++ toString d.hostCpus.toNat] ++
    if s.tier.isContainer then []
    else ["", Paint.boldYellow.apply colour "⚠" ++
      " Figures are host-wide, not limited to this container"]

theorem selectedText_eq :
    d.selectedText colour = linesText ((d.selectedLines colour).map String.toList) := by
  unfold selectedText selectedLines warning
  cases d.selected with
  | none =>
      simp only [line_eq, String.append_assoc]
      rfl
  | some s =>
      simp only [line_eq, linesText_append, String.append_assoc]
      cases s.tier.isContainer with
      | true => simp
      | false =>
          simp only [Bool.false_eq_true, if_false, linesText_append]
          rfl

/-- The lines of a detection. -/
def outputLines : List (List Char) :=
  [(Paint.bold.apply colour "Counter Sources").toList, List.replicate 50 '='] ++
    tableLines ["Tier", "Status", "Detail"]
      (d.tiers.map fun t => [t.tier.name, statusText colour t.status, t.detail]) ++
    [] :: (d.selectedLines colour).map String.toList

theorem text_eq : d.text colour = linesText (d.outputLines colour) := by
  simp only [text, tiersText, line_eq, tableText_eq, selectedText_eq, linesText_append, outputLines,
    String.toList_ofList]
  simp

theorem hasLine_text {s : String} (mem : s ∈ d.selectedLines colour) :
    HasLine s (d.text colour) := by
  rw [text_eq]
  refine hasLine_linesText (List.mem_append_right _ (List.mem_cons_of_mem _ ?_))
  exact List.mem_map_of_mem mem

/-- The rows of a detection stand in the lines of its table. -/
theorem showsRows_text (known : ∀ row ∈ d.tiers, row.status = "available" ∨
      row.status = "unavailable" ∨ row.status = "disabled") :
    ∃ cells, List.Forall₂ (CellsOf colour) d.tiers cells ∧ ShowsRows cells (d.text colour) := by
  refine ⟨d.tiers.map fun t => [t.tier.name, statusText colour t.status, t.detail], ?_, ?_⟩
  · rw [List.forall₂_map_right_iff, List.forall₂_same]
    exact fun row mem => ⟨_, painted_statusText colour (known row mem), rfl⟩
  · have nonempty : ∀ row ∈ d.tiers.map fun t =>
        [t.tier.name, statusText colour t.status, t.detail], row ≠ [] := by
      simp
    obtain ⟨blocks, rows, part⟩ := rowsIn_tableLines ["Tier", "Status", "Detail"] nonempty
    refine ⟨blocks, rows, ?_⟩
    rw [text_eq]
    exact hasLines_linesText
      ((part.trans (List.suffix_append _ _).isInfix).trans (List.prefix_append _ _).isInfix)

theorem tellsUsed_text :
    TellsUsed colour (d.text colour) (d.selected.map fun s => (s.tier, s.cpus.toNat)) := by
  have lines := fun s => d.hasLine_text colour (s := s)
  unfold selectedLines at lines
  cases h : d.selected with
  | none =>
      rw [h] at lines
      exact ⟨_, painted_apply .boldYellow colour (by decide), lines _ (by simp)⟩
  | some s =>
      rw [h] at lines
      exact ⟨⟨_, painted_name .cyan colour s.tier, lines _ (by simp)⟩, lines _ (by simp),
        lines _ (by simp)⟩

theorem plain_countOrNull {depth : Nat} {count : Option Nat}
    (word : ∀ n, count = some n → n ≤ maxWord64) : Plain depth (countOrNull count) := by
  cases count with
  | none => exact .null
  | some n => exact .natural (word n rfl)

theorem plain_textOrNull {depth : Nat} {α : Type} (x : Option α) (text : α → String) :
    Plain depth ((x.map fun a => Value.string (text a)).getD .null) := by
  cases x with
  | none => exact .null
  | some a => exact .string _

theorem plain_tierJson {depth : Nat} (row : TierReport) : Plain (depth + 1) (tierJson row) := by
  refine .object (by simp) ?_
  simp only [List.forall_mem_cons]
  exact ⟨.string _, .string _, .string _, nofun⟩

/-- What is written of a detection comes back from its text, if its quota has 64 bits. -/
theorem plain_toJson (word : ∀ n, d.quotaMicros = some n → n ≤ maxWord64) :
    Plain depthLimit d.toJson := by
  have period : ∀ n, d.periodMicros = some n → n ≤ maxWord64 := by
    intro n told
    simp only [periodMicros, Option.bind_eq_bind, Option.bind_eq_some_iff] at told
    obtain ⟨s, -, p, -, same⟩ := told
    cases same
    exact Nat.le_trans (Nat.div_le_self _ _) (toNat_le_maxWord64 p)
  have cpus : ∀ c : UInt32, c.toNat ≤ maxWord64 := by
    intro c
    have := c.toNat_lt
    unfold maxWord64
    omega
  show Plain (126 + 1) _
  refine .object (by simp) ?_
  simp only [List.forall_mem_cons]
  refine ⟨plain_textOrNull _ _, plain_textOrNull _ _, plain_countOrNull word,
    plain_countOrNull period, plain_countOrNull ?_, .natural (cpus _), .array ?_, nofun⟩
  · intro n told
    obtain ⟨s, -, rfl⟩ := Option.map_eq_some_iff.mp told
    exact cpus s.cpus
  · intro v mem
    obtain ⟨row, -, rfl⟩ := List.mem_map.mp mem
    exact plain_tierJson row

theorem tells_json (word : ∀ n, d.quotaMicros = some n → n ≤ maxWord64) :
    Tells colour d.tiers (d.selected.map fun s => (s.tier, s.cpus.toNat)) (jsonText d.toJson)
      .json := by
  refine ⟨d.toJson, d.tiers.map tierJson, (d.plain_toJson word).parse_pretty, rfl, ?_, ?_, ?_, ?_⟩
  · rw [List.forall₂_map_right_iff, List.forall₂_same]
    exact fun row _ => ⟨rfl, rfl, rfl⟩
  all_goals
    simp only [field?, toJson]
    cases d.selected <;> rfl

end Detection

section
variable {roots : Roots} {moment : Moment}

theorem at_of_overflow {o : SumOverflow} (lost : tierReports roots moment = .error o) :
    Detection.at roots moment = .error o := by
  rw [Detection.at, lost]
  rfl

theorem at_of_rows {rows : List TierReport} {read : Except ReadError CounterSample}
    (told : tierReports roots moment = .ok rows)
    (result : ((TierChain.new roots).read moment.files moment.now).1 = .ok read) :
    ∃ events, Detection.at roots moment = .ok (⟨read.toOption, roots.hostCpus, rows⟩, events) := by
  rw [Detection.at, told]
  refine ⟨((TierChain.new roots).read moment.files moment.now).2.2, ?_⟩
  simp only [bind, Except.bind, result]

/-- A detection breaks off, with nothing printed, exactly if the host is read and its ticks
have no room together. -/
theorem detect_eq_abort_iff (format : Format) (colour : Bool) (a : Abort) :
    detect roots format colour moment = .error a ↔
      roots.ReadsOverflow moment.files ∧ a = ⟨"", .mk⟩ := by
  unfold detect
  cases told : tierReports roots moment with
  | error o =>
      have overflow := (tierReports_eq_overflow_iff o).mp told
      rw [at_of_overflow told]
      simp [overflow, eq_comm]
  | ok rows =>
      have room : ¬ roots.ReadsOverflow moment.files := by
        rw [← tierReports_eq_overflow_iff .mk, told]
        exact nofun
      obtain ⟨read, result⟩ := (TierChain.new roots).exists_read moment.now room
      obtain ⟨events, detected⟩ := at_of_rows told result
      rw [detected]
      simp [room]

/-- A sample that was read has a quota of 64 bits in microseconds. -/
theorem quotaMicros_le {d : Detection} {s : CounterSample} (selected : d.selected = some s)
    (range : ∀ q, s.quota = some q → q ≤ maxInt64) (n : Nat) (told : d.quotaMicros = some n) :
    n ≤ maxWord64 := by
  simp only [Detection.quotaMicros, selected, Option.bind_eq_bind, Option.bind_some,
    Option.bind_eq_some_iff, Option.ite_none_right_eq_some, Option.some.injEq] at told
  obtain ⟨q, kept, -, rfl⟩ := told
  have := range q kept
  unfold maxInt64 at this
  unfold maxWord64
  omega

/-- Otherwise it reports its rows and what a reading gives. -/
theorem exists_report {rows : List TierReport} {read : Except ReadError CounterSample}
    (told : tierReports roots moment = .ok rows)
    (result : ((TierChain.new roots).read moment.files moment.now).1 = .ok read)
    (format : Format) (colour : Bool) :
    ∃ report, detect roots format colour moment = .ok report ∧
      (report.failure = none ↔ read.toOption ≠ none) ∧
      Tells colour rows (read.toOption.map fun s => (s.tier, s.cpus.toNat)) report.output
        format := by
  obtain ⟨events, detected⟩ := at_of_rows told result
  obtain ⟨answer, rowsAt⟩ := exists_rowsAt told moment.now
  let d : Detection := ⟨read.toOption, roots.hostCpus, rows⟩
  refine ⟨d.report events format colour, by rw [detect, detected], ?_, ?_⟩
  · cases read <;> simp [Detection.report, d, Except.toOption]
  · cases format with
    | table =>
        exact ⟨d.showsRows_text colour fun row mem => rowsAt.status mem, d.tellsUsed_text colour⟩
    | json =>
        refine d.tells_json colour fun n quota => ?_
        cases read with
        | error e => cases quota
        | ok s =>
            exact quotaMicros_le rfl (Roots.quota_le_of_readTier
              ((TierChain.new roots).readTier_of_read result)) n quota

end

section
variable {α β γ : Type} {R : α → β → Prop} {a : Option α} {b : Option β}

theorem eq_none_iff_of_rel (h : Option.Rel R a b) : a = none ↔ b = none := by
  cases h <;> simp

theorem rel_map_right {S : α → γ → Prop} {f : β → γ} (h : Option.Rel R a b)
    (weaken : ∀ x y, R x y → S x (f y)) : Option.Rel S a (b.map f) := by
  cases h with
  | some related => exact .some (weaken _ _ related)
  | none => exact .none

end

theorem find?_isAvailable_eq_none_iff {rows : List TierReport} :
    rows.find? TierReport.isAvailable = none ↔ ∀ row ∈ rows, row.status ≠ "available" := by
  simp [TierReport.isAvailable]

end Cli
end UsageMeter
