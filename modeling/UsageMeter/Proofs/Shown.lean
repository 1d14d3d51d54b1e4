import UsageMeter.Proofs.Outcome

/-!
# What the store shows

After any sequence of refreshes from a new refresher, each figure of the latest
snapshot is that of the history of readings: the container's is the last
interval's, the process's that of its last two readings that can be compared,
and all else is as it was read last.
-/

namespace UsageMeter
open UsageMeter.Time

/-! ## The container's figure follows the meter -/

namespace Refresher

/-- **The figure invariant** of a refresher that started with the snapshot
`start` and no reading: the container's figure is the meter's last. Until the
meter has one, the percentage is that at the start, and the tier is that of the
counters that were read first. -/
structure ShowsMeter (start : Snapshot) (r : Refresher) : Prop where
  percent : r.store.latest.cpuPercent =
    (r.meter.last.map Figure.percent).getD start.cpuPercent
  tier : r.store.latest.tier = (r.meter.last.map Figure.basis).or
    ((r.previousCounters.map CounterSample.tier).or start.tier)
  unprimed : r.previousCounters = none → r.meter.last = none

theorem ShowsMeter.new (settings : RefresherSettings) (store : Store) :
    ShowsMeter store.latest (Refresher.new settings store) :=
  ⟨rfl, rfl, fun _ => rfl⟩

/-- A refresh keeps the figure invariant. -/
theorem ShowsMeter.refresh {start : Snapshot} {r : Refresher} (h : ShowsMeter start r)
    (x : Reading) : ShowsMeter start (r.refresh x) := by
  have held := previousCounters_refresh r x
  rcases container_refresh r x with
    ⟨prev, curr, -, read, meter, percent, tier⟩ | ⟨unmeasured, meter, percent, tier⟩
  · refine ⟨?_, ?_, ?_⟩
    · rw [percent, meter]; rfl
    · rw [tier, meter]; rfl
    · rw [held, read]; intro h; cases h
  · refine ⟨?_, ?_, ?_⟩
    · rw [percent, meter]; exact h.percent
    · rw [tier, meter, held, h.tier]
      rcases unmeasured with first | failed
      · -- counters without any before them only prime, so the meter has nothing to repeat
        rw [h.unprimed first, first]
        cases x.counters <;> rfl
      · rw [failed]
        rfl
    · rw [held, meter, Option.or_eq_none_iff]
      exact fun unread => h.unprimed unread.2

theorem ShowsMeter.refreshAll {start : Snapshot} {r : Refresher} (h : ShowsMeter start r)
    (ticks : List Reading) : ShowsMeter start (r.refreshAll ticks) := by
  induction ticks generalizing r with
  | nil => exact h
  | cons x xs ih => exact ih (h.refresh x)

/-- The percentage shown is that of the last interval. -/
theorem cpuPercent_refreshAll_new (settings : RefresherSettings) (store : Store)
    (ticks : List Reading) :
    ((Refresher.new settings store).refreshAll ticks).store.latest.cpuPercent =
      ((Meter.recalled (neighbours (counterSamples ticks))).map Figure.percent).getD
        store.latest.cpuPercent := by
  rw [((ShowsMeter.new settings store).refreshAll ticks).percent, meter_refreshAll,
    ← Meter.map_last_measureAll_new Figure.percent (fun _ => rfl)]
  rfl

/-- The tier shown is that of the last interval and, while there is none, that
of the second counters or of the first. -/
theorem tier_refreshAll_new (settings : RefresherSettings) (store : Store)
    (ticks : List Reading) :
    ((Refresher.new settings store).refreshAll ticks).store.latest.tier =
      ((Meter.recalled (neighbours (counterSamples ticks))).map Figure.basis).or
        (((counterSamples ticks).getLast?.map CounterSample.tier).or store.latest.tier) := by
  have held : (new settings store).previousCounters = none := rfl
  rw [((ShowsMeter.new settings store).refreshAll ticks).tier, meter_refreshAll,
    previousCounters_refreshAll, held, Option.or_none,
    ← Meter.map_last_measureAll_new Figure.basis (fun _ => rfl)]
  rfl

end Refresher

/-! ## The snapshot of a history -/

/-- The container's half of a snapshot is what the readings say, however many
of them failed, were reset or changed their tier. -/
structure Snapshot.ShowsCounters (s : Snapshot) (hostCpus : UInt32) (ticks : List Reading) :
    Prop where
  /-- Without counters the figures are the initial ones. -/
  unread : counterSamples ticks = [] →
    s.cpuPercent = Float.ofNat 0 ∧ s.tier = none ∧ s.updatedAt = none ∧ s.cpus = hostCpus
  /-- The number of CPUs and the time are those of the last tick with counters. -/
  newest : ∀ before x after curr, ticks = before ++ x :: after → x.counters = .ok curr →
    counterSamples after = [] → s.cpus = curr.cpus ∧ s.updatedAt = some x.now
  /-- The percentage and the tier are those of the last interval. -/
  measured : ∀ prev curr,
    LastNeighbours CounterSample.Continues (counterSamples ticks) prev curr →
    s.cpuPercent = utilization (curr.active - prev.active) (curr.total - prev.total)
      curr.cpus curr.tier ∧ s.tier = some curr.tier
  /-- Without an interval nothing was used, by the tier of the second counters
  or, where there is no second, of the first. -/
  unmeasured : NoNeighbours CounterSample.Continues (counterSamples ticks) →
    s.cpuPercent = Float.ofNat 0 ∧
      s.tier = ((counterSamples ticks)[1]?.or (counterSamples ticks)[0]?).map CounterSample.tier

/-- The half of a snapshot that is about the process is what the readings say. -/
structure Snapshot.ShowsProcess (s : Snapshot) (pid : UInt32) (ticks : List Reading) :
    Prop where
  /-- Without a reading of the process the figures are the initial ones. -/
  unread : processSamples ticks = [] →
    s.pid = pid ∧ s.processName = "" ∧ s.processMemory = 0 ∧ s.processCpuPercent = Float.ofNat 0
  /-- The process is shown as it was read last. -/
  newest : ∀ curr, (processSamples ticks).getLast? = some curr →
    s.pid = curr.pid ∧ s.processName = curr.name ∧ s.processMemory = curr.memory
  /-- The percentage is that of the last successive readings to be compared. -/
  measured : ∀ prev curr,
    LastNeighbours ProcessSample.Continues (processSamples ticks) prev curr →
    processUtilization prev curr = some s.processCpuPercent
  /-- Without such readings nothing was used. -/
  unmeasured : NoNeighbours ProcessSample.Continues (processSamples ticks) →
    s.processCpuPercent = Float.ofNat 0

namespace Refresher

section
variable (settings : RefresherSettings) (pid hostCpus : UInt32) (ticks : List Reading)

theorem latest_showsCounters :
    ((new settings (Store.new (Snapshot.initial pid hostCpus))).refreshAll
      ticks).store.latest.ShowsCounters hostCpus ticks := by
  have percent :=
    cpuPercent_refreshAll_new settings (Store.new (Snapshot.initial pid hostCpus)) ticks
  have tier := tier_refreshAll_new settings (Store.new (Snapshot.initial pid hostCpus)) ticks
  have cpus := (new settings (Store.new (Snapshot.initial pid hostCpus))).cpus_refreshAll ticks
  have updatedAt :=
    (new settings (Store.new (Snapshot.initial pid hostCpus))).updatedAt_refreshAll ticks
  refine ⟨?_, ?_, ?_, ?_⟩
  · intro none_read
    have never := (countersReadAt_eq_none_iff ticks).mpr none_read
    rw [none_read] at percent tier cpus
    rw [never] at updatedAt
    exact ⟨percent, tier, updatedAt, cpus⟩
  · intro before x after curr split read quiet
    have last : (counterSamples ticks).getLast? = some curr := by
      rw [split, counterSamples_append, counterSamples_cons, read, quiet]
      simp [Except.toOption]
    have time : countersReadAt ticks = some x.now := by
      rw [split, List.append_cons, countersReadAt_append, countersReadAt_append,
        (countersReadAt_eq_none_iff after).mpr quiet, countersReadAt_singleton, read]
      rfl
    rw [last] at cpus
    rw [time] at updatedAt
    exact ⟨cpus, updatedAt⟩
  · intro prev curr last
    rw [Meter.recalled_of_lastNeighbours last] at percent tier
    exact ⟨percent, tier⟩
  · intro none_bounded
    rw [Meter.recalled_of_noNeighbours none_bounded] at percent tier
    generalize counterSamples ticks = cs at percent tier ⊢
    rcases cs with _ | ⟨first, _ | ⟨second, rest⟩⟩ <;> exact ⟨percent, tier⟩

theorem latest_showsProcess :
    ((new settings (Store.new (Snapshot.initial pid hostCpus))).refreshAll
      ticks).store.latest.ShowsProcess pid ticks := by
  obtain ⟨hpid, hname, hmemory⟩ :=
    (new settings (Store.new (Snapshot.initial pid hostCpus))).process_refreshAll ticks
  have percent :=
    (new settings (Store.new (Snapshot.initial pid hostCpus))).processCpuPercent_refreshAll ticks
  have incomparable : ∀ a b : ProcessSample, ¬ a.Continues b →
      processUtilization (α := Float) a b = none := by
    intro a b h
    rw [← ProcessSample.isSome_processUtilization_iff] at h
    simpa using h
  refine ⟨?_, ?_, ?_, ?_⟩
  · intro none_read
    rw [none_read] at hpid hname hmemory percent
    exact ⟨hpid, hname, hmemory, percent⟩
  · intro curr last
    rw [last] at hpid hname hmemory
    exact ⟨hpid, hname, hmemory⟩
  · intro prev curr last
    obtain ⟨v, hv⟩ := Option.isSome_iff_exists.mp
      ((ProcessSample.isSome_processUtilization_iff prev curr).mpr last.related)
    have found := last.lastValue? incomparable hv
    rw [percent, hv]
    exact congrArg some (congrArg (Option.getD · _) found).symm
  · intro none_comparable
    have found := none_comparable.lastValue? incomparable
    rw [percent]
    exact congrArg (Option.getD · _) found

/-- The flag is clear exactly if the last tick was fresh. -/
theorem degraded_refreshAll_new (store : Store) (start : store.latest.degraded = true) :
    ((new settings store).refreshAll ticks).store.latest.degraded = false ↔
      ∃ before x, ticks = before ++ [x] ∧
        x.Fresh (counterSamples before).getLast? (processSamples before).getLast? := by
  rcases List.eq_nil_or_concat ticks with rfl | ⟨before, x, rfl⟩
  · simp [new, start]
  · rw [List.concat_eq_append, refreshAll_concat, latest_refresh, degraded_nextSnapshot_iff,
      previousCounters_refreshAll, previousProcess_refreshAll]
    simp [new]

end

/-- **The store shows the history of readings.** However readings fail, are
reset or change their tier, the snapshot that refreshes from a new refresher
leave behind is the one that the readings tell. -/
theorem latest_shows_history (settings : RefresherSettings) (pid hostCpus : UInt32)
    (ticks : List Reading) :
    let s := ((Refresher.new settings
      (Store.new (Snapshot.initial pid hostCpus))).refreshAll ticks).store.latest
    Snapshot.ShowsCounters s hostCpus ticks ∧ Snapshot.ShowsProcess s pid ticks ∧
      (s.degraded = false ↔ ∃ before x, ticks = before ++ [x] ∧
        Reading.Fresh (counterSamples before).getLast? (processSamples before).getLast? x) :=
  ⟨latest_showsCounters settings pid hostCpus ticks,
    latest_showsProcess settings pid hostCpus ticks,
    degraded_refreshAll_new settings ticks (Store.new (Snapshot.initial pid hostCpus)) rfl⟩

end Refresher

end UsageMeter
