import UsageMeter.Proofs.History

/-!
# Refreshes

What one refresh does to each field of the snapshot, and what a sequence of
refreshes has made of a refresher: the samples it remembers, its meter and the
snapshot it has published. Nothing is assumed about the refresher at the
start, so the statements hold of one that is new, used or stopped.
-/

namespace UsageMeter
open UsageMeter.Time
namespace Refresher

/-! ## The two halves of a refresh -/

section
variable (r : Refresher) (x : Reading)

/-- The latest snapshot with the counters of a reading in it, if it has any. -/
def afterCounters : Snapshot :=
  match x.counters with
  | .ok curr => { r.withCounters curr r.store.latest with updatedAt := some x.now }
  | .error _ => r.store.latest

/-- A snapshot with the process of a reading in it, if it has one. -/
def afterProcess (s : Snapshot) : Snapshot :=
  match x.process with
  | .ok curr => r.withProcess curr s
  | .error _ => s

/-- A refresh reads the counters, then the process, and judges both. Two
failures need no case of their own: they carry everything over. -/
theorem nextSnapshot_eq :
    r.nextSnapshot x =
      { r.afterProcess x (r.afterCounters x) with
        degraded := r.countersDegraded x.counters || r.processDegraded x.process } := by
  unfold nextSnapshot afterProcess afterCounters
  cases x.counters <;> cases x.process <;> rfl

/-- Reading the process leaves the container's figures alone. -/
theorem afterProcess_container (s : Snapshot) :
    (r.afterProcess x s).cpuPercent = s.cpuPercent ∧ (r.afterProcess x s).tier = s.tier ∧
      (r.afterProcess x s).cpus = s.cpus ∧ (r.afterProcess x s).updatedAt = s.updatedAt := by
  unfold afterProcess withProcess
  cases x.process with
  | error e => exact ⟨rfl, rfl, rfl, rfl⟩
  | ok curr =>
      simp only
      split <;> exact ⟨rfl, rfl, rfl, rfl⟩

/-- Reading the counters leaves the figures of the process alone. -/
theorem afterCounters_process :
    (r.afterCounters x).pid = r.store.latest.pid ∧
      (r.afterCounters x).processName = r.store.latest.processName ∧
      (r.afterCounters x).processMemory = r.store.latest.processMemory ∧
      (r.afterCounters x).processCpuPercent = r.store.latest.processCpuPercent := by
  unfold afterCounters withCounters
  cases x.counters with
  | error e => exact ⟨rfl, rfl, rfl, rfl⟩
  | ok curr => cases r.previousCounters <;> exact ⟨rfl, rfl, rfl, rfl⟩

/-! ## The next snapshot, field by field -/

theorem cpus_nextSnapshot :
    (r.nextSnapshot x).cpus =
      (x.counters.toOption.map CounterSample.cpus).getD r.store.latest.cpus := by
  rw [nextSnapshot_eq, (r.afterProcess_container x _).2.2.1, afterCounters]
  cases x.counters with
  | error e => rfl
  | ok curr => unfold withCounters; cases r.previousCounters <;> rfl

theorem updatedAt_nextSnapshot :
    (r.nextSnapshot x).updatedAt =
      (x.counters.toOption.map fun _ => x.now).or r.store.latest.updatedAt := by
  rw [nextSnapshot_eq, (r.afterProcess_container x _).2.2.2, afterCounters]
  cases x.counters <;> rfl

/-- A refresh without counters leaves the container's percentage alone, and so
does one whose counters have none before them. -/
theorem cpuPercent_nextSnapshot :
    (r.nextSnapshot x).cpuPercent =
      match x.counters, r.previousCounters with
      | .ok curr, some prev => (r.meter.figure prev curr).percent
      | _, _ => r.store.latest.cpuPercent := by
  rw [nextSnapshot_eq, (r.afterProcess_container x _).1, afterCounters]
  cases x.counters with
  | error e => rfl
  | ok curr => unfold withCounters; cases r.previousCounters <;> rfl

theorem tier_nextSnapshot :
    (r.nextSnapshot x).tier =
      match x.counters, r.previousCounters with
      | .ok curr, some prev => some (r.meter.figure prev curr).basis
      | .ok curr, none => some curr.tier
      | .error _, _ => r.store.latest.tier := by
  rw [nextSnapshot_eq, (r.afterProcess_container x _).2.1, afterCounters]
  cases x.counters with
  | error e => rfl
  | ok curr => unfold withCounters; cases r.previousCounters <;> rfl

/-- A process that was read is shown as it was read, any other as before. -/
theorem process_nextSnapshot :
    (r.nextSnapshot x).pid =
        (x.process.toOption.map ProcessSample.pid).getD r.store.latest.pid ∧
      (r.nextSnapshot x).processName =
        (x.process.toOption.map ProcessSample.name).getD r.store.latest.processName ∧
      (r.nextSnapshot x).processMemory =
        (x.process.toOption.map ProcessSample.memory).getD r.store.latest.processMemory := by
  obtain ⟨hpid, hname, hmemory, -⟩ := r.afterCounters_process x
  rw [nextSnapshot_eq, ← hpid, ← hname, ← hmemory, afterProcess]
  cases x.process with
  | error e => exact ⟨rfl, rfl, rfl⟩
  | ok curr =>
      simp only [withProcess]
      split <;> exact ⟨rfl, rfl, rfl⟩

/-- The percentage of a process is replaced only by that of two readings of it. -/
theorem processCpuPercent_nextSnapshot :
    (r.nextSnapshot x).processCpuPercent =
      (x.process.toOption.bind fun curr =>
        r.previousProcess.bind fun prev => processUtilization prev curr).getD
        r.store.latest.processCpuPercent := by
  rw [nextSnapshot_eq, ← (r.afterCounters_process x).2.2.2, afterProcess]
  cases x.process with
  | error e => rfl
  | ok curr =>
      simp only [withProcess, Except.toOption, Option.bind_some]
      split <;> rename_i h <;> rw [h] <;> rfl

theorem degraded_nextSnapshot :
    (r.nextSnapshot x).degraded =
      (r.countersDegraded x.counters || r.processDegraded x.process) := by
  rw [nextSnapshot_eq]

end

/-! ## What a refresh remembers -/

theorem previousCounters_refresh (r : Refresher) (x : Reading) :
    (r.refresh x).previousCounters = x.counters.toOption.or r.previousCounters :=
  Option.orElse_eq_or

theorem previousProcess_refresh (r : Refresher) (x : Reading) :
    (r.refresh x).previousProcess = x.process.toOption.or r.previousProcess :=
  Option.orElse_eq_or

/-- Counters that were read take the place of whatever was held. -/
theorem previousCounters_refresh_of_ok (r : Refresher) {x : Reading} {curr : CounterSample}
    (read : x.counters = .ok curr) : (r.refresh x).previousCounters = some curr := by
  rw [previousCounters_refresh, read]
  rfl

/-- A process that was read takes the place of whatever was held. -/
theorem previousProcess_refresh_of_ok (r : Refresher) {x : Reading} {curr : ProcessSample}
    (read : x.process = .ok curr) : (r.refresh x).previousProcess = some curr := by
  rw [previousProcess_refresh, read]
  rfl

/-- Of the counters that come one after the other, a refresh has the pair that it
completes; the others are those of what follows it. -/
theorem neighbours_held_append (r : Refresher) (x : Reading) (cs : List CounterSample) :
    neighbours (r.previousCounters.toList ++ (x.counters.toOption.toList ++ cs)) =
      neighbours (r.previousCounters.toList ++ x.counters.toOption.toList) ++
        neighbours ((r.refresh x).previousCounters.toList ++ cs) := by
  rw [previousCounters_refresh]
  cases x.counters with
  | error e => cases r.previousCounters <;> rfl
  | ok curr => cases r.previousCounters <;> rfl

/-- A refresh measures the pair of counters that it completes. -/
theorem meter_refresh (r : Refresher) (x : Reading) :
    (r.refresh x).meter =
      r.meter.measureAll
        (neighbours (r.previousCounters.toList ++ x.counters.toOption.toList)) := by
  simp only [refresh, nextMeter]
  cases x.counters with
  | error e => cases r.previousCounters <;> rfl
  | ok curr => cases r.previousCounters <;> rfl

/-- What a refresh does to the container's figure. Counters with others before them are
measured and the figure is shown; any others leave the meter and the percentage as they
were and show only their tier. -/
theorem container_refresh (r : Refresher) (x : Reading) :
    (∃ prev curr, r.previousCounters = some prev ∧ x.counters = .ok curr ∧
      (r.refresh x).meter.last = some (r.meter.figure prev curr) ∧
      (r.refresh x).store.latest.cpuPercent = (r.meter.figure prev curr).percent ∧
      (r.refresh x).store.latest.tier = some (r.meter.figure prev curr).basis) ∨
    ((r.previousCounters = none ∨ x.counters.toOption = none) ∧
      (r.refresh x).meter = r.meter ∧
      (r.refresh x).store.latest.cpuPercent = r.store.latest.cpuPercent ∧
      (r.refresh x).store.latest.tier =
        (x.counters.toOption.map CounterSample.tier).or r.store.latest.tier) := by
  have meter : (r.refresh x).meter = r.nextMeter x.counters := rfl
  unfold nextMeter at meter
  rw [latest_refresh, cpuPercent_nextSnapshot, tier_nextSnapshot, meter]
  cases x.counters with
  | error e => exact .inr ⟨.inr rfl, rfl, rfl, rfl⟩
  | ok curr =>
      cases r.previousCounters with
      | none => exact .inr ⟨.inl rfl, rfl, rfl, rfl⟩
      | some prev =>
          exact .inl ⟨prev, curr, rfl, rfl, Meter.last_measure _ _ _, rfl, rfl⟩

/-! ## What a sequence of refreshes remembers -/

theorem refreshAll_append (r : Refresher) (xs ys : List Reading) :
    r.refreshAll (xs ++ ys) = (r.refreshAll xs).refreshAll ys :=
  List.foldl_append

theorem refreshAll_concat (r : Refresher) (xs : List Reading) (x : Reading) :
    r.refreshAll (xs ++ [x]) = (r.refreshAll xs).refresh x :=
  r.refreshAll_append xs [x]

/-- What a refresh either takes from its reading or leaves alone is as the last
reading that gave it. -/
theorem held_refreshAll {β : Type} (held : Refresher → Option β) (given : Reading → Option β)
    (step : ∀ (r : Refresher) (x : Reading), held (r.refresh x) = (given x).or (held r))
    (r : Refresher) (ticks : List Reading) :
    held (r.refreshAll ticks) = (ticks.filterMap given).getLast?.or (held r) := by
  induction ticks generalizing r with
  | nil => rfl
  | cons x xs ih =>
      rw [refreshAll_cons, ih, step]
      cases h : given x with
      | none => rw [List.filterMap_cons_none h, Option.none_or]
      | some v =>
          -- the reading counts only if none after it gives anything
          rw [List.filterMap_cons_some h, List.getLast?_cons]
          cases (xs.filterMap given).getLast? <;> rfl

/-- The counters held for the next interval are those read last. -/
theorem previousCounters_refreshAll (r : Refresher) (ticks : List Reading) :
    (r.refreshAll ticks).previousCounters =
      (counterSamples ticks).getLast?.or r.previousCounters :=
  held_refreshAll previousCounters _ previousCounters_refresh r ticks

/-- The reading of the process held for the next one is the last. -/
theorem previousProcess_refreshAll (r : Refresher) (ticks : List Reading) :
    (r.refreshAll ticks).previousProcess =
      (processSamples ticks).getLast?.or r.previousProcess :=
  held_refreshAll previousProcess _ previousProcess_refresh r ticks

/-- The meter has measured each reading of the counters against the one before
it, the first of them against what was held at the start. -/
theorem meter_refreshAll (r : Refresher) (ticks : List Reading) :
    (r.refreshAll ticks).meter =
      r.meter.measureAll (neighbours (r.previousCounters.toList ++ counterSamples ticks)) := by
  induction ticks generalizing r with
  | nil => cases r.previousCounters <;> rfl
  | cons x xs ih =>
      rw [refreshAll_cons, ih, meter_refresh, counterSamples_cons, neighbours_held_append,
        Meter.measureAll_append]

/-! ## What a sequence of refreshes shows -/

/-- A field of the snapshot that every reading either gives or leaves alone shows
the last reading that gave it. -/
theorem field_refreshAll {β : Type} (field : Snapshot → β) (given : Reading → Option β)
    (step : ∀ (r : Refresher) (x : Reading),
      field (r.nextSnapshot x) = (given x).getD (field r.store.latest))
    (r : Refresher) (ticks : List Reading) :
    field (r.refreshAll ticks).store.latest =
      (ticks.filterMap given).getLast?.getD (field r.store.latest) := by
  have shown := held_refreshAll (fun r => some (field r.store.latest)) given
    (fun r x => by rw [latest_refresh, step, Option.or_some]) r ticks
  rwa [Option.or_some, Option.some.injEq] at shown

theorem cpus_refreshAll (r : Refresher) (ticks : List Reading) :
    (r.refreshAll ticks).store.latest.cpus =
      ((counterSamples ticks).getLast?.map CounterSample.cpus).getD r.store.latest.cpus := by
  rw [field_refreshAll Snapshot.cpus _ cpus_nextSnapshot, counterSamples, ← List.getLast?_map,
    List.map_filterMap]

/-- Only counters renew the time of a snapshot. -/
theorem updatedAt_refreshAll (r : Refresher) (ticks : List Reading) :
    (r.refreshAll ticks).store.latest.updatedAt =
      (countersReadAt ticks).or r.store.latest.updatedAt :=
  held_refreshAll (fun r => r.store.latest.updatedAt) _ updatedAt_nextSnapshot r ticks

theorem process_refreshAll (r : Refresher) (ticks : List Reading) :
    let s := (r.refreshAll ticks).store.latest
    let p := (processSamples ticks).getLast?
    s.pid = (p.map ProcessSample.pid).getD r.store.latest.pid ∧
      s.processName = (p.map ProcessSample.name).getD r.store.latest.processName ∧
      s.processMemory = (p.map ProcessSample.memory).getD r.store.latest.processMemory := by
  simp only [processSamples, ← List.getLast?_map, List.map_filterMap]
  exact ⟨field_refreshAll Snapshot.pid _ (fun r x => (process_nextSnapshot r x).1) r ticks,
    field_refreshAll Snapshot.processName _ (fun r x => (process_nextSnapshot r x).2.1) r ticks,
    field_refreshAll Snapshot.processMemory _ (fun r x => (process_nextSnapshot r x).2.2) r ticks⟩

/-- The percentage of a process is that of its last two successive readings
that can be compared. -/
theorem processCpuPercent_refreshAll (r : Refresher) (ticks : List Reading) :
    (r.refreshAll ticks).store.latest.processCpuPercent =
      (lastValue? processUtilization
        (neighbours (r.previousProcess.toList ++ processSamples ticks))).getD
        r.store.latest.processCpuPercent := by
  induction ticks generalizing r with
  | nil => cases r.previousProcess <;> rfl
  | cons x xs ih =>
      rw [refreshAll_cons, ih, latest_refresh, processCpuPercent_nextSnapshot,
        processSamples_cons]
      simp only [refresh]
      cases x.process with
      | error e => rfl
      | ok curr =>
          cases r.previousProcess with
          | none => rfl
          | some prev =>
              simp only [Except.toOption, Option.toList_some, List.singleton_append,
                neighbours_cons_cons, lastValue?_cons, Option.bind_some, Option.getD_or]
              rfl

end Refresher
end UsageMeter
