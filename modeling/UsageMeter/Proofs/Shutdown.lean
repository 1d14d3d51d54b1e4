import Mathlib.Data.List.Forall2
import UsageMeter.Proofs.Pacing

/-!
# The end of a run

What a shutdown leaves behind. A run finishes every refresh that it has
started, so it publishes what refreshing by hand on its readings would have
published, but for the time. The refresher is then stopped for good: it holds no
readings to measure the next ones against, and no later run does anything.
-/

namespace UsageMeter
open UsageMeter.Time

/-! ## The same but for the time -/

/-- Two snapshots show the same, and both or neither of them have a time. -/
structure Snapshot.SameButTime (s s' : Snapshot) : Prop where
  cpuPercent : s.cpuPercent = s'.cpuPercent
  processCpuPercent : s.processCpuPercent = s'.processCpuPercent
  processMemory : s.processMemory = s'.processMemory
  pid : s.pid = s'.pid
  processName : s.processName = s'.processName
  cpus : s.cpus = s'.cpus
  degraded : s.degraded = s'.degraded
  tier : s.tier = s'.tier
  updated : s.updatedAt.isSome = s'.updatedAt.isSome

/-- Both parts of two readings gave the same; their times may differ. -/
structure Reading.SameRead (x y : Reading) : Prop where
  counters : x.counters = y.counters
  process : x.process = y.process

/-- A refresh by hand read what a refresh of a run had read. -/
structure Reading.Repeats (x : Reading) (t : TimedReading) : Prop where
  counters : x.counters = t.counters
  process : x.process = t.process

theorem Reading.Repeats.sameRead {x : Reading} {t : TimedReading} (h : x.Repeats t)
    (clock : Nat → Timestamp) (start : Nat) : x.SameRead (t.toReading clock start) :=
  ⟨h.counters, h.process⟩

namespace Refresher

/-- **The shutdown invariant**: two refreshers hold the same, have published as
often, and show the same but for the time. -/
structure SameButTime (r r' : Refresher) : Prop where
  counters : r.previousCounters = r'.previousCounters
  process : r.previousProcess = r'.previousProcess
  meter : r.meter = r'.meter
  version : r.store.version = r'.store.version
  latest : r.store.latest.SameButTime r'.store.latest

theorem SameButTime.refl (r : Refresher) : r.SameButTime r :=
  ⟨rfl, rfl, rfl, rfl, ⟨rfl, rfl, rfl, rfl, rfl, rfl, rfl, rfl, rfl⟩⟩

namespace SameButTime
variable {r r' : Refresher} {x y : Reading}

/-- The time of a reading goes into the time of the snapshot and nowhere else. -/
theorem nextSnapshot (h : r.SameButTime r') (read : x.SameRead y) :
    (r.nextSnapshot x).SameButTime (r'.nextSnapshot y) where
  cpuPercent := by
    rw [cpuPercent_nextSnapshot, cpuPercent_nextSnapshot, read.counters, h.counters, h.meter,
      h.latest.cpuPercent]
  processCpuPercent := by
    rw [processCpuPercent_nextSnapshot, processCpuPercent_nextSnapshot, read.process, h.process,
      h.latest.processCpuPercent]
  processMemory := by
    rw [(r.process_nextSnapshot x).2.2, (r'.process_nextSnapshot y).2.2, read.process,
      h.latest.processMemory]
  pid := by
    rw [(r.process_nextSnapshot x).1, (r'.process_nextSnapshot y).1, read.process, h.latest.pid]
  processName := by
    rw [(r.process_nextSnapshot x).2.1, (r'.process_nextSnapshot y).2.1, read.process,
      h.latest.processName]
  cpus := by
    rw [cpus_nextSnapshot, cpus_nextSnapshot, read.counters, h.latest.cpus]
  degraded := by
    rw [degraded_nextSnapshot, degraded_nextSnapshot, read.counters, read.process]
    simp only [countersDegraded, processDegraded, h.counters, h.process, h.meter]
  tier := by
    rw [tier_nextSnapshot, tier_nextSnapshot, read.counters, h.counters, h.meter, h.latest.tier]
  updated := by
    rw [updatedAt_nextSnapshot, updatedAt_nextSnapshot, read.counters]
    cases y.counters with
    | ok curr => rfl
    | error e => exact h.latest.updated

theorem refresh (h : r.SameButTime r') (read : x.SameRead y) :
    (r.refresh x).SameButTime (r'.refresh y) where
  counters := by
    rw [previousCounters_refresh, previousCounters_refresh, read.counters, h.counters]
  process := by rw [previousProcess_refresh, previousProcess_refresh, read.process, h.process]
  meter := by simp only [Refresher.refresh, nextMeter, read.counters, h.counters, h.meter]
  version := congrArg (· + 1) h.version
  latest := h.nextSnapshot read

/-- Readings that give the same, taken at whatever times, keep refreshers the same. -/
theorem refreshAll (h : r.SameButTime r') {xs ys : List Reading}
    (read : List.Forall₂ Reading.SameRead xs ys) :
    (r.refreshAll xs).SameButTime (r'.refreshAll ys) := by
  induction read generalizing r r' with
  | nil => exact h
  | cons head _ ih => exact ih (h.refresh head)

end SameButTime

/-- Every refresh publishes once, whatever comes of its readings. -/
theorem version_refreshAll (r : Refresher) (ticks : List Reading) :
    (r.refreshAll ticks).store.version = r.store.version + ticks.length := by
  induction ticks generalizing r with
  | nil => rfl
  | cons x xs ih =>
      rw [refreshAll_cons, ih, List.length_cons]
      show r.store.version + 1 + xs.length = _
      omega

/-! ## Priming -/

/-- A tick that only primes: it measures no percentage, neither of the container
nor of the process, and its readings are held for the next tick. -/
structure Primes (r : Refresher) (x : Reading) : Prop where
  cpuPercent : (r.nextSnapshot x).cpuPercent = r.store.latest.cpuPercent
  processCpuPercent : (r.nextSnapshot x).processCpuPercent = r.store.latest.processCpuPercent
  tier : (r.nextSnapshot x).tier =
    (x.counters.toOption.map CounterSample.tier).or r.store.latest.tier
  degraded : (r.nextSnapshot x).degraded = true
  outcome : r.outcome x ≠ .published
  counters : (r.refresh x).previousCounters = x.counters.toOption
  process : (r.refresh x).previousProcess = x.process.toOption

/-- Without earlier readings every tick primes. -/
theorem primes_of_none {r : Refresher} (counters : r.previousCounters = none)
    (process : r.previousProcess = none) (x : Reading) : r.Primes x := by
  have unfresh : ¬ x.Fresh r.previousCounters r.previousProcess := by
    intro fresh
    obtain ⟨prev, -, held, -⟩ := fresh.counters
    rw [counters] at held
    cases held
  constructor
  · rw [cpuPercent_nextSnapshot, counters]
    cases x.counters <;> rfl
  · rw [processCpuPercent_nextSnapshot, process]
    cases x.process <;> rfl
  · rw [tier_nextSnapshot, counters]
    cases x.counters <;> rfl
  · rw [← Bool.not_eq_false, degraded_nextSnapshot_iff]
    exact unfresh
  · rw [Ne, outcome_eq_published_iff]
    exact unfresh
  · rw [previousCounters_refresh, counters, Option.or_none]
  · rw [previousProcess_refresh, process, Option.or_none]

/-! ## After the run -/

/-- The readings of a run, refresh by refresh, are those of the surroundings. -/
theorem sameRead_readings {around : Surroundings} {ticks : List Reading} {reads : List ReadTimes}
    (repeated : List.Forall₂ Reading.Repeats ticks
      ((List.range reads.length).map around.reading)) :
    List.Forall₂ Reading.SameRead ticks (around.readings reads) := by
  rw [List.forall₂_iff_get] at repeated ⊢
  obtain ⟨length, repeated⟩ := repeated
  refine ⟨by simpa [Surroundings.readings] using length, fun k hk hk' => ?_⟩
  have step := repeated k hk (length ▸ hk)
  simp only [List.get_eq_getElem, List.getElem_map, List.getElem_range, Surroundings.readings,
    List.getElem_mapIdx] at step ⊢
  exact step.sameRead _ _

/-- A run comes to a refresh only if it starts before the shutdown. -/
theorem reads_run {r : Refresher} (collecting : r.phase = .collecting) (shutdown : Shutdown)
    (around : Surroundings) {k : Nat} {times : ReadTimes}
    (h : (r.run shutdown around).reads[k]? = some times) :
    times = r.readTimesOf around k ∧ r.startOf around k < shutdown.time := by
  obtain ⟨n, before, reads, -⟩ := run_eq_progress collecting shutdown around
  rw [reads, List.getElem?_map, Option.map_eq_some_iff] at h
  obtain ⟨j, hj, rfl⟩ := h
  obtain ⟨hk, rfl⟩ := List.getElem?_eq_some_iff.mp hj
  rw [List.length_range] at hk
  rw [List.getElem_range]
  exact ⟨rfl, (before k).mp hk⟩

/-- However often a stopped refresher is run, it stays as it is. -/
theorem actAll_runs_of_stopped {r : Refresher} (stopped : r.phase = .stopped)
    (runs : List (Shutdown × Surroundings)) :
    r.actAll (runs.map fun c => .run c.1 c.2) = r := by
  induction runs with
  | nil => rfl
  | cons c cs ih =>
      show (r.run c.1 c.2).refresher.actAll _ = r
      rw [run_of_stopped stopped, ih]

/-- **A run ends for good.** Whichever way and whenever it is shut down, a run
starts refreshes only before the shutdown, so there are finitely many and none if
the signal came first, and it finishes each of them: both parts are read and one
snapshot is published. It leaves what refreshing by hand on the same readings
leaves, but for the time and without the readings, so that the next tick can
only prime; and no later run reads, reports or changes anything. -/
theorem run_ends_for_good {r : Refresher} (collecting : r.phase = .collecting)
    (shutdown : Shutdown) (around : Surroundings) :
    let period := r.settings.interval.nanos
    let run := r.run shutdown around
    let ended := run.refresher
    let count := run.reads.length
    (∀ k times, run.reads[k]? = some times →
        times.counters < shutdown.time ∧ k * period < shutdown.time ∧
          times.process = times.counters + (around.reading k).countersTook) ∧
      (shutdown.time = 0 → run.reads = []) ∧
      ended.store.version = r.store.version + count ∧
      (∀ ticks, List.Forall₂ Reading.Repeats ticks ((List.range count).map around.reading) →
        let byHand := (r.refreshAll ticks).store
        byHand.version = ended.store.version ∧ byHand.latest.SameButTime ended.store.latest) ∧
      ended.phase = .stopped ∧ ended.previousCounters = none ∧ ended.previousProcess = none ∧
      (∀ x, ended.Primes x) ∧
      ∀ (runs : List (Shutdown × Surroundings)) (shutdown' : Shutdown) (around' : Surroundings),
        (ended.actAll (runs.map fun c => .run c.1 c.2)).run shutdown' around' =
          ⟨ended, [], []⟩ := by
  intro period run ended count
  have left : ended = (r.refreshAll (around.readings run.reads)).stop :=
    run_of_collecting collecting shutdown around
  have stopped : ended.phase = .stopped := by rw [left]; rfl
  have noCounters : ended.previousCounters = none := by rw [left]; rfl
  have noProcess : ended.previousProcess = none := by rw [left]; rfl
  have store : ended.store = (r.refreshAll (around.readings run.reads)).store := by rw [left]; rfl
  have each : ∀ k times, run.reads[k]? = some times →
      times.counters < shutdown.time ∧ k * period < shutdown.time ∧
        times.process = times.counters + (around.reading k).countersTook := by
    intro k times h
    obtain ⟨rfl, before⟩ := reads_run collecting shutdown around h
    exact ⟨before, Nat.lt_of_le_of_lt (r.mul_le_startOf around k) before, rfl⟩
  refine ⟨each, ?_, ?_, ?_, stopped, noCounters, noProcess, primes_of_none noCounters noProcess, ?_⟩
  · intro before
    cases h : run.reads with
    | nil => rfl
    | cons times _ =>
        have := (each 0 times (by rw [h]; rfl)).1
        omega
  · rw [store, version_refreshAll, Surroundings.readings, List.length_mapIdx]
  · intro ticks repeated byHand
    rw [store]
    have same := (SameButTime.refl r).refreshAll (sameRead_readings repeated)
    exact ⟨same.version, same.latest⟩
  · intro runs shutdown' around'
    rw [actAll_runs_of_stopped stopped, run_of_stopped stopped]

/-- Refreshes of six seconds in a run of eleven: the second one is in progress at
the shutdown and is finished after it. -/
theorem run_ends_for_good_in_refresh :
    let r := new ⟨7, "svc", Span.ofSeconds 5, by decide⟩ (Store.new (Snapshot.initial 7 2))
    let around : Surroundings :=
      ⟨fun k => ⟨.ok ⟨.cgroupV2, UInt64.ofNat k, UInt64.ofNat (2 * k), none, none, 2, k⟩,
        4000000000, .error (.exhausted []), 2000000000⟩, fun t => ⟨100, t⟩⟩
    let run := r.run (.dropped 11000000000) around
    r.phase = .collecting ∧
      run.reads = [⟨0, 4000000000⟩, ⟨6000000000, 10000000000⟩] ∧
      run.refresher.store.version = 2 ∧ run.refresher.phase = .stopped ∧
      (run.refresher.run (.message 20000000000) around).reads = [] := by
  intro r around run
  have collecting : r.phase = .collecting := rfl
  obtain ⟨n, before, reads, -⟩ := run_eq_progress collecting (.dropped 11000000000) around
  have two : n = 2 := by
    have second : 1 < n := (before 1).mpr (by decide)
    have third : ¬ 2 < n := fun h => absurd ((before 2).mp h) (by decide)
    omega
  have both : run.reads = [⟨0, 4000000000⟩, ⟨6000000000, 10000000000⟩] := by
    rw [reads, two]
    decide
  obtain ⟨-, -, published, -, stopped, -, -, -, later⟩ :=
    run_ends_for_good collecting (.dropped 11000000000) around
  refine ⟨collecting, both, ?_, stopped, ?_⟩
  · exact published.trans (congrArg (0 + ·.length) both)
  · exact congrArg Run.reads (later [] (.message 20000000000) around)

end Refresher
end UsageMeter
