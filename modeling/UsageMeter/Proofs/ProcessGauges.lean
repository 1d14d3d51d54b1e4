import UsageMeter.Proofs.Answers

/-!
# The gauges of the process

A process that was read is in the snapshot from then on, whatever becomes of the
counters. Its gauges wait for more: they are told of a snapshot with a time, and
only counters give it one.
-/

namespace UsageMeter
open UsageMeter.Time

/-- The gauge of the memory of a process, as it was read. -/
def ProcessSample.memoryReading (p : ProcessSample) (service : String) : GaugeReading :=
  { gauge := .processMemory
    value := Float.ofNat p.memory.toNat
    labels := [("service.name", service), ("process.pid", toString p.pid.toNat),
      ("process.name", p.name), ("metric.type", "process_memory")] }

/-- A snapshot has a process as it was read. -/
structure Snapshot.Has (s : Snapshot) (p : ProcessSample) : Prop where
  pid : s.pid = p.pid
  name : s.processName = p.name
  memory : s.processMemory = p.memory

namespace Refresher

/-- A field of the snapshot that every reading either gives or leaves alone shows,
on every course, the last reading that gave it. -/
theorem field_actAll {β : Type} (field : Snapshot → β) (given : Reading → Option β)
    (step : ∀ (r : Refresher) (x : Reading),
      field (r.nextSnapshot x) = (given x).getD (field r.store.latest))
    (r : Refresher) (actions : List Action) :
    field (r.actAll actions).store.latest =
      ((r.ticks actions).filterMap given).getLast?.getD (field r.store.latest) := by
  induction actions generalizing r with
  | nil => rfl
  | cons a as ih =>
      show field ((r.act a).actAll as).store.latest = _
      rw [ih, store_act, field_refreshAll field given step, ticks, List.filterMap_append,
        List.getLast?_append, Option.getD_or]

/-- The snapshot has the process of the last reading of it. -/
theorem has_actAll (r : Refresher) (actions : List Action) {p : ProcessSample}
    (last : (processSamples (r.ticks actions)).getLast? = some p) :
    (r.actAll actions).store.latest.Has p := by
  have given : ∀ {β : Type} (part : ProcessSample → β),
      ((r.ticks actions).filterMap fun x => x.process.toOption.map part).getLast? =
        some (part p) := by
    intro β part
    rw [← List.map_filterMap, List.getLast?_map]
    exact congrArg (Option.map part) last
  refine ⟨?_, ?_, ?_⟩
  · rw [field_actAll Snapshot.pid _ (fun r x => (process_nextSnapshot r x).1), given]
    rfl
  · rw [field_actAll Snapshot.processName _ (fun r x => (process_nextSnapshot r x).2.1), given]
    rfl
  · rw [field_actAll Snapshot.processMemory _ (fun r x => (process_nextSnapshot r x).2.2), given]
    rfl

end Refresher

namespace Snapshot
variable {s : Snapshot} {now : Timestamp} {interval : Span}

/-- Without a time only the degraded gauge is told. -/
theorem readings_of_unread (unread : s.updatedAt = none) (service : String) (now : Timestamp)
    (interval : Span) :
    s.readings service now interval = .ok [degradedReading service true] := by
  simp [readings, isStale, age, unread, Except.map]

/-- With a time the gauges of the process are told. -/
theorem processReadings_subset (read : s.updatedAt ≠ none)
    (fits : 2 * interval.nanos < spanLimit) (service : String) (now : Timestamp) :
    ∃ readings, s.readings service now interval = .ok readings ∧
      s.processReadings service ⊆ readings := by
  obtain ⟨time, read⟩ := Option.ne_none_iff_exists'.mp read
  obtain ⟨stale, told, -⟩ := s.isStale_of_fits now fits
  refine ⟨_, by rw [readings, told]; rfl, fun g hg => ?_⟩
  simp only [age, read, Option.map_some]
  exact List.mem_cons_of_mem _ (List.mem_cons_of_mem _ (List.mem_append_right _ hg))

theorem Has.memoryReading_mem {p : ProcessSample} (h : s.Has p) (service : String) :
    p.memoryReading service ∈ s.processReadings service := by
  rw [processReadings, processLabels, processLabels, h.pid, h.name, h.memory]
  exact List.mem_cons_of_mem _ List.mem_cons_self

end Snapshot

namespace Refresher

/-- **The memory of a process that was read is exported once counters were read, too.**
From nothing and on any course, the gauge has the memory, the number and the name of
the last reading of the process. It is told as soon as there were counters at any time,
before or after that reading. Until then every gauge waits but the degraded one. -/
theorem memory_exported_after_counters (settings : RefresherSettings) (pid cpus : UInt32)
    (actions : List Action) (service : String) (now : Timestamp) (interval : Span)
    {p : ProcessSample} :
    let start := new settings (Store.new (Snapshot.initial pid cpus))
    let ticks := start.ticks actions
    let s := (start.actAll actions).store.latest
    (processSamples ticks).getLast? = some p →
      (counterSamples ticks = [] →
        s.readings service now interval = .ok [Snapshot.degradedReading service true]) ∧
      (counterSamples ticks ≠ [] → 2 * interval.nanos < spanLimit →
        ∃ readings, s.readings service now interval = .ok readings ∧
          p.memoryReading service ∈ readings) ∧
      (counterSamples ticks ≠ [] → spanLimit ≤ 2 * interval.nanos →
        s.readings service now interval = .error .mk) := by
  intro start ticks s last
  have updated : s.updatedAt = countersReadAt ticks :=
    (start.updatedAt_actAll actions).trans Option.or_none
  have has : s.Has p := start.has_actAll actions last
  have unread : s.updatedAt = none ↔ counterSamples ticks = [] := by
    rw [updated, countersReadAt_eq_none_iff]
  refine ⟨?_, ?_, ?_⟩
  · intro without
    exact Snapshot.readings_of_unread (unread.mpr without) service now interval
  · intro counted fits
    obtain ⟨readings, told, process⟩ :=
      Snapshot.processReadings_subset (mt unread.mp counted) fits service now
    exact ⟨readings, told, process (has.memoryReading_mem service)⟩
  · intro counted long
    have unjudged : ¬ s.Judgeable interval := by
      rintro (without | fits)
      · exact counted (unread.mp without)
      · omega
    exact (Snapshot.overflows_of_not_judgeable unjudged service now).readings

/-- Counters are read before the process and lost when it is read. -/
theorem memory_exported_after_lost_counters :
    let start := new ⟨42, "svc", Span.ofSeconds 5, by decide⟩ (Store.new (Snapshot.initial 42 4))
    let actions : List Action :=
      [.refresh ⟨.ok ⟨.procStat, 150, 1000, none, none, 4, 0⟩, .error (.exhausted []),
          ⟨100, 0⟩, Float.ofNat 0⟩,
        .refresh ⟨.error (.exhausted []), .ok ⟨42, "svc", 0, 4096, 0⟩, ⟨105, 0⟩, Float.ofNat 0⟩]
    let p : ProcessSample := ⟨42, "svc", 0, 4096, 0⟩
    (processSamples (start.ticks actions)).getLast? = some p ∧
      counterSamples (start.ticks actions) ≠ [] ∧ 2 * (Span.ofSeconds 5).nanos < spanLimit ∧
      ∃ readings, (start.actAll actions).store.latest.readings "svc" ⟨130, 0⟩
          (Span.ofSeconds 5) = .ok readings ∧
        p.memoryReading "svc" ∈ readings := by
  intro start actions p
  have read : counterSamples (start.ticks actions) ≠ [] := nofun
  have exported := memory_exported_after_counters ⟨42, "svc", Span.ofSeconds 5, by decide⟩ 42 4
    actions "svc" ⟨130, 0⟩ (Span.ofSeconds 5) (p := p) rfl
  exact ⟨rfl, read, by decide, exported.2.1 read (by decide)⟩

/-- The first tick reads the process and no counters: the snapshot has the process,
and its memory is not exported. -/
theorem memory_not_exported_before_counters :
    let start := new ⟨42, "svc", Span.ofSeconds 5, by decide⟩ (Store.new (Snapshot.initial 42 4))
    let p : ProcessSample := ⟨42, "svc", 0, 4096, 0⟩
    let tick : Reading := ⟨.error (.exhausted []), .ok p, ⟨100, 0⟩, Float.ofNat 0⟩
    let s := (start.actAll [.refresh tick]).store.latest
    (processSamples (start.ticks [.refresh tick])).getLast? = some p ∧ s.Has p ∧
      ∃ readings, s.readings "svc" ⟨100, 0⟩ (Span.ofSeconds 5) = .ok readings ∧
        ∀ g ∈ readings, g.gauge ≠ .processMemory := by
  intro start p tick s
  refine ⟨rfl, ⟨rfl, rfl, rfl⟩, _, Snapshot.readings_of_unread rfl _ _ _, ?_⟩
  intro g hg
  rw [List.mem_singleton.mp hg]
  nofun

end Refresher
end UsageMeter
