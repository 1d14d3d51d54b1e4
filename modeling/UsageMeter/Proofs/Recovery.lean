import UsageMeter.Proofs.Course

/-!
# Recovery

Two ticks over which everything was read and nothing went backwards leave a
snapshot that only they tell, and a refresher that remembers nothing else. So
whatever two refreshers were and went through, after two such ticks they show
the same, and go on to show the same for as long as they read the same.
-/

namespace UsageMeter
open UsageMeter.Time

/-! ## A good interval -/

/-- The snapshot that two readings of everything tell, without any past. -/
def Snapshot.ofInterval (prev curr : CounterSample) (prev' curr' : ProcessSample)
    (now : Timestamp) : Snapshot :=
  { cpuPercent := (Figure.ofInterval prev curr).percent
    processCpuPercent := prev'.percentSince curr'
    processMemory := curr'.memory
    pid := curr'.pid
    processName := curr'.name
    cpus := curr.cpus
    updatedAt := some now
    degraded := !curr.tier.isContainer
    tier := some curr.tier }

/-- Two ticks over which everything was read and nothing went backwards. -/
structure Reading.GoodInterval (x y : Reading) : Prop where
  counters : ∃ prev curr, x.counters = .ok prev ∧ y.counters = .ok curr ∧ prev.Continues curr
  process : ∃ prev curr, x.process = .ok prev ∧ y.process = .ok curr ∧ prev.Continues curr

namespace Refresher

/-- A reading that continues what is held replaces every field of the snapshot. -/
theorem nextSnapshot_of_continues {r : Refresher} {y : Reading} {prev curr : CounterSample}
    {prev' curr' : ProcessSample} (held : r.previousCounters = some prev)
    (held' : r.previousProcess = some prev') (read : y.counters = .ok curr)
    (read' : y.process = .ok curr') (continues : prev.Continues curr)
    (continues' : prev'.Continues curr') :
    r.nextSnapshot y = Snapshot.ofInterval prev curr prev' curr' y.now := by
  have figure := r.meter.figure_of_continues continues
  have percent := ProcessSample.processUtilization_of_continues continues'
  rw [nextSnapshot_eq]
  simp only [afterProcess, afterCounters, withProcess, withCounters, countersDegraded,
    processDegraded, read, read', held, held', Option.bind_some, figure, percent]
  simp [Figure.ofInterval, Snapshot.ofInterval]

/-! ## Refreshers that show the same -/

/-- **The recovery invariant**: two refreshers hold the same readings, the same
figure and the same snapshot. Their settings, phases and counts may differ. -/
structure Alike (r r' : Refresher) : Prop where
  counters : r.previousCounters = r'.previousCounters
  process : r.previousProcess = r'.previousProcess
  meter : r.meter = r'.meter
  latest : r.store.latest = r'.store.latest

namespace Alike
variable {r r' : Refresher}

theorem countersDegraded (h : r.Alike r') (x : Reading) :
    r.countersDegraded x.counters = r'.countersDegraded x.counters := by
  simp only [Refresher.countersDegraded, h.counters, h.meter]

theorem processDegraded (h : r.Alike r') (x : Reading) :
    r.processDegraded x.process = r'.processDegraded x.process := by
  simp only [Refresher.processDegraded, h.process]

theorem nextSnapshot (h : r.Alike r') (x : Reading) : r.nextSnapshot x = r'.nextSnapshot x := by
  simp only [nextSnapshot_eq, afterProcess, afterCounters, withProcess, withCounters,
    h.countersDegraded, h.processDegraded, h.counters, h.process, h.meter, h.latest]

theorem outcome (h : r.Alike r') (x : Reading) : r.outcome x = r'.outcome x := by
  by_cases lost : x.Lost
  · rw [outcome_of_lost r lost, outcome_of_lost r' lost]
  · rw [outcome_of_not_lost r lost, outcome_of_not_lost r' lost, h.nextSnapshot]

/-- Reading the same keeps refreshers alike. -/
theorem refresh (h : r.Alike r') (x : Reading) : (r.refresh x).Alike (r'.refresh x) where
  counters := by rw [previousCounters_refresh, previousCounters_refresh, h.counters]
  process := by rw [previousProcess_refresh, previousProcess_refresh, h.process]
  meter := by simp only [Refresher.refresh, nextMeter, h.counters, h.meter]
  latest := h.nextSnapshot x

theorem refreshAll (h : r.Alike r') (ticks : List Reading) :
    (r.refreshAll ticks).Alike (r'.refreshAll ticks) := by
  induction ticks generalizing r r' with
  | nil => exact h
  | cons x xs ih => exact ih (h.refresh x)

/-- After a good interval all refreshers are alike. -/
theorem of_goodInterval (r r' : Refresher) {x y : Reading} (good : x.GoodInterval y) :
    ((r.refresh x).refresh y).Alike ((r'.refresh x).refresh y) := by
  obtain ⟨prev, curr, hx, hy, continues⟩ := good.counters
  obtain ⟨prev', curr', hx', hy', continues'⟩ := good.process
  -- whatever was held before, the first tick leaves its own readings behind
  have held (r : Refresher) := r.previousCounters_refresh_of_ok hx
  have held' (r : Refresher) := r.previousProcess_refresh_of_ok hx'
  have meter : ∀ r : Refresher,
      ((r.refresh x).refresh y).meter = ⟨some (Figure.ofInterval prev curr)⟩ := by
    intro r
    show (r.refresh x).nextMeter y.counters = _
    simp only [nextMeter, hy, held r, Meter.measure, Meter.figure_of_continues _ continues]
  have latest : ∀ r : Refresher, ((r.refresh x).refresh y).store.latest =
      Snapshot.ofInterval prev curr prev' curr' y.now := fun r =>
    nextSnapshot_of_continues (held r) (held' r) hy hy' continues continues'
  refine ⟨?_, ?_, ?_, ?_⟩
  · rw [previousCounters_refresh_of_ok _ hy, previousCounters_refresh_of_ok _ hy]
  · rw [previousProcess_refresh_of_ok _ hy', previousProcess_refresh_of_ok _ hy']
  · rw [meter r, meter r']
  · rw [latest r, latest r']

end Alike

/-- **One good interval heals.** Two refreshers may have started from any state
and gone through anything, runs that stopped them included. Once both have
taken the same two ticks over which everything was read and nothing went
backwards, they show the same snapshot, and they show the same and say the same
of every tick for as long as they take the same ticks. -/
theorem alike_after_good_interval (r r' : Refresher) (past past' : List Action) (x y : Reading)
    (good : x.GoodInterval y) :
    let healed := ((r.actAll past).refresh x).refresh y
    let healed' := ((r'.actAll past').refresh x).refresh y
    healed.store.latest = healed'.store.latest ∧
      ∀ (later : List Reading) (next : Reading),
        (healed.refreshAll later).outcome next = (healed'.refreshAll later).outcome next ∧
          ((healed.refreshAll later).refresh next).store.latest =
            ((healed'.refreshAll later).refresh next).store.latest := by
  intro healed healed'
  have alike : healed.Alike healed' := .of_goodInterval (r.actAll past) (r'.actAll past') good
  refine ⟨alike.latest, fun later next => ?_⟩
  have still := alike.refreshAll later
  exact ⟨still.outcome next, still.nextSnapshot next⟩

/-- A new refresher beside one that lost a reading and was stopped. -/
theorem alike_after_good_interval_of_stopped :
    let counters (n : Nat) : CounterSample :=
      ⟨.cgroupV2, UInt64.ofNat n, UInt64.ofNat (2 * n), none, none, 1, n⟩
    let process (n : Nat) : ProcessSample := ⟨7, "svc", UInt64.ofNat n, 1024, n⟩
    let tick (n : Nat) : Reading := ⟨.ok (counters n), .ok (process n), ⟨n, 0⟩, Float.ofNat 0⟩
    let lost : Reading := ⟨.error (.exhausted []), .error (.exhausted []), ⟨1, 0⟩, Float.ofNat 0⟩
    let settings : RefresherSettings := ⟨7, "svc", Span.ofSeconds 5, by decide⟩
    let around : Surroundings :=
      ⟨fun k => ⟨.ok (counters (9 - k)), 0, .ok (process k), 0⟩, fun t => ⟨100, t⟩⟩
    let healed := ((new settings (Store.new (Snapshot.initial 7 1))).refresh (tick 10)).refresh
      (tick 20)
    let healed' := (((new settings (Store.new (Snapshot.initial 8 4))).actAll
      [.refresh lost, .run (.message 12000000000) around]).refresh (tick 10)).refresh (tick 20)
    (tick 10).GoodInterval (tick 20) ∧ healed.store.latest = healed'.store.latest ∧
      (healed.refresh (tick 15)).outcome (tick 30) =
        (healed'.refresh (tick 15)).outcome (tick 30) := by
  intro counters process tick lost settings around healed healed'
  have good : (tick 10).GoodInterval (tick 20) := by
    refine ⟨⟨_, _, rfl, rfl, ?_⟩, ⟨_, _, rfl, rfl, ?_⟩⟩
    · unfold CounterSample.Continues
      decide
    · unfold ProcessSample.Continues
      decide
  have same := alike_after_good_interval (new settings (Store.new (Snapshot.initial 7 1)))
    (new settings (Store.new (Snapshot.initial 8 4))) []
    [.refresh lost, .run (.message 12000000000) around] (tick 10) (tick 20) good
  exact ⟨good, same.1, (same.2 [tick 15] (tick 30)).1⟩

end Refresher
end UsageMeter
