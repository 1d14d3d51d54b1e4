import UsageMeter.Proofs.PrintedRows
import UsageMeter.Proofs.Refresh
import UsageMeter.Proofs.Transitions

/-!
# Rows and snapshots

A sampling and a refresher that begin with the same readings go on in step:
they hold the same readings and their meters give the same figures. So each row
of a sampling shows what the refresher publishes, and the output shows each row. A
sampling in which a reading fails or breaks off shows no row at all.
-/

namespace UsageMeter
open UsageMeter.Source UsageMeter.Time

namespace Cli

/-- A row shows what a snapshot does. Where the row has no percentage of the
process, the snapshot has that of the snapshot before. -/
structure Row.Shows (row : Row) (before after : Snapshot) : Prop where
  percent : row.figure.percent = after.cpuPercent
  tier : after.tier = some row.figure.basis
  scope : row.figure.basis.scope = after.scope
  memory : row.memory = after.processMemory
  cpus : row.cpus = after.cpus
  degraded : row.degraded = after.degraded
  process : after.processCpuPercent = row.processPercent.getD before.processCpuPercent

/-- An observation is what a reading of a refresher gave. -/
structure Observation.ReadIn (o : Observation) (x : Reading) : Prop where
  counters : x.counters = .ok o.counters
  process : x.process = .ok o.process

namespace SamplingPlan
variable (plan : SamplingPlan) (m : Moment)

/-- What reading the counters at a moment gives. -/
def counters : Readout CounterSample := ((TierChain.new plan.roots).read m.files m.now).1

/-- What reading the process at a moment gives. -/
def process : Readout ProcessSample :=
  readProcess m.files plan.roots.proc plan.units plan.pid m.now.toNat

end SamplingPlan

/-- An observation is what a plan reads at a moment. -/
structure Observation.ReadAt (o : Observation) (plan : SamplingPlan) (m : Moment) : Prop where
  counters : plan.counters m = .ok (.ok o.counters)
  process : plan.process m = .ok (.ok o.process)
  time : o.time = m.clock

namespace SamplingPlan

/-- Both readings at a moment succeed. -/
def ReadsAt (plan : SamplingPlan) (m : Moment) : Prop := ∃ o : Observation, o.ReadAt plan m

/-- One of the readings at a moment fails, with none before it that does not succeed. -/
inductive FailsAt (plan : SamplingPlan) (m : Moment) : Prop where
  | counters {e : ReadError} (failed : plan.counters m = .ok (.error e))
  | process {c : CounterSample} {e : ReadError} (read : plan.counters m = .ok (.ok c))
      (failed : plan.process m = .ok (.error e))

/-- One of the readings at a moment breaks off, with none before it that does not succeed. -/
inductive OverflowsAt (plan : SamplingPlan) (m : Moment) : Prop where
  | counters {o : SumOverflow} (lost : plan.counters m = .error o)
  | process {c : CounterSample} {o : SumOverflow} (read : plan.counters m = .ok (.ok c))
      (lost : plan.process m = .error o)

/-- What is printed while moments are read: at the first of them the opening. -/
inductive Opens (plan : SamplingPlan) : List Moment → String → Prop where
  | nothing : Opens plan [] ""
  | opening {o : Observation} {m : Moment} (read : o.ReadAt plan m) (ms : List Moment) :
      Opens plan (m :: ms) ((Sampling.begin o).opening plan)

theorem reads_or_breaks (plan : SamplingPlan) (m : Moment) :
    plan.ReadsAt m ∨ plan.FailsAt m ∨ plan.OverflowsAt m := by
  cases hc : plan.counters m with
  | error o => exact .inr (.inr (.counters hc))
  | ok read =>
      cases read with
      | error e => exact .inr (.inl (.counters hc))
      | ok c =>
          cases hp : plan.process m with
          | error o => exact .inr (.inr (.process hc hp))
          | ok read =>
              cases read with
              | error e => exact .inr (.inl (.process hc hp))
              | ok p => exact .inl ⟨⟨c, p, m.clock, TierChain.new plan.roots, []⟩, hc, hp, rfl⟩

end SamplingPlan

namespace Sampling

/-- A sampling after further observations. -/
def extendAll (s : Sampling) (os : List Observation) : Sampling :=
  os.foldl extend s

/-- Each observation adds the row for it. -/
theorem rows_extendAll (s : Sampling) (os : List Observation) :
    (s.extendAll os).rows = s.rows ++ os.mapIdx fun i o => (s.extendAll (os.take i)).row o := by
  induction os generalizing s with
  | nil => exact (List.append_nil _).symm
  | cons o os ih =>
      calc (s.extendAll (o :: os)).rows
          = (s.extend o).rows ++
              os.mapIdx fun i o' => ((s.extend o).extendAll (os.take i)).row o' := ih _
        _ = s.rows ++ (o :: os).mapIdx fun i o' => (s.extendAll ((o :: os).take i)).row o' := by
            rw [List.mapIdx_cons, extend, List.append_assoc]
            rfl

/-! ## Sampling and refreshing in step -/

/-- **The sampling invariant**: a sampling and a refresher hold the same
readings and figures. -/
structure InStep (s : Sampling) (r : Refresher) : Prop where
  counters : r.previousCounters = some s.counters
  process : r.previousProcess = some s.process
  meter : r.meter = s.meter

theorem InStep.begin (settings : RefresherSettings) (store : Store) {o : Observation}
    {x : Reading} (read : o.ReadIn x) :
    (begin o).InStep ((Refresher.new settings store).refresh x) where
  counters := Refresher.previousCounters_refresh_of_ok _ read.counters
  process := Refresher.previousProcess_refresh_of_ok _ read.process
  meter := by
    -- the first counters only prime
    simp only [Refresher.refresh, Refresher.nextMeter, read.counters, Refresher.new]
    rfl

/-- The same readings keep them in step. -/
theorem InStep.extend {s : Sampling} {r : Refresher} (h : s.InStep r) {o : Observation}
    {x : Reading} (read : o.ReadIn x) : (s.extend o).InStep (r.refresh x) where
  counters := r.previousCounters_refresh_of_ok read.counters
  process := r.previousProcess_refresh_of_ok read.process
  meter := by
    simp only [Refresher.refresh, Refresher.nextMeter, read.counters, h.counters, h.meter]
    rfl

theorem InStep.extendAll {s : Sampling} {r : Refresher} (h : s.InStep r) {os : List Observation}
    {ticks : List Reading} (read : List.Forall₂ Observation.ReadIn os ticks) :
    (s.extendAll os).InStep (r.refreshAll ticks) := by
  induction read generalizing s r with
  | nil => exact h
  | cons head _ ih => exact ih (h.extend head)

/-- The row for an observation shows what the refresher publishes after it. -/
theorem InStep.shows {s : Sampling} {r : Refresher} (h : s.InStep r) {o : Observation}
    {x : Reading} (read : o.ReadIn x) : (s.row o).Shows r.store.latest (r.nextSnapshot x) := by
  have tier : (r.nextSnapshot x).tier = some (s.row o).figure.basis := by
    rw [r.tier_nextSnapshot, read.counters, h.counters, h.meter]
    rfl
  constructor
  · rw [r.cpuPercent_nextSnapshot, read.counters, h.counters, h.meter]
    rfl
  · exact tier
  · rw [Snapshot.scope, tier]
  · rw [(r.process_nextSnapshot x).2.2, read.process]
    rfl
  · rw [r.cpus_nextSnapshot, read.counters]
    rfl
  · rw [r.degraded_nextSnapshot, read.counters, read.process]
    simp only [Refresher.countersDegraded, Refresher.processDegraded, h.counters, h.process,
      h.meter]
    rfl
  · rw [r.processCpuPercent_nextSnapshot, read.process, h.process]
    rfl

/-- Row by row, a sampling shows the snapshots of a refresher on the same readings. -/
theorem rows_show_snapshots (settings : RefresherSettings) (store : Store) {first : Observation}
    {further : List Observation} {ticks : List Reading}
    (read : List.Forall₂ Observation.ReadIn (first :: further) ticks) {i : Nat} {row : Row}
    (h : ((begin first).extendAll further).rows[i]? = some row) :
    row.index = i + 1 ∧
      row.Shows ((Refresher.new settings store).refreshAll (ticks.take (i + 1))).store.latest
        ((Refresher.new settings store).refreshAll (ticks.take (i + 2))).store.latest := by
  rw [rows_extendAll, begin, List.nil_append, List.getElem?_mapIdx, Option.map_eq_some_iff] at h
  obtain ⟨o, ho, rfl⟩ := h
  obtain ⟨hi, rfl⟩ := List.getElem?_eq_some_iff.mp ho
  -- the first tick has no row, so the row of observation `i` is for tick `i + 1`
  cases read with
  | @cons _ x _ xs head rest =>
      have hx : i < xs.length := rest.length_eq ▸ hi
      have step : further[i].ReadIn xs[i] := rest.get hi hx
      refine ⟨?_, ?_⟩
      · show ((begin first).extendAll (further.take i)).rows.length + 1 = i + 1
        simp [rows_extendAll, begin, Nat.le_of_lt hi]
      · have inStep := (InStep.begin settings store head).extendAll (List.forall₂_take i rest)
        rw [List.take_succ_cons, List.take_succ_cons, List.take_succ_eq_append_getElem hx,
          Refresher.refreshAll_cons, Refresher.refreshAll_cons, Refresher.refreshAll_concat]
        exact inStep.shows step

/-! ## Reading at moments -/

section
variable {plan : SamplingPlan} {chain : TierChain} (same : chain.roots = plan.roots)
  (events : List Event) (m : Moment)
include same

/-- What a chain remembers does not count for what it reads. -/
theorem read_eq_counters : (chain.read m.files m.now).1 = plan.counters m := by
  simp only [SamplingPlan.counters, TierChain.read, TierChain.descent, same, TierChain.new]

theorem exists_readBoth (reads : plan.ReadsAt m) :
    ∃ o, readBoth plan chain events m = .ok o ∧ o.ReadAt plan m ∧ o.chain.roots = plan.roots := by
  obtain ⟨o, counters, process, -⟩ := reads
  have read := (read_eq_counters same m).trans counters
  have roots := (chain.roots_read m).trans same
  rw [SamplingPlan.process] at process
  unfold readBoth
  simp only [read, process]
  exact ⟨_, rfl, ⟨counters, process, rfl⟩, roots⟩

omit same in
/-- A reading that fails says the same of whatever chain reads. -/
theorem readBoth_of_failsAt (fails : plan.FailsAt m) :
    ∃ e, ∀ chain events, chain.roots = plan.roots →
      ∃ b, readBoth plan chain events m = .error b ∧ b.cause = .failed e := by
  cases fails with
  | @counters e failed =>
      refine ⟨.counters e, fun chain events same => ?_⟩
      have read := (read_eq_counters same m).trans failed
      unfold readBoth
      simp only [read]
      exact ⟨_, rfl, rfl⟩
  | @process c e counters failed =>
      refine ⟨.process plan.pid e, fun chain events same => ?_⟩
      have read := (read_eq_counters same m).trans counters
      rw [SamplingPlan.process] at failed
      unfold readBoth
      simp only [read, failed]
      exact ⟨_, rfl, rfl⟩

omit same in
theorem readBoth_of_overflowsAt (overflows : plan.OverflowsAt m) :
    ∀ chain events, chain.roots = plan.roots →
      ∃ b, readBoth plan chain events m = .error b ∧ b.cause = .overflow .mk := by
  intro chain events same
  cases overflows with
  | @counters o lost =>
      have read := (read_eq_counters same m).trans lost
      unfold readBoth
      simp only [read]
      exact ⟨_, rfl, rfl⟩
  | @process c o counters lost =>
      have read := (read_eq_counters same m).trans counters
      rw [SamplingPlan.process] at lost
      unfold readBoth
      simp only [read, lost]
      exact ⟨_, rfl, rfl⟩

end

/-- A sampling goes on through moments that are all read. -/
theorem exists_advanceAll {plan : SamplingPlan} {s : Sampling}
    (same : s.chain.roots = plan.roots) {ms : List Moment} (reads : ∀ m ∈ ms, plan.ReadsAt m) :
    ∃ os, s.advanceAll plan ms = .ok (s.extendAll os) ∧
      List.Forall₂ (fun o m => o.ReadAt plan m) os ms ∧
      (s.extendAll os).chain.roots = plan.roots := by
  induction ms generalizing s with
  | nil => exact ⟨[], rfl, .nil, same⟩
  | cons m ms ih =>
      rw [List.forall_mem_cons] at reads
      obtain ⟨o, ho, read, roots⟩ := exists_readBoth same s.events m reads.1
      obtain ⟨os, hos, further, kept⟩ := ih (s := s.extend o) roots reads.2
      refine ⟨o :: os, ?_, .cons read further, kept⟩
      simp only [advanceAll, advance, ho, Except.map]
      exact hos

theorem advanceAll_append (plan : SamplingPlan) (s : Sampling) (ms later : List Moment) :
    s.advanceAll plan (ms ++ later) = (s.advanceAll plan ms).bind (advanceAll plan · later) := by
  induction ms generalizing s with
  | nil => rfl
  | cons m ms ih =>
      rw [List.cons_append, advanceAll, advanceAll]
      cases s.advance plan m with
      | error b => rfl
      | ok s => exact ih s

/-- The first moment that is not read ends a sampling, after what was printed before. -/
theorem sample_of_broken {plan : SamplingPlan} {m x : Moment} {ms before after : List Moment}
    {cause : SamplingEnd} (split : m :: ms = before ++ x :: after)
    (reads : ∀ y ∈ before, plan.ReadsAt y)
    (breaks : ∀ chain events, chain.roots = plan.roots →
      ∃ b, readBoth plan chain events x = .error b ∧ b.cause = cause) :
    ∃ printed b, sample plan m ms = brokenReport printed b ∧ b.cause = cause ∧
      plan.Opens before printed := by
  have same : (TierChain.new plan.roots).roots = plan.roots := rfl
  cases before with
  | nil =>
      cases split
      obtain ⟨b, hb, because⟩ := breaks _ [] same
      refine ⟨"", b, ?_, because, .nothing⟩
      simp only [sample, start, hb, Except.map]
  | cons first before =>
      rw [List.cons_append, List.cons.injEq] at split
      obtain ⟨rfl, rfl⟩ := split
      rw [List.forall_mem_cons] at reads
      obtain ⟨o, ho, read, roots⟩ := exists_readBoth same [] m reads.1
      have started : start plan m = .ok (begin o) := by rw [start, ho]; rfl
      obtain ⟨os, hos, -, kept⟩ := exists_advanceAll (s := begin o) roots reads.2
      obtain ⟨b, hb, because⟩ := breaks _ ((begin o).extendAll os).events kept
      refine ⟨(begin o).opening plan, b, ?_, because, .opening read before⟩
      simp only [sample, started, advanceAll_append, hos, Except.bind, advanceAll, advance, hb,
        Except.map]

/-- **The samples show what is published.** The rows over any observations are,
figure by figure, the snapshots that a refresher publishes after the same
readings, whatever store it starts with. The command gives these rows if all of
its readings succeed, and its output shows each of them. At the first moment that is
not read it prints no more: it fails if a reading does, and breaks off if one does. -/
theorem rows_show_published (settings : RefresherSettings) (store : Store) :
    (∀ (first : Observation) (further : List Observation) (ticks : List Reading),
        List.Forall₂ Observation.ReadIn (first :: further) ticks →
        let shown n := ((Refresher.new settings store).refreshAll (ticks.take n)).store.latest
        let rows := ((begin first).extendAll further).rows
        rows.length = further.length ∧
          ∀ i row, rows[i]? = some row →
            row.index = i + 1 ∧ row.Shows (shown (i + 1)) (shown (i + 2))) ∧
      ∀ plan : SamplingPlan,
        (∀ x, plan.ReadsAt x ∨ plan.FailsAt x ∨ plan.OverflowsAt x) ∧
        ∀ (m : Moment) (ms : List Moment),
          ((∀ x ∈ m :: ms, plan.ReadsAt x) → ∃ first further,
            List.Forall₂ (fun o x => o.ReadAt plan x) (first :: further) (m :: ms) ∧
              let s := (begin first).extendAll further
              let output := (begin first).opening plan ++ s.closing plan
              sample plan m ms = .ok ⟨output, none, s.events⟩ ∧
                ShowsSamples plan.colour s.rows output plan.format) ∧
          ∀ before x after, m :: ms = before ++ x :: after → (∀ y ∈ before, plan.ReadsAt y) →
            (plan.FailsAt x → ∃ report, sample plan m ms = .ok report ∧ report.failure ≠ none ∧
              plan.Opens before report.output) ∧
            (plan.OverflowsAt x → ∃ printed, sample plan m ms = .error ⟨printed, .mk⟩ ∧
              plan.Opens before printed) := by
  refine ⟨?_, fun plan => ⟨plan.reads_or_breaks, fun m ms => ⟨?_, ?_⟩⟩⟩
  · intro first further ticks read shown rows
    refine ⟨?_, fun i row h => rows_show_snapshots settings store read h⟩
    simp [rows, rows_extendAll, begin]
  · intro reads
    rw [List.forall_mem_cons] at reads
    have same : (TierChain.new plan.roots).roots = plan.roots := rfl
    obtain ⟨o, ho, read, roots⟩ := exists_readBoth same [] m reads.1
    have started : start plan m = .ok (begin o) := by rw [start, ho]; rfl
    obtain ⟨os, hos, further, -⟩ := exists_advanceAll (s := begin o) roots reads.2
    refine ⟨o, os, .cons read further, ?_, showsSamples_closing plan _ _⟩
    simp only [sample, started, hos]
  · intro before x after split reads
    refine ⟨fun fails => ?_, fun overflows => ?_⟩
    · obtain ⟨e, breaks⟩ := readBoth_of_failsAt x fails
      obtain ⟨printed, b, broken, because, opens⟩ := sample_of_broken split reads breaks
      rw [brokenReport, because] at broken
      exact ⟨_, broken, Option.some_ne_none _, opens⟩
    · obtain ⟨printed, b, broken, because, opens⟩ :=
        sample_of_broken split reads (readBoth_of_overflowsAt x overflows)
      rw [brokenReport, because] at broken
      exact ⟨printed, broken, opens⟩

end Sampling
end Cli
end UsageMeter
