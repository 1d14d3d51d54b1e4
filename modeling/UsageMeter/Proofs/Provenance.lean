import UsageMeter.Proofs.Course

/-!
# Where the container's figure comes from

The counters on a course fall into stretches, one for each time the refresher
started without any. Within a stretch every reading is measured against the one
before it; the first of a stretch can only prime. A refresh that measures, and one
that discards what it would measure, shows a percentage with the tier that it was
measured under. One that primes leaves the percentage as it was and shows its own
tier with it.
-/

namespace UsageMeter
open UsageMeter.Time

/-! ## Stretches of counters -/

/-- A step on the course of a refresher. -/
inductive Move where
  /-- A tick, by hand or in a run. -/
  | tick (reading : Reading)
  /-- A run ends. -/
  | ended

/-- The counters that were read, apart for each stretch between the ends of runs. -/
def stretches : List Move → List (List CounterSample)
  | [] => [[]]
  | .tick x :: ms => (stretches ms).modifyHead (x.counters.toOption.toList ++ ·)
  | .ended :: ms => [] :: stretches ms

/-- The counters of the last stretch that has any. -/
def lastRead : List (List CounterSample) → List CounterSample
  | [] => []
  | cs :: css =>
    match lastRead css with
    | [] => cs
    | later => later

/-- The counters that were read one after the other in a stretch. -/
def successive (css : List (List CounterSample)) : List (CounterSample × CounterSample) :=
  css.flatMap neighbours

theorem exists_stretches (ms : List Move) : ∃ cs css, stretches ms = cs :: css := by
  induction ms with
  | nil => exact ⟨[], [], rfl⟩
  | cons m ms ih =>
      cases m with
      | ended => exact ⟨[], stretches ms, rfl⟩
      | tick x =>
          obtain ⟨cs, css, h⟩ := ih
          exact ⟨_, css, by rw [stretches, h]; rfl⟩

/-- The pairs that are measured by a refresher that holds counters from before. -/
def measuredFrom (held : Option CounterSample) :
    List (List CounterSample) → List (CounterSample × CounterSample)
  | [] => []
  | cs :: css => neighbours (held.toList ++ cs) ++ successive css

/-- The tier of the counters that primed, if those read last did; `before` tells it
of what was read before the stretch. -/
def primerAfter (before : Option Tier) (held : Option CounterSample) :
    List CounterSample → Option Tier
  | [] => before
  | [c] => if held.isNone then some c.tier else none
  | _ => none

/-- The tier of the counters that primed, if those read last in any stretch did. -/
def primerFrom (before : Option Tier) (held : Option CounterSample) :
    List (List CounterSample) → Option Tier
  | [] => before
  | cs :: css => primerFrom (primerAfter before held cs) none css

/-- The counters read last primed if they are the only ones of their stretch. -/
theorem primerFrom_none (before : Option Tier) (css : List (List CounterSample)) :
    primerFrom before none css = primerAfter before none (lastRead css) := by
  induction css generalizing before with
  | nil => rfl
  | cons cs css ih =>
      rw [primerFrom, ih, lastRead]
      -- a later stretch with counters hides this one
      cases lastRead css with
      | nil => rfl
      | cons c later => cases later <;> rfl

/-! ## The course in steps -/

namespace Refresher

/-- What a step makes of a refresher. -/
def move (r : Refresher) : Move → Refresher
  | .tick x => r.refresh x
  | .ended => r.stop

/-- What steps one after the other make of a refresher. -/
def moveAll (r : Refresher) (ms : List Move) : Refresher :=
  ms.foldl move r

/-- The steps of an action. -/
def movesOf (r : Refresher) : Action → List Move
  | .refresh x => [.tick x]
  | .run shutdown around =>
    match r.phase with
    | .stopped => []
    | .collecting => (r.ticksOf (.run shutdown around)).map .tick ++ [.ended]

/-- The steps of actions one after the other. -/
def moves (r : Refresher) : List Action → List Move
  | [] => []
  | a :: as => r.movesOf a ++ (r.act a).moves as

theorem moveAll_append (r : Refresher) (ms ns : List Move) :
    r.moveAll (ms ++ ns) = (r.moveAll ms).moveAll ns :=
  List.foldl_append

theorem moveAll_map_tick (r : Refresher) (ticks : List Reading) :
    r.moveAll (ticks.map .tick) = r.refreshAll ticks :=
  List.foldl_map

theorem moveAll_movesOf (r : Refresher) (a : Action) : r.moveAll (r.movesOf a) = r.act a := by
  cases a with
  | refresh x => rfl
  | run shutdown around =>
      cases h : r.phase with
      | stopped =>
          rw [movesOf, act, h, run_of_stopped h]
          rfl
      | collecting =>
          rw [movesOf, act, h, run_of_collecting h, moveAll_append, moveAll_map_tick]
          rfl

/-- The steps of a course lead where the course does. -/
theorem moveAll_moves (r : Refresher) (as : List Action) : r.moveAll (r.moves as) = r.actAll as := by
  induction as generalizing r with
  | nil => rfl
  | cons a as ih =>
      rw [moves, moveAll_append, moveAll_movesOf, ih]
      rfl

/-- The meter has measured all counters that were read one after the other in a
stretch, the first of them against what was held at the start. -/
theorem meter_moveAll (r : Refresher) (ms : List Move) :
    (r.moveAll ms).meter =
      r.meter.measureAll (measuredFrom r.previousCounters (stretches ms)) := by
  induction ms generalizing r with
  | nil => cases r.previousCounters <;> rfl
  | cons m ms ih =>
      obtain ⟨cs, css, h⟩ := exists_stretches ms
      cases m with
      | ended =>
          show (r.stop.moveAll ms).meter = _
          rw [ih, stretches, h]
          cases r.previousCounters <;> rfl
      | tick x =>
          show ((r.refresh x).moveAll ms).meter = _
          rw [ih, stretches, h, meter_refresh, ← Meter.measureAll_append, List.modifyHead_cons,
            measuredFrom, measuredFrom, neighbours_held_append, List.append_assoc]

/-! ## The figure and its tier -/

/-- **The provenance invariant** of a course from a refresher without figures: the
percentage is that of the meter's last figure or else that at the start. The tier
is the figure's, too, unless the counters read last primed. -/
structure Labelled (start : Snapshot) (primer : Option Tier) (r : Refresher) : Prop where
  percent : r.store.latest.cpuPercent =
    (r.meter.last.map Figure.percent).getD start.cpuPercent
  tier : r.store.latest.tier = primer.or ((r.meter.last.map Figure.basis).or start.tier)

theorem Labelled.new (settings : RefresherSettings) (store : Store) :
    Labelled store.latest none (Refresher.new settings store) :=
  ⟨rfl, rfl⟩

theorem Labelled.refresh {start : Snapshot} {primer : Option Tier} {r : Refresher}
    (h : Labelled start primer r) (x : Reading) :
    Labelled start (primerAfter primer r.previousCounters x.counters.toOption.toList)
      (r.refresh x) := by
  rcases container_refresh r x with
    ⟨prev, curr, held, read, meter, percent, tier⟩ | ⟨unmeasured, meter, percent, tier⟩
  · rw [held, read]
    exact ⟨by rw [percent, meter]; rfl, by rw [tier, meter]; rfl⟩
  · refine ⟨by rw [percent, meter]; exact h.percent, ?_⟩
    rw [tier, meter, h.tier, ← Option.or_assoc]
    congr 1
    -- counters that were read without any before them are the primer now
    rcases unmeasured with held | read
    · rw [held]
      cases x.counters <;> rfl
    · rw [read]
      rfl

theorem Labelled.stop {start : Snapshot} {primer : Option Tier} {r : Refresher}
    (h : Labelled start primer r) : Labelled start primer r.stop :=
  ⟨h.percent, h.tier⟩

theorem Labelled.moveAll {start : Snapshot} {primer : Option Tier} {r : Refresher}
    (h : Labelled start primer r) (ms : List Move) :
    Labelled start (primerFrom primer r.previousCounters (stretches ms)) (r.moveAll ms) := by
  induction ms generalizing r primer with
  | nil => exact h
  | cons m ms ih =>
      obtain ⟨cs, css, hcs⟩ := exists_stretches ms
      cases m with
      | ended =>
          have after := ih h.stop
          rw [hcs] at after
          rw [stretches, hcs]
          exact after
      | tick x =>
          have after := ih (h.refresh x)
          have same : primerAfter primer r.previousCounters (x.counters.toOption.toList ++ cs) =
              primerAfter (primerAfter primer r.previousCounters x.counters.toOption.toList)
                (r.refresh x).previousCounters cs := by
            rw [previousCounters_refresh]
            cases x.counters with
            | error e => rfl
            | ok curr =>
                -- what follows in the stretch is measured against `curr`
                rcases cs with _ | ⟨c, _ | ⟨d, ds⟩⟩ <;> rfl
          rw [hcs, primerFrom, ← same] at after
          rw [stretches, hcs]
          exact after

end Refresher

/-- A percentage was measured under a tier: before the start, or over the interval
between two of the readings. -/
inductive MeasuredUnder (start : Snapshot) (pairs : List (CounterSample × CounterSample))
    (percent : Float) : Tier → Prop where
  | before {t : Tier} : start.tier = some t → percent = start.cpuPercent →
    MeasuredUnder start pairs percent t
  | interval {prev curr : CounterSample} : (prev, curr) ∈ pairs → prev.Continues curr →
    percent = utilization (curr.active - prev.active) (curr.total - prev.total)
      curr.cpus curr.tier →
    MeasuredUnder start pairs percent curr.tier

/-- A figure that is recalled is that of an interval, or nothing was used. -/
theorem Meter.recalled_cases {pairs : List (CounterSample × CounterSample)} {f : Figure}
    (h : recalled pairs = some f) :
    f.percent = Float.ofNat 0 ∨
      ∃ p ∈ pairs, p.1.Continues p.2 ∧ f = Figure.ofInterval p.1 p.2 := by
  rw [recalled, Option.or_eq_some_iff] at h
  rcases h with measured | ⟨-, first⟩
  · obtain ⟨p, hp, interval⟩ := List.mem_filterMap.mp (List.mem_of_getLast? measured)
    rw [Figure.ofInterval?] at interval
    split at interval
    · rename_i bounds
      exact .inr ⟨p, hp, (CounterSample.bounds_iff _ _).mp bounds,
        (Option.some.inj interval).symm⟩
    · cases interval
  · obtain ⟨p, -, rfl⟩ := Option.map_eq_some_iff.mp first
    exact .inl rfl

namespace Refresher

/-- **A figure keeps the tier it was measured under, unless counters prime.** On every
course the percentage is that of the last interval or, without one, that at the start,
and it has a tier of its own. That tier is shown with it as long as the counters read
last were measured against others. If they primed, theirs is shown in its place. -/
theorem tier_of_shown_figure (settings : RefresherSettings) (store : Store)
    (actions : List Action) :
    let start := new settings store
    let counters := stretches (start.moves actions)
    let figure := Meter.recalled (successive counters)
    let own := (figure.map Figure.basis).or store.latest.tier
    let s := (start.actAll actions).store.latest
    s.cpuPercent = (figure.map Figure.percent).getD store.latest.cpuPercent ∧
      (s.cpuPercent ≠ Float.ofNat 0 → ∀ t, own = some t →
        MeasuredUnder store.latest (successive counters) s.cpuPercent t) ∧
      ((∀ primer, lastRead counters ≠ [primer]) → s.tier = own) ∧
      ∀ primer, lastRead counters = [primer] → s.tier = some primer.tier := by
  intro start counters figure own s
  have labelled := (Labelled.new settings store).moveAll (start.moves actions)
  rw [moveAll_moves] at labelled
  have held : start.previousCounters = none := rfl
  have meter : (start.actAll actions).meter = Meter.new.measureAll (successive counters) := by
    obtain ⟨cs, css, h⟩ := exists_stretches (start.moves actions)
    have measured := start.meter_moveAll (start.moves actions)
    rw [moveAll_moves, held, h] at measured
    rw [measured, successive, show counters = cs :: css from h]
    rfl
  have percent : s.cpuPercent = (figure.map Figure.percent).getD store.latest.cpuPercent := by
    rw [← Meter.map_last_measureAll_new Figure.percent (fun _ => rfl), ← meter]
    exact labelled.percent
  have tier : s.tier = (primerAfter none none (lastRead counters)).or own := by
    simp only [own, figure]
    rw [← Meter.map_last_measureAll_new Figure.basis (fun _ => rfl), ← meter,
      ← primerFrom_none]
    exact labelled.tier
  refine ⟨percent, ?_, ?_, ?_⟩
  · intro used t ht
    cases hf : figure with
    | none =>
        rw [hf] at percent
        exact .before (by simpa [own, hf] using ht) percent
    | some f =>
        rw [hf] at percent
        obtain rfl : f.basis = t := by simpa [own, hf] using ht
        rcases Meter.recalled_cases hf with nothing | ⟨⟨prev, curr⟩, hp, continues, rfl⟩
        · exact absurd (percent.trans nothing) used
        · exact .interval hp continues percent
  · intro unprimed
    rw [tier]
    match hl : lastRead counters with
    | [] => rfl
    | [c] => exact absurd hl (unprimed c)
    | _ :: _ :: _ => rfl
  · intro primer primed
    rw [tier, primed]
    rfl

/-- Counters of the host prime a refresher whose store shows a figure of the container:
the figure is then shown as one of the host. -/
theorem figure_relabelled_by_priming :
    let shown : Snapshot := { Snapshot.initial 42 2 with
      cpuPercent := Float.ofNat 40, updatedAt := some ⟨100, 0⟩, degraded := false,
      tier := some .cgroupV2 }
    let start := new ⟨42, "svc", Span.ofSeconds 5, by decide⟩ (Store.new shown)
    let actions : List Action :=
      [.refresh ⟨.ok ⟨.procStat, 150, 1000, none, none, 2, 0⟩, .error (.exhausted []),
        ⟨105, 0⟩, Float.ofNat 0⟩]
    let s := (start.actAll actions).store.latest
    s.tier = some .procStat ∧ s.cpuPercent ≠ Float.ofNat 0 ∧
      s.cpuPercent = shown.cpuPercent ∧ shown.tier = some .cgroupV2 ∧
      ¬ MeasuredUnder shown (successive (stretches (start.moves actions))) s.cpuPercent
        .procStat := by
  intro shown start actions s
  refine ⟨rfl, by decide, rfl, rfl, ?_⟩
  intro measured
  generalize ht : Tier.procStat = t at measured
  cases measured with
  | before own _ => cases ht; cases own
  | interval pair _ _ => cases pair

end Refresher
end UsageMeter
