import UsageMeter.Proofs.Outcome
import UsageMeter.Timeline

/-!
# The course of a refresher

Everything that is done with a refresher, refreshes by hand and whole runs in
any order, and the ticks that this comes to. A run publishes what refreshing by
hand on its readings would have published, so what each refresh keeps holds of
every snapshot on the course.
-/

namespace UsageMeter
open UsageMeter.Time

/-- Something that is done with a refresher. -/
inductive Action where
  /-- One refresh by hand. -/
  | refresh (reading : Reading)
  /-- A run until its shutdown. -/
  | run (shutdown : Shutdown) (around : Surroundings)

/-! ## The ticks of a run -/

/-- The readings of a run, by the times at which it read. -/
def Surroundings.readings (around : Surroundings) (reads : List ReadTimes) : List Reading :=
  reads.mapIdx fun k times => (around.reading k).toReading around.clock times.counters

/-- A run has come as far as refreshes by hand on the same readings. -/
def Progress.Follows (start : Refresher) (around : Surroundings) (p : Progress) : Prop :=
  p.refresher = start.refreshAll (around.readings p.reads.reverse)

theorem Progress.Follows.begin (r : Refresher) (around : Surroundings) :
    Follows r around r.begin := rfl

theorem Progress.Follows.advance {start : Refresher} {around : Surroundings} {p : Progress}
    (h : p.Follows start around) (period : Nat) :
    (p.advance period around).Follows start around := by
  unfold Follows Surroundings.readings at h ⊢
  -- the newest read comes first in the progress and last among the readings
  simp only [Progress.advance, List.reverse_cons, List.mapIdx_append, List.length_reverse,
    List.mapIdx_cons, List.mapIdx_nil, Nat.zero_add]
  rw [Refresher.refreshAll_concat, ← h]

theorem Progress.Follows.runUntil {start : Refresher} {around : Surroundings} {p : Progress}
    (h : p.Follows start around) (period : Nat) (pos : 0 < period) (stop : Nat) :
    (p.runUntil period pos stop around).Follows start around := by
  fun_induction Progress.runUntil period pos stop around p with
  | case1 p _ ih => exact ih (h.advance period)
  | case2 p _ => exact h

namespace Refresher

/-- What an action makes of a refresher. -/
def act (r : Refresher) : Action → Refresher
  | .refresh reading => r.refresh reading
  | .run shutdown around => (r.run shutdown around).refresher

/-- The readings that an action takes. -/
def ticksOf (r : Refresher) : Action → List Reading
  | .refresh reading => [reading]
  | .run shutdown around => around.readings (r.run shutdown around).reads

/-- What actions one after the other make of a refresher. -/
def actAll (r : Refresher) (actions : List Action) : Refresher :=
  actions.foldl act r

/-- The readings that actions take one after the other. -/
def ticks (r : Refresher) : List Action → List Reading
  | [] => []
  | a :: as => r.ticksOf a ++ (r.act a).ticks as

theorem actAll_append (r : Refresher) (as bs : List Action) :
    r.actAll (as ++ bs) = (r.actAll as).actAll bs :=
  List.foldl_append

theorem ticks_append (r : Refresher) (as bs : List Action) :
    r.ticks (as ++ bs) = r.ticks as ++ (r.actAll as).ticks bs := by
  induction as generalizing r with
  | nil => rfl
  | cons a as ih => rw [List.cons_append, ticks, ih, ticks, List.append_assoc]; rfl

/-- A run leaves behind what refreshes by hand on its readings would, but that
it stops the refresher. -/
theorem run_of_collecting {r : Refresher} (h : r.phase = .collecting) (shutdown : Shutdown)
    (around : Surroundings) :
    (r.run shutdown around).refresher =
      (r.refreshAll (around.readings (r.run shutdown around).reads)).stop := by
  have follows := (Progress.Follows.begin r around).runUntil
    r.settings.interval.nanos r.settings.interval_pos shutdown.time
  simp only [run, h]
  rw [← follows]

/-- A refresher that is stopped takes no readings in a run. -/
theorem run_of_stopped {r : Refresher} (h : r.phase = .stopped) (shutdown : Shutdown)
    (around : Surroundings) : r.run shutdown around = ⟨r, [], []⟩ := by
  simp only [run, h]

/-- Whatever is done, the store comes to what the ticks publish. -/
theorem store_act (r : Refresher) (a : Action) :
    (r.act a).store = (r.refreshAll (r.ticksOf a)).store := by
  cases a with
  | refresh reading => rfl
  | run shutdown around =>
      cases h : r.phase with
      | collecting => simp only [act, ticksOf, run_of_collecting h, stop]
      | stopped => simp only [act, ticksOf, run_of_stopped h]; rfl

/-- Every course shows the time of its last tick with counters. -/
theorem updatedAt_actAll (r : Refresher) (actions : List Action) :
    (r.actAll actions).store.latest.updatedAt =
      (countersReadAt (r.ticks actions)).or r.store.latest.updatedAt := by
  induction actions generalizing r with
  | nil => rfl
  | cons a as ih =>
      calc (r.actAll (a :: as)).store.latest.updatedAt
          = (countersReadAt ((r.act a).ticks as)).or (r.act a).store.latest.updatedAt := ih _
        _ = (countersReadAt ((r.act a).ticks as)).or
              ((countersReadAt (r.ticksOf a)).or r.store.latest.updatedAt) := by
            rw [store_act, updatedAt_refreshAll]
        _ = (countersReadAt (r.ticks (a :: as))).or r.store.latest.updatedAt := by
            rw [ticks, countersReadAt_append, Option.or_assoc]

end Refresher

/-! ## What every snapshot on a course has -/

/-- **The snapshot invariant**: a tier is named exactly when counters have been
read at some time, and figures of the whole host are marked as degraded. -/
structure Snapshot.Consistent (s : Snapshot) : Prop where
  named : s.tier.isSome = s.updatedAt.isSome
  host : s.tier = some .procStat → s.degraded = true

theorem Snapshot.Consistent.initial (pid cpus : UInt32) : (initial pid cpus).Consistent :=
  ⟨rfl, fun h => nomatch h⟩

namespace Refresher

/-- Figures published as fresh are those of the counters just read. -/
theorem tier_nextSnapshot_of_fresh (r : Refresher) {x : Reading}
    (h : x.Fresh r.previousCounters r.previousProcess) :
    (r.nextSnapshot x).tier = some .cgroupV2 ∨ (r.nextSnapshot x).tier = some .cgroupV1 := by
  obtain ⟨prev, curr, held, read, container, continues⟩ := h.counters
  have basis : (r.meter.figure prev curr).basis = curr.tier := by
    rw [Meter.figure_of_continues _ continues]
    rfl
  rw [tier_nextSnapshot, held, read]
  simpa only [basis, Option.some.injEq] using container

/-- A refresh keeps the snapshot invariant, whatever the refresher remembers. -/
theorem consistent_nextSnapshot {r : Refresher} (h : r.store.latest.Consistent) (x : Reading) :
    (r.nextSnapshot x).Consistent := by
  refine ⟨?_, ?_⟩
  · rw [tier_nextSnapshot, updatedAt_nextSnapshot]
    cases x.counters with
    | error e => exact h.named
    | ok curr => cases r.previousCounters <;> rfl
  · intro host
    by_contra clear
    rw [Bool.not_eq_true, degraded_nextSnapshot_iff] at clear
    rcases r.tier_nextSnapshot_of_fresh clear with tier | tier <;>
      rw [tier] at host <;> cases host

theorem consistent_refreshAll {r : Refresher} (h : r.store.latest.Consistent)
    (ticks : List Reading) : (r.refreshAll ticks).store.latest.Consistent := by
  induction ticks generalizing r with
  | nil => exact h
  | cons x xs ih => exact ih (r.consistent_nextSnapshot h x)

/-- **Every snapshot on a course keeps the snapshot invariant.** -/
theorem consistent_actAll {r : Refresher} (h : r.store.latest.Consistent)
    (actions : List Action) : (r.actAll actions).store.latest.Consistent := by
  induction actions generalizing r with
  | nil => exact h
  | cons a as ih =>
      apply ih
      rw [store_act]
      exact consistent_refreshAll h (r.ticksOf a)

end Refresher

end UsageMeter
