import Mathlib.Order.Monotone.Basic
import UsageMeter.Proofs.Course

/-!
# The pace of a run

When a run refreshes. It starts a refresh at every tick of its schedule until
it is shut down, so its starts depend on the period and on how long the
readings take, and on nothing that is read. They never come in a burst, never
overlap, and drift only after a refresh that takes longer than the period.
-/

namespace UsageMeter
namespace Refresher

/-- The progress of a run that nothing shuts down, after so many refreshes. -/
def progress (r : Refresher) (around : Surroundings) : Nat → Progress
  | 0 => r.begin
  | k + 1 => (r.progress around k).advance r.settings.interval.nanos around

section
variable (r : Refresher) (around : Surroundings) (k : Nat)

/-- When a refresh starts, if the run comes to it. -/
def startOf : Nat := (r.progress around k).start

/-- When the two reads of a refresh start. -/
def readTimesOf : ReadTimes :=
  ⟨r.startOf around k, r.startOf around k + (around.reading k).countersTook⟩

/-! ## From one refresh to the next -/

theorem length_reads_progress : (r.progress around k).reads.length = k := by
  induction k with
  | zero => rfl
  | succ k ih => simp only [progress, Progress.advance, List.length_cons, ih]

theorem now_progress_succ :
    (r.progress around (k + 1)).now = r.startOf around k + (around.reading k).duration := by
  simp only [progress, Progress.advance, length_reads_progress, startOf]

theorem deadline_progress_succ :
    (r.progress around (k + 1)).deadline =
      Schedule.nextDeadline r.settings.interval.nanos (r.progress around k).deadline
        (r.startOf around k) := rfl

theorem reverse_reads_progress :
    (r.progress around k).reads.reverse = (List.range k).map (r.readTimesOf around) := by
  induction k with
  | zero => rfl
  | succ k ih =>
      rw [List.range_succ, List.map_append, ← ih]
      simp only [progress, Progress.advance, length_reads_progress, List.reverse_cons]
      rfl

/-- Deadlines are a period apart or more. -/
theorem mul_le_deadline : k * r.settings.interval.nanos ≤ (r.progress around k).deadline := by
  induction k with
  | zero => exact Nat.le_of_eq (Nat.zero_mul _)
  | succ k ih =>
      rw [Nat.succ_mul, deadline_progress_succ]
      exact Nat.le_trans (Nat.add_le_add_right ih _) (Schedule.add_period_le_nextDeadline _ _ _)

theorem mul_le_startOf : k * r.settings.interval.nanos ≤ r.startOf around k :=
  Nat.le_trans (r.mul_le_deadline around k) (Schedule.deadline_le_firing _ _)

/-- A refresh is finished before the next one starts. -/
theorem startOf_add_duration_le :
    r.startOf around k + (around.reading k).duration ≤ r.startOf around (k + 1) := by
  rw [← now_progress_succ]
  exact Schedule.now_le_firing _ _

theorem startOf_add_period_le :
    r.startOf around k + r.settings.interval.nanos ≤
      r.startOf around (k + 1) + Schedule.tolerance := by
  calc r.startOf around k + r.settings.interval.nanos
      ≤ (r.progress around (k + 1)).deadline + Schedule.tolerance :=
        Schedule.firing_add_period_le _ _ _
    _ ≤ r.startOf around (k + 1) + Schedule.tolerance :=
        Nat.add_le_add_right (Schedule.deadline_le_firing _ _) _

theorem monotone_startOf : Monotone (r.startOf around) :=
  monotone_nat_of_le_succ fun k =>
    Nat.le_trans (Nat.le_add_right _ _) (r.startOf_add_duration_le around k)

/-- Refreshes that fit into the period leave every later tick where it was. -/
theorem startOf_of_fits {r : Refresher} {around : Surroundings} {k : Nat}
    (fits : ∀ j < k, (around.reading j).duration ≤ r.settings.interval.nanos) :
    r.startOf around k = k * r.settings.interval.nanos := by
  -- the run waits for a tick before it is due
  have waits : (r.progress around k).deadline = k * r.settings.interval.nanos ∧
      (r.progress around k).now ≤ (r.progress around k).deadline := by
    induction k with
    | zero => exact ⟨(Nat.zero_mul _).symm, Nat.le_refl _⟩
    | succ k ih =>
        obtain ⟨due, waiting⟩ := ih fun j hj => fits j (Nat.lt_succ_of_lt hj)
        have start : r.startOf around k = (r.progress around k).deadline :=
          Schedule.firing_of_le waiting
        have next : (r.progress around (k + 1)).deadline =
            (r.progress around k).deadline + r.settings.interval.nanos := by
          rw [deadline_progress_succ, start, Schedule.nextDeadline_self]
        rw [now_progress_succ, start, next, due, Nat.succ_mul]
        exact ⟨rfl, Nat.add_le_add_left (fits k (Nat.lt_succ_self k)) _⟩
  obtain ⟨due, waiting⟩ := waits
  exact (Schedule.firing_of_le waiting).trans due

/-- The starts are those of a schedule on which the readings take as long. -/
theorem map_startOf_range (n : Nat) :
    (List.range n).map (r.startOf around) =
      Schedule.starts r.settings.interval.nanos 0 0
        ((List.range n).map fun k => (around.reading k).duration) := by
  -- the schedule may be entered after any number of refreshes
  have entered : ∀ k, (List.range' k n).map (r.startOf around) =
      Schedule.starts r.settings.interval.nanos (r.progress around k).deadline
        (r.progress around k).now ((List.range' k n).map fun j => (around.reading j).duration) := by
    induction n with
    | zero => exact fun _ => rfl
    | succ n ih =>
        intro k
        rw [List.range'_succ, List.map_cons, List.map_cons, Schedule.starts, ih (k + 1),
          now_progress_succ]
        rfl
  rw [List.range_eq_range']
  exact entered 0

end

/-! ## Until the shutdown -/

/-- A run goes on until the next refresh would not start before its end. -/
theorem runUntil_progress (r : Refresher) (around : Surroundings) (stop k : Nat) :
    ∃ n, (r.progress around k).runUntil r.settings.interval.nanos r.settings.interval_pos stop
        around = r.progress around n ∧
      (∀ j, k ≤ j → j < n → r.startOf around j < stop) ∧ stop ≤ r.startOf around n := by
  generalize reached : r.progress around k = p
  fun_induction Progress.runUntil r.settings.interval.nanos r.settings.interval_pos stop around p
    generalizing k with
  | case1 p before ih =>
      subst reached
      obtain ⟨n, ends, earlier, late⟩ := ih (k + 1) rfl
      refine ⟨n, ends, fun j hj hn => ?_, late⟩
      rcases Nat.eq_or_lt_of_le hj with rfl | later
      · exact before
      · exact earlier j later hn
  | case2 p after =>
      subst reached
      exact ⟨k, rfl, fun j hj hk => absurd hk (Nat.not_lt.mpr hj), Nat.le_of_not_lt after⟩

/-- A run consists of the refreshes that start before its end. -/
theorem run_eq_progress {r : Refresher} (collecting : r.phase = .collecting)
    (shutdown : Shutdown) (around : Surroundings) :
    ∃ n, (∀ k, k < n ↔ r.startOf around k < shutdown.time) ∧
      (r.run shutdown around).reads = (List.range n).map (r.readTimesOf around) ∧
      (r.run shutdown around).refresher = (r.progress around n).refresher.stop := by
  obtain ⟨n, ends, earlier, late⟩ := r.runUntil_progress around shutdown.time 0
  refine ⟨n, fun k => ⟨earlier k (Nat.zero_le k), fun before => ?_⟩, ?_, ?_⟩
  · by_contra beyond
    have := r.monotone_startOf around (Nat.le_of_not_lt beyond)
    omega
  · rw [← reverse_reads_progress, ← ends, run, collecting]
    rfl
  · rw [← ends, run, collecting]
    rfl

/-- **Refreshes keep their pace.** For any period and however long the readings
take, a run refreshes at the starts of its schedule that come before its
shutdown. No start comes before its multiple of the period, none before the
refresh ahead of it is finished, and none sooner after another than the period
less the tolerance; and as long as every refresh has fitted into the period,
starts are exact multiples of it. -/
theorem starts_keep_pace (r : Refresher) (around : Surroundings) :
    let period := r.settings.interval.nanos
    let took k := (around.reading k).duration
    let start := r.startOf around
    (∀ k, k * period ≤ start k ∧
        start k + took k ≤ start (k + 1) ∧
        start k + period ≤ start (k + 1) + Schedule.tolerance ∧
        ((∀ j < k, took j ≤ period) → start k = k * period)) ∧
      (∀ n, (List.range n).map start = Schedule.starts period 0 0 ((List.range n).map took)) ∧
      ∀ shutdown, r.phase = .collecting →
        ∃ n, (r.run shutdown around).reads.map ReadTimes.counters = (List.range n).map start ∧
          ∀ k, k < n ↔ start k < shutdown.time := by
  intro period took start
  refine ⟨fun k => ⟨?_, ?_, ?_, ?_⟩, r.map_startOf_range around, ?_⟩
  · exact r.mul_le_startOf around k
  · exact r.startOf_add_duration_le around k
  · exact r.startOf_add_period_le around k
  · exact startOf_of_fits
  · intro shutdown collecting
    obtain ⟨n, before, reads, -⟩ := run_eq_progress collecting shutdown around
    refine ⟨n, ?_, before⟩
    rw [reads, List.map_map]
    rfl

/-- Two milliseconds too long bring the next start closer by as much, six move
every later tick. -/
example :
    Schedule.starts 10000000 0 0 [12000000, 1000000, 0] = [0, 12000000, 20000000] ∧
      Schedule.starts 10000000 0 0 [16000000, 1000000, 0] = [0, 16000000, 26000000] := by decide

end Refresher
end UsageMeter
