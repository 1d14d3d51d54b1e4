import UsageMeter.Proofs.Refresh

/-!
# What a refresh says of itself

A refresh is published as fresh exactly if each of its two readings succeeded
and continues the reading of its kind that the refresher holds from before, and
the counters are those of the container. The degraded flag of the snapshot
tells the same, neither more nor less.
-/

namespace UsageMeter

/-- Both parts of a reading succeeded and continue what is held of earlier
readings, and its counters are those of a control group. -/
structure Reading.Fresh (heldCounters : Option CounterSample)
    (heldProcess : Option ProcessSample) (x : Reading) : Prop where
  counters : ∃ prev curr, heldCounters = some prev ∧ x.counters = .ok curr ∧
    (curr.tier = .cgroupV2 ∨ curr.tier = .cgroupV1) ∧ prev.Continues curr
  process : ∃ prev curr, heldProcess = some prev ∧ x.process = .ok curr ∧
    prev.Continues curr

/-- Neither part of a reading succeeded. -/
def Reading.Lost (x : Reading) : Prop :=
  x.counters.toOption = none ∧ x.process.toOption = none

theorem Reading.Lost.errors {x : Reading} (h : x.Lost) :
    ∃ e e', x.counters = .error e ∧ x.process = .error e' := by
  obtain ⟨hc, hp⟩ := h
  cases counters : x.counters with
  | ok curr => rw [counters] at hc; cases hc
  | error e =>
      cases process : x.process with
      | ok curr => rw [process] at hp; cases hp
      | error e' => exact ⟨e, e', rfl, rfl⟩

namespace Refresher

theorem countersDegraded_eq_false_iff (r : Refresher) (x : Reading) :
    r.countersDegraded x.counters = false ↔
      ∃ prev curr, r.previousCounters = some prev ∧ x.counters = .ok curr ∧
        (curr.tier = .cgroupV2 ∨ curr.tier = .cgroupV1) ∧ prev.Continues curr := by
  unfold countersDegraded
  cases x.counters with
  | error e => simp
  | ok curr => cases r.previousCounters <;> simp [Meter.degraded_figure_iff]

theorem processDegraded_eq_false_iff (r : Refresher) (x : Reading) :
    r.processDegraded x.process = false ↔
      ∃ prev curr, r.previousProcess = some prev ∧ x.process = .ok curr ∧
        prev.Continues curr := by
  unfold processDegraded
  cases x.process with
  | error e => simp
  | ok curr =>
      cases r.previousProcess with
      | none => simp
      | some prev => simp [← ProcessSample.isSome_processUtilization_iff]

/-- The flag of the next snapshot is clear exactly for a fresh reading. -/
theorem degraded_nextSnapshot_iff (r : Refresher) (x : Reading) :
    (r.nextSnapshot x).degraded = false ↔ x.Fresh r.previousCounters r.previousProcess := by
  rw [degraded_nextSnapshot, Bool.or_eq_false_iff, countersDegraded_eq_false_iff,
    processDegraded_eq_false_iff]
  exact ⟨fun h => ⟨h.1, h.2⟩, fun h => ⟨h.counters, h.process⟩⟩

theorem outcome_of_lost (r : Refresher) {x : Reading} (h : x.Lost) :
    r.outcome x = .keptPrevious := by
  obtain ⟨e, e', hc, hp⟩ := h.errors
  simp only [outcome, hc, hp]

/-- A reading that is not wholly lost is judged by the flag it leaves. -/
theorem outcome_of_not_lost (r : Refresher) {x : Reading} (h : ¬ x.Lost) :
    r.outcome x = if (r.nextSnapshot x).degraded then .degraded else .published := by
  rw [degraded_nextSnapshot]
  unfold outcome
  cases hc : x.counters with
  | ok curr => cases x.process <;> rfl
  | error e =>
      cases hp : x.process with
      | ok curr => rfl
      | error e' => exact absurd ⟨by rw [hc]; rfl, by rw [hp]; rfl⟩ h

/-- After two failures only the flag is new. -/
theorem nextSnapshot_of_lost (r : Refresher) {x : Reading} (h : x.Lost) :
    r.nextSnapshot x = { r.store.latest with degraded := true } := by
  obtain ⟨e, e', hc, hp⟩ := h.errors
  simp only [nextSnapshot, hc, hp]

theorem outcome_eq_keptPrevious_iff (r : Refresher) (x : Reading) :
    r.outcome x = .keptPrevious ↔ x.Lost := by
  constructor
  · intro h
    by_contra hl
    rw [outcome_of_not_lost r hl] at h
    -- neither value of the flag gives this outcome
    split at h <;> cases h
  · exact outcome_of_lost r

theorem outcome_eq_published_iff (r : Refresher) (x : Reading) :
    r.outcome x = .published ↔ x.Fresh r.previousCounters r.previousProcess := by
  rw [← degraded_nextSnapshot_iff]
  by_cases h : x.Lost
  · rw [outcome_of_lost r h, nextSnapshot_of_lost r h]
    simp
  · rw [outcome_of_not_lost r h]
    cases (r.nextSnapshot x).degraded <;> simp

/-- **The flag is honest.** Whatever the refresher was at the start and whatever
it has read since, the next refresh is published as fresh exactly if its
reading continues the last successful ones, keeps the snapshot but for its flag
exactly if nothing could be read, and is degraded otherwise; and the flag it
leaves is clear exactly if it was published as fresh. -/
theorem outcome_after_refreshes (r : Refresher) (ticks : List Reading) (x : Reading) :
    let now := r.refreshAll ticks
    let heldCounters := (counterSamples ticks).getLast?.or r.previousCounters
    let heldProcess := (processSamples ticks).getLast?.or r.previousProcess
    (now.outcome x = .published ↔ x.Fresh heldCounters heldProcess) ∧
      (now.outcome x = .keptPrevious ↔ x.Lost) ∧
      (x.Lost → (now.refresh x).store.latest = { now.store.latest with degraded := true }) ∧
      (now.outcome x = .degraded ↔ ¬ x.Fresh heldCounters heldProcess ∧ ¬ x.Lost) ∧
      ((now.refresh x).store.latest.degraded = false ↔ now.outcome x = .published) := by
  intro now heldCounters heldProcess
  have hc : now.previousCounters = heldCounters := previousCounters_refreshAll r ticks
  have hp : now.previousProcess = heldProcess := previousProcess_refreshAll r ticks
  have published := now.outcome_eq_published_iff x
  have kept := now.outcome_eq_keptPrevious_iff x
  rw [hc, hp] at published
  refine ⟨published, kept, fun h => now.nextSnapshot_of_lost h, ?_, ?_⟩
  · rw [← published, ← kept]
    cases now.outcome x <;> simp
  · rw [latest_refresh, published, degraded_nextSnapshot_iff, hc, hp]

end Refresher
end UsageMeter
