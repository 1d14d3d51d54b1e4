import UsageMeter.Exposition
import UsageMeter.Proofs.Refresh

/-!
# The meter's account of itself

What the exported account of a refresher has come to after any number of
refreshes: failed reads by component, counters that went backwards, and the tier
of the last reading. A counter is compared with the one read before it, however
many failures lie between them, and each one that went backwards is reported in
the tick that counts it.
-/

namespace UsageMeter

/-! ## What is counted -/

/-- Counters of one tier of which one went backwards. -/
def CounterSample.WentBackwards (prev curr : CounterSample) : Prop :=
  curr.tier = prev.tier ∧ (curr.active < prev.active ∨ curr.total < prev.total)

instance (prev curr : CounterSample) : Decidable (prev.WentBackwards curr) :=
  inferInstanceAs (Decidable (_ ∧ _))

theorem CounterSample.resets_iff (prev curr : CounterSample) :
    resets prev curr = true ↔ prev.WentBackwards curr := by
  simp [resets, WentBackwards]

/-- A reading was left without one of its parts. -/
def Reading.fails (x : Reading) : Component → Bool
  | .counterSource => x.counters.toOption.isNone
  | .processProbe => x.process.toOption.isNone

/-- An event reports a counter that went backwards. -/
def Event.isReset : Event → Bool
  | .counterReset .. => true
  | _ => false

/-! ## What is exported -/

/-- Families show a value under a name and labels. -/
def Exposition.Shows (families : List Family) (name : String)
    (labels : List (String × String)) (value : String) : Prop :=
  ∃ f ∈ families, f.name = name ∧ ∃ s ∈ f.samples, s.nameEnd = "" ∧ s.labels = labels ∧
    value = s.value

theorem Component.name_injective : Function.Injective Component.name := by
  intro c d
  cases c <;> cases d <;> decide

theorem Tier.name_injective : Function.Injective Tier.name := by
  intro t u same
  have read := congrArg Tier.ofName? same
  rwa [Tier.ofName?_name, Tier.ofName?_name, Option.some.injEq] at read

namespace SelfMetrics
open Exposition
variable (m : SelfMetrics)

/-- Nothing is shown in a family without samples, so leaving these out hides nothing. -/
theorem shows_ofSelfMetrics_iff (name : String) (labels : List (String × String))
    (value : String) :
    Shows (ofSelfMetrics m) name labels value ↔ Shows (selfFamilies m) name labels value := by
  unfold Shows ofSelfMetrics
  constructor
  · rintro ⟨f, mem, shown⟩
    exact ⟨f, (List.mem_filter.mp mem).1, shown⟩
  · rintro ⟨f, mem, named, s, sample, shown⟩
    refine ⟨f, List.mem_filter.mpr ⟨mem, ?_⟩, named, s, sample, shown⟩
    rw [Bool.not_eq_true', List.isEmpty_eq_false_iff]
    exact List.ne_nil_of_mem sample

/-- Of samples with different labels, one shows the value of its own. -/
theorem exists_labelled_iff {α : Type} {name : α → String} (distinct : Function.Injective name)
    {xs : List α} {x : α} (mem : x ∈ xs) (key : String) (get : α → Option Nat) (value : String) :
    (∃ s ∈ xs.filterMap fun y => labelled key (name y) (get y),
        s.nameEnd = "" ∧ s.labels = [(key, name x)] ∧ value = s.value) ↔
      ∃ n, get x = some n ∧ value = toString n := by
  simp only [List.mem_filterMap, labelled, Option.map_eq_some_iff]
  constructor
  · rintro ⟨s, ⟨y, -, n, held, rfl⟩, -, labels, rfl⟩
    obtain rfl : y = x := distinct (by simpa using labels)
    exact ⟨n, held, rfl⟩
  · rintro ⟨n, held, rfl⟩
    exact ⟨_, ⟨x, mem, n, held, rfl⟩, rfl, rfl, rfl⟩

/-- What is counted of a component is there from the first failure on. -/
theorem errors_eq_some_iff (c : Component) (n : Nat) :
    m.errors c = some n ↔ m.errors c ≠ none ∧ n = m.errorCount c := by
  unfold errorCount
  cases m.errors c <;> simp [eq_comm]

theorem shows_errors_iff (c : Component) (value : String) :
    Shows (ofSelfMetrics m) "usage_engine_refresh_errors_total" [("component", c.name)] value ↔
      ∃ n, m.errors c = some n ∧ value = toString n := by
  have mem : c ∈ [Component.counterSource, .processProbe] := by cases c <;> decide
  rw [shows_ofSelfMetrics_iff, ← exists_labelled_iff Component.name_injective mem "component"]
  simp [Shows, selfFamilies, -List.mem_filterMap]

theorem shows_resets_iff (value : String) :
    Shows (ofSelfMetrics m) "usage_engine_counter_resets_total" [] value ↔
      value = toString m.resets := by
  rw [shows_ofSelfMetrics_iff]
  simp [Shows, selfFamilies]

theorem shows_tier_iff (t : Tier) (value : String) :
    Shows (ofSelfMetrics m) "usage_engine_source_tier" [("kind", t.name)] value ↔
      ∃ n, m.tiers t = some n ∧ value = toString n := by
  have mem : t ∈ Tier.all.mergeSort fun a b => a.name ≤ b.name :=
    List.mem_mergeSort.mpr t.mem_all
  rw [shows_ofSelfMetrics_iff, ← exists_labelled_iff Tier.name_injective mem "kind"]
  simp [Shows, selfFamilies, -List.mem_filterMap]

end SelfMetrics

namespace Refresher

/-! ## One refresh -/

section
variable (r : Refresher) (x : Reading)

/-- A component that fails is counted, whether or not it was before. -/
theorem errors_refresh (c : Component) :
    (r.refresh x).metrics.errors c =
      if x.fails c then some (r.metrics.errorCount c + 1) else r.metrics.errors c := by
  show (countProcess (r.countCounters r.metrics x.counters) x.process).errors c = _
  unfold countCounters countProcess Reading.fails
  cases x.counters with
  | error e =>
      cases x.process <;> cases c <;> rfl
  | ok curr =>
      show (countProcess (if r.countersReset (.ok curr) then _ else _) _).errors c = _
      cases r.countersReset (.ok curr) <;> cases x.process <;> cases c <;> rfl

/-- A refresh writes the gauge of every tier. -/
theorem tiers_refresh (t : Tier) :
    (r.refresh x).metrics.tiers t =
      some (if x.counters.toOption.map CounterSample.tier = some t then 1 else 0) := by
  show (countProcess (r.countCounters r.metrics x.counters) x.process).tiers t = _
  unfold countCounters countProcess
  cases x.counters with
  | error e => cases x.process <;> exact SelfMetrics.tiers_useTier _ none t
  | ok curr =>
      show (countProcess (if r.countersReset (.ok curr) then _ else _) _).tiers t = _
      cases r.countersReset (.ok curr) <;> cases x.process <;>
        exact SelfMetrics.tiers_useTier _ (some curr.tier) t

theorem countersReset_of_none {r : Refresher} (held : r.previousCounters = none)
    (counters : Except ReadError CounterSample) : r.countersReset counters = false := by
  cases counters <;> simp only [countersReset, held]

theorem countersReset_of_some {r : Refresher} {prev : CounterSample}
    (held : r.previousCounters = some prev) (curr : CounterSample) :
    r.countersReset (.ok curr) = prev.resets curr := by
  simp only [countersReset, held]

/-- A refresh compares the counters it reads with those it holds, if there are both. -/
theorem resets_refresh :
    (r.refresh x).metrics.resets = r.metrics.resets +
      (neighbours (r.previousCounters.toList ++ x.counters.toOption.toList)).countP
        fun p => decide (p.1.WentBackwards p.2) := by
  have counted : (r.refresh x).metrics.resets =
      r.metrics.resets + if r.countersReset x.counters = true then 1 else 0 := by
    show (countProcess (r.countCounters r.metrics x.counters) x.process).resets = _
    unfold countCounters countProcess
    cases x.counters with
    | error e => cases x.process <;> simp [countersReset, SelfMetrics.countError]
    | ok curr => cases r.countersReset (.ok curr) <;> cases x.process <;> rfl
  rw [counted]
  cases held : r.previousCounters with
  | none =>
      rw [countersReset_of_none held]
      cases x.counters <;> rfl
  | some prev =>
      cases x.counters with
      | error e => rfl
      | ok curr =>
          rw [countersReset_of_some held]
          simp [Except.toOption, neighbours, CounterSample.resets_iff, List.countP_singleton]

/-! Of the events of a refresh, only those of the counters report resets. -/

theorem filter_isReset_failureEvents {α : Type} (c : Component) (read : Except ReadError α) :
    (r.failureEvents c read).filter Event.isReset = [] := by
  cases read <;> rfl

theorem filter_isReset_counterEvents :
    (r.counterEvents x.counters).filter Event.isReset =
      match r.previousCounters, x.counters with
      | some prev, .ok curr =>
        if prev.WentBackwards curr then [.counterReset r.settings.service curr.tier] else []
      | _, _ => [] := by
  cases held : r.previousCounters with
  | none => cases x.counters <;> simp [counterEvents, held]
  | some prev =>
      cases x.counters with
      | error e => rfl
      | ok curr =>
          have discarded : (Meter.events prev curr).filter Event.isReset = [] := by
            unfold Meter.events
            split <;> rfl
          simp only [counterEvents, held, List.filter_append, discarded, List.append_nil,
            CounterSample.resets_iff]
          split <;> rfl

theorem filter_isReset_events :
    (r.events x).filter Event.isReset = (r.counterEvents x.counters).filter Event.isReset := by
  rw [events, List.filter_append, List.filter_append, filter_isReset_failureEvents,
    filter_isReset_failureEvents]
  cases x.counters with
  | ok curr => simp [Event.isReset]
  | error e => cases x.process <;> rfl

end

/-! ## What a sequence of refreshes counts -/

theorem settings_refreshAll (r : Refresher) (ticks : List Reading) :
    (r.refreshAll ticks).settings = r.settings := by
  induction ticks generalizing r with
  | nil => rfl
  | cons x xs ih => exact ih (r.refresh x)

/-- The failures of a component are counted from the first one on. -/
theorem errors_refreshAll (r : Refresher) (ticks : List Reading) (c : Component) (n : Nat) :
    (r.refreshAll ticks).metrics.errors c = some n ↔
      (r.metrics.errors c ≠ none ∨ ∃ x ∈ ticks, x.fails c = true) ∧
        n = r.metrics.errorCount c + ticks.countP (·.fails c) := by
  induction ticks generalizing r with
  | nil => simpa using r.metrics.errors_eq_some_iff c n
  | cons x xs ih =>
      rw [refreshAll_cons, ih, List.countP_cons, SelfMetrics.errorCount, errors_refresh]
      cases fails : x.fails c with
      | false => simp [SelfMetrics.errorCount, fails]
      | true => simp [fails, Nat.add_assoc, Nat.add_comm 1]

/-- Counters that were read are compared with those read before them, the first of
them with what was held at the start. -/
theorem resets_refreshAll (r : Refresher) (ticks : List Reading) :
    (r.refreshAll ticks).metrics.resets =
      r.metrics.resets + (neighbours (r.previousCounters.toList ++ counterSamples ticks)).countP
        fun p => decide (p.1.WentBackwards p.2) := by
  induction ticks generalizing r with
  | nil => cases r.previousCounters <;> rfl
  | cons x xs ih =>
      rw [refreshAll_cons, ih, resets_refresh, counterSamples_cons, neighbours_held_append,
        List.countP_append, Nat.add_assoc]

end Refresher
end UsageMeter
