import UsageMeter.Proofs.Resets

/-!
# Carried figures

What a new meter gives for readings that come in pairs, one pair after the other,
which need not follow one another in time. A pair that bounds an interval gives the
figure of the interval. Any other gives what was given for the last pair before it
that bounded one, and changes nothing about it but the flag.
-/

namespace UsageMeter

/-! ## Pairs that bound no interval -/

/-- Two readings bound no interval exactly if they are of different tiers or a counter
was reset between them. -/
theorem CounterSample.bounds_eq_false_iff (prev curr : CounterSample) :
    bounds prev curr = false ↔
      curr.tier ≠ prev.tier ∨ continuity prev curr = .error (.counterReset curr.tier) := by
  by_cases same : curr.tier = prev.tier
  · cases h : resets prev curr <;> simp [bounds, continuity, same, h]
  · simp [bounds, same]

/-- The last pair that bounds an interval, and the pairs before it. -/
structure LastBounded (pairs before : List (CounterSample × CounterSample))
    (prev curr : CounterSample) : Prop where
  continues : prev.Continues curr
  later : ∃ after, pairs = before ++ (prev, curr) :: after ∧ ∀ p ∈ after, ¬ p.1.Continues p.2

namespace LastBounded
variable {pairs before : List (CounterSample × CounterSample)} {prev curr : CounterSample}

theorem concat (continues : prev.Continues curr) :
    LastBounded (pairs ++ [(prev, curr)]) pairs prev curr :=
  ⟨continues, [], rfl, fun _ h => nomatch h⟩

theorem append_broken (last : LastBounded pairs before prev curr)
    {p : CounterSample × CounterSample} (broken : ¬ p.1.Continues p.2) :
    LastBounded (pairs ++ [p]) before prev curr := by
  obtain ⟨continues, after, rfl, later⟩ := last
  have extended : before ++ (prev, curr) :: after ++ [p] =
      before ++ (prev, curr) :: (after ++ [p]) := by
    rw [List.append_assoc, List.cons_append]
  exact ⟨continues, after ++ [p], extended,
    List.forall_mem_append.mpr ⟨later, List.forall_mem_singleton.mpr broken⟩⟩

end LastBounded

/-- Either some pair is the last to bound an interval, or none bounds one. -/
theorem exists_lastBounded_or (pairs : List (CounterSample × CounterSample)) :
    (∃ before prev curr, LastBounded pairs before prev curr) ∨
      ∀ p ∈ pairs, ¬ p.1.Continues p.2 := by
  induction pairs using List.reverseRecOn with
  | nil => exact .inr fun _ h => nomatch h
  | append_singleton pairs p ih =>
      by_cases continues : p.1.Continues p.2
      · exact .inl ⟨pairs, p.1, p.2, .concat continues⟩
      · rcases ih with ⟨before, prev, curr, last⟩ | none_bounded
        · exact .inl ⟨before, prev, curr, last.append_broken continues⟩
        · exact .inr (List.forall_mem_append.mpr
            ⟨none_bounded, List.forall_mem_singleton.mpr continues⟩)

/-! ## A figure carried over -/

/-- A figure given again: the same, but degraded. -/
def Figure.carried (f : Figure) : Figure := { f with degraded := true }

@[simp] theorem Figure.carried_carried (f : Figure) : f.carried.carried = f.carried := rfl

namespace Meter
variable {m : Meter} {f : Figure} {pairs : List (CounterSample × CounterSample)}
  {prev curr : CounterSample}

theorem figure_of_not_continues (m : Meter) (broken : ¬ prev.Continues curr) :
    m.figure prev curr = (m.last.map Figure.carried).getD (Figure.unmeasured curr) :=
  (CounterSample.discarded_of_not_continues broken).figure m

/-- What a meter remembers stays the same through broken pairs, but for the flag. -/
theorem carried_last_measureAll (remembered : m.last = some f)
    (broken : ∀ p ∈ pairs, ¬ p.1.Continues p.2) :
    (m.measureAll pairs).last.map Figure.carried = some f.carried := by
  induction pairs using List.reverseRecOn with
  | nil => rw [measureAll, List.foldl_nil, remembered, Option.map_some]
  | append_singleton pairs p ih =>
      have before := ih fun q hq => broken q (List.mem_append_left _ hq)
      have here := broken p List.mem_concat_self
      rw [last_measureAll_concat, figure_of_not_continues _ here, before, Option.getD_some,
        Option.map_some, Figure.carried_carried]

/-- Once there was a broken pair, the flag is set as well. -/
theorem last_measureAll_of_broken (remembered : m.last = some f) (some_pair : pairs ≠ [])
    (broken : ∀ p ∈ pairs, ¬ p.1.Continues p.2) :
    (m.measureAll pairs).last = some f.carried := by
  obtain ⟨front, p, rfl⟩ := (List.eq_nil_or_concat' pairs).resolve_left some_pair
  have before : ∀ q ∈ front, ¬ q.1.Continues q.2 := fun q hq =>
    broken q (List.mem_append_left _ hq)
  have here := broken p List.mem_concat_self
  rw [last_measureAll_concat, figure_of_not_continues _ here,
    carried_last_measureAll remembered before, Option.getD_some]

/-- A broken pair gives what the pairs before it leave behind. -/
theorem figure_new_of_not_continues (broken : ¬ prev.Continues curr) :
    (Meter.new.measureAll pairs).figure prev curr =
      ((recalled pairs).getD (Figure.unmeasured curr)).carried := by
  have left : (Meter.new.measureAll pairs).last.map Figure.carried =
      (recalled pairs).map Figure.carried := last_measureAll_new pairs
  rw [figure_of_not_continues _ broken, left]
  cases recalled pairs <;> rfl

/-- The last pair that bounds an interval is recalled, however many came after it. -/
theorem recalled_of_lastBounded {before : List (CounterSample × CounterSample)}
    (last : LastBounded pairs before prev curr) :
    recalled pairs = some (Figure.ofInterval prev curr) := by
  obtain ⟨continues, after, rfl, later⟩ := last
  have silent : lastValue? Figure.ofInterval? after = none :=
    lastValue?_eq_none fun p hp => Figure.ofInterval?_of_not_continues (later p hp)
  rw [recalled, lastValue?_append, lastValue?_cons, silent,
    Figure.ofInterval?_of_continues continues]
  rfl

/-- Without an interval the first pair is recalled. -/
theorem recalled_of_none_bounded (none_bounded : ∀ p ∈ pairs, ¬ p.1.Continues p.2) :
    recalled pairs = pairs.head?.map fun p => Figure.unmeasured p.2 := by
  rw [recalled, lastValue?_eq_none fun p hp =>
    Figure.ofInterval?_of_not_continues (none_bounded p hp), Option.none_or]

end Meter

/-- The figure of an interval, by what its counters grew. -/
theorem CounterSample.Continues.ofInterval_eq {prev curr : CounterSample}
    (continues : prev.Continues curr) :
    ∃ active total : UInt64, prev.active.toNat + active.toNat = curr.active.toNat ∧
      prev.total.toNat + total.toNat = curr.total.toNat ∧
      Figure.ofInterval prev curr =
        { percent := utilization active total curr.cpus curr.tier
          basis := curr.tier
          computedAt := curr.takenAt
          degraded := decide (curr.tier = .procStat) } := by
  have grown := continues.measured
  refine ⟨curr.active - prev.active, curr.total - prev.total,
    (Nat.add_comm _ _).trans grown.active, (Nat.add_comm _ _).trans grown.total, ?_⟩
  unfold Figure.ofInterval
  cases curr.tier <;> rfl

/-- **A meter always returns the last good interval.** After any pairs of readings, a
pair that bounds an interval gives its figure: the utilization by what the counters
grew, of the tier and at the time of the later reading, degraded for the host. Any
other pair gives what the last pair before it that bounded an interval was given, only
degraded; if there was none, nothing used, of the tier and at the time of the first
pair. The meter remembers what it has just given, so further broken pairs change
nothing but the flag, and readings bound no interval exactly if the tiers differ or a
counter was reset. -/
theorem Meter.gives_last_interval (earlier : List (CounterSample × CounterSample))
    (prev curr : CounterSample) :
    let given := (Meter.new.measureAll earlier).measure prev curr
    (prev.Continues curr →
      ∃ active total : UInt64, prev.active.toNat + active.toNat = curr.active.toNat ∧
        prev.total.toNat + total.toNat = curr.total.toNat ∧
        given.1 =
          { percent := utilization active total curr.cpus curr.tier
            basis := curr.tier
            computedAt := curr.takenAt
            degraded := decide (curr.tier = .procStat) }) ∧
      (¬ prev.Continues curr →
        (∃ before prev' curr', LastBounded earlier before prev' curr' ∧
            given.1 =
              { ((Meter.new.measureAll before).measure prev' curr').1 with degraded := true }) ∨
          (∀ p ∈ earlier, ¬ p.1.Continues p.2) ∧
            ∃ first, (earlier ++ [(prev, curr)]).head? = some first ∧
              given.1 =
                { percent := Quantity.ofNat 0
                  basis := first.2.tier
                  computedAt := first.2.takenAt
                  degraded := true }) ∧
      given.2.last = some given.1 ∧
      (∀ later, later ≠ [] → (∀ p ∈ later, ¬ p.1.Continues p.2) →
        (given.2.measureAll later).last = some { given.1 with degraded := true }) ∧
      (CounterSample.bounds prev curr = false ↔
        curr.tier ≠ prev.tier ∨
          CounterSample.continuity prev curr = .error (.counterReset curr.tier)) := by
  intro given
  refine ⟨fun continues => ?_, fun broken => ?_, rfl,
    fun _ some_pair broken => last_measureAll_of_broken rfl some_pair broken,
    CounterSample.bounds_eq_false_iff prev curr⟩
  · rw [show given.1 = Figure.ofInterval prev curr from figure_of_continues _ continues]
    exact continues.ofInterval_eq
  · have carried : given.1 = ((recalled earlier).getD (Figure.unmeasured curr)).carried :=
      figure_new_of_not_continues broken
    rcases exists_lastBounded_or earlier with ⟨before, prev', curr', last⟩ | none_bounded
    · refine .inl ⟨before, prev', curr', last, ?_⟩
      rw [carried, recalled_of_lastBounded last, measure_fst,
        figure_of_continues _ last.continues]
      rfl
    · rw [recalled_of_none_bounded none_bounded] at carried
      refine .inr ⟨none_bounded, ?_⟩
      cases earlier with
      | nil => exact ⟨_, rfl, carried⟩
      | cons first rest => exact ⟨first, rfl, carried⟩

/-- Through two changes of the tier the figure of the group comes back degraded. -/
theorem Meter.gives_last_interval_through_switches :
    let s (tier : Tier) (active total : UInt64) : CounterSample :=
      ⟨tier, active, total, none, none, 2, total.toNat⟩
    let given := Meter.new.measure (s .cgroupV2 100 1000) (s .cgroupV2 300 2000)
    let later := [(s .cgroupV2 300 2000, s .procStat 7 9), (s .procStat 7 9, s .cgroupV2 0 3000)]
    (given.2.measureAll later).last = some { given.1 with degraded := true } := by
  intro s given later
  refine (gives_last_interval [] _ _).2.2.2.1 later (List.cons_ne_nil _ _) ?_
  simp only [later, List.forall_mem_cons, List.not_mem_nil, false_implies, implies_true, and_true]
  exact ⟨fun continues => (nomatch continues.1), fun continues => (nomatch continues.1)⟩

end UsageMeter
