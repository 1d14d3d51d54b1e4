import UsageMeter.Moment
import UsageMeter.Proofs.Fallback
import UsageMeter.Proofs.Interval

/-!
# Changes of tier

What a chain remembers and reports over any number of readings. It remembers
what the last reading came to, counts how often that was something else than
the time before, and reports each of these changes once. A reading that breaks off
comes to nothing, and leaves no trace.
-/

namespace UsageMeter

/-- An event lists tiers that were skipped. -/
def Event.Lists (event : Event) (skipped : List String) : Prop :=
  ("skipped", FieldValue.texts skipped) ∈ event.fields

/-- A tier of the container is reported with those before it, if there are any. -/
theorem Event.lists_ofSelection {tier : Tier} (container : tier.isContainer = true)
    (attempts skipped : List String) :
    (ofSelection tier attempts).Lists skipped ↔ attempts ≠ [] ∧ skipped = attempts := by
  cases tier with
  | procStat => cases container
  | cgroupV2 => cases attempts <;> simp [ofSelection, Lists, fields]
  | cgroupV1 => cases attempts <;> simp [ofSelection, Lists, fields]

namespace Source

/-- What a reading came to, if it did not break off: the tier that answered, or none. -/
def Selection.ofReadout? : Readout CounterSample → Option Selection
  | .ok (.ok s) => some (.active s.tier)
  | .ok (.error _) => some .exhausted
  | .error _ => none

namespace TierChain

/-! ## One reading -/

section
variable (chain : TierChain) (m : Moment)

/-- What the reading at a moment comes to. -/
def outcome? : Option Selection := Selection.ofReadout? (chain.read m.files m.now).1

/-- A descent names the tier that its sample names. -/
theorem selection?_descent : (chain.descent m.files m.now).selection? = chain.outcome? m := by
  have descends := chain.descendsTo_descent m.files m.now
  unfold outcome? read
  generalize chain.descent m.files m.now = d at descends
  cases descends with
  | found split failed answered =>
      have named := (Roots.sampled_of_readTier answered).tier
      simp only [Descent.selection?, Descent.result, Selection.ofReadout?, named]
  | exhausted failed => rfl
  | aborted split failed lost => rfl

/-- A reading comes to nothing exactly if it comes to a host whose ticks have no room. -/
theorem outcome?_eq_none_iff :
    chain.outcome? m = none ↔ chain.roots.Overflows m.files m.now := by
  rw [← chain.read_eq_overflow_iff m.files m.now .mk]
  unfold outcome?
  rcases (chain.read m.files m.now).1 with o | (e | s) <;> simp [Selection.ofReadout?]

/-- A reading that comes to nothing leaves the chain as it was and reports nothing. -/
theorem read_of_overflow (lost : chain.outcome? m = none) :
    (chain.read m.files m.now).2 = (chain, []) := by
  simp only [read, record, changes, selection?_descent, lost]
  rfl

section
variable {chain m} {s : Selection} (came : chain.outcome? m = some s)
include came

/-- The chain remembers a reading only if it came to something new. -/
theorem next_read : (chain.read m.files m.now).2.1 =
    if s = chain.selection then chain
    else { chain with selection := s, transitions := chain.transitions + 1 } := by
  simp only [read, record, selection?_descent, came]

/-- A reading is reported by one event if it came to something new, else by none. -/
theorem events_read : (chain.read m.files m.now).2.2 =
    if s = chain.selection then []
    else (chain.descent m.files m.now).event?.toList := by
  simp only [read, changes, selection?_descent, came]
  by_cases same : s = chain.selection <;> simp [same]

end

theorem roots_read : (chain.read m.files m.now).2.1.roots = chain.roots := by
  cases came : chain.outcome? m with
  | none => rw [chain.read_of_overflow m came]
  | some s =>
      rw [next_read came]
      split <;> rfl

/-- What a reading comes to depends on where the tiers are, not on what was read before. -/
theorem outcome?_congr {chain chain' : TierChain} (same : chain.roots = chain'.roots) :
    chain.outcome? = chain'.outcome? := by
  funext m
  simp only [outcome?, read, descent, same]

end

/-! ## Many readings -/

/-- A chain after readings one after the other. -/
def readAll (chain : TierChain) (moments : List Moment) : TierChain :=
  moments.foldl (fun chain m => (chain.read m.files m.now).2.1) chain

theorem roots_readAll (chain : TierChain) (moments : List Moment) :
    (chain.readAll moments).roots = chain.roots := by
  induction moments generalizing chain with
  | nil => rfl
  | cons m ms ih => exact (ih _).trans (chain.roots_read m)

/-- How often one selection differs from the one before it. -/
def changeCount (selections : List Selection) : Nat :=
  (neighbours selections).countP fun s => s.1 != s.2

/-- **The selection invariant**: a chain remembers the last selection and how
often selections have changed. -/
structure Remembers (chain : TierChain) (selections : List Selection) : Prop where
  last : selections.getLast? = some chain.selection
  count : chain.transitions = changeCount selections

/-- A reading keeps the selection invariant. -/
theorem Remembers.read {chain : TierChain} {selections : List Selection}
    (h : chain.Remembers selections) (m : Moment) :
    (chain.read m.files m.now).2.1.Remembers (selections ++ (chain.outcome? m).toList) := by
  cases came : chain.outcome? m with
  | none => rwa [chain.read_of_overflow m came, Option.toList_none, List.append_nil]
  | some s =>
      rw [Option.toList_some]
      have count : changeCount (selections ++ [s]) =
          chain.transitions + if chain.selection != s then 1 else 0 := by
        rw [changeCount, neighbours_concat h.last, List.countP_append, h.count, changeCount]
        simp
      rw [next_read came]
      refine ⟨?_, ?_⟩
      · rw [List.getLast?_concat]
        split
        · rename_i same
          rw [same]
        · rfl
      · rw [count]
        split
        · rename_i same
          simp [same]
        · rename_i new
          simp [Ne.symm new]

theorem Remembers.readAll {chain : TierChain} {selections : List Selection}
    (h : chain.Remembers selections) (moments : List Moment) :
    (chain.readAll moments).Remembers (selections ++ moments.filterMap chain.outcome?) := by
  induction moments generalizing chain selections with
  | nil => rwa [List.filterMap_nil, List.append_nil]
  | cons m ms ih =>
      have split : (m :: ms).filterMap chain.outcome? =
          (chain.outcome? m).toList ++ ms.filterMap chain.outcome? := by
        cases came : chain.outcome? m <;> simp [came]
      have rest := ih (h.read m)
      rwa [outcome?_congr (chain.roots_read m), List.append_assoc, ← split] at rest

theorem Remembers.new (roots : Roots) : (new roots).Remembers [.unset] := ⟨rfl, rfl⟩

theorem outcome?_ne_unset (chain : TierChain) (m : Moment) :
    chain.outcome? m ≠ some .unset := by
  unfold outcome?
  rcases (chain.read m.files m.now).1 with o | (e | s) <;> simp [Selection.ofReadout?]

/-- Nothing is selected only as long as no reading came to something. -/
theorem last_eq_unset_iff (chain : TierChain) (moments : List Moment) :
    (Selection.unset :: moments.filterMap chain.outcome?).getLast? = some .unset ↔
      ∀ m ∈ moments, chain.roots.Overflows m.files m.now := by
  simp only [← outcome?_eq_none_iff]
  rw [← List.filterMap_eq_nil_iff]
  cases came : moments.filterMap chain.outcome? with
  | nil => simp
  | cons s ss =>
      refine iff_of_false (fun last => ?_) nofun
      rw [List.getLast?_cons_cons, ← came] at last
      obtain ⟨m, -, unset⟩ := List.mem_filterMap.mp (List.mem_of_getLast? last)
      exact chain.outcome?_ne_unset m unset

/-! ## The event of a change -/

section
variable (chain : TierChain) (m : Moment)

/-- There is something to report of every reading that comes to something, should it be
a change. -/
theorem exists_event {s : Selection} (came : chain.outcome? m = some s) :
    ∃ event, (chain.descent m.files m.now).event? = some event := by
  have descends := chain.descendsTo_descent m.files m.now
  rw [← chain.selection?_descent m] at came
  generalize chain.descent m.files m.now = d at descends came
  cases descends with
  | found split failed answered => exact ⟨_, rfl⟩
  | exhausted failed => exact ⟨_, rfl⟩
  | aborted split failed lost => cases came

/-- A tier of the container is reported with what was skipped exactly if a tier
before it had failed. -/
theorem lists_skipped_iff {event : Event}
    (reported : (chain.descent m.files m.now).event? = some event) {t : Tier}
    (container : t.isContainer = true) (taken : chain.outcome? m = some (.active t)) :
    ∃ before after, chain.roots.tiers = before ++ t :: after ∧
      ((∃ skipped, event.Lists skipped) ↔
        ∃ u ∈ before, ∃ e, chain.roots.readTier m.files m.now u = .ok (.error e)) ∧
      ∀ skipped, event.Lists skipped →
        List.Forall₂ (Reports (chain.roots.readTier m.files m.now)) before skipped := by
  have descends := chain.descendsTo_descent m.files m.now
  have selected := chain.selection?_descent m
  rw [taken] at selected
  generalize chain.descent m.files m.now = d at descends selected reported
  cases descends with
  | exhausted failed => cases selected
  | aborted split failed lost => cases selected
  | @found before tier after sample entries split failed answered =>
      cases selected
      cases reported
      simp only [Event.lists_ofSelection container]
      refine ⟨before, after, split, ⟨?_, ?_⟩, ?_⟩
      · rintro ⟨_, nonempty, -⟩
        cases failed with
        | nil => exact absurd rfl nonempty
        | cons head _ =>
            obtain ⟨e, he, -⟩ := head
            exact ⟨_, List.mem_cons_self, e, he⟩
      · rintro ⟨u, hu, -⟩
        refine ⟨entries, ?_, rfl⟩
        cases failed with
        | nil => cases hu
        | cons _ _ => exact List.cons_ne_nil _ _
      · rintro _ ⟨-, rfl⟩
        exact failed

end

end TierChain
end Source
end UsageMeter
