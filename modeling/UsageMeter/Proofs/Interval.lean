import Mathlib.Data.List.Induction
import UsageMeter.Figure

/-!
# Intervals between readings

Which two readings bound an interval, and what a meter has to show after any
pairs of readings: the figure of the last interval among them.
-/

namespace UsageMeter

/-! ## Neighbours in a list -/

section
variable {α β : Type}

/-- Each element of a list together with the one after it. -/
def neighbours (xs : List α) : List (α × α) := xs.zip xs.tail

@[simp] theorem neighbours_cons_cons (a b : α) (xs : List α) :
    neighbours (a :: b :: xs) = (a, b) :: neighbours (b :: xs) := rfl

/-- An element at the end has the last one before it. -/
theorem neighbours_concat {xs : List α} {a : α} (last : xs.getLast? = some a) (b : α) :
    neighbours (xs ++ [b]) = neighbours xs ++ [(a, b)] := by
  induction xs with
  | nil => cases last
  | cons x xs ih =>
      cases xs with
      | nil => cases last; rfl
      | cons y ys =>
          rw [List.getLast?_cons_cons] at last
          rw [List.cons_append, List.cons_append, neighbours_cons_cons, ← List.cons_append, ih last]
          rfl

theorem getElem?_neighbours (xs : List α) (i : Nat) (a b : α) :
    (neighbours xs)[i]? = some (a, b) ↔ xs[i]? = some a ∧ xs[i + 1]? = some b := by
  simp [neighbours, List.getElem?_zip_eq_some]

/-- `prev` and `curr` are the last neighbours in a list that `R` relates. -/
def LastNeighbours (R : α → α → Prop) (xs : List α) (prev curr : α) : Prop :=
  ∃ i, xs[i]? = some prev ∧ xs[i + 1]? = some curr ∧ R prev curr ∧
    ∀ j a b, i < j → xs[j]? = some a → xs[j + 1]? = some b → ¬ R a b

theorem LastNeighbours.related {R : α → α → Prop} {xs : List α} {prev curr : α}
    (h : LastNeighbours R xs prev curr) : R prev curr := by
  obtain ⟨i, -, -, related, -⟩ := h
  exact related

/-- `R` relates no neighbours in a list. -/
def NoNeighbours (R : α → α → Prop) (xs : List α) : Prop :=
  ∀ i a b, xs[i]? = some a → xs[i + 1]? = some b → ¬ R a b

/-- The value of the last pair that has one. -/
def lastValue? (f : α → α → Option β) (pairs : List (α × α)) : Option β :=
  (pairs.filterMap fun p => f p.1 p.2).getLast?

theorem lastValue?_concat (f : α → α → Option β) (pairs : List (α × α)) (p : α × α) :
    lastValue? f (pairs ++ [p]) = (f p.1 p.2).or (lastValue? f pairs) := by
  cases h : f p.1 p.2 <;> simp [lastValue?, h]

theorem lastValue?_cons (f : α → α → Option β) (p : α × α) (pairs : List (α × α)) :
    lastValue? f (p :: pairs) = (lastValue? f pairs).or (f p.1 p.2) := by
  cases h : f p.1 p.2 <;> simp [lastValue?, h, List.getLast?_cons]

theorem lastValue?_append (f : α → α → Option β) (ps qs : List (α × α)) :
    lastValue? f (ps ++ qs) = (lastValue? f qs).or (lastValue? f ps) := by
  rw [lastValue?, List.filterMap_append, List.getLast?_append]
  rfl

theorem lastValue?_eq_none {f : α → α → Option β} {pairs : List (α × α)}
    (h : ∀ p ∈ pairs, f p.1 p.2 = none) : lastValue? f pairs = none := by
  rw [lastValue?, List.getLast?_eq_none_iff, List.filterMap_eq_nil_iff]
  exact h

/-- Only related neighbours have a value, so the last of them give the last value. -/
theorem LastNeighbours.lastValue? {R : α → α → Prop} {f : α → α → Option β}
    (unrelated : ∀ a b, ¬ R a b → f a b = none) {xs : List α} {prev curr : α}
    (h : LastNeighbours R xs prev curr) {v : β} (hv : f prev curr = some v) :
    lastValue? f (neighbours xs) = some v := by
  obtain ⟨i, hprev, hcurr, -, later⟩ := h
  have hi := (getElem?_neighbours xs i prev curr).mpr ⟨hprev, hcurr⟩
  obtain ⟨hlt, hget⟩ := List.getElem?_eq_some_iff.mp hi
  -- no pair after the i-th is related, so the i-th is the last to have a value
  have rest : UsageMeter.lastValue? f ((neighbours xs).drop (i + 1)) = none := by
    apply lastValue?_eq_none
    intro ⟨a, b⟩ hab
    obtain ⟨k, hk⟩ := List.mem_iff_getElem?.mp hab
    rw [List.getElem?_drop, getElem?_neighbours] at hk
    exact unrelated a b (later (i + 1 + k) a b (by omega) hk.1 hk.2)
  have split : neighbours xs =
      ((neighbours xs).take i ++ [(prev, curr)]) ++ (neighbours xs).drop (i + 1) := by
    rw [← hget, List.append_assoc, List.singleton_append, List.getElem_cons_drop,
      List.take_append_drop]
  rw [split]
  unfold UsageMeter.lastValue? at rest ⊢
  rw [List.filterMap_append, List.getLast?_append, rest]
  simp [hv]

theorem NoNeighbours.lastValue? {R : α → α → Prop} {f : α → α → Option β}
    (unrelated : ∀ a b, ¬ R a b → f a b = none) {xs : List α} (h : NoNeighbours R xs) :
    lastValue? f (neighbours xs) = none := by
  apply lastValue?_eq_none
  intro ⟨a, b⟩ hab
  obtain ⟨i, hi⟩ := List.mem_iff_getElem?.mp hab
  obtain ⟨ha, hb⟩ := (getElem?_neighbours xs i a b).mp hi
  exact unrelated a b (h i a b ha hb)

end

/-! ## Readings that continue one another -/

/-- Counters of one tier of which none went backwards. -/
def CounterSample.Continues (prev curr : CounterSample) : Prop :=
  curr.tier = prev.tier ∧ prev.active ≤ curr.active ∧ prev.total ≤ curr.total

/-- Readings of one process whose CPU time did not go backwards. -/
def ProcessSample.Continues (prev curr : ProcessSample) : Prop :=
  prev.pid = curr.pid ∧ prev.cpuTime ≤ curr.cpuTime

/-- Two readings bound an interval exactly if one continues the other. -/
theorem CounterSample.bounds_iff (prev curr : CounterSample) :
    bounds prev curr = true ↔ prev.Continues curr := by
  by_cases h : curr.tier = prev.tier <;> simp [bounds, resets, Continues, h]

/-- A process has a figure exactly if one of its readings continues the other. -/
theorem ProcessSample.isSome_processUtilization_iff (prev curr : ProcessSample) :
    (processUtilization (α := Float) prev curr).isSome = true ↔ prev.Continues curr := by
  unfold processUtilization
  split
  · rename_i h
    simp only [Option.isSome_none, Bool.false_eq_true, Continues, false_iff, not_and]
    intro same
    exact UInt64.not_le.mpr (h.resolve_left (absurd same))
  · rename_i h
    rw [not_or, Classical.not_not] at h
    simp only [Option.isSome_some, Continues, true_iff]
    exact ⟨h.1, UInt64.not_lt.mp h.2⟩

/-- The CPU usage of a process between two readings of it. -/
def ProcessSample.percentSince (prev curr : ProcessSample) : Float :=
  percentage (curr.cpuTime - prev.cpuTime).toNat (curr.takenAt - prev.takenAt) 1

theorem ProcessSample.processUtilization_of_continues {prev curr : ProcessSample}
    (h : prev.Continues curr) : processUtilization prev curr = some (prev.percentSince curr) :=
  if_neg fun broken => broken.elim (fun other => other h.1) (UInt64.not_lt.mpr h.2)

theorem Tier.isContainer_iff (t : Tier) :
    t.isContainer = true ↔ t = .cgroupV2 ∨ t = .cgroupV1 := by
  cases t <;> decide

/-- The figure of the interval between two readings, if they bound one. -/
def Figure.ofInterval? (prev curr : CounterSample) : Option Figure :=
  if CounterSample.bounds prev curr then some (Figure.ofInterval prev curr) else none

theorem Figure.ofInterval?_of_continues {prev curr : CounterSample}
    (h : prev.Continues curr) : ofInterval? prev curr = some (ofInterval prev curr) :=
  if_pos ((CounterSample.bounds_iff prev curr).mpr h)

theorem Figure.ofInterval?_of_not_continues {prev curr : CounterSample}
    (h : ¬ prev.Continues curr) : ofInterval? prev curr = none :=
  if_neg fun hb => h ((CounterSample.bounds_iff prev curr).mp hb)

/-! ## A meter over many pairs -/

namespace Meter

/-- The figure of readings that continue one another owes nothing to the meter. -/
theorem figure_of_continues (m : Meter) {prev curr : CounterSample}
    (h : prev.Continues curr) : m.figure prev curr = Figure.ofInterval prev curr :=
  if_pos ((CounterSample.bounds_iff prev curr).mpr h)

/-- A figure that is carried over is degraded, and so is the host's. -/
theorem degraded_figure_iff (m : Meter) (prev curr : CounterSample) :
    (m.figure prev curr).degraded = false ↔
      (curr.tier = .cgroupV2 ∨ curr.tier = .cgroupV1) ∧ prev.Continues curr := by
  rw [← CounterSample.bounds_iff, ← Tier.isContainer_iff, figure]
  split
  · rename_i h
    simp [Figure.ofInterval, h]
  · rename_i h
    cases m.last <;> simp [Figure.unmeasured, h]

/-- A meter after it has measured pairs of readings one after the other. -/
def measureAll (m : Meter) (pairs : List (CounterSample × CounterSample)) : Meter :=
  pairs.foldl (fun m p => (m.measure p.1 p.2).2) m

theorem measureAll_append (m : Meter) (ps qs : List (CounterSample × CounterSample)) :
    m.measureAll (ps ++ qs) = (m.measureAll ps).measureAll qs :=
  List.foldl_append

theorem last_measureAll_concat (m : Meter) (ps : List (CounterSample × CounterSample))
    (p : CounterSample × CounterSample) :
    (m.measureAll (ps ++ [p])).last = some ((m.measureAll ps).figure p.1 p.2) := by
  simp [measureAll]

/-- The figure that pairs of readings leave behind, but for its degraded flag:
that of the last interval among them, or else the empty figure of the first. -/
def recalled (pairs : List (CounterSample × CounterSample)) : Option Figure :=
  (lastValue? Figure.ofInterval? pairs).or (pairs.head?.map fun p => Figure.unmeasured p.2)

/-- Where some neighbours bound an interval, the last of them are recalled. -/
theorem recalled_of_lastNeighbours {cs : List CounterSample} {prev curr : CounterSample}
    (h : LastNeighbours CounterSample.Continues cs prev curr) :
    recalled (neighbours cs) = some (Figure.ofInterval prev curr) := by
  rw [recalled, h.lastValue? (fun _ _ => Figure.ofInterval?_of_not_continues)
    (Figure.ofInterval?_of_continues h.related)]
  rfl

/-- Where no neighbours bound one, the second reading gives the empty figure. -/
theorem recalled_of_noNeighbours {cs : List CounterSample}
    (h : NoNeighbours CounterSample.Continues cs) :
    recalled (neighbours cs) = cs[1]?.map Figure.unmeasured := by
  rw [recalled, h.lastValue? fun _ _ => Figure.ofInterval?_of_not_continues]
  rcases cs with _ | ⟨first, _ | ⟨second, rest⟩⟩ <;> rfl

theorem recalled_concat (ps : List (CounterSample × CounterSample))
    (p : CounterSample × CounterSample) :
    recalled (ps ++ [p]) =
      (Figure.ofInterval? p.1 p.2).or ((recalled ps).or (some (Figure.unmeasured p.2))) := by
  rw [recalled, recalled, lastValue?_concat, List.head?_append, Option.or_assoc, Option.or_assoc]
  cases ps <;> rfl

/-- **A new meter recalls the last interval**, whatever came after it. -/
theorem last_measureAll_new (pairs : List (CounterSample × CounterSample)) :
    (Meter.new.measureAll pairs).last.map (fun f => { f with degraded := true }) =
      (recalled pairs).map fun f => { f with degraded := true } := by
  induction pairs using List.reverseRecOn with
  | nil => rfl
  | append_singleton ps p ih =>
      rw [last_measureAll_concat, recalled_concat, figure, Figure.ofInterval?]
      split
      · rfl
      · -- no interval: what the meter gave last comes back
        cases hl : (Meter.new.measureAll ps).last with
        | none =>
            rw [hl, Option.map_none] at ih
            rw [Option.map_eq_none_iff.mp ih.symm]
            rfl
        | some f =>
            rw [hl] at ih
            obtain ⟨g, hg, same⟩ := Option.map_eq_some_iff.mp ih.symm
            rw [hg]
            exact congrArg some same.symm

/-- What the degraded flag does not touch is the same for both figures. -/
theorem map_last_measureAll_new {β : Type} (field : Figure → β)
    (unflagged : ∀ f : Figure, field { f with degraded := true } = field f)
    (pairs : List (CounterSample × CounterSample)) :
    (Meter.new.measureAll pairs).last.map field = (recalled pairs).map field := by
  have same := congrArg (Option.map field) (last_measureAll_new pairs)
  rw [Option.map_map, Option.map_map] at same
  rwa [show (field ∘ fun f => { f with degraded := true }) = field from funext unflagged] at same

end Meter

end UsageMeter
