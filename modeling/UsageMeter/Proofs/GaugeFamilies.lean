import Mathlib.Data.List.Nodup
import UsageMeter.Exposition

/-!
# Families of gauges

From readings to families, nothing gets lost. The readings of a snapshot are of
different gauges, and each has the labels that its gauge declares, which have
different label names. So every reading fits its family and is the only one in
it: no reading is refused, and none is put in the place of another.
-/

namespace UsageMeter
open UsageMeter.Time

/-- **What makes readings fit**: no two of them are of one gauge, and each has
the labels that its gauge declares. -/
structure GaugeReading.Fit (rs : List GaugeReading) : Prop where
  single : (rs.map GaugeReading.gauge).Nodup
  declared : ∀ r ∈ rs, r.labels.map Prod.fst = r.gauge.labelKeys

/-- The readings of a snapshot fit. -/
theorem Snapshot.fit_readings {s : Snapshot} {service : String} {now : Timestamp}
    {interval : Span} {rs : List GaugeReading} (h : s.readings service now interval = .ok rs) :
    GaugeReading.Fit rs := by
  unfold readings at h
  cases hs : s.isStale now interval with
  | error e => simp [hs, Except.map] at h
  | ok stale =>
      simp only [hs, Except.map, Except.ok.injEq] at h
      subst h
      cases s.age now with
      | none => exact ⟨by simp, by simp [degradedReading, Gauge.labelKeys]⟩
      | some age =>
          cases s.tier with
          | none =>
              refine ⟨?_, ?_⟩
              · simp [degradedReading, ageReading, processReadings]
              · simp [degradedReading, ageReading, processReadings, processLabels,
                  Gauge.labelKeys]
          | some t =>
              refine ⟨?_, ?_⟩
              · simp [degradedReading, ageReading, cpuReading, processReadings]
              · simp [degradedReading, ageReading, cpuReading, processReadings, processLabels,
                  Gauge.labelKeys]

namespace Exposition
open UsageMeter.Decimal

/-! ## Labels under their names -/

/-- A label under its label name. -/
def named (label : String × String) : String × String := (labelName label.1, label.2)

/-- Sanitizing keeps the keys of every gauge apart. -/
theorem nodup_labelNames (g : Gauge) : (labelNames g).Nodup := by
  cases g <;> decide

theorem put_of_notMem {κ ν : Type} [BEq κ] [LawfulBEq κ] {entries : List (κ × ν)} {key : κ}
    (h : key ∉ entries.map Prod.fst) (value : ν) :
    put entries key value = entries ++ [(key, value)] := by
  have kept : entries.filter (fun e => e.1 != key) = entries := by
    rw [List.filter_eq_self]
    intro e he
    have : e.1 ≠ key := fun same => h (same ▸ List.mem_map_of_mem he)
    simpa using this
  rw [put, kept]

/-- Labels whose names differ are all kept, in their order. -/
theorem namedLabels_of_nodup {labels : List (String × String)}
    (h : ((labels.map named).map Prod.fst).Nodup) : namedLabels labels = labels.map named := by
  -- some labels may be named already
  have behind : ∀ before : List (String × String),
      ((before ++ labels.map named).map Prod.fst).Nodup →
      labels.foldl (fun acc label => put acc (labelName label.1) label.2) before =
        before ++ labels.map named := by
    clear h
    induction labels with
    | nil => simp
    | cons label labels ih =>
        intro before h
        rw [List.map_cons, List.append_cons] at h ⊢
        have new : labelName label.1 ∉ before.map Prod.fst := by
          rw [List.map_append, List.map_append] at h
          have apart := (List.nodup_append.mp h.of_append_left).2.2
          exact fun old => apart _ old _ (List.mem_singleton_self _) rfl
        rw [List.foldl_cons, put_of_notMem new]
        exact ih _ h
  exact behind [] h

theorem declaredValue_of_mem {labels : List (String × String)}
    (h : (labels.map Prod.fst).Nodup) {label : String × String} (mem : label ∈ labels) :
    declaredValue labels label.1 = .ok label.2 := by
  have found : labels.lookup label.1 = some label.2 := by
    induction labels with
    | nil => cases mem
    | cons first labels ih =>
        obtain ⟨key, value⟩ := first
        rw [List.map_cons, List.nodup_cons] at h
        rcases List.mem_cons.mp mem with rfl | later
        · exact List.lookup_cons_self
        · have other : (label.1 == key) = false :=
            beq_eq_false_iff_ne.mpr fun same => h.1 (List.mem_map.mpr ⟨label, later, same⟩)
          rw [List.lookup_cons, other]
          exact ih h.2 later
  rw [declaredValue, found]

/-- Labels that are exactly the declared ones give their values. -/
theorem declaredValues_self {labels : List (String × String)}
    (h : (labels.map Prod.fst).Nodup) :
    declaredValues (labels.map Prod.fst) labels = .ok (labels.map Prod.snd) := by
  have values : ∀ some ⊆ labels,
      (some.map Prod.fst).mapM (declaredValue labels) = .ok (some.map Prod.snd) := by
    intro some
    induction some with
    | nil => exact fun _ => rfl
    | cons label rest ih =>
        intro within
        obtain ⟨mem, rest_within⟩ := List.cons_subset.mp within
        rw [List.map_cons, List.mapM_cons, declaredValue_of_mem h mem, ih rest_within]
        rfl
  rw [declaredValues, if_pos (List.length_map _).symm]
  exact values labels (List.Subset.refl _)

/-! ## One reading -/

/-- The sample of a reading. -/
def sampleOf (r : GaugeReading) : FamilySample :=
  ⟨"", sortedLabels (r.labels.map named), plain.render r.value⟩

/-- The family of a reading that is the only one of its gauge. -/
def ofReading (r : GaugeReading) : Family :=
  { name := r.gauge.name, help := r.gauge.help, kind := .gauge, samples := [sampleOf r] }

theorem map_fst_named {r : GaugeReading} (declared : r.labels.map Prod.fst = r.gauge.labelKeys) :
    (r.labels.map named).map Prod.fst = labelNames r.gauge := by
  rw [labelNames, ← declared, List.map_map, List.map_map]
  rfl

/-- A reading with the declared labels makes a family with all of them. -/
theorem gaugeFamily_singleton {r : GaugeReading}
    (declared : r.labels.map Prod.fst = r.gauge.labelKeys) :
    gaugeFamily r.gauge [r] = .ok (ofReading r) := by
  have names := (map_fst_named declared).symm
  have apart := nodup_labelNames r.gauge
  rw [names] at apart
  have set : setSample (labelNames r.gauge) [] r =
      .ok [((r.labels.map named).map Prod.snd, r.value)] := by
    rw [setSample, namedLabels_of_nodup apart, names, declaredValues_self apart]
    rfl
  have zipped : ((r.labels.map named).map Prod.fst).zip ((r.labels.map named).map Prod.snd) =
      r.labels.map named := (List.zip_of_prod rfl rfl).symm
  rw [gaugeFamily, if_pos (nodup_labelNames r.gauge), List.foldlM_cons, set, names]
  show Except.ok _ = Except.ok (ofReading r)
  simp only [List.map_cons, List.map_nil, zipped, sortedSamples, List.mergeSort_singleton]
  rfl

/-! ## All readings -/

/-- The reading of each gauge that has one, gauge by gauge. -/
def byGauge (rs : List GaugeReading) : List GaugeReading :=
  Gauge.all.filterMap fun g => rs.find? fun r => r.gauge = g

theorem filter_gauge {rs : List GaugeReading} (single : (rs.map GaugeReading.gauge).Nodup)
    (g : Gauge) :
    (rs.filter fun r => r.gauge = g) = (rs.find? fun r => r.gauge = g).toList := by
  induction rs with
  | nil => rfl
  | cons r rs ih =>
      rw [List.map_cons, List.nodup_cons] at single
      by_cases same : r.gauge = g
      · have others : (rs.filter fun r => r.gauge = g) = [] := by
          rw [List.filter_eq_nil_iff]
          intro other mem hit
          have : other.gauge = r.gauge := by simpa [same] using hit
          exact single.1 (List.mem_map.mpr ⟨other, mem, this⟩)
        rw [List.filter_cons_of_pos (by simpa using same), others,
          List.find?_cons_of_pos (by simpa using same)]
        rfl
      · rw [List.filter_cons_of_neg (by simpa using same),
          List.find?_cons_of_neg (by simpa using same), ih single.2]

/-- Readings that fit all have their families. -/
theorem ofReadings_of_fit {rs : List GaugeReading} (fit : GaugeReading.Fit rs) :
    ofReadings rs = (byGauge rs).map ofReading := by
  rw [ofReadings, byGauge, List.map_filterMap]
  refine List.filterMap_congr fun g _ => ?_
  rw [filter_gauge fit.single]
  cases found : rs.find? fun r => r.gauge = g with
  | none => rfl
  | some r =>
      have same : r.gauge = g := by simpa using List.find?_some found
      have declared := fit.declared r (List.mem_of_find?_eq_some found)
      subst same
      simp only [Option.toList_some, gaugeFamily_singleton declared]
      rfl

/-- Going gauge by gauge leaves no reading out and takes none twice. -/
theorem perm_byGauge {rs : List GaugeReading} (single : (rs.map GaugeReading.gauge).Nodup) :
    (byGauge rs).Perm rs := by
  have nodup : (byGauge rs).Nodup := by
    refine List.Nodup.filterMap (fun g g' r hg hg' => ?_) (by decide)
    have first : r.gauge = g := by simpa using List.find?_some hg
    have second : r.gauge = g' := by simpa using List.find?_some hg'
    exact first.symm.trans second
  rw [List.perm_ext_iff_of_nodup nodup (single.of_map _)]
  intro r
  rw [byGauge, List.mem_filterMap]
  constructor
  · rintro ⟨g, -, found⟩
    exact List.mem_of_find?_eq_some found
  · intro mem
    have every : r.gauge ∈ Gauge.all := by cases r.gauge <;> decide
    refine ⟨r.gauge, every, ?_⟩
    -- the reading found is of the same gauge, so it is this one
    obtain ⟨found, hfound⟩ : ∃ found, (rs.find? fun x => x.gauge = r.gauge) = some found := by
      rw [← Option.isSome_iff_exists, List.find?_isSome]
      exact ⟨r, mem, by simp⟩
    have same : found.gauge = r.gauge := by simpa using List.find?_some hfound
    rw [hfound, List.inj_on_of_nodup_map single (List.mem_of_find?_eq_some hfound) mem same]

end Exposition
end UsageMeter
