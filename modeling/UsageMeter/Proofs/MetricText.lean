import UsageMeter.Proofs.Answers
import UsageMeter.Proofs.GaugeFamilies
import UsageMeter.Proofs.ReadBack
import UsageMeter.Proofs.SampleLine
import UsageMeter.Registry

/-!
# The text of the metrics

What a scrape gets to read. The readings of the snapshot stand in the text one
after the other, in the order of their names, each in three lines of its own, and
the last of the three reads back as the reading. Names of services and processes
may be anything: they end no line, no label and no value.
-/

namespace UsageMeter
open UsageMeter.Time

namespace Exposition
open UsageMeter.Decimal

/-! ## Lines stay whole -/

theorem isAlphanum_of_mem_labelName {key : String} {c : Char} (h : c ∈ (labelName key).toList) :
    c.isAlphanum = true ∨ c = '_' := by
  rw [labelName, String.toList_ofList, List.mem_map] at h
  obtain ⟨d, -, rfl⟩ := h
  split
  · exact .inl ‹_›
  · exact .inr rfl

theorem newline_notMem_escapeValue (value : List Char) : '\n' ∉ escapeValue value := by
  fun_induction escapeValue value with
  | case1 => exact List.not_mem_nil
  | case2 cs ih => simp [ih]
  | case3 cs ih => simp [ih]
  | case4 cs ih => simp [ih]
  | case5 c cs _ feed _ ih =>
      rw [List.mem_cons, not_or]
      exact ⟨Ne.symm feed, ih⟩

theorem newline_notMem_escapeHelp (help : List Char) : '\n' ∉ escapeHelp help := by
  fun_induction escapeHelp help with
  | case1 => exact List.not_mem_nil
  | case2 cs ih => simp [ih]
  | case3 cs ih => simp [ih]
  | case4 c cs _ feed ih =>
      rw [List.mem_cons, not_or]
      exact ⟨Ne.symm feed, ih⟩

theorem isDigit_of_mem_natDigits {n : Nat} {c : Char} (h : c ∈ natDigits n) :
    c.isDigit = true :=
  Nat.isDigit_of_mem_toDigits (by decide) (by decide) h

/-- Numbers that are written out consist of digits and a point. -/
theorem mem_positionalText {digits : List Char} {point : Int} {c : Char}
    (h : c ∈ positionalText false digits point) : c ∈ digits ∨ c = '0' ∨ c = '.' := by
  unfold positionalText at h
  split at h
  · simp only [List.mem_cons, List.mem_append, List.mem_replicate] at h
    grind
  · split at h
    · simp only [List.mem_append, List.mem_replicate, Bool.false_eq_true, if_false,
        List.not_mem_nil] at h
      grind
    · simp only [List.mem_append, List.mem_cons] at h
      rcases h with digit | point | digit
      · exact .inl (List.mem_of_mem_take digit)
      · exact .inr (.inr point)
      · exact .inl (List.mem_of_mem_drop digit)

theorem newline_notMem_magnitudeText (d : Digits) : '\n' ∉ plain.magnitudeText d := by
  intro h
  rcases mem_positionalText h with digit | zero | point
  · exact absurd (isDigit_of_mem_natDigits digit) (by decide)
  · cases zero
  · cases point

theorem newline_notMem_render (x : Float) : '\n' ∉ (plain.render x).toList := by
  unfold Style.render
  cases Binary64.ofFloat x with
  | notANumber => decide
  | infinite negative => cases negative <;> decide
  | finite negative mantissa exponent =>
      simp only [String.toList_ofList]
      split <;> split <;> simp [newline_notMem_magnitudeText]

theorem newline_notMem_intercalate {sep : List Char} (hsep : '\n' ∉ sep)
    {parts : List (List Char)} (h : ∀ part ∈ parts, '\n' ∉ part) :
    '\n' ∉ sep.intercalate parts := by
  induction parts with
  | nil => exact List.not_mem_nil
  | cons part parts ih =>
      rw [List.forall_mem_cons] at h
      cases parts with
      | nil => simpa using h.1
      | cons next parts =>
          rw [List.intercalate_cons_cons]
          simp only [List.mem_append, not_or]
          exact ⟨⟨h.1, hsep⟩, ih h.2⟩

/-- Escaped values and plain names leave the line of a sample whole. -/
theorem newline_notMem_sampleLine {family : String} {s : FamilySample}
    (name : '\n' ∉ (family ++ s.nameEnd).toList) (value : '\n' ∉ s.value.toList)
    (labels : ∀ l ∈ s.labels, '\n' ∉ l.1.toList) : '\n' ∉ (sampleLine family s).toList := by
  have label : ∀ l ∈ s.labels, '\n' ∉ (labelText l).toList := by
    intro l hl
    simp [labelText, labels l hl, newline_notMem_escapeValue]
  have within : '\n' ∉ (labelsText s.labels).toList := by
    unfold labelsText
    split
    · decide
    · have between : '\n' ∉ [','].intercalate ((s.labels.map labelText).map String.toList) :=
        newline_notMem_intercalate (by decide)
          (List.forall_mem_map.mpr (List.forall_mem_map.mpr label))
      simpa [String.toList_intercalate] using between
  rw [String.toList_append, List.mem_append, not_or] at name
  simp [sampleLine, name, value, within]

/-- Lines with a line feed after each are found again by the line feeds, if they
have none themselves. -/
theorem splitOn_text {families : List Family}
    (whole : ∀ line ∈ (lines families).map String.toList, '\n' ∉ line) :
    (text families).toList.splitOn '\n' = (lines families).map String.toList ++ [[]] := by
  have joined : ∀ ls : List String, (String.join (ls.map (· ++ "\n"))).toList =
      ['\n'].intercalate (ls.map String.toList ++ [[]]) := by
    intro ls
    induction ls with
    | nil => rfl
    | cons l ls ih =>
        have next : ls.map String.toList ++ [[]] ≠ [] := by simp
        obtain ⟨first, rest, shape⟩ := List.exists_cons_of_ne_nil next
        rw [List.map_cons, String.join_cons, String.toList_append, ih, List.map_cons,
          List.cons_append, shape, List.intercalate_cons_cons]
        simp
  rw [text, joined]
  refine List.splitOn_intercalate '\n' ?_ (by simp)
  intro line mem
  rcases List.mem_append.mp mem with told | last
  · exact whole line told
  · rw [List.mem_singleton.mp last]
    exact List.not_mem_nil

/-! ## Names in their order -/

/-- Sorting by names that differ leaves each name before all that follow. -/
theorem pairwise_mergeSort_lt {α : Type} (name : α → String) {xs : List α}
    (apart : (xs.map name).Nodup) :
    (xs.mergeSort fun a b => name a ≤ name b).Pairwise fun a b => name a < name b := by
  have sorted : (xs.mergeSort fun a b => name a ≤ name b).Pairwise fun a b => name a ≤ name b := by
    have transitive : ∀ a b c, decide (name a ≤ name b) = true →
        decide (name b ≤ name c) = true → decide (name a ≤ name c) = true := by
      intro a b c hab hbc
      rw [decide_eq_true_eq] at hab hbc ⊢
      exact String.le_trans hab hbc
    have total : ∀ a b, (decide (name a ≤ name b) || decide (name b ≤ name a)) = true := by
      intro a b
      simpa using String.le_total (name a) (name b)
    simpa only [decide_eq_true_eq] using List.pairwise_mergeSort transitive total xs
  have distinct : (xs.mergeSort fun a b => name a ≤ name b).Pairwise fun a b => name a ≠ name b :=
    List.pairwise_map.mp (((List.mergeSort_perm _ _).map name).nodup_iff.mpr apart)
  exact (sorted.and distinct).imp fun ⟨before, ne⟩ => Std.lt_of_le_of_ne before ne

theorem gaugeName_injective : Function.Injective Gauge.name := by
  intro g g' same
  cases g <;> cases g' <;> first | rfl | exact absurd same (by decide)

/-- Readings in the order of the names of their gauges. -/
def byName (rs : List GaugeReading) : List GaugeReading :=
  (byGauge rs).mergeSort fun a b => a.gauge.name ≤ b.gauge.name

theorem perm_byName {rs : List GaugeReading} (single : (rs.map GaugeReading.gauge).Nodup) :
    (byName rs).Perm rs :=
  (List.mergeSort_perm _ _).trans (perm_byGauge single)

theorem pairwise_byName {rs : List GaugeReading} (single : (rs.map GaugeReading.gauge).Nodup) :
    (byName rs).Pairwise fun a b => a.gauge.name < b.gauge.name := by
  have gauges := ((perm_byGauge single).map GaugeReading.gauge).nodup_iff.mpr single
  have names := gauges.map gaugeName_injective
  rw [List.map_map] at names
  exact pairwise_mergeSort_lt (fun r : GaugeReading => r.gauge.name) names

/-! ## Three lines for each reading -/

/-- The lines of a reading. -/
def readingLines (r : GaugeReading) : List (List Char) :=
  (familyLines (ofReading r)).map String.toList

/-- **What three lines tell of a reading**: the help and the kind of its gauge, and
a sample that reads back as the gauge's name, all the labels in the order of
their names, and the plain text of the value, which reads back as the value. -/
def Tells (told : List (List Char)) (r : GaugeReading) : Prop :=
  ∃ sample labels,
    told = [("# HELP " ++ r.gauge.name ++ " " ++ r.gauge.help).toList,
      ("# TYPE " ++ r.gauge.name ++ " gauge").toList, sample] ∧
    readSample sample = some ⟨r.gauge.name, labels, plain.render r.value⟩ ∧
    float? (plain.render r.value).toList = some r.value ∧
    labels.Perm (r.labels.map named) ∧
    labels.Pairwise fun a b => a.1 < b.1

theorem lines_ofReadings {rs : List GaugeReading} (fit : GaugeReading.Fit rs) :
    (lines (ofReadings rs)).map String.toList = ((byName rs).map readingLines).flatten := by
  have sorted : ((byGauge rs).map ofReading).mergeSort (fun a b => a.name ≤ b.name) =
      (byName rs).map ofReading := by
    rw [byName, List.map_mergeSort]
    exact fun _ _ _ _ => rfl
  rw [lines, ofReadings_of_fit fit, sorted, List.flatMap_map, List.map_flatMap, List.flatMap_def]
  rfl

theorem endsName_of_mem_gaugeName (g : Gauge) : ∀ c ∈ g.name.toList, endsName c = false := by
  have plainName : g.name.toList.any endsName = false := by cases g <;> decide
  simpa using plainName

theorem newline_notMem_gaugeName (g : Gauge) : '\n' ∉ g.name.toList := by
  cases g <;> decide

theorem escapeHelp_help (g : Gauge) : escapeHelp g.help.toList = g.help.toList := by
  cases g <;> decide +kernel

theorem isAlphanum_of_mem_sampleOf {r : GaugeReading} {l : String × String}
    (mem : l ∈ (sampleOf r).labels) {c : Char} (hc : c ∈ l.1.toList) :
    c.isAlphanum = true ∨ c = '_' := by
  obtain ⟨label, -, rfl⟩ := List.mem_map.mp (List.mem_mergeSort.mp mem)
  exact isAlphanum_of_mem_labelName hc

/-- Nothing in a reading can end one of its lines. -/
theorem newline_notMem_readingLines (r : GaugeReading) :
    ∀ line ∈ readingLines r, '\n' ∉ line := by
  have sample : '\n' ∉ (sampleLine r.gauge.name (sampleOf r)).toList := by
    refine newline_notMem_sampleLine ?_ (newline_notMem_render r.value) fun l hl hc => ?_
    · simp [sampleOf, newline_notMem_gaugeName]
    · exact absurd (isAlphanum_of_mem_sampleOf hl hc) (by decide)
  simp [readingLines, familyLines, ofReading, FamilyKind.name, sample, newline_notMem_gaugeName,
    newline_notMem_escapeHelp]

theorem tells_readingLines {r : GaugeReading}
    (declared : r.labels.map Prod.fst = r.gauge.labelKeys) : Tells (readingLines r) r := by
  have apart : ((r.labels.map named).map Prod.fst).Nodup := by
    rw [map_fst_named declared]
    exact nodup_labelNames r.gauge
  have whole : r.gauge.name ++ (sampleOf r).nameEnd = r.gauge.name := String.append_empty
  have plainName : ∀ c ∈ (r.gauge.name ++ (sampleOf r).nameEnd).toList, endsName c = false := by
    rw [whole]
    exact endsName_of_mem_gaugeName r.gauge
  have read := readSample_sampleLine plainName fun l hl hc =>
    absurd (isAlphanum_of_mem_sampleOf hl hc) (by decide)
  rw [whole] at read
  refine ⟨_, _, ?_, read, float?_plain r.value, List.mergeSort_perm _ _,
    pairwise_mergeSort_lt Prod.fst apart⟩
  simp [readingLines, familyLines, ofReading, FamilyKind.name, escapeHelp_help]

/-- Readings that fit are told one after the other, and nothing else is. -/
theorem splitOn_text_ofReadings {rs : List GaugeReading} (fit : GaugeReading.Fit rs) :
    (text (ofReadings rs)).toList.splitOn '\n' =
      ((byName rs).map readingLines).flatten ++ [[]] := by
  have told := lines_ofReadings fit
  rw [splitOn_text, told]
  intro line mem
  rw [told, List.mem_flatten] at mem
  obtain ⟨_, readings, within⟩ := mem
  obtain ⟨r, -, rfl⟩ := List.mem_map.mp readings
  exact newline_notMem_readingLines r line within

theorem tells_byName {rs : List GaugeReading} (fit : GaugeReading.Fit rs) :
    List.Forall₂ Tells ((byName rs).map readingLines) (byName rs) := by
  rw [List.forall₂_map_left_iff, List.forall₂_same]
  intro r mem
  exact tells_readingLines (fit.declared r ((perm_byName fit.single).mem_iff.mp mem))

end Exposition

open Exposition

/-- **The text tells the readings and nothing else.** A collector can be registered,
and its readings are gathered whenever the staleness of the snapshot can be told.
The text of readings is three lines for each of them, in the order of the names
of their gauges, and tells them all once: whatever the service and the process are
called. -/
theorem text_tells_readings (service : String) (interval : Span) (s : Snapshot)
    (now : Timestamp) :
    ∃ registry, Registry.empty.register ⟨service, interval⟩ = .ok registry ∧
      ((∃ rs, registry.gather s now = .ok rs) ↔
        s.updatedAt = none ∨ 2 * interval.nanos < spanLimit) ∧
      ∀ rs, registry.gather s now = .ok rs →
        s.readings service now interval = .ok rs ∧
        ∃ told triples, told.Perm rs ∧
          (told.Pairwise fun a b => a.gauge.name < b.gauge.name) ∧
          List.Forall₂ Tells triples told ∧
          (text (ofReadings rs)).toList.splitOn '\n' = triples.flatten ++ [[]] := by
  refine ⟨⟨some ⟨service, interval⟩⟩, rfl,
    ⟨fun ⟨_, gathered⟩ => Snapshot.judgeable_of_readings gathered,
      fun judgeable => (Snapshot.Judgeable.answers judgeable service now).readings⟩, ?_⟩
  intro rs gathered
  have fit := Snapshot.fit_readings gathered
  exact ⟨gathered, byName rs, (byName rs).map readingLines, perm_byName fit.single,
    pairwise_byName fit.single, tells_byName fit, splitOn_text_ofReadings fit⟩

/-- A name that would close its label and begin a line stays within its label. -/
example :
    (lines (ofReadings [Snapshot.degradedReading "svc\"\x7d 0\nup 1" true])).getLast? =
      some "usage_snapshot_degraded\x7bservice_name=\"svc\\\"\x7d 0\\nup 1\"\x7d 1" := by
  decide +kernel

end UsageMeter
