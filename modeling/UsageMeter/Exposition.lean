import UsageMeter.Decimal.Style
import UsageMeter.Gauge
import UsageMeter.SelfMetrics

/-!
The exposition text of metrics. A family of samples is written as a line of
help, a line with its kind, and a line for each sample; families stand in the
order of their names and labels in the order of theirs. Backslashes, line
feeds and, in the values of labels, quotes are escaped, so that a value cannot
end its line or its quotes.
-/
namespace UsageMeter

/-- The kinds of families. -/
inductive FamilyKind where
  | counter
  | gauge
  | histogram
deriving DecidableEq, Repr

/-- The name of a kind of families. -/
def FamilyKind.name : FamilyKind → String
  | .counter => "counter"
  | .gauge => "gauge"
  | .histogram => "histogram"

/-- A sample: what its name adds to that of the family, its labels, and its value. -/
structure FamilySample where
  nameEnd : String
  labels : List (String × String)
  value : String
deriving DecidableEq, Repr

/-- Samples under one name. -/
structure Family where
  name : String
  help : String
  kind : FamilyKind
  samples : List FamilySample
deriving DecidableEq, Repr

namespace Exposition
open UsageMeter.Decimal

/-- A label name: every character of a key but ASCII letters and digits becomes `_`. -/
def labelName (key : String) : String :=
  String.ofList (key.toList.map fun c => if c.isAlphanum then c else '_')

/-- The value of a label, without characters that would end it. -/
def escapeValue : List Char → List Char
  | [] => []
  | '\\' :: r => '\\' :: '\\' :: escapeValue r
  | '\n' :: r => '\\' :: 'n' :: escapeValue r
  | '"' :: r => '\\' :: '"' :: escapeValue r
  | c :: r => c :: escapeValue r

/-- The text of a help line, without characters that would end it. -/
def escapeHelp : List Char → List Char
  | [] => []
  | '\\' :: r => '\\' :: '\\' :: escapeHelp r
  | '\n' :: r => '\\' :: 'n' :: escapeHelp r
  | c :: r => c :: escapeHelp r

/-- A label with its value in quotes. -/
def labelText (label : String × String) : String :=
  label.1 ++ "=\"" ++ String.ofList (escapeValue label.2.toList) ++ "\""

/-- Labels in braces, or nothing if there are none. -/
def labelsText : List (String × String) → String
  | [] => ""
  | labels => "\x7b" ++ ",".intercalate (labels.map labelText) ++ "\x7d"

/-- The line of a sample. -/
def sampleLine (family : String) (s : FamilySample) : String :=
  family ++ s.nameEnd ++ labelsText s.labels ++ " " ++ s.value

/-- The lines of a family. -/
def familyLines (f : Family) : List String :=
  ("# HELP " ++ f.name ++ " " ++ String.ofList (escapeHelp f.help.toList)) ::
    ("# TYPE " ++ f.name ++ " " ++ f.kind.name) ::
    f.samples.map (sampleLine f.name)

/-- The lines of all families, in the order of their names. -/
def lines (families : List Family) : List String :=
  (families.mergeSort fun a b => a.name ≤ b.name).flatMap familyLines

/-- The exposition text: every line with a line feed after it. -/
def text (families : List Family) : String :=
  String.join ((lines families).map (· ++ "\n"))

/-- Labels in the order of their names. -/
def sortedLabels (labels : List (String × String)) : List (String × String) :=
  labels.mergeSort fun a b => a.1 ≤ b.1

/-- Whether values stand before others: the first that differ decide. -/
def valuesBefore : List String → List String → Bool
  | [], _ => true
  | _ :: _, [] => false
  | v :: vs, w :: ws => if v = w then valuesBefore vs ws else decide (v ≤ w)

/-- Samples in the order of the values of their labels. -/
def sortedSamples (samples : List FamilySample) : List FamilySample :=
  samples.mergeSort fun a b => valuesBefore (a.labels.map Prod.snd) (b.labels.map Prod.snd)

/-! ## Gauges -/

/-- Why the readings of a gauge make no family. -/
inductive LabelMismatch where
  /-- Two of the declared labels have one name. -/
  | repeated
  /-- A reading has more or fewer labels than are declared. -/
  | count (declared found : Nat)
  /-- A reading is without a label that is declared. -/
  | missing (name : String)
deriving DecidableEq, Repr

/-- Puts a value under a key, in the place of one that is there already. -/
def put {κ ν : Type} [BEq κ] (entries : List (κ × ν)) (key : κ) (value : ν) : List (κ × ν) :=
  entries.filter (fun e => e.1 != key) ++ [(key, value)]

/-- Labels under their label names; of two under one name the later counts. -/
def namedLabels (labels : List (String × String)) : List (String × String) :=
  labels.foldl (fun named label => put named (labelName label.1) label.2) []

/-- The value of a label that is declared. -/
def declaredValue (labels : List (String × String)) (name : String) :
    Except LabelMismatch String :=
  match labels.lookup name with
  | some value => .ok value
  | none => .error (.missing name)

/-- The values of the declared labels, if the labels are exactly these. -/
def declaredValues (declared : List String) (labels : List (String × String)) :
    Except LabelMismatch (List String) :=
  if labels.length = declared.length then declared.mapM (declaredValue labels)
  else .error (.count declared.length labels.length)

/-- The names of the labels that a gauge declares. -/
def labelNames (g : Gauge) : List String :=
  g.labelKeys.map labelName

/-- Sets the value of the sample with the labels of a reading. -/
def setSample (declared : List String) (samples : List (List String × Float)) (r : GaugeReading) :
    Except LabelMismatch (List (List String × Float)) :=
  (declaredValues declared (namedLabels r.labels)).map fun values => put samples values r.value

/-- The family of the readings of a gauge. -/
def gaugeFamily (g : Gauge) (rs : List GaugeReading) : Except LabelMismatch Family :=
  let declared := labelNames g
  if declared.Nodup then
    (rs.foldlM (setSample declared) []).map fun samples =>
      { name := g.name
        help := g.help
        kind := .gauge
        samples := sortedSamples (samples.map fun (values, value) =>
          ⟨"", sortedLabels (declared.zip values), plain.render value⟩) }
  else .error .repeated

/-- The families of gauge readings, gauge by gauge. A gauge without readings has
no family, nor has one with a reading whose labels do not fit. -/
def ofReadings (rs : List GaugeReading) : List Family :=
  Gauge.all.filterMap fun g =>
    match rs.filter fun r => r.gauge = g with
    | [] => none
    | matching => (gaugeFamily g matching).toOption

/-! ## The meter's account of itself -/

/-- The samples of a histogram: a count for each bound, the sum and the count of all. -/
def ofHistogram (h : Histogram) : List FamilySample :=
  h.buckets.map (fun (bound, n) =>
      ⟨"_bucket", [("le", plain.render bound)], toString n⟩) ++
    [⟨"_bucket", [("le", "+Inf")], toString h.count⟩,
     ⟨"_sum", [], plain.render h.sum⟩,
     ⟨"_count", [], toString h.count⟩]

/-- The sample of a label's value, if it was ever written. -/
def labelled (key label : String) (value : Option Nat) : Option FamilySample :=
  value.map fun n => ⟨"", [(key, label)], toString n⟩

/-- Every family of the meter's account of itself. -/
def selfFamilies (m : SelfMetrics) : List Family :=
  [{ name := "usage_engine_refresh_latency_seconds"
     help := "Time spent reading kernel counters and publishing a snapshot"
     kind := .histogram
     samples := ofHistogram m.latency },
   { name := "usage_engine_refresh_errors_total"
     help := "Failed reads during refresh, by component"
     kind := .counter
     samples :=
       [Component.counterSource, Component.processProbe].filterMap fun c =>
         labelled "component" c.name (m.errors c) },
   { name := "usage_engine_counter_resets_total"
     help := "Intervals discarded because a cumulative counter went backwards"
     kind := .counter
     samples := [⟨"", [], toString m.resets⟩] },
   { name := "usage_engine_source_tier"
     help := "Counter source currently in use (1 for the active kind)"
     kind := .gauge
     samples := (Tier.all.mergeSort fun a b => a.name ≤ b.name).filterMap fun t =>
       labelled "kind" t.name (m.tiers t) }]

/-- The families that there are samples of. -/
def ofSelfMetrics (m : SelfMetrics) : List Family :=
  (selfFamilies m).filter fun f => !f.samples.isEmpty

end Exposition
end UsageMeter
