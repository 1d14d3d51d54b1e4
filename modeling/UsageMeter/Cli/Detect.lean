import UsageMeter.Cli.Amount
import UsageMeter.Cli.Report
import UsageMeter.Cli.Table
import UsageMeter.Moment
import UsageMeter.Report
import UsageMeter.Source.Chain

/-!
The command that shows which tiers can be read here and which one is used. It
fails if none can be.
-/
namespace UsageMeter.Cli
open UsageMeter.Json UsageMeter.Source

/-- How a tier fares on its own. -/
structure TierReport where
  tier : Tier
  status : String
  detail : String
deriving DecidableEq, Repr

/-- Which tiers can be read, and the reading of the one in use. -/
structure Detection where
  selected : Option CounterSample
  hostCpus : UInt32
  tiers : List TierReport

/-- How a reading of a tier went. -/
def TierReport.ofRead (tier : Tier) (read : Except ReadError CounterSample) : TierReport :=
  match read with
  | .ok sample => ⟨tier, "available", toString sample.cpus.toNat ++ " online CPUs"⟩
  | .error e => ⟨tier, "unavailable", e.message⟩

/-- The report of a tier that is not to be used. -/
def TierReport.disabled (tier : Tier) : TierReport :=
  ⟨tier, "disabled", "fallback turned off"⟩

/-- The report of a tier: it is read on its own, if it is to be used. -/
def tierReport (roots : Roots) (moment : Moment) (tier : Tier) : Except SumOverflow TierReport :=
  if tier ∈ roots.tiers then
    (roots.readTier moment.files moment.now tier).map (TierReport.ofRead tier)
  else .ok (.disabled tier)

/-- The reports of all tiers, one after the other. -/
def tierReports (roots : Roots) (moment : Moment) : Except SumOverflow (List TierReport) :=
  Tier.all.mapM (tierReport roots moment)

/-- Reads every tier on its own, and then as a reading would choose. -/
def Detection.at (roots : Roots) (moment : Moment) :
    Except SumOverflow (Detection × List Event) := do
  let tiers ← tierReports roots moment
  let (read, _, events) := (TierChain.new roots).read moment.files moment.now
  let read ← read
  .ok ({ selected := read.toOption, hostCpus := roots.hostCpus, tiers }, events)

namespace Detection

/-- The quota in microseconds, if there is one that is not negative. -/
def quotaMicros (d : Detection) : Option Nat := do
  let quota ← (← d.selected).quota
  if 0 ≤ quota then some (quota.toNat / 1000) else none

/-- The period in microseconds. -/
def periodMicros (d : Detection) : Option Nat := do
  let period ← (← d.selected).period
  some (period.toNat / 1000)

/-- A number, or null where there is none. -/
def countOrNull : Option Nat → Value
  | none => .null
  | some n => .integer n

/-- The JSON form of a tier's report. -/
def tierJson (t : TierReport) : Value :=
  .object [("kind", t.tier.toJson), ("status", .string t.status), ("detail", .string t.detail)]

/-- The JSON form of a detection. -/
def toJson (d : Detection) : Value :=
  .object
    [("active", (d.selected.map fun s => s.tier.toJson).getD .null),
      ("scope", (d.selected.map fun s => Value.string s.tier.scope.name).getD .null),
      ("quota_us", countOrNull d.quotaMicros),
      ("period_us", countOrNull d.periodMicros),
      ("online_cpus", countOrNull (d.selected.map fun s => s.cpus.toNat)),
      ("host_cpus", .integer d.hostCpus.toNat),
      ("tiers", .array (d.tiers.map tierJson))]

/-- The table of tiers. -/
def tiersText (d : Detection) (colour : Bool) : String :=
  tableText ["Tier", "Status", "Detail"]
    (d.tiers.map fun t => [t.tier.name, statusText colour t.status, t.detail])

/-- A line that calls for attention. -/
def warning (colour : Bool) (message : String) : String :=
  line (Paint.boldYellow.apply colour "⚠" ++ " " ++ message)

/-- What is said about the tier in use. -/
def selectedText (d : Detection) (colour : Bool) : String :=
  match d.selected with
  | none => warning colour "No usable counter source on this host"
  | some s =>
    line ("Active Source:  " ++ Paint.cyan.apply colour s.tier.name) ++
      line ("Scope:          " ++ s.tier.scope.name) ++
      line ("Quota:          " ++ microsText d.quotaMicros) ++
      line ("Period:         " ++ microsText d.periodMicros) ++
      line ("Online CPUs:    " ++ toString s.cpus.toNat) ++
      line ("Host CPUs:      " ++ toString d.hostCpus.toNat) ++
      (if s.tier.isContainer then ""
        else line "" ++ warning colour "Figures are host-wide, not limited to this container")

/-- A detection for people. -/
def text (d : Detection) (colour : Bool) : String :=
  line (Paint.bold.apply colour "Counter Sources") ++
    line (String.ofList (List.replicate 50 '=')) ++
    d.tiersText colour ++ line "" ++ d.selectedText colour

end Detection

/-- What a detection prints and whether the command fails. -/
def Detection.report (d : Detection) (events : List Event) (format : Format) (colour : Bool) :
    Report :=
  { output :=
      match format with
      | .json => jsonText d.toJson
      | .table => d.text colour
    failure := if d.selected.isNone then some ["no usable counter source"] else none
    events }

/-- The command, which prints nothing before all tiers were read. -/
def detect (roots : Roots) (format : Format) (colour : Bool) (moment : Moment) :
    Except Abort Report :=
  match Detection.at roots moment with
  | .error o => .error ⟨"", o⟩
  | .ok (d, events) => .ok (d.report events format colour)

end UsageMeter.Cli
