import UsageMeter.Health
import UsageMeter.Json.Record
import UsageMeter.Json.Value
import UsageMeter.Time.Reading

/-!
The JSON forms of snapshots and verdicts, and how they are read back. Fields
are written in a fixed order; what is absent in a verdict is left out, what is
absent in a snapshot is `null`.
-/
namespace UsageMeter
open UsageMeter.Json UsageMeter.Time

/-- A tier by its name. -/
def Tier.toJson (t : Tier) : Value := .string t.name

/-- Reads a tier. -/
def Tier.fromJson : List Char → Read Tier := readNamed Tier.ofName?

/-- A status by its name. -/
def Status.toJson (s : Status) : Value := .string s.name

/-- Reads a status. -/
def Status.fromJson : List Char → Read Status := readNamed Status.ofName?

/-- A point in time by its text. -/
def Time.Timestamp.toJson (t : Timestamp) : Value := .string t.text

/-- Reads a point in time. -/
def Time.Timestamp.fromJson : List Char → Read Timestamp :=
  readParsed fun s => Timestamp.read? s.toList

/-! ## Snapshots -/

/-- The JSON form of a snapshot. -/
def Snapshot.toJson (s : Snapshot) : Value :=
  .object
    [("system_or_container_cpu_pct", .float s.cpuPercent),
      ("process_cpu_pct", .float s.processCpuPercent),
      ("process_memory_bytes", .integer s.processMemory.toNat),
      ("pid", .integer s.pid.toNat),
      ("process_name", .string s.processName),
      ("online_cpus", .integer s.cpus.toNat),
      ("last_updated", (s.updatedAt.map Timestamp.toJson).getD .null),
      ("degraded", .bool s.degraded),
      ("source", (s.tier.map Tier.toJson).getD .null)]

/-- A snapshot of which some fields have been read. -/
structure PartialSnapshot where
  cpuPercent : Option Float := none
  processCpuPercent : Option Float := none
  processMemory : Option UInt64 := none
  pid : Option UInt32 := none
  processName : Option String := none
  cpus : Option UInt32 := none
  updatedAt : Option (Option Timestamp) := none
  degraded : Option Bool := none
  tier : Option (Option Tier) := none

namespace PartialSnapshot

/-- The fields of a snapshot in their order. -/
def fields : List (RecordField PartialSnapshot) :=
  [⟨"system_or_container_cpu_pct", fun p => p.cpuPercent.isSome, fun p s =>
      (readFloat s).map fun (x, r) => ({ p with cpuPercent := some x }, r)⟩,
    ⟨"process_cpu_pct", fun p => p.processCpuPercent.isSome, fun p s =>
      (readFloat s).map fun (x, r) => ({ p with processCpuPercent := some x }, r)⟩,
    ⟨"process_memory_bytes", fun p => p.processMemory.isSome, fun p s =>
      (readNatural maxWord64 s).map fun (n, r) =>
        ({ p with processMemory := some (UInt64.ofNat n) }, r)⟩,
    ⟨"pid", fun p => p.pid.isSome, fun p s =>
      (readNatural maxWord32 s).map fun (n, r) => ({ p with pid := some (UInt32.ofNat n) }, r)⟩,
    ⟨"process_name", fun p => p.processName.isSome, fun p s =>
      (readText s).map fun (t, r) => ({ p with processName := some t }, r)⟩,
    ⟨"online_cpus", fun p => p.cpus.isSome, fun p s =>
      (readNatural maxWord32 s).map fun (n, r) => ({ p with cpus := some (UInt32.ofNat n) }, r)⟩,
    ⟨"last_updated", fun p => p.updatedAt.isSome, fun p s =>
      (readOptional Timestamp.fromJson s).map fun (t, r) => ({ p with updatedAt := some t }, r)⟩,
    ⟨"degraded", fun p => p.degraded.isSome, fun p s =>
      (readBool s).map fun (b, r) => ({ p with degraded := some b }, r)⟩,
    ⟨"source", fun p => p.tier.isSome, fun p s =>
      (readOptional Tier.fromJson s).map fun (t, r) => ({ p with tier := some t }, r)⟩]

/-- The snapshot, if no field is missing that must be there. -/
def finish (p : PartialSnapshot) : Option Snapshot := do
  let cpuPercent ← p.cpuPercent
  let processCpuPercent ← p.processCpuPercent
  let processMemory ← p.processMemory
  let pid ← p.pid
  let processName ← p.processName
  let cpus ← p.cpus
  let degraded ← p.degraded
  some
    { cpuPercent, processCpuPercent, processMemory, pid, processName, cpus
      updatedAt := p.updatedAt.getD none
      degraded
      tier := p.tier.getD none }

end PartialSnapshot

/-- Reads a snapshot. -/
def Snapshot.fromJson : List Char → Read Snapshot :=
  readRecord PartialSnapshot.fields {} PartialSnapshot.finish

/-! ## Verdicts -/

/-- The JSON form of a component's health. -/
def ComponentHealth.toJson (c : ComponentHealth) : Value :=
  .object <|
    ("status", c.status.toJson) ::
      (Value.optional "message" (c.message.map .string) ++
        [("last_check_timestamp", .integer c.checkedAt)])

/-- The fields of the JSON form of a health verdict. -/
def Health.fields (h : Health) : List (String × Value) :=
  [("status", h.status.toJson),
    ("components", .object (h.components.map fun (name, c) => (name, c.toJson)))]

/-- The JSON form of a health verdict. -/
def Health.toJson (h : Health) : Value := .object h.fields

/-- The fields of the JSON form of a readiness verdict. -/
def Readiness.fields (r : Readiness) : List (String × Value) :=
  ("ready", .bool r.ready) :: Value.optional "reason" (r.reason.map .string)

/-- The JSON form of a readiness verdict. -/
def Readiness.toJson (r : Readiness) : Value := .object r.fields

/-- A component's health of which some fields have been read. -/
structure PartialComponent where
  status : Option Status := none
  message : Option (Option String) := none
  checkedAt : Option Int := none

/-- Reads a component's health. -/
def ComponentHealth.fromJson : List Char → Read ComponentHealth :=
  readRecord
    [⟨"status", fun p => p.status.isSome, fun p s =>
        (Status.fromJson s).map fun (x, r) => ({ p with status := some x }, r)⟩,
      ⟨"message", fun p => p.message.isSome, fun p s =>
        (readOptional readText s).map fun (x, r) => ({ p with message := some x }, r)⟩,
      ⟨"last_check_timestamp", fun p => p.checkedAt.isSome, fun p s =>
        (readInteger s).map fun (x, r) => ({ p with checkedAt := some x }, r)⟩]
    ({} : PartialComponent)
    fun p => do
      let status ← p.status
      let checkedAt ← p.checkedAt
      some ⟨status, p.message.getD none, checkedAt⟩

/-- A health verdict of which some fields have been read. -/
structure PartialHealth where
  status : Option Status := none
  components : Option (List (String × ComponentHealth)) := none

/-- Reads a health verdict. -/
def Health.fromJson : List Char → Read Health :=
  readRecord
    [⟨"status", fun p => p.status.isSome, fun p s =>
        (Status.fromJson s).map fun (x, r) => ({ p with status := some x }, r)⟩,
      ⟨"components", fun p => p.components.isSome, fun p s =>
        (readMap ComponentHealth.fromJson s).map fun (x, r) =>
          ({ p with components := some x }, r)⟩]
    ({} : PartialHealth)
    fun p => do
      let status ← p.status
      let components ← p.components
      some ⟨status, components⟩

/-- A readiness verdict of which some fields have been read. -/
structure PartialReadiness where
  ready : Option Bool := none
  reason : Option (Option String) := none

/-- Reads a readiness verdict. -/
def Readiness.fromJson : List Char → Read Readiness :=
  readRecord
    [⟨"ready", fun p => p.ready.isSome, fun p s =>
        (readBool s).map fun (x, r) => ({ p with ready := some x }, r)⟩,
      ⟨"reason", fun p => p.reason.isSome, fun p s =>
        (readOptional readText s).map fun (x, r) => ({ p with reason := some x }, r)⟩]
    ({} : PartialReadiness)
    fun p => do
      let ready ← p.ready
      some ⟨ready, p.reason.getD none⟩

end UsageMeter
