import UsageMeter.Snapshot

/-!
Verdicts about the meter. Each component is judged by the latest snapshot, and
the worst judgement is the overall status. Readiness asks only whether the
snapshot is fresh.
-/
namespace UsageMeter
open UsageMeter.Time

/-- How a component fares. -/
inductive Status where
  | healthy
  | degraded
  | unhealthy
deriving DecidableEq, Repr

namespace Status

/-- The name of a status. -/
def name : Status → String
  | .healthy => "healthy"
  | .degraded => "degraded"
  | .unhealthy => "unhealthy"

/-- Every status. -/
def all : List Status := [.healthy, .degraded, .unhealthy]

/-- The status of a name. -/
def ofName? (s : String) : Option Status :=
  all.find? fun t => t.name == s

/-- The worse of two statuses. -/
def worse : Status → Status → Status
  | .unhealthy, _ => .unhealthy
  | _, .unhealthy => .unhealthy
  | .degraded, _ => .degraded
  | _, .degraded => .degraded
  | .healthy, .healthy => .healthy

/-- The worst of several statuses. -/
def worst (ss : List Status) : Status :=
  ss.foldl worse .healthy

/-- Whether the meter does its work. -/
def isOperational : Status → Bool
  | .unhealthy => false
  | _ => true

@[simp] theorem ofName?_name (s : Status) : ofName? s.name = some s := by
  cases s <;> decide

end Status

/-- The judgement of one component. -/
structure ComponentHealth where
  status : Status
  message : Option String
  /-- When it was judged, in seconds since the start of 1970. -/
  checkedAt : Int
deriving DecidableEq, Repr

/-- The judgement of the meter, with that of each component by its name. -/
structure Health where
  status : Status
  components : List (String × ComponentHealth)
deriving DecidableEq, Repr

/-- Whether requests may rely on the figures, and why not. -/
structure Readiness where
  ready : Bool
  reason : Option String
deriving DecidableEq, Repr

/-- Judges the refreshing by the age of the snapshot. -/
def refresherVerdict (age : Option Span) (stale : Bool) : Status × Option String :=
  match age with
  | none => (.unhealthy, some "No refresh has completed yet")
  | some age =>
    if stale then (.unhealthy, some ("Last refresh " ++ toString age.seconds ++ "s ago"))
    else (.healthy, none)

/-- Judges the counters by the tier of the figure. -/
def counterVerdict : Option Tier → Status × Option String
  | none => (.unhealthy, some "No counter source has been read")
  | some .procStat => (.degraded, some "Using /proc/stat, figures are host-wide")
  | some tier => (.healthy, some ("Using " ++ tier.name))

/-- Judges the figures. -/
def snapshotVerdict (degraded : Bool) : Status × Option String :=
  if degraded then (.degraded, some "Latest snapshot is degraded") else (.healthy, none)

/-- The components by name, with the verdict about each. -/
def Snapshot.verdicts (s : Snapshot) (now : Timestamp) (stale : Bool) :
    List (String × (Status × Option String)) :=
  [("refresher", refresherVerdict (s.age now) stale),
    ("counter_source", counterVerdict s.tier),
    ("snapshot", snapshotVerdict s.degraded)]

/-- Judges the meter by its snapshot. -/
def Snapshot.health (s : Snapshot) (now : Timestamp) (interval : Span) :
    Except SpanOverflow Health :=
  (s.isStale now interval).map fun stale =>
    let verdicts := s.verdicts now stale
    { status := Status.worst (verdicts.map fun v => v.2.1)
      components := verdicts.map fun (name, status, message) =>
        (name, ⟨status, message, now.seconds⟩) }

/-- Judges whether the figures are fresh. -/
def Snapshot.readiness (s : Snapshot) (now : Timestamp) (interval : Span) :
    Except SpanOverflow Readiness :=
  (s.isStale now interval).map fun stale =>
    if s.updatedAt.isNone then ⟨false, some "No refresh has completed yet"⟩
    else if stale then ⟨false, some "Snapshot is stale"⟩
    else ⟨true, none⟩

end UsageMeter
