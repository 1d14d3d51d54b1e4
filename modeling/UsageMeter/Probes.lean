import UsageMeter.Exposition
import UsageMeter.Report

/-!
The probes that answer requests over HTTP: liveness, readiness and metrics.
`respond` answers a request from the latest snapshot; it opens no socket.
-/
namespace UsageMeter.Probes
open UsageMeter.Json UsageMeter.Time

/-- What can be asked for. -/
inductive Endpoint where
  | liveness
  | readiness
  | metrics
deriving DecidableEq, Repr

/-- The endpoint of a path. -/
def Endpoint.ofPath? (path : String) : Option Endpoint :=
  if path = "/healthz" then some .liveness
  else if path = "/readyz" then some .readiness
  else if path = "/metrics" then some .metrics
  else none

/-- The body of a response. -/
inductive Body where
  | empty
  | json (v : Value)
  | metrics (families : List Family)

/-- The text of a body. -/
def Body.text : Body → String
  | .empty => ""
  | .json v => v.compact
  | .metrics families => Exposition.text families

/-- A response. -/
structure Response where
  status : Nat
  contentType : Option String
  body : Body

/-- The latest snapshot, and what it is judged by. -/
structure View where
  snapshot : Snapshot
  now : Timestamp
  interval : Span
  /-- The metrics to be shown. -/
  families : List Family

/-- The snapshot as a probe shows it beside its verdict. -/
def summary (s : Snapshot) (now : Timestamp) : Value :=
  .object
    [("source", (s.tier.map Tier.toJson).getD .null),
      ("scope", (s.tier.map fun t => Value.string t.scope.name).getD .null),
      ("online_cpus", .integer s.cpus.toNat),
      ("degraded", .bool s.degraded),
      ("last_updated", (s.updatedAt.map Timestamp.toJson).getD .null),
      ("age_secs", ((s.age now).map fun age => Value.float age.toFloat).getD .null)]

/-- A JSON response: a verdict with the snapshot it was taken from. -/
def verdictResponse (ok : Bool) (fields : List (String × Value)) (view : View) : Response :=
  { status := if ok then 200 else 503
    contentType := some "application/json"
    body := .json (.object (fields ++ [("snapshot", summary view.snapshot view.now)])) }

/-- The response of an endpoint. -/
def Endpoint.response (e : Endpoint) (view : View) : Except SpanOverflow Response :=
  match e with
  | .liveness =>
    (view.snapshot.health view.now view.interval).map fun h =>
      verdictResponse h.status.isOperational h.fields view
  | .readiness =>
    (view.snapshot.readiness view.now view.interval).map fun r =>
      verdictResponse r.ready r.fields view
  | .metrics =>
    .ok ⟨200, some "text/plain; charset=utf-8", .metrics view.families⟩

/-- The path of a request target: without a query and without a fragment. -/
def targetPath (target : String) : String :=
  String.ofList (target.toList.takeWhile fun c => c != '?' && c != '#')

/-- Answers a request. Every endpoint allows GET, and HEAD for the same without
the body. -/
def respond (method target : String) (view : View) : Except SpanOverflow Response :=
  match Endpoint.ofPath? (targetPath target) with
  | none => .ok ⟨404, none, .empty⟩
  | some e =>
    if method = "GET" then e.response view
    else if method = "HEAD" then (e.response view).map fun r => { r with body := .empty }
    else .ok ⟨405, none, .empty⟩

end UsageMeter.Probes
