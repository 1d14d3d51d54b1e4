import UsageMeter.Probes
import UsageMeter.Proofs.Verdicts

/-!
# Liveness and readiness

On the course of a refresher both probes accept exactly while the last tick with
counters is fresh. Ticks without counters do not count, whatever else they read.
-/

namespace UsageMeter
open UsageMeter.Time

/-- Some tick had counters, and the last of these ticks is up to date. -/
def CountersFresh (ticks : List Reading) (now : Timestamp) (interval : Span) : Prop :=
  ∃ time, countersReadAt ticks = some time ∧ UpToDate now time interval

/-- Ticks without counters make nothing fresh again, and neither does time. -/
theorem CountersFresh.of_append {xs ys : List Reading} {now later : Timestamp} {interval : Span}
    (h : CountersFresh (xs ++ ys) later interval) (without : counterSamples ys = [])
    (passed : now.toNanos ≤ later.toNanos) : CountersFresh xs now interval := by
  obtain ⟨time, read, fresh⟩ := h
  rw [countersReadAt_append, (countersReadAt_eq_none_iff ys).mpr without, Option.none_or] at read
  refine ⟨time, read, ?_⟩
  unfold UpToDate at fresh ⊢
  omega

/-- Starting from nothing, a snapshot is not stale exactly while its counters
are fresh. -/
theorem Refresher.isStale_actAll (settings : RefresherSettings) (pid cpus : UInt32)
    (actions : List Action) (now : Timestamp) {interval : Span}
    (fits : 2 * interval.nanos < spanLimit) :
    let start := Refresher.new settings (Store.new (Snapshot.initial pid cpus))
    ∃ stale, (start.actAll actions).store.latest.isStale now interval = .ok stale ∧
      (stale = false ↔ CountersFresh (start.ticks actions) now interval) := by
  intro start
  have updated : (start.actAll actions).store.latest.updatedAt =
      countersReadAt (start.ticks actions) :=
    (start.updatedAt_actAll actions).trans Option.or_none
  obtain ⟨stale, hstale, fresh⟩ := (start.actAll actions).store.latest.isStale_of_fits now fits
  rw [updated] at fresh
  exact ⟨stale, hstale, fresh⟩

namespace Probes

theorem verdictResponse_status (ok : Bool) (fields : List (String × Json.Value)) (view : View) :
    (verdictResponse ok fields view).status = 200 ↔ ok = true := by
  cases ok <;> simp [verdictResponse]

/-- The liveness probe answers by the health of the snapshot. -/
theorem respond_liveness {view : View} {health : Health}
    (h : view.snapshot.health view.now view.interval = .ok health) :
    ∃ response, respond "GET" "/healthz" view = .ok response ∧
      (response.status = 200 ↔ health.status.isOperational = true) := by
  have path : Endpoint.ofPath? (targetPath "/healthz") = some .liveness := by decide
  refine ⟨_, ?_, verdictResponse_status health.status.isOperational health.fields view⟩
  rw [respond, path]
  simp only [if_pos, Endpoint.response, h, Except.map]

/-- The readiness probe answers by the readiness of the snapshot. -/
theorem respond_readiness {view : View} {readiness : Readiness}
    (h : view.snapshot.readiness view.now view.interval = .ok readiness) :
    ∃ response, respond "GET" "/readyz" view = .ok response ∧
      (response.status = 200 ↔ readiness.ready = true) := by
  have path : Endpoint.ofPath? (targetPath "/readyz") = some .readiness := by decide
  refine ⟨_, ?_, verdictResponse_status readiness.ready readiness.fields view⟩
  rw [respond, path]
  simp only [if_pos, Endpoint.response, h, Except.map]

/-- Starting from nothing, the readiness probe accepts exactly while the counters
are fresh. -/
theorem respond_readiness_actAll (settings : RefresherSettings) (pid cpus : UInt32)
    (actions : List Action) (now : Timestamp) (interval : Span) (families : List Family)
    (fits : 2 * interval.nanos < spanLimit) :
    let start := Refresher.new settings (Store.new (Snapshot.initial pid cpus))
    ∃ ready, respond "GET" "/readyz"
        ⟨(start.actAll actions).store.latest, now, interval, families⟩ = .ok ready ∧
      (ready.status = 200 ↔ CountersFresh (start.ticks actions) now interval) := by
  intro start
  obtain ⟨stale, hstale, fresh⟩ :=
    Refresher.isStale_actAll settings pid cpus actions now fits
  obtain ⟨readiness, hreadiness, ready⟩ := Snapshot.readiness_of_isStale hstale
  let view : View := ⟨(start.actAll actions).store.latest, now, interval, families⟩
  have hview : view.snapshot.readiness view.now view.interval = .ok readiness := hreadiness
  obtain ⟨response, hresponse, accepted⟩ := respond_readiness hview
  exact ⟨response, hresponse, accepted.trans (ready.trans fresh)⟩

/-- **Liveness and readiness agree**, and both hold exactly while the last tick
with counters is at most two intervals old. Once they do not hold, only another
tick with counters can bring them back. -/
theorem liveness_iff_readiness (settings : RefresherSettings) (pid cpus : UInt32)
    (actions : List Action) (now : Timestamp) (interval : Span) (families : List Family)
    (fits : 2 * interval.nanos < spanLimit) :
    let start := Refresher.new settings (Store.new (Snapshot.initial pid cpus))
    let r := start.actAll actions
    let view : View := ⟨r.store.latest, now, interval, families⟩
    ∃ health live ready, r.store.latest.health now interval = .ok health ∧
      respond "GET" "/healthz" view = .ok live ∧ respond "GET" "/readyz" view = .ok ready ∧
      (live.status = 200 ↔ health.status = .healthy ∨ health.status = .degraded) ∧
      (live.status = 200 ↔ ready.status = 200) ∧
      (ready.status = 200 ↔ CountersFresh (start.ticks actions) now interval) ∧
      ∀ (later : List Action) (after : Timestamp), counterSamples (r.ticks later) = [] →
        now.toNanos ≤ after.toNanos → ready.status ≠ 200 →
        ∃ ready', respond "GET" "/readyz"
            ⟨(r.actAll later).store.latest, after, interval, families⟩ = .ok ready' ∧
          ready'.status ≠ 200 := by
  intro start r view
  have consistent : r.store.latest.Consistent :=
    Refresher.consistent_actAll (Snapshot.Consistent.initial pid cpus) actions
  obtain ⟨stale, hstale, fresh⟩ := Refresher.isStale_actAll settings pid cpus actions now fits
  obtain ⟨health, hhealth, -, operational⟩ := consistent.health hstale
  have hview : view.snapshot.health view.now view.interval = .ok health := hhealth
  obtain ⟨live, hlive, alive⟩ := respond_liveness hview
  obtain ⟨ready, hready, isReady⟩ :=
    respond_readiness_actAll settings pid cpus actions now interval families fits
  refine ⟨health, live, ready, hhealth, hlive, hready, ?_, ?_, isReady, ?_⟩
  · rw [alive, Status.isOperational_iff]
  · rw [alive, operational, isReady, fresh]
  · intro later after without passed notReady
    -- the later snapshot comes of the same course with more actions
    obtain ⟨ready', hready', isReady'⟩ :=
      respond_readiness_actAll settings pid cpus (actions ++ later) after interval families fits
    rw [Refresher.actAll_append] at hready'
    rw [Refresher.ticks_append] at isReady'
    refine ⟨ready', hready', fun accepted => notReady (isReady.mpr ?_)⟩
    exact (isReady'.mp accepted).of_append without passed

/-- Counters at time 100, asked for after 110 seconds, exactly two intervals of
five seconds later. -/
theorem liveness_iff_readiness_at_two_intervals :
    2 * (Span.ofSeconds 5).nanos < spanLimit ∧
      let start := Refresher.new ⟨7, "svc", Span.ofSeconds 5, by decide⟩
        (Store.new (Snapshot.initial 7 2))
      let actions : List Action :=
        [.refresh ⟨.ok ⟨.procStat, 150, 1000, none, none, 4, 0⟩, .error (.exhausted []),
          ⟨100, 0⟩, Float.ofNat 0⟩]
      let view : View := ⟨(start.actAll actions).store.latest, ⟨110, 0⟩, Span.ofSeconds 5, []⟩
      ∃ live ready, respond "GET" "/healthz" view = .ok live ∧
        respond "GET" "/readyz" view = .ok ready ∧ live.status = 200 ∧ ready.status = 200 := by
  refine ⟨by decide, ?_⟩
  intro start actions view
  obtain ⟨-, live, ready, -, hlive, hready, -, agree, fresh, -⟩ :=
    liveness_iff_readiness ⟨7, "svc", Span.ofSeconds 5, by decide⟩ 7 2 actions ⟨110, 0⟩
      (Span.ofSeconds 5) [] (by decide)
  have read : CountersFresh (start.ticks actions) ⟨110, 0⟩ (Span.ofSeconds 5) :=
    ⟨⟨100, 0⟩, rfl, by unfold UpToDate; decide⟩
  exact ⟨live, ready, hlive, hready, agree.mpr (fresh.mpr read), fresh.mpr read⟩

end Probes

end UsageMeter
