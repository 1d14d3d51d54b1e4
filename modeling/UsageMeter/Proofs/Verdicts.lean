import UsageMeter.Gauge
import UsageMeter.Health
import UsageMeter.Proofs.Course

/-!
# Verdicts on a snapshot

The gauges and the verdicts on health and readiness are each derived from the
snapshot by rules of their own. On a consistent snapshot the rules agree, so on
the course of a refresher the degraded gauge is clear exactly when the meter is
healthy.
-/

namespace UsageMeter
open UsageMeter.Time

/-! ## Age -/

/-- A time is at most two intervals before another, or after it. -/
def UpToDate (now time : Timestamp) (interval : Span) : Prop :=
  max 0 (now.toNanos - time.toNanos) ≤ 2 * interval.nanos

/-- Spans end at an even number of nanoseconds, so an age that was cut short
is still beyond every double that has room. -/
theorem since_le_iff {now time : Timestamp} {interval : Span}
    (fits : 2 * interval.nanos < spanLimit) :
    (now.since time).nanos ≤ 2 * interval.nanos ↔ UpToDate now time interval := by
  unfold UpToDate Timestamp.since Span.ofNanos
  have even : spanLimit = 2 * 9223372036854775808000000000 := by decide
  generalize now.toNanos - time.toNanos = age
  split
  · simp only
    omega
  · rename_i long
    -- the age was cut to the longest span, an odd number of nanoseconds
    rw [Span.longest]
    simp only
    omega

/-- Where the double of the interval has room, staleness is decided: a snapshot
is not stale exactly if the counters in it are up to date. -/
theorem Snapshot.isStale_of_fits (s : Snapshot) (now : Timestamp) {interval : Span}
    (fits : 2 * interval.nanos < spanLimit) :
    ∃ stale, s.isStale now interval = .ok stale ∧
      (stale = false ↔ ∃ time, s.updatedAt = some time ∧ UpToDate now time interval) := by
  unfold isStale age
  cases s.updatedAt with
  | none => exact ⟨true, rfl, by simp⟩
  | some time =>
      simp only [Option.map_some, Span.twice_of_lt fits, Except.map]
      refine ⟨_, rfl, ?_⟩
      simp only [decide_eq_false_iff_not, Nat.not_lt, since_le_iff fits, Option.some.injEq,
        exists_eq_left']

/-! ## The worst of several statuses -/

/-- What two statuses have exactly if the worse of them has it, several have
exactly if the worst of them has it. -/
theorem Status.worst_iff {p : Status → Prop} (healthy : p .healthy)
    (worse : ∀ a b, p (worse a b) ↔ p a ∧ p b) (ss : List Status) :
    p (worst ss) ↔ ∀ s ∈ ss, p s := by
  -- the induction needs any status to start from
  have fold : ∀ a, p (ss.foldl Status.worse a) ↔ p a ∧ ∀ s ∈ ss, p s := by
    induction ss with
    | nil => simp
    | cons b ss ih =>
        intro a
        rw [List.foldl_cons, ih, worse, List.forall_mem_cons, and_assoc]
  rw [worst, fold]
  exact and_iff_right healthy

theorem Status.worst_eq_healthy_iff (ss : List Status) :
    worst ss = .healthy ↔ ∀ s ∈ ss, s = .healthy :=
  worst_iff (p := fun s => s = .healthy) rfl (fun a b => by cases a <;> cases b <;> decide) ss

theorem Status.isOperational_worst_iff (ss : List Status) :
    (worst ss).isOperational = true ↔ ∀ s ∈ ss, s.isOperational = true :=
  worst_iff (p := fun s => s.isOperational = true) rfl
    (fun a b => by cases a <;> cases b <;> decide) ss

theorem Status.isOperational_iff (s : Status) :
    s.isOperational = true ↔ s = .healthy ∨ s = .degraded := by
  cases s <;> decide

/-! ## The verdicts on a consistent snapshot -/

theorem refresherVerdict_status (age : Option Span) (stale : Bool) :
    (refresherVerdict age stale).1 = if age.isSome && !stale then .healthy else .unhealthy := by
  cases age with
  | none => rfl
  | some a => cases stale <;> rfl

theorem counterVerdict_status (tier : Option Tier) :
    (counterVerdict tier).1 =
      match tier with
      | none => .unhealthy
      | some t => if t = .procStat then .degraded else .healthy := by
  match tier with
  | none => rfl
  | some .procStat => rfl
  | some .cgroupV2 => rfl
  | some .cgroupV1 => rfl

namespace Snapshot

/-- Refreshing counts as healthy exactly while the snapshot is not stale. -/
theorem status_refresherVerdict {s : Snapshot} {now : Timestamp} {interval : Span}
    {stale : Bool} (h : s.isStale now interval = .ok stale) :
    (refresherVerdict (s.age now) stale).1 = if stale then .unhealthy else .healthy := by
  rw [refresherVerdict_status]
  cases stale with
  | true => simp
  | false =>
      cases ha : s.age now with
      | none => simp [isStale, ha] at h
      | some a => rfl

/-- A snapshot that is not stale has a tier to judge the counters by. -/
theorem Consistent.tier_isSome {s : Snapshot} (hs : s.Consistent) {now : Timestamp}
    {interval : Span} (h : s.isStale now interval = .ok false) : ∃ t, s.tier = some t := by
  have read : s.updatedAt.isSome = true := by
    cases hu : s.updatedAt with
    | none => simp [isStale, age, hu] at h
    | some t => rfl
  exact Option.isSome_iff_exists.mp (hs.named.trans read)

/-- On a consistent snapshot the tier adds nothing to the verdict: it is there
once refreshing is healthy, and the host's counters come with the flag. -/
theorem Consistent.health {s : Snapshot} (hs : s.Consistent) {now : Timestamp} {interval : Span}
    {stale : Bool} (h : s.isStale now interval = .ok stale) :
    ∃ health, s.health now interval = .ok health ∧
      (health.status = .healthy ↔ s.degraded = false ∧ stale = false) ∧
      (health.status.isOperational = true ↔ stale = false) := by
  refine ⟨_, by rw [Snapshot.health, h]; rfl, ?_⟩
  simp only [Status.worst_eq_healthy_iff, Status.isOperational_worst_iff, verdicts,
    List.map_cons, List.map_nil, List.forall_mem_cons, status_refresherVerdict h,
    counterVerdict_status, snapshotVerdict]
  cases stale with
  | true => simp [Status.isOperational]
  | false =>
      obtain ⟨t, ht⟩ := hs.tier_isSome h
      have host := hs.host
      rw [ht] at host
      cases hd : s.degraded with
      | true => cases t <;> simp [ht, Status.isOperational]
      | false =>
          -- a clear flag leaves out the host
          have container : t ≠ .procStat := fun e => by simp [e, hd] at host
          simp [ht, container, Status.isOperational]

/-- Readiness asks for no more than that the snapshot is not stale. -/
theorem readiness_of_isStale {s : Snapshot} {now : Timestamp} {interval : Span}
    {stale : Bool} (h : s.isStale now interval = .ok stale) :
    ∃ readiness, s.readiness now interval = .ok readiness ∧
      (readiness.ready = true ↔ stale = false) := by
  refine ⟨_, by rw [Snapshot.readiness, h]; rfl, ?_⟩
  cases hu : s.updatedAt with
  | none =>
      have : stale = true := by simpa [isStale, age, hu] using h.symm
      simp [this]
  | some t => cases stale <;> simp

/-- A snapshot gives the degraded gauge alone or, once counters were read, every
gauge. -/
theorem Consistent.readings {s : Snapshot} (hs : s.Consistent) {now : Timestamp}
    {interval : Span} {stale : Bool} (h : s.isStale now interval = .ok stale) (service : String) :
    ∃ rest, s.readings service now interval =
        .ok (degradedReading service (s.degraded || stale) :: rest) ∧
      ((s.updatedAt = none ∧ rest = []) ∨
        (s.updatedAt ≠ none ∧
          rest.map GaugeReading.gauge = [.age, .containerCpu, .processCpu, .processMemory])) := by
  refine ⟨_, by rw [Snapshot.readings, h]; rfl, ?_⟩
  cases hu : s.updatedAt with
  | none => exact .inl ⟨rfl, by simp [age, hu]⟩
  | some t =>
      have named := hs.named
      rw [hu] at named
      refine .inr ⟨by simp, ?_⟩
      simp [age, hu, named, ageReading, cpuReading, processReadings]

end Snapshot

/-! ## Metrics and health -/

/-- **The degraded gauge is clear exactly when the meter is healthy**, and the
gauges are never told in part: it stands alone until counters have been read,
and then among all of them. -/
theorem degraded_gauge_iff_healthy (settings : RefresherSettings) (pid cpus : UInt32)
    (actions : List Action) (service : String) (now : Timestamp) (interval : Span)
    (fits : 2 * interval.nanos < spanLimit) :
    let s := ((Refresher.new settings
      (Store.new (Snapshot.initial pid cpus))).actAll actions).store.latest
    ∃ readings health, s.readings service now interval = .ok readings ∧
      s.health now interval = .ok health ∧
      (∃ g ∈ readings, g.gauge = .degraded ∧
        (g.value = Float.ofNat 0 ↔ health.status = .healthy)) ∧
      ((s.updatedAt = none ∧ readings.map GaugeReading.gauge = [.degraded]) ∨
        (s.updatedAt ≠ none ∧ (readings.map GaugeReading.gauge).Perm Gauge.all)) := by
  intro s
  have consistent : s.Consistent :=
    Refresher.consistent_actAll (Snapshot.Consistent.initial pid cpus) actions
  obtain ⟨stale, hstale, -⟩ := s.isStale_of_fits now fits
  obtain ⟨health, hhealth, healthy, -⟩ := consistent.health hstale
  obtain ⟨rest, hreadings, shape⟩ := consistent.readings hstale service
  refine ⟨_, health, hreadings, hhealth, ⟨_, List.mem_cons_self, rfl, ?_⟩, ?_⟩
  · have distinct : Float.ofNat 1 ≠ Float.ofNat 0 := by decide
    rw [healthy]
    cases s.degraded <;> cases stale <;> simp [Snapshot.degradedReading, distinct]
  · rcases shape with ⟨unread, rfl⟩ | ⟨read, gauges⟩
    · exact .inl ⟨unread, rfl⟩
    · refine .inr ⟨read, ?_⟩
      rw [List.map_cons, gauges]
      show [Gauge.degraded, .age, .containerCpu, .processCpu, .processMemory].Perm Gauge.all
      decide

/-- Two fresh ticks in a run, then a tick by hand, which is degraded, and one more, which
is not. -/
theorem degraded_gauge_iff_healthy_after_run :
    2 * (Span.ofSeconds 5).nanos < spanLimit ∧
      let counters (n : Nat) : CounterSample :=
        ⟨.cgroupV2, UInt64.ofNat n, UInt64.ofNat (2 * n), none, none, 1, n⟩
      let process (n : Nat) : ProcessSample := ⟨7, "svc", UInt64.ofNat n, 1024, n⟩
      let around : Surroundings :=
        ⟨fun k => ⟨.ok (counters k), 0, .ok (process k), 0⟩, fun t => ⟨100, t⟩⟩
      let tick (n : Nat) : Action :=
        .refresh ⟨.ok (counters n), .ok (process n), ⟨100 + n, 0⟩, Float.ofNat 0⟩
      let latest (actions : List Action) := ((Refresher.new ⟨7, "svc", Span.ofSeconds 5, by decide⟩
        (Store.new (Snapshot.initial 7 1))).actAll actions).store.latest
      let run : Action := .run (.message 6000000000) around
      let told (s : Snapshot) := ∃ readings health,
        s.readings "svc" ⟨110, 0⟩ (Span.ofSeconds 5) = .ok readings ∧
        s.health ⟨110, 0⟩ (Span.ofSeconds 5) = .ok health ∧
        (∃ g ∈ readings, g.gauge = .degraded ∧
          (g.value = Float.ofNat 0 ↔ health.status = .healthy)) ∧
        ((s.updatedAt = none ∧ readings.map GaugeReading.gauge = [.degraded]) ∨
          (s.updatedAt ≠ none ∧ (readings.map GaugeReading.gauge).Perm Gauge.all))
      told (latest [run, tick 7]) ∧ told (latest [run, tick 7, tick 8]) ∧
        ((latest [run, tick 7]).health ⟨110, 0⟩ (Span.ofSeconds 5)).map Health.status =
          .ok .degraded ∧
        ((latest [run, tick 7, tick 8]).health ⟨110, 0⟩ (Span.ofSeconds 5)).map Health.status =
          .ok .healthy := by
  refine ⟨by decide, ?_⟩
  intro counters process around tick latest run told
  refine ⟨degraded_gauge_iff_healthy _ 7 1 _ "svc" ⟨110, 0⟩ (Span.ofSeconds 5) (by decide),
    degraded_gauge_iff_healthy _ 7 1 _ "svc" ⟨110, 0⟩ (Span.ofSeconds 5) (by decide), ?_, ?_⟩
  · decide +kernel
  · decide +kernel

end UsageMeter
