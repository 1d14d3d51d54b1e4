import UsageMeter.Proofs.Verdicts
import UsageMeter.Settings.Agent

/-!
# Answers about a snapshot

Staleness, health, readiness and the gauges all depend on twice the refresh
interval, which may have no room. They all have a value, or none has: each is
worked out from the staleness and fails in no way of its own. A snapshot without
counters has answers under every interval, so settings that accept a long
interval show it only after the first refresh.
-/

namespace UsageMeter
open UsageMeter.Time

namespace Snapshot

/-- Whether staleness can be told: nothing was read yet, or the double of the
interval has room. -/
def Judgeable (s : Snapshot) (interval : Span) : Prop :=
  s.updatedAt = none ∨ 2 * interval.nanos < spanLimit

instance (s : Snapshot) (interval : Span) : Decidable (s.Judgeable interval) :=
  inferInstanceAs (Decidable (_ ∨ _))

/-- Everything that is asked about a snapshot has an answer. -/
structure Answers (s : Snapshot) (service : String) (now : Timestamp) (interval : Span) :
    Prop where
  stale : ∃ stale, s.isStale now interval = .ok stale
  health : ∃ health, s.health now interval = .ok health
  readiness : ∃ readiness, s.readiness now interval = .ok readiness
  readings : ∃ readings, s.readings service now interval = .ok readings

/-- Nothing that is asked about a snapshot has an answer. -/
structure Overflows (s : Snapshot) (service : String) (now : Timestamp) (interval : Span) :
    Prop where
  stale : s.isStale now interval = .error .mk
  health : s.health now interval = .error .mk
  readiness : s.readiness now interval = .error .mk
  readings : s.readings service now interval = .error .mk

variable {s : Snapshot} {now : Timestamp} {interval : Span}

theorem Judgeable.isStale (h : s.Judgeable interval) (now : Timestamp) :
    ∃ stale, s.isStale now interval = .ok stale := by
  rcases h with unread | fits
  · exact ⟨true, by simp [Snapshot.isStale, age, unread]⟩
  · obtain ⟨stale, told, -⟩ := s.isStale_of_fits now fits
    exact ⟨stale, told⟩

theorem isStale_of_not_judgeable (h : ¬ s.Judgeable interval) (now : Timestamp) :
    s.isStale now interval = .error .mk := by
  rw [Judgeable, not_or, Nat.not_lt] at h
  obtain ⟨time, read⟩ := Option.ne_none_iff_exists'.mp h.1
  rw [isStale, age, read, Span.twice_of_le h.2]
  rfl

/-- Once staleness is told, so is all the rest. -/
theorem Judgeable.answers (h : s.Judgeable interval) (service : String) (now : Timestamp) :
    s.Answers service now interval := by
  obtain ⟨stale, told⟩ := h.isStale now
  exact
    { stale := ⟨stale, told⟩
      health := ⟨_, by rw [Snapshot.health, told]; rfl⟩
      readiness := ⟨_, by rw [Snapshot.readiness, told]; rfl⟩
      readings := ⟨_, by rw [Snapshot.readings, told]; rfl⟩ }

theorem overflows_of_not_judgeable (h : ¬ s.Judgeable interval) (service : String)
    (now : Timestamp) : s.Overflows service now interval := by
  have stale := isStale_of_not_judgeable h now
  exact
    { stale := stale
      health := by rw [Snapshot.health, stale]; rfl
      readiness := by rw [Snapshot.readiness, stale]; rfl
      readings := by rw [Snapshot.readings, stale]; rfl }

/-- A snapshot that gives readings can be judged. -/
theorem judgeable_of_readings {service : String} {readings : List GaugeReading}
    (told : s.readings service now interval = .ok readings) : s.Judgeable interval := by
  by_contra h
  rw [(overflows_of_not_judgeable h service now).readings] at told
  cases told

theorem answers_iff_judgeable (service : String) :
    s.Answers service now interval ↔ s.Judgeable interval :=
  ⟨fun answers => judgeable_of_readings answers.readings.choose_spec,
    fun h => h.answers service now⟩

end Snapshot

/-! ## Intervals of settings -/

/-- Twice the interval of settings has room for seconds that leave out the topmost
bit of their word. -/
theorem AgentSettings.judgeable_iff (settings : AgentSettings) (s : Snapshot) :
    s.Judgeable settings.interval ↔
      s.updatedAt = none ∨ settings.refreshSeconds.toNat ≤ maxInt64 := by
  refine or_congr_right ?_
  have limit : spanLimit = 2 * ((maxInt64 + 1) * nanosPerSecond) := by decide
  rw [limit, Nat.mul_lt_mul_left (by decide), AgentSettings.interval, Span.ofSeconds,
    ← Nat.lt_add_one_iff]
  exact Nat.mul_lt_mul_right (by decide)

/-- **Which settings let every question be answered**: before the first refresh
all do, and after it those whose seconds are an integer of 64 bits. With any
longer interval, nothing that is asked has an answer. -/
theorem AgentSettings.answers_or_overflows (settings : AgentSettings) (s : Snapshot)
    (service : String) (now : Timestamp) :
    if s.updatedAt = none ∨ settings.refreshSeconds.toNat ≤ maxInt64 then
      s.Answers service now settings.interval
    else s.Overflows service now settings.interval := by
  split
  · rename_i short
    exact ((settings.judgeable_iff s).mpr short).answers service now
  · rename_i long
    exact Snapshot.overflows_of_not_judgeable (mt (settings.judgeable_iff s).mp long) service now

/-- Settings that are accepted, and a refreshed snapshot that has no answers under
them. -/
theorem AgentSettings.overflows_when_accepted :
    let settings := { default with refreshSeconds := 9223372036854775808 }
    let s := { Snapshot.initial 1 1 with updatedAt := some ⟨100, 0⟩, tier := some .cgroupV2 }
    AgentSettings.load none [("USAGE_REFRESH_INTERVAL_SECS", "9223372036854775808")] =
        .ok settings ∧
      settings.validate = .ok () ∧
      (Snapshot.initial 1 1).Answers "svc" ⟨100, 0⟩ settings.interval ∧
      s.Overflows "svc" ⟨100, 0⟩ settings.interval :=
  ⟨by decide +kernel, by decide, Snapshot.Judgeable.answers (.inl rfl) _ _,
    Snapshot.overflows_of_not_judgeable (by decide) _ _⟩

/-- An interval that is too long shows with the first reading of counters, and
from then on whatever is done. -/
theorem Refresher.answers_actAll_iff (settings : AgentSettings) {r : Refresher}
    (unread : r.store.latest.updatedAt = none) (actions : List Action) (service : String)
    (now : Timestamp) :
    (r.actAll actions).store.latest.Answers service now settings.interval ↔
      countersReadAt (r.ticks actions) = none ∨ settings.refreshSeconds.toNat ≤ maxInt64 := by
  rw [Snapshot.answers_iff_judgeable, settings.judgeable_iff, updatedAt_actAll, unread,
    Option.or_none]

end UsageMeter
