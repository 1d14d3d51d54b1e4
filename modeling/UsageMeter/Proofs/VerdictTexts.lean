import UsageMeter.Proofs.JsonObjects
import UsageMeter.Report

/-!
# The texts of verdicts, read back

A verdict is what its JSON text is read as: about the health with any components, in
whatever order they are listed, and about readiness with or without a reason. So a text
that can be read at all is brought into a form that no further reading and writing
changes.
-/

namespace UsageMeter
open UsageMeter.Json

/-! ## Health -/

/-- A component was judged at a time of 64 bits. -/
def ComponentHealth.Timed (c : ComponentHealth) : Prop :=
  -(maxInt64 + 1 : Int) ≤ c.checkedAt ∧ c.checkedAt ≤ maxInt64

/-- A judgement of the meter holds one of each component. -/
def Health.Formed (h : Health) : Prop := MapOf ComponentHealth.Timed h.components

/-- Judgements that differ at most in the order of their components. -/
structure Health.Lists (listed h : Health) : Prop where
  status : listed.status = h.status
  components : listed.components.Perm h.components

theorem Health.Lists.refl (h : Health) : h.Lists h := ⟨rfl, .refl _⟩

theorem Health.Formed.of_lists {listed h : Health} (formed : h.Formed) (lists : listed.Lists h) :
    listed.Formed where
  distinct := (lists.components.map Prod.fst).nodup_iff.mpr formed.distinct
  values e mem := formed.values e (lists.components.mem_iff.mp mem)

theorem readsAs_status (s : Status) : ReadsAs Status.fromJson s.toJson s :=
  readsAs_named s.ofName?_name

theorem readsAs_component {c : ComponentHealth} (timed : c.Timed) :
    ReadsAs ComponentHealth.fromJson c.toJson c := by
  obtain ⟨status, message, checkedAt⟩ := c
  have first := (readsAs_status status).into fun x => PartialComponent.mk (some x) none none
  have last (told : Option (Option String)) := (readsAs_integer timed.1 timed.2).into
    fun n => PartialComponent.mk (some status) told (some n)
  cases message with
  | none =>
      exact readsAs_record (.cons rfl rfl first (.cons rfl rfl (last none) .nil)) rfl
  | some text =>
      have message := (readsAs_optionalText text).into
        fun t => PartialComponent.mk (some status) (some t) none
      exact readsAs_record (.cons rfl rfl first
        (.cons rfl rfl message (.cons rfl rfl (last (some (some text))) .nil))) rfl

theorem readsAs_health {h : Health} (formed : h.Formed) : ReadsAs Health.fromJson h.toJson h := by
  have status := (readsAs_status h.status).into fun x => PartialHealth.mk (some x) none
  have components := readsAs_map ComponentHealth.toJson
    (fun e mem => readsAs_component (formed.values e mem)) formed.distinct
  have last := components.into fun x => PartialHealth.mk (some h.status) (some x)
  exact readsAs_record (.cons rfl rfl status (.cons rfl rfl last .nil)) rfl

theorem yields_component : Yields ComponentHealth.fromJson ComponentHealth.Timed := by
  -- no field but that of the time sets the time
  refine yields_record
    (fun state => ∀ n, state.checkedAt = some n → -(maxInt64 + 1 : Int) ≤ n ∧ n ≤ maxInt64)
    nofun ?_ ?_
  · rw [List.forall_mem_cons, List.forall_mem_cons, List.forall_mem_cons]
    refine ⟨fun state before => (yields_any _).into
        (fun x => PartialComponent.mk (some x) state.message state.checkedAt) fun _ _ => before,
      fun state before => (yields_any _).into
        (fun x => PartialComponent.mk state.status (some x) state.checkedAt) fun _ _ => before,
      fun state _ => yields_integer.into
        (fun n => PartialComponent.mk state.status state.message (some n)) ?_, nofun⟩
    intro n range m same
    cases same
    exact range
  · intro state c before told
    obtain ⟨status, -, told⟩ := Option.bind_eq_some_iff.mp told
    obtain ⟨time, read, told⟩ := Option.bind_eq_some_iff.mp told
    cases told
    exact before time read

theorem yields_health : Yields Health.fromJson Health.Formed := by
  refine yields_record
    (fun state => ∀ cs, state.components = some cs → MapOf ComponentHealth.Timed cs)
    nofun ?_ ?_
  · rw [List.forall_mem_cons, List.forall_mem_cons]
    refine ⟨fun state before => (yields_any _).into
        (fun x => PartialHealth.mk (some x) state.components) fun _ _ => before,
      fun state _ => (yields_map yields_component).into
        (fun components => PartialHealth.mk state.status (some components)) ?_, nofun⟩
    intro components formed _ same
    cases same
    exact formed
  · intro state h before told
    obtain ⟨status, -, told⟩ := Option.bind_eq_some_iff.mp told
    obtain ⟨components, read, told⟩ := Option.bind_eq_some_iff.mp told
    cases told
    exact before components read

/-! ## Readiness -/

theorem readsAs_readiness (r : Readiness) : ReadsAs Readiness.fromJson r.toJson r := by
  obtain ⟨ready, reason⟩ := r
  have first := (readsAs_bool ready).into fun b => PartialReadiness.mk (some b) none
  cases reason with
  | none => exact readsAs_record (.cons rfl rfl first .nil) rfl
  | some text =>
      have last := (readsAs_optionalText text).into
        fun t => PartialReadiness.mk (some ready) (some t)
      exact readsAs_record (.cons rfl rfl first (.cons rfl rfl last .nil)) rfl

/-! ## Both -/

/-- **Verdicts are read as they were written.** A judgement of the meter with any
components, each judged at a time of 64 bits, is read back from the text that lists them
in any order, and a judgement of readiness from its text. So whatever a text is read as,
what is written of that is read as the same, and then written the same again. -/
theorem verdicts_read_back :
    (∀ h : Health, h.Formed → ∀ listed : Health, listed.Lists h →
        readAll Health.fromJson listed.toJson.compact = .ok listed) ∧
      (∀ r : Readiness, readAll Readiness.fromJson r.toJson.compact = .ok r) ∧
      (∀ text h, readAll Health.fromJson text = .ok h → ∀ listed : Health, listed.Lists h →
        ∃ again, readAll Health.fromJson listed.toJson.compact = .ok again ∧ again.Lists h ∧
          again.toJson.compact = listed.toJson.compact) ∧
      ∀ text r, readAll Readiness.fromJson text = .ok r →
        ∃ again, readAll Readiness.fromJson r.toJson.compact = .ok again ∧ again = r ∧
          again.toJson.compact = r.toJson.compact := by
  have health {h listed : Health} (formed : h.Formed) (lists : listed.Lists h) :
      readAll Health.fromJson listed.toJson.compact = .ok listed :=
    (readsAs_health (formed.of_lists lists)).readAll
  have readiness (r : Readiness) : readAll Readiness.fromJson r.toJson.compact = .ok r :=
    (readsAs_readiness r).readAll
  refine ⟨fun h formed listed lists => health formed lists, readiness,
    fun text h told listed lists => ?_, fun text r _ => ⟨r, readiness r, rfl, rfl⟩⟩
  exact ⟨listed, health (yields_health.readAll told) lists, lists, rfl⟩

/-- Components that are listed the other way round, one without a name and a message, the
other with marks in its message, and the shortest texts of verdicts. -/
theorem verdicts_read_back_with_escapes :
    let h : Health := ⟨.degraded, [("", ⟨.healthy, none, 9223372036854775807⟩),
      ("snapshot", ⟨.degraded, some "\"a\\\u0007", -9223372036854775808⟩)]⟩
    let listed : Health := ⟨.degraded, h.components.reverse⟩
    (h.Formed ∧ listed.Lists h ∧ readAll Health.fromJson listed.toJson.compact = .ok listed) ∧
      (∃ read, readAll Health.fromJson "[\"healthy\", \x7b\x7d]" = .ok read ∧
        ∃ again, readAll Health.fromJson read.toJson.compact = .ok again ∧ again.Lists read ∧
          again.toJson.compact = read.toJson.compact) ∧
      ∃ read, readAll Readiness.fromJson "[false, \"\"]" = .ok read ∧
        ∃ again, readAll Readiness.fromJson read.toJson.compact = .ok again ∧ again = read ∧
          again.toJson.compact = read.toJson.compact := by
  intro h listed
  have formed : h.Formed := by
    refine ⟨by decide, ?_⟩
    simp [h, ComponentHealth.Timed, maxInt64]
  have lists : listed.Lists h := ⟨rfl, List.reverse_perm h.components⟩
  have health : readAll Health.fromJson "[\"healthy\", \x7b\x7d]" = .ok ⟨.healthy, []⟩ := by cbv
  have readiness : readAll Readiness.fromJson "[false, \"\"]" = .ok ⟨false, some ""⟩ := by cbv
  exact ⟨⟨formed, lists, verdicts_read_back.1 h formed listed lists⟩,
    ⟨_, health, verdicts_read_back.2.2.1 _ _ health _ (.refl _)⟩,
    _, readiness, verdicts_read_back.2.2.2 _ _ readiness⟩

end UsageMeter
