import Mathlib.Data.List.Forall2
import UsageMeter.Moment
import UsageMeter.Proofs.TickReadings
import UsageMeter.Source.Chain

/-!
# Ordered fallback

A tier fails only because a file cannot be read or is not of its format, and
after either the next tier is tried. So a chain gives the reading of the first
tier that can be read, and where there is none, what went wrong with each. Only
ticks of the host that have no room together break a reading off.
-/

namespace UsageMeter
open UsageMeter.Kernel

/-! ## Readings that give way -/

/-- A reading gives what `p` asks for, or else an error after which the next
tier is tried. -/
def Gives {α : Type} (p : α → Prop) (read : Except ReadError α) : Prop :=
  (∃ a, read = .ok a ∧ p a) ∨ ∃ e, read = .error e ∧ e.fallsThrough = true

namespace Gives
variable {α β : Type} {p : α → Prop} {q : β → Prop}

theorem ok {a : α} (h : p a) : Gives p (.ok a) := .inl ⟨a, rfl, h⟩

theorem unavailable (path : String) (cause : FileFailure) :
    Gives p (.error (.unavailable path cause)) := .inr ⟨_, rfl, rfl⟩

theorem malformed (path reason : String) : Gives p (.error (.malformed path reason)) :=
  .inr ⟨_, rfl, rfl⟩

theorem bind {read : Except ReadError α} {next : α → Except ReadError β} (h : Gives p read)
    (step : ∀ a, p a → Gives q (next a)) : Gives q (read >>= next) := by
  rcases h with ⟨a, rfl, ha⟩ | ⟨e, rfl, he⟩
  · exact step a ha
  · exact .inr ⟨e, rfl, he⟩

end Gives

namespace Files
variable {α ε : Type} (files : Files) (path : String) (parser : String → Except ε α)
  (message : ε → String)

theorem gives_text : Gives (fun _ => True) (files.text path) := by
  unfold text
  split
  · exact .ok trivial
  · exact .unavailable path _

theorem gives_parse : Gives (fun _ => True) (files.parse path parser message) := by
  refine (files.gives_text path).bind fun content _ => ?_
  split
  · exact .ok trivial
  · exact .malformed path _

theorem gives_parseIfReadable :
    Gives (fun _ => True) (files.parseIfReadable path parser message) := by
  unfold parseIfReadable
  split
  · exact .ok trivial
  · split
    · exact .ok trivial
    · exact .malformed path _

end Files

namespace Source

/-! ## Each tier -/

/-- A sample is that of a tier and counts at least one CPU. -/
structure Sampled (tier : Tier) (s : CounterSample) : Prop where
  tier : s.tier = tier
  cpus : 1 ≤ s.cpus

theorem one_le_max (n : UInt32) : 1 ≤ max n 1 := by
  show 1 ≤ if n ≤ 1 then 1 else n
  grind

/-- However small the quota, it is worth one CPU. -/
theorem one_le_onlineCpus (quota : Option Int) (period : Option UInt64) (hostCpus : UInt32) :
    1 ≤ onlineCpus quota period hostCpus := by
  unfold onlineCpus
  split
  · rename_i q p
    split
    · have word : max 1 (min maxWord32 (q.toNat / p.toNat)) < 4294967296 := by
        unfold maxWord32
        omega
      rw [UInt32.le_iff_toNat_le, UInt32.toNat_ofNat_of_lt' word]
      exact Nat.le_max_left 1 _
    · exact one_le_max hostCpus
  · exact one_le_max hostCpus

theorem sampled_groupSample (tier : Tier) (used now : UInt64) (quota : Option Int)
    (period : Option UInt64) (hostCpus : UInt32) :
    Sampled tier (groupSample tier used now quota period hostCpus) :=
  ⟨rfl, one_le_onlineCpus _ _ hostCpus⟩

section
variable (files : Files) (root : String) (hostCpus : UInt32) (now : UInt64)

theorem gives_readCgroupV2 : Gives (Sampled .cgroupV2) (readCgroupV2 files root hostCpus now) := by
  refine (files.gives_parse _ _ _).bind fun usage _ => ?_
  refine (files.gives_parseIfReadable _ _ _).bind fun limit _ => ?_
  exact .ok (sampled_groupSample _ _ _ _ _ _)

theorem gives_firstReadable (path : String) (rest : List String) :
    Gives (fun _ => True) (firstReadable files path rest) := by
  -- each failure makes the next candidate the first
  induction rest generalizing path with
  | nil =>
      unfold firstReadable Files.text
      cases files path with
      | ok content => exact .ok trivial
      | error cause => exact .unavailable path cause
  | cons next rest ih =>
      unfold firstReadable
      split
      · exact .ok trivial
      · exact ih next

theorem gives_readUsage : Gives (fun _ => True) (readUsage files root) := by
  unfold readUsage
  split
  · exact .malformed root _
  · rename_i path rest _
    refine (gives_firstReadable files path rest).bind fun found _ => ?_
    obtain ⟨path, content⟩ := found
    simp only
    split
    · exact .ok trivial
    · exact .malformed path _

theorem gives_readBandwidth (directories : List String) :
    Gives (fun _ => True) (readBandwidth files root directories) := by
  induction directories with
  | nil => exact .ok trivial
  | cons directory rest ih =>
      unfold readBandwidth
      split
      · exact ih
      · split
        · exact .malformed _ _
        · exact (files.gives_parseIfReadable _ _ _).bind fun period _ => .ok trivial

theorem gives_readCgroupV1 : Gives (Sampled .cgroupV1) (readCgroupV1 files root hostCpus now) := by
  refine (gives_readUsage files root).bind fun usage _ => ?_
  refine (gives_readBandwidth files root _).bind fun limit _ => ?_
  exact .ok (sampled_groupSample _ _ _ _ _ _)

end

/-- What trying a tier comes to: a sample as `p` asks for, an error after which the
next tier is tried, or neither. -/
def Tries (p : CounterSample → Prop) (read : Readout CounterSample) : Prop :=
  (∃ s, read = .ok (.ok s) ∧ p s) ∨ (∃ e, read = .ok (.error e) ∧ e.fallsThrough = true) ∨
    ∃ o, read = .error o

theorem Tries.of_gives {p : CounterSample → Prop}
    {read : Except ReadError CounterSample} (h : Gives p read) : Tries p (.ok read) := by
  rcases h with ⟨s, rfl, hs⟩ | ⟨e, rfl, he⟩
  · exact .inl ⟨s, rfl, hs⟩
  · exact .inr (.inl ⟨e, rfl, he⟩)

theorem tries_readProcStat (files : Files) (root : String) (hostCpus : UInt32) (now : UInt64) :
    Tries (Sampled .procStat) (readProcStat files root hostCpus now) := by
  unfold readProcStat
  split
  · rename_i e failed
    have gives := files.gives_parse (Files.join root "stat") CpuTicks.read? CpuTicksError.message
    rw [failed] at gives
    obtain ⟨_, ⟨⟩, -⟩ | ⟨e', ⟨⟩, falls⟩ := gives
    exact .inr (.inl ⟨e, rfl, falls⟩)
  · rename_i t _
    cases t.active with
    | error o => exact .inr (.inr ⟨o, rfl⟩)
    | ok active =>
        cases ht : t.total with
        | error o => exact .inr (.inr ⟨o, rfl⟩)
        | ok total => exact .inl ⟨_, rfl, rfl, one_le_max hostCpus⟩

/-- Every tier gives a sample of its own, lets the next one be tried, or breaks off. -/
theorem Roots.tries_readTier (roots : Roots) (files : Files) (now : UInt64) (tier : Tier) :
    Tries (Sampled tier) (roots.readTier files now tier) := by
  cases tier with
  | cgroupV2 => exact .of_gives (gives_readCgroupV2 files roots.cgroup roots.hostCpus now)
  | cgroupV1 => exact .of_gives (gives_readCgroupV1 files roots.cgroup roots.hostCpus now)
  | procStat => exact tries_readProcStat files roots.proc roots.hostCpus now

theorem Roots.sampled_of_readTier {roots : Roots} {files : Files} {now : UInt64} {tier : Tier}
    {s : CounterSample} (h : roots.readTier files now tier = .ok (.ok s)) : Sampled tier s := by
  have tries := roots.tries_readTier files now tier
  rw [h] at tries
  obtain ⟨_, ⟨⟩, sampled⟩ | ⟨e, ⟨⟩, -⟩ | ⟨o, ⟨⟩⟩ := tries
  exact sampled

/-- Only the host's tier breaks off, where its ticks have no room together. -/
theorem Roots.readTier_eq_overflow_iff {roots : Roots} {files : Files} {now : UInt64} {tier : Tier}
    (o : SumOverflow) : roots.readTier files now tier = .error o ↔
      tier = .procStat ∧ HostOverflows files roots.proc := by
  cases tier with
  | procStat => simpa [readTier] using readProcStat_eq_overflow_iff o
  | cgroupV2 => simp [readTier]
  | cgroupV1 => simp [readTier]

/-! ## Going through the tiers -/

section
variable {read : Tier → Readout CounterSample} {tiers : List Tier} {attempts : List String}

/-- A tier could not be read, and this is its entry: its name and the error. -/
def Reports (read : Tier → Readout CounterSample) (tier : Tier) (entry : String) : Prop :=
  ∃ e, read tier = .ok (.error e) ∧ entry = tier.name ++ ": " ++ e.message

theorem Reports.unique : Relator.RightUnique (Reports read) := by
  rintro tier _ _ ⟨e, he, rfl⟩ ⟨e', he', rfl⟩
  rw [he] at he'
  cases he'
  rfl

theorem failed_of_reports {entries : List String} (h : List.Forall₂ (Reports read) tiers entries) :
    ∀ t ∈ tiers, ∃ e, read t = .ok (.error e) := by
  induction h with
  | nil => simp
  | cons head _ ih =>
      obtain ⟨e, he, -⟩ := head
      exact List.forall_mem_cons.mpr ⟨⟨e, he⟩, ih⟩

/-- What going through tiers can come to: one entry for each tier that failed,
up to the first that did not. -/
inductive DescendsTo (read : Tier → Readout CounterSample) (tiers : List Tier)
    (attempts : List String) : Descent → Prop where
  | found {before : List Tier} {tier : Tier} {after : List Tier} {sample : CounterSample}
      {skipped : List String} (split : tiers = before ++ tier :: after)
      (failed : List.Forall₂ (Reports read) before skipped)
      (answered : read tier = .ok (.ok sample)) :
      DescendsTo read tiers attempts (.found tier sample (attempts ++ skipped))
  | exhausted {skipped : List String} (failed : List.Forall₂ (Reports read) tiers skipped) :
      DescendsTo read tiers attempts (.exhausted (attempts ++ skipped))
  | aborted {before : List Tier} {tier : Tier} {after : List Tier} {skipped : List String}
      {o : SumOverflow} (split : tiers = before ++ tier :: after)
      (failed : List.Forall₂ (Reports read) before skipped) (lost : read tier = .error o) :
      DescendsTo read tiers attempts (.aborted o)

/-- A tier that failed adds its entry to what the tiers after it come to. -/
theorem DescendsTo.cons {tier : Tier} {e : ReadError} (he : read tier = .ok (.error e))
    {d : Descent} (h : DescendsTo read tiers (attempts ++ [attempt tier e]) d) :
    DescendsTo read (tier :: tiers) attempts d := by
  have entry : Reports read tier (attempt tier e) := ⟨e, he, rfl⟩
  cases h with
  | found split failed answered =>
      rw [List.append_assoc]
      exact .found (congrArg (tier :: ·) split) (.cons entry failed) answered
  | exhausted failed =>
      rw [List.append_assoc]
      exact .exhausted (.cons entry failed)
  | aborted split failed lost =>
      exact .aborted (congrArg (tier :: ·) split) (.cons entry failed) lost

/-- Where every tier that fails gives way, no error breaks the descent off. -/
theorem descendsTo_descend {p : Tier → CounterSample → Prop} (tries : ∀ t, Tries (p t) (read t))
    (tiers : List Tier) (attempts : List String) :
    DescendsTo read tiers attempts (descend read tiers attempts) := by
  induction tiers generalizing attempts with
  | nil =>
      have ends : DescendsTo read [] attempts (.exhausted (attempts ++ [])) := .exhausted .nil
      rwa [List.append_nil] at ends
  | cons tier rest ih =>
      rcases tries tier with ⟨sample, answered, -⟩ | ⟨e, he, falls⟩ | ⟨o, lost⟩
      · have found : DescendsTo read (tier :: rest) attempts
            (.found tier sample (attempts ++ [])) := .found (List.nil_append _).symm .nil answered
        simp only [descend, answered]
        rwa [List.append_nil] at found
      · simp only [descend, he, if_pos falls]
        exact (ih _).cons he
      · simp only [descend, lost]
        exact .aborted (List.nil_append _).symm .nil lost

/-- A tier does not fail. -/
def settles (read : Tier → Readout CounterSample) (tier : Tier) : Bool :=
  match read tier with
  | .ok (.error _) => false
  | _ => true

theorem settles_eq_false_iff {tier : Tier} :
    settles read tier = false ↔ ∃ e, read tier = .ok (.error e) := by
  unfold settles
  split
  · rename_i e failed
    exact iff_of_true rfl ⟨e, failed⟩
  · rename_i other
    exact iff_of_false nofun fun ⟨e, failed⟩ => other e failed

theorem find?_settles_eq_some_iff {tier : Tier} :
    tiers.find? (settles read) = some tier ↔ settles read tier = true ∧ ∃ before after,
      tiers = before ++ tier :: after ∧ ∀ u ∈ before, ∃ e, read u = .ok (.error e) := by
  simp only [List.find?_eq_some_iff_append, Bool.not_eq_true', settles_eq_false_iff]

/-- A descent comes to what the first tier does that does not fail. -/
theorem DescendsTo.result_of_find? {d : Descent} (h : DescendsTo read tiers attempts d)
    {tier : Tier} (first : tiers.find? (settles read) = some tier) : d.result = read tier := by
  -- the tier that the descent stopped at is the first one that does not fail
  have stopped : ∀ {before after u} {skipped : List String}, tiers = before ++ u :: after →
      List.Forall₂ (Reports read) before skipped → settles read u = true → u = tier := by
    intro before after u skipped split failed settled
    have found := find?_settles_eq_some_iff.mpr
      ⟨settled, before, after, split, failed_of_reports failed⟩
    exact Option.some.inj (found.symm.trans first)
  cases h with
  | @found before u after s skipped split failed answered =>
      have settled : settles read u = true := by rw [settles, answered]
      rw [← stopped split failed settled, answered]
      rfl
  | exhausted failed =>
      obtain ⟨settled, before, after, split, -⟩ := find?_settles_eq_some_iff.mp first
      have broken := failed_of_reports failed tier (split ▸ List.mem_append_cons_self)
      rw [← settles_eq_false_iff, settled] at broken
      cases broken
  | @aborted before u after skipped o split failed lost =>
      have settled : settles read u = true := by rw [settles, lost]
      rw [← stopped split failed settled, lost]
      rfl

/-- A descent fails exactly with one entry for each tier. -/
theorem DescendsTo.result_eq_error_iff {d : Descent} (h : DescendsTo read tiers [] d)
    (e : ReadError) :
    d.result = .ok (.error e) ↔
      ∃ entries, e = .exhausted entries ∧ List.Forall₂ (Reports read) tiers entries := by
  cases h with
  | found split failed answered =>
      refine ⟨nofun, ?_⟩
      -- the tier that answered is among those that would have failed
      rintro ⟨entries, -, all⟩
      obtain ⟨cause, he⟩ := failed_of_reports all _ (split ▸ List.mem_append_cons_self)
      rw [answered] at he
      cases he
  | exhausted failed =>
      constructor
      · rintro ⟨⟩
        exact ⟨_, rfl, failed⟩
      · rintro ⟨entries, rfl, all⟩
        rw [List.right_unique_forall₂' Reports.unique all failed]
        rfl
  | aborted split failed lost =>
      refine ⟨nofun, ?_⟩
      rintro ⟨entries, -, all⟩
      obtain ⟨cause, he⟩ := failed_of_reports all _ (split ▸ List.mem_append_cons_self)
      rw [lost] at he
      cases he

/-- What a descent comes to without failing is what the first tier comes to that does not. -/
theorem DescendsTo.result_eq_iff {d : Descent} (h : DescendsTo read tiers [] d)
    {r : Readout CounterSample} (settled : ∀ e, r ≠ .ok (.error e)) :
    d.result = r ↔ ∃ before t after, tiers = before ++ t :: after ∧
      (∀ u ∈ before, ∃ e, read u = .ok (.error e)) ∧ read t = r := by
  constructor
  · intro same
    cases first : tiers.find? (settles read) with
    | some t =>
        obtain ⟨-, before, after, split, failed⟩ := find?_settles_eq_some_iff.mp first
        exact ⟨before, t, after, split, failed, (h.result_of_find? first).symm.trans same⟩
    | none =>
        rw [List.find?_eq_none] at first
        cases h with
        | found split failed answered =>
            refine absurd ?_ (first _ (split ▸ List.mem_append_cons_self))
            rw [settles, answered]
        | exhausted failed => exact absurd same.symm (settled _)
        | aborted split failed lost =>
            refine absurd ?_ (first _ (split ▸ List.mem_append_cons_self))
            rw [settles, lost]
  · rintro ⟨before, t, after, split, failed, rfl⟩
    refine h.result_of_find? (find?_settles_eq_some_iff.mpr ⟨?_, before, after, split, failed⟩)
    rw [← Bool.not_eq_false, settles_eq_false_iff]
    exact fun ⟨e, he⟩ => settled e he

end

/-- Both kinds of group trees fail and the host stands in, whose ticks have no room
together. -/
structure Roots.Overflows (roots : Roots) (files : Files) (now : UInt64) : Prop where
  fallback : roots.fallback = true
  cgroupV2 : ∃ e, roots.readTier files now .cgroupV2 = .ok (.error e)
  cgroupV1 : ∃ e, roots.readTier files now .cgroupV1 = .ok (.error e)
  host : HostOverflows files roots.proc

namespace TierChain

theorem descendsTo_descent (chain : TierChain) (files : Files) (now : UInt64) :
    DescendsTo (chain.roots.readTier files now) chain.roots.tiers []
      (chain.descent files now) :=
  descendsTo_descend (chain.roots.tries_readTier files now) chain.roots.tiers []

/-- A reading breaks off only where it comes to the host. -/
theorem read_eq_overflow_iff (chain : TierChain) (files : Files) (now : UInt64) (o : SumOverflow) :
    (chain.read files now).1 = .error o ↔ chain.roots.Overflows files now := by
  have settled : ∀ e, (.error o : Readout CounterSample) ≠ .ok (.error e) := nofun
  refine ((chain.descendsTo_descent files now).result_eq_iff settled).trans ?_
  constructor
  · rintro ⟨before, t, after, split, failed, lost⟩
    obtain ⟨rfl, host⟩ := (Roots.readTier_eq_overflow_iff o).mp lost
    unfold Roots.tiers at split
    -- the host is the last tier, so the tiers before it are the others
    split at split
    · rename_i fallback
      have before_eq : before = [.cgroupV2, .cgroupV1] := by
        rcases before with _ | ⟨a, _ | ⟨b, _ | ⟨c, rest⟩⟩⟩ <;> simp_all
      subst before_eq
      exact ⟨fallback, failed _ (by decide), failed _ (by decide), host⟩
    · have host_mem : Tier.procStat ∈ [Tier.cgroupV2, Tier.cgroupV1] :=
        split ▸ List.mem_append_cons_self
      exact absurd host_mem (by decide)
  · rintro ⟨fallback, unified, older, host⟩
    refine ⟨[.cgroupV2, .cgroupV1], .procStat, [], ?_, ?_,
      (Roots.readTier_eq_overflow_iff o).mpr ⟨rfl, host⟩⟩
    · rw [Roots.tiers, if_pos fallback]
      rfl
    · simpa using ⟨unified, older⟩

end TierChain

/-- A host that has worked for too long, and no group tree. -/
def overlongMoment : Moment where
  files := Files.ofTable [("/proc/stat", .ok "cpu 18446744073709551615 0 0 1 0 0 0 0")]
  now := 1000
  clock := ⟨0, 0⟩

theorem hostTicks_overlongMoment :
    HostTicks overlongMoment.files "/proc" ⟨18446744073709551615, 0, 0, 1, 0, 0, 0, 0⟩ :=
  hostTicks_iff_parse.mpr (by decide +kernel)

end Source
end UsageMeter
