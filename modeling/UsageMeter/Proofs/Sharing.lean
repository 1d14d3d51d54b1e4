import Mathlib.Data.List.Basic
import UsageMeter.Proofs.Refresh
import UsageMeter.Sharing

/-!
# Readers of a shared store

What readers see of the snapshots that the writer publishes, in whatever order
they come. The writer goes on as if it were alone. Everybody who reads sees the
snapshot that was published last, and a receiver is told of a change exactly if
something was published since it subscribed and since it last took a snapshot.
-/

namespace UsageMeter
open UsageMeter.Time

/-! ## What the writer publishes -/

/-- Something that the writer publishes. -/
inductive Publication where
  /-- A snapshot as it is. -/
  | direct (s : Snapshot)
  /-- What a refresh makes of a reading. -/
  | refresh (reading : Reading)

/-- What an access publishes. -/
def Access.publication? : Access → Option Publication
  | .publish s => some (.direct s)
  | .finish x => some (.refresh x)
  | _ => none

/-- What was published, in order. -/
def publications (past : List Access) : List Publication :=
  past.filterMap Access.publication?

theorem publications_append (past later : List Access) :
    publications (past ++ later) = publications past ++ publications later :=
  List.filterMap_append

theorem publications_concat_of_none {a : Access} (unpublished : a.publication? = none)
    (past : List Access) : publications (past ++ [a]) = publications past := by
  rw [publications_append]
  simp [publications, unpublished]

namespace Refresher

/-- A refresher after a publication, with nobody reading. -/
def issue (r : Refresher) : Publication → Refresher
  | .direct s => r.publish s
  | .refresh x => r.refresh x

/-- A refresher after publications one after the other. -/
def issueAll (r : Refresher) (ps : List Publication) : Refresher :=
  ps.foldl issue r

/-- The snapshot that a publication consists of. -/
def snapshotOf (r : Refresher) : Publication → Snapshot
  | .direct s => s
  | .refresh x => r.nextSnapshot x

/-- The snapshots that publications one after the other consist of. -/
def issued (r : Refresher) : List Publication → List Snapshot
  | [] => []
  | p :: ps => r.snapshotOf p :: (r.issue p).issued ps

theorem issueAll_append (r : Refresher) (ps qs : List Publication) :
    r.issueAll (ps ++ qs) = (r.issueAll ps).issueAll qs :=
  List.foldl_append

/-- Each publication is one, also if it is a refresh that could read nothing. -/
theorem version_issue (r : Refresher) (p : Publication) :
    (r.issue p).store.version = r.store.version + 1 := by
  cases p <;> rfl

theorem version_issueAll (r : Refresher) (ps : List Publication) :
    (r.issueAll ps).store.version = r.store.version + ps.length := by
  induction ps generalizing r with
  | nil => rfl
  | cons p ps ih =>
      show ((r.issue p).issueAll ps).store.version = _
      rw [ih, version_issue, List.length_cons]
      omega

/-- The store has what a publication consists of. -/
theorem latest_issue (r : Refresher) (p : Publication) :
    (r.issue p).store.latest = r.snapshotOf p := by
  cases p <;> rfl

/-- The store has the snapshot that was published last. -/
theorem latest_issueAll (r : Refresher) (ps : List Publication) :
    (r.issueAll ps).store.latest = (r.issued ps).getLast?.getD r.store.latest := by
  induction ps generalizing r with
  | nil => rfl
  | cons p ps ih =>
      show ((r.issue p).issueAll ps).store.latest = _
      rw [ih, issued, latest_issue, List.getLast?_cons, Option.getD_some]

end Refresher

/-! ## What a receiver has missed -/

/-- Whether an access is a subscription. -/
def Access.subscribes : Access → Bool
  | .subscribe => true
  | _ => false

/-- How many receivers have subscribed. -/
def subscriptions (past : List Access) : Nat :=
  past.countP Access.subscribes

/-- A receiver has subscribed and not gone away. -/
def Listens (i : Nat) (past : List Access) : Prop :=
  i < subscriptions past ∧ .leave i ∉ past

/-- Something was published after a receiver subscribed, and it has not taken a
snapshot since. -/
def Missed (i : Nat) (past : List Access) : Prop :=
  ∃ before a after, past = before ++ a :: after ∧ a.publication?.isSome ∧
    i < subscriptions before ∧ .take i ∉ after

section
variable {i : Nat} {past : List Access} {a : Access}

theorem subscriptions_concat (past : List Access) (a : Access) :
    subscriptions (past ++ [a]) = subscriptions past + if a.subscribes then 1 else 0 := by
  rw [subscriptions, List.countP_append, List.countP_singleton]
  rfl

/-- What is missed after one more access: a publication, if the receiver was there,
and what was missed before, unless the receiver takes it. -/
theorem missed_concat :
    Missed i (past ++ [a]) ↔
      (a.publication?.isSome ∧ i < subscriptions past) ∨ (a ≠ .take i ∧ Missed i past) := by
  constructor
  · rintro ⟨before, p, after, parts, published, subscribed, untaken⟩
    rcases List.eq_nil_or_concat after with rfl | ⟨rest, b, rfl⟩
    · obtain ⟨rfl, last⟩ := List.append_inj' parts rfl
      cases last
      exact .inl ⟨published, subscribed⟩
    · rw [List.concat_eq_append] at parts untaken
      rw [← List.cons_append, ← List.append_assoc] at parts
      obtain ⟨rfl, last⟩ := List.append_inj' parts rfl
      cases last
      refine .inr ⟨?_, before, p, rest, rfl, published, subscribed, ?_⟩
      · rintro rfl
        exact untaken (by simp)
      · exact fun taken => untaken (List.mem_append_left _ taken)
  · rintro (⟨published, subscribed⟩ |
      ⟨other, before, p, after, rfl, published, subscribed, untaken⟩)
    · exact ⟨past, a, [], rfl, published, subscribed, List.not_mem_nil⟩
    · refine ⟨before, p, after ++ [a], by simp, published, subscribed, ?_⟩
      simp [untaken, other.symm]

theorem missed_concat_of_other (unpublished : a.publication? = none) (other : a ≠ .take i) :
    Missed i (past ++ [a]) ↔ Missed i past := by
  rw [missed_concat, unpublished]
  simp [other]

theorem not_missed_take (i : Nat) (past : List Access) : ¬ Missed i (past ++ [.take i]) := by
  rw [missed_concat]
  rintro (⟨published, -⟩ | ⟨other, -⟩)
  · cases published
  · exact other rfl

/-- Nothing is missed by a receiver that is not there yet. -/
theorem Missed.subscribed (h : Missed i past) : i < subscriptions past := by
  obtain ⟨before, a, after, rfl, -, subscribed, -⟩ := h
  rw [subscriptions, List.countP_append]
  exact Nat.lt_of_lt_of_le subscribed (Nat.le_add_right _ _)

/-- Who listens after an access listened before or has just subscribed. -/
theorem Listens.of_concat (h : Listens i (past ++ [a])) :
    a ≠ .leave i ∧ (Listens i past ∨ (a = .subscribe ∧ i = subscriptions past)) := by
  obtain ⟨subscribed, stays⟩ := h
  rw [List.mem_append, not_or, List.mem_singleton] at stays
  refine ⟨fun leaves => stays.2 leaves.symm, ?_⟩
  rw [subscriptions_concat] at subscribed
  by_cases earlier : i < subscriptions past
  · exact .inl ⟨earlier, stays.1⟩
  · cases a
    case subscribe =>
      simp only [Access.subscribes, if_true] at subscribed
      exact .inr ⟨rfl, by omega⟩
    all_goals exact absurd subscribed earlier

end

/-! ## The receivers of a store -/

namespace Sharing
variable {r : Refresher} {w w' : Sharing} {past : List Access} {a : Access} {answer : Answer}

theorem receiver?_append (w : Sharing) (rx : Receiver) (j : Nat) :
    { w with receivers := w.receivers ++ [some rx] }.receiver? j =
      if j = w.receivers.length then some rx else w.receiver? j := by
  simp only [receiver?]
  split
  · next last => rw [last, List.getElem?_concat_length]; rfl
  · next other =>
      rcases Nat.lt_or_gt_of_ne other with before | beyond
      · rw [List.getElem?_append_left before]
      · rw [List.getElem?_eq_none (by simpa [Nat.succ_le_iff] using beyond),
          List.getElem?_eq_none (Nat.le_of_lt beyond)]

theorem lt_length_of_receiver? {i : Nat} {rx : Receiver} (there : w.receiver? i = some rx) :
    i < w.receivers.length := by
  by_contra beyond
  rw [receiver?, List.getElem?_eq_none (Nat.le_of_not_lt beyond)] at there
  cases there

theorem receiver?_set {i : Nat} {rx : Receiver} (there : w.receiver? i = some rx)
    (new : Option Receiver) (j : Nat) :
    { w with receivers := w.receivers.set i new }.receiver? j =
      if i = j then new else w.receiver? j := by
  simp only [receiver?]
  rw [List.getElem?_set]
  split
  · rw [if_pos (lt_length_of_receiver? there)]
    rfl
  · rfl

/-- **The sharing invariant**: what accesses one after the other have made of the
writer and of the receivers. -/
structure Follows (r : Refresher) (past : List Access) (w : Sharing) : Prop where
  /-- The writer has done what it would have done alone. -/
  writer : w.writer = r.issueAll (publications past)
  /-- Nothing is published while a refresh is under way. -/
  prior : ∀ s, w.prior = some s → s = w.store.latest
  count : w.receivers.length = subscriptions past
  present : ∀ i, Listens i past → (w.receiver? i).isSome
  seen : ∀ i rx, w.receiver? i = some rx →
    rx.seen ≤ w.store.version ∧ (rx.seen ≠ w.store.version ↔ Missed i past)

namespace Follows

theorem new (r : Refresher) : Follows r [] (Sharing.new r) where
  writer := rfl
  prior := nofun
  count := rfl
  present _ listens := absurd listens.1 (Nat.not_lt_zero _)
  seen i rx there := by cases there

/-- The number of a receiver is that of a subscription. -/
theorem subscribed (h : Follows r past w) {i : Nat} {rx : Receiver}
    (there : w.receiver? i = some rx) : i < subscriptions past :=
  h.count ▸ lt_length_of_receiver? there

/-- A publication is missed by every receiver. -/
theorem issue (h : Follows r past w) {p : Publication} (published : a.publication? = some p)
    (quiet : a.subscribes = false) :
    Follows r (past ++ [a]) { w with writer := w.writer.issue p, prior := none } where
  writer := by
    rw [publications_append, Refresher.issueAll_append, ← h.writer]
    simp [publications, published, Refresher.issueAll]
  prior := nofun
  count := by rw [subscriptions_concat, quiet]; exact h.count
  present i listens := by
    rcases listens.of_concat.2 with earlier | ⟨rfl, -⟩
    · exact h.present i earlier
    · cases quiet
  seen i rx there := by
    have old := (h.seen i rx there).1
    have version := w.writer.version_issue p
    have missed : Missed i (past ++ [a]) :=
      missed_concat.mpr (.inl ⟨by rw [published]; rfl, h.subscribed there⟩)
    simp only [store] at old ⊢
    rw [version]
    exact ⟨by omega, iff_of_true (by omega) missed⟩

/-- An access that publishes nothing and leaves the receivers alone. -/
theorem look (h : Follows r past w) (unpublished : a.publication? = none)
    (quiet : a.subscribes = false) (untaken : ∀ i, a ≠ .take i) (prior : Option Snapshot)
    (from_latest : ∀ s, prior = some s → s = w.store.latest) :
    Follows r (past ++ [a]) { w with prior := prior } where
  writer := by rw [publications_concat_of_none unpublished]; exact h.writer
  prior := from_latest
  count := by rw [subscriptions_concat, quiet]; exact h.count
  present i listens := by
    rcases listens.of_concat.2 with earlier | ⟨rfl, -⟩
    · exact h.present i earlier
    · cases quiet
  seen i rx there := by
    rw [missed_concat_of_other unpublished (untaken i)]
    exact h.seen i rx there

/-- A receiver that subscribes has missed nothing. -/
theorem subscribe (h : Follows r past w) :
    Follows r (past ++ [.subscribe])
      { w with receivers := w.receivers ++ [some w.store.subscribe] } where
  writer := by rw [publications_concat_of_none rfl]; exact h.writer
  prior := h.prior
  count := by rw [subscriptions_concat, ← h.count]; simp [Access.subscribes]
  present i listens := by
    rw [receiver?_append]
    split
    · rfl
    · next other =>
        rcases listens.of_concat.2 with earlier | ⟨-, last⟩
        · exact h.present i earlier
        · exact absurd (last.trans h.count.symm) other
  seen i rx there := by
    rw [missed_concat_of_other (a := .subscribe) rfl nofun]
    rw [receiver?_append] at there
    split at there
    · next last =>
        cases there
        refine ⟨Nat.le_refl _, iff_of_false (fun ne => ne rfl) fun missed => ?_⟩
        exact absurd (last.trans h.count) (Nat.ne_of_lt missed.subscribed)
    · exact h.seen i rx there

/-- A receiver that takes the snapshot misses nothing any more. -/
theorem take (h : Follows r past w) {i : Nat} {rx : Receiver} (there : w.receiver? i = some rx) :
    Follows r (past ++ [.take i])
      { w with receivers := w.receivers.set i (some (w.store.take rx).2) } where
  writer := by rw [publications_concat_of_none rfl]; exact h.writer
  prior := h.prior
  count := by rw [subscriptions_concat, List.length_set]; exact h.count
  present j listens := by
    rw [receiver?_set there]
    split
    · rfl
    · rcases listens.of_concat.2 with earlier | ⟨no, -⟩
      · exact h.present j earlier
      · cases no
  seen j rx' there' := by
    rw [receiver?_set there] at there'
    split at there'
    · next same =>
        cases there'
        subst same
        exact ⟨Nat.le_refl _, iff_of_false (fun ne => ne rfl) (not_missed_take i past)⟩
    · next other =>
        rw [missed_concat_of_other rfl fun same => other (Access.take.inj same)]
        exact h.seen j rx' there'

/-- A receiver that goes away is heard of no more. -/
theorem leave (h : Follows r past w) {i : Nat} {rx : Receiver}
    (there : w.receiver? i = some rx) :
    Follows r (past ++ [.leave i]) { w with receivers := w.receivers.set i none } where
  writer := by rw [publications_concat_of_none rfl]; exact h.writer
  prior := h.prior
  count := by rw [subscriptions_concat, List.length_set]; exact h.count
  present j listens := by
    obtain ⟨stays, earlier | ⟨no, -⟩⟩ := listens.of_concat
    · rw [receiver?_set there, if_neg fun same => stays (congrArg Access.leave same)]
      exact h.present j earlier
    · cases no
  seen j rx' there' := by
    rw [missed_concat_of_other (a := .leave i) rfl nofun]
    rw [receiver?_set there] at there'
    split at there'
    · cases there'
    · exact h.seen j rx' there'

theorem step (h : Follows r past w) (stepped : w.step a = some (answer, w')) :
    Follows r (past ++ [a]) w' := by
  cases a with
  | publish s =>
      rw [Sharing.step] at stepped
      split at stepped
      · next idle =>
          cases stepped
          have done := h.issue (a := .publish s) rfl rfl
          rwa [← idle] at done
      · cases stepped
  | lookUp =>
      rw [Sharing.step] at stepped
      split at stepped
      · cases stepped
        exact h.look (a := .lookUp) rfl rfl nofun _ fun s found => (Option.some.inj found).symm
      · cases stepped
  | finish x =>
      obtain ⟨prior, begun, result⟩ := Option.map_eq_some_iff.mp stepped
      cases result
      rw [h.prior prior begun, store, Refresher.refreshFrom_latest]
      exact h.issue (a := .finish x) rfl rfl
  | read =>
      cases stepped
      exact h.look (a := .read) rfl rfl nofun _ h.prior
  | subscribe =>
      cases stepped
      exact h.subscribe
  | changed i =>
      obtain ⟨rx, there, result⟩ := Option.map_eq_some_iff.mp stepped
      cases result
      exact h.look (a := .changed i) rfl rfl nofun _ h.prior
  | peek i =>
      obtain ⟨rx, there, result⟩ := Option.map_eq_some_iff.mp stepped
      cases result
      exact h.look (a := .peek i) rfl rfl nofun _ h.prior
  | take i =>
      obtain ⟨rx, there, result⟩ := Option.map_eq_some_iff.mp stepped
      cases result
      exact h.take there
  | leave i =>
      obtain ⟨rx, there, result⟩ := Option.map_eq_some_iff.mp stepped
      cases result
      exact h.leave there

theorem run (h : Follows r past w) {accesses : List Access} (ran : w.run accesses = some w') :
    Follows r (past ++ accesses) w' := by
  induction accesses generalizing past w with
  | nil =>
      cases ran
      rwa [List.append_nil]
  | cons a as ih =>
      obtain ⟨⟨answer, next⟩, stepped, rest⟩ := Option.bind_eq_some_iff.mp ran
      rw [List.append_cons]
      exact ih (h.step stepped) rest

end Follows

/-- **Whoever reads sees what was published last.** In whatever order a writer and its
readers come, the writer does what it would do alone, and a refresh is one publication
whatever its reading, also with no receiver there. Every read gives the last
publication or, before any, the first snapshot, and a receiver is told of a change
exactly if it has missed a publication. -/
theorem readers_see_latest {accesses : List Access}
    (ran : (Sharing.new r).run accesses = some w) :
    let issued := publications accesses
    let latest := (r.issued issued).getLast?.getD r.store.latest
    (w.writer = r.issueAll issued ∧
      w.store.version = r.store.version + issued.length ∧
      (w.prior.isSome → ∀ x, ∃ next, w.step (.finish x) = some (.done, next) ∧
        next.writer = w.writer.refresh x ∧ next.store.version = w.store.version + 1)) ∧
    w.step .read = some (.snapshot latest, w) ∧
    ∀ i, Listens i accesses →
      w.step (.peek i) = some (.snapshot latest, w) ∧
      (∃ next, w.step (.take i) = some (.snapshot latest, next) ∧ next.writer = w.writer) ∧
      ∃ flag, w.step (.changed i) = some (.changed flag, w) ∧
        (flag = true ↔ Missed i accesses) := by
  intro issued latest
  have follows : Follows r accesses w := (Follows.new r).run ran
  have current : w.store.latest = latest := by
    rw [store, follows.writer, Refresher.latest_issueAll]
  refine ⟨⟨follows.writer, ?_, ?_⟩, ?_, ?_⟩
  · rw [store, follows.writer, Refresher.version_issueAll]
  · intro begun x
    obtain ⟨prior, hp⟩ := Option.isSome_iff_exists.mp begun
    refine ⟨_, by rw [step, hp]; rfl, ?_, rfl⟩
    show w.writer.refreshFrom prior x = _
    rw [follows.prior prior hp, store, Refresher.refreshFrom_latest]
  · rw [step, current]
  · intro i listens
    obtain ⟨rx, there⟩ := Option.isSome_iff_exists.mp (follows.present i listens)
    refine ⟨?_, ⟨{ w with receivers := w.receivers.set i (some (w.store.take rx).2) }, ?_, rfl⟩,
      w.store.hasChanged rx, ?_, ?_⟩
    · rw [step, there, ← current]
      rfl
    · rw [step, there, ← current]
      rfl
    · rw [step, there]
      rfl
    · rw [← (follows.seen i rx there).2, Store.hasChanged, bne_iff_ne]
      exact ne_comm

/-- A refresh that can read nothing runs beside a subscription, then another snapshot is
published twice. Everybody reads that snapshot. The receiver that took it again is told of
no change, and the other one is, though it has taken an equal one. -/
theorem readers_see_publication_of_another :
    let first := Snapshot.initial 42 2
    let second := Snapshot.initial 43 4
    let writer := Refresher.new ⟨42, "svc", Span.ofSeconds 5, by decide⟩ (Store.new first)
    let lost : Reading := ⟨.error (.exhausted []), .error (.exhausted []), ⟨105, 0⟩, Float.ofNat 0⟩
    let accesses : List Access :=
      [.subscribe, .lookUp, .subscribe, .finish lost, .take 0, .peek 1, .publish second,
        .take 0, .take 1, .publish second, .take 0]
    first.pid ≠ second.pid ∧
      ∃ w, (Sharing.new writer).run accesses = some w ∧ w.store.version = 3 ∧
        w.step .read = some (.snapshot second, w) ∧
        w.step (.peek 1) = some (.snapshot second, w) ∧
        w.step (.changed 0) = some (.changed false, w) ∧
        w.step (.changed 1) = some (.changed true, w) := by
  intro first second writer lost accesses
  obtain ⟨w, ran⟩ : ∃ w, (Sharing.new writer).run accesses = some w := ⟨_, rfl⟩
  obtain ⟨⟨-, version, -⟩, read, heard⟩ := readers_see_latest ran
  obtain ⟨-, -, flag₀, told₀, missed₀⟩ := heard 0 ⟨by decide, by simp [accesses]⟩
  obtain ⟨peeked, -, flag₁, told₁, missed₁⟩ := heard 1 ⟨by decide, by simp [accesses]⟩
  have taken : flag₀ = false := by
    rw [← Bool.not_eq_true, missed₀]
    exact not_missed_take 0 (accesses.take 10)
  have late : flag₁ = true :=
    missed₁.mpr ⟨accesses.take 9, .publish second, [.take 0], rfl, rfl, by decide, by simp⟩
  rw [taken] at told₀
  rw [late] at told₁
  exact ⟨by decide, w, ran, version, read, peeked, told₀, told₁⟩

end Sharing

end UsageMeter
