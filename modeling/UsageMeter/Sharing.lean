import UsageMeter.Refresher

/-!
A store that is shared by one writer and any number of readers. Whoever holds the
store holds the same one, so an access does not say through whom it came. The
writer publishes snapshots as they are, or refreshes: a refresh looks up the
snapshot that it goes on from and publishes the next one later, and readers may
come between the two. A receiver is known by its number, the count of
subscriptions before its own.
-/
namespace UsageMeter

/-- An access to a shared store. -/
inductive Access where
  /-- The writer publishes a snapshot. -/
  | publish (s : Snapshot)
  /-- A refresh of the writer looks up the latest snapshot. -/
  | lookUp
  /-- A refresh of the writer publishes what comes of a reading. -/
  | finish (reading : Reading)
  /-- The latest snapshot is read. -/
  | read
  /-- A receiver subscribes. -/
  | subscribe
  /-- A receiver asks for a snapshot that it has not taken. -/
  | changed (receiver : Nat)
  /-- A receiver reads and leaves the snapshot unseen. -/
  | peek (receiver : Nat)
  /-- A receiver reads and has then seen the snapshot. -/
  | take (receiver : Nat)
  /-- A receiver goes away. -/
  | leave (receiver : Nat)

/-- What an access gives. -/
inductive Answer where
  | done
  | snapshot (s : Snapshot)
  | changed (flag : Bool)

namespace Refresher

/-- A refresher that has published a snapshot as it is. -/
def publish (r : Refresher) (s : Snapshot) : Refresher :=
  { r with store := r.store.publish s }

/-- A refresh that goes on from a snapshot looked up before. -/
def refreshFrom (r : Refresher) (prior : Snapshot) (reading : Reading) : Refresher :=
  let started : Refresher := { r with store := { r.store with latest := prior } }
  { started.refresh reading with store := r.store.publish (started.nextSnapshot reading) }

/-- A snapshot that is still the latest makes it a refresh. -/
theorem refreshFrom_latest (r : Refresher) (reading : Reading) :
    r.refreshFrom r.store.latest reading = r.refresh reading := rfl

end Refresher

/-- A shared store with those who share it. -/
structure Sharing where
  /-- The writer, with the store. -/
  writer : Refresher
  /-- The snapshot that the writer's refresh goes on from, while there is one. -/
  prior : Option Snapshot
  /-- The receivers by their numbers; those that went away are none. -/
  receivers : List (Option Receiver)

namespace Sharing

/-- A writer whose store has no receivers. -/
def new (writer : Refresher) : Sharing := ⟨writer, none, []⟩

/-- The store. -/
def store (w : Sharing) : Store := w.writer.store

/-- The receiver of a number, if it is there. -/
def receiver? (w : Sharing) (i : Nat) : Option Receiver := (w.receivers[i]?).join

/-- What an access gives and leaves behind. There is none of the writer out of its
turn, and none of a receiver that is not there. -/
def step (w : Sharing) : Access → Option (Answer × Sharing)
  | .publish s =>
    match w.prior with
    | none => some (.done, { w with writer := w.writer.publish s })
    | some _ => none
  | .lookUp =>
    match w.prior with
    | none => some (.done, { w with prior := some w.store.latest })
    | some _ => none
  | .finish x =>
    w.prior.map fun prior =>
      (.done, { w with writer := w.writer.refreshFrom prior x, prior := none })
  | .read => some (.snapshot w.store.latest, w)
  | .subscribe => some (.done, { w with receivers := w.receivers ++ [some w.store.subscribe] })
  | .changed i => (w.receiver? i).map fun rx => (.changed (w.store.hasChanged rx), w)
  | .peek i => (w.receiver? i).map fun rx => (.snapshot (w.store.peek rx), w)
  | .take i =>
    (w.receiver? i).map fun rx =>
      let (s, rx) := w.store.take rx
      (.snapshot s, { w with receivers := w.receivers.set i (some rx) })
  | .leave i => (w.receiver? i).map fun _ => (.done, { w with receivers := w.receivers.set i none })

/-- What accesses one after the other leave behind, if each of them can be. -/
def run (w : Sharing) : List Access → Option Sharing
  | [] => some w
  | a :: as => (w.step a).bind fun next => next.2.run as

end Sharing
end UsageMeter
