import UsageMeter.Snapshot

/-!
The snapshot shared between its writer and its readers. A `Store` keeps the
snapshot published last and counts publications; a `Receiver` remembers the
count at which it last took a snapshot, so it can tell whether a newer one has
been published.
-/
namespace UsageMeter

/-- The snapshot published last. -/
structure Store where
  latest : Snapshot
  /-- The number of publications so far. -/
  version : Nat

/-- A reader of a store that is told of publications. -/
structure Receiver where
  /-- The number of publications it has taken notice of. -/
  seen : Nat
deriving DecidableEq, Repr

namespace Store

/-- A store that holds a first snapshot. -/
def new (s : Snapshot) : Store := ⟨s, 0⟩

/-- Puts a snapshot in the place of the latest one. -/
def publish (store : Store) (s : Snapshot) : Store := ⟨s, store.version + 1⟩

/-- A receiver to which everything published so far counts as seen. -/
def subscribe (store : Store) : Receiver := ⟨store.version⟩

/-- Whether something was published that the receiver has not taken. -/
def hasChanged (store : Store) (rx : Receiver) : Bool := store.version != rx.seen

/-- The latest snapshot, for a receiver that leaves it unseen. -/
def peek (store : Store) (_ : Receiver) : Snapshot := store.latest

/-- The latest snapshot, for a receiver that has then seen it. -/
def take (store : Store) (_ : Receiver) : Snapshot × Receiver := (store.latest, ⟨store.version⟩)

@[simp] theorem latest_publish (store : Store) (s : Snapshot) :
    (store.publish s).latest = s := rfl

@[simp] theorem version_publish (store : Store) (s : Snapshot) :
    (store.publish s).version = store.version + 1 := rfl

end Store
end UsageMeter
