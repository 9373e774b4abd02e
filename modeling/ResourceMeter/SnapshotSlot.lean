import ResourceMeter.Snapshot

/-!
# The snapshot in effect

A `SnapshotSlot` holds the snapshot that analyses use. A refresh replaces it as a whole and only by
a valid one; a snapshot that was taken from the slot before stays as it is.
-/

namespace ResourceMeter

variable {α : Type} [Arithmetic α]

/-- The holder of the snapshot in effect. -/
structure SnapshotSlot (α : Type) [Arithmetic α] where
  current : Snapshot α

namespace SnapshotSlot

/-- A slot with a first snapshot, which has to be valid. -/
def of (snapshot : Snapshot α) : Except (Fault α) (SnapshotSlot α) :=
  snapshot.validate.map fun _ => ⟨snapshot⟩

/-- A slot with the snapshot of the main network. -/
def standard : SnapshotSlot Float :=
  ⟨.mainnet⟩

/-- The version tag of the snapshot in effect. -/
def version (slot : SnapshotSlot α) : String :=
  slot.current.version

/-- Puts a snapshot into the slot, and also gives the one that was there. -/
def swap (slot : SnapshotSlot α) (snapshot : Snapshot α) : Snapshot α × SnapshotSlot α :=
  (slot.current, ⟨snapshot⟩)

/-- Puts a valid snapshot into the slot, and also gives the one that was there; any other snapshot
is refused. -/
def replace (slot : SnapshotSlot α) (snapshot : Snapshot α) :
    Except (Fault α) (Snapshot α × SnapshotSlot α) :=
  snapshot.validate.map fun _ => slot.swap snapshot

end SnapshotSlot

end ResourceMeter
