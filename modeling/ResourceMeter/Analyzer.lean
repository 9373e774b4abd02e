import ResourceMeter.Analysis
import ResourceMeter.SnapshotSlot

/-!
# Analysing against the snapshot in effect

An analyzer assesses simulations against the snapshot that a slot holds when it starts. A batch
takes the snapshot and the time once, so all of its results belong together, and the failure of one
simulation does not touch the others.
-/

namespace ResourceMeter

variable {α : Type} [Arithmetic α] [Exponential α]

namespace SnapshotSlot

/-- The assessment of one simulation. -/
def analyze (slot : SnapshotSlot α) (now : Timestamp) (sim : Simulation) :
    Except (Fault α) (Analysis α) :=
  Analysis.of sim slot.current now

/-- The assessments of several simulations, in their order. -/
def analyzeBatch (slot : SnapshotSlot α) (now : Timestamp) (sims : List Simulation) :
    List (Except (Fault α) (Analysis α)) :=
  let snapshot := slot.current
  sims.map fun sim => Analysis.of sim snapshot now

end SnapshotSlot

end ResourceMeter
