import ResourceMeter.Cost
import ResourceMeter.Simulation
import ResourceMeter.Snapshot

/-!
# Memory costs

Memory has a limit and no fee. Its penalty grows exponentially with the utilization: it is
negligible below half of the limit and severe above four fifths.
-/

namespace ResourceMeter

open Arithmetic Exponential

variable {α : Type} [Arithmetic α]

namespace MemoryCost

/-- The factor of the utilization in the exponent of the penalty. -/
def penaltyExponent : α :=
  5.0

/-- What in the snapshot keeps memory costs from being computed. -/
def fault? (snapshot : Snapshot α) : Option (ConfigurationFault α) :=
  if snapshot.limits.txMemoryLimit = 0 then some (.zeroLimit "tx_memory_limit")
  else nonNegativeFault? "memory_scaling_factor" snapshot.tuning.memoryScalingFactor

variable [Exponential α]

/-- The cost of the memory, once nothing is wrong with the snapshot. -/
def compute (sim : Simulation) (snapshot : Snapshot α) : MemoryCost α :=
  let utilization : α :=
    ofCount sim.memoryBytes.toNat / ofCount snapshot.limits.txMemoryLimit.toNat
  { bytesUsed := sim.memoryBytes
    normalized := utilization
    cost := snapshot.tuning.memoryScalingFactor * exp (penaltyExponent * utilization) }

/-- The cost of the memory of a simulation; a penalty that is not finite is refused. -/
def of (sim : Simulation) (snapshot : Snapshot α) : Except (Fault α) (MemoryCost α) :=
  match fault? snapshot with
  | some cause => .error (.configuration cause)
  | none =>
    let cost := compute sim snapshot
    if isFinite cost.cost then .ok cost
    else .error (.input (.penaltyOverflow cost.bytesUsed cost.normalized))

end MemoryCost

end ResourceMeter
