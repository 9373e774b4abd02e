import ResourceMeter.Cost
import ResourceMeter.Cost.StartedUnits
import ResourceMeter.Simulation
import ResourceMeter.Snapshot

/-!
# Cpu costs

The fee is charged for each started increment of instructions. Ledger pressure, the squared
utilization of the limit for one ledger, adds a surcharge: it is negligible while the ledger is far
from full and grows sharply near saturation.
-/

namespace ResourceMeter

open Arithmetic

variable {α : Type} [Arithmetic α]

namespace CpuCost

/-- Utilization of the limit for one ledger. -/
def ledgerUtilization (cost : CpuCost α) : α :=
  sqrt cost.pressure

/-- What in the snapshot keeps cpu costs from being computed. -/
def fault? (snapshot : Snapshot α) : Option (ConfigurationFault α) :=
  if snapshot.fees.instructionsPerFeeIncrement = 0 then
    some (.zeroLimit "instructions_per_fee_increment")
  else if snapshot.limits.txMaxInstructions = 0 then some (.zeroLimit "tx_max_instructions")
  else if snapshot.limits.ledgerMaxInstructions = 0 then some (.zeroLimit "ledger_max_instructions")
  else nonNegativeFault? "ledger_pressure_weight" snapshot.tuning.ledgerPressureWeight

/-- The cost of the instructions, once nothing is wrong with the snapshot. -/
def compute (sim : Simulation) (snapshot : Snapshot α) : CpuCost α :=
  let increments := startedUnits sim.instructions snapshot.fees.instructionsPerFeeIncrement
  let fee : α := ofCount increments.toNat * snapshot.fees.feePerInstructionIncrement
  let instructions : α := ofCount sim.instructions.toNat
  let txShare := instructions / ofCount snapshot.limits.txMaxInstructions.toNat
  let ledgerShare := instructions / ofCount snapshot.limits.ledgerMaxInstructions.toNat
  let pressure := ledgerShare * ledgerShare
  { fee
    normalized := txShare
    pressure
    total := fee * (1.0 + snapshot.tuning.ledgerPressureWeight * pressure) }

/-- The cost of the instructions of a simulation. -/
def of (sim : Simulation) (snapshot : Snapshot α) : Except (Fault α) (CpuCost α) :=
  match fault? snapshot with
  | some cause => .error (.configuration cause)
  | none => .ok (compute sim snapshot)

end CpuCost

end ResourceMeter
