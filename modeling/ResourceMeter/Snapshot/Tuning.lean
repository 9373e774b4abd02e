import ResourceMeter.Snapshot.FeeSchedule
import ResourceMeter.Snapshot.Thresholds
import ResourceMeter.Snapshot.Weights

/-!
# Tuning

The parameters of the cost and scoring model that a snapshot may adjust.
-/

namespace ResourceMeter

open Arithmetic

variable {α : Type} [Arithmetic α]

/-- The adjustable parameters of the model. -/
structure Tuning (α : Type) [Arithmetic α] where
  /-- Weight of ledger pressure in the total cpu cost. -/
  ledgerPressureWeight : α
  /-- Scale of the memory penalty. -/
  memoryScalingFactor : α
  ledgerWeights : LedgerWeights α
  thresholds : Thresholds α
  scoreWeights : ScoreWeights α
  /-- Utilization above which a dimension violates safety. -/
  safetyMargin : α

namespace Tuning

/-- The first number that is not allowed. -/
def fault? (tuning : Tuning α) : Option (ConfigurationFault α) :=
  nonNegativeFault? "ledger_pressure_weight" tuning.ledgerPressureWeight <|>
  nonNegativeFault? "memory_scaling_factor" tuning.memoryScalingFactor <|>
  if isFinite tuning.safetyMargin = false ∨ tuning.safetyMargin ≤ 0.0 then
    some (.marginNotPositive tuning.safetyMargin)
  else none

/-- The parameters that hold where a snapshot adjusts nothing. -/
def standard : Tuning Float where
  ledgerPressureWeight := 0.5
  memoryScalingFactor := 100.0
  ledgerWeights := .uniform
  thresholds := .standard
  scoreWeights := .standard
  safetyMargin := 0.95

end Tuning

end ResourceMeter
