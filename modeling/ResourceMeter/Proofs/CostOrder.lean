import ResourceMeter.Proofs.Consumption
import ResourceMeter.Proofs.Exact
import ResourceMeter.Proofs.StartedUnits

/-!
# Costs grow with consumption

`ResourceCosts.AtMost` compares two costs number by number. `ResourceCosts.compute_mono` says that
in exact arithmetic a simulation that consumes no more than another one of anything has costs at
most those of the other, against the same valid snapshot.
-/

namespace ResourceMeter

open Arithmetic

/-- The rate of a dimension is among the rates that are checked. -/
theorem LedgerDimension.exists_mem_named {α : Type} (fees : FeeSchedule α)
    (dimension : LedgerDimension) :
    ∃ name, (name, dimension.rate fees) ∈ fees.named := by
  unfold FeeSchedule.named
  cases dimension with
  | readEntries => exact ⟨"fee_read_ledger_entry", by simp [rate]⟩
  | readBytes => exact ⟨"fee_read_1kb", by simp [rate]⟩
  | writeEntries => exact ⟨"fee_write_ledger_entry", by simp [rate]⟩
  | writeBytes => exact ⟨"fee_write_1kb", by simp [rate]⟩
  | bandwidth => exact ⟨"fee_tx_size_1kb", by simp [rate]⟩

section
variable {α : Type} [Arithmetic α]

/-- Every number of one cpu cost is at most that of the other. -/
structure CpuCost.AtMost (c d : CpuCost α) : Prop where
  fee : c.fee ≤ d.fee
  normalized : c.normalized ≤ d.normalized
  pressure : c.pressure ≤ d.pressure
  total : c.total ≤ d.total

/-- Utilization and penalty of one memory cost are at most those of the other. -/
structure MemoryCost.AtMost (c d : MemoryCost α) : Prop where
  normalized : c.normalized ≤ d.normalized
  cost : c.cost ≤ d.cost

/-- Every number of one ledger cost is at most that of the other. -/
structure LedgerCost.AtMost (c d : LedgerCost α) : Prop where
  fee : c.fee ≤ d.fee
  normalized : c.normalized ≤ d.normalized
  breakdown : ∀ dimension, c.breakdown.get dimension ≤ d.breakdown.get dimension
  feeBreakdown : ∀ dimension, c.feeBreakdown.get dimension ≤ d.feeBreakdown.get dimension

/-- Every number of one cost is at most that of the other. -/
structure ResourceCosts.AtMost (c d : ResourceCosts α) : Prop where
  cpu : c.cpu.AtMost d.cpu
  memory : c.memory.AtMost d.memory
  ledger : c.ledger.AtMost d.ledger

/-- The utilizations that are held against the margin are in the same order. -/
theorem ResourceCosts.AtMost.utilization {c d : ResourceCosts α} (h : c.AtMost d)
    (dimension : SafetyDimension) : dimension.utilization c ≤ dimension.utilization d := by
  cases dimension with
  | cpu => exact h.cpu.normalized
  | memory => exact h.memory.normalized
  | ledger dimension => exact h.ledger.breakdown dimension

/-- The fee of a dimension. -/
theorem LedgerCost.feeBreakdown_get (sim : Simulation) (snapshot : Snapshot α)
    (d : LedgerDimension) : (compute sim snapshot).feeBreakdown.get d =
      ofCount (d.billedUnits sim) * d.rate snapshot.fees :=
  LedgerVector.get_ofFn _ d

/-- The rate for instructions of a valid snapshot is not negative. -/
theorem Snapshot.Valid.instructionRate {snapshot : Snapshot α} (h : snapshot.Valid) :
    NonNegative snapshot.fees.feePerInstructionIncrement :=
  h.fees ("fee_per_instruction_increment", _) (List.mem_cons_self ..)

/-- The rates for ledger access of a valid snapshot are not negative. -/
theorem Snapshot.Valid.rate {snapshot : Snapshot α} (h : snapshot.Valid)
    (dimension : LedgerDimension) : NonNegative (dimension.rate snapshot.fees) := by
  obtain ⟨name, hmem⟩ := dimension.exists_mem_named snapshot.fees
  exact h.fees _ hmem

end

/-! ## Quantities -/

section
variable {s t : Simulation} (h : ∀ d : SafetyDimension, d.consumed s ≤ d.consumed t)
include h

/-- Fewer bytes start no more units, and entries are units themselves. -/
theorem LedgerDimension.billedUnits_mono (dimension : LedgerDimension) :
    dimension.billedUnits s ≤ dimension.billedUnits t := by
  have hunit : bytesPerFeeUnit ≠ 0 := by decide
  cases dimension with
  | readEntries => exact h (.ledger .readEntries)
  | writeEntries => exact h (.ledger .writeEntries)
  | readBytes => exact startedUnits_mono hunit (h (.ledger .readBytes))
  | writeBytes => exact startedUnits_mono hunit (h (.ledger .writeBytes))
  | bandwidth => exact startedUnits_mono hunit (h (.ledger .bandwidth))

/-! ## Costs -/

variable {exp sqrt : Rat → Rat} {snapshot : Snapshot (Exact exp sqrt)}

/-- Utilizations grow with the quantities. -/
theorem SafetyDimension.utilization_mono (d : SafetyDimension) :
    d.utilization (ResourceCosts.compute s snapshot) ≤
      d.utilization (ResourceCosts.compute t snapshot) := by
  rw [utilization_compute, utilization_compute]
  exact Exact.count_div_le (h d) _

/-- The cpu cost grows with the instructions. -/
theorem CpuCost.compute_mono (hvalid : snapshot.Valid) :
    (compute s snapshot).AtMost (compute t snapshot) := by
  have hfee : (compute s snapshot).fee ≤ (compute t snapshot).fee :=
    Exact.count_mul_le (startedUnits_mono hvalid.increment (h .cpu)) hvalid.instructionRate
  have hpressure : (compute s snapshot).pressure ≤ (compute t snapshot).pressure :=
    mul_self_le_mul_self (Exact.count_div_nonneg _ _) (Exact.count_div_le (h .cpu) _)
  have hpressure_nonneg : 0 ≤ (compute s snapshot).pressure.toRat := mul_self_nonneg _
  have hfee_nonneg : 0 ≤ (compute t snapshot).fee.toRat :=
    mul_nonneg (Nat.cast_nonneg _) ((Exact.nonNegative_iff _).1 hvalid.instructionRate)
  have hweight : 0 ≤ snapshot.tuning.ledgerPressureWeight.toRat :=
    (Exact.nonNegative_iff _).1 hvalid.pressureWeight
  refine ⟨hfee, SafetyDimension.utilization_mono h .cpu, hpressure, ?_⟩
  refine mul_le_mul hfee ?_ ?_ hfee_nonneg
  · exact add_le_add le_rfl (mul_le_mul_of_nonneg_left hpressure hweight)
  · exact add_nonneg (by norm_num) (mul_nonneg hweight hpressure_nonneg)

/-- The memory cost grows with the bytes, if the exponential function does not fall. -/
theorem MemoryCost.compute_mono (hexp : Monotone exp) (hvalid : snapshot.Valid) :
    (compute s snapshot).AtMost (compute t snapshot) := by
  have hutilization : (compute s snapshot).normalized ≤ (compute t snapshot).normalized :=
    SafetyDimension.utilization_mono h .memory
  have hscale : 0 ≤ snapshot.tuning.memoryScalingFactor.toRat :=
    (Exact.nonNegative_iff _).1 hvalid.scalingFactor
  refine ⟨hutilization, mul_le_mul_of_nonneg_left (hexp ?_) hscale⟩
  exact mul_le_mul_of_nonneg_left hutilization (by unfold penaltyExponent; norm_num)

/-- The ledger cost grows with each of its quantities. -/
theorem LedgerCost.compute_mono (hvalid : snapshot.Valid) :
    (compute s snapshot).AtMost (compute t snapshot) := by
  have hbreakdown (d : LedgerDimension) :
      (compute s snapshot).breakdown.get d ≤ (compute t snapshot).breakdown.get d :=
    SafetyDimension.utilization_mono h (.ledger d)
  have hfees (d : LedgerDimension) :
      (compute s snapshot).feeBreakdown.get d ≤ (compute t snapshot).feeBreakdown.get d := by
    rw [feeBreakdown_get, feeBreakdown_get]
    exact Exact.count_mul_le (d.billedUnits_mono h) (hvalid.rate d)
  refine ⟨Exact.sum_map_le _ fun d _ => hfees d, Exact.sum_map_le _ fun d _ => ?_, hbreakdown,
    hfees⟩
  have hweight : 0 ≤ (snapshot.tuning.ledgerWeights.weight d).toRat :=
    (Exact.nonNegative_iff _).1 (snapshot.tuning.ledgerWeights.nonNegative d)
  exact mul_le_mul_of_nonneg_left (hbreakdown d) hweight

/-- All costs grow with what is consumed. -/
theorem ResourceCosts.compute_mono (hexp : Monotone exp) (hvalid : snapshot.Valid) :
    (compute s snapshot).AtMost (compute t snapshot) where
  cpu := CpuCost.compute_mono h hvalid
  memory := MemoryCost.compute_mono h hexp hvalid
  ledger := LedgerCost.compute_mono h hvalid

end

end ResourceMeter
