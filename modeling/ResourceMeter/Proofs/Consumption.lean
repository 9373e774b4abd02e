import ResourceMeter.Proofs.AnalysisFaults

/-!
# What is consumed, and of what

Seven quantities of a simulation have a limit for one transaction. `SafetyDimension.consumed` and
`SafetyDimension.txLimit` name them field by field, and `SafetyDimension.utilization_compute` says
that the utilization of each dimension is the quotient of its own quantity and its own limit. In a
valid snapshot no limit is zero, so the costs exist (`CpuCost.of_valid`, `LedgerCost.of_valid`).
-/

namespace ResourceMeter

open Arithmetic

namespace SafetyDimension

/-- The quantity that a dimension meters. -/
def consumed (sim : Simulation) : SafetyDimension → Nat
  | .cpu => sim.instructions.toNat
  | .memory => sim.memoryBytes.toNat
  | .ledger .readEntries => sim.resources.footprint.readOnly.length
  | .ledger .readBytes => sim.resources.readBytes.toNat
  | .ledger .writeEntries => sim.resources.footprint.readWrite.length
  | .ledger .writeBytes => sim.resources.writeBytes.toNat
  | .ledger .bandwidth => sim.transactionSizeBytes.toNat

/-- The limit of a dimension for one transaction. -/
def txLimit (limits : Limits) : SafetyDimension → UInt64
  | .cpu => limits.txMaxInstructions
  | .memory => limits.txMemoryLimit
  | .ledger .readEntries => limits.txMaxReadLedgerEntries
  | .ledger .readBytes => limits.txMaxReadBytes
  | .ledger .writeEntries => limits.txMaxWriteLedgerEntries
  | .ledger .writeBytes => limits.txMaxWriteBytes
  | .ledger .bandwidth => limits.txMaxSizeBytes

/-- The list of all dimensions leaves none out. -/
theorem mem_all (d : SafetyDimension) : d ∈ all := by
  cases d with
  | cpu | memory => decide
  | ledger d => exact List.mem_append_right _ (List.mem_map_of_mem d.mem_all)

/-- The list of all dimensions names none twice. -/
theorem nodup_all : all.Nodup := by
  decide

variable {α : Type} [Arithmetic α]

/-- A utilization is the quotient of the quantity and the limit. -/
theorem utilization_compute [Exponential α] (sim : Simulation) (snapshot : Snapshot α)
    (d : SafetyDimension) :
    d.utilization (ResourceCosts.compute sim snapshot) =
      ofCount (d.consumed sim) / ofCount (d.txLimit snapshot.limits).toNat := by
  cases d with
  | cpu | memory => rfl
  | ledger d => cases d <;> rfl

/-- No limit of a valid snapshot is zero. -/
theorem txLimit_ne_zero {snapshot : Snapshot α} (h : snapshot.Valid) (d : SafetyDimension) :
    d.txLimit snapshot.limits ≠ 0 := by
  have hlimits := h.limits
  simp only [Limits.named, List.forall_mem_cons] at hlimits
  obtain ⟨hinstructions, -, hmemory, hreadEntries, hreadBytes, hwriteEntries, hwriteBytes,
    -, -, -, -, hsize, -⟩ := hlimits
  cases d with
  | cpu => exact hinstructions
  | memory => exact hmemory
  | ledger d => cases d <;> assumption

end SafetyDimension

/-! ## Costs against valid snapshots -/

section
variable {α : Type} [Arithmetic α] {snapshot : Snapshot α} {sim : Simulation}

/-- The limit for one ledger of a valid snapshot is not zero. -/
theorem Snapshot.Valid.ledgerInstructions (h : snapshot.Valid) :
    snapshot.limits.ledgerMaxInstructions ≠ 0 := by
  have hlimits := h.limits
  simp only [Limits.named, List.forall_mem_cons] at hlimits
  exact hlimits.2.1

/-- A valid snapshot has a cpu cost for every simulation. -/
theorem CpuCost.of_valid (h : snapshot.Valid) : of sim snapshot = .ok (compute sim snapshot) := by
  rw [of_eq_afterChecks, afterChecks_eq_ok_iff]
  refine ⟨?_, rfl⟩
  simp only [List.forall_mem_cons, zeroCheck_eq_none_iff, scaleCheck_eq_none_iff]
  exact ⟨h.increment, SafetyDimension.txLimit_ne_zero h .cpu, h.ledgerInstructions,
    h.pressureWeight, List.forall_mem_nil _⟩

/-- A valid snapshot has a ledger cost for every simulation without a conflict. -/
theorem LedgerCost.of_valid (h : snapshot.Valid)
    (hfootprint : sim.resources.footprint.conflict? = none) :
    of sim snapshot = .ok (compute sim snapshot) := by
  have hlimit (d : LedgerDimension) := SafetyDimension.txLimit_ne_zero h (.ledger d)
  rw [of_eq_afterChecks, afterChecks_eq_ok_iff]
  refine ⟨?_, rfl⟩
  simp only [List.forall_mem_cons, zeroCheck_eq_none_iff]
  exact ⟨hlimit .readEntries, hlimit .readBytes, hlimit .writeEntries, hlimit .writeBytes,
    hlimit .bandwidth, Option.map_eq_none_iff.2 hfootprint, List.forall_mem_nil _⟩

end

/-! ## Violations -/

/-- A violation is a dimension with a utilization above the margin. -/
theorem SafetyViolation.mem_check_iff {α : Type} [Arithmetic α] {costs : ResourceCosts α}
    {margin : α} {violation : SafetyViolation α} : violation ∈ check costs margin ↔
      ∃ d : SafetyDimension, margin < d.utilization costs ∧
        ⟨d, d.utilization costs, margin⟩ = violation := by
  simp [check, SafetyDimension.mem_all]

end ResourceMeter
