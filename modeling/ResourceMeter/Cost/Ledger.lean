import ResourceMeter.Cost
import ResourceMeter.Cost.StartedUnits
import ResourceMeter.Simulation
import ResourceMeter.Snapshot

/-!
# Ledger costs

Each dimension has a quantity, a limit for one transaction and a rate. Entries are charged one by
one, bytes by the started KiB. The ledger cost weighs the five utilizations with the weights of the
snapshot.
-/

namespace ResourceMeter

open Arithmetic

variable {α : Type} [Arithmetic α]

namespace LedgerDimension

/-- The quantity that a simulation consumed. -/
def quantity (sim : Simulation) : LedgerDimension → Nat
  | .readEntries => sim.readEntryCount
  | .readBytes => sim.resources.readBytes.toNat
  | .writeEntries => sim.writeEntryCount
  | .writeBytes => sim.resources.writeBytes.toNat
  | .bandwidth => sim.transactionSizeBytes.toNat

/-- The number of units that are charged. -/
def billedUnits (sim : Simulation) : LedgerDimension → Nat
  | .readEntries => sim.readEntryCount
  | .readBytes => (startedUnits sim.resources.readBytes bytesPerFeeUnit).toNat
  | .writeEntries => sim.writeEntryCount
  | .writeBytes => (startedUnits sim.resources.writeBytes bytesPerFeeUnit).toNat
  | .bandwidth => (startedUnits sim.transactionSizeBytes bytesPerFeeUnit).toNat

/-- The name of the limit for one transaction. -/
def limitName : LedgerDimension → String
  | .readEntries => "tx_max_read_ledger_entries"
  | .readBytes => "tx_max_read_bytes"
  | .writeEntries => "tx_max_write_ledger_entries"
  | .writeBytes => "tx_max_write_bytes"
  | .bandwidth => "tx_max_size_bytes"

/-- The limit for one transaction. -/
def limit (limits : Limits) : LedgerDimension → UInt64
  | .readEntries => limits.txMaxReadLedgerEntries
  | .readBytes => limits.txMaxReadBytes
  | .writeEntries => limits.txMaxWriteLedgerEntries
  | .writeBytes => limits.txMaxWriteBytes
  | .bandwidth => limits.txMaxSizeBytes

/-- The fee for one unit. -/
def rate (fees : FeeSchedule α) : LedgerDimension → α
  | .readEntries => fees.feeReadLedgerEntry
  | .readBytes => fees.feeRead1kb
  | .writeEntries => fees.feeWriteLedgerEntry
  | .writeBytes => fees.feeWrite1kb
  | .bandwidth => fees.feeTxSize1kb

end LedgerDimension

namespace LedgerCost

/-- What in the snapshot keeps ledger costs from being computed: the first limit that is zero. -/
def fault? (snapshot : Snapshot α) : Option (ConfigurationFault α) :=
  (LedgerDimension.all.find? fun dimension => dimension.limit snapshot.limits == 0).map
    fun dimension => .zeroLimit dimension.limitName

/-- The cost of ledger access, once nothing is wrong with snapshot and footprint. -/
def compute (sim : Simulation) (snapshot : Snapshot α) : LedgerCost α :=
  let breakdown : LedgerVector α := .ofFn fun dimension =>
    ofCount (dimension.quantity sim) / ofCount (dimension.limit snapshot.limits).toNat
  let feeBreakdown : LedgerVector α := .ofFn fun dimension =>
    ofCount (dimension.billedUnits sim) * dimension.rate snapshot.fees
  let weights := snapshot.tuning.ledgerWeights
  { fee := sum feeBreakdown.toList
    normalized := sum (LedgerDimension.all.map fun dimension =>
      weights.weight dimension * breakdown.get dimension)
    breakdown
    feeBreakdown }

/-- The cost of the ledger access of a simulation; an inconsistent footprint is refused. -/
def of (sim : Simulation) (snapshot : Snapshot α) : Except (Fault α) (LedgerCost α) :=
  match fault? snapshot with
  | some cause => .error (.configuration cause)
  | none =>
    match sim.resources.footprint.conflict? with
    | some conflict => .error (.input (.footprintConflict conflict))
    | none => .ok (compute sim snapshot)

end LedgerCost

end ResourceMeter
