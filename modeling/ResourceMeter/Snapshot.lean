import ResourceMeter.Snapshot.Limits
import ResourceMeter.Snapshot.Tuning
import ResourceMeter.Text.Blank

/-!
# Configuration snapshots

A `Snapshot` holds the limits, fees and parameters of one configuration epoch under a version tag.
`Snapshot.validate` accepts it or names the first rule that it breaks.
-/

namespace ResourceMeter

variable {α : Type} [Arithmetic α]

/-- The limits, fees and parameters of one epoch. -/
structure Snapshot (α : Type) [Arithmetic α] where
  version : String
  limits : Limits
  fees : FeeSchedule α
  tuning : Tuning α

namespace Snapshot

/-- The first rule that the snapshot breaks. Weight groups and thresholds hold theirs by type. -/
def fault? (snapshot : Snapshot α) : Option (ConfigurationFault α) :=
  (if Text.isBlankText snapshot.version then some .blankVersion else none) <|>
  snapshot.limits.fault? <|> snapshot.fees.fault? <|> snapshot.tuning.fault?

/-- Accepts a snapshot that breaks no rule. -/
def validate (snapshot : Snapshot α) : Except (Fault α) Unit :=
  match snapshot.fault? with
  | none => .ok ()
  | some cause => .error (.configuration cause)

/-- The snapshot, if it is valid. -/
def checked (snapshot : Snapshot α) : Except (Fault α) (Snapshot α) :=
  snapshot.validate.map fun _ => snapshot

/-- The reference values of the main network. -/
def mainnet : Snapshot Float where
  version := "mainnet-v20"
  limits :=
    { txMaxInstructions := 100000000
      ledgerMaxInstructions := 1000000000
      txMemoryLimit := 41943040
      txMaxReadLedgerEntries := 40
      txMaxReadBytes := 200000
      txMaxWriteLedgerEntries := 25
      txMaxWriteBytes := 100000
      ledgerMaxReadLedgerEntries := 20000
      ledgerMaxReadBytes := 100000000
      ledgerMaxWriteLedgerEntries := 10000
      ledgerMaxWriteBytes := 50000000
      txMaxSizeBytes := 100000
      ledgerMaxTxsSizeBytes := 1000000 }
  fees :=
    { instructionsPerFeeIncrement := 10000
      feePerInstructionIncrement := 0.00001
      feeReadLedgerEntry := 0.0001
      feeWriteLedgerEntry := 0.0002
      feeRead1kb := 0.00005
      feeWrite1kb := 0.0001
      feeTxSize1kb := 0.00001 }
  tuning := .standard

end Snapshot

end ResourceMeter
