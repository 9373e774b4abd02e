import ResourceMeter.Json.Record
import ResourceMeter.Snapshot

/-!
# The JSON form of snapshots

The tuning and each of its fields may be left out, in which case the standard value holds. Weight
groups and thresholds are checked as soon as they have been read; all else is checked once the whole
snapshot has been read.
-/

namespace ResourceMeter

open Json

/-- The record of one number for each ledger dimension. -/
def LedgerVector.record (title : String) : Record (LedgerVector Float) where
  title
  blank := ⟨0.0, 0.0, 0.0, 0.0, 0.0⟩
  fields :=
    [.of "read_entries" .float (·.readEntries) fun x v => { v with readEntries := x },
     .of "read_bytes" .float (·.readBytes) fun x v => { v with readBytes := x },
     .of "write_entries" .float (·.writeEntries) fun x v => { v with writeEntries := x },
     .of "write_bytes" .float (·.writeBytes) fun x v => { v with writeBytes := x },
     .of "bandwidth" .float (·.bandwidth) fun x v => { v with bandwidth := x }]

/-- A rule of the configuration as a check with a reason in words. -/
def ConfigurationFault.reasoned {β : Type} (result : Except (ConfigurationFault Float) β) :
    Except String β :=
  match result with
  | .ok value => .ok value
  | .error cause => .error (Fault.configuration cause).message

/-- Ledger weights, read by name. -/
def LedgerWeights.codec : Codec (LedgerWeights Float) :=
  .checked (LedgerVector.record "LedgerWeightsRepr").codec
    (fun weights => ConfigurationFault.reasoned (LedgerWeights.ofNamed weights)) (·.toNamed)

/-- Three weights of which nothing is known. -/
structure ScoreWeightsDraft where
  cpu : Float
  memory : Float
  ledger : Float

/-- The record of three weights. -/
def ScoreWeightsDraft.record : Record ScoreWeightsDraft where
  title := "ScoreWeightsRepr"
  blank := ⟨0.0, 0.0, 0.0⟩
  fields :=
    [.of "cpu" .float (·.cpu) fun x w => { w with cpu := x },
     .of "memory" .float (·.memory) fun x w => { w with memory := x },
     .of "ledger" .float (·.ledger) fun x w => { w with ledger := x }]

/-- Score weights, read by name. -/
def ScoreWeights.codec : Codec (ScoreWeights Float) :=
  .checked ScoreWeightsDraft.record.codec
    (fun draft => ConfigurationFault.reasoned (ScoreWeights.of draft.cpu draft.memory draft.ledger))
    (fun weights => ⟨weights.cpu, weights.memory, weights.ledger⟩)

/-- Two thresholds of which nothing is known. -/
structure ThresholdsDraft where
  low : Float
  high : Float

/-- The record of two thresholds. -/
def ThresholdsDraft.record : Record ThresholdsDraft where
  title := "ScoringThresholdsRepr"
  blank := ⟨0.0, 0.0⟩
  fields :=
    [.of "low" .float (·.low) fun x t => { t with low := x },
     .of "high" .float (·.high) fun x t => { t with high := x }]

/-- Thresholds, read by name. -/
def Thresholds.codec : Codec (Thresholds Float) :=
  .checked ThresholdsDraft.record.codec
    (fun draft => ConfigurationFault.reasoned (Thresholds.of draft.low draft.high))
    (fun thresholds => ⟨thresholds.low, thresholds.high⟩)

/-- The record of limits. -/
def Limits.record : Record Limits where
  title := "NetworkLimits"
  blank := ⟨0, 0, 0, 0, 0, 0, 0, 0, 0, 0, 0, 0, 0⟩
  fields :=
    [.of "tx_max_instructions" .uint64 (·.txMaxInstructions)
       fun n l => { l with txMaxInstructions := n },
     .of "ledger_max_instructions" .uint64 (·.ledgerMaxInstructions)
       fun n l => { l with ledgerMaxInstructions := n },
     .of "tx_memory_limit" .uint64 (·.txMemoryLimit) fun n l => { l with txMemoryLimit := n },
     .of "tx_max_read_ledger_entries" .uint64 (·.txMaxReadLedgerEntries)
       fun n l => { l with txMaxReadLedgerEntries := n },
     .of "tx_max_read_bytes" .uint64 (·.txMaxReadBytes) fun n l => { l with txMaxReadBytes := n },
     .of "tx_max_write_ledger_entries" .uint64 (·.txMaxWriteLedgerEntries)
       fun n l => { l with txMaxWriteLedgerEntries := n },
     .of "tx_max_write_bytes" .uint64 (·.txMaxWriteBytes)
       fun n l => { l with txMaxWriteBytes := n },
     .of "ledger_max_read_ledger_entries" .uint64 (·.ledgerMaxReadLedgerEntries)
       fun n l => { l with ledgerMaxReadLedgerEntries := n },
     .of "ledger_max_read_bytes" .uint64 (·.ledgerMaxReadBytes)
       fun n l => { l with ledgerMaxReadBytes := n },
     .of "ledger_max_write_ledger_entries" .uint64 (·.ledgerMaxWriteLedgerEntries)
       fun n l => { l with ledgerMaxWriteLedgerEntries := n },
     .of "ledger_max_write_bytes" .uint64 (·.ledgerMaxWriteBytes)
       fun n l => { l with ledgerMaxWriteBytes := n },
     .of "tx_max_size_bytes" .uint64 (·.txMaxSizeBytes) fun n l => { l with txMaxSizeBytes := n },
     .of "ledger_max_txs_size_bytes" .uint64 (·.ledgerMaxTxsSizeBytes)
       fun n l => { l with ledgerMaxTxsSizeBytes := n }]

/-- The record of fees. -/
def FeeSchedule.record : Record (FeeSchedule Float) where
  title := "FeeSchedule"
  blank := ⟨0, 0.0, 0.0, 0.0, 0.0, 0.0, 0.0⟩
  fields :=
    [.of "instructions_per_fee_increment" .uint64 (·.instructionsPerFeeIncrement)
       fun n f => { f with instructionsPerFeeIncrement := n },
     .of "fee_per_instruction_increment" .float (·.feePerInstructionIncrement)
       fun x f => { f with feePerInstructionIncrement := x },
     .of "fee_read_ledger_entry" .float (·.feeReadLedgerEntry)
       fun x f => { f with feeReadLedgerEntry := x },
     .of "fee_write_ledger_entry" .float (·.feeWriteLedgerEntry)
       fun x f => { f with feeWriteLedgerEntry := x },
     .of "fee_read_1kb" .float (·.feeRead1kb) fun x f => { f with feeRead1kb := x },
     .of "fee_write_1kb" .float (·.feeWrite1kb) fun x f => { f with feeWrite1kb := x },
     .of "fee_tx_size_1kb" .float (·.feeTxSize1kb) fun x f => { f with feeTxSize1kb := x }]

/-- The record of the tuning. -/
def Tuning.record : Record (Tuning Float) where
  title := "CostTuning"
  blank := .standard
  fields :=
    [.optional "ledger_pressure_weight" .float (·.ledgerPressureWeight)
       fun x t => { t with ledgerPressureWeight := x },
     .optional "memory_scaling_factor" .float (·.memoryScalingFactor)
       fun x t => { t with memoryScalingFactor := x },
     .optional "ledger_weights" LedgerWeights.codec (·.ledgerWeights)
       fun w t => { t with ledgerWeights := w },
     .optional "thresholds" Thresholds.codec (·.thresholds) fun s t => { t with thresholds := s },
     .optional "score_weights" ScoreWeights.codec (·.scoreWeights)
       fun w t => { t with scoreWeights := w },
     .optional "safety_margin" .float (·.safetyMargin) fun x t => { t with safetyMargin := x }]

/-- The record of a snapshot. -/
def Snapshot.record : Record (Snapshot Float) where
  title := "ConfigSnapshot"
  blank := ⟨"", Limits.record.blank, FeeSchedule.record.blank, .standard⟩
  fields :=
    [.of "version" .string (·.version) fun v s => { s with version := v },
     .of "limits" Limits.record.codec (·.limits) fun l s => { s with limits := l },
     .of "fees" FeeSchedule.record.codec (·.fees) fun f s => { s with fees := f },
     .optional "tuning" Tuning.record.codec (·.tuning) fun t s => { s with tuning := t }]

namespace Snapshot

/-- How snapshots are written and read. -/
def codec : Codec (Snapshot Float) :=
  record.codec

/-- Reads a snapshot and accepts it only if it is valid. -/
def ofText (text : String) : Except (Fault Float) (Snapshot Float) :=
  match codec.read text with
  | .ok snapshot => snapshot.checked
  | .error cause => .error (.configuration (.unreadable cause))

/-- The snapshot as a pretty text. -/
def pretty (snapshot : Snapshot Float) : String :=
  (codec.encode snapshot).pretty

end Snapshot

end ResourceMeter
