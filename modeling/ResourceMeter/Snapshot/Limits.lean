import ResourceMeter.Fault

/-!
# Network limits

Limits on one transaction and on one ledger. All of them have to be positive.
-/

namespace ResourceMeter

/-- The limits of a network. -/
structure Limits where
  txMaxInstructions : UInt64
  ledgerMaxInstructions : UInt64
  /-- Memory of one transaction, in bytes. -/
  txMemoryLimit : UInt64
  txMaxReadLedgerEntries : UInt64
  txMaxReadBytes : UInt64
  txMaxWriteLedgerEntries : UInt64
  txMaxWriteBytes : UInt64
  ledgerMaxReadLedgerEntries : UInt64
  ledgerMaxReadBytes : UInt64
  ledgerMaxWriteLedgerEntries : UInt64
  ledgerMaxWriteBytes : UInt64
  /-- Size of one encoded transaction, in bytes. -/
  txMaxSizeBytes : UInt64
  /-- Size of all transactions of one ledger, in bytes. -/
  ledgerMaxTxsSizeBytes : UInt64
  deriving DecidableEq

namespace Limits

/-- The limits with their names, in the order in which they are checked. -/
def named (limits : Limits) : List (String × UInt64) :=
  [("tx_max_instructions", limits.txMaxInstructions),
   ("ledger_max_instructions", limits.ledgerMaxInstructions),
   ("tx_memory_limit", limits.txMemoryLimit),
   ("tx_max_read_ledger_entries", limits.txMaxReadLedgerEntries),
   ("tx_max_read_bytes", limits.txMaxReadBytes),
   ("tx_max_write_ledger_entries", limits.txMaxWriteLedgerEntries),
   ("tx_max_write_bytes", limits.txMaxWriteBytes),
   ("ledger_max_read_ledger_entries", limits.ledgerMaxReadLedgerEntries),
   ("ledger_max_read_bytes", limits.ledgerMaxReadBytes),
   ("ledger_max_write_ledger_entries", limits.ledgerMaxWriteLedgerEntries),
   ("ledger_max_write_bytes", limits.ledgerMaxWriteBytes),
   ("tx_max_size_bytes", limits.txMaxSizeBytes),
   ("ledger_max_txs_size_bytes", limits.ledgerMaxTxsSizeBytes)]

/-- The first limit that is zero. -/
def fault? {α : Type} (limits : Limits) : Option (ConfigurationFault α) :=
  (limits.named.find? fun (_, limit) => limit == 0).map fun (name, _) => .zeroLimit name

end Limits

end ResourceMeter
