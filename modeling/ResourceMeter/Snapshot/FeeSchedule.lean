import ResourceMeter.Fault

/-!
# Fee schedules

Fee rates in the network's native token. Rates are finite and not negative, and the increment that
an instruction fee covers is positive.
-/

namespace ResourceMeter

open Arithmetic

variable {α : Type} [Arithmetic α]

/-- What is wrong with a named number that has to be finite and not negative. -/
def nonNegativeFault? (name : String) (value : α) : Option (ConfigurationFault α) :=
  if isFinite value = false ∨ value < 0.0 then some (.notNonNegative name value) else none

/-- The fee rates of a network. -/
structure FeeSchedule (α : Type) where
  /-- Instructions that one increment of the instruction fee covers. -/
  instructionsPerFeeIncrement : UInt64
  feePerInstructionIncrement : α
  feeReadLedgerEntry : α
  feeWriteLedgerEntry : α
  /-- Fee for each started KiB that is read. -/
  feeRead1kb : α
  /-- Fee for each started KiB that is written. -/
  feeWrite1kb : α
  /-- Fee for each started KiB of the transaction envelope. -/
  feeTxSize1kb : α
  deriving DecidableEq

namespace FeeSchedule

/-- The rates with their names, in the order in which they are checked. -/
def named (fees : FeeSchedule α) : List (String × α) :=
  [("fee_per_instruction_increment", fees.feePerInstructionIncrement),
   ("fee_read_ledger_entry", fees.feeReadLedgerEntry),
   ("fee_write_ledger_entry", fees.feeWriteLedgerEntry),
   ("fee_read_1kb", fees.feeRead1kb),
   ("fee_write_1kb", fees.feeWrite1kb),
   ("fee_tx_size_1kb", fees.feeTxSize1kb)]

/-- The increment, if it is zero, or else the first rate that is not allowed. -/
def fault? (fees : FeeSchedule α) : Option (ConfigurationFault α) :=
  if fees.instructionsPerFeeIncrement = 0 then
    some (.zeroLimit "instructions_per_fee_increment")
  else fees.named.findSome? fun (name, fee) => nonNegativeFault? name fee

end FeeSchedule

end ResourceMeter
