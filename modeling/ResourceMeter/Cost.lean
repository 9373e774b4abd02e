import ResourceMeter.LedgerDimension

/-!
# Resource costs

The costs of one simulation in the three dimensions cpu, memory and ledger. A utilization is the
share of a limit that was consumed; it exceeds one when the limit is exceeded, and judging it is
left to scores and safety checks.
-/

namespace ResourceMeter

/-- The cost of instructions. -/
structure CpuCost (α : Type) where
  fee : α
  /-- Utilization of the limit for one transaction. -/
  normalized : α
  /-- Squared utilization of the limit for one ledger. -/
  pressure : α
  /-- The fee with the surcharge for ledger pressure. -/
  total : α
  deriving DecidableEq

/-- The cost of memory, which has no fee. -/
structure MemoryCost (α : Type) where
  bytesUsed : UInt64
  /-- Utilization of the limit for one transaction. -/
  normalized : α
  /-- The penalty. -/
  cost : α
  deriving DecidableEq

/-- The cost of ledger access and bandwidth. -/
structure LedgerCost (α : Type) where
  /-- Sum of the fees of all dimensions. -/
  fee : α
  /-- Weighted sum of the utilizations of all dimensions. -/
  normalized : α
  /-- Utilization of each limit for one transaction. -/
  breakdown : LedgerVector α
  /-- Fee of each dimension. -/
  feeBreakdown : LedgerVector α
  deriving DecidableEq

/-- The costs of one simulation. -/
structure ResourceCosts (α : Type) where
  cpu : CpuCost α
  memory : MemoryCost α
  ledger : LedgerCost α
  deriving DecidableEq

end ResourceMeter
