import ResourceMeter.Footprint

/-!
# Simulations

A `Simulation` is what one simulated contract call consumed. Counts are 64-bit words; the numbers of
ledger entries are the lengths of the footprint's lists.
-/

namespace ResourceMeter

/-- The resources that a transaction declares. -/
structure DeclaredResources where
  footprint : Footprint
  /-- The declared instruction count, which no cost depends on. -/
  instructions : UInt64
  readBytes : UInt64
  writeBytes : UInt64
  deriving DecidableEq

/-- What one simulated call consumed. -/
structure Simulation where
  instructions : UInt64
  /-- Peak memory, in bytes. -/
  memoryBytes : UInt64
  resources : DeclaredResources
  /-- Size of the encoded transaction envelope. -/
  transactionSizeBytes : UInt64
  deriving DecidableEq

namespace Simulation

/-- A call that consumed nothing. -/
def zero : Simulation :=
  ⟨0, 0, ⟨⟨[], []⟩, 0, 0, 0⟩, 0⟩

/-- The number of entries that are only read. -/
def readEntryCount (sim : Simulation) : Nat :=
  sim.resources.footprint.readOnly.length

/-- The number of entries that are written. -/
def writeEntryCount (sim : Simulation) : Nat :=
  sim.resources.footprint.readWrite.length

end Simulation

end ResourceMeter
