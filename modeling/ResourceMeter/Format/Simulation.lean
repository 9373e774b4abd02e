import ResourceMeter.Fault
import ResourceMeter.Json.Record
import ResourceMeter.Simulation

/-!
# The JSON form of simulations

Field names are those of the simulation service. A footprint may leave out a list that is empty; all
other fields are required.
-/

namespace ResourceMeter

open Json

/-- The record of a footprint. -/
def Footprint.record : Record Footprint where
  title := "Footprint"
  blank := ⟨[], []⟩
  fields :=
    [.optional "readOnly" (.list .string) (·.readOnly) fun keys f => { f with readOnly := keys },
     .optional "readWrite" (.list .string) (·.readWrite) fun keys f => { f with readWrite := keys }]

/-- The record of declared resources. -/
def DeclaredResources.record : Record DeclaredResources where
  title := "SorobanResources"
  blank := Simulation.zero.resources
  fields :=
    [.of "footprint" Footprint.record.codec (·.footprint) fun f r => { r with footprint := f },
     .of "instructions" .uint64 (·.instructions) fun n r => { r with instructions := n },
     .of "readBytes" .uint64 (·.readBytes) fun n r => { r with readBytes := n },
     .of "writeBytes" .uint64 (·.writeBytes) fun n r => { r with writeBytes := n }]

/-- The record of a simulation. -/
def Simulation.record : Record Simulation where
  title := "SimulationResult"
  blank := Simulation.zero
  fields :=
    [.of "instructions" .uint64 (·.instructions) fun n s => { s with instructions := n },
     .of "memoryBytes" .uint64 (·.memoryBytes) fun n s => { s with memoryBytes := n },
     .of "resources" DeclaredResources.record.codec (·.resources)
       fun r s => { s with resources := r },
     .of "transactionSizeBytes" .uint64 (·.transactionSizeBytes)
       fun n s => { s with transactionSizeBytes := n }]

namespace Simulation

/-- How simulations are written and read. -/
def codec : Codec Simulation :=
  record.codec

/-- Reads a simulation; a text that holds none is refused as an input. -/
def ofText {α : Type} (text : String) : Except (Fault α) Simulation :=
  match codec.read text with
  | .ok sim => .ok sim
  | .error cause => .error (.input (.unreadable cause))

end Simulation

end ResourceMeter
