import ResourceMeter.Format.Simulation
import ResourceMeter.Proofs.Json.RoundTrip

/-!
# Simulations are read back

Whatever its counts and keys are, a simulation is read back from the text that is written for it
(`Simulation.ofText_written`).
-/

namespace ResourceMeter

open Json

/-- Every footprint is read back; a list of keys is written also when it is empty. -/
theorem Footprint.readsBack (footprint : Footprint) :
    Footprint.record.codec.ReadsBack footprint := by
  have hkeys (keys : List String) : (Codec.list .string).ReadsBack keys :=
    Codec.readsBack_list fun key _ => Codec.readsBack_string key
  exact Record.readsBack (by decide)
    (.cons (Field.readsBack_optional (hkeys _)) <|
      .cons (Field.readsBack_optional (hkeys _)) .nil) rfl

/-- All declared resources are read back. -/
theorem DeclaredResources.readsBack (resources : DeclaredResources) :
    DeclaredResources.record.codec.ReadsBack resources := by
  have hcount (n : UInt64) := Codec.readsBack_uint64 n
  exact Record.readsBack (by decide)
    (.cons (Field.readsBack_of resources.footprint.readsBack) <|
      .cons (Field.readsBack_of (hcount _)) <| .cons (Field.readsBack_of (hcount _)) <|
      .cons (Field.readsBack_of (hcount _)) .nil) rfl

namespace Simulation

/-- Every simulation is read back. -/
theorem readsBack (sim : Simulation) : codec.ReadsBack sim := by
  have hcount (n : UInt64) := Codec.readsBack_uint64 n
  exact Record.readsBack (by decide)
    (.cons (Field.readsBack_of (hcount _)) <| .cons (Field.readsBack_of (hcount _)) <|
      .cons (Field.readsBack_of sim.resources.readsBack) <|
      .cons (Field.readsBack_of (hcount _)) .nil) rfl

/-- From its compact and from its pretty text every simulation is read back exactly. -/
theorem ofText_written {α : Type} (sim : Simulation) :
    (ofText (codec.encode sim).compact : Except (Fault α) Simulation) = .ok sim ∧
      (ofText (codec.encode sim).pretty : Except (Fault α) Simulation) = .ok sim := by
  constructor
  · unfold ofText
    rw [sim.readsBack.read_compact]
  · unfold ofText
    rw [sim.readsBack.read_pretty]

end Simulation

end ResourceMeter
