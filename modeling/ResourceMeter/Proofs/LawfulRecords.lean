import ResourceMeter.Format.Simulation
import ResourceMeter.Format.Snapshot
import ResourceMeter.Proofs.Json.Strict

/-!
# The records of simulations and snapshots are lawful

In each record of a simulation and of a snapshot the fields are updated independently of each other,
and each is read by a strict codec. So a text that is read as one of them is JSON throughout.
-/

namespace ResourceMeter

open Json

/-! ## Simulations -/

/-- The two lists of a footprint are set independently. -/
theorem Footprint.lawful : record.Lawful := by
  simp [Record.Lawful, record]

/-- A footprint is read from lists of strings only. -/
theorem Footprint.strict : record.codec.Strict :=
  Record.strict (by simp [record])

/-- The declared resources are set independently. -/
theorem DeclaredResources.lawful : record.Lawful := by
  simp [Record.Lawful, record]

/-- Declared resources are read from integers and a footprint that is read. -/
theorem DeclaredResources.strict : record.codec.Strict :=
  Record.strict (by simp [record, Footprint.strict])

/-- The consumption and the declared resources of a simulation are set independently. -/
theorem Simulation.lawful : record.Lawful := by
  simp [Record.Lawful, record]

/-- A simulation is read from integers and declared resources that are read. -/
theorem Simulation.strict : codec.Strict :=
  Record.strict (by simp [record, DeclaredResources.strict])

/-! ## Snapshots -/

/-- The five values of a vector are set independently. -/
theorem LedgerVector.lawful (title : String) : (record title).Lawful := by
  simp [Record.Lawful, record]

/-- A vector is read from floats. -/
theorem LedgerVector.strict (title : String) : (record title).codec.Strict :=
  Record.strict (by simp [record])

/-- Ledger weights are read from a vector that passes the check. -/
theorem LedgerWeights.strict : codec.Strict :=
  (LedgerVector.strict _).checked

/-- The three weights of a draft are set independently. -/
theorem ScoreWeightsDraft.lawful : record.Lawful := by
  simp [Record.Lawful, record]

/-- Score weights are read from floats. -/
theorem ScoreWeights.strict : codec.Strict :=
  (Record.strict (by simp [ScoreWeightsDraft.record])).checked

/-- The two thresholds of a draft are set independently. -/
theorem ThresholdsDraft.lawful : record.Lawful := by
  simp [Record.Lawful, record]

/-- Thresholds are read from floats. -/
theorem Thresholds.strict : codec.Strict :=
  (Record.strict (by simp [ThresholdsDraft.record])).checked

/-- The limits of a network are set independently. -/
theorem Limits.lawful : record.Lawful := by
  simp [Record.Lawful, record]

/-- Limits are read from integers. -/
theorem Limits.strict : record.codec.Strict :=
  Record.strict (by simp [record])

/-- The rates of a fee schedule are set independently. -/
theorem FeeSchedule.lawful : record.Lawful := by
  simp [Record.Lawful, record]

/-- A fee schedule is read from integers and floats. -/
theorem FeeSchedule.strict : record.codec.Strict :=
  Record.strict (by simp [record])

/-- The tuning parameters are set independently, whichever of them are there. -/
theorem Tuning.lawful : record.Lawful := by
  simp [Record.Lawful, record]

/-- Tuning parameters are read from floats and from groups of weights that are read. -/
theorem Tuning.strict : record.codec.Strict :=
  Record.strict
    (by simp [record, LedgerWeights.strict, Thresholds.strict, ScoreWeights.strict])

/-- The parts of a snapshot are set independently. -/
theorem Snapshot.lawful : record.Lawful := by
  simp [Record.Lawful, record]

/-- A snapshot is read from a name and parts that are read. -/
theorem Snapshot.strict : codec.Strict :=
  Record.strict (by simp [record, Limits.strict, FeeSchedule.strict, Tuning.strict])

/-! ## Texts -/

/-- A simulation is accepted if it is read. -/
theorem Simulation.ofText_eq_ok_iff {α : Type} {text : String} {sim : Simulation} :
    (ofText text : Except (Fault α) Simulation) = .ok sim ↔ codec.read text = .ok sim := by
  unfold ofText
  cases codec.read text with
  | ok found => exact ⟨fun h => by cases h; rfl, fun h => by cases h; rfl⟩
  | error cause => exact ⟨nofun, nofun⟩

/-- A text from which no simulation is read is refused as an input. -/
theorem Simulation.ofText_eq_error {α : Type} {text : String} {cause : Json.Fault}
    (h : codec.read text = .error cause) :
    (ofText text : Except (Fault α) Simulation) = .error (.input (.unreadable cause)) := by
  unfold ofText
  rw [h]

/-- A text is only refused as an input that is no simulation. -/
theorem Simulation.input_of_ofText {α : Type} {text : String} {fault : Fault α}
    (h : ofText text = .error fault) : ∃ cause, fault = .input (.unreadable cause) := by
  unfold ofText at h
  cases hread : codec.read text with
  | error cause =>
    rw [hread] at h
    cases h
    exact ⟨cause, rfl⟩
  | ok sim =>
    rw [hread] at h
    cases h

/-- A text from which no snapshot is read is refused as a configuration. -/
theorem Snapshot.ofText_eq_error {text : String} {cause : Json.Fault}
    (h : codec.read text = .error cause) :
    ofText text = .error (.configuration (.unreadable cause)) := by
  unfold ofText
  rw [h]

end ResourceMeter
