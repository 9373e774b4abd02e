import ResourceMeter.Proofs.Json.Rewording
import ResourceMeter.Proofs.LawfulRecords
import ResourceMeter.Proofs.SimulationRoundTrip
import ResourceMeter.Proofs.SnapshotRoundTrip

/-!
# Texts that say the same

Simulations and snapshots are read by the names in their objects. Two texts that differ in blanks,
in the order of members, in members that nobody asks for and in optional fields that have their
standard value are read alike, and a text in which a field is there twice or is missing is refused,
at every level (`reworded_texts_are_read_alike`).
-/

namespace ResourceMeter

open Json

/-! ## Simulations -/

/-- How a footprint may be put. -/
def Footprint.wording : Wording :=
  record.wording []

/-- How declared resources may be put. -/
def DeclaredResources.wording : Wording :=
  record.wording [("footprint", Footprint.wording)]

/-- How a simulation may be put. -/
def Simulation.wording : Wording :=
  record.wording [("resources", DeclaredResources.wording)]

/-- A footprint is read by the names of its lists. -/
theorem Footprint.obeys : record.codec.Obeys wording :=
  lawful.obeys (by decide) (List.forall_mem_nil _)

/-- Declared resources are read by name, and so is the footprint in them. -/
theorem DeclaredResources.obeys : record.codec.Obeys wording :=
  lawful.obeys (by decide) <|
    List.forall_mem_singleton.2 ⟨_, rfl, Field.sets_of.obeys Footprint.obeys⟩

/-- A simulation is read by name, and so are the declared resources in it. -/
theorem Simulation.obeys : codec.Obeys wording :=
  lawful.obeys (by decide) <|
    List.forall_mem_singleton.2 ⟨_, rfl, Field.sets_of.obeys DeclaredResources.obeys⟩

/-- An empty list of keys is written as the one that holds when it is left out. -/
theorem Footprint.writesBlank : record.WritesBlank := by
  have hkeys (keys : List String) : (Codec.list .string).ReadsBack keys :=
    Codec.readsBack_list fun key _ => Codec.readsBack_string key
  simp only [Record.WritesBlank, record, List.forall_mem_cons, List.not_mem_nil, false_implies,
    implies_true, and_true]
  exact ⟨fun _ => ⟨_, Field.readsBack_optional (hkeys _), rfl⟩,
    fun _ => ⟨_, Field.readsBack_optional (hkeys _), rfl⟩⟩

/-! ## Snapshots -/

/-- How ledger weights may be put. -/
def LedgerWeights.wording : Wording :=
  (LedgerVector.record "LedgerWeightsRepr").wording []

/-- How thresholds may be put. -/
def Thresholds.wording : Wording :=
  ThresholdsDraft.record.wording []

/-- How score weights may be put. -/
def ScoreWeights.wording : Wording :=
  ScoreWeightsDraft.record.wording []

/-- How the tuning may be put. -/
def Tuning.wording : Wording :=
  record.wording [("ledger_weights", LedgerWeights.wording), ("thresholds", Thresholds.wording),
    ("score_weights", ScoreWeights.wording)]

/-- How limits may be put. -/
def Limits.wording : Wording :=
  record.wording []

/-- How fees may be put. -/
def FeeSchedule.wording : Wording :=
  record.wording []

/-- How a snapshot may be put. -/
def Snapshot.wording : Wording :=
  record.wording [("limits", Limits.wording), ("fees", FeeSchedule.wording),
    ("tuning", Tuning.wording)]

/-- Ledger weights are read by name before they are checked. -/
theorem LedgerWeights.obeys : codec.Obeys wording :=
  ((LedgerVector.lawful _).obeys (by decide) (List.forall_mem_nil _)).checked

/-- Thresholds are read by name before they are checked. -/
theorem Thresholds.obeys : codec.Obeys wording :=
  (ThresholdsDraft.lawful.obeys (by decide) (List.forall_mem_nil _)).checked

/-- Score weights are read by name before they are checked. -/
theorem ScoreWeights.obeys : codec.Obeys wording :=
  (ScoreWeightsDraft.lawful.obeys (by decide) (List.forall_mem_nil _)).checked

/-- The tuning is read by name, and so are the three groups in it. -/
theorem Tuning.obeys : record.codec.Obeys wording := by
  refine lawful.obeys (by decide) ?_
  simp only [List.forall_mem_cons, List.not_mem_nil, false_implies, implies_true, and_true]
  exact ⟨⟨_, rfl, Field.sets_optional.obeys LedgerWeights.obeys⟩,
    ⟨_, rfl, Field.sets_optional.obeys Thresholds.obeys⟩,
    ⟨_, rfl, Field.sets_optional.obeys ScoreWeights.obeys⟩⟩

/-- Limits are read by name. -/
theorem Limits.obeys : record.codec.Obeys wording :=
  lawful.obeys (by decide) (List.forall_mem_nil _)

/-- Fees are read by name. -/
theorem FeeSchedule.obeys : record.codec.Obeys wording :=
  lawful.obeys (by decide) (List.forall_mem_nil _)

/-- A snapshot is read by name, and so are its parts. -/
theorem Snapshot.obeys : codec.Obeys wording := by
  refine lawful.obeys (by decide) ?_
  simp only [List.forall_mem_cons, List.not_mem_nil, false_implies, implies_true, and_true]
  exact ⟨⟨_, rfl, Field.sets_of.obeys Limits.obeys⟩,
    ⟨_, rfl, Field.sets_of.obeys FeeSchedule.obeys⟩,
    ⟨_, rfl, Field.sets_optional.obeys Tuning.obeys⟩⟩

/-- The numbers of the standard tuning are read back. -/
theorem Tuning.readsBack_numbers_standard :
    ∀ x ∈ (standard : Tuning Float).numbers, Codec.float.ReadsBack x := by
  intro x hx
  have hmem : x ∈ Snapshot.mainnet.numbers := List.mem_append_right _ hx
  exact Codec.readsBack_float
    ((Snapshot.validate_eq_ok_iff.1 Snapshot.validate_mainnet).isFinite_numbers x hmem)
    (Snapshot.read_floatText_of_mainnet x hmem)

/-- Each standard value of the tuning is written as the one that holds when it is left out. -/
theorem Tuning.writesBlank : record.WritesBlank := by
  have h := readsBack_numbers_standard
  unfold numbers at h
  simp only [List.forall_mem_append] at h
  obtain ⟨⟨⟨⟨hscales, hledger⟩, hthresholds⟩, hscores⟩, hmargin⟩ := h
  simp only [List.forall_mem_cons] at hscales hmargin
  simp only [Record.WritesBlank, record, List.forall_mem_cons, List.not_mem_nil, false_implies,
    implies_true, and_true]
  exact ⟨fun _ => ⟨_, Field.readsBack_optional hscales.1, rfl⟩,
    fun _ => ⟨_, Field.readsBack_optional hscales.2.1, rfl⟩,
    fun _ => ⟨_, Field.readsBack_optional (LedgerWeights.readsBack hledger), rfl⟩,
    fun _ => ⟨_, Field.readsBack_optional (Thresholds.readsBack hthresholds), rfl⟩,
    fun _ => ⟨_, Field.readsBack_optional (ScoreWeights.readsBack hscores), rfl⟩,
    fun _ => ⟨_, Field.readsBack_optional hmargin.1, rfl⟩⟩

/-- The standard tuning is written as the one that holds when it is left out. -/
theorem Snapshot.writesBlank : record.WritesBlank := by
  simp only [Record.WritesBlank, record, List.forall_mem_cons, List.not_mem_nil, false_implies,
    implies_true, and_true]
  refine ⟨nofun, nofun, nofun, fun _ => ⟨_, Field.readsBack_optional ?_, rfl⟩⟩
  exact Tuning.readsBack Tuning.readsBack_numbers_standard

/-! ## Texts -/

/-- Two texts of which each is the other one in other words are read as the same simulation, or none
of them is, and so for snapshots. A text in which a field is there twice or a required one is
missing is refused. An optional field may be left out instead of being written with its standard
value: an empty list of keys, the standard tuning, and each of its parts by itself. -/
theorem reworded_texts_are_read_alike {α : Type} :
    (∀ {text text' : String} {outline outline' : Outline}, outline.WrittenAs text →
      outline'.WrittenAs text' → Relation.EqvGen Simulation.wording.Change outline outline' →
      ∀ sim, (Simulation.ofText text : Except (Fault α) Simulation) = .ok sim ↔
        (Simulation.ofText text' : Except (Fault α) Simulation) = .ok sim) ∧
    (∀ {text text' : String} {outline outline' : Outline}, outline.WrittenAs text →
      outline'.WrittenAs text' → Relation.EqvGen Snapshot.wording.Change outline outline' →
      ∀ snapshot, Snapshot.ofText text = .ok snapshot ↔ Snapshot.ofText text' = .ok snapshot) ∧
    (∀ {text : String} {outline : Outline}, outline.WrittenAs text →
      Simulation.wording.Flaw outline → ∃ cause,
        (Simulation.ofText text : Except (Fault α) Simulation) =
          .error (.input (.unreadable cause))) ∧
    (∀ {text : String} {outline : Outline}, outline.WrittenAs text →
      Snapshot.wording.Flaw outline → ∃ cause,
        Snapshot.ofText text = .error (.configuration (.unreadable cause))) ∧
    Footprint.record.WritesBlank ∧ Snapshot.record.WritesBlank ∧ Tuning.record.WritesBlank := by
  refine ⟨fun htext htext' hchanges sim => ?_, fun htext htext' hchanges snapshot => ?_,
    fun htext hflaw => ?_, fun htext hflaw => ?_, Footprint.writesBlank, Snapshot.writesBlank,
    Tuning.writesBlank⟩
  · rw [Simulation.ofText_eq_ok_iff, Simulation.ofText_eq_ok_iff]
    exact Simulation.obeys.read_eq_ok_iff htext htext' hchanges sim
  · rw [Snapshot.ofText_eq_ok_iff, Snapshot.ofText_eq_ok_iff]
    exact and_congr_left' (Snapshot.obeys.read_eq_ok_iff htext htext' hchanges snapshot)
  · obtain ⟨cause, hcause⟩ := Simulation.obeys.exists_error htext hflaw
    exact ⟨cause, Simulation.ofText_eq_error hcause⟩
  · obtain ⟨cause, hcause⟩ := Snapshot.obeys.exists_error htext hflaw
    exact ⟨cause, Snapshot.ofText_eq_error hcause⟩

/-- The members of a simulation in reverse order, with a note among them and without the empty list
of keys, are read as the simulation, and the snapshot of the main network is read without its
tuning. A simulation with two counts of instructions is refused, and so is a snapshot without
anything. -/
theorem reworded_texts_are_read_alike_of_reverse :
    let sim : Simulation := ⟨3, 5, ⟨⟨[], ["key"]⟩, 7, 11, 13⟩, 17⟩
    let reworded : Json := .object [("note", .null), ("transactionSizeBytes", .count 17),
      ("resources", .object [("footprint", .object [("readWrite", .list [.string "key"])]),
        ("instructions", .count 7), ("readBytes", .count 11), ("writeBytes", .count 13)]),
      ("memoryBytes", .count 5), ("instructions", .count 3)]
    let repeated : Json := .object [("instructions", .count 3), ("instructions", .count 3)]
    let untuned : List (String × Json) := [("version", .string Snapshot.mainnet.version),
      ("limits", Limits.record.codec.encode Snapshot.mainnet.limits),
      ("fees", FeeSchedule.record.codec.encode Snapshot.mainnet.fees)]
    (Simulation.ofText reworded.compact : Except (Fault Float) Simulation) = .ok sim ∧
    Snapshot.ofText (Json.object untuned).compact = .ok Snapshot.mainnet ∧
    (∃ cause, (Simulation.ofText repeated.compact : Except (Fault Float) Simulation) =
      .error (.input (.unreadable cause))) ∧
    ∃ cause, Snapshot.ofText (Json.object []).compact =
      .error (.configuration (.unreadable cause)) := by
  intro sim reworded repeated untuned
  obtain ⟨hsim, hsnapshot, hsimFlaw, hsnapshotFlaw, -⟩ := reworded_texts_are_read_alike (α := Float)
  have hfootprint : Footprint.wording.Change
      (outline (.object [("readWrite", .list [.string "key"])]))
      (outline (Footprint.record.codec.encode sim.resources.footprint)) :=
    .blank rfl rfl (Record.absent_of_names (by decide)) rfl rfl
  have hresources : DeclaredResources.wording.Change
      (outline (.object [("footprint", .object [("readWrite", .list [.string "key"])]),
        ("instructions", .count 7), ("readBytes", .count 11), ("writeBytes", .count 13)]))
      (outline (DeclaredResources.record.codec.encode sim.resources)) :=
    .part (List.mem_cons_self ..) hfootprint
  have hchanges : Relation.EqvGen Simulation.wording.Change (outline reworded)
      (outline (Simulation.codec.encode sim)) := by
    refine .trans _ _ _ (.symm _ _ (.rel _ _ (.extra rfl (.leaf .null)))) ?_
    refine .trans _ _ _ (.rel _ _ (.order (.swap _ _ _))) ?_
    refine .trans _ _ _ (.rel _ _ (.part (List.mem_cons_self ..) hresources)) ?_
    exact .rel _ _ (.order ((List.Perm.swap _ _ _).trans (List.reverse_perm _).symm))
  have htuning : Relation.EqvGen Snapshot.wording.Change (outline (.object untuned))
      (outline (Snapshot.codec.encode Snapshot.mainnet)) := by
    have hread : Field.ReadsBack Snapshot.mainnet (.optional "tuning" Tuning.record.codec
        (·.tuning) fun t s => { s with tuning := t }) fun s => { s with tuning := .standard } :=
      Field.readsBack_optional (Tuning.readsBack Tuning.readsBack_numbers_standard)
    have htuned : Snapshot.wording.Change (.object (memberOutlines untuned))
        (.object ((.string "tuning", outline (Tuning.record.codec.encode .standard)) ::
          memberOutlines untuned)) :=
      .blank rfl rfl (Record.absent_of_names (by decide)) hread rfl
    exact .trans _ _ _ (.rel _ _ htuned) (.rel _ _ (.order (List.perm_append_singleton _ _).symm))
  refine ⟨?_, ?_, ?_, ?_⟩
  · exact (hsim (writtenAs_compact reworded) (writtenAs_compact (Simulation.codec.encode sim))
      hchanges sim).2 (Simulation.ofText_eq_ok_iff.2 sim.readsBack.read_compact)
  · exact (hsnapshot (writtenAs_compact (.object untuned))
      (writtenAs_compact (Snapshot.codec.encode Snapshot.mainnet)) htuning Snapshot.mainnet).2
      (Snapshot.ofText_of_holds Snapshot.validate_mainnet Snapshot.read_floatText_of_mainnet
        (Document.ofText_compact _))
  · exact hsimFlaw (writtenAs_compact repeated) (.repeated rfl (List.Sublist.refl _))
  · have habsent (part : Outline) : ¬ Snapshot.record.Gives "version" (.object []) part := by
      rintro ⟨⟨⟩⟩
    have hversion : Snapshot.record.field? "version" =
        some (.of "version" .string (·.version) fun v s => { s with version := v }) := rfl
    exact hsnapshotFlaw (writtenAs_compact (.object [])) (.missing hversion rfl habsent)

end ResourceMeter
