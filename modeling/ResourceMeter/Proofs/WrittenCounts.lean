import ResourceMeter.Proofs.Json.CountText
import ResourceMeter.Proofs.LawfulRecords
import ResourceMeter.Proofs.SimulationRoundTrip
import ResourceMeter.Proofs.SnapshotRoundTrip

/-!
# Counts are read as they are written

A `CountPlace` is a place in a text where a count stands, together with the count that it is in the
value that is read. The six places of a simulation and the fourteen of a snapshot are listed. What
is read has the counts whose digits stand there, and a text with anything but such digits in one of
the places is refused (`counts_are_as_written`). In between no count is wrapped, rounded or cut
off.
-/

namespace ResourceMeter

open Json

/-! ## Places for counts -/

/-- What is given for a field is spelled within the text. -/
theorem Json.Record.Gives.spelling_subset {σ : Type} {record : Record σ} {name : String}
    {outline part : Outline} (h : record.Gives name outline part) :
    part.spelling ⊆ outline.spelling := by
  cases h with
  | member hmember => exact Outline.spelling_subset_object hmember
  | item _ _ hitem => exact Outline.spelling_subset_list (List.mem_of_getElem? hitem)

/-- A place for a count: which value a text gives there, and what count it is in the value that is
read. -/
structure CountPlace (σ : Type) where
  Gives : Outline → Outline → Prop
  count : σ → UInt64
  spelling_subset : ∀ {outline part}, Gives outline part → part.spelling ⊆ outline.spelling

namespace CountPlace

variable {σ τ : Type}

/-- The place of a field. -/
def field (record : Record σ) (name : String) (count : σ → UInt64) : CountPlace σ where
  Gives := record.Gives name
  count
  spelling_subset := Record.Gives.spelling_subset

/-- A place in a part of a value. -/
def within (record : Record τ) (name : String) (get : τ → σ) (place : CountPlace σ) :
    CountPlace τ where
  Gives := Relation.Comp (record.Gives name) place.Gives
  count value := place.count (get value)
  spelling_subset := fun ⟨_, hpart, hcount⟩ =>
    List.Subset.trans (place.spelling_subset hcount) hpart.spelling_subset

/-- What a text gives at the place is written as the count of the value, and something is given
there. -/
def Writes (place : CountPlace σ) (outline : Outline) (value : σ) : Prop :=
  (∃ part, place.Gives outline part) ∧
    ∀ part, place.Gives outline part → part.IsCount (place.count value).toNat

/-- The codec reads a value only if something is given at the place, and reads it as the count. -/
def ReadBy (place : CountPlace σ) (codec : Codec σ) : Prop :=
  ∀ outline value, codec.decode outline = .ok value →
    (∃ part, place.Gives outline part) ∧
      ∀ part, place.Gives outline part → Codec.uint64.decode part = .ok (place.count value)

/-- The place of a count field is one that the record reads. -/
theorem readBy_field {record : Record σ} (hlawful : record.Lawful) {name : String}
    {get : σ → UInt64} {set : UInt64 → σ → σ}
    (hfield : record.field? name = some (.of name .uint64 get set))
    (hget : ∀ n value, get (set n value) = n) : (field record name get).ReadBy record.codec :=
  fun _ _ h => hlawful.reads_given hfield hget h

/-- A place in a part that the record reads is one that the record reads. -/
theorem ReadBy.within {record : Record τ} (hlawful : record.Lawful) {name : String}
    {codec : Codec σ} {get : τ → σ} {set : σ → τ → τ}
    (hfield : record.field? name = some (.of name codec get set))
    (hget : ∀ part value, get (set part value) = part) {place : CountPlace σ}
    (h : place.ReadBy codec) : (within record name get place).ReadBy record.codec := by
  intro outline value hvalue
  obtain ⟨⟨part, hpart⟩, hall⟩ := hlawful.reads_given hfield hget hvalue
  obtain ⟨⟨count, hcount⟩, -⟩ := h part _ (hall part hpart)
  refine ⟨⟨count, part, hpart, hcount⟩, ?_⟩
  rintro count ⟨part, hpart, hcount⟩
  exact (h part _ (hall part hpart)).2 count hcount

/-- What is read from a text has the counts that are written in the text. -/
theorem exists_writes {places : List (CountPlace σ)} {codec : Codec σ} (hstrict : codec.Strict)
    (hread : ∀ place ∈ places, place.ReadBy codec) {text : String} {value : σ}
    (h : codec.read text = .ok value) :
    ∃ outline : Outline, outline.WrittenAs text ∧ ∀ place ∈ places, place.Writes outline value := by
  obtain ⟨outline, htext, hvalue⟩ := hstrict.read_eq_ok_iff.1 h
  refine ⟨outline, htext, fun place hplace => ?_⟩
  obtain ⟨hexists, hall⟩ := hread place hplace outline value hvalue
  refine ⟨hexists, fun part hpart => ?_⟩
  refine Codec.isCount_of_uint64 (hall part hpart) fun token htoken => ?_
  exact htext.spells.exists_lexeme (place.spelling_subset hpart htoken)

/-- A text that gives no count at a place is refused. -/
theorem ReadBy.exists_error {place : CountPlace σ} {codec : Codec σ} (h : place.ReadBy codec)
    {text : String} {outline part : Outline} (htext : outline.WrittenAs text)
    (hpart : place.Gives outline part) (hnone : part.NoCount) :
    ∃ cause, codec.read text = .error cause :=
  htext.exists_error fun value hvalue => hnone.decode_ne _ ((h outline value hvalue).2 part hpart)

end CountPlace

/-! ## The counts of simulations and snapshots -/

/-- The counts among the declared resources. -/
def DeclaredResources.counts : List (CountPlace DeclaredResources) :=
  [.field record "instructions" (·.instructions), .field record "readBytes" (·.readBytes),
   .field record "writeBytes" (·.writeBytes)]

/-- The counts of a simulation. -/
def Simulation.counts : List (CountPlace Simulation) :=
  [.field record "instructions" (·.instructions), .field record "memoryBytes" (·.memoryBytes),
   .field record "transactionSizeBytes" (·.transactionSizeBytes)] ++
  DeclaredResources.counts.map (.within record "resources" (·.resources))

/-- The limits. -/
def Limits.counts : List (CountPlace Limits) :=
  [.field record "tx_max_instructions" (·.txMaxInstructions),
   .field record "ledger_max_instructions" (·.ledgerMaxInstructions),
   .field record "tx_memory_limit" (·.txMemoryLimit),
   .field record "tx_max_read_ledger_entries" (·.txMaxReadLedgerEntries),
   .field record "tx_max_read_bytes" (·.txMaxReadBytes),
   .field record "tx_max_write_ledger_entries" (·.txMaxWriteLedgerEntries),
   .field record "tx_max_write_bytes" (·.txMaxWriteBytes),
   .field record "ledger_max_read_ledger_entries" (·.ledgerMaxReadLedgerEntries),
   .field record "ledger_max_read_bytes" (·.ledgerMaxReadBytes),
   .field record "ledger_max_write_ledger_entries" (·.ledgerMaxWriteLedgerEntries),
   .field record "ledger_max_write_bytes" (·.ledgerMaxWriteBytes),
   .field record "tx_max_size_bytes" (·.txMaxSizeBytes),
   .field record "ledger_max_txs_size_bytes" (·.ledgerMaxTxsSizeBytes)]

/-- The counts of a snapshot: its limits and the increment of instructions. -/
def Snapshot.counts : List (CountPlace (Snapshot Float)) :=
  Limits.counts.map (.within record "limits" (·.limits)) ++
  [.within record "fees" (·.fees)
    (.field FeeSchedule.record "instructions_per_fee_increment" (·.instructionsPerFeeIncrement))]

/-- Each count of declared resources is read by its own field. -/
theorem DeclaredResources.readBy_of_mem_counts :
    ∀ place ∈ DeclaredResources.counts, place.ReadBy record.codec := by
  simp only [counts, List.forall_mem_cons, List.not_mem_nil, false_implies, implies_true, and_true]
  and_intros
  all_goals exact CountPlace.readBy_field lawful rfl fun _ _ => rfl

/-- Each count of a simulation is read at its own place, those of the declared resources within
them. -/
theorem Simulation.readBy_of_mem_counts : ∀ place ∈ counts, place.ReadBy codec := by
  simp only [counts, List.forall_mem_append, List.forall_mem_cons, List.forall_mem_map,
    List.not_mem_nil, false_implies, implies_true, and_true]
  refine ⟨?_, fun place hplace => ?_⟩
  · and_intros
    all_goals exact CountPlace.readBy_field lawful rfl fun _ _ => rfl
  · exact (DeclaredResources.readBy_of_mem_counts place hplace).within lawful rfl fun _ _ => rfl

/-- Each limit is read by its own field. -/
theorem Limits.readBy_of_mem_counts : ∀ place ∈ counts, place.ReadBy record.codec := by
  simp only [counts, List.forall_mem_cons, List.not_mem_nil, false_implies, implies_true, and_true]
  and_intros
  all_goals exact CountPlace.readBy_field lawful rfl fun _ _ => rfl

/-- Each count of a snapshot is read at its own place among the limits and fees. -/
theorem Snapshot.readBy_of_mem_counts : ∀ place ∈ counts, place.ReadBy codec := by
  simp only [counts, List.forall_mem_append, List.forall_mem_cons, List.forall_mem_map,
    List.not_mem_nil, false_implies, implies_true, and_true]
  refine ⟨fun place hplace => ?_, ?_⟩
  · exact (Limits.readBy_of_mem_counts place hplace).within lawful rfl fun _ _ => rfl
  · exact (CountPlace.readBy_field FeeSchedule.lawful rfl fun _ _ => rfl).within lawful rfl
      fun _ _ => rfl

/-- A simulation that is read from a text has the six counts that the text gives it, each written
as its decimal digits, and a snapshot has the thirteen limits and the increment of instructions that
its text gives it. A text that gives anything else in one of these places, such as a number with a
sign, a fraction or an exponent, a number from `2 ^ 64` on, or no number, is refused as an input or
as a configuration. -/
theorem counts_are_as_written {α : Type} :
    (∀ text sim, (Simulation.ofText text : Except (Fault α) Simulation) = .ok sim →
      ∃ outline : Outline, outline.WrittenAs text ∧
        ∀ place ∈ Simulation.counts, place.Writes outline sim) ∧
    (∀ text (outline : Outline), outline.WrittenAs text → ∀ place ∈ Simulation.counts, ∀ part,
      place.Gives outline part → part.NoCount → ∃ cause,
        (Simulation.ofText text : Except (Fault α) Simulation) =
          .error (.input (.unreadable cause))) ∧
    (∀ text snapshot, Snapshot.ofText text = .ok snapshot →
      ∃ outline : Outline, outline.WrittenAs text ∧
        ∀ place ∈ Snapshot.counts, place.Writes outline snapshot) ∧
    ∀ text (outline : Outline), outline.WrittenAs text → ∀ place ∈ Snapshot.counts, ∀ part,
      place.Gives outline part → part.NoCount → ∃ cause,
        Snapshot.ofText text = .error (.configuration (.unreadable cause)) := by
  refine ⟨fun text sim h => ?_, fun text outline htext place hplace part hpart hnone => ?_,
    fun text snapshot h => ?_, fun text outline htext place hplace part hpart hnone => ?_⟩
  · exact CountPlace.exists_writes Simulation.strict Simulation.readBy_of_mem_counts
      (Simulation.ofText_eq_ok_iff.1 h)
  · obtain ⟨cause, hcause⟩ :=
      (Simulation.readBy_of_mem_counts place hplace).exists_error htext hpart hnone
    exact ⟨cause, Simulation.ofText_eq_error hcause⟩
  · exact CountPlace.exists_writes Snapshot.strict Snapshot.readBy_of_mem_counts
      (Snapshot.ofText_eq_ok_iff.1 h).1
  · obtain ⟨cause, hcause⟩ :=
      (Snapshot.readBy_of_mem_counts place hplace).exists_error htext hpart hnone
    exact ⟨cause, Snapshot.ofText_eq_error hcause⟩

/-- The greatest count, and the snapshot of the main network, are read; one instruction is refused
when it is written with a fraction. -/
theorem counts_are_as_written_of_fraction :
    let greatest : Simulation := ⟨UInt64.ofNat (2 ^ 64 - 1), 0, Simulation.zero.resources, 0⟩
    let fraction : Json := .object [("instructions", .float 1.0)]
    let limits : Json := .object [("limits", .object [("tx_max_instructions", .float 1.0)])]
    (∃ outline : Outline, outline.WrittenAs (Simulation.codec.encode greatest).compact ∧
      ∀ place ∈ Simulation.counts, place.Writes outline greatest) ∧
    (∃ cause, (Simulation.ofText fraction.compact : Except (Fault Float) Simulation) =
      .error (.input (.unreadable cause))) ∧
    (∃ outline : Outline, outline.WrittenAs Snapshot.mainnet.pretty ∧
      ∀ place ∈ Snapshot.counts, place.Writes outline Snapshot.mainnet) ∧
    ∃ cause, Snapshot.ofText limits.compact = .error (.configuration (.unreadable cause)) := by
  intro greatest fraction limits
  obtain ⟨hread, hrefused, hreadSnapshot, hrefusedSnapshot⟩ := counts_are_as_written (α := Float)
  have hpart : (outline (.float 1.0)).NoCount :=
    .fraction (n := ⟨false, [1], [0], none⟩) (List.cons_ne_nil _ _)
  refine ⟨?_, ?_, ?_, ?_⟩
  · exact hread _ _ (Simulation.ofText_eq_ok_iff.2 greatest.readsBack.read_compact)
  · exact hrefused _ _ (writtenAs_compact fraction) _ (List.mem_cons_self ..) _
      (.member (List.mem_cons_self ..)) hpart
  · refine hreadSnapshot _ _ (Snapshot.ofText_of_holds Snapshot.validate_mainnet
      Snapshot.read_floatText_of_mainnet (Document.ofText_pretty _))
  · exact hrefusedSnapshot _ _ (writtenAs_compact limits) _ (List.mem_cons_self ..) _
      ⟨_, .member (List.mem_cons_self ..), .member (List.mem_cons_self ..)⟩ hpart

end ResourceMeter
