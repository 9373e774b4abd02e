import ResourceMeter.Command.Run
import ResourceMeter.Proofs.Binary64Groups
import ResourceMeter.Proofs.Json.RoundTrip

/-!
# Snapshots are read back

A valid snapshot is read back from its pretty text, provided that its binary64 numbers are read
back from theirs (`Snapshot.ofText_of_holds`). Version and limits need no such provision. The weight
groups and the thresholds are read as drafts and checked again, which they pass since their types
hold the rule. So what the program shows of a snapshot is a file from which it reads that snapshot.
-/

namespace ResourceMeter

open Json

/-! ## The parts of a snapshot -/

/-- All limits are read back. -/
theorem Limits.readsBack (limits : Limits) : Limits.record.codec.ReadsBack limits := by
  have hcount (n : UInt64) := Codec.readsBack_uint64 n
  exact Record.readsBack (by decide)
    (.cons (Field.readsBack_of (hcount _)) <| .cons (Field.readsBack_of (hcount _)) <|
      .cons (Field.readsBack_of (hcount _)) <| .cons (Field.readsBack_of (hcount _)) <|
      .cons (Field.readsBack_of (hcount _)) <| .cons (Field.readsBack_of (hcount _)) <|
      .cons (Field.readsBack_of (hcount _)) <| .cons (Field.readsBack_of (hcount _)) <|
      .cons (Field.readsBack_of (hcount _)) <| .cons (Field.readsBack_of (hcount _)) <|
      .cons (Field.readsBack_of (hcount _)) <| .cons (Field.readsBack_of (hcount _)) <|
      .cons (Field.readsBack_of (hcount _)) .nil) rfl

/-- Fees are read back if their rates are. -/
theorem FeeSchedule.readsBack {fees : FeeSchedule Float}
    (h : ∀ p ∈ fees.named, Codec.float.ReadsBack p.2) :
    FeeSchedule.record.codec.ReadsBack fees := by
  simp only [named, List.forall_mem_cons] at h
  obtain ⟨hinstruction, hreadEntry, hwriteEntry, hread, hwrite, hsize, -⟩ := h
  exact Record.readsBack (by decide)
    (.cons (Field.readsBack_of (Codec.readsBack_uint64 _)) <|
      .cons (Field.readsBack_of hinstruction) <| .cons (Field.readsBack_of hreadEntry) <|
      .cons (Field.readsBack_of hwriteEntry) <| .cons (Field.readsBack_of hread) <|
      .cons (Field.readsBack_of hwrite) <| .cons (Field.readsBack_of hsize) .nil) rfl

/-- A vector is read back if its numbers are. -/
theorem LedgerVector.readsBack {v : LedgerVector Float} (title : String)
    (h : ∀ x ∈ v.toList, Codec.float.ReadsBack x) :
    (LedgerVector.record title).codec.ReadsBack v := by
  have hnames : (LedgerVector.record title).NamesDiffer := by
    show (LedgerDimension.all.map LedgerDimension.key).Nodup
    decide
  simp only [toList, LedgerDimension.all, List.map_cons, List.forall_mem_cons] at h
  obtain ⟨hreadEntries, hreadBytes, hwriteEntries, hwriteBytes, hbandwidth, -⟩ := h
  exact Record.readsBack hnames
    (.cons (Field.readsBack_of hreadEntries) <| .cons (Field.readsBack_of hreadBytes) <|
      .cons (Field.readsBack_of hwriteEntries) <| .cons (Field.readsBack_of hwriteBytes) <|
      .cons (Field.readsBack_of hbandwidth) .nil) rfl

/-- Ledger weights that are a group are one again when they are read. -/
theorem LedgerWeights.ofNamed_toNamed {α : Type} [Arithmetic α] (group : LedgerWeights α) :
    ofNamed group.toNamed = .ok group := by
  have hweights : ofNamed group.toNamed = of group.weights := by
    refine congrArg of (Vector.toList_inj.1 ?_)
    rw [toList_five group.weights]
    rfl
  rw [hweights]
  unfold of
  split
  · rfl
  · next fault hfault =>
    rw [group.valid] at hfault
    cases hfault

/-- Ledger weights are read back if each of them is. -/
theorem LedgerWeights.readsBack {group : LedgerWeights Float}
    (h : ∀ x ∈ group.weights.toList, Codec.float.ReadsBack x) :
    LedgerWeights.codec.ReadsBack group := by
  rw [toList_weights] at h
  refine Codec.readsBack_checked (LedgerVector.readsBack _ h) ?_
  rw [ofNamed_toNamed]
  rfl

/-- Score weights that are a group are one again when they are read. -/
theorem ScoreWeights.of_self {α : Type} [Arithmetic α] (group : ScoreWeights α) :
    of group.cpu group.memory group.ledger = .ok group := by
  unfold of
  split
  · rfl
  · next fault hfault =>
    rw [group.valid] at hfault
    cases hfault

/-- Score weights are read back if each of them is. -/
theorem ScoreWeights.readsBack {group : ScoreWeights Float}
    (h : ∀ x ∈ [group.cpu, group.memory, group.ledger], Codec.float.ReadsBack x) :
    ScoreWeights.codec.ReadsBack group := by
  simp only [List.forall_mem_cons] at h
  obtain ⟨hcpu, hmemory, hledger, -⟩ := h
  refine Codec.readsBack_checked (Record.readsBack (by decide)
    (.cons (Field.readsBack_of hcpu) <| .cons (Field.readsBack_of hmemory) <|
      .cons (Field.readsBack_of hledger) .nil) rfl) ?_
  rw [of_self]
  rfl

/-- Thresholds are ordered when they are read again. -/
theorem Thresholds.of_self {α : Type} [Arithmetic α] (thresholds : Thresholds α) :
    of thresholds.low thresholds.high = .ok thresholds := by
  unfold of
  rw [dif_pos thresholds.ordered]

/-- Thresholds are read back if both of them are. -/
theorem Thresholds.readsBack {thresholds : Thresholds Float}
    (h : ∀ x ∈ [thresholds.low, thresholds.high], Codec.float.ReadsBack x) :
    Thresholds.codec.ReadsBack thresholds := by
  simp only [List.forall_mem_cons] at h
  obtain ⟨hlow, hhigh, -⟩ := h
  refine Codec.readsBack_checked (Record.readsBack (by decide)
    (.cons (Field.readsBack_of hlow) <| .cons (Field.readsBack_of hhigh) .nil) rfl) ?_
  rw [of_self]
  rfl

/-! ## Snapshots -/

/-- All binary64 numbers of the tuning. -/
def Tuning.numbers (tuning : Tuning Float) : List Float :=
  [tuning.ledgerPressureWeight, tuning.memoryScalingFactor] ++
    tuning.ledgerWeights.weights.toList ++ [tuning.thresholds.low, tuning.thresholds.high] ++
    [tuning.scoreWeights.cpu, tuning.scoreWeights.memory, tuning.scoreWeights.ledger] ++
    [tuning.safetyMargin]

/-- The tuning is read back if its numbers are. -/
theorem Tuning.readsBack {tuning : Tuning Float}
    (h : ∀ x ∈ tuning.numbers, Codec.float.ReadsBack x) :
    Tuning.record.codec.ReadsBack tuning := by
  unfold numbers at h
  simp only [List.forall_mem_append] at h
  obtain ⟨⟨⟨⟨hscales, hledger⟩, hthresholds⟩, hscores⟩, hmargin⟩ := h
  simp only [List.forall_mem_cons] at hscales hmargin
  exact Record.readsBack (by decide)
    (.cons (Field.readsBack_optional hscales.1) <| .cons (Field.readsBack_optional hscales.2.1) <|
      .cons (Field.readsBack_optional (LedgerWeights.readsBack hledger)) <|
      .cons (Field.readsBack_optional (Thresholds.readsBack hthresholds)) <|
      .cons (Field.readsBack_optional (ScoreWeights.readsBack hscores)) <|
      .cons (Field.readsBack_optional hmargin.1) .nil) rfl

namespace Snapshot

/-- All binary64 numbers of a snapshot. -/
def numbers (snapshot : Snapshot Float) : List Float :=
  snapshot.fees.named.map Prod.snd ++ snapshot.tuning.numbers

/-- A snapshot is read back if its numbers are. -/
theorem readsBack {snapshot : Snapshot Float}
    (h : ∀ x ∈ snapshot.numbers, Codec.float.ReadsBack x) : codec.ReadsBack snapshot := by
  unfold numbers at h
  rw [List.forall_mem_append, List.forall_mem_map] at h
  exact Record.readsBack (by decide)
    (.cons (Field.readsBack_of (Codec.readsBack_string _)) <|
      .cons (Field.readsBack_of snapshot.limits.readsBack) <|
      .cons (Field.readsBack_of (FeeSchedule.readsBack h.1)) <|
      .cons (Field.readsBack_optional (Tuning.readsBack h.2)) .nil) rfl

/-- All numbers of a valid snapshot are finite. -/
theorem Valid.isFinite_numbers {snapshot : Snapshot Float} (h : snapshot.Valid) :
    ∀ x ∈ snapshot.numbers, x.isFinite = true := by
  have hledger : ∀ x ∈ snapshot.tuning.ledgerWeights.weights.toList, x.isFinite = true := by
    rw [LedgerWeights.toList_weights, List.forall_mem_map]
    exact fun dimension _ => (snapshot.tuning.ledgerWeights.nonNegative dimension).isFinite
  obtain ⟨hcpu, hmemory, hscore⟩ := snapshot.tuning.scoreWeights.nonNegative
  obtain ⟨hlow, hhigh⟩ := snapshot.tuning.thresholds.isFinite
  have hmargin : snapshot.tuning.safetyMargin.isFinite = true := by
    rw [← Binary64.isFinite_eq]
    exact h.margin_finite
  unfold numbers Tuning.numbers
  simp only [List.forall_mem_append, List.forall_mem_map, List.forall_mem_cons, List.not_mem_nil,
    false_implies, implies_true, and_true]
  exact ⟨fun p hp => (h.fees p hp).isFinite, ⟨⟨⟨⟨h.pressureWeight.isFinite,
    h.scalingFactor.isFinite⟩, hledger⟩, hlow, hhigh⟩, hcpu.isFinite, hmemory.isFinite,
    hscore.isFinite⟩, hmargin⟩

/-- What a command loads is valid. -/
theorem validate_of_loadSnapshot {files : Command.Files} {config : Option String}
    {snapshot : Snapshot Float} (h : Command.loadSnapshot files config = .ok snapshot) :
    snapshot.validate = .ok () := by
  unfold Command.loadSnapshot at h
  split at h
  · cases h
    exact validate_mainnet
  · split at h
    · cases h
    · exact validate_of_ofText h

/-- A text that holds what is written for a valid snapshot is accepted as that snapshot. -/
theorem ofText_of_holds {snapshot : Snapshot Float} (hvalid : snapshot.validate = .ok ())
    (hread : ∀ x ∈ snapshot.numbers, Codec.float.read (floatText x) = .ok x) {text : String}
    (htext : Document.ofText text = ⟨outline (codec.encode snapshot), false⟩) :
    ofText text = .ok snapshot := by
  have hfinite := (validate_eq_ok_iff.1 hvalid).isFinite_numbers
  have hback : codec.ReadsBack snapshot :=
    readsBack fun x hx => Codec.readsBack_float (hfinite x hx) (hread x hx)
  exact ofText_eq_ok_iff.2 ⟨hback.read htext, hvalid⟩

/-- If the texts of its numbers are read as these numbers, a valid snapshot is read back exactly
from its pretty text, and so is every snapshot that was read from some text. What the program shows
of a snapshot as JSON is a configuration file from which it loads the same snapshot. -/
theorem pretty_is_read_back (snapshot : Snapshot Float)
    (hread : ∀ x ∈ snapshot.numbers, Codec.float.read (floatText x) = .ok x) :
    (snapshot.validate = .ok () → ofText snapshot.pretty = .ok snapshot) ∧
    (∀ text, ofText text = .ok snapshot → ofText snapshot.pretty = .ok snapshot) ∧
    ∀ (files : Command.Files) (now : Timestamp) (style : Command.Style) (config : Option String),
      style.json = true → Command.loadSnapshot files config = .ok snapshot →
      ∃ printed, Command.run files now style (.showSnapshot config) = ⟨printed, none⟩ ∧
        ∀ path, Command.loadSnapshot (fun _ => .ok printed) (some path) = .ok snapshot := by
  have hpretty (hvalid : snapshot.validate = .ok ()) : ofText snapshot.pretty = .ok snapshot :=
    ofText_of_holds hvalid hread (Document.ofText_pretty _)
  refine ⟨hpretty, fun text htext => hpretty (validate_of_ofText htext), ?_⟩
  intro files now style config hjson hload
  refine ⟨snapshot.pretty ++ "\n", ?_, fun path => ?_⟩
  · show Command.showFile files style config = _
    unfold Command.showFile
    rw [hload]
    dsimp only
    rw [if_pos hjson]
  · exact ofText_of_holds (validate_of_loadSnapshot hload) hread (Document.ofText_pretty_line _)

/-- The numbers of the main network are read from their texts. -/
theorem read_floatText_of_mainnet :
    ∀ x ∈ mainnet.numbers, Codec.float.read (floatText x) = .ok x := by
  have hnumber {x : Float} {n : Decimal.Numeral}
      (htext : Token.next? (floatText x).toList = some (.number n, []))
      (hvalue : Codec.float.decode (.leaf (.number n)) = .ok x) :
      Codec.float.read (floatText x) = .ok x :=
    (Codec.read_of_next? _ htext).trans hvalue
  show ∀ x ∈ [0.00001, 0.0001, 0.0002, 0.00005, 0.0001, 0.00001, 0.5, 100.0, 0.2, 0.2, 0.2, 0.2,
    0.2, 0.5, 0.8, 0.4, 0.2, 0.4, 0.95], _
  simp only [List.forall_mem_cons, List.not_mem_nil, false_implies, implies_true, and_true]
  refine ⟨?_, ?_, ?_, ?_, ?_, ?_, ?_, ?_, ?_, ?_, ?_, ?_, ?_, ?_, ?_, ?_, ?_, ?_, ?_⟩
  all_goals exact hnumber rfl rfl

/-- The snapshot of the main network is read back. -/
theorem pretty_is_read_back_of_mainnet :
    (∀ x ∈ mainnet.numbers, Codec.float.read (floatText x) = .ok x) ∧
      mainnet.validate = .ok () ∧ ofText mainnet.pretty = .ok mainnet :=
  ⟨read_floatText_of_mainnet, validate_mainnet,
    (pretty_is_read_back mainnet read_floatText_of_mainnet).1 validate_mainnet⟩

end Snapshot

end ResourceMeter
