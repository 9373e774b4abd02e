import ResourceMeter.Format.Snapshot
import ResourceMeter.Proofs.Json.Refinement

/-!
# Snapshots of which nothing is known

A `SnapshotDraft` holds what a text says of a snapshot before anything is checked, weight groups and
thresholds included. `Snapshot.codec_refines` says that a text which is read as a snapshot is read
as the draft of that snapshot, so reading never replaces what it finds by something that passes.
-/

namespace ResourceMeter

open Json

/-- Parameters of the model of which nothing is known. -/
structure TuningDraft where
  ledgerPressureWeight : Float
  memoryScalingFactor : Float
  ledgerWeights : LedgerVector Float
  thresholds : ThresholdsDraft
  scoreWeights : ScoreWeightsDraft
  safetyMargin : Float

/-- A snapshot of which nothing is known. -/
structure SnapshotDraft where
  version : String
  limits : Limits
  fees : FeeSchedule Float
  tuning : TuningDraft

/-- The parameters without what their types know. -/
def Tuning.draft (tuning : Tuning Float) : TuningDraft where
  ledgerPressureWeight := tuning.ledgerPressureWeight
  memoryScalingFactor := tuning.memoryScalingFactor
  ledgerWeights := tuning.ledgerWeights.toNamed
  thresholds := ⟨tuning.thresholds.low, tuning.thresholds.high⟩
  scoreWeights := ⟨tuning.scoreWeights.cpu, tuning.scoreWeights.memory, tuning.scoreWeights.ledger⟩
  safetyMargin := tuning.safetyMargin

/-- The snapshot without what its type knows. -/
def Snapshot.draft (snapshot : Snapshot Float) : SnapshotDraft where
  version := snapshot.version
  limits := snapshot.limits
  fees := snapshot.fees
  tuning := snapshot.tuning.draft

/-- The record of the parameters, without the checks of its groups. -/
def TuningDraft.record : Record TuningDraft where
  title := "CostTuning"
  blank := Tuning.standard.draft
  fields :=
    [.optional "ledger_pressure_weight" .float (·.ledgerPressureWeight)
       fun x t => { t with ledgerPressureWeight := x },
     .optional "memory_scaling_factor" .float (·.memoryScalingFactor)
       fun x t => { t with memoryScalingFactor := x },
     .optional "ledger_weights" (LedgerVector.record "LedgerWeightsRepr").codec (·.ledgerWeights)
       fun w t => { t with ledgerWeights := w },
     .optional "thresholds" ThresholdsDraft.record.codec (·.thresholds)
       fun s t => { t with thresholds := s },
     .optional "score_weights" ScoreWeightsDraft.record.codec (·.scoreWeights)
       fun w t => { t with scoreWeights := w },
     .optional "safety_margin" .float (·.safetyMargin) fun x t => { t with safetyMargin := x }]

/-- The record of a snapshot, without the checks of its groups. -/
def SnapshotDraft.record : Record SnapshotDraft where
  title := "ConfigSnapshot"
  blank := ⟨"", Limits.record.blank, FeeSchedule.record.blank, Tuning.standard.draft⟩
  fields :=
    [.of "version" .string (·.version) fun v s => { s with version := v },
     .of "limits" Limits.record.codec (·.limits) fun l s => { s with limits := l },
     .of "fees" FeeSchedule.record.codec (·.fees) fun f s => { s with fees := f },
     .optional "tuning" TuningDraft.record.codec (·.tuning) fun t s => { s with tuning := t }]

/-- How drafts are written and read. -/
def SnapshotDraft.codec : Codec SnapshotDraft :=
  record.codec

/-! ## A checked group is what the text says -/

/-- A rule only accepts or refuses. -/
theorem ConfigurationFault.ok_of_reasoned {β : Type} {result : Except (ConfigurationFault Float) β}
    {value : β} (h : reasoned result = .ok value) : result = .ok value := by
  cases result with
  | ok found =>
    cases h
    rfl
  | error cause => cases h

/-- A group of ledger weights has the weights that were checked. -/
theorem LedgerWeights.weights_of_of {α : Type} [Arithmetic α] {weights : Vector α 5}
    {group : LedgerWeights α} (h : of weights = .ok group) : group.weights = weights := by
  unfold of at h
  split at h
  · cases h
    rfl
  · cases h

/-- A group that was made of weights by name has them by name. -/
theorem LedgerWeights.toNamed_of_ofNamed {α : Type} [Arithmetic α] {v : LedgerVector α}
    {group : LedgerWeights α} (h : ofNamed v = .ok group) : group.toNamed = v := by
  unfold toNamed
  rw [weights_of_of h]
  rfl

/-- A text is read as the ledger weights that it lists. -/
theorem LedgerWeights.codec_refines :
    codec.Refines (LedgerVector.record "LedgerWeightsRepr").codec (·.toNamed) :=
  Codec.refines_checked fun h => toNamed_of_ofNamed (ConfigurationFault.ok_of_reasoned h)

/-- A text is read as the score weights that it lists. -/
theorem ScoreWeights.codec_refines : codec.Refines ScoreWeightsDraft.record.codec
    fun weights => ⟨weights.cpu, weights.memory, weights.ledger⟩ := by
  refine Codec.refines_checked fun {draft weights} h => ?_
  have hweights := ConfigurationFault.ok_of_reasoned h
  unfold of at hweights
  split at hweights
  · cases hweights
    rfl
  · cases hweights

/-- A text is read as the thresholds that it lists. -/
theorem Thresholds.codec_refines : codec.Refines ThresholdsDraft.record.codec
    fun thresholds => ⟨thresholds.low, thresholds.high⟩ := by
  refine Codec.refines_checked fun {draft thresholds} h => ?_
  have hthresholds := ConfigurationFault.ok_of_reasoned h
  unfold of at hthresholds
  split at hthresholds
  · cases hthresholds
    rfl
  · cases hthresholds

/-- A text is read as the parameters that it lists. -/
theorem Tuning.codec_refines : record.codec.Refines TuningDraft.record.codec Tuning.draft :=
  Record.Refines.codec
    { blank := rfl
      fields := .cons (Field.refines_optional (Codec.refines_self _) fun _ _ => rfl) <|
        .cons (Field.refines_optional (Codec.refines_self _) fun _ _ => rfl) <|
        .cons (Field.refines_optional LedgerWeights.codec_refines fun _ _ => rfl) <|
        .cons (Field.refines_optional Thresholds.codec_refines fun _ _ => rfl) <|
        .cons (Field.refines_optional ScoreWeights.codec_refines fun _ _ => rfl) <|
        .cons (Field.refines_optional (Codec.refines_self _) fun _ _ => rfl) .nil }

/-- What is read as a snapshot is read as its draft. -/
theorem Snapshot.codec_refines : codec.Refines SnapshotDraft.codec Snapshot.draft :=
  Record.Refines.codec
    { blank := rfl
      fields := .cons (Field.refines_of (Codec.refines_self _) fun _ _ => rfl) <|
        .cons (Field.refines_of (Codec.refines_self _) fun _ _ => rfl) <|
        .cons (Field.refines_of (Codec.refines_self _) fun _ _ => rfl) <|
        .cons (Field.refines_optional Tuning.codec_refines fun _ _ => rfl) .nil }

end ResourceMeter
