import ResourceMeter.Format.Snapshot

/-!
# What validation accepts

`Snapshot.validate` walks through limits, fees and tuning and stops at the first rule that is
broken. `Snapshot.Valid` lists the rules one by one, and `Snapshot.validate_eq_ok_iff` says that
validation accepts exactly the snapshots that keep all of them.
-/

namespace ResourceMeter

open Arithmetic

/-- The check of the limits passes exactly if none of them is zero. -/
theorem Limits.fault?_eq_none_iff {α : Type} {limits : Limits} :
    (limits.fault? : Option (ConfigurationFault α)) = none ↔ ∀ p ∈ limits.named, p.2 ≠ 0 := by
  simp only [fault?, Option.map_eq_none_iff, List.find?_eq_none, beq_iff_eq, ne_eq]

section
variable {α : Type} [Arithmetic α]

/-- A number that is finite and not negative. -/
def NonNegative (x : α) : Prop :=
  isFinite x = true ∧ ¬ x < 0.0

/-- The check of a named number passes exactly if the number is finite and not negative. -/
theorem nonNegativeFault?_eq_none_iff {name : String} {x : α} :
    nonNegativeFault? name x = none ↔ NonNegative x := by
  unfold nonNegativeFault? NonNegative
  rw [ite_eq_right_iff, imp_iff_not (Option.some_ne_none _), not_or, Bool.not_eq_false]

/-- The check of the fees passes exactly if the increment is positive and every rate is finite and
not negative. -/
theorem FeeSchedule.fault?_eq_none_iff {fees : FeeSchedule α} :
    fees.fault? = none ↔
      fees.instructionsPerFeeIncrement ≠ 0 ∧ ∀ p ∈ fees.named, NonNegative p.2 := by
  unfold fault?
  split
  · next h => simp [h]
  · next h =>
    simp only [List.findSome?_eq_none_iff, nonNegativeFault?_eq_none_iff]
    exact ⟨fun hfees => ⟨h, hfees⟩, And.right⟩

/-- The check of the tuning passes exactly if both scales are finite and not negative and the
margin is finite and positive. -/
theorem Tuning.fault?_eq_none_iff {tuning : Tuning α} :
    tuning.fault? = none ↔ NonNegative tuning.ledgerPressureWeight ∧
      NonNegative tuning.memoryScalingFactor ∧
      isFinite tuning.safetyMargin = true ∧ ¬ tuning.safetyMargin ≤ 0.0 := by
  unfold fault?
  simp only [Option.orElse_eq_orElse, Option.orElse_eq_or, Option.or_eq_none_iff,
    nonNegativeFault?_eq_none_iff]
  rw [ite_eq_right_iff, imp_iff_not (Option.some_ne_none _), not_or, Bool.not_eq_false]

/-- A group of weights passes its check exactly if each of them is finite and not negative and
their sum is one, up to the tolerance. -/
theorem weightFault?_eq_none_iff {group : String} {weights : List (String × α)} :
    weightFault? group weights = none ↔ (∀ p ∈ weights, NonNegative p.2) ∧
      ¬ weightTolerance < magnitude (sum (weights.map Prod.snd) - 1.0) := by
  unfold weightFault?
  split
  · next name weight hfind =>
    have hmem : (name, weight) ∈ weights := List.mem_of_find?_eq_some hfind
    have hfault : isWeight weight = false := by
      simpa using List.find?_some hfind
    refine iff_of_false (Option.some_ne_none _) fun h => ?_
    obtain ⟨hfinite, hnonneg⟩ : NonNegative weight := h.1 _ hmem
    simp [isWeight, hfinite, hnonneg] at hfault
  · next hfind =>
    rw [List.find?_eq_none] at hfind
    have hweights : ∀ p ∈ weights, NonNegative p.2 := by
      intro p hp
      have hweight := hfind p hp
      simpa [isWeight, NonNegative] using hweight
    dsimp only
    rw [ite_eq_right_iff, imp_iff_not (Option.some_ne_none _), and_iff_right hweights]

/-- A valid group of ledger weights has no negative ones. -/
theorem LedgerWeights.nonNegative (group : LedgerWeights α) (dimension : LedgerDimension) :
    NonNegative (group.weight dimension) := by
  obtain ⟨hweights, -⟩ := weightFault?_eq_none_iff.1 group.valid
  rw [namedLedgerWeights_eq, List.forall_mem_map] at hweights
  exact hweights dimension dimension.mem_all

/-- Score weights are not negative. -/
theorem ScoreWeights.nonNegative (group : ScoreWeights α) :
    NonNegative group.cpu ∧ NonNegative group.memory ∧ NonNegative group.ledger := by
  obtain ⟨hweights, -⟩ := weightFault?_eq_none_iff.1 group.valid
  simp only [namedScoreWeights, List.forall_mem_cons] at hweights
  exact ⟨hweights.1, hweights.2.1, hweights.2.2.1⟩

namespace Snapshot

/-- The rules that a snapshot keeps beyond those that its type holds. -/
structure Valid (snapshot : Snapshot α) : Prop where
  version : Text.isBlankText snapshot.version = false
  limits : ∀ p ∈ snapshot.limits.named, p.2 ≠ 0
  increment : snapshot.fees.instructionsPerFeeIncrement ≠ 0
  fees : ∀ p ∈ snapshot.fees.named, NonNegative p.2
  pressureWeight : NonNegative snapshot.tuning.ledgerPressureWeight
  scalingFactor : NonNegative snapshot.tuning.memoryScalingFactor
  margin_finite : isFinite snapshot.tuning.safetyMargin = true
  margin_positive : ¬ snapshot.tuning.safetyMargin ≤ 0.0

/-- No rule is broken exactly if each one is kept. -/
theorem fault?_eq_none_iff {snapshot : Snapshot α} : snapshot.fault? = none ↔ snapshot.Valid := by
  unfold fault?
  simp only [Option.orElse_eq_orElse, Option.orElse_eq_or, Option.or_eq_none_iff,
    Limits.fault?_eq_none_iff, FeeSchedule.fault?_eq_none_iff, Tuning.fault?_eq_none_iff]
  rw [ite_eq_right_iff, imp_iff_not (Option.some_ne_none _), Bool.not_eq_true]
  constructor
  · rintro ⟨hversion, hlimits, ⟨hincrement, hfees⟩, hpressure, hscaling, hfinite, hpositive⟩
    exact ⟨hversion, hlimits, hincrement, hfees, hpressure, hscaling, hfinite, hpositive⟩
  · intro h
    exact ⟨h.version, h.limits, ⟨h.increment, h.fees⟩, h.pressureWeight, h.scalingFactor,
      h.margin_finite, h.margin_positive⟩

/-- Validation accepts exactly the snapshots that keep every rule. -/
theorem validate_eq_ok_iff {snapshot : Snapshot α} :
    snapshot.validate = .ok () ↔ snapshot.Valid := by
  rw [← fault?_eq_none_iff]
  unfold validate
  cases snapshot.fault? with
  | none => exact ⟨fun _ => rfl, fun _ => rfl⟩
  | some cause => exact ⟨nofun, nofun⟩

/-- Whether a snapshot keeps every rule can be computed. -/
instance {snapshot : Snapshot α} : Decidable snapshot.Valid :=
  decidable_of_iff (snapshot.fault? = none) fault?_eq_none_iff

instance {snapshot : Snapshot α} : Decidable (snapshot.validate = .ok ()) :=
  decidable_of_iff snapshot.Valid validate_eq_ok_iff.symm

/-- Validation refuses a snapshot with the first rule that is broken. -/
theorem validate_eq_error_iff {snapshot : Snapshot α} {fault : Fault α} :
    snapshot.validate = .error fault ↔
      ∃ cause, snapshot.fault? = some cause ∧ fault = .configuration cause := by
  unfold validate
  cases snapshot.fault? with
  | none => exact ⟨nofun, nofun⟩
  | some cause => simp [eq_comm]

/-- What comes out of the check is the snapshot itself, and valid. -/
theorem checked_eq_ok_iff {snapshot result : Snapshot α} :
    snapshot.checked = .ok result ↔ snapshot = result ∧ snapshot.validate = .ok () := by
  unfold checked
  cases hvalid : snapshot.validate with
  | error fault => exact ⟨nofun, nofun⟩
  | ok _ => exact ⟨fun h => ⟨Except.ok.inj h, rfl⟩, fun h => congrArg Except.ok h.1⟩

/-- A text is accepted as the snapshot that is read from it, if that one is valid. -/
theorem ofText_eq_ok_iff {text : String} {snapshot : Snapshot Float} :
    ofText text = .ok snapshot ↔ codec.read text = .ok snapshot ∧ snapshot.validate = .ok () := by
  unfold ofText
  cases hread : codec.read text with
  | error cause => exact ⟨nofun, nofun⟩
  | ok found =>
    dsimp only
    rw [checked_eq_ok_iff, Except.ok.injEq]
    constructor
    · rintro ⟨rfl, hvalid⟩
      exact ⟨rfl, hvalid⟩
    · rintro ⟨rfl, hvalid⟩
      exact ⟨rfl, hvalid⟩

/-- A snapshot that was read from a text is valid. -/
theorem validate_of_ofText {text : String} {snapshot : Snapshot Float}
    (h : ofText text = .ok snapshot) : snapshot.validate = .ok () :=
  (ofText_eq_ok_iff.1 h).2

/-- The snapshot of the main network is valid. -/
theorem validate_mainnet : mainnet.validate = .ok () :=
  rfl

end Snapshot

end

end ResourceMeter
