import ResourceMeter.Proofs.AnalysisOrder
import ResourceMeter.Proofs.Binary64Order

/-!
# What a setting of a snapshot can change

The settings of a snapshot fall into groups (`SettingGroup`), and each group has its own outputs in
an analysis. If two snapshots differ only in one group, their analyses of the same simulation differ
only in the outputs of that group (`SettingGroup.analyses_differ_in_outputs`). What carries the
proof is that hints and safety checks read nothing of the costs but shares of limits that no setting
of any group enters (`ResourceCosts.SameShares`).
-/

namespace ResourceMeter

open Arithmetic

variable {α : Type} [Arithmetic α]

/-! ## Groups of settings and their outputs -/

/-- A group of settings of a snapshot. -/
inductive SettingGroup where
  /-- The fee rates and the increment of the instruction fee. -/
  | fees
  | thresholds
  | scoreWeights
  | ledgerWeights
  | ledgerPressureWeight
  | memoryScalingFactor
  /-- The limits for one ledger, without that of instructions. -/
  | ledgerCaps
  | safetyMargin
  deriving DecidableEq

namespace SettingGroup

/-- The first snapshot with the settings of the group from the second one. -/
def replaceSettings (s t : Snapshot α) : SettingGroup → Snapshot α
  | .fees => { s with fees := t.fees }
  | .thresholds => { s with tuning := { s.tuning with thresholds := t.tuning.thresholds } }
  | .scoreWeights => { s with tuning := { s.tuning with scoreWeights := t.tuning.scoreWeights } }
  | .ledgerWeights => { s with tuning := { s.tuning with ledgerWeights := t.tuning.ledgerWeights } }
  | .ledgerPressureWeight =>
    { s with tuning := { s.tuning with ledgerPressureWeight := t.tuning.ledgerPressureWeight } }
  | .memoryScalingFactor =>
    { s with tuning := { s.tuning with memoryScalingFactor := t.tuning.memoryScalingFactor } }
  | .ledgerCaps =>
    { s with
      limits :=
        { s.limits with
          ledgerMaxReadLedgerEntries := t.limits.ledgerMaxReadLedgerEntries
          ledgerMaxReadBytes := t.limits.ledgerMaxReadBytes
          ledgerMaxWriteLedgerEntries := t.limits.ledgerMaxWriteLedgerEntries
          ledgerMaxWriteBytes := t.limits.ledgerMaxWriteBytes
          ledgerMaxTxsSizeBytes := t.limits.ledgerMaxTxsSizeBytes } }
  | .safetyMargin => { s with tuning := { s.tuning with safetyMargin := t.tuning.safetyMargin } }

/-- The first analysis with the outputs of the group from the second one. -/
def replaceOutputs (a b : Analysis α) : SettingGroup → Analysis α
  | .fees =>
    let cpu := { a.costs.cpu with fee := b.costs.cpu.fee, total := b.costs.cpu.total }
    let ledger :=
      { a.costs.ledger with
        fee := b.costs.ledger.fee
        feeBreakdown := b.costs.ledger.feeBreakdown }
    { a with costs := { a.costs with cpu, ledger } }
  | .thresholds => { a with scores := b.scores, rawScores := b.rawScores }
  | .scoreWeights => { a with scores := { a.scores with total := b.scores.total } }
  | .ledgerWeights =>
    let ledger := { a.costs.ledger with normalized := b.costs.ledger.normalized }
    { a with
      costs := { a.costs with ledger }
      scores := { a.scores with ledger := b.scores.ledger, total := b.scores.total }
      rawScores := { a.rawScores with ledger := b.rawScores.ledger } }
  | .ledgerPressureWeight =>
    let cpu := { a.costs.cpu with total := b.costs.cpu.total }
    { a with costs := { a.costs with cpu } }
  | .memoryScalingFactor =>
    let memory := { a.costs.memory with cost := b.costs.memory.cost }
    { a with costs := { a.costs with memory } }
  | .ledgerCaps => a
  | .safetyMargin => { a with safetyViolations := b.safetyViolations }

end SettingGroup

/-! ## What hints and safety checks read -/

/-- Both costs have the same shares of the limits for one transaction, and the same pressure. -/
structure ResourceCosts.SameShares (c d : ResourceCosts α) : Prop where
  cpu : c.cpu.normalized = d.cpu.normalized
  pressure : c.cpu.pressure = d.cpu.pressure
  memory : c.memory.normalized = d.memory.normalized
  breakdown : c.ledger.breakdown = d.ledger.breakdown

section
variable {c d : ResourceCosts α}

/-- A condition of a hint reads shares. -/
theorem HintCondition.measure?_congr (h : c.SameShares d) (condition : HintCondition α) :
    condition.measure? c = condition.measure? d := by
  cases condition <;>
    simp only [measure?, CpuCost.ledgerUtilization, h.cpu, h.pressure, h.memory, h.breakdown]

/-- Costs with the same shares have the same hints. -/
theorem Hint.generate_congr (h : c.SameShares d) : Hint.generate c = Hint.generate d := by
  have hfire : HintRule.fire? c = HintRule.fire? d := by
    funext rule
    unfold HintRule.fire?
    rw [rule.condition.measure?_congr h]
  unfold generate fired
  rw [hfire]

omit [Arithmetic α] in
/-- A safety check reads shares. -/
theorem SafetyDimension.utilization_congr (h : c.SameShares d) :
    utilization c = utilization d := by
  funext dimension
  cases dimension <;> simp only [utilization, h.cpu, h.memory, h.breakdown]

/-- Costs with the same shares have the same violations. -/
theorem SafetyViolation.check_congr (h : c.SameShares d) (margin : α) :
    check c margin = check d margin := by
  unfold check
  rw [SafetyDimension.utilization_congr h]

end

/-! ## Margins in order -/

/-- A number that is at most another one is below everything that is above that one. -/
class LawfulOrder (α : Type) [Arithmetic α] : Prop where
  lt_of_le_of_lt {x y z : α} : x ≤ y → y < z → x < z

instance : LawfulOrder Float where
  lt_of_le_of_lt := Binary64.lt_of_le_of_lt

instance {exp sqrt : Rat → Rat} : LawfulOrder (Exact exp sqrt) where
  lt_of_le_of_lt {x y z} hxy hyz := by
    rw [Exact.le_iff] at hxy
    rw [Exact.lt_iff] at hyz ⊢
    exact hxy.trans_lt hyz

/-- The dimensions that violate a margin violate every smaller one, and are in the same order
there. -/
theorem SafetyViolation.dimensions_sublist [LawfulOrder α] (costs : ResourceCosts α)
    {small great : α} (h : small ≤ great) :
    ((check costs great).map dimension).Sublist ((check costs small).map dimension) := by
  have hdimensions (margin : α) : (check costs margin).map dimension =
      SafetyDimension.all.filter fun d => decide (margin < d.utilization costs) := by
    unfold check
    rw [List.map_map]
    exact List.map_id _
  rw [hdimensions, hdimensions]
  refine List.monotone_filter_right _ fun dimension hgreat => ?_
  rw [decide_eq_true_iff] at hgreat ⊢
  exact LawfulOrder.lt_of_le_of_lt h hgreat

/-! ## Two analyses -/

namespace SettingGroup

variable [Exponential α] (group : SettingGroup) (sim : Simulation) (s t : Snapshot α)
  (timestamp : Timestamp)

/-- No group of settings enters the shares of the costs. -/
theorem sameShares_compute : (ResourceCosts.compute sim s).SameShares
    (ResourceCosts.compute sim (group.replaceSettings s t)) := by
  cases group <;> exact ⟨rfl, rfl, rfl, rfl⟩

/-- After settings of a group were replaced, nothing changes in an analysis but the outputs of the
group. -/
theorem replaceOutputs_ofCosts :
    group.replaceOutputs (.ofCosts (ResourceCosts.compute sim s) s timestamp)
        (.ofCosts (ResourceCosts.compute sim (group.replaceSettings s t))
          (group.replaceSettings s t) timestamp) =
      .ofCosts (ResourceCosts.compute sim (group.replaceSettings s t))
        (group.replaceSettings s t) timestamp := by
  have hshares := group.sameShares_compute sim s t
  have hhints := congrArg (List.map Hint.message) (Hint.generate_congr hshares)
  have hviolations := congrArg (List.map SafetyViolation.message)
    (SafetyViolation.check_congr hshares s.tuning.safetyMargin)
  unfold Analysis.ofCosts
  dsimp only
  cases group with
  | safetyMargin => exact (Analysis.mk.injEq ..).mpr ⟨rfl, rfl, rfl, hhints, rfl, rfl, rfl⟩
  | _ => exact (Analysis.mk.injEq ..).mpr ⟨rfl, rfl, rfl, hhints, hviolations, rfl, rfl⟩

variable {group sim s t timestamp} {a b : Analysis α}

/-- Each group of settings influences only its own outputs. If two snapshots differ only in the
settings of a group and both of them are analysed with the same simulation and time, then the
analyses differ only in the outputs of the group. A greater safety margin is violated by some of the
dimensions that violate the smaller one, in the same order. -/
theorem analyses_differ_in_outputs [LawfulOrder α]
    (ha : Analysis.of sim s timestamp = .ok a) (hb : Analysis.of sim t timestamp = .ok b)
    (h : group.replaceSettings s t = t) :
    let violations (analysis : Analysis α) (snapshot : Snapshot α) : List (SafetyViolation α) :=
      SafetyViolation.check analysis.costs snapshot.tuning.safetyMargin
    group.replaceOutputs a b = b ∧
      a.safetyViolations = (violations a s).map SafetyViolation.message ∧
      b.safetyViolations = (violations b t).map SafetyViolation.message ∧
      (group = .safetyMargin → s.tuning.safetyMargin ≤ t.tuning.safetyMargin →
        ((violations b t).map SafetyViolation.dimension).Sublist
          ((violations a s).map SafetyViolation.dimension)) := by
  obtain ⟨-, rfl⟩ := Analysis.of_eq_ok_iff.1 ha
  obtain ⟨-, rfl⟩ := Analysis.of_eq_ok_iff.1 hb
  intro violations
  refine ⟨?_, rfl, rfl, fun _ hmargins => ?_⟩
  · have hreplaced := group.replaceOutputs_ofCosts sim s t timestamp
    rwa [h] at hreplaced
  · have hshares := group.sameShares_compute sim s t
    rw [h] at hshares
    have hcheck : violations (.ofCosts (ResourceCosts.compute sim t) t timestamp) t =
        SafetyViolation.check (ResourceCosts.compute sim s) t.tuning.safetyMargin :=
      (SafetyViolation.check_congr hshares _).symm
    rw [hcheck]
    exact SafetyViolation.dimensions_sublist _ hmargins

/-- A margin that is no longer violated, and a greater weight of ledger pressure. -/
theorem analyses_differ_in_outputs_of_mainnet :
    let s : Snapshot (Exact id id) := Exact.mainnet
    let lenient : Snapshot (Exact id id) :=
      { s with tuning := { s.tuning with safetyMargin := 0.99 } }
    let strict : Snapshot (Exact id id) :=
      { s with tuning := { s.tuning with ledgerPressureWeight := 2.0 } }
    let sim : Simulation := { Simulation.zero with instructions := 97000000 }
    ∃ a b c, Analysis.of sim s ⟨0, 0⟩ = .ok a ∧ Analysis.of sim lenient ⟨0, 0⟩ = .ok b ∧
      Analysis.of sim strict ⟨0, 0⟩ = .ok c ∧
      a.safetyViolations = ["CPU at 97.0% exceeds 95% safety margin"] ∧ b.safetyViolations = [] ∧
      SettingGroup.safetyMargin.replaceOutputs a b = b ∧
      ((SafetyViolation.check b.costs 0.99).map SafetyViolation.dimension).Sublist
        ((SafetyViolation.check a.costs 0.95).map SafetyViolation.dimension) ∧
      a.costs.cpu.total ≠ c.costs.cpu.total ∧
      SettingGroup.ledgerPressureWeight.replaceOutputs a c = c := by
  intro s lenient strict sim
  have hvalid : s.Valid := Snapshot.validate_eq_ok_iff.1 Exact.validate_mainnet
  have hlenient : lenient.Valid := { hvalid with
    margin_finite := rfl
    margin_positive := by decide +kernel }
  have hstrict : strict.Valid := { hvalid with
    pressureWeight := (Exact.nonNegative_iff _).2 (by decide +kernel) }
  have hok {snapshot : Snapshot (Exact id id)} (h : snapshot.Valid) :=
    Analysis.of_exact (Snapshot.validate_eq_ok_iff.2 h) sim rfl ⟨0, 0⟩
  have hmargins : SettingGroup.safetyMargin.replaceSettings s lenient = lenient := rfl
  have hweights : SettingGroup.ledgerPressureWeight.replaceSettings s strict = strict := rfl
  obtain ⟨hmargin, -, -, hdimensions⟩ :=
    analyses_differ_in_outputs (hok hvalid) (hok hlenient) hmargins
  obtain ⟨hweight, -⟩ := analyses_differ_in_outputs (hok hvalid) (hok hstrict) hweights
  exact ⟨_, _, _, hok hvalid, hok hlenient, hok hstrict, by decide +kernel, by decide +kernel,
    hmargin, hdimensions rfl (by decide +kernel), by decide +kernel, hweight⟩

end SettingGroup

end ResourceMeter
