import ResourceMeter.Proofs.HintRanking
import ResourceMeter.Proofs.OverLimit
import ResourceMeter.Proofs.ScoreOrder

/-!
# Analyses are in the order of consumption

`Analysis.Milder` says that one analysis is in no respect worse than another: costs, scores, safety
violations and the severity of the first hint. `Analysis.milder_of_consumed_le` says that in exact
arithmetic this is so if the first simulation consumes no more of anything than the second.

Not every single hint stays when the costs grow, since a range can be left at its upper end. The
table has a more severe rule right above each range, so the first hint does not become milder.
-/

namespace ResourceMeter

open Arithmetic

section
variable {α : Type} [Arithmetic α]

/-- The costs have left the range of a condition at its upper end. -/
def HintCondition.Passed (costs : ResourceCosts α) : HintCondition α → Prop
  | .cpuWithin _ upTo => upTo < costs.cpu.normalized
  | .memoryWithin _ upTo => upTo < costs.memory.normalized
  | _ => False

/-- Nothing is more severe than what is critical. -/
theorem Severity.le_critical (severity : Severity) : severity ≤ .critical := by
  cases severity <;> decide

/-- Behind the upper end of each range of the table another rule holds, which is more severe. -/
theorem HintRule.exists_of_passed {costs : ResourceCosts α} {rule : HintRule α}
    (hrule : rule ∈ table) (h : rule.condition.Passed costs) :
    ∃ next ∈ (table : List (HintRule α)), next.condition.Holds costs ∧
      rule.severity ≤ next.severity := by
  simp only [table, List.mem_cons, List.not_mem_nil, or_false] at hrule
  -- Only the second and the fifth rule have a range; critical rules begin where it ends.
  rcases hrule with rfl | rfl | rfl | rfl | rfl | rfl | rfl | rfl | rfl | rfl | rfl | rfl
  case inr.inl => exact ⟨_, List.mem_of_getElem? (i := 0) rfl, h, Severity.le_critical _⟩
  case inr.inr.inr.inr.inl =>
    exact ⟨_, List.mem_of_getElem? (i := 3) rfl, h, Severity.le_critical _⟩
  all_goals exact h.elim

/-- One analysis is in no respect worse than another one under the same margin. -/
structure Analysis.Milder (margin : α) (a b : Analysis α) : Prop where
  costs : a.costs.AtMost b.costs
  rawScores : b.rawScores.AtMost a.rawScores
  scores : b.scores.AtMost a.scores
  /-- What violates the margin in the first analysis also does in the second. -/
  violations : ∀ violation ∈ SafetyViolation.check a.costs margin,
    ∃ other ∈ SafetyViolation.check b.costs margin, other.dimension = violation.dimension
  /-- What the messages of the first analysis concern is also a concern of the second. -/
  messages : ∀ d : SafetyDimension, a.safetyViolations.any d.concerns = true →
    b.safetyViolations.any d.concerns = true
  /-- Both have a first hint, and that of the second analysis is at least as severe. -/
  hints : ∃ first other,
    (Hint.generate a.costs).head? = some first ∧ a.hints.head? = some first.message ∧
    (Hint.generate b.costs).head? = some other ∧ b.hints.head? = some other.message ∧
    first.severity ≤ other.severity

end

section
variable {exp sqrt : Rat → Rat} {c d : ResourceCosts (Exact exp sqrt)} (h : c.AtMost d)
include h

/-! ## Hints -/

/-- When costs grow, a condition that holds goes on to hold, or its range is left at the upper
end. -/
theorem HintCondition.Holds.holds_or_passed {condition : HintCondition (Exact exp sqrt)}
    (hc : condition.Holds c) : condition.Holds d ∨ condition.Passed d := by
  cases condition with
  | cpuAbove limit => exact .inl (Exact.lt_le_trans hc h.cpu.normalized)
  | cpuWithin above upTo =>
    have habove : above < d.cpu.normalized := Exact.lt_le_trans hc.1 h.cpu.normalized
    by_cases hd : d.cpu.normalized ≤ upTo
    · exact .inl ⟨habove, hd⟩
    · exact .inr (not_le.1 (show ¬ d.cpu.normalized.toRat ≤ upTo.toRat from hd))
  | pressureAbove limit => exact .inl (Exact.lt_le_trans hc h.cpu.pressure)
  | memoryAbove limit => exact .inl (Exact.lt_le_trans hc h.memory.normalized)
  | memoryWithin above upTo =>
    have habove : above < d.memory.normalized := Exact.lt_le_trans hc.1 h.memory.normalized
    by_cases hd : d.memory.normalized ≤ upTo
    · exact .inl ⟨habove, hd⟩
    · exact .inr (not_le.1 (show ¬ d.memory.normalized.toRat ≤ upTo.toRat from hd))
  | ledgerAbove dimension limit => exact .inl (Exact.lt_le_trans hc (h.ledger.breakdown dimension))
  | cpuAndReadEntriesAbove cpu readEntries =>
    exact .inl ⟨Exact.lt_le_trans hc.1 h.cpu.normalized,
      Exact.lt_le_trans hc.2 (h.ledger.breakdown .readEntries)⟩
  | noOtherHint => exact hc.elim

/-- When costs grow, the first hint does not become milder. -/
theorem Hint.first_severity_le {first other : Hint}
    (hfirst : (generate c).head? = some first) (hother : (generate d).head? = some other) :
    first.severity ≤ other.severity := by
  rcases info_or_exists_rule hfirst with hinfo | ⟨rule, hrule, hc, hseverity⟩
  · rw [hinfo]
    exact Nat.zero_le _
  · rw [← hseverity]
    rcases hc.holds_or_passed h with hd | hpassed
    · exact severity_le_of_rule hother hrule hd
    · obtain ⟨next, hnext, hd, hle⟩ := HintRule.exists_of_passed hrule hpassed
      exact Nat.le_trans hle (severity_le_of_rule hother hnext hd)

/-! ## Safety violations -/

/-- When costs grow, a dimension that violates a margin goes on to do so. -/
theorem SafetyViolation.exists_of_mem_check {margin : Exact exp sqrt}
    {violation : SafetyViolation (Exact exp sqrt)} (hc : violation ∈ check c margin) :
    ∃ other ∈ check d margin, other.dimension = violation.dimension := by
  obtain ⟨dimension, hviolated, rfl⟩ := mem_check_iff.1 hc
  have hviolated' := Exact.lt_le_trans hviolated (h.utilization dimension)
  exact ⟨_, mem_check_iff.2 ⟨dimension, hviolated', rfl⟩, rfl⟩

/-! ## Analyses -/

/-- Greater costs make no milder analysis. -/
theorem Analysis.ofCosts_milder (snapshot : Snapshot (Exact exp sqrt))
    (timestamp later : Timestamp) :
    Milder snapshot.tuning.safetyMargin (ofCosts c snapshot timestamp)
      (ofCosts d snapshot later) := by
  have hraw := RawScores.of_antitone h snapshot.tuning.thresholds
  obtain ⟨first, hfirst⟩ := Hint.exists_head?_generate c
  obtain ⟨other, hother⟩ := Hint.exists_head?_generate d
  refine ⟨h, hraw, Scores.of_mono hraw snapshot.tuning.scoreWeights,
    fun violation hviolation => SafetyViolation.exists_of_mem_check h hviolation,
    fun dimension hconcerns => ?_, first, other, hfirst, ?_, hother, ?_,
    Hint.first_severity_le h hfirst hother⟩
  · rw [ofCosts, SafetyDimension.any_concerns_check_iff] at hconcerns ⊢
    exact Exact.lt_le_trans hconcerns (h.utilization dimension)
  · exact Hint.head?_map_message hfirst
  · exact Hint.head?_map_message hother

end

namespace Analysis

variable {exp sqrt : Rat → Rat}

/-- In exact arithmetic no penalty overflows, so only an inconsistent footprint is refused. -/
theorem of_exact {snapshot : Snapshot (Exact exp sqrt)} (hvalid : snapshot.validate = .ok ())
    (sim : Simulation) (hfootprint : sim.resources.footprint.conflict? = none)
    (timestamp : Timestamp) : of sim snapshot timestamp =
      .ok (ofCosts (ResourceCosts.compute sim snapshot) snapshot timestamp) := by
  have hpenalty : penaltyCheck sim snapshot = none := rfl
  exact of_eq_ok hvalid hpenalty hfootprint timestamp

/-- In exact arithmetic, with any exponential function that does not fall, a simulation that
consumes no more of anything than another one has the milder analysis. The snapshot has to be
valid. -/
theorem milder_of_consumed_le (hexp : Monotone exp) {snapshot : Snapshot (Exact exp sqrt)}
    (hvalid : snapshot.validate = .ok ()) {s t : Simulation} {timestamp later : Timestamp}
    {a b : Analysis (Exact exp sqrt)} (hs : of s snapshot timestamp = .ok a)
    (ht : of t snapshot later = .ok b) (h : ∀ d : SafetyDimension, d.consumed s ≤ d.consumed t) :
    Milder snapshot.tuning.safetyMargin a b := by
  obtain ⟨-, rfl⟩ := of_eq_ok_iff.1 hs
  obtain ⟨-, rfl⟩ := of_eq_ok_iff.1 ht
  have hcosts := ResourceCosts.compute_mono h hexp (Snapshot.validate_eq_ok_iff.1 hvalid)
  exact ofCosts_milder hcosts snapshot timestamp later

/-- A call that does nothing, and one that takes all instructions of a ledger. Neither uses memory,
so the exponential function is only applied to zero. -/
theorem milder_of_consumed_le_of_idle :
    let exp : Rat → Rat := fun x => max 1 (1 + x)
    let snapshot : Snapshot (Exact exp id) := Exact.mainnet
    let busy := { Simulation.zero with instructions := 1000000000 }
    exp 0 = 1 ∧ ∃ a b, of .zero snapshot ⟨0, 0⟩ = .ok a ∧ of busy snapshot ⟨0, 0⟩ = .ok b ∧
      a.scores = ⟨100, 100, 100, 100⟩ ∧ b.scores = ⟨0, 100, 100, 60⟩ ∧
      Milder snapshot.tuning.safetyMargin a b := by
  intro exp snapshot busy
  have hexp : Monotone exp := fun x y h => max_le_max le_rfl (add_le_add le_rfl h)
  have hvalid : snapshot.validate = .ok () := Exact.validate_mainnet
  have hidle := of_exact hvalid .zero rfl ⟨0, 0⟩
  have hbusy := of_exact hvalid busy rfl ⟨0, 0⟩
  refine ⟨by decide +kernel, _, _, hidle, hbusy, by decide +kernel, by decide +kernel, ?_⟩
  refine milder_of_consumed_le hexp hvalid hidle hbusy fun d => ?_
  cases d with
  | cpu | memory => decide +kernel
  | ledger d => cases d <;> decide +kernel

end Analysis

end ResourceMeter
