import Mathlib.Tactic.Common
import ResourceMeter.Hint

/-!
# Which hints there are, and which comes first

`HintCondition.Holds` says in plain comparisons when a rule of the hint table fires.
`Hint.mem_fired_iff` characterises the hints of the rules that do, and
`Hint.severity_le_of_head?_generate` says that no hint of the ranking is more severe than its first
one.
-/

namespace ResourceMeter

open Arithmetic

variable {α : Type} [Arithmetic α]

/-- What a condition demands of the costs. -/
def HintCondition.Holds (costs : ResourceCosts α) : HintCondition α → Prop
  | .cpuAbove limit => limit < costs.cpu.normalized
  | .cpuWithin above upTo => above < costs.cpu.normalized ∧ costs.cpu.normalized ≤ upTo
  | .pressureAbove limit => limit < costs.cpu.pressure
  | .memoryAbove limit => limit < costs.memory.normalized
  | .memoryWithin above upTo => above < costs.memory.normalized ∧ costs.memory.normalized ≤ upTo
  | .ledgerAbove dimension limit => limit < costs.ledger.breakdown.get dimension
  | .cpuAndReadEntriesAbove cpu readEntries =>
    cpu < costs.cpu.normalized ∧ readEntries < costs.ledger.breakdown.readEntries
  | .noOtherHint => False

/-- A condition has a utilization to report exactly if it holds. -/
theorem HintCondition.isSome_measure?_iff {costs : ResourceCosts α} {condition : HintCondition α} :
    (condition.measure? costs).isSome = true ↔ condition.Holds costs := by
  cases condition <;> simp [measure?, Holds, above?, within?]

namespace Hint

/-- The fired hints are those of the rules that hold, with their severities. -/
theorem mem_fired_iff {costs : ResourceCosts α} {hint : Hint} :
    hint ∈ fired costs ↔ ∃ rule ∈ (HintRule.table : List (HintRule α)),
      rule.fire? costs = some hint :=
  List.mem_filterMap

/-- A fired hint has the severity of a rule that holds. -/
theorem exists_rule_of_mem_fired {costs : ResourceCosts α} {hint : Hint} (h : hint ∈ fired costs) :
    ∃ rule ∈ (HintRule.table : List (HintRule α)),
      rule.condition.Holds costs ∧ rule.severity = hint.severity := by
  obtain ⟨rule, hrule, hfire⟩ := mem_fired_iff.1 h
  obtain ⟨utilization, hmeasure, rfl⟩ := Option.map_eq_some_iff.1 hfire
  refine ⟨rule, hrule, HintCondition.isSome_measure?_iff.1 ?_, rfl⟩
  rw [hmeasure]
  rfl

/-- A rule that holds has a hint, with its severity. -/
theorem exists_mem_fired_of_rule {costs : ResourceCosts α} {rule : HintRule α}
    (hrule : rule ∈ HintRule.table) (h : rule.condition.Holds costs) :
    ∃ hint ∈ fired costs, hint.severity = rule.severity := by
  obtain ⟨utilization, hmeasure⟩ :=
    Option.isSome_iff_exists.1 (HintCondition.isSome_measure?_iff.2 h)
  refine ⟨rule.hint utilization, mem_fired_iff.2 ⟨rule, hrule, ?_⟩, rfl⟩
  unfold HintRule.fire?
  rw [hmeasure]
  rfl

/-- The hints that are ranked: the fired ones, or the one for the case that there are none. -/
def ranked (costs : ResourceCosts α) : List Hint :=
  if (fired costs).isEmpty then [(HintRule.efficient : HintRule α).hint 0.0] else fired costs

/-- Ranking only changes the order. -/
theorem generate_perm (costs : ResourceCosts α) : (generate costs).Perm (ranked costs) :=
  List.mergeSort_perm _ _

/-- There is always something to rank. -/
theorem ranked_ne_nil (costs : ResourceCosts α) : ranked costs ≠ [] := by
  unfold ranked
  split
  · exact List.cons_ne_nil _ _
  · next h => rwa [List.isEmpty_iff] at h

/-- There is always a first hint. -/
theorem exists_head?_generate (costs : ResourceCosts α) :
    ∃ first, (generate costs).head? = some first := by
  have hne : generate costs ≠ [] := fun h =>
    ranked_ne_nil costs (List.Perm.nil_eq (h ▸ generate_perm costs)).symm
  exact ⟨_, List.head?_eq_some_head hne⟩

/-- The first message is that of the first hint. -/
theorem head?_map_message {costs : ResourceCosts α} {first : Hint}
    (hfirst : (generate costs).head? = some first) :
    ((generate costs).map message).head? = some first.message := by
  rw [List.head?_map, hfirst]
  rfl

/-- Ranking before is transitive. -/
theorem rankedBefore_trans (a b c : Hint) (hab : rankedBefore a b = true)
    (hbc : rankedBefore b c = true) : rankedBefore a c = true := by
  unfold rankedBefore at hab hbc ⊢
  rw [decide_eq_true_iff] at hab hbc ⊢
  exact Nat.le_trans hbc hab

/-- Of two hints one is ranked before the other. -/
theorem rankedBefore_total (a b : Hint) : (rankedBefore a b || rankedBefore b a) = true := by
  unfold rankedBefore
  rw [Bool.or_eq_true, decide_eq_true_iff, decide_eq_true_iff]
  exact Nat.le_total ..

/-- Severities never increase along the ranking. -/
theorem pairwise_generate (costs : ResourceCosts α) :
    (generate costs).Pairwise fun hint later => later.severity ≤ hint.severity :=
  have hsorted := List.pairwise_mergeSort rankedBefore_trans rankedBefore_total (ranked costs)
  hsorted.imp fun h => of_decide_eq_true h

/-- No hint is more severe than the first one. -/
theorem severity_le_of_head?_generate {costs : ResourceCosts α} {first hint : Hint}
    (hfirst : (generate costs).head? = some first) (h : hint ∈ generate costs) :
    hint.severity ≤ first.severity := by
  obtain ⟨later, hgenerate⟩ := List.head?_eq_some_iff.1 hfirst
  have hpairwise := pairwise_generate costs
  rw [hgenerate, List.pairwise_cons] at hpairwise
  rw [hgenerate, List.mem_cons] at h
  rcases h with rfl | hlater
  · exact Nat.le_refl _
  · exact hpairwise.1 hint hlater

/-- A rule that holds has no greater severity than the first hint. -/
theorem severity_le_of_rule {costs : ResourceCosts α} {first : Hint} {rule : HintRule α}
    (hfirst : (generate costs).head? = some first) (hrule : rule ∈ HintRule.table)
    (h : rule.condition.Holds costs) : rule.severity ≤ first.severity := by
  obtain ⟨hint, hmem, hseverity⟩ := exists_mem_fired_of_rule hrule h
  have hranked : hint ∈ ranked costs := by
    unfold ranked
    rw [if_neg]
    · exact hmem
    · rw [List.isEmpty_iff]
      exact List.ne_nil_of_mem hmem
  rw [← hseverity]
  exact severity_le_of_head?_generate hfirst ((generate_perm costs).mem_iff.2 hranked)

/-- The first hint is mere information, or a rule that holds has its severity. -/
theorem info_or_exists_rule {costs : ResourceCosts α} {first : Hint}
    (hfirst : (generate costs).head? = some first) :
    first.severity = .info ∨ ∃ rule ∈ (HintRule.table : List (HintRule α)),
      rule.condition.Holds costs ∧ rule.severity = first.severity := by
  have hmem : first ∈ ranked costs :=
    (generate_perm costs).mem_iff.1 (List.mem_of_mem_head? hfirst)
  unfold ranked at hmem
  split at hmem
  · exact .inl (congrArg Hint.severity (List.mem_singleton.1 hmem))
  · exact .inr (exists_rule_of_mem_fired hmem)

end Hint

end ResourceMeter
