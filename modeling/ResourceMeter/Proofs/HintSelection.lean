import ResourceMeter.Proofs.Binary64Order
import ResourceMeter.Proofs.HintMessages
import ResourceMeter.Proofs.HintRanking

/-!
# Which hints are given, and in what order

`Hint.applying` lists the hints of the rules that apply, in the order of the table; the rule for
the case that no other rule holds applies in that case. `Hint.generate_isRanking` says that the
hints for some costs are these, ranked by severity without changing the order of hints of the same
severity, and what follows for single kinds of hints and for their messages.
-/

namespace ResourceMeter

open Arithmetic

variable {α : Type} [Arithmetic α]

/-! ## Conditions -/

namespace HintCondition

variable {costs : ResourceCosts α}

instance (costs : ResourceCosts α) : DecidablePred (Holds costs)
  | .cpuAbove limit => inferInstanceAs (Decidable (limit < costs.cpu.normalized))
  | .cpuWithin above upTo =>
    inferInstanceAs (Decidable (above < costs.cpu.normalized ∧ costs.cpu.normalized ≤ upTo))
  | .pressureAbove limit => inferInstanceAs (Decidable (limit < costs.cpu.pressure))
  | .memoryAbove limit => inferInstanceAs (Decidable (limit < costs.memory.normalized))
  | .memoryWithin above upTo =>
    inferInstanceAs (Decidable (above < costs.memory.normalized ∧ costs.memory.normalized ≤ upTo))
  | .ledgerAbove dimension limit =>
    inferInstanceAs (Decidable (limit < costs.ledger.breakdown.get dimension))
  | .cpuAndReadEntriesAbove cpu readEntries =>
    inferInstanceAs (Decidable
      (cpu < costs.cpu.normalized ∧ readEntries < costs.ledger.breakdown.readEntries))
  | .noOtherHint => inferInstanceAs (Decidable False)

/-- The utilization that a message reports under a condition. -/
def reported (costs : ResourceCosts α) : HintCondition α → α
  | .cpuAbove _ => costs.cpu.normalized
  | .cpuWithin _ _ => costs.cpu.normalized
  | .pressureAbove _ => costs.cpu.ledgerUtilization
  | .memoryAbove _ => costs.memory.normalized
  | .memoryWithin _ _ => costs.memory.normalized
  | .ledgerAbove dimension _ => costs.ledger.breakdown.get dimension
  | .cpuAndReadEntriesAbove _ _ => costs.cpu.normalized
  | .noOtherHint => 0.0

/-- A condition that holds has its utilization to report, and no other has one. -/
theorem measure?_eq (costs : ResourceCosts α) (condition : HintCondition α) :
    condition.measure? costs =
      if condition.Holds costs then some (condition.reported costs) else none := by
  cases condition with
  | cpuAbove | cpuWithin | memoryAbove | memoryWithin | ledgerAbove
  | cpuAndReadEntriesAbove => rfl
  | pressureAbove limit =>
    show (above? _ _).map _ = if limit < costs.cpu.pressure then _ else _
    unfold above?
    split <;> rfl
  | noOtherHint => exact (if_neg not_false).symm

/-- A condition applies if it holds; that there is no other hint, if nothing else of the table
does. -/
def Applies (costs : ResourceCosts α) : HintCondition α → Prop
  | .noOtherHint => ∀ rule ∈ (HintRule.table : List (HintRule α)), ¬ rule.condition.Holds costs
  | condition => condition.Holds costs

instance (costs : ResourceCosts α) : DecidablePred (Applies costs)
  | .noOtherHint => inferInstanceAs (Decidable
      (∀ rule ∈ (HintRule.table : List (HintRule α)), ¬ rule.condition.Holds costs))
  | .cpuAbove limit => inferInstanceAs (Decidable (Holds costs (.cpuAbove limit)))
  | .cpuWithin above upTo => inferInstanceAs (Decidable (Holds costs (.cpuWithin above upTo)))
  | .pressureAbove limit => inferInstanceAs (Decidable (Holds costs (.pressureAbove limit)))
  | .memoryAbove limit => inferInstanceAs (Decidable (Holds costs (.memoryAbove limit)))
  | .memoryWithin above upTo => inferInstanceAs (Decidable (Holds costs (.memoryWithin above upTo)))
  | .ledgerAbove dimension limit =>
    inferInstanceAs (Decidable (Holds costs (.ledgerAbove dimension limit)))
  | .cpuAndReadEntriesAbove cpu readEntries =>
    inferInstanceAs (Decidable (Holds costs (.cpuAndReadEntriesAbove cpu readEntries)))

/-- Any other condition that applies holds. -/
theorem holds_of_applies {condition : HintCondition α} (hne : condition ≠ .noOtherHint)
    (h : condition.Applies costs) : condition.Holds costs := by
  cases condition with
  | noOtherHint => exact absurd rfl hne
  | _ => exact h

/-- Where some rule holds, the conditions that apply are those that hold. -/
theorem applies_iff_holds {rule : HintRule α} (hrule : rule ∈ HintRule.table)
    (h : rule.condition.Holds costs) (condition : HintCondition α) :
    condition.Applies costs ↔ condition.Holds costs := by
  cases condition with
  | noOtherHint => exact ⟨fun hnone => hnone rule hrule h, False.elim⟩
  | _ => exact Iff.rfl

end HintCondition

/-! ## Hints in table order -/

namespace Hint

variable {costs : ResourceCosts α}

/-- The hints of the rules that apply, in table order. -/
def applying (costs : ResourceCosts α) : List Hint :=
  ((HintRule.table : List (HintRule α)).filter fun rule => rule.condition.Applies costs).map
    fun rule => rule.hint (rule.condition.reported costs)

/-- The fired hints are those of the rules that hold. -/
theorem fired_eq (costs : ResourceCosts α) : fired costs =
    ((HintRule.table : List (HintRule α)).filter fun rule => rule.condition.Holds costs).map
      fun rule => rule.hint (rule.condition.reported costs) := by
  rw [← List.filterMap_eq_filter, List.map_filterMap]
  unfold fired
  congr 1
  funext rule
  unfold HintRule.fire?
  rw [HintCondition.measure?_eq]
  by_cases h : rule.condition.Holds costs <;> simp [h]

/-- The last rule of the table is the one for the case that no other holds. -/
theorem exists_table_eq_concat :
    ∃ front, (HintRule.table : List (HintRule α)) = front ++ [HintRule.efficient] ∧
      ∀ rule ∈ front, rule.condition ≠ .noOtherHint ∧ rule.kind ≠ .efficient := by
  refine ⟨HintRule.table.dropLast, rfl, ?_⟩
  simp [HintRule.table, HintRule.ofDimension]

/-- If no rule holds, only the last one applies. -/
theorem applying_of_forall_not
    (h : ∀ rule ∈ (HintRule.table : List (HintRule α)), ¬ rule.condition.Holds costs) :
    applying costs = [(HintRule.efficient : HintRule α).hint 0.0] := by
  obtain ⟨front, htable, hfront⟩ := exists_table_eq_concat (α := α)
  have hnone : front.filter (fun rule => rule.condition.Applies costs) = [] := by
    refine List.filter_eq_nil_iff.2 fun rule hrule happlies => ?_
    refine h rule ?_ (HintCondition.holds_of_applies (hfront rule hrule).1
      (of_decide_eq_true happlies))
    rw [htable]
    exact List.mem_append_left _ hrule
  have hlast : [(HintRule.efficient : HintRule α)].filter
      (fun rule => rule.condition.Applies costs) = [HintRule.efficient] := by
    refine List.filter_eq_self.2 fun rule hrule => ?_
    rw [List.mem_singleton.1 hrule]
    exact decide_eq_true h
  unfold applying
  rw [htable, List.filter_append, hnone, hlast]
  rfl

/-- Ranked are the hints of the rules that apply. -/
theorem ranked_eq_applying (costs : ResourceCosts α) : ranked costs = applying costs := by
  unfold ranked
  by_cases h : ∃ rule ∈ (HintRule.table : List (HintRule α)), rule.condition.Holds costs
  · obtain ⟨rule, hrule, hholds⟩ := h
    obtain ⟨hint, hmem, -⟩ := exists_mem_fired_of_rule hrule hholds
    rw [if_neg (by simp [List.ne_nil_of_mem hmem]), fired_eq]
    unfold applying
    simp only [HintCondition.applies_iff_holds hrule hholds]
  · have hnone : ∀ rule ∈ (HintRule.table : List (HintRule α)), ¬ rule.condition.Holds costs :=
      fun rule hrule hholds => h ⟨rule, hrule, hholds⟩
    have hfired : fired costs = [] := by
      rw [fired_eq, List.map_eq_nil_iff, List.filter_eq_nil_iff]
      exact fun rule hrule hholds => hnone rule hrule (of_decide_eq_true hholds)
    rw [hfired, applying_of_forall_not hnone]
    rfl

/-- A hint of a rule that applies. -/
theorem mem_applying_iff {hint : Hint} : hint ∈ applying costs ↔
    ∃ rule ∈ (HintRule.table : List (HintRule α)), rule.condition.Applies costs ∧
      rule.hint (rule.condition.reported costs) = hint := by
  simp [applying, and_assoc]

/-! ## The ranking -/

/-- The hints for some costs are those of the rules that apply, in some order. -/
theorem generate_perm_applying (costs : ResourceCosts α) :
    (generate costs).Perm (applying costs) :=
  ranked_eq_applying costs ▸ generate_perm costs

/-- A hint for some costs is that of a rule that applies. -/
theorem mem_generate_iff {hint : Hint} : hint ∈ generate costs ↔
    ∃ rule ∈ (HintRule.table : List (HintRule α)), rule.condition.Applies costs ∧
      rule.hint (rule.condition.reported costs) = hint := by
  rw [(generate_perm_applying costs).mem_iff, mem_applying_iff]

/-- Hints of one severity keep the order of the table. -/
theorem filter_generate (costs : ResourceCosts α) (severity : Severity) :
    (generate costs).filter (fun hint => hint.severity = severity) =
      (applying costs).filter (fun hint => hint.severity = severity) := by
  have hperm := generate_perm_applying costs
  have hequal : ((applying costs).filter fun hint => hint.severity = severity).Pairwise
      fun a b => rankedBefore a b = true := by
    refine List.pairwise_of_forall_mem_list fun a ha b hb => ?_
    have hseverity (hint : Hint)
        (h : hint ∈ (applying costs).filter fun hint => hint.severity = severity) :
        hint.severity = severity := of_decide_eq_true (List.mem_filter.1 h).2
    unfold rankedBefore
    rw [decide_eq_true_iff, hseverity a ha, hseverity b hb]
    exact Nat.le_refl _
  have hsublist : ((applying costs).filter fun hint => hint.severity = severity).Sublist
      (generate costs) := by
    refine List.sublist_mergeSort rankedBefore_trans rankedBefore_total hequal ?_
    show List.Sublist _ (ranked costs)
    rw [ranked_eq_applying]
    exact List.filter_sublist
  have hfiltered := hsublist.filter fun hint => hint.severity = severity
  rw [List.filter_filter] at hfiltered
  simp only [Bool.and_self] at hfiltered
  exact (hfiltered.eq_of_length (hperm.filter _).length_eq.symm).symm

/-- A rule that holds is not the one about efficiency. -/
theorem kind_ne_efficient {rule : HintRule α} (hrule : rule ∈ HintRule.table)
    (h : rule.condition.Holds costs) : rule.kind ≠ .efficient := by
  obtain ⟨front, htable, hfront⟩ := exists_table_eq_concat (α := α)
  rw [htable, List.mem_append, List.mem_singleton] at hrule
  rcases hrule with hrule | rfl
  · exact (hfront rule hrule).2
  · exact h.elim

/-- There is a hint about efficiency exactly if no rule holds. -/
theorem exists_efficient_iff : (∃ hint ∈ applying costs, hint.kind = .efficient) ↔
    ∀ rule ∈ (HintRule.table : List (HintRule α)), ¬ rule.condition.Holds costs := by
  constructor
  · rintro ⟨hint, hhint, hkind⟩ rule hrule hholds
    obtain ⟨other, hother, happlies, rfl⟩ := mem_applying_iff.1 hhint
    have hother' := (HintCondition.applies_iff_holds hrule hholds _).1 happlies
    exact kind_ne_efficient hother hother' hkind
  · intro hnone
    rw [applying_of_forall_not hnone]
    exact ⟨_, List.mem_singleton_self _, rfl⟩

/-- Two rules that do not both apply have at most one hint, if no other rule is of their kinds. -/
theorem countP_applying_le_one {p : HintKind → Bool} {rule other : HintRule α}
    (hpair : (HintRule.table : List (HintRule α)).filter (fun rule => p rule.kind) = [rule, other])
    (hapart : rule.condition.Applies costs → ¬ other.condition.Applies costs) :
    (applying costs).countP (fun hint => p hint.kind) ≤ 1 := by
  have hcount : (applying costs).countP (fun hint => p hint.kind) =
      [rule, other].countP fun rule => decide (rule.condition.Applies costs) := by
    unfold applying
    rw [← hpair, List.countP_map, List.countP_filter, List.countP_filter]
    exact List.countP_congr fun rule _ => by rw [Bool.and_comm]; rfl
  rw [hcount, List.countP_cons, List.countP_singleton]
  by_cases h : rule.condition.Applies costs
  · simp [h, hapart h]
  · simp only [h, decide_false, Bool.false_eq_true, if_false]
    split <;> decide

/-- The two hints about cpu usage exclude each other. -/
theorem countP_cpu_le_one (costs : ResourceCosts Float) :
    (applying costs).countP (fun hint => hint.kind = .criticalCpu ∨ hint.kind = .highCpu) ≤ 1 :=
  countP_applying_le_one (p := fun kind => kind = .criticalCpu ∨ kind = .highCpu) rfl
    fun habove hwithin => Binary64.not_le_of_lt habove hwithin.2

/-- The two hints about memory usage exclude each other. -/
theorem countP_memory_le_one (costs : ResourceCosts Float) :
    (applying costs).countP
      (fun hint => hint.kind = .criticalMemory ∨ hint.kind = .moderateMemory) ≤ 1 :=
  countP_applying_le_one (p := fun kind => kind = .criticalMemory ∨ kind = .moderateMemory) rfl
    fun habove hwithin => Binary64.not_le_of_lt habove hwithin.2

/-- What the hints for some costs are. -/
structure IsRanking (costs : ResourceCosts α) (hints : List Hint) : Prop where
  /-- They are the hints of the rules that apply, in some order. -/
  perm : hints.Perm (applying costs)
  descending : hints.Pairwise fun hint later => later.severity ≤ hint.severity
  /-- Hints of one severity are in table order. -/
  stable : ∀ severity : Severity, hints.filter (fun hint => hint.severity = severity) =
    (applying costs).filter fun hint => hint.severity = severity
  ne_nil : hints ≠ []
  efficient_iff : (∃ hint ∈ hints, hint.kind = .efficient) ↔
    ∀ rule ∈ (HintRule.table : List (HintRule α)), ¬ rule.condition.Holds costs
  efficient_alone : (∃ hint ∈ hints, hint.kind = .efficient) →
    hints = [⟨.efficient, .info, "Excellent resource efficiency!"⟩]
  cpu_once : hints.countP (fun hint => hint.kind = .criticalCpu ∨ hint.kind = .highCpu) ≤ 1
  memory_once :
    hints.countP (fun hint => hint.kind = .criticalMemory ∨ hint.kind = .moderateMemory) ≤ 1
  /-- Messages are the texts of the templates with the placeholders filled in. -/
  filled : ∀ hint ∈ hints, ∃ rule ∈ (HintRule.table : List (HintRule α)),
    rule.condition.Applies costs ∧
      hint.message.toList = rule.filled (rule.condition.reported costs)
  /-- No placeholder is left in a message. -/
  no_placeholder : ∀ hint ∈ hints, ∀ p : Placeholder, ¬ p.text <:+: hint.message.toList

/-- The hints for any costs are those of the rules that apply, the most severe first and otherwise
in table order. Efficiency is praised alone and only if no rule holds, cpu and memory usage have at
most one hint each, and no message has a placeholder left. -/
theorem generate_isRanking (costs : ResourceCosts Float) : IsRanking costs (generate costs) := by
  have hperm := generate_perm_applying costs
  have hefficient : (∃ hint ∈ generate costs, hint.kind = .efficient) ↔
      ∀ rule ∈ (HintRule.table : List (HintRule Float)), ¬ rule.condition.Holds costs := by
    rw [← exists_efficient_iff]
    simp only [hperm.mem_iff]
  refine
    { perm := hperm
      descending := pairwise_generate costs
      stable := filter_generate costs
      ne_nil := fun hnil => ?_
      efficient_iff := hefficient
      efficient_alone := fun h => ?_
      cpu_once := hperm.countP_eq _ ▸ countP_cpu_le_one costs
      memory_once := hperm.countP_eq _ ▸ countP_memory_le_one costs
      filled := fun hint hhint => ?_
      no_placeholder := fun hint hhint p => ?_ }
  · obtain ⟨first, hfirst⟩ := exists_head?_generate costs
    rw [hnil] at hfirst
    cases hfirst
  · rw [applying_of_forall_not (hefficient.1 h)] at hperm
    exact List.perm_singleton.1 hperm
  · obtain ⟨rule, hrule, happlies, rfl⟩ := mem_generate_iff.1 hhint
    exact ⟨rule, hrule, happlies, HintRule.message_eq_filled hrule _⟩
  · obtain ⟨rule, hrule, -, rfl⟩ := mem_generate_iff.1 hhint
    exact HintRule.not_infix_message hrule _ p

end Hint

end ResourceMeter
