import ResourceMeter.Proofs.AnalysisFaults
import ResourceMeter.Proofs.Consumption
import ResourceMeter.Proofs.HintSelection

/-!
# Violations of the safety margin have hints

Safety and hints each hold the utilizations against limits of their own. Every dimension has a rule
in the hint table whose condition holds above a utilization of 0.8 (`HintRule.exists_warning`), so
no violation above it goes without its hint, and with a margin that high no analysis praises its
efficiency next to a violation (`Analysis.violations_have_hints`).
-/

namespace ResourceMeter

open Arithmetic

/-! ## Hints that warn of a dimension -/

/-- Nothing but the two greatest severities is at least high. -/
theorem Severity.high_le_iff {severity : Severity} :
    .high ≤ severity ↔ severity = .high ∨ severity = .critical := by
  cases severity <;> decide

/-- A hint that warns of a dimension. The hints about ledger dimensions are all of one kind, and the
label in the message tells them apart. -/
def Hint.WarnsOf (hint : Hint) : SafetyDimension → Prop
  | .cpu => hint.kind = .criticalCpu
  | .memory => hint.kind = .criticalMemory
  | .ledger dimension => hint.kind = .highLedger ∧ dimension.label.toList <:+: hint.message.toList

/-- The message about one ledger dimension names no other. -/
theorem LedgerDimension.label_apart : ∀ d ∈ all, ∀ e ∈ all,
    e.label.toList <:+: ("HIGH " ++ d.label ++ ". Consider batching or compression.").toList →
      e = d := by
  decide +kernel

namespace HintRule

section
variable {α : Type} [Arithmetic α]

/-- The message of the rule for a ledger dimension. -/
theorem message_ofDimension (d : LedgerDimension) (utilization : α) :
    ((ofDimension d).hint utilization).message =
      "HIGH " ++ d.label ++ ". Consider batching or compression." := by
  cases d <;> rfl

/-- The hint of the rule for a ledger dimension warns of it, and of nothing else. -/
theorem warnsOf_ofDimension_iff {d : LedgerDimension} {utilization : α} {e : SafetyDimension} :
    ((ofDimension d).hint utilization).WarnsOf e ↔ e = .ledger d := by
  constructor
  · intro h
    cases e with
    | cpu => cases h
    | memory => cases h
    | ledger e =>
      obtain ⟨-, hlabel⟩ := h
      rw [message_ofDimension] at hlabel
      rw [LedgerDimension.label_apart d d.mem_all e e.mem_all hlabel]
  · rintro rfl
    refine ⟨rfl, ?_⟩
    rw [message_ofDimension, String.toList_append, String.toList_append]
    exact List.infix_append _ _ _

end

variable {costs : ResourceCosts Float}

/-- Above a utilization of 0.8 a severe rule holds whose hint warns of the dimension, and of
nothing else. -/
theorem exists_warning {d : SafetyDimension} (h : 0.8 < d.utilization costs) :
    ∃ rule ∈ (table : List (HintRule Float)), rule.condition.Holds costs ∧
      Severity.high ≤ rule.severity ∧
      ∀ utilization e, (rule.hint utilization).WarnsOf e ↔ e = d := by
  cases d with
  | cpu =>
    refine ⟨_, List.mem_of_getElem? (i := 0) rfl, h, by decide, fun _ e => ?_⟩
    cases e <;> simp [Hint.WarnsOf, hint]
  | memory =>
    have hlimit : (0.7 : Float) ≤ 0.8 := by decide +kernel
    refine ⟨_, List.mem_of_getElem? (i := 3) rfl, Binary64.lt_of_le_of_lt hlimit h, by decide,
      fun _ e => ?_⟩
    cases e <;> simp [Hint.WarnsOf, hint]
  | ledger d =>
    have hlimit : (0.75 : Float) ≤ 0.8 := by decide +kernel
    have hrule : ofDimension d ∈ (table : List (HintRule Float)) := by
      cases d <;> simp [table]
    exact ⟨_, hrule, Binary64.lt_of_le_of_lt hlimit h, Nat.le_refl _,
      fun _ _ => warnsOf_ofDimension_iff⟩

end HintRule

/-! ## The praise of efficiency -/

namespace HintRule

variable {α : Type} [Arithmetic α]

/-- The text with which a template begins. -/
def Outline.opening (entry : Outline) : List Char :=
  match entry.template with
  | .text s :: _ => s.toList
  | _ => []

/-- A message begins with the opening of its template. -/
theorem opening_prefix_message (rule : HintRule α) (utilization : α) :
    rule.outline.opening <+: (rule.hint utilization).message.toList := by
  rw [toList_message]
  unfold Outline.opening
  split
  · next s pieces htemplate =>
    have hrule : rule.template = .text s :: pieces := htemplate
    rw [hrule, List.flatMap_cons]
    exact List.prefix_append _ _
  · exact List.nil_prefix

/-- Only the rule about efficiency praises it. -/
theorem message_ne_praise {rule : HintRule α} (hrule : rule ∈ table)
    (hkind : rule.kind ≠ .efficient) (utilization : α) :
    (rule.hint utilization).message ≠ "Excellent resource efficiency!" := by
  have htable : ∀ entry ∈ (table : List (HintRule Float)).map outline, entry.kind ≠ .efficient →
      ¬ entry.opening <+: "Excellent resource efficiency!".toList := by
    decide +kernel
  intro hmessage
  have hopening := opening_prefix_message rule utilization
  rw [hmessage] at hopening
  exact of_mem_table htable hrule hkind hopening

end HintRule

namespace Hint

/-- Where a rule holds, no hint praises the efficiency. -/
theorem message_ne_praise {α : Type} [Arithmetic α] {costs : ResourceCosts α} {rule : HintRule α}
    (hrule : rule ∈ HintRule.table) (h : rule.condition.Holds costs) {hint : Hint}
    (hhint : hint ∈ generate costs) : hint.message ≠ "Excellent resource efficiency!" := by
  obtain ⟨other, hother, happlies, rfl⟩ := mem_generate_iff.1 hhint
  have hholds := (HintCondition.applies_iff_holds hrule h _).1 happlies
  exact HintRule.message_ne_praise hother (kind_ne_efficient hother hholds) _

end Hint

/-! ## Violations -/

namespace SafetyViolation

/-- A violation with a utilization above 0.8 has a hint that warns of its dimension and of no
other. -/
theorem exists_hint {costs : ResourceCosts Float} {margin : Float}
    {violation : SafetyViolation Float} (h : violation ∈ check costs margin)
    (habove : 0.8 < violation.utilization) :
    ∃ hint ∈ Hint.generate costs, ∀ d, hint.WarnsOf d ↔ d = violation.dimension := by
  obtain ⟨d, -, rfl⟩ := mem_check_iff.1 h
  obtain ⟨rule, hrule, hholds, -, hwarns⟩ := HintRule.exists_warning habove
  have happlies := (HintCondition.applies_iff_holds hrule hholds _).2 hholds
  exact ⟨_, Hint.mem_generate_iff.2 ⟨rule, hrule, happlies, rfl⟩, hwarns _⟩

end SafetyViolation

namespace Analysis

/-- Next to a violation of a margin of at least 0.8 the efficiency is not praised, and the first
hint is severe. -/
theorem severe_of_violations {costs : ResourceCosts Float} {snapshot : Snapshot Float}
    {timestamp : Timestamp} (hmargin : 0.8 ≤ snapshot.tuning.safetyMargin)
    (h : (ofCosts costs snapshot timestamp).safetyViolations ≠ []) :
    "Excellent resource efficiency!" ∉ (ofCosts costs snapshot timestamp).hints ∧
      ∃ first, (Hint.generate costs).head? = some first ∧
        (first.severity = .high ∨ first.severity = .critical) := by
  obtain ⟨violation, hviolation⟩ := List.exists_mem_of_ne_nil _ (mt List.map_eq_nil_iff.2 h)
  obtain ⟨d, hd, -⟩ := SafetyViolation.mem_check_iff.1 hviolation
  obtain ⟨rule, hrule, hholds, hsevere, -⟩ :=
    HintRule.exists_warning (Binary64.lt_of_le_of_lt hmargin hd)
  obtain ⟨first, hfirst⟩ := Hint.exists_head?_generate costs
  refine ⟨fun hpraise => ?_, first, hfirst, Severity.high_le_iff.1 ?_⟩
  · obtain ⟨hint, hhint, hmessage⟩ := List.mem_map.1 hpraise
    exact Hint.message_ne_praise hrule hholds hhint hmessage
  · exact Nat.le_trans hsevere (Hint.severity_le_of_rule hfirst hrule hholds)

/-- Safety and hints do not contradict each other. Every violation with a utilization above 0.8 has
a hint that warns of its dimension and of no other, whatever the costs and the margin. So an
analysis with a violation, for a margin of at least 0.8, does not praise the efficiency, and its
first hint is severe. The exponential function may be any. -/
theorem violations_have_hints [Exponential Float] (snapshot : Snapshot Float) :
    (∀ costs margin, ∀ violation ∈ SafetyViolation.check costs margin,
      0.8 < violation.utilization →
      ∃ hint ∈ Hint.generate costs, ∀ d, hint.WarnsOf d ↔ d = violation.dimension) ∧
    (0.8 ≤ snapshot.tuning.safetyMargin → ∀ sim timestamp analysis,
      of sim snapshot timestamp = .ok analysis → analysis.safetyViolations ≠ [] →
      "Excellent resource efficiency!" ∉ analysis.hints ∧
      ∃ first, (Hint.generate analysis.costs).head? = some first ∧
        analysis.hints.head? = some first.message ∧
        (first.severity = .high ∨ first.severity = .critical)) := by
  refine ⟨fun costs margin violation => SafetyViolation.exists_hint, ?_⟩
  intro hmargin sim timestamp analysis hof hviolations
  obtain ⟨-, rfl⟩ := of_eq_ok_iff.1 hof
  obtain ⟨hpraise, first, hfirst, hsevere⟩ := severe_of_violations hmargin hviolations
  exact ⟨hpraise, first, hfirst, Hint.head?_map_message hfirst, hsevere⟩

/-- A simulation that takes all instructions of a transaction on the main network violates the
margin there and has the hint about it, and its analysis begins with a severe hint. -/
theorem violations_have_hints_of_mainnet :
    let _ : Exponential Float := .oneAtZero
    let sim := { Simulation.zero with instructions := 100000000 }
    ∃ analysis, of sim .mainnet ⟨0, 0⟩ = .ok analysis ∧
      (∃ hint ∈ Hint.generate analysis.costs, hint.WarnsOf .cpu) ∧
      "Excellent resource efficiency!" ∉ analysis.hints ∧
      ∃ first, (Hint.generate analysis.costs).head? = some first ∧
        analysis.hints.head? = some first.message ∧
        (first.severity = .high ∨ first.severity = .critical) := by
  intro _ sim
  have hmargin : 0.8 ≤ Snapshot.mainnet.tuning.safetyMargin := by decide +kernel
  have habove : Snapshot.mainnet.tuning.safetyMargin <
      SafetyDimension.cpu.utilization (ResourceCosts.compute sim .mainnet) := by decide +kernel
  have hviolation := SafetyViolation.mem_check_iff.2 ⟨SafetyDimension.cpu, habove, rfl⟩
  obtain ⟨hcover, hsevere⟩ := violations_have_hints .mainnet
  obtain ⟨hint, hhint, hwarns⟩ :=
    hcover _ _ _ hviolation (Binary64.lt_of_le_of_lt hmargin habove)
  have hpenalty : penaltyCheck sim .mainnet = none := by decide +kernel
  have hof := of_eq_ok Snapshot.validate_mainnet hpenalty rfl ⟨0, 0⟩
  refine ⟨_, hof, ⟨hint, hhint, (hwarns _).2 rfl⟩, hsevere hmargin sim ⟨0, 0⟩ _ hof ?_⟩
  exact mt List.map_eq_nil_iff.1 (List.ne_nil_of_mem hviolation)

end Analysis

end ResourceMeter
