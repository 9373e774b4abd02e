import ResourceMeter.Proofs.Binary64Counts
import ResourceMeter.Proofs.Consumption

/-!
# What is over a limit is reported

A simulation that consumes more than the limit of some dimension allows has a utilization of at
least one there, whatever the roundings do, so a margin below one is exceeded.
`Analysis.over_limit_is_reported` follows the quantity through the calculators to the one message
of the analysis that concerns its dimension.
-/

namespace ResourceMeter

open Arithmetic

namespace SafetyDimension

/-- A message that begins with the label of a dimension concerns it. -/
def concerns (d : SafetyDimension) (message : String) : Bool :=
  (d.label ++ " at ").toList.isPrefixOf message.toList

/-- No label, together with the word behind it, begins with another. -/
theorem label_injective : ∀ d ∈ all, ∀ e ∈ all,
    (d.label ++ " at ").toList <+: (e.label ++ " at ").toList → d = e := by
  decide +kernel

section
variable {α : Type} [Arithmetic α]

/-- The message of a violation concerns the dimension of the violation, and no other. -/
theorem concerns_message_iff {d : SafetyDimension} (violation : SafetyViolation α) :
    d.concerns violation.message = true ↔ d = violation.dimension := by
  have hmessage : ∃ rest, violation.message.toList =
      (violation.dimension.label ++ " at ").toList ++ rest := by
    unfold SafetyViolation.message
    simp only [String.toList_append, List.append_assoc]
    exact ⟨_, rfl⟩
  obtain ⟨rest, hrest⟩ := hmessage
  unfold concerns
  rw [List.isPrefixOf_iff_prefix, hrest]
  constructor
  · intro hd
    -- Both labels begin the same message, so one of them begins with the other.
    rcases List.prefix_or_prefix_of_prefix hd (List.prefix_append _ rest) with h | h
    · exact label_injective _ d.mem_all _ violation.dimension.mem_all h
    · exact (label_injective _ violation.dimension.mem_all _ d.mem_all h).symm
  · rintro rfl
    exact List.prefix_append _ rest

/-- The messages that concern a dimension: the one of its violation, if there is one. -/
theorem filter_concerns_check (d : SafetyDimension) (costs : ResourceCosts α) (margin : α) :
    ((SafetyViolation.check costs margin).map SafetyViolation.message).filter d.concerns =
      if margin < d.utilization costs then
        [SafetyViolation.message ⟨d, d.utilization costs, margin⟩]
      else [] := by
  let violated := all.filter fun e => decide (margin < e.utilization costs)
  let report (e : SafetyDimension) := SafetyViolation.message ⟨e, e.utilization costs, margin⟩
  have hreports : (SafetyViolation.check costs margin).map SafetyViolation.message =
      violated.map report := List.map_map
  have hconcerns : d.concerns ∘ report = fun e => decide (e = d) := by
    funext e
    rw [Bool.eq_iff_iff, decide_eq_true_iff]
    exact (concerns_message_iff ⟨e, e.utilization costs, margin⟩).trans eq_comm
  have hcount : violated.count d = if margin < d.utilization costs then 1 else 0 := by
    rw [(nodup_all.filter _).count]
    simp [mem_all]
  rw [hreports, List.filter_map, hconcerns, List.filter_eq, hcount]
  split <;> rfl

/-- Some message concerns a dimension exactly if its utilization is above the margin. -/
theorem any_concerns_check_iff {d : SafetyDimension} {costs : ResourceCosts α} {margin : α} :
    ((SafetyViolation.check costs margin).map SafetyViolation.message).any d.concerns = true ↔
      margin < d.utilization costs := by
  have hmessages := filter_concerns_check d costs margin
  rw [List.any_eq_true]
  constructor
  · rintro ⟨message, hmem, hconcerns⟩
    by_contra hnot
    rw [if_neg hnot, List.filter_eq_nil_iff] at hmessages
    exact hmessages message hmem hconcerns
  · intro hviolated
    rw [if_pos hviolated] at hmessages
    exact ⟨_, List.mem_filter.1 (hmessages ▸ List.mem_singleton_self _)⟩

end

end SafetyDimension

namespace Analysis

/-- A simulation that consumes more of something than one transaction may is refused for another
reason, or its analysis is not safe and has exactly one message that concerns this dimension: that
of its violation. The snapshot has to be valid, with a margin below one; the exponential function
may be any. -/
theorem over_limit_is_reported [Exponential Float] {snapshot : Snapshot Float}
    (hvalid : snapshot.validate = .ok ()) (hmargin : snapshot.tuning.safetyMargin < 1.0)
    (sim : Simulation) (timestamp : Timestamp) (d : SafetyDimension)
    (hover : (d.txLimit snapshot.limits).toNat < d.consumed sim) :
    (∃ cause, of sim snapshot timestamp = .error (.input cause)) ∨
      ∃ analysis, of sim snapshot timestamp = .ok analysis ∧
        analysis.safetyViolations.filter d.concerns = [SafetyViolation.message
          ⟨d, d.utilization analysis.costs, snapshot.tuning.safetyMargin⟩] ∧
        analysis.isSafe = false := by
  rcases of_valid hvalid sim timestamp with hinput | hof
  · exact .inl hinput
  · refine .inr ⟨_, hof, ?_⟩
    have hlimit : 0 < (d.txLimit snapshot.limits).toNat :=
      UInt64.pos_iff_ne_zero.2
        (SafetyDimension.txLimit_ne_zero (Snapshot.validate_eq_ok_iff.1 hvalid) d)
    have hviolated : snapshot.tuning.safetyMargin <
        d.utilization (ResourceCosts.compute sim snapshot) := by
      rw [SafetyDimension.utilization_compute]
      exact Binary64.lt_ofNat_div_ofNat hlimit.ne' (UInt64.toNat_lt _) hover.le hmargin
    have hmessages := SafetyDimension.filter_concerns_check d (ResourceCosts.compute sim snapshot)
      snapshot.tuning.safetyMargin
    rw [if_pos hviolated] at hmessages
    refine ⟨hmessages, List.isEmpty_eq_false_iff.2 fun hempty => ?_⟩
    unfold ofCosts at hempty
    dsimp only at hempty
    rw [hempty] at hmessages
    cases hmessages

/-- An instruction above the limit is noticed even where binary64 no longer tells the two counts
apart, and by the greatest margin below one. -/
theorem over_limit_is_reported_of_rounded :
    let _ : Exponential Float := .oneAtZero
    let limits := { Snapshot.mainnet.limits with txMaxInstructions := 9007199254740992 }
    let tuning := { Snapshot.mainnet.tuning with safetyMargin := 0.9999999999999999 }
    let snapshot := { Snapshot.mainnet with limits, tuning }
    let sim := { Simulation.zero with instructions := 9007199254740993 }
    ∃ analysis, of sim snapshot ⟨0, 0⟩ = .ok analysis ∧
      analysis.safetyViolations.filter SafetyDimension.cpu.concerns =
        ["CPU at 100.0% exceeds 100% safety margin"] ∧ analysis.isSafe = false := by
  intro _ limits tuning snapshot sim
  have hvalid : snapshot.validate = .ok () := by decide +kernel
  have hmargin : snapshot.tuning.safetyMargin < 1.0 := by decide +kernel
  have hover : (SafetyDimension.cpu.txLimit snapshot.limits).toNat <
      SafetyDimension.cpu.consumed sim := by decide +kernel
  have hpenalty : penaltyCheck sim snapshot = none := by decide +kernel
  have hof := of_eq_ok hvalid hpenalty rfl ⟨0, 0⟩
  rcases over_limit_is_reported hvalid hmargin sim ⟨0, 0⟩ .cpu hover with
    ⟨cause, hinput⟩ | ⟨analysis, hanalysis, hmessages, hsafe⟩
  · cases hof.symm.trans hinput
  · refine ⟨analysis, hanalysis, ?_, hsafe⟩
    cases hof.symm.trans hanalysis
    rw [hmessages]
    decide +kernel

end Analysis

end ResourceMeter
