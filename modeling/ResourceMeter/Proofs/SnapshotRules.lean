import ResourceMeter.Proofs.Binary64Groups
import ResourceMeter.Proofs.SnapshotDraft

/-!
# Only sound snapshots are accepted

`SnapshotDraft.rules` lists the rules that validation checks, one by one and in their order, each
with the fault that breaking it is. `Snapshot.fault?_eq` says that the check of a snapshot reports
the first rule that is broken, and nothing else. A text is accepted only if what it says is sound
(`SnapshotDraft.Sound`): it keeps all rules, and its groups are what their types ask for.
-/

namespace ResourceMeter

open Json

/-! ## Rules -/

/-- A rule of a snapshot: what it asks for, and what is wrong where it is broken. -/
structure SnapshotRule where
  kept : Prop
  /-- Whether a rule is kept can be computed. -/
  [decidable : Decidable kept]
  cause : ConfigurationFault Float

attribute [instance] SnapshotRule.decidable

namespace SnapshotRule

/-- What is wrong, if the rule is broken. -/
def fault? (rule : SnapshotRule) : Option (ConfigurationFault Float) :=
  if rule.kept then none else some rule.cause

/-- What is wrong with the first rule of a list that is broken. -/
def firstFault (rules : List SnapshotRule) : Option (ConfigurationFault Float) :=
  rules.findSome? fault?

/-- The version has a character that is not blank. -/
def namedVersion (version : String) : SnapshotRule where
  kept := ∃ c ∈ version.toList, Text.isBlank c = false
  decidable := List.decidableBEx _ _
  cause := .blankVersion

/-- A count is positive. -/
def positive (name : String) (count : UInt64) : SnapshotRule where
  kept := 0 < count
  cause := .zeroLimit name

/-- A number is finite and not negative. -/
def nonNegative (name : String) (x : Float) : SnapshotRule where
  kept := x.isFinite = true ∧ 0.0 ≤ x
  cause := .notNonNegative name x

/-- The safety margin is finite and positive. -/
def positiveMargin (margin : Float) : SnapshotRule where
  kept := margin.isFinite = true ∧ 0.0 < margin
  cause := .marginNotPositive margin

/-- A rule finds nothing wrong exactly if it is kept. -/
theorem fault?_eq_none_iff {rule : SnapshotRule} : rule.fault? = none ↔ rule.kept := by
  unfold fault?
  rw [ite_eq_left_iff, imp_iff_or_not, not_not]
  exact ⟨fun h => h.resolve_left nofun, .inr⟩

/-- A rule finds exactly its own fault, where it is broken. -/
theorem fault?_eq_some_iff {rule : SnapshotRule} {cause : ConfigurationFault Float} :
    rule.fault? = some cause ↔ ¬ rule.kept ∧ rule.cause = cause := by
  unfold fault?
  by_cases h : rule.kept
  · rw [if_pos h]
    exact ⟨nofun, fun hbroken => absurd h hbroken.1⟩
  · rw [if_neg h, Option.some_inj]
    exact ⟨fun hcause => ⟨h, hcause⟩, And.right⟩

/-- No rule finds anything wrong exactly if all are kept. -/
theorem firstFault_eq_none_iff {rules : List SnapshotRule} :
    firstFault rules = none ↔ ∀ rule ∈ rules, rule.kept := by
  unfold firstFault
  simp only [List.findSome?_eq_none_iff, fault?_eq_none_iff]

/-- The first fault is that of a rule which is broken, behind rules which are kept. -/
theorem firstFault_eq_some_iff {rules : List SnapshotRule} {cause : ConfigurationFault Float} :
    firstFault rules = some cause ↔ ∃ before rule after, rules = before ++ rule :: after ∧
      (∀ earlier ∈ before, earlier.kept) ∧ ¬ rule.kept ∧ rule.cause = cause := by
  unfold firstFault
  rw [List.findSome?_eq_some_iff]
  simp only [fault?_eq_none_iff, fault?_eq_some_iff]
  constructor
  · rintro ⟨before, rule, after, hrules, hbroken, hbefore⟩
    exact ⟨before, rule, after, hrules, hbefore, hbroken⟩
  · rintro ⟨before, rule, after, hrules, hbefore, hbroken⟩
    exact ⟨before, rule, after, hrules, hbroken, hbefore⟩

/-- Rules in two lists are checked one list after the other. -/
theorem firstFault_append (rules rules' : List SnapshotRule) :
    firstFault (rules ++ rules') = (firstFault rules <|> firstFault rules') := by
  unfold firstFault
  rw [List.findSome?_append, Option.orElse_eq_orElse, Option.orElse_eq_or]

/-- A list of one rule. -/
theorem firstFault_singleton (rule : SnapshotRule) : firstFault [rule] = rule.fault? := by
  unfold firstFault
  rw [List.findSome?_singleton]

/-- A check refuses what breaks a rule. -/
theorem fault?_eq_ite {rule : SnapshotRule} {broken : Prop} [Decidable broken]
    (h : rule.kept ↔ ¬ broken) : rule.fault? = if broken then some rule.cause else none := by
  unfold fault?
  by_cases hbroken : broken
  · rw [if_pos hbroken, if_neg fun hkept => h.1 hkept hbroken]
  · rw [if_neg hbroken, if_pos (h.2 hbroken)]

/-- A version breaks its rule exactly if it is blank. -/
theorem fault?_namedVersion (version : String) : (namedVersion version).fault? =
    if Text.isBlankText version then some .blankVersion else none := by
  refine fault?_eq_ite ?_
  unfold namedVersion Text.isBlankText
  simp only [List.all_eq_true, not_forall, exists_prop, Bool.not_eq_true]

/-- A count breaks its rule exactly if it is zero. -/
theorem fault?_positive (name : String) (count : UInt64) :
    (positive name count).fault? = if count = 0 then some (.zeroLimit name) else none :=
  fault?_eq_ite UInt64.pos_iff_ne_zero

/-- A rate or a scale breaks its rule exactly if its check refuses it. -/
theorem fault?_nonNegative (name : String) (x : Float) :
    (nonNegative name x).fault? = nonNegativeFault? name x := by
  refine fault?_eq_ite (nonNegative_iff.symm.trans ?_)
  unfold NonNegative
  rw [not_or, Bool.not_eq_false]

/-- A margin breaks its rule exactly if its check refuses it. -/
theorem fault?_positiveMargin (margin : Float) : (positiveMargin margin).fault? =
    if Arithmetic.isFinite margin = false ∨ margin ≤ 0.0 then some (.marginNotPositive margin)
    else none := by
  refine fault?_eq_ite ?_
  unfold positiveMargin
  rw [not_or, Bool.not_eq_false, Binary64.isFinite_eq]
  refine and_congr_right fun hmargin => ?_
  rw [Binary64.lt_iff rfl hmargin, Binary64.le_iff hmargin rfl, not_le]

end SnapshotRule

open SnapshotRule

/-- The check of the limits is that of their rules. -/
theorem Limits.fault?_eq (limits : Limits) :
    limits.fault? = firstFault (limits.named.map fun (name, limit) => positive name limit) := by
  unfold fault? firstFault
  induction limits.named with
  | nil => rfl
  | cons p named ih =>
    obtain ⟨name, limit⟩ := p
    rw [List.find?_cons, List.map_cons, List.findSome?_cons, ← ih, fault?_positive]
    dsimp only
    by_cases h : limit = 0
    · rw [if_pos h, beq_iff_eq.2 h]
      rfl
    · rw [if_neg h, beq_eq_false_iff_ne.2 h]

/-- The check of the fees is that of their rules. -/
theorem FeeSchedule.fault?_eq (fees : FeeSchedule Float) :
    fees.fault? = firstFault
      (positive "instructions_per_fee_increment" fees.instructionsPerFeeIncrement ::
        fees.named.map fun (name, fee) => nonNegative name fee) := by
  unfold fault? firstFault
  rw [List.findSome?_cons, List.findSome?_map, fault?_positive]
  have hrates : (SnapshotRule.fault? ∘ fun p : String × Float => nonNegative p.1 p.2) =
      fun p => nonNegativeFault? p.1 p.2 := funext fun p => fault?_nonNegative p.1 p.2
  rw [hrates]
  split
  · rfl
  · rfl

/-! ## Sound snapshots -/

namespace SnapshotDraft

/-- The rules that validation checks, in their order. -/
def rules (draft : SnapshotDraft) : List SnapshotRule :=
  let limits := draft.limits
  let fees := draft.fees
  let tuning := draft.tuning
  [namedVersion draft.version,
   positive "tx_max_instructions" limits.txMaxInstructions,
   positive "ledger_max_instructions" limits.ledgerMaxInstructions,
   positive "tx_memory_limit" limits.txMemoryLimit,
   positive "tx_max_read_ledger_entries" limits.txMaxReadLedgerEntries,
   positive "tx_max_read_bytes" limits.txMaxReadBytes,
   positive "tx_max_write_ledger_entries" limits.txMaxWriteLedgerEntries,
   positive "tx_max_write_bytes" limits.txMaxWriteBytes,
   positive "ledger_max_read_ledger_entries" limits.ledgerMaxReadLedgerEntries,
   positive "ledger_max_read_bytes" limits.ledgerMaxReadBytes,
   positive "ledger_max_write_ledger_entries" limits.ledgerMaxWriteLedgerEntries,
   positive "ledger_max_write_bytes" limits.ledgerMaxWriteBytes,
   positive "tx_max_size_bytes" limits.txMaxSizeBytes,
   positive "ledger_max_txs_size_bytes" limits.ledgerMaxTxsSizeBytes,
   positive "instructions_per_fee_increment" fees.instructionsPerFeeIncrement,
   nonNegative "fee_per_instruction_increment" fees.feePerInstructionIncrement,
   nonNegative "fee_read_ledger_entry" fees.feeReadLedgerEntry,
   nonNegative "fee_write_ledger_entry" fees.feeWriteLedgerEntry,
   nonNegative "fee_read_1kb" fees.feeRead1kb,
   nonNegative "fee_write_1kb" fees.feeWrite1kb,
   nonNegative "fee_tx_size_1kb" fees.feeTxSize1kb,
   nonNegative "ledger_pressure_weight" tuning.ledgerPressureWeight,
   nonNegative "memory_scaling_factor" tuning.memoryScalingFactor,
   positiveMargin tuning.safetyMargin]

/-- All rules are kept, both weight groups sum to one, and the thresholds are in order. -/
structure Sound (draft : SnapshotDraft) : Prop where
  rules : ∀ rule ∈ draft.rules, rule.kept
  ledgerWeights : IsWeightGroup draft.tuning.ledgerWeights.toList
  scoreWeights : IsWeightGroup [draft.tuning.scoreWeights.cpu, draft.tuning.scoreWeights.memory,
    draft.tuning.scoreWeights.ledger]
  low_pos : 0.0 < draft.tuning.thresholds.low
  low_lt_high : draft.tuning.thresholds.low < draft.tuning.thresholds.high
  high_lt_one : draft.tuning.thresholds.high < 1.0

end SnapshotDraft

namespace Snapshot

/-- The check of a snapshot is that of its rules. -/
theorem fault?_eq (snapshot : Snapshot Float) :
    snapshot.fault? = firstFault snapshot.draft.rules := by
  have hparts : snapshot.draft.rules = [namedVersion snapshot.version] ++
      ((snapshot.limits.named.map fun (name, limit) => positive name limit) ++
      ((positive "instructions_per_fee_increment" snapshot.fees.instructionsPerFeeIncrement ::
        snapshot.fees.named.map fun (name, fee) => nonNegative name fee) ++
      ([nonNegative "ledger_pressure_weight" snapshot.tuning.ledgerPressureWeight] ++
      ([nonNegative "memory_scaling_factor" snapshot.tuning.memoryScalingFactor] ++
      [positiveMargin snapshot.tuning.safetyMargin])))) := rfl
  rw [hparts]
  unfold fault? Tuning.fault?
  simp only [firstFault_append, firstFault_singleton, fault?_namedVersion, fault?_nonNegative,
    fault?_positiveMargin, Limits.fault?_eq, FeeSchedule.fault?_eq]

/-- The draft of a valid snapshot is sound. -/
theorem sound_of_validate {snapshot : Snapshot Float} (h : snapshot.validate = .ok ()) :
    snapshot.draft.Sound := by
  have hrules : ∀ rule ∈ snapshot.draft.rules, rule.kept := by
    rw [← firstFault_eq_none_iff, ← fault?_eq, fault?_eq_none_iff, ← validate_eq_ok_iff]
    exact h
  obtain ⟨hlow, hlt, hhigh⟩ := snapshot.tuning.thresholds.lt_lt_lt
  exact ⟨hrules, snapshot.tuning.ledgerWeights.isWeightGroup,
    snapshot.tuning.scoreWeights.isWeightGroup, hlow, hlt, hhigh⟩

/-- A text that is accepted as a snapshot says that snapshot, which is sound. -/
theorem sound_of_ofText {text : String} {snapshot : Snapshot Float}
    (h : ofText text = .ok snapshot) :
    SnapshotDraft.codec.read text = .ok snapshot.draft ∧ snapshot.draft.Sound := by
  obtain ⟨hread, hvalid⟩ := ofText_eq_ok_iff.1 h
  exact ⟨codec_refines.read hread, sound_of_validate hvalid⟩

/-- A text is only refused for the configuration. -/
theorem configuration_of_ofText {text : String} {fault : Fault Float}
    (h : ofText text = .error fault) : ∃ cause, fault = .configuration cause := by
  unfold ofText at h
  cases hread : codec.read text with
  | error found =>
    rw [hread] at h
    cases h
    exact ⟨_, rfl⟩
  | ok found =>
    rw [hread] at h
    dsimp only at h
    unfold checked at h
    cases hvalid : found.validate with
    | error cause =>
      rw [hvalid] at h
      cases h
      obtain ⟨cause, -, hfault⟩ := validate_eq_error_iff.1 hvalid
      exact ⟨cause, hfault⟩
    | ok _ =>
      rw [hvalid] at h
      cases h

/-- Validation accepts a snapshot exactly if it keeps all rules, and names the first that is broken
otherwise. A text that is accepted says the snapshot that it is accepted as, in whichever form its
parts are written, and what it says is sound; a text that says nothing sound is refused for the
configuration. -/
theorem accepted_is_sound :
    (∀ snapshot : Snapshot Float,
      (snapshot.validate = .ok () ↔ ∀ rule ∈ snapshot.draft.rules, rule.kept) ∧
      ∀ fault, snapshot.validate = .error fault ↔ ∃ before rule after,
        snapshot.draft.rules = before ++ rule :: after ∧ (∀ earlier ∈ before, earlier.kept) ∧
        ¬ rule.kept ∧ fault = .configuration rule.cause) ∧
    ∀ text : String,
      (∀ snapshot, ofText text = .ok snapshot →
        SnapshotDraft.codec.read text = .ok snapshot.draft ∧ snapshot.draft.Sound) ∧
      ((¬ ∃ draft, SnapshotDraft.codec.read text = .ok draft ∧ draft.Sound) →
        ∃ cause, ofText text = .error (.configuration cause)) := by
  refine ⟨fun snapshot => ⟨?_, fun fault => ?_⟩, fun text => ⟨fun _ => sound_of_ofText, ?_⟩⟩
  · rw [validate_eq_ok_iff, ← fault?_eq_none_iff, fault?_eq, firstFault_eq_none_iff]
  · rw [validate_eq_error_iff, fault?_eq]
    constructor
    · rintro ⟨cause, hfirst, rfl⟩
      obtain ⟨before, rule, after, hrules, hbefore, hbroken, rfl⟩ :=
        firstFault_eq_some_iff.1 hfirst
      exact ⟨before, rule, after, hrules, hbefore, hbroken, rfl⟩
    · rintro ⟨before, rule, after, hrules, hbefore, hbroken, rfl⟩
      exact ⟨rule.cause, firstFault_eq_some_iff.2
        ⟨before, rule, after, hrules, hbefore, hbroken, rfl⟩, rfl⟩
  · intro hunsound
    cases htext : ofText text with
    | ok snapshot => exact absurd ⟨_, sound_of_ofText htext⟩ hunsound
    | error fault =>
      obtain ⟨cause, rfl⟩ := configuration_of_ofText htext
      exact ⟨cause, rfl⟩

/-- A text in list form is accepted or refused for the sum of its ledger weights alone, and a
snapshot without memory and margin is refused for the memory. -/
theorem accepted_is_sound_of_lists :
    let text (weight : String) : String :=
      "[\"v\", [1, 1, 1, 1, 1, 1, 1, 1, 1, 1, 1, 1, 1], [1, 0, 0, 0, 0, 0, 0], " ++
        "\x7b\"ledger_weights\": [0.5, " ++ weight ++ ", 0, 0, 0]\x7d]"
    let limits := { mainnet.limits with txMemoryLimit := 0 }
    let tuning := { mainnet.tuning with safetyMargin := 0.0 }
    (∃ snapshot, ofText (text "0.5") = .ok snapshot ∧
      SnapshotDraft.codec.read (text "0.5") = .ok snapshot.draft ∧ snapshot.draft.Sound) ∧
    (¬ ∃ draft, SnapshotDraft.codec.read (text "0.6") = .ok draft ∧ draft.Sound) ∧
    (∃ cause, ofText (text "0.6") = .error (.configuration cause)) ∧
    mainnet.validate = .ok () ∧ ({ mainnet with limits, tuning } : Snapshot Float).validate =
      .error (.configuration (.zeroLimit "tx_memory_limit")) := by
  intro text limits tuning
  obtain ⟨hvalidate, htext⟩ := accepted_is_sound
  have hunsound : ¬ ∃ draft, SnapshotDraft.codec.read (text "0.6") = .ok draft ∧ draft.Sound := by
    rintro ⟨draft, hread, hsound⟩
    have hfar : ∀ found ∈ (SnapshotDraft.codec.read (text "0.6")).toOption,
        ¬ Arithmetic.magnitude (Arithmetic.sum found.tuning.ledgerWeights.toList - 1.0) ≤
          0.000001 := by
      decide +kernel
    rw [hread] at hfar
    exact hfar draft rfl hsound.ledgerWeights.total
  refine ⟨?_, hunsound, (htext _).2 hunsound, (hvalidate mainnet).1.2 ?_, ?_⟩
  · have haccepted : (ofText (text "0.5")).toOption.isSome = true := by
      decide +kernel
    cases hresult : ofText (text "0.5") with
    | ok snapshot => exact ⟨snapshot, rfl, (htext _).1 snapshot hresult⟩
    | error fault =>
      rw [hresult] at haccepted
      cases haccepted
  · decide +kernel
  · refine ((hvalidate _).2 _).2 ⟨[_, _, _], _, _, rfl, ?_, ?_, rfl⟩
    · decide +kernel
    · decide +kernel

end Snapshot

end ResourceMeter
