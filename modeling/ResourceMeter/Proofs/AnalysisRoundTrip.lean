import ResourceMeter.Format.Analysis
import ResourceMeter.Proofs.SnapshotRoundTrip

/-!
# What the program reports is read back

An analysis whose numbers are finite is read back from its pretty text, and so are hints and safety
violations (`reports_are_read_back`), provided that the texts of the numbers and of the timestamp
are read back. Values with names are read back because the names differ (`Codec.readsBack_named`); a
safety dimension has two forms, which cannot be mistaken for each other.
-/

namespace ResourceMeter

open Json

/-! ## Small counts and names -/

/-- Every count of 8 bits is read back. -/
theorem Json.Codec.readsBack_uint8 (n : UInt8) : uint8.ReadsBack n := by
  have hcount : decodeCount UInt8.size "u8" (outline (.count n.toNat)) = .ok n.toNat :=
    decodeCount_countNumeral n.toNat_lt_size (by decide) _
  show (decodeCount UInt8.size "u8" (outline (.count n.toNat))).map UInt8.ofNat = _
  rw [hcount]
  exact congrArg Except.ok UInt8.ofNat_toNat

/-- A value that is written as its name is read back if no other value has this name. -/
theorem Json.Codec.readsBack_named {α : Type} {all : List α} {name : α → String} {value : α}
    (hmem : value ∈ all) (hname : ∀ other ∈ all, name other = name value → other = value) :
    (named all name).ReadsBack value := by
  have hfound : all.find? (fun other => name other == name value) = some value := by
    cases hfind : all.find? fun other => name other == name value with
    | none => exact absurd (beq_self_eq_true _) (List.find?_eq_none.1 hfind value hmem)
    | some other =>
      have hother := List.find?_some hfind
      rw [hname other (List.mem_of_find?_eq_some hfind) (beq_iff_eq.1 hother)]
  have hvariant : (all.map fun value => Variant.plain (name value) value).find?
      (·.name == name value) = some (.plain (name value) value) := by
    rw [List.find?_map]
    exact congrArg (Option.map _) hfound
  show Variant.decode _ (.leaf (.string (name value))) = _
  unfold Variant.decode Variant.find
  dsimp only
  rw [hvariant]
  rfl

/-- A severity is read back from its name. -/
theorem Severity.readsBack (severity : Severity) : codec.ReadsBack severity :=
  Codec.readsBack_named (by cases severity <;> decide) (by cases severity <;> decide)

/-- A kind of hint is read back from its name. -/
theorem HintKind.readsBack (kind : HintKind) : codec.ReadsBack kind :=
  Codec.readsBack_named (by cases kind <;> decide) (by cases kind <;> decide)

/-- A safety dimension is read back from its name, or from the object that a ledger dimension is. -/
theorem SafetyDimension.readsBack (dimension : SafetyDimension) : codec.ReadsBack dimension := by
  cases dimension with
  | cpu => rfl
  | memory => rfl
  | ledger dimension => cases dimension <;> rfl

/-! ## Hints and violations -/

/-- Every hint is read back. -/
theorem Hint.readsBack (hint : Hint) : record.codec.ReadsBack hint :=
  Record.readsBack (by decide)
    (.cons (Field.readsBack_of hint.kind.readsBack) <|
      .cons (Field.readsBack_of hint.severity.readsBack) <|
      .cons (Field.readsBack_of (Codec.readsBack_string _)) .nil) rfl

/-- A violation is read back if its two numbers are. -/
theorem SafetyViolation.readsBack {violation : SafetyViolation Float}
    (h : ∀ x ∈ [violation.utilization, violation.margin], Codec.float.ReadsBack x) :
    record.codec.ReadsBack violation := by
  simp only [List.forall_mem_cons] at h
  exact Record.readsBack (by decide)
    (.cons (Field.readsBack_of violation.dimension.readsBack) <|
      .cons (Field.readsBack_of h.1) <| .cons (Field.readsBack_of h.2.1) .nil) rfl

/-! ## Analyses -/

namespace CpuCost

/-- The binary64 numbers of a cpu cost. -/
def numbers (cost : CpuCost Float) : List Float :=
  [cost.fee, cost.normalized, cost.pressure, cost.total]

/-- A cpu cost is read back if its numbers are. -/
theorem readsBack {cost : CpuCost Float} (h : ∀ x ∈ cost.numbers, Codec.float.ReadsBack x) :
    record.codec.ReadsBack cost := by
  simp only [numbers, List.forall_mem_cons] at h
  obtain ⟨hfee, hnormalized, hpressure, htotal, -⟩ := h
  exact Record.readsBack (by decide)
    (.cons (Field.readsBack_of hfee) <| .cons (Field.readsBack_of hnormalized) <|
      .cons (Field.readsBack_of hpressure) <| .cons (Field.readsBack_of htotal) .nil) rfl

end CpuCost

namespace MemoryCost

/-- The binary64 numbers of a memory cost. -/
def numbers (cost : MemoryCost Float) : List Float :=
  [cost.normalized, cost.cost]

/-- A memory cost is read back if its two binary64 numbers are. -/
theorem readsBack {cost : MemoryCost Float} (h : ∀ x ∈ cost.numbers, Codec.float.ReadsBack x) :
    record.codec.ReadsBack cost := by
  simp only [numbers, List.forall_mem_cons] at h
  obtain ⟨hnormalized, hcost, -⟩ := h
  exact Record.readsBack (by decide)
    (.cons (Field.readsBack_of (Codec.readsBack_uint64 _)) <|
      .cons (Field.readsBack_of hnormalized) <| .cons (Field.readsBack_of hcost) .nil) rfl

end MemoryCost

namespace LedgerCost

/-- The binary64 numbers of a ledger cost. -/
def numbers (cost : LedgerCost Float) : List Float :=
  [cost.fee, cost.normalized] ++ cost.breakdown.toList ++ cost.feeBreakdown.toList

/-- A ledger cost is read back if its numbers are, those for each dimension included. -/
theorem readsBack {cost : LedgerCost Float} (h : ∀ x ∈ cost.numbers, Codec.float.ReadsBack x) :
    record.codec.ReadsBack cost := by
  simp only [numbers, List.forall_mem_append, List.forall_mem_cons] at h
  obtain ⟨⟨⟨hfee, hnormalized, -⟩, hbreakdown⟩, hfees⟩ := h
  exact Record.readsBack (by decide)
    (.cons (Field.readsBack_of hfee) <| .cons (Field.readsBack_of hnormalized) <|
      .cons (Field.readsBack_of (LedgerVector.readsBack _ hbreakdown)) <|
      .cons (Field.readsBack_of (LedgerVector.readsBack _ hfees)) .nil) rfl

end LedgerCost

namespace ResourceCosts

/-- The binary64 numbers of the three costs. -/
def numbers (costs : ResourceCosts Float) : List Float :=
  costs.cpu.numbers ++ costs.memory.numbers ++ costs.ledger.numbers

/-- The three costs are read back if all their numbers are. -/
theorem readsBack {costs : ResourceCosts Float} (h : ∀ x ∈ costs.numbers, Codec.float.ReadsBack x) :
    record.codec.ReadsBack costs := by
  simp only [numbers, List.forall_mem_append] at h
  obtain ⟨⟨hcpu, hmemory⟩, hledger⟩ := h
  exact Record.readsBack (by decide)
    (.cons (Field.readsBack_of (CpuCost.readsBack hcpu)) <|
      .cons (Field.readsBack_of (MemoryCost.readsBack hmemory)) <|
      .cons (Field.readsBack_of (LedgerCost.readsBack hledger)) .nil) rfl

end ResourceCosts

/-- All reported scores are read back. -/
theorem Scores.readsBack (scores : Scores) : record.codec.ReadsBack scores := by
  have hcount (n : UInt8) := Codec.readsBack_uint8 n
  exact Record.readsBack (by decide)
    (.cons (Field.readsBack_of (hcount _)) <| .cons (Field.readsBack_of (hcount _)) <|
      .cons (Field.readsBack_of (hcount _)) <| .cons (Field.readsBack_of (hcount _)) .nil) rfl

namespace RawScores

/-- The signed scores, one after the other. -/
def numbers (scores : RawScores Float) : List Float :=
  [scores.cpu, scores.memory, scores.ledger]

/-- Signed scores are read back if the numbers are. -/
theorem readsBack {scores : RawScores Float} (h : ∀ x ∈ scores.numbers, Codec.float.ReadsBack x) :
    record.codec.ReadsBack scores := by
  simp only [numbers, List.forall_mem_cons] at h
  obtain ⟨hcpu, hmemory, hledger, -⟩ := h
  exact Record.readsBack (by decide)
    (.cons (Field.readsBack_of hcpu) <| .cons (Field.readsBack_of hmemory) <|
      .cons (Field.readsBack_of hledger) .nil) rfl

end RawScores

/-- A timestamp is read back if its text is. -/
theorem Timestamp.readsBack {timestamp : Timestamp}
    (h : ofText? (timestamp.text "Z") = some timestamp) : codec.ReadsBack timestamp := by
  have hencode : codec.encode timestamp = .string (timestamp.text "Z") := rfl
  unfold Codec.ReadsBack
  rw [hencode]
  -- What the text looks like is of no account, and it must not be computed.
  generalize timestamp.text "Z" = s at h ⊢
  unfold codec
  rw [outline, leafToken]
  dsimp only
  rw [h]

namespace Analysis

/-- The binary64 numbers that are written for an analysis. -/
def written (analysis : Analysis Float) : List Float :=
  analysis.costs.numbers ++ analysis.rawScores.numbers

/-- An analysis is read back if its numbers and its timestamp are. -/
theorem readsBack {analysis : Analysis Float}
    (hnumbers : ∀ x ∈ analysis.written, Codec.float.ReadsBack x)
    (htimestamp : Timestamp.codec.ReadsBack analysis.timestamp) : codec.ReadsBack analysis := by
  have hstrings (strings : List String) : (Codec.list .string).ReadsBack strings :=
    Codec.readsBack_list fun s _ => Codec.readsBack_string s
  simp only [written, List.forall_mem_append] at hnumbers
  exact Record.readsBack (by decide)
    (.cons (Field.readsBack_of (ResourceCosts.readsBack hnumbers.1)) <|
      .cons (Field.readsBack_of analysis.scores.readsBack) <|
      .cons (Field.readsBack_of (RawScores.readsBack hnumbers.2)) <|
      .cons (Field.readsBack_of (hstrings _)) <| .cons (Field.readsBack_of (hstrings _)) <|
      .cons (Field.readsBack_of htimestamp) <|
      .cons (Field.readsBack_of (Codec.readsBack_string _)) .nil) rfl

end Analysis

/-- If the texts of its numbers and of its timestamp are read as what they stand for, an analysis
with finite numbers is read back from its pretty text, whatever its hints, violations and version
are. So are a hint and a safety violation with finite numbers, from their pretty and their compact
texts. The dimension of a violation is written as its bare name, except that a ledger dimension is
the only member of an object. -/
theorem reports_are_read_back :
    (∀ analysis : Analysis Float, (∀ x ∈ analysis.written, x.isFinite = true) →
      (∀ x ∈ analysis.written, Codec.float.read (floatText x) = .ok x) →
      Timestamp.ofText? (analysis.timestamp.text "Z") = some analysis.timestamp →
      Analysis.codec.read analysis.pretty = .ok analysis) ∧
    (∀ hint : Hint, Hint.record.codec.read (Hint.record.codec.encode hint).pretty = .ok hint ∧
      Hint.record.codec.read (Hint.record.codec.encode hint).compact = .ok hint) ∧
    (∀ violation : SafetyViolation Float,
      (∀ x ∈ [violation.utilization, violation.margin], x.isFinite = true ∧
        Codec.float.read (floatText x) = .ok x) →
      SafetyViolation.record.codec.read (SafetyViolation.record.codec.encode violation).pretty =
        .ok violation ∧
      SafetyViolation.record.codec.read (SafetyViolation.record.codec.encode violation).compact =
        .ok violation) ∧
    SafetyDimension.codec.encode .cpu = .string "cpu" ∧
    SafetyDimension.codec.encode .memory = .string "memory" ∧
    ∀ dimension : LedgerDimension, SafetyDimension.codec.encode (.ledger dimension) =
      .object [("ledger", .string dimension.key)] := by
  refine ⟨fun analysis hfinite hread htimestamp => ?_, fun hint => ?_, fun violation h => ?_, rfl,
    rfl, fun _ => rfl⟩
  · refine (Analysis.readsBack (fun x hx => ?_) (Timestamp.readsBack htimestamp)).read_pretty
    exact Codec.readsBack_float (hfinite x hx) (hread x hx)
  · exact ⟨hint.readsBack.read_pretty, hint.readsBack.read_compact⟩
  · have hback := SafetyViolation.readsBack fun x hx => Codec.readsBack_float (h x hx).1 (h x hx).2
    exact ⟨hback.read_pretty, hback.read_compact⟩

/-- An analysis with fractions of both signs is read back, and so is a violation of a ledger
dimension. -/
theorem reports_are_read_back_of_fractions :
    let breakdown : LedgerVector Float := ⟨0.25, 1.5, 0.25, 1.5, 0.25⟩
    let analysis : Analysis Float := ⟨⟨⟨1.5, 0.25, 0.25, 1.5⟩, ⟨7, 0.25, 1.5⟩,
      ⟨1.5, 0.25, breakdown, breakdown⟩⟩, ⟨100, 50, 25, 0⟩, ⟨1.5, 0.25, -12.25⟩,
      ["hint"], ["violation"], ⟨1717243200, 0⟩, "v1"⟩
    let violation : SafetyViolation Float := ⟨.ledger .bandwidth, 1.5, 0.25⟩
    Analysis.codec.read analysis.pretty = .ok analysis ∧
      SafetyViolation.record.codec.read (SafetyViolation.record.codec.encode violation).compact =
        .ok violation := by
  intro breakdown analysis violation
  obtain ⟨hanalysis, -, hviolation, -⟩ := reports_are_read_back
  have hread {x : Float} {n : Decimal.Numeral} (hfinite : x.isFinite = true)
      (htext : Token.next? (floatText x).toList = some (.number n, []))
      (hvalue : Codec.float.decode (.leaf (.number n)) = .ok x) :
      x.isFinite = true ∧ Codec.float.read (floatText x) = .ok x :=
    ⟨hfinite, (Codec.read_of_next? _ htext).trans hvalue⟩
  have hsmall : Float.isFinite 0.25 = true ∧ Codec.float.read (floatText 0.25) = .ok 0.25 :=
    hread rfl rfl rfl
  have hlarge : Float.isFinite 1.5 = true ∧ Codec.float.read (floatText 1.5) = .ok 1.5 :=
    hread rfl rfl rfl
  have hnegative : Float.isFinite (-12.25) = true ∧
      Codec.float.read (floatText (-12.25)) = .ok (-12.25) := hread rfl rfl rfl
  have hnumbers : ∀ x ∈ analysis.written, x.isFinite = true ∧
      Codec.float.read (floatText x) = .ok x := by
    show ∀ x ∈ [1.5, 0.25, 0.25, 1.5, 0.25, 1.5, 1.5, 0.25, 0.25, 1.5, 0.25, 1.5, 0.25, 0.25, 1.5,
      0.25, 1.5, 0.25, 1.5, 0.25, -12.25], _
    simp only [List.forall_mem_cons, hsmall, hlarge, hnegative, List.not_mem_nil, false_implies,
      implies_true, and_self]
  have htimestamp : Timestamp.ofText? (Timestamp.text ⟨1717243200, 0⟩ "Z") =
      some ⟨1717243200, 0⟩ := by
    decide +kernel
  refine ⟨hanalysis analysis (fun x hx => (hnumbers x hx).1) (fun x hx => (hnumbers x hx).2)
    htimestamp, (hviolation violation ?_).2⟩
  exact List.forall_mem_cons.2 ⟨hlarge, List.forall_mem_singleton.2 hsmall⟩

end ResourceMeter
