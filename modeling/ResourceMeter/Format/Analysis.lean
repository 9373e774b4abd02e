import ResourceMeter.Analysis
import ResourceMeter.Format.Snapshot
import ResourceMeter.Json.Variant

/-!
# The JSON form of analyses

The codecs of costs, scores, hints, violations and analyses. The name of a ledger dimension stands
for it as a bare name; a safety dimension is a bare name too, except that a ledger dimension is the
only member of an object.
-/

namespace ResourceMeter

open Json

/-- Timestamps, as their text in universal time. -/
def Timestamp.codec : Codec Timestamp where
  encode t := .string (t.text "Z")
  decode
    | .leaf (.string s) =>
      match Timestamp.ofText? s with
      | some t => .ok t
      | none => .error .malformed
    | outline => .error (.unexpected outline "an RFC 3339 formatted date and time string")

/-- Values that are written as their names. -/
def Json.Codec.named {α : Type} (all : List α) (name : α → String) : Codec α where
  encode value := .string (name value)
  decode := Variant.decode (all.map fun value => .plain (name value) value)

/-- Ledger dimensions, by their keys. -/
def LedgerDimension.codec : Codec LedgerDimension :=
  .named LedgerDimension.all LedgerDimension.key

/-- Severities, by name. -/
def Severity.codec : Codec Severity :=
  .named Severity.all Severity.name

/-- Kinds of hints, by name. -/
def HintKind.codec : Codec HintKind :=
  .named HintKind.all HintKind.name

/-- The name of a score band in data. -/
def ScoreBand.name : ScoreBand → String
  | .excellent => "Excellent"
  | .good => "Good"
  | .poor => "Poor"

/-- Score bands, by name. -/
def ScoreBand.codec : Codec ScoreBand :=
  .named [.excellent, .good, .poor] ScoreBand.name

/-- Safety dimensions. -/
def SafetyDimension.codec : Codec SafetyDimension where
  encode
    | .cpu => .string "cpu"
    | .memory => .string "memory"
    | .ledger dimension => .object [("ledger", LedgerDimension.codec.encode dimension)]
  decode := Variant.decode
    [.plain "cpu" .cpu, .plain "memory" .memory, .carrying "ledger" LedgerDimension.codec .ledger]

/-- The record of a cpu cost. -/
def CpuCost.record : Record (CpuCost Float) where
  title := "CpuCost"
  blank := ⟨0.0, 0.0, 0.0, 0.0⟩
  fields :=
    [.of "fee" .float (·.fee) fun x c => { c with fee := x },
     .of "normalized" .float (·.normalized) fun x c => { c with normalized := x },
     .of "pressure" .float (·.pressure) fun x c => { c with pressure := x },
     .of "total" .float (·.total) fun x c => { c with total := x }]

/-- The record of a memory cost. -/
def MemoryCost.record : Record (MemoryCost Float) where
  title := "MemoryCost"
  blank := ⟨0, 0.0, 0.0⟩
  fields :=
    [.of "bytes_used" .uint64 (·.bytesUsed) fun n c => { c with bytesUsed := n },
     .of "normalized" .float (·.normalized) fun x c => { c with normalized := x },
     .of "cost" .float (·.cost) fun x c => { c with cost := x }]

/-- The record of the values of the ledger dimensions. -/
def LedgerVector.breakdown : Record (LedgerVector Float) :=
  LedgerVector.record "LedgerBreakdown"

/-- The record of a ledger cost. -/
def LedgerCost.record : Record (LedgerCost Float) where
  title := "LedgerCost"
  blank := ⟨0.0, 0.0, LedgerVector.breakdown.blank, LedgerVector.breakdown.blank⟩
  fields :=
    [.of "fee" .float (·.fee) fun x c => { c with fee := x },
     .of "normalized" .float (·.normalized) fun x c => { c with normalized := x },
     .of "breakdown" LedgerVector.breakdown.codec (·.breakdown)
       fun v c => { c with breakdown := v },
     .of "fee_breakdown" LedgerVector.breakdown.codec (·.feeBreakdown)
       fun v c => { c with feeBreakdown := v }]

/-- The record of the three costs. -/
def ResourceCosts.record : Record (ResourceCosts Float) where
  title := "ResourceCosts"
  blank := ⟨CpuCost.record.blank, MemoryCost.record.blank, LedgerCost.record.blank⟩
  fields :=
    [.of "cpu" CpuCost.record.codec (·.cpu) fun x c => { c with cpu := x },
     .of "memory" MemoryCost.record.codec (·.memory) fun x c => { c with memory := x },
     .of "ledger" LedgerCost.record.codec (·.ledger) fun x c => { c with ledger := x }]

/-- The record of the reported scores. -/
def Scores.record : Record Scores where
  title := "Scores"
  blank := ⟨0, 0, 0, 0⟩
  fields :=
    [.of "cpu" .uint8 (·.cpu) fun n s => { s with cpu := n },
     .of "memory" .uint8 (·.memory) fun n s => { s with memory := n },
     .of "ledger" .uint8 (·.ledger) fun n s => { s with ledger := n },
     .of "total" .uint8 (·.total) fun n s => { s with total := n }]

/-- The record of the signed scores. -/
def RawScores.record : Record (RawScores Float) where
  title := "RawScores"
  blank := ⟨0.0, 0.0, 0.0⟩
  fields :=
    [.of "cpu" .float (·.cpu) fun x s => { s with cpu := x },
     .of "memory" .float (·.memory) fun x s => { s with memory := x },
     .of "ledger" .float (·.ledger) fun x s => { s with ledger := x }]

/-- The record of a hint. -/
def Hint.record : Record Hint where
  title := "Hint"
  blank := ⟨.efficient, .info, ""⟩
  fields :=
    [.of "kind" HintKind.codec (·.kind) fun k h => { h with kind := k },
     .of "severity" Severity.codec (·.severity) fun s h => { h with severity := s },
     .of "message" .string (·.message) fun m h => { h with message := m }]

/-- The record of a safety violation. -/
def SafetyViolation.record : Record (SafetyViolation Float) where
  title := "SafetyViolation"
  blank := ⟨.cpu, 0.0, 0.0⟩
  fields :=
    [.of "dimension" SafetyDimension.codec (·.dimension) fun d v => { v with dimension := d },
     .of "utilization" .float (·.utilization) fun x v => { v with utilization := x },
     .of "margin" .float (·.margin) fun x v => { v with margin := x }]

/-- The record of an analysis. -/
def Analysis.record : Record (Analysis Float) where
  title := "Analysis"
  blank :=
    ⟨ResourceCosts.record.blank, Scores.record.blank, RawScores.record.blank, [], [], ⟨0, 0⟩, ""⟩
  fields :=
    [.of "costs" ResourceCosts.record.codec (·.costs) fun c a => { a with costs := c },
     .of "scores" Scores.record.codec (·.scores) fun s a => { a with scores := s },
     .of "raw_scores" RawScores.record.codec (·.rawScores) fun s a => { a with rawScores := s },
     .of "hints" (.list .string) (·.hints) fun h a => { a with hints := h },
     .of "safety_violations" (.list .string) (·.safetyViolations)
       fun v a => { a with safetyViolations := v },
     .of "timestamp" Timestamp.codec (·.timestamp) fun t a => { a with timestamp := t },
     .of "config_version" .string (·.configVersion) fun v a => { a with configVersion := v }]

namespace Analysis

/-- How analyses are written and read. -/
def codec : Codec (Analysis Float) :=
  record.codec

/-- The analysis as a pretty text. -/
def pretty (analysis : Analysis Float) : String :=
  (codec.encode analysis).pretty

end Analysis

end ResourceMeter
