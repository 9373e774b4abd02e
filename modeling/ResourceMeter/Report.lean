import ResourceMeter.Analysis
import ResourceMeter.Text.Padding

/-!
# Reports

The texts that people read: the report of an analysis, the line for a failure, and the report of a
snapshot. Headings and verdicts are coloured with terminal escapes.
-/

namespace ResourceMeter.Report

open Text Decimal

/-- A text in a colour or weight of the terminal. -/
def styled (style : String) (text : String) : String :=
  "\x1b[" ++ style ++ "m" ++ text ++ "\x1b[0m"

/-- The colour for good news. -/
def green : String := "32"

/-- The colour for middling news. -/
def yellow : String := "33"

/-- The colour for bad news. -/
def red : String := "31"

/-- A heading. -/
def heading (text : String) : String :=
  styled "1" text ++ "\n"

/-- The colour of a score. -/
def scoreColour (score : UInt8) : String :=
  if 80 ≤ score ∧ score ≤ 100 then green
  else if 50 ≤ score ∧ score ≤ 79 then yellow
  else red

/-- The name of a band in a report. -/
def bandName : ScoreBand → String
  | .excellent => "excellent"
  | .good => "good"
  | .poor => "poor"

/-- The verdict on safety, with all violations. -/
def safetyText (violations : List String) : String :=
  if violations.isEmpty then styled green "✓ Within safety margin" ++ "\n\n"
  else
    styled red "✗ Safety margin exceeded" ++ "\n" ++
      String.join (violations.map fun violation => "  " ++ violation ++ "\n") ++ "\n"

/-- The line for the score of a dimension. -/
def scoreLine (thresholds : Thresholds Float) (name : String) (score : UInt8)
    (utilization : Float) : String :=
  "  " ++ padRight 8 name ++ " " ++ padLeft 3 (toString score) ++ "  (" ++
    fixedText 1 (utilization * 100.0) ++ "% used, " ++
    bandName (ScoreBand.of utilization thresholds) ++ ")\n"

/-- The line for a ledger dimension. -/
def ledgerLine (cost : LedgerCost Float) (dimension : LedgerDimension) : String :=
  "  " ++ padRight 14 dimension.key ++ " " ++
    padLeft 6 (fixedText 1 (cost.breakdown.get dimension * 100.0)) ++ "%  fee " ++
    fixedText 7 (cost.feeBreakdown.get dimension) ++ "\n"

/-- The costs in detail. -/
def costsText (costs : ResourceCosts Float) : String :=
  heading "CPU:" ++
    "  fee          " ++ fixedText 7 costs.cpu.fee ++ "\n" ++
    "  total        " ++ fixedText 7 costs.cpu.total ++ "\n" ++
    "  ledger share " ++ fixedText 2 (costs.cpu.ledgerUtilization * 100.0) ++ "%\n" ++
    heading "Memory:" ++
    "  bytes used   " ++ toString costs.memory.bytesUsed ++ "\n" ++
    "  penalty      " ++ fixedText 2 costs.memory.cost ++ "\n" ++
    heading "Ledger:" ++
    String.join (LedgerDimension.all.map (ledgerLine costs.ledger)) ++ "\n"

/-- The report of an analysis; a verbose one has the costs in detail, and version and time. -/
def analysis (result : Analysis Float) (thresholds : Thresholds Float) (verbose : Bool) : String :=
  let costs := result.costs
  let scores := result.scores
  safetyText result.safetyViolations ++
    styled (scoreColour scores.total) ("Total score: " ++ toString scores.total) ++ "\n" ++
    "Estimated fee: " ++ fixedText 7 result.totalFee ++ "\n\n" ++
    heading "Scores:" ++
    scoreLine thresholds "cpu" scores.cpu costs.cpu.normalized ++
    scoreLine thresholds "memory" scores.memory costs.memory.normalized ++
    scoreLine thresholds "ledger" scores.ledger costs.ledger.normalized ++ "\n" ++
    (if verbose then costsText costs else "") ++
    heading "Hints:" ++
    String.join (result.hints.map fun hint => "  - " ++ hint ++ "\n") ++
    (if verbose then
      "\nConfig: " ++ result.configVersion ++ "  at " ++ result.timestamp.text "+00:00" ++ "\n"
    else "")

/-- The line for a failure, given its message. -/
def failure (message : String) : String :=
  styled red ("✗ " ++ message)

/-- Weights in a list are positional from `0.0001` to below `1e16` and scientific elsewhere; an
integral weight keeps its point. -/
def weightLayout : Layout :=
  ⟨some (-3, 16), true, false⟩

/-- Weights in a list. -/
def weightsText (weights : List Float) : String :=
  "[" ++ ", ".intercalate (weights.map (shortestText weightLayout .awayFromZero)) ++ "]"

/-- The line for a limit on one transaction and on one ledger. -/
def limitLine (name : String) (tx ledger : UInt64) : String :=
  "  " ++ padRight 14 name ++ " " ++ padLeft 12 (toString tx) ++ " / " ++ toString ledger ++ "\n"

/-- The limits of a snapshot. -/
def limitsText (limits : Limits) : String :=
  heading "Limits (per transaction / per ledger):" ++
    limitLine "instructions" limits.txMaxInstructions limits.ledgerMaxInstructions ++
    limitLine "read entries" limits.txMaxReadLedgerEntries limits.ledgerMaxReadLedgerEntries ++
    limitLine "read bytes" limits.txMaxReadBytes limits.ledgerMaxReadBytes ++
    limitLine "write entries" limits.txMaxWriteLedgerEntries limits.ledgerMaxWriteLedgerEntries ++
    limitLine "write bytes" limits.txMaxWriteBytes limits.ledgerMaxWriteBytes ++
    limitLine "tx size" limits.txMaxSizeBytes limits.ledgerMaxTxsSizeBytes ++
    "  " ++ padRight 14 "memory" ++ " " ++ padLeft 12 (toString limits.txMemoryLimit) ++ "\n\n"

/-- The fees of a snapshot. -/
def feesText (fees : FeeSchedule Float) : String :=
  heading "Fees:" ++
    "  " ++ messageText fees.feePerInstructionIncrement ++ " per " ++
    toString fees.instructionsPerFeeIncrement ++ " instructions\n" ++
    "  " ++ messageText fees.feeReadLedgerEntry ++ " per read entry, " ++
    messageText fees.feeWriteLedgerEntry ++ " per write entry\n" ++
    "  " ++ messageText fees.feeRead1kb ++ " per KiB read, " ++
    messageText fees.feeWrite1kb ++ " per KiB written, " ++
    messageText fees.feeTxSize1kb ++ " per KiB of transaction\n\n"

/-- The tuning of a snapshot. -/
def tuningText (tuning : Tuning Float) : String :=
  let weights := tuning.scoreWeights
  heading "Tuning:" ++
    "  score weights  cpu " ++ messageText weights.cpu ++ " / memory " ++
    messageText weights.memory ++ " / ledger " ++ messageText weights.ledger ++ "\n" ++
    "  thresholds     low " ++ messageText tuning.thresholds.low ++ " / high " ++
    messageText tuning.thresholds.high ++ "\n" ++
    "  ledger weights " ++ weightsText tuning.ledgerWeights.weights.toList ++ "\n" ++
    "  pressure weight " ++ messageText tuning.ledgerPressureWeight ++ ", memory scale " ++
    messageText tuning.memoryScalingFactor ++ ", safety margin " ++
    messageText tuning.safetyMargin ++ "\n"

/-- The report of a snapshot. -/
def snapshot (s : Snapshot Float) : String :=
  "Config version: " ++ s.version ++ "\n\n" ++ limitsText s.limits ++ feesText s.fees ++
    tuningText s.tuning

end ResourceMeter.Report
