import ResourceMeter.Main
import ResourceMeter.Proofs.AnalysisOrder
import ResourceMeter.Proofs.SimulationRoundTrip
import ResourceMeter.Proofs.Binary64Rounding
import ResourceMeter.Proofs.SnapshotRoundTrip
import ResourceMeter.Proofs.Binary64Operations
import ResourceMeter.Proofs.Binary64Bounds
import ResourceMeter.Proofs.ViolationMessages
import ResourceMeter.Proofs.ChargedUnits
import ResourceMeter.Proofs.Json.Refinement
import ResourceMeter.Proofs.SnapshotDraft
import ResourceMeter.Proofs.SnapshotRules
import ResourceMeter.Proofs.ScoreRange
import ResourceMeter.Proofs.CostRange
import ResourceMeter.Proofs.AnalysisEpochs
import ResourceMeter.Proofs.BatchReport
import ResourceMeter.Proofs.FirstConflict
import ResourceMeter.Proofs.ScoreSlope
import ResourceMeter.Proofs.HintSelection
import ResourceMeter.Proofs.SafetyHints
import ResourceMeter.Proofs.TotalScore
import ResourceMeter.Proofs.ScoreBands
import ResourceMeter.Proofs.LedgerAverage
import ResourceMeter.Proofs.SettingInfluence
import ResourceMeter.Proofs.KeyRenaming
import ResourceMeter.Proofs.WrittenCounts
import ResourceMeter.Proofs.NamedValues
import ResourceMeter.Proofs.AnalysisRoundTrip
