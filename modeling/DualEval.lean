import DualEval.Accelerator.Absent
import DualEval.Accelerator.Emulated
import DualEval.Harness.Basic
import DualEval.Main
import DualEval.Proofs.NumericOrder
import DualEval.Session.Basic
import DualEval.Proofs.IntegralRounding
import DualEval.Proofs.Tags
import DualEval.Proofs.KernelAgreement
import DualEval.Proofs.LiteralGrammar
import DualEval.Proofs.ParsePrecedence
import DualEval.Proofs.DecimalRounding
import DualEval.Proofs.ShortestDecimal
import DualEval.Proofs.DecimalText
import DualEval.Proofs.ReadBack
import DualEval.Proofs.Actions
import DualEval.Proofs.DispatchAnswer
import DualEval.Proofs.CallReplay
import DualEval.Proofs.SessionStart
import DualEval.Proofs.DispatchCourse
import DualEval.Proofs.EvaluationFrame
import DualEval.Proofs.BufferUse
import DualEval.Proofs.Unmapping
import DualEval.Proofs.Timeouts
import DualEval.Proofs.DeviceAccount
import DualEval.Proofs.Lifecycle
import DualEval.Proofs.SelfAgreement
import DualEval.Proofs.DispatchProtocol
import DualEval.Proofs.Simulation
import DualEval.Proofs.Verification
import DualEval.Proofs.RecordCodec
import DualEval.Proofs.NearestRounding
import DualEval.Proofs.OperandRange
import DualEval.Proofs.AcceleratorInfluence
import DualEval.Proofs.NumberGrammar
import DualEval.Proofs.Arguments
import DualEval.Proofs.SampleRange
import DualEval.Proofs.AnswerRules
import DualEval.Proofs.CleanAccount
import DualEval.Proofs.HarnessVerdict
import DualEval.Proofs.ToleranceLaw
import DualEval.Proofs.ToleranceOrder
import DualEval.Proofs.RaisedTolerance
import DualEval.Proofs.Residual
import DualEval.Proofs.AccountSums
import DualEval.Proofs.SetAccount
import DualEval.Proofs.LiteralLanguage
import DualEval.Proofs.Spacing
import DualEval.Proofs.CaseStream
import DualEval.Proofs.EventLog
import DualEval.Proofs.CorruptedSlots
import DualEval.Proofs.Equalities
import DualEval.Proofs.SeedText
import DualEval.Proofs.JsonText
import DualEval.Proofs.SettingsOverlay
