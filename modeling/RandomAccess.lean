import RandomAccess.Main
import RandomAccess.Panel
import RandomAccess.Sample
import RandomAccess.Proofs.CommandEffects
import RandomAccess.Proofs.StepEffects
import RandomAccess.Proofs.StepConsequences
import RandomAccess.Proofs.DriverCalls
import RandomAccess.Proofs.TraceLifecycle
import RandomAccess.Proofs.StepLimit
import RandomAccess.Proofs.FailureFrame
import RandomAccess.Proofs.AbstractMachine
import RandomAccess.Proofs.AbstractDecoding
import RandomAccess.Proofs.AbstractEffects
import RandomAccess.Proofs.SelfPointer
import RandomAccess.Proofs.AbstractRefinement
import RandomAccess.Proofs.StepFrame
import RandomAccess.Proofs.LoadedLines
import RandomAccess.Proofs.NaturalAddresses
import RandomAccess.Proofs.NumeralValues
import RandomAccess.Proofs.PrintedMemory
import RandomAccess.Proofs.OperandCells
import RandomAccess.Proofs.FaultOrigins
import RandomAccess.Proofs.CounterRange
import RandomAccess.Proofs.DigitLimit
import RandomAccess.Proofs.TextTrimming
import RandomAccess.Proofs.LineParts
import RandomAccess.Proofs.SourceRoundTrip
import RandomAccess.Proofs.StatementLayout
import RandomAccess.Proofs.LabelRelocation
import RandomAccess.Proofs.DriverAnswers
import RandomAccess.Proofs.SourceLayout
import RandomAccess.Proofs.InputUse
import RandomAccess.Proofs.InsertedLines
import RandomAccess.Proofs.InsertedRuns
import RandomAccess.Proofs.OutputLines
import RandomAccess.Proofs.StepAttempts
import RandomAccess.Proofs.ObserverIndependence
import RandomAccess.Proofs.OutputAttribution
import RandomAccess.Proofs.SessionOutcome
import RandomAccess.Proofs.WriteLog
import RandomAccess.Proofs.JumpDecision
import RandomAccess.Proofs.PanelRuns
import RandomAccess.Proofs.NumeralGrammar
import RandomAccess.Proofs.WrittenNumerals
import RandomAccess.Proofs.CodeRuns
import RandomAccess.Proofs.ReverseSample
import RandomAccess.Proofs.FactorialSample
import RandomAccess.Proofs.SumSample
import RandomAccess.Proofs.LoadOutcome
import RandomAccess.Proofs.JoinedSources
import RandomAccess.Proofs.ReachableLabels
import RandomAccess.Proofs.LineBreaks
import RandomAccess.Proofs.NumbersReadBack
import RandomAccess.Proofs.ListedInputs
import RandomAccess.Proofs.OperandAgreement
import RandomAccess.Proofs.TraceChanges
import RandomAccess.Proofs.LastWrites
import RandomAccess.Proofs.MemoryTexts
