import HftPipeline.Std.Clocked
import HftPipeline.Std.RingWindow
import HftPipeline.Std.Register
import HftPipeline.Std.Groups
import HftPipeline.Std.Noninterference
import HftPipeline.Rtl.WireAgreement
import HftPipeline.Rtl.Forwarding
import HftPipeline.Rtl.ErrorAttribution
import HftPipeline.Rtl.SequenceAccounting
import HftPipeline.Rtl.SequenceWraparound
import HftPipeline.Rtl.SlotArray
import HftPipeline.Rtl.PacketFilter
import HftPipeline.Rtl.SequenceTracker
import HftPipeline.Rtl.InstrumentBook
import HftPipeline.Rtl.FeatureLanes
import HftPipeline.Rtl.EngineWrapper
import HftPipeline.Rtl.DecisionArithmetic
import HftPipeline.Spec.Session
import HftPipeline.Spec.Pipe
import HftPipeline.Spec.Separation
import HftPipeline.Spec.OneSided
import HftPipeline.Refinement.QuoteFlow
import HftPipeline.Refinement.Books
import HftPipeline.Refinement.TopOfBook
import HftPipeline.Refinement.Windows
import HftPipeline.Refinement.RollingWindows
import HftPipeline.Refinement.Scores
import HftPipeline.Refinement.Engine
import HftPipeline.Engine.Signals
import HftPipeline.Engine.Isolation
import HftPipeline.Engine.Weights
import HftPipeline.Engine.Separation
import HftPipeline.Engine.EndToEnd
import HftPipeline.Engine.LiveSender
import HftPipeline.Host.LiveParser
import HftPipeline.Host.LiveVerdict
import HftPipeline.Host.ReceiverAgreement
import HftPipeline.Host.StreamStart
import HftPipeline.Host.StreamRun
import HftPipeline.Host.SenderLock
import HftPipeline.Host.HeaderChecks
import HftPipeline.Std.Gaps
import HftPipeline.Host.LiveMismatches
import HftPipeline.Host.LiveDmaTest
import HftPipeline.Std.Frames
import HftPipeline.Host.DmaAnswers
import HftPipeline.Host.ParserLoop
import HftPipeline.Engine.LiveDecisions
import HftPipeline.Std.Averages
import HftPipeline.Spec.Effective
import HftPipeline.Spec.Prices
import HftPipeline.Engine.SignalProperties
import HftPipeline.Std.Pacing
import HftPipeline.Host.PacedAccount
import HftPipeline.Host.PacedRefinement
import HftPipeline.Host.PacedReports
import HftPipeline.Host.PacedSending
import HftPipeline.Host.SenderPace
import HftPipeline.Host.PacedRun
import HftPipeline.Host.LivePace
import HftPipeline.Std.Slots
import HftPipeline.Std.Pool
import HftPipeline.Host.Recvmmsg
import HftPipeline.Host.ReceiveLibrary
import HftPipeline.Host.ReceiveSlots
import HftPipeline.Host.ReceiveResources
import HftPipeline.Host.ReceiveClients
import HftPipeline.Host.LiveProgram
import HftPipeline.Host.CReceiverCalls
import HftPipeline.Host.BatchTest
import HftPipeline.Host.BatchRuns
import HftPipeline.Host.BatchVerdict
import HftPipeline.Host.BatchLoop
import HftPipeline.Host.Optimized2Sender
import HftPipeline.Host.Optimized2Run
import HftPipeline.Spec.FixedPrices
import HftPipeline.Host.DecisionTest
import HftPipeline.Engine.DecisionTest
import HftPipeline.Host.StressTest
import HftPipeline.Host.StressAgreement
import HftPipeline.Spec.Likeness
import HftPipeline.Spec.Mirror
import HftPipeline.Engine.Mirror
import HftPipeline.Spec.Restart
import HftPipeline.Engine.Restart
