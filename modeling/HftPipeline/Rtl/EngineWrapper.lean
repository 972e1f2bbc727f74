import HftPipeline.Rtl.PacketFilter
import HftPipeline.Rtl.SequenceTracker
import HftPipeline.Rtl.InstrumentBook
import HftPipeline.Rtl.FeatureEngine
import HftPipeline.Rtl.WeightedDecision

/-!
# `hft_engine_wrapper`

The five modules share clock and reset, and every port connection reads a
register of the module before it. The two pulses of the filter go to the
tracker, the book and the feature engine in the same cycle.
-/

namespace HftPipeline.Rtl.EngineWrapper

abbrev Input := PacketFilter.Input

/-- The parameters of the wrapper. -/
structure Params where
  ids : PacketFilter.Ids
  trendWeight : Int
  imbalanceWeight : Int
  spreadWeight : Int
  baseThreshold : Int
deriving DecidableEq

def Params.default : Params := ⟨PacketFilter.Ids.default, 4, 1, 2, 100⟩

structure State where
  packetFilter : PacketFilter.State
  sequenceTracker : SequenceTracker.State
  instrumentBook : InstrumentBook.State
  featureEngine : FeatureEngine.State
  weightedDecision : WeightedDecision.State

def trackerInput (filter : PacketFilter.State) : SequenceTracker.Input where
  streamStartPulse := filter.streamStartPulse
  streamEndPulse := filter.streamEndPulse
  quoteValid := filter.quoteValid
  instrumentSlot := filter.instrumentSlot
  quoteSide := filter.quoteSide
  quoteSeq := filter.quoteSeq
  quoteTimestampNs := filter.quoteTimestampNs
  quotePriceTicks := filter.quotePriceTicks
  quoteQuantity := filter.quoteQuantity

def bookInput (filter : PacketFilter.State) (tracker : SequenceTracker.State) :
    InstrumentBook.Input where
  streamStartPulse := filter.streamStartPulse
  streamEndPulse := filter.streamEndPulse
  trackedQuoteValid := tracker.trackedQuoteValid
  trackedInstrumentSlot := tracker.trackedInstrumentSlot
  trackedSide := tracker.trackedSide
  trackedSeq := tracker.trackedSeq
  trackedTimestampNs := tracker.trackedTimestampNs
  trackedPriceTicks := tracker.trackedPriceTicks
  trackedQuantity := tracker.trackedQuantity

def featureInput (filter : PacketFilter.State) (book : InstrumentBook.Snapshot) :
    FeatureEngine.Input where
  streamStartPulse := filter.streamStartPulse
  streamEndPulse := filter.streamEndPulse
  bookUpdateValid := book.bookUpdateValid
  bookInstrumentSlot := book.bookInstrumentSlot
  bookTimestampNs := book.bookTimestampNs
  bookBidPrice := book.bookBidPrice
  bookBidQuantity := book.bookBidQuantity
  bookAskPrice := book.bookAskPrice
  bookAskQuantity := book.bookAskQuantity
  bookValid := book.bookValid
  crossedBook := book.crossedBook

def decisionInput (feature : FeatureEngine.Feature) : WeightedDecision.Input where
  featureValid := feature.featureValid
  instrumentSlot := feature.featureInstrumentSlot
  featureTimestampNs := feature.featureTimestampNs
  trend := feature.trend
  quantityImbalance := feature.quantityImbalance
  spread := feature.spread

/-- The parameters written at the instantiation of `weighted_decision`, which are
constants and not the parameters of the wrapper. -/
def decisionParams : WeightedDecision.Params where
  trendWeight := 4#16
  imbalanceWeight := 1#16
  spreadWeight := 2#16
  baseThreshold := 100#64

/-- One clock of the wrapper. -/
def next (params : Params) (resetn : Bool) (state : State) (input : Input) : State where
  packetFilter := PacketFilter.next params.ids resetn state.packetFilter input
  sequenceTracker :=
    SequenceTracker.next resetn state.sequenceTracker (trackerInput state.packetFilter)
  instrumentBook :=
    InstrumentBook.next resetn state.instrumentBook
      (bookInput state.packetFilter state.sequenceTracker)
  featureEngine :=
    FeatureEngine.next resetn state.featureEngine
      (featureInput state.packetFilter state.instrumentBook.toSnapshot)
  weightedDecision :=
    WeightedDecision.next decisionParams resetn state.weightedDecision
      (decisionInput state.featureEngine.toFeature)

/-- The six output ports. -/
structure Output where
  signalValid : Bool
  signalInstrumentSlot : BitVec 3
  signalTimestampNs : BitVec 64
  tradeSignal : BitVec 2
  directionScore : BitVec 64
  requiredScore : BitVec 64
deriving DecidableEq

def output (state : State) : Output where
  signalValid := state.weightedDecision.signalValid
  signalInstrumentSlot := state.weightedDecision.signalInstrumentSlot
  signalTimestampNs := state.weightedDecision.signalTimestampNs
  tradeSignal := state.weightedDecision.tradeSignal
  directionScore := state.weightedDecision.directionScore
  requiredScore := state.weightedDecision.requiredScore

end HftPipeline.Rtl.EngineWrapper
