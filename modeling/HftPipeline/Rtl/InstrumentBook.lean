import HftPipeline.Rtl.SlotArray

/-!
# `hft_instrument_book`

Every tracked quote replaces one side of the book of its instrument and
publishes the resulting snapshot.
-/

namespace HftPipeline.Rtl.InstrumentBook

structure Input where
  streamStartPulse : Bool
  streamEndPulse : Bool
  trackedQuoteValid : Bool
  trackedInstrumentSlot : BitVec 3
  trackedSide : BitVec 8
  trackedSeq : BitVec 32
  trackedTimestampNs : BitVec 64
  trackedPriceTicks : BitVec 32
  trackedQuantity : BitVec 32

/-- The registered snapshot at the output ports. -/
structure Snapshot where
  bookUpdateValid : Bool
  bookInstrumentSlot : BitVec 3
  bookSeq : BitVec 32
  bookTimestampNs : BitVec 64
  bookBidPrice : BitVec 32
  bookBidQuantity : BitVec 32
  bookAskPrice : BitVec 32
  bookAskQuantity : BitVec 32
  bookValid : Bool
  crossedBook : Bool
deriving DecidableEq

structure State extends Snapshot where
  bidPriceMem : SlotArray (BitVec 32)
  bidQuantityMem : SlotArray (BitVec 32)
  askPriceMem : SlotArray (BitVec 32)
  askQuantityMem : SlotArray (BitVec 32)
  bidInitializedMem : SlotArray Bool
  askInitializedMem : SlotArray Bool

def sideBid : BitVec 8 := 0#8
def sideAsk : BitVec 8 := 1#8

/-- The snapshot registers after reset and after `stream_start_pulse`. -/
def Snapshot.zero : Snapshot where
  bookUpdateValid := false
  bookInstrumentSlot := 0#3
  bookSeq := 0#32
  bookTimestampNs := 0#64
  bookBidPrice := 0#32
  bookBidQuantity := 0#32
  bookAskPrice := 0#32
  bookAskQuantity := 0#32
  bookValid := false
  crossedBook := false

/-- Reset and `stream_start_pulse` make the same assignments: both clear the five
books and every output. -/
def clearBooks (state : State) : State where
  toSnapshot := Snapshot.zero
  bidPriceMem := state.bidPriceMem.clear 0#32
  bidQuantityMem := state.bidQuantityMem.clear 0#32
  askPriceMem := state.askPriceMem.clear 0#32
  askQuantityMem := state.askQuantityMem.clear 0#32
  bidInitializedMem := state.bidInitializedMem.clear false
  askInitializedMem := state.askInitializedMem.clear false

/-- The branch of a bid: the stored ask is combined with the incoming bid. -/
def updateBid (state : State) (input : Input) : State :=
  let slot := input.trackedInstrumentSlot
  { state with
    bidPriceMem := state.bidPriceMem.write slot input.trackedPriceTicks
    bidQuantityMem := state.bidQuantityMem.write slot input.trackedQuantity
    bidInitializedMem := state.bidInitializedMem.write slot true
    bookUpdateValid := true
    bookInstrumentSlot := slot
    bookSeq := input.trackedSeq
    bookTimestampNs := input.trackedTimestampNs
    bookBidPrice := input.trackedPriceTicks
    bookBidQuantity := input.trackedQuantity
    bookAskPrice := state.askPriceMem slot
    bookAskQuantity := state.askQuantityMem slot
    bookValid := state.askInitializedMem slot
    crossedBook := state.askInitializedMem slot &&
      decide (state.askPriceMem slot < input.trackedPriceTicks) }

/-- The branch of an ask: the stored bid is combined with the incoming ask. -/
def updateAsk (state : State) (input : Input) : State :=
  let slot := input.trackedInstrumentSlot
  { state with
    askPriceMem := state.askPriceMem.write slot input.trackedPriceTicks
    askQuantityMem := state.askQuantityMem.write slot input.trackedQuantity
    askInitializedMem := state.askInitializedMem.write slot true
    bookUpdateValid := true
    bookInstrumentSlot := slot
    bookSeq := input.trackedSeq
    bookTimestampNs := input.trackedTimestampNs
    bookBidPrice := state.bidPriceMem slot
    bookBidQuantity := state.bidQuantityMem slot
    bookAskPrice := input.trackedPriceTicks
    bookAskQuantity := input.trackedQuantity
    bookValid := state.bidInitializedMem slot
    crossedBook := state.bidInitializedMem slot &&
      decide (input.trackedPriceTicks < state.bidPriceMem slot) }

/-- The clocked block. -/
def next (resetn : Bool) (state : State) (input : Input) : State :=
  if resetn then
    let idle := { state with bookUpdateValid := false }
    if input.streamStartPulse then
      clearBooks state
    else if input.streamEndPulse then
      { idle with bookValid := false, crossedBook := false }
    else if input.trackedQuoteValid && decide (input.trackedInstrumentSlot < 5#3) then
      if input.trackedSide = sideBid then
        updateBid idle input
      else if input.trackedSide = sideAsk then
        updateAsk idle input
      else
        idle
    else
      idle
  else
    clearBooks state

end HftPipeline.Rtl.InstrumentBook
