import Mathlib.Data.BitVec

/-!
# `hft_sequence_tracker`

A quote is forwarded when it opens the stream, continues it, or jumps ahead of
the expected number. The counters record what was skipped or rejected.
-/

namespace HftPipeline.Rtl.SequenceTracker

structure Input where
  streamStartPulse : Bool
  streamEndPulse : Bool
  quoteValid : Bool
  instrumentSlot : BitVec 3
  quoteSide : BitVec 8
  quoteSeq : BitVec 32
  quoteTimestampNs : BitVec 64
  quotePriceTicks : BitVec 32
  quoteQuantity : BitVec 32
deriving DecidableEq

structure State where
  trackedQuoteValid : Bool
  trackedInstrumentSlot : BitVec 3
  trackedSide : BitVec 8
  trackedSeq : BitVec 32
  trackedTimestampNs : BitVec 64
  trackedPriceTicks : BitVec 32
  trackedQuantity : BitVec 32
  sequenceInitialized : Bool
  sequenceError : Bool
  missingPacket : Bool
  duplicatePacket : Bool
  outOfOrderPacket : Bool
  expectedSeq : BitVec 32
  missingCount : BitVec 32
  duplicateCount : BitVec 32
  outOfOrderCount : BitVec 32
  lastSeq : BitVec 32
deriving DecidableEq

/-- The registers after a cycle with `resetn` low. -/
def reset : State where
  trackedQuoteValid := false
  trackedInstrumentSlot := 0#3
  trackedSide := 0#8
  trackedSeq := 0#32
  trackedTimestampNs := 0#64
  trackedPriceTicks := 0#32
  trackedQuantity := 0#32
  sequenceInitialized := false
  sequenceError := false
  missingPacket := false
  duplicatePacket := false
  outOfOrderPacket := false
  expectedSeq := 0#32
  missingCount := 0#32
  duplicateCount := 0#32
  outOfOrderCount := 0#32
  lastSeq := 0#32

def clearPulses (state : State) : State :=
  { state with
    trackedQuoteValid := false
    sequenceError := false
    missingPacket := false
    duplicatePacket := false
    outOfOrderPacket := false }

/-- The assignments shared by the three forwarding branches. -/
def forward (state : State) (input : Input) : State :=
  { state with
    lastSeq := input.quoteSeq
    expectedSeq := input.quoteSeq + 1#32
    trackedQuoteValid := true
    trackedInstrumentSlot := input.instrumentSlot
    trackedSide := input.quoteSide
    trackedSeq := input.quoteSeq
    trackedTimestampNs := input.quoteTimestampNs
    trackedPriceTicks := input.quotePriceTicks
    trackedQuantity := input.quoteQuantity }

/-- The `quote_valid` branch. -/
def quote (state : State) (input : Input) : State :=
  if !state.sequenceInitialized then
    { forward state input with sequenceInitialized := true }
  else if input.quoteSeq = state.expectedSeq then
    forward state input
  else if input.quoteSeq = state.lastSeq then
    { state with
      duplicatePacket := true
      sequenceError := true
      duplicateCount := state.duplicateCount + 1#32 }
  else if input.quoteSeq > state.expectedSeq then
    { forward state input with
      missingPacket := true
      sequenceError := true
      missingCount := state.missingCount + (input.quoteSeq - state.expectedSeq) }
  else
    { state with
      outOfOrderPacket := true
      sequenceError := true
      outOfOrderCount := state.outOfOrderCount + 1#32 }

/-- The clocked block. -/
def next (resetn : Bool) (state : State) (input : Input) : State :=
  if resetn then
    let idle := clearPulses state
    if input.streamStartPulse then
      { idle with
        lastSeq := 0#32
        expectedSeq := 0#32
        sequenceInitialized := false
        missingCount := 0#32
        duplicateCount := 0#32
        outOfOrderCount := 0#32 }
    else if input.streamEndPulse then
      { idle with sequenceInitialized := false }
    else if input.quoteValid then
      quote idle input
    else
      idle
  else
    reset

end HftPipeline.Rtl.SequenceTracker
