import Mathlib.Data.BitVec

/-!
# `hft_packet_filter`

Accepted packets switch the stream on and off, and quotes of an active stream
are passed on with the slot of their instrument.
-/

namespace HftPipeline.Rtl.PacketFilter

/-- The five `INSTRUMENT_ID` parameters. -/
structure Ids where
  instrumentId0 : BitVec 32
  instrumentId1 : BitVec 32
  instrumentId2 : BitVec 32
  instrumentId3 : BitVec 32
  instrumentId4 : BitVec 32
deriving DecidableEq

/-- The default parameters. -/
def Ids.default : Ids := ⟨1#32, 2#32, 3#32, 4#32, 5#32⟩

/-- The decoded packet ports. -/
structure Input where
  packetValid : Bool
  packetError : Bool
  messageType : BitVec 8
  side : BitVec 8
  seq : BitVec 32
  timestampNs : BitVec 64
  instrumentId : BitVec 32
  priceTicks : BitVec 32
  qntity : BitVec 32
deriving DecidableEq

structure State where
  quoteValid : Bool
  instrumentSlot : BitVec 3
  quoteSide : BitVec 8
  quoteSeq : BitVec 32
  quoteTimestampNs : BitVec 64
  quotePriceTicks : BitVec 32
  quoteQuantity : BitVec 32
  streamActive : Bool
  streamStartPulse : Bool
  streamEndPulse : Bool
  unknownInstrument : Bool
deriving DecidableEq

def messageQuoteUpdate : BitVec 8 := 1#8
def messageStreamStart : BitVec 8 := 4#8
def messageStreamEnd : BitVec 8 := 5#8

/-- `instrument_found` and `matched_slot`. -/
def matchInstrument (ids : Ids) (instrumentId : BitVec 32) : Bool × BitVec 3 :=
  if instrumentId = ids.instrumentId0 then (true, 0#3)
  else if instrumentId = ids.instrumentId1 then (true, 1#3)
  else if instrumentId = ids.instrumentId2 then (true, 2#3)
  else if instrumentId = ids.instrumentId3 then (true, 3#3)
  else if instrumentId = ids.instrumentId4 then (true, 4#3)
  else (false, 0#3)

/-- The registers after a cycle with `resetn` low. -/
def reset : State where
  quoteValid := false
  instrumentSlot := 0#3
  quoteSide := 0#8
  quoteSeq := 0#32
  quoteTimestampNs := 0#64
  quotePriceTicks := 0#32
  quoteQuantity := 0#32
  streamActive := false
  streamStartPulse := false
  streamEndPulse := false
  unknownInstrument := false

/-- The pulses are inactive unless a packet raises them. -/
def clearPulses (state : State) : State :=
  { state with
    quoteValid := false
    streamStartPulse := false
    streamEndPulse := false
    unknownInstrument := false }

/-- The clocked block. -/
def next (ids : Ids) (resetn : Bool) (state : State) (input : Input) : State :=
  if resetn then
    let idle := clearPulses state
    if input.packetValid && !input.packetError then
      if input.messageType = messageStreamStart then
        { idle with streamActive := true, streamStartPulse := true }
      else if input.messageType = messageStreamEnd then
        { idle with streamActive := false, streamEndPulse := true }
      else if input.messageType = messageQuoteUpdate && state.streamActive then
        let (instrumentFound, matchedSlot) := matchInstrument ids input.instrumentId
        if instrumentFound then
          { idle with
            quoteValid := true
            instrumentSlot := matchedSlot
            quoteSide := input.side
            quoteSeq := input.seq
            quoteTimestampNs := input.timestampNs
            quotePriceTicks := input.priceTicks
            quoteQuantity := input.qntity }
        else
          { idle with unknownInstrument := true }
      else
        idle
    else
      idle
  else
    reset

end HftPipeline.Rtl.PacketFilter
