import Mathlib.Data.BitVec

/-!
# `hft_packet_parser`

The parser observes the beats it forwards: a one-beat elastic register passes
the AXI4-Stream on, while an eight-beat counter decodes the fields and collects
the errors of the current packet. `next` is the clocked block, with the
combinational `s_axis_tready` and `current_errors` as the definitions before it.
-/

namespace HftPipeline.Rtl.PacketParser

/-- The AXI4-Stream ports driven by the two neighbours in one cycle. -/
structure Input where
  sAxisTdata : BitVec 32
  sAxisTkeep : BitVec 4
  sAxisTvalid : Bool
  sAxisTlast : Bool
  mAxisTready : Bool
deriving DecidableEq

/-- The registered outputs and the error accumulator. -/
structure State where
  mAxisTdata : BitVec 32
  mAxisTkeep : BitVec 4
  mAxisTvalid : Bool
  mAxisTlast : Bool
  magic : BitVec 32
  version : BitVec 8
  messageType : BitVec 8
  side : BitVec 8
  reservedField : BitVec 8
  seq : BitVec 32
  timestampNs : BitVec 64
  instrumentId : BitVec 32
  priceTicks : BitVec 32
  quantity : BitVec 32
  packetValid : Bool
  packetError : Bool
  errorFlags : BitVec 8
  packetErrors : BitVec 8
  wordIndex : BitVec 3
deriving DecidableEq

def errorMagic : BitVec 8 := 0b00000001#8
def errorVersion : BitVec 8 := 0b00000010#8
def errorMessageType : BitVec 8 := 0b00000100#8
def errorSide : BitVec 8 := 0b00001000#8
def errorReserved : BitVec 8 := 0b00010000#8
def errorKeep : BitVec 8 := 0b00100000#8
def errorEarlyTlast : BitVec 8 := 0b01000000#8
def errorMissingTlast : BitVec 8 := 0b10000000#8

/-- `data[7:0]`, `data[15:8]`, `data[23:16]` and `data[31:24]`. -/
def byteLane (data : BitVec 32) (lane : Nat) : BitVec 8 := data.extractLsb' (8 * lane) 8

def byteSwap32 (data : BitVec 32) : BitVec 32 :=
  byteLane data 0 ++ byteLane data 1 ++ byteLane data 2 ++ byteLane data 3

/-- The input advances when the output register is empty or being accepted. -/
def sAxisTready (state : State) (input : Input) : Bool :=
  !state.mAxisTvalid || input.mAxisTready

/-- A beat is accepted only when TVALID and TREADY are high. -/
def axisFire (state : State) (input : Input) : Bool :=
  input.sAxisTvalid && sAxisTready state input

/-- The framing part of `current_errors`. -/
def framingErrors (tlastPerPacket : Bool) (wordIndex : BitVec 3) (keep : BitVec 4) (last : Bool) :
    BitVec 8 :=
  (if keep ≠ 0xF#4 then errorKeep else 0#8) |||
    if tlastPerPacket then
      (if wordIndex = 7#3 ∧ last = false then errorMissingTlast else 0#8) |||
        (if wordIndex ≠ 7#3 ∧ last = true then errorEarlyTlast else 0#8)
    else
      if wordIndex ≠ 7#3 ∧ last = true then errorEarlyTlast else 0#8

/-- The side check of the second beat, which depends on the message type. -/
def typeErrors (messageType side : BitVec 8) : BitVec 8 :=
  if messageType = 1#8 then
    if side ≠ 0#8 ∧ side ≠ 1#8 then errorSide else 0#8
  else if messageType = 4#8 ∨ messageType = 5#8 then
    if side ≠ 0#8 then errorSide else 0#8
  else
    errorMessageType

/-- The field part of `current_errors`: only the first two beats are checked. -/
def fieldErrors (wordIndex : BitVec 3) (data : BitVec 32) : BitVec 8 :=
  if wordIndex = 0#3 then
    if byteSwap32 data ≠ 0x48465431#32 then errorMagic else 0#8
  else if wordIndex = 1#3 then
    (if byteLane data 0 ≠ 1#8 then errorVersion else 0#8) |||
      typeErrors (byteLane data 1) (byteLane data 2) |||
        (if byteLane data 3 ≠ 0#8 then errorReserved else 0#8)
  else
    0#8

/-- `current_errors`, evaluated on the beat at the input port. -/
def currentErrors (tlastPerPacket : Bool) (wordIndex : BitVec 3) (data : BitVec 32)
    (keep : BitVec 4) (last : Bool) : BitVec 8 :=
  framingErrors tlastPerPacket wordIndex keep last ||| fieldErrors wordIndex data

/-- The registers after a cycle with `aresetn` low. -/
def reset : State where
  mAxisTdata := 0#32
  mAxisTkeep := 0#4
  mAxisTvalid := false
  mAxisTlast := false
  magic := 0#32
  version := 0#8
  messageType := 0#8
  side := 0#8
  reservedField := 0#8
  seq := 0#32
  timestampNs := 0#64
  instrumentId := 0#32
  priceTicks := 0#32
  quantity := 0#32
  packetValid := false
  packetError := false
  errorFlags := 0#8
  packetErrors := 0#8
  wordIndex := 0#3

/-- The `case (word_index)` that stores the fields of an accepted beat. -/
def storeFields (state : State) (data : BitVec 32) : State :=
  if state.wordIndex = 0#3 then { state with magic := byteSwap32 data }
  else if state.wordIndex = 1#3 then
    { state with
      version := byteLane data 0
      messageType := byteLane data 1
      side := byteLane data 2
      reservedField := byteLane data 3 }
  else if state.wordIndex = 2#3 then { state with seq := byteSwap32 data }
  else if state.wordIndex = 3#3 then
    { state with timestampNs := byteSwap32 data ++ state.timestampNs.extractLsb' 0 32 }
  else if state.wordIndex = 4#3 then
    { state with timestampNs := state.timestampNs.extractLsb' 32 32 ++ byteSwap32 data }
  else if state.wordIndex = 5#3 then { state with instrumentId := byteSwap32 data }
  else if state.wordIndex = 6#3 then { state with priceTicks := byteSwap32 data }
  else { state with quantity := byteSwap32 data }

/-- The packet boundary: the eighth beat publishes the result of its packet. -/
def closeBeat (state : State) (errors : BitVec 8) : State :=
  if state.wordIndex = 7#3 then
    { state with
      wordIndex := 0#3
      errorFlags := state.packetErrors ||| errors
      packetValid := state.packetErrors ||| errors = 0#8
      packetError := state.packetErrors ||| errors ≠ 0#8
      packetErrors := 0#8 }
  else
    { state with
      wordIndex := state.wordIndex + 1#3
      packetErrors := state.packetErrors ||| errors }

/-- The completion pulses are inactive unless a packet completes. -/
def clearPulses (state : State) : State :=
  { state with packetValid := false, packetError := false, errorFlags := 0#8 }

/-- The elastic output register. -/
def forward (old : State) (input : Input) (state : State) : State :=
  if sAxisTready old input then
    if input.sAxisTvalid then
      { state with
        mAxisTvalid := true
        mAxisTdata := input.sAxisTdata
        mAxisTkeep := input.sAxisTkeep
        mAxisTlast := input.sAxisTlast }
    else
      { state with mAxisTvalid := false }
  else
    state

/-- The clocked block. Every right-hand side reads the registers of the cycle
before, as non-blocking assignment does. -/
def next (tlastPerPacket : Bool) (aresetn : Bool) (state : State) (input : Input) : State :=
  if aresetn then
    let idle := clearPulses state
    let decoded :=
      if axisFire state input then
        closeBeat (storeFields idle input.sAxisTdata)
          (currentErrors tlastPerPacket state.wordIndex input.sAxisTdata input.sAxisTkeep
            input.sAxisTlast)
      else
        idle
    forward state input decoded
  else
    reset

end HftPipeline.Rtl.PacketParser
