import HftPipeline.Host.Datagram

/-!
# `receive_market_stream_optimized2.c`

The C stream receiver reads up to 256 datagrams in one `recvmmsg` call. `State` is
`struct stream_state` with its fixed-width counters, without the times and system
statistics that only enter the printed rates, and with logs of the starts and of the
reports that are printed. Line 49 of the source is read as the comment that its
neighbours are.
-/

namespace HftPipeline.Host.CReceiver

open HftPipeline.Wire

/-- `MAX_PLANNED_PACKETS`. -/
def maxPlannedPackets : BitVec 32 := 10000000#32

/-- What `finish_stream` prints, without the measured rates and batch sizes. -/
structure Report where
  targetPps : BitVec 32
  actualSent : BitVec 32
  validPackets : BitVec 64
  missingPackets : BitVec 64
  invalidPackets : BitVec 64
  duplicatePackets : BitVec 64
  outOfOrderPackets : BitVec 64
  highestSequence : BitVec 32
  integrityOk : Bool
deriving DecidableEq

/-- What `print_stream_start` prints. -/
structure Started where
  sender : Address
  targetPps : BitVec 32
  durationMs : BitVec 32
  plannedPackets : BitVec 32
deriving DecidableEq

structure State where
  active : Bool
  sender : Address
  targetPps : BitVec 32
  plannedPackets : BitVec 32
  seenSequences : Option (List Byte)
  validPackets : BitVec 64
  invalidPackets : BitVec 64
  duplicatePackets : BitVec 64
  outOfOrderPackets : BitVec 64
  highestSequence : BitVec 32
  recvmmsgCalls : BitVec 64
  messagesReturned : BitVec 64
  maximumBatchReturned : BitVec 32
  starts : List Started
  reports : List Report
deriving DecidableEq

/-- `struct stream_state state = {0}`. -/
def State.initial : State where
  active := false
  sender := ⟨0#32, 0#16⟩
  targetPps := 0#32
  plannedPackets := 0#32
  seenSequences := none
  validPackets := 0#64
  invalidPackets := 0#64
  duplicatePackets := 0#64
  outOfOrderPackets := 0#64
  highestSequence := 0#32
  recvmmsgCalls := 0#64
  messagesReturned := 0#64
  maximumBatchReturned := 0#32
  starts := []
  reports := []

/-- `exit(EXIT_FAILURE)`, or an access outside the byte map. -/
inductive Stop where
  | exitFailure
  | undefinedBehaviour
deriving DecidableEq

/-- `load_be32`. -/
def loadBe32 (packet : Payload) (offset : Nat) : BitVec 32 :=
  packet.byte offset ++ packet.byte (offset + 1) ++ packet.byte (offset + 2) ++
    packet.byte (offset + 3)

/-- `same_sender`. Both addresses are of the family `AF_INET`. -/
def sameSender (first second : Address) : Bool :=
  first.port == second.port && first.ip == second.ip

/-- `if (state->active) state->invalid_packets++`. -/
def State.countInvalid (state : State) : State :=
  if state.active then { state with invalidPackets := state.invalidPackets + 1#64 } else state

/-- `reset_stream`. -/
def resetStream (allocated : Bool) (state : State) (sender : Address)
    (targetPps plannedPackets : BitVec 32) : Except Stop State :=
  if allocated then
    .ok { state with
      active := true
      sender := sender
      targetPps := targetPps
      plannedPackets := plannedPackets
      seenSequences := some (List.replicate (plannedPackets.toNat + 1) 0#8)
      validPackets := 0#64
      invalidPackets := 0#64
      duplicatePackets := 0#64
      outOfOrderPackets := 0#64
      highestSequence := 0#32
      recvmmsgCalls := 0#64
      messagesReturned := 0#64
      maximumBatchReturned := 0#32 }
  else .error .exitFailure

/-- `print_stream_start`. -/
def printStreamStart (durationMs : BitVec 32) (state : State) : State :=
  { state with
    starts := state.starts ++
      [⟨state.sender, state.targetPps, durationMs, state.plannedPackets⟩] }

/-- The two corrections of `actual_sent`. -/
def actualSent (quantity sequence plannedPackets : BitVec 32) : BitVec 32 :=
  let claimed := if quantity < 1#32 ∨ quantity > plannedPackets then sequence else quantity
  if claimed < 1#32 ∨ claimed > plannedPackets then plannedPackets else claimed

/-- `missing_packets`, with both operands widened to 64 bits. -/
def missingPackets (actualSent : BitVec 32) (validPackets : BitVec 64) : BitVec 64 :=
  if actualSent.setWidth 64 > validPackets then actualSent.setWidth 64 - validPackets else 0#64

/-- The report of `finish_stream`. -/
def report (state : State) (actualSent : BitVec 32) : Report :=
  let missing := missingPackets actualSent state.validPackets
  { targetPps := state.targetPps
    actualSent := actualSent
    validPackets := state.validPackets
    missingPackets := missing
    invalidPackets := state.invalidPackets
    duplicatePackets := state.duplicatePackets
    outOfOrderPackets := state.outOfOrderPackets
    highestSequence := state.highestSequence
    integrityOk :=
      actualSent == state.plannedPackets && missing == 0#64 && state.invalidPackets == 0#64 &&
        state.duplicatePackets == 0#64 && state.outOfOrderPackets == 0#64 }

/-- `finish_stream`. -/
def finishStream (state : State) (sequence quantity : BitVec 32) : State :=
  { state with
    reports := state.reports ++ [report state (actualSent quantity sequence state.plannedPackets)]
    active := false
    seenSequences := none }

/-- The end of `process_datagram`, for a sequence number not seen before. -/
def recordFirst (state : State) (seen : List Byte) (sequence : BitVec 32) : State :=
  { state with
    seenSequences := some (seen.set sequence.toNat 1#8)
    validPackets := state.validPackets + 1#64
    outOfOrderPackets :=
      if sequence < state.highestSequence then state.outOfOrderPackets + 1#64
      else state.outOfOrderPackets
    highestSequence :=
      if sequence > state.highestSequence then sequence else state.highestSequence }

/-- The lookup in the byte map and what follows it. -/
def recordQuote (state : State) (sequence : BitVec 32) : Except Stop State :=
  match state.seenSequences with
  | none => .error .undefinedBehaviour
  | some seen =>
      match seen[sequence.toNat]? with
      | none => .error .undefinedBehaviour
      | some mark =>
          if mark ≠ 0#8 then
            .ok { state with duplicatePackets := state.duplicatePackets + 1#64 }
          else .ok (recordFirst state seen sequence)

/-- `process_datagram` behind its length check. -/
def processPacket (state : State) (sender : Address) (allocated : Bool) (packet : Payload) :
    Except Stop State :=
  if packet.1.take 4 ≠ magicBytes ∨ packet.byte 4 ≠ 1#8 then .ok state.countInvalid
  else
    let messageType := packet.byte 5
    let side := packet.byte 6
    let flags := packet.byte 7
    let sequence := loadBe32 packet 8
    if messageType = 4#8 then
      let targetPps := loadBe32 packet 20
      let durationMs := loadBe32 packet 24
      let plannedPackets := loadBe32 packet 28
      if targetPps < 1#32 ∨ durationMs < 1#32 ∨ plannedPackets < 1#32 ∨
          plannedPackets > maxPlannedPackets then
        .ok state
      else
        (resetStream allocated state sender targetPps plannedPackets).map
          (printStreamStart durationMs)
    else if messageType = 5#8 then
      if state.active = false ∨ sameSender sender state.sender = false then .ok state
      else .ok (finishStream state sequence (loadBe32 packet 28))
    else if state.active = false then .ok state
    else if sameSender sender state.sender = false then
      .ok { state with invalidPackets := state.invalidPackets + 1#64 }
    else if messageType ≠ 1#8 ∨ side > 1#8 ∨ flags ≠ 0#8 ∨ sequence < 1#32 ∨
        sequence > state.plannedPackets then
      .ok { state with invalidPackets := state.invalidPackets + 1#64 }
    else recordQuote state sequence

/-- `process_datagram`. -/
def processDatagram (state : State) (arrival : Arrival) : Except Stop State :=
  match datagramPayload arrival.datagram with
  | none => .ok state.countInvalid
  | some packet =>
      processPacket state arrival.datagram.sender arrival.allocated packet

/-- The counters of a call of `recvmmsg` that was started while a stream was active. -/
def State.countCall (state : State) (received : Nat) : State :=
  if state.active then
    { state with
      recvmmsgCalls := state.recvmmsgCalls + 1#64
      messagesReturned := state.messagesReturned + BitVec.ofNat 64 received
      maximumBatchReturned :=
        if BitVec.ofNat 32 received > state.maximumBatchReturned then BitVec.ofNat 32 received
        else state.maximumBatchReturned }
  else state

/-- One call of `recvmmsg` and the loop over its datagrams. -/
def receiveCall (state : State) (received : List Arrival) : Except Stop State :=
  received.foldlM processDatagram (state.countCall received.length)

/-- The receive loop of `main`, for the calls that return before a signal. -/
def main (calls : List (List Arrival)) : Except Stop State := calls.foldlM receiveCall .initial

/-- `main` inside the loop over one more call, when its first datagrams are processed. -/
def mainWithin (calls : List (List Arrival)) (received : List Arrival) (processed : Nat) :
    Except Stop State := do
  let state ← main calls
  (received.take processed).foldlM processDatagram (state.countCall received.length)

end HftPipeline.Host.CReceiver
