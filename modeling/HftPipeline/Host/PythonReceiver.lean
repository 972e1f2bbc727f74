import HftPipeline.Host.Datagram

/-!
# `receive_market_stream_optimized.py`

The Python stream receiver reads one datagram at a time. `State` holds the
variables of `main` that its decisions depend on, with logs of the starts and of the
summaries it has printed. Times and system statistics are left out: they only enter
the printed rates.
-/

namespace HftPipeline.Host

open HftPipeline.Wire

namespace PythonReceiver

/-- `MAX_PLANNED_PACKETS`. -/
def maxPlannedPackets : Nat := 10000000

/-- What `print_summary` prints, without the measured rates. -/
structure Summary where
  targetPps : Nat
  actualSent : Nat
  validPackets : Nat
  missingPackets : Nat
  invalidPackets : Nat
  duplicatePackets : Nat
  outOfOrderPackets : Nat
  highestSequence : Nat
  integrityOk : Bool
deriving DecidableEq

/-- What the `STREAM_START` branch prints. -/
structure Started where
  sender : Address
  targetPps : Nat
  durationMs : Nat
  plannedPackets : Nat
deriving DecidableEq

structure State where
  streamActive : Bool
  activeSender : Option Address
  targetPps : Nat
  plannedPackets : Nat
  seenSequences : Option (List Byte)
  validPackets : Nat
  invalidPackets : Nat
  duplicatePackets : Nat
  outOfOrderPackets : Nat
  highestSequence : Nat
  starts : List Started
  summaries : List Summary
deriving DecidableEq

def State.initial : State where
  streamActive := false
  activeSender := none
  targetPps := 0
  plannedPackets := 0
  seenSequences := none
  validPackets := 0
  invalidPackets := 0
  duplicatePackets := 0
  outOfOrderPackets := 0
  highestSequence := 0
  starts := []
  summaries := []

/-- The exceptions that end the receiver. -/
inductive Stop where
  | memoryError
  | subscriptError
deriving DecidableEq

/-- `if stream_active: invalid_packets += 1`. -/
def State.countInvalid (state : State) : State :=
  if state.streamActive then { state with invalidPackets := state.invalidPackets + 1 } else state

/-- The `STREAM_START` branch behind its range check. -/
def startStream (state : State) (sender : Address) (targetPps durationMs plannedPackets : Nat) :
    State :=
  { state with
    streamActive := true
    activeSender := some sender
    targetPps := targetPps
    plannedPackets := plannedPackets
    seenSequences := some (List.replicate (plannedPackets + 1) 0#8)
    validPackets := 0
    invalidPackets := 0
    duplicatePackets := 0
    outOfOrderPackets := 0
    highestSequence := 0
    starts := state.starts ++ [⟨sender, targetPps, durationMs, plannedPackets⟩] }

/-- The `actual_sent` of the `STREAM_END` branch. -/
def actualSent (quantity sequence plannedPackets : Nat) : Nat :=
  let claimed := if 1 ≤ quantity ∧ quantity ≤ plannedPackets then quantity else sequence
  if 1 ≤ claimed ∧ claimed ≤ plannedPackets then claimed else plannedPackets

/-- `print_summary`. -/
def printSummary (state : State) (actualSent : Nat) : Summary :=
  let missingPackets := actualSent - state.validPackets
  { targetPps := state.targetPps
    actualSent := actualSent
    validPackets := state.validPackets
    missingPackets := missingPackets
    invalidPackets := state.invalidPackets
    duplicatePackets := state.duplicatePackets
    outOfOrderPackets := state.outOfOrderPackets
    highestSequence := state.highestSequence
    integrityOk :=
      actualSent == state.plannedPackets && missingPackets == 0 && state.invalidPackets == 0 &&
        state.duplicatePackets == 0 && state.outOfOrderPackets == 0 }

/-- The `STREAM_END` branch behind its sender check. -/
def endStream (state : State) (quantity sequence : Nat) : State :=
  { state with
    summaries := state.summaries ++
      [printSummary state (actualSent quantity sequence state.plannedPackets)]
    streamActive := false
    activeSender := none
    seenSequences := none }

/-- The end of the loop body, for a sequence number not seen before. -/
def recordFirst (state : State) (seen : List Byte) (sequence : Nat) : State :=
  { state with
    seenSequences := some (seen.set sequence 1#8)
    validPackets := state.validPackets + 1
    outOfOrderPackets :=
      if sequence < state.highestSequence then state.outOfOrderPackets + 1
      else state.outOfOrderPackets
    highestSequence :=
      if sequence > state.highestSequence then sequence else state.highestSequence }

/-- The lookup in the byte map and what follows it. Subscripting `None` or a place
behind the end raises. -/
def recordQuote (state : State) (sequence : Nat) : Except Stop State :=
  match state.seenSequences with
  | none => .error .subscriptError
  | some seen =>
      match seen[sequence]? with
      | none => .error .subscriptError
      | some mark =>
          if mark ≠ 0#8 then .ok { state with duplicatePackets := state.duplicatePackets + 1 }
          else .ok (recordFirst state seen sequence)

/-- The body of the loop behind the size check. -/
def processPacket (state : State) (sender : Address) (allocated : Bool) (fields : Fields) :
    Except Stop State :=
  if fields.magic ≠ magicBytes ∨ fields.version ≠ 1 then .ok state.countInvalid
  else if fields.messageType = messageStreamStart then
    if fields.instrumentId < 1 ∨ fields.priceTicks < 1 ∨ fields.quantity < 1 ∨
        fields.quantity > maxPlannedPackets then
      .ok state
    else if allocated then
      .ok (startStream state sender fields.instrumentId fields.priceTicks fields.quantity)
    else .error .memoryError
  else if fields.messageType = messageStreamEnd then
    if state.streamActive = false ∨ some sender ≠ state.activeSender then .ok state
    else .ok (endStream state fields.quantity fields.sequence)
  else if state.streamActive = false then .ok state
  else if some sender ≠ state.activeSender then
    .ok { state with invalidPackets := state.invalidPackets + 1 }
  else if fields.messageType ≠ messageQuoteUpdate ∨ ¬(fields.side = 0 ∨ fields.side = 1) ∨
      fields.reserved ≠ 0 ∨ ¬(1 ≤ fields.sequence ∧ fields.sequence ≤ state.plannedPackets) then
    .ok { state with invalidPackets := state.invalidPackets + 1 }
  else recordQuote state fields.sequence

/-- One turn of the loop of `main`. -/
def receive (state : State) (arrival : Arrival) : Except Stop State :=
  match datagramPayload arrival.datagram with
  | none => .ok state.countInvalid
  | some payload =>
      processPacket state arrival.datagram.sender arrival.allocated (unpack payload)

/-- `main`, for the datagrams it reads before it is interrupted. -/
def run (arrivals : List Arrival) : Except Stop State := arrivals.foldlM receive .initial

end PythonReceiver

end HftPipeline.Host
