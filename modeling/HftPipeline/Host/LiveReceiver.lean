import Mathlib
import HftPipeline.Std.EarlyExit
import HftPipeline.Host.Datagram

/-!
# `phase4_9_live_udp_recvmmsg_dma.py`

The live receiver reads groups of datagrams through `receive_udp_dma.c`, counts
and classifies each of them, and passes the correctly sized payloads to the FPGA
in batches. `State` holds the variables of `main` that outlive one datagram,
grouped by the code that writes them, with a log of the batches given to
`transfer_batch`. The DMA engine is a parameter: for each transfer it returns the
bytes of the receive buffer, or raises.
-/

namespace HftPipeline.Host

open HftPipeline.Std.EarlyExit HftPipeline.Wire

namespace LiveReceiver

/-- `struct hft_rx_slot`. `truncated` is the bit `MSG_TRUNC` of `flags`. -/
structure ReceivedSlot where
  length : Nat
  truncated : Bool
  sender : Address
  payload : Payload

def zeroPayload : Payload := ⟨List.replicate packetSize 0#8, List.length_replicate⟩

/-- The slot that `hft_receiver_receive` fills for one datagram. The kernel marks a
datagram that it has shortened. -/
def receiveSlot (datagram : Datagram) : ReceivedSlot where
  length := datagram.stored.length
  truncated := decide (maxDatagramSize < datagram.bytes.length)
  sender := datagram.sender
  payload :=
    if sized : datagram.stored.length = packetSize ∧ ¬maxDatagramSize < datagram.bytes.length then
      ⟨datagram.stored, sized.1⟩
    else
      zeroPayload

/-- What one call of `hft_receiver_receive` ends with. -/
inductive ReceiveResult where
  | messages (datagrams : List Datagram)
  | timeout
  | interrupted
  | failed (errno : Nat)
  | keyboardInterrupt

/-- The receive buffer after the transfer of some bytes, or `none` for an
exception. The transfers of a run are numbered from zero. -/
abbrev Dma := Nat → List Byte → Option (List Byte)

/-- One entry of `mismatch_examples`. -/
structure MismatchExample where
  packetIndex : Nat
  expected : List Byte
  received : List Byte
deriving DecidableEq

/-- The variables of the sequence classification. -/
structure Sequences where
  missing : Nat
  duplicate : Nat
  outOfOrder : Nat
  seen : Finset Nat
  highest : Option Nat
deriving DecidableEq

/-- What the last `STREAM_START` announced. -/
structure Announced where
  plannedPackets : Option Nat
  pps : Option Nat
  durationMs : Option Nat
deriving DecidableEq

/-- The variables that `flush_pending` shares with `main`. -/
structure Delivery where
  dmaBatches : Nat
  dmaPackets : Nat
  dmaErrors : Nat
  mismatchedPackets : Nat
  mismatchExamples : List MismatchExample
  pendingPackets : List Payload
  pendingFirstIndex : Nat
  transfers : List (List Payload)
deriving DecidableEq

/-- The variables that the datagrams received so far determine. -/
structure State where
  receivedPackets : Nat
  validPackets : Nat
  invalidPackets : Nat
  malformedLengths : Nat
  quotePackets : Nat
  streamStartPackets : Nat
  streamEndPackets : Nat
  sequences : Sequences
  announced : Announced
  delivery : Delivery
  senderAddress : Option Address
  streamEndSeen : Bool
  timedOut : Bool
  dmaFailed : Bool
deriving DecidableEq

/-- The variables that count the calls of `hft_receiver_receive`. -/
structure Calls where
  recvmmsgCalls : Nat
  messagesReturned : Nat
  maximumReceiveBatch : Nat
deriving DecidableEq

def Sequences.initial : Sequences := ⟨0, 0, 0, ∅, none⟩

def Announced.initial : Announced := ⟨none, none, none⟩

def Delivery.initial : Delivery := ⟨0, 0, 0, 0, [], [], 0, []⟩

def State.initial : State where
  receivedPackets := 0
  validPackets := 0
  invalidPackets := 0
  malformedLengths := 0
  quotePackets := 0
  streamStartPackets := 0
  streamEndPackets := 0
  sequences := .initial
  announced := .initial
  delivery := .initial
  senderAddress := none
  streamEndSeen := false
  timedOut := false
  dmaFailed := false

def Calls.initial : Calls := ⟨0, 0, 0⟩

/-- The bytes of one packet of a buffer. -/
def packetSlice (bytes : List Byte) (localIndex : Nat) : List Byte :=
  (bytes.drop (localIndex * packetSize)).take packetSize

/-- The body of the loop of `compare_batch`. -/
def compareSlot (expected received : List Byte) (firstStreamIndex : Nat)
    (result : Nat × List MismatchExample) (localIndex : Nat) : Nat × List MismatchExample :=
  if packetSlice expected localIndex ≠ packetSlice received localIndex then
    (result.1 + 1,
      if result.2.length < 5 then
        result.2 ++ [⟨firstStreamIndex + localIndex, packetSlice expected localIndex,
          packetSlice received localIndex⟩]
      else result.2)
  else result

/-- `compare_batch`: the number of mismatches and up to five examples. -/
def compareBatch (expected received : List Byte) (firstStreamIndex : Nat) :
    Nat × List MismatchExample :=
  (List.range (expected.length / packetSize)).foldl
    (compareSlot expected received firstStreamIndex) (0, [])

/-- `b"".join(packets)`. -/
def joinPackets (packets : List Payload) : List Byte := packets.flatMap Subtype.val

/-- `max_batch_bytes`, the size of both DMA buffers. -/
def maxBatchBytes (batchPackets : Nat) : Nat := batchPackets * packetSize

/-- `transfer_batch`, with `none` for an exception. The slice of `tx_buffer` ends
with the buffer, so assigning more bytes than it has raises. -/
def transferBatch (dma : Dma) (bufferBytes attempt : Nat) (packets : List Payload) :
    Option (List Byte × List Byte) :=
  let expected := joinPackets packets
  if bufferBytes < expected.length then none
  else (dma attempt expected).map fun received => (expected, received.take expected.length)

/-- `flush_pending`, with the value it returns. -/
def flushPending (dma : Dma) (batchPackets receivedPackets : Nat) (delivery : Delivery) :
    Delivery × Bool :=
  if delivery.pendingPackets = [] then (delivery, true)
  else
    let started := { delivery with transfers := delivery.transfers ++ [delivery.pendingPackets] }
    match transferBatch dma (maxBatchBytes batchPackets) delivery.transfers.length
        delivery.pendingPackets with
    | none => ({ started with dmaErrors := delivery.dmaErrors + 1 }, false)
    | some (expected, received) =>
        let compared := compareBatch expected received delivery.pendingFirstIndex
        ({ started with
            mismatchedPackets := delivery.mismatchedPackets + compared.1
            mismatchExamples := delivery.mismatchExamples ++
              compared.2.take (10 - delivery.mismatchExamples.length)
            dmaBatches := delivery.dmaBatches + 1
            dmaPackets := delivery.dmaPackets + delivery.pendingPackets.length
            pendingPackets := []
            pendingFirstIndex := receivedPackets }, true)

/-- `if not flush_pending(): dma_failed = True`. -/
def State.flush (dma : Dma) (batchPackets : Nat) (state : State) : State :=
  let flushed := flushPending dma batchPackets state.receivedPackets state.delivery
  { state with
    delivery := flushed.1
    dmaFailed := state.dmaFailed || !flushed.2 }

/-- The classification of the sequence number of a valid packet. -/
def Sequences.record (sequences : Sequences) (sequence : Nat) : Sequences :=
  let classified :=
    if sequence ∈ sequences.seen then
      { sequences with duplicate := sequences.duplicate + 1 }
    else match sequences.highest with
      | none => { sequences with highest := some sequence }
      | some highest =>
          if sequence < highest then
            { sequences with outOfOrder := sequences.outOfOrder + 1 }
          else
            { sequences with
              missing :=
                if sequence > highest + 1 then sequences.missing + (sequence - highest - 1)
                else sequences.missing
              highest := some sequence }
  { classified with seen := insert sequence classified.seen }

/-- The effect of the message type of a valid packet. -/
def recordType (state : State) (fields : Fields) : State :=
  if fields.messageType = messageQuoteUpdate then
    { state with quotePackets := state.quotePackets + 1 }
  else if fields.messageType = messageStreamStart then
    { state with
      streamStartPackets := state.streamStartPackets + 1
      announced := {
        pps := some fields.instrumentId
        durationMs := some fields.priceTicks
        plannedPackets := some fields.quantity } }
  else if fields.messageType = messageStreamEnd then
    { state with
      streamEndPackets := state.streamEndPackets + 1
      streamEndSeen := true }
  else state

/-- The validity branch of the loop body. -/
def classify (state : State) (fields : Fields) : State :=
  if protocolIsValid fields then
    recordType
      { state with
        validPackets := state.validPackets + 1
        sequences := state.sequences.record fields.sequence }
      fields
  else { state with invalidPackets := state.invalidPackets + 1 }

/-- `pending_packets.append(payload)`, with the index of the first pending packet. -/
def Delivery.queue (delivery : Delivery) (receivedPackets : Nat) (payload : Payload) : Delivery :=
  { delivery with
    pendingFirstIndex :=
      if delivery.pendingPackets = [] then receivedPackets - 1 else delivery.pendingFirstIndex
    pendingPackets := delivery.pendingPackets ++ [payload] }

/-- The counters of a datagram of any length. -/
def arrive (state : State) (sender : Address) : State :=
  { state with
    senderAddress := state.senderAddress.or (some sender)
    receivedPackets := state.receivedPackets + 1 }

/-- The rest of the loop body for a payload of the right size. -/
def processPayload (dma : Dma) (batchPackets : Nat) (state : State) (payload : Payload) : State :=
  let classified := classify state (unpack payload)
  let queued :=
    { classified with
      delivery := classified.delivery.queue classified.receivedPackets payload }
  if queued.delivery.pendingPackets.length = batchPackets ∨ queued.streamEndSeen = true then
    queued.flush dma batchPackets
  else queued

/-- The body of the loop over one group. -/
def processSlot (dma : Dma) (batchPackets : Nat) (state : State) (slot : ReceivedSlot) : State :=
  let arrived := arrive state slot.sender
  if slot.length ≠ packetSize ∨ slot.truncated = true then
    { arrived with
      malformedLengths := state.malformedLengths + 1
      invalidPackets := state.invalidPackets + 1 }
  else processPayload dma batchPackets arrived slot.payload

/-- Both loops are left after a `STREAM_END` and after a failed transfer. -/
def State.stopped (state : State) : Bool := state.streamEndSeen || state.dmaFailed

/-- The loop over one group. -/
def processSlots (dma : Dma) (batchPackets : Nat) (state : State) (slots : List ReceivedSlot) :
    State :=
  runUntil (processSlot dma batchPackets) State.stopped state slots

/-- The counters after a call that returned messages. -/
def Calls.returned (calls : Calls) (count : Nat) : Calls where
  recvmmsgCalls := calls.recvmmsgCalls + 1
  messagesReturned := calls.messagesReturned + count
  maximumReceiveBatch := max calls.maximumReceiveBatch count

/-- How far a run has come. -/
inductive Ending where
  | waiting
  | finished
  | raised (errno : Nat)
deriving DecidableEq

/-- A run after a number of receive calls. -/
structure Outcome where
  ending : Ending
  calls : Calls
  state : State

/-- The flush behind the loop, for a batch that is still pending. -/
def finalFlush (dma : Dma) (batchPackets : Nat) (state : State) : State :=
  if state.dmaFailed then state else state.flush dma batchPackets

/-- The receive loop and what follows it. -/
def receiveLoop (dma : Dma) (batchPackets : Nat) (calls : Calls) (state : State) :
    List ReceiveResult → Outcome
  | [] =>
      if state.stopped then ⟨.finished, calls, finalFlush dma batchPackets state⟩
      else ⟨.waiting, calls, state⟩
  | result :: results =>
      if state.stopped then ⟨.finished, calls, finalFlush dma batchPackets state⟩
      else match result with
        | .messages datagrams =>
            receiveLoop dma batchPackets (calls.returned datagrams.length)
              (processSlots dma batchPackets state (datagrams.map receiveSlot)) results
        | .timeout =>
            ⟨.finished, calls, finalFlush dma batchPackets { state with timedOut := true }⟩
        | .interrupted => receiveLoop dma batchPackets calls state results
        | .failed errno => ⟨.raised errno, calls, state⟩
        -- The handler flushes without recording a failure in `dma_failed`.
        | .keyboardInterrupt =>
            ⟨.finished, calls,
              { state with
                delivery :=
                  (flushPending dma batchPackets state.receivedPackets state.delivery).1 }⟩

/-- `main`, behind its argument checks, for the results of its receive calls. -/
def main (dma : Dma) (batchPackets : Nat) (results : List ReceiveResult) : Outcome :=
  receiveLoop dma batchPackets .initial .initial results

/-- `planned_count_matches`. -/
def plannedCountMatches (state : State) : Bool :=
  match state.announced.plannedPackets with
  | none => true
  | some planned => state.receivedPackets == planned

/-- `overall_pass`. -/
def overallPass (state : State) : Bool :=
  state.streamEndSeen && !state.timedOut && decide (state.receivedPackets > 0) &&
    state.validPackets == state.receivedPackets && state.malformedLengths == 0 &&
    state.sequences.missing == 0 && state.sequences.duplicate == 0 &&
    state.sequences.outOfOrder == 0 && state.delivery.dmaPackets == state.receivedPackets &&
    state.delivery.mismatchedPackets == 0 && state.delivery.dmaErrors == 0 &&
    !state.dmaFailed && plannedCountMatches state

end LiveReceiver

end HftPipeline.Host
