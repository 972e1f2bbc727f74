import Mathlib.Data.Rat.Defs
import HftPipeline.Host.PythonReceiver

/-!
# `receive_market_stream_2.py`

The receiver of the paced sender has control types of its own, does not look at the
flags, and reports a stream without an end marker when nothing has arrived for two
seconds. `StreamTest` is the class of the source with a log of its reports; times
that only enter the printed rates are left out.
-/

namespace HftPipeline.Host.PacedReceiver

open HftPipeline.Wire
open PythonReceiver (Stop)

/-- `MAX_PLANNED_PACKETS`. -/
def maxPlannedPackets : Nat := 10000000

def messageQuote : Nat := 1
def controlStart : Nat := 254
def controlEnd : Nat := 255

/-- `INACTIVITY_TIMEOUT_SECONDS`. -/
def inactivityTimeoutSeconds : ℚ := 2

/-- What `finish` prints, without the measured rates. -/
structure Report where
  timedOut : Bool
  targetRate : Nat
  packetsSent : Nat
  validPackets : Nat
  missingPackets : Nat
  invalidPackets : Nat
  duplicatePackets : Nat
  outOfOrderPackets : Nat
  highestSequence : Nat
  integrityOk : Bool
deriving DecidableEq

structure StreamTest where
  active : Bool
  sender : Option Address
  targetRate : Nat
  plannedPackets : Nat
  seen : Option (List Byte)
  validPackets : Nat
  invalidPackets : Nat
  duplicatePackets : Nat
  outOfOrderPackets : Nat
  highestSequence : Nat
  lastActivityTime : Option ℚ
  reports : List Report
deriving DecidableEq

namespace StreamTest

/-- `__init__`. -/
def initial : StreamTest where
  active := false
  sender := none
  targetRate := 0
  plannedPackets := 0
  seen := none
  validPackets := 0
  invalidPackets := 0
  duplicatePackets := 0
  outOfOrderPackets := 0
  highestSequence := 0
  lastActivityTime := none
  reports := []

/-- `start`, when the byte map can be allocated. -/
def start (test : StreamTest) (sender : Address) (targetRate plannedPackets : Nat) (now : ℚ) :
    StreamTest :=
  { test with
    active := true
    sender := some sender
    targetRate := targetRate
    plannedPackets := plannedPackets
    seen := some (List.replicate (plannedPackets + 1) 0#8)
    validPackets := 0
    invalidPackets := 0
    duplicatePackets := 0
    outOfOrderPackets := 0
    highestSequence := 0
    lastActivityTime := some now }

/-- `record_invalid_packet`. -/
def recordInvalidPacket (test : StreamTest) (now : ℚ) : StreamTest :=
  { test with
    invalidPackets := test.invalidPackets + 1
    lastActivityTime := some now }

/-- The end of `record_valid_packet`, for a sequence number not seen before. -/
def recordFirst (test : StreamTest) (seen : List Byte) (sequence : Nat) (now : ℚ) : StreamTest :=
  { test with
    seen := some (seen.set sequence 1#8)
    outOfOrderPackets :=
      if sequence < test.highestSequence then test.outOfOrderPackets + 1
      else test.outOfOrderPackets
    highestSequence :=
      if sequence > test.highestSequence then sequence else test.highestSequence
    validPackets := test.validPackets + 1
    lastActivityTime := some now }

/-- `record_valid_packet`. -/
def recordValidPacket (test : StreamTest) (sequence : Nat) (now : ℚ) : Except Stop StreamTest :=
  match test.seen with
  | none => .error .subscriptError
  | some seen =>
      match seen[sequence]? with
      | none => .error .subscriptError
      | some mark =>
          if mark ≠ 0#8 then
            .ok { test with
              duplicatePackets := test.duplicatePackets + 1
              lastActivityTime := some now }
          else .ok (recordFirst test seen sequence now)

/-- `finish`, where `none` stands for a missing end marker. -/
def finish (test : StreamTest) (packetsSent : Option Nat) (timedOut : Bool) : StreamTest :=
  if test.active = false then test
  else
    let packetsSent := min (packetsSent.getD test.plannedPackets) test.plannedPackets
    let missingPackets := packetsSent - test.validPackets
    { test with
      reports := test.reports ++ [
        { timedOut := timedOut
          targetRate := test.targetRate
          packetsSent := packetsSent
          validPackets := test.validPackets
          missingPackets := missingPackets
          invalidPackets := test.invalidPackets
          duplicatePackets := test.duplicatePackets
          outOfOrderPackets := test.outOfOrderPackets
          highestSequence := test.highestSequence
          integrityOk :=
            packetsSent == test.plannedPackets && missingPackets == 0 &&
              test.invalidPackets == 0 && test.duplicatePackets == 0 &&
              test.outOfOrderPackets == 0 }]
      active := false
      sender := none
      seen := none }

end StreamTest

/-- `valid_start_control`. -/
def validStartControl (targetRate durationMs plannedPackets : Nat) : Bool :=
  targetRate > 0 && durationMs > 0 && (0 < plannedPackets && plannedPackets ≤ maxPlannedPackets)

/-- The body of the loop behind the size check. -/
def processPacket (test : StreamTest) (sender : Address) (allocated : Bool) (now : ℚ)
    (fields : Fields) : Except Stop StreamTest :=
  if fields.magic ≠ magicBytes ∨ fields.version ≠ 1 then
    .ok (if test.active then test.recordInvalidPacket now else test)
  else if fields.messageType = controlStart then
    if validStartControl fields.instrumentId fields.priceTicks fields.quantity then
      if allocated then .ok (test.start sender fields.instrumentId fields.quantity now)
      else .error .memoryError
    else .ok test
  else if fields.messageType = controlEnd then
    if test.active = true ∧ some sender = test.sender then
      .ok ({ test with lastActivityTime := some now }.finish (some fields.quantity) false)
    else .ok test
  else if test.active = false then .ok test
  else if some sender ≠ test.sender then .ok (test.recordInvalidPacket now)
  else if fields.messageType ≠ messageQuote ∨ ¬(fields.side = 0 ∨ fields.side = 1) ∨
      ¬(1 ≤ fields.sequence ∧ fields.sequence ≤ test.plannedPackets) then
    .ok (test.recordInvalidPacket now)
  else test.recordValidPacket fields.sequence now

/-- What a receive call ends with, and the time read behind it. -/
inductive Event where
  | timeout (now : ℚ)
  | received (arrival : Arrival) (now : ℚ)

/-- One turn of the loop of `main`. -/
def receive (test : StreamTest) : Event → Except Stop StreamTest
  | .timeout now =>
      match test.lastActivityTime with
      | none => .ok test
      | some lastActivityTime =>
          if test.active = true ∧ now - lastActivityTime ≥ inactivityTimeoutSeconds then
            .ok (test.finish none true)
          else .ok test
  | .received arrival now =>
      match datagramPayload arrival.datagram with
      | none => .ok (if test.active then test.recordInvalidPacket now else test)
      | some payload =>
          processPacket test arrival.datagram.sender arrival.allocated now (unpack payload)

/-- `main`, for the receive calls before it is interrupted. -/
def run (events : List Event) : Except Stop StreamTest := events.foldlM receive .initial

end HftPipeline.Host.PacedReceiver
