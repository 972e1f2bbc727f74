import HftPipeline.Std.Pacing
import HftPipeline.Std.Slots
import HftPipeline.Host.LiveMismatches
import HftPipeline.Host.PacedSending

/-!
# `phase4_9_10k_batch_test.py`

The test writes a generated stream through the DMA in paced batches and compares what
comes back. The DMA stores what it receives into a buffer that the test has cleared, so a
transfer that stores less than was sent leaves zeros behind. The rate is an exact quotient.
-/

namespace HftPipeline.Host.BatchTest

open HftPipeline.Std HftPipeline.Std.Slots HftPipeline.Wire

/-- The constants of the module. -/
structure Config where
  totalPackets : Nat
  targetPps : Nat
  batchPackets : Nat

/-- The values they have. -/
def config : Config := ⟨10000, 10000, 256⟩

namespace Config

variable (config : Config)

/-- `PACKET_INTERVAL_NS`. -/
def packetIntervalNs : Nat := nanosecondsPerSecond / config.targetPps

/-- `total_batches`. -/
def totalBatches : Nat := (config.totalPackets + config.batchPackets - 1) / config.batchPackets

/-- `build_packet`. -/
def buildPacket (packetIndex : Nat) : Option Payload :=
  let sequence := packetIndex + 1
  let timestampNs := 0x1000000000000000 + sequence
  let packed (messageType side instrumentId priceTicks quantity : Nat) :=
    pack ⟨magicBytes, 1, messageType, side, 0, sequence, timestampNs, instrumentId, priceTicks,
      quantity⟩
  if packetIndex = 0 then packed 4 0 config.targetPps 1000 config.totalPackets
  else if packetIndex = config.totalPackets - 1 then packed 5 0 0 0 0
  else packed 1 (sequence &&& 1) (1 + packetIndex % 4) (100000 + packetIndex % 1000)
    (1 + packetIndex % 100)

/-- The packets of `packet_stream`, unless `struct.pack` raises. -/
def packets : Option (List Payload) := (List.range config.totalPackets).mapM config.buildPacket

/-- `packet_count` of a batch. -/
def packetCount (batchIndex : Nat) : Nat :=
  min config.batchPackets (config.totalPackets - batchIndex * config.batchPackets)

end Config

/-- What a transfer ends with: `recvchannel.transfer` raises, a later call raises, or the
engine has stored some bytes. -/
inductive Answer where
  | refused
  | failed
  | stored (bytes : List Byte)
deriving DecidableEq

/-- The DMA engine and what is behind it. The transfers are numbered from the warm-up. -/
abbrev Engine := Nat → List Byte → Answer

/-- The variables of the test. -/
structure Test where
  readings : Nat
  rxBuffer : List Byte
  completedPackets : Nat
  completedBatches : Nat
  mismatchedPackets : Nat
  dmaErrors : Nat
  deadlineMisses : Nat
  maximumLatenessNs : Nat
  mismatchExamples : List LiveReceiver.MismatchExample
  firstLaunchNs : Option Nat

/-- The first bytes of the receive buffer are cleared, and the engine stores at most as
many. -/
def receiveInto (rxBuffer : List Byte) (count : Nat) (bytes : List Byte) : List Byte :=
  store (store rxBuffer 0 (List.replicate count 0#8)) 0 (bytes.take count)

/-- How one turn of the loop ends. -/
inductive Turn where
  | goesOn (test : Test)
  | broken (test : Test)
  | raised

section Main

variable (config : Config) (engine : Engine) (ticks : Nat → Nat) (fuel : Nat)
  (packetStream : List Byte) (scheduleStartNs : Nat)

/-- `expected_batch`. -/
def expectedBatch (batchIndex : Nat) : List Byte :=
  (packetStream.drop (batchIndex * config.batchPackets * packetSize)).take
    (config.packetCount batchIndex * packetSize)

/-- `deadline_ns`. -/
def deadlineNs (batchIndex : Nat) : Nat :=
  scheduleStartNs + batchIndex * config.batchPackets * config.packetIntervalNs

/-- The launch of a batch, when the wait for its deadline has ended with a reading. -/
def launch (test : Test) (batchIndex ready : Nat) : Test :=
  let launchNs := ticks (ready + 1)
  let latenessNs := launchNs - deadlineNs config scheduleStartNs batchIndex
  { test with
    readings := ready + 2
    firstLaunchNs := test.firstLaunchNs.or (some launchNs)
    maximumLatenessNs := max test.maximumLatenessNs latenessNs
    deadlineMisses :=
      if latenessNs ≥ config.packetCount batchIndex * config.packetIntervalNs then
        test.deadlineMisses + 1
      else test.deadlineMisses }

/-- The rest of a turn, when the transfer has stored some bytes. The progress is printed
with one more reading of the clock. -/
def complete (test : Test) (batchIndex : Nat) (bytes : List Byte) : Test :=
  let firstPacket := batchIndex * config.batchPackets
  let packetCount := config.packetCount batchIndex
  let expected := expectedBatch config packetStream batchIndex
  let rxBuffer := receiveInto test.rxBuffer (packetCount * packetSize) bytes
  let compared := LiveReceiver.compareBatch expected (load rxBuffer 0 (packetCount * packetSize))
    firstPacket
  let completedPackets := test.completedPackets + packetCount
  let completedBatches := test.completedBatches + 1
  { test with
    readings :=
      if completedBatches % 4 = 0 ∨ completedPackets = config.totalPackets then test.readings + 1
      else test.readings
    rxBuffer := rxBuffer
    completedPackets := completedPackets
    completedBatches := completedBatches
    mismatchedPackets := test.mismatchedPackets + compared.1
    mismatchExamples := test.mismatchExamples ++
      compared.2.take (10 - test.mismatchExamples.length) }

/-- One turn of the loop, unless the fuel of its wait runs out. -/
def runBatch (test : Test) (batchIndex : Nat) : Option Turn :=
  match engine (batchIndex + 1) (expectedBatch config packetStream batchIndex) with
  | .refused => some .raised
  | answer => do
      let ready ← Pacing.waitUntil ticks (deadlineNs config scheduleStartNs batchIndex) fuel
        test.readings
      let launched := launch config ticks scheduleStartNs test batchIndex ready
      match answer with
      | .stored bytes => some (.goesOn (complete config packetStream launched batchIndex bytes))
      | _ => some (.broken { launched with dmaErrors := launched.dmaErrors + 1 })

/-- The loop over the batches, `none` inside for an exception. -/
def runBatches (test : Test) : List Nat → Option (Option Test)
  | [] => some (some test)
  | batchIndex :: rest => do
      match ← runBatch config engine ticks fuel packetStream scheduleStartNs test batchIndex with
      | .raised => some none
      | .broken test => some (some test)
      | .goesOn test => runBatches test rest

/-- What the test prints, with the reading behind its loop. -/
structure Results where
  test : Test
  finalCompletionNs : Nat

/-- The variables in front of the loop. -/
def Test.initial (rxBuffer : List Byte) : Test := ⟨1, rxBuffer, 0, 0, 0, 0, 0, 0, [], none⟩

/-- The warm-up transfer returns the first packet. -/
def warmUp (rxBuffer : List Byte) : Option (List Byte) :=
  match engine 0 (packetStream.take packetSize) with
  | .stored bytes =>
      let received := receiveInto rxBuffer packetSize bytes
      if load received 0 packetSize = packetStream.take packetSize then some received else none
  | _ => none

/-- `main`, over a receive buffer that may hold anything: `none` for a wait out of fuel, and
`none` inside for an exception. -/
def main (rxBuffer : List Byte) : Option (Option Results) :=
  match config.packets with
  | none => some none
  | some packets =>
      let packetStream := LiveReceiver.joinPackets packets
      match warmUp engine packetStream rxBuffer with
      | none => some none
      | some rxBuffer => do
          let test ← runBatches config engine ticks fuel packetStream (ticks 0 + 5000000)
            (.initial rxBuffer) (List.range config.totalBatches)
          return test.map fun test => ⟨test, ticks test.readings⟩

end Main

/-- `integrity_pass`. -/
def Results.integrityPass (config : Config) (results : Results) : Bool :=
  results.test.completedPackets == config.totalPackets &&
    results.test.completedBatches == config.totalBatches &&
    results.test.mismatchedPackets == 0 && results.test.dmaErrors == 0

/-- `completion_rate_pps`. -/
def Results.completionRatePps (results : Results) : ℚ :=
  match results.test.firstLaunchNs with
  | none => 0
  | some firstLaunchNs =>
      if results.finalCompletionNs > firstLaunchNs then
        results.test.completedPackets /
          ((results.finalCompletionNs - firstLaunchNs : Nat) / (nanosecondsPerSecond : ℚ))
      else 0

/-- `overall_pass`. -/
def Results.overallPass (config : Config) (results : Results) : Bool :=
  results.integrityPass config &&
    decide (results.completionRatePps ≥ config.targetPps * (99 / 100 : ℚ))

end HftPipeline.Host.BatchTest
