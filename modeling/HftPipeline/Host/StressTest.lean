import HftPipeline.Host.BatchVerdict

/-!
# `phase4_9_10k_stress_test.py`

The stress test sends every packet of the stream in a transfer of its own. What it counts
about the data is what the batch test counts with batches of one packet, whatever the two
clocks show. The rates are exact quotients.
-/

namespace HftPipeline.Host.StressTest

open HftPipeline.Std HftPipeline.Std.Slots HftPipeline.Wire
open BatchTest (Config Answer Engine receiveInto)

/-- The values of the constants, with transfers of one packet. -/
def config : Config := ⟨10000, 10000, 1⟩

/-- `PROGRESS_INTERVAL`. -/
def progressInterval : Nat := 1000

/-- The variables of the test. -/
structure Test where
  readings : Nat
  rxBuffer : List Byte
  completedPackets : Nat
  mismatchedPackets : Nat
  dmaErrors : Nat
  deadlineMisses : Nat
  maximumLatenessNs : Nat
  mismatchExamples : List LiveReceiver.MismatchExample
  firstLaunchNs : Option Nat
  lastLaunchNs : Option Nat

/-- How one turn of the loop ends. -/
inductive Turn where
  | goesOn (test : Test)
  | broken (test : Test)
  | raised

section Main

variable (config : Config) (engine : Engine) (ticks : Nat → Nat) (fuel scheduleStartNs : Nat)

/-- The launch of a packet, when the wait for its deadline has ended with a reading. -/
def launch (test : Test) (packetIndex ready : Nat) : Test :=
  let deadlineNs := scheduleStartNs + packetIndex * config.packetIntervalNs
  let launchNs := ticks (ready + 1)
  let latenessNs := launchNs - deadlineNs
  { test with
    readings := ready + 2
    firstLaunchNs := test.firstLaunchNs.or (some launchNs)
    lastLaunchNs := some launchNs
    maximumLatenessNs := max test.maximumLatenessNs latenessNs
    deadlineMisses :=
      if latenessNs ≥ config.packetIntervalNs then test.deadlineMisses + 1
      else test.deadlineMisses }

/-- The rest of a turn, when the transfer has stored some bytes. -/
def complete (test : Test) (packetIndex : Nat) (packet : Payload) (bytes : List Byte) : Test :=
  let rxBuffer := receiveInto test.rxBuffer packetSize bytes
  let received := load rxBuffer 0 packetSize
  let completedPackets := test.completedPackets + 1
  { test with
    readings :=
      if completedPackets % progressInterval = 0 then test.readings + 1 else test.readings
    rxBuffer := rxBuffer
    completedPackets := completedPackets
    mismatchedPackets :=
      if received ≠ packet.1 then test.mismatchedPackets + 1 else test.mismatchedPackets
    mismatchExamples :=
      if received ≠ packet.1 ∧ test.mismatchExamples.length < 10 then
        test.mismatchExamples ++ [⟨packetIndex, packet.1, received⟩]
      else test.mismatchExamples }

/-- One turn of the loop, unless the fuel of its wait runs out. The transfers are numbered
from the warm-up. -/
def runPacket (test : Test) (packet : Payload) (packetIndex : Nat) : Option Turn :=
  match engine (packetIndex + 1) packet.1 with
  | .refused => some .raised
  | answer => do
      let deadlineNs := scheduleStartNs + packetIndex * config.packetIntervalNs
      let ready ← Pacing.waitUntil ticks deadlineNs fuel test.readings
      let launched := launch config ticks scheduleStartNs test packetIndex ready
      match answer with
      | .stored bytes => some (.goesOn (complete launched packetIndex packet bytes))
      | _ => some (.broken { launched with dmaErrors := launched.dmaErrors + 1 })

/-- The loop over the numbered packets, `none` inside for an exception. -/
def runPackets (test : Test) : List (Payload × Nat) → Option (Option Test)
  | [] => some (some test)
  | (packet, packetIndex) :: rest => do
      match ← runPacket config engine ticks fuel scheduleStartNs test packet packetIndex with
      | .raised => some none
      | .broken test => some (some test)
      | .goesOn test => runPackets test rest

end Main

/-- `transfer_packet` with the first packet, which has to come back. -/
def warmUp (engine : Engine) (packets : List Payload) (rxBuffer : List Byte) : Option (List Byte) :=
  match packets.head? with
  | none => none
  | some packet =>
      match engine 0 packet.1 with
      | .stored bytes =>
          let received := receiveInto rxBuffer packetSize bytes
          if load received 0 packetSize = packet.1 then some received else none
      | _ => none

/-- The variables in front of the loop. -/
def Test.initial (rxBuffer : List Byte) : Test := ⟨1, rxBuffer, 0, 0, 0, 0, 0, [], none, none⟩

/-- What the test prints, with the reading behind its loop. -/
structure Results where
  test : Test
  finalCompletionNs : Nat

/-- `main`, over a receive buffer that may hold anything: `none` for a wait out of fuel, and
`none` inside for an exception. -/
def main (config : Config) (engine : Engine) (ticks : Nat → Nat) (fuel : Nat)
    (rxBuffer : List Byte) : Option (Option Results) :=
  match config.packets with
  | none => some none
  | some packets =>
      match warmUp engine packets rxBuffer with
      | none => some none
      | some rxBuffer => do
          let test ← runPackets config engine ticks fuel (ticks 0 + 1000000) (.initial rxBuffer)
            packets.zipIdx
          return test.map fun test => ⟨test, ticks test.readings⟩

/-- `launch_rate_pps`. -/
def Results.launchRatePps (results : Results) : ℚ :=
  match results.test.firstLaunchNs, results.test.lastLaunchNs with
  | some firstLaunchNs, some lastLaunchNs =>
      if lastLaunchNs > firstLaunchNs ∧ results.test.completedPackets > 1 then
        (results.test.completedPackets - 1 : Nat) /
          ((lastLaunchNs - firstLaunchNs : Nat) / (nanosecondsPerSecond : ℚ))
      else 0
  | _, _ => 0

/-- `integrity_pass`. -/
def Results.integrityPass (config : Config) (results : Results) : Bool :=
  results.test.completedPackets == config.totalPackets &&
    results.test.mismatchedPackets == 0 && results.test.dmaErrors == 0

/-- `overall_pass`. -/
def Results.overallPass (config : Config) (results : Results) : Bool :=
  results.integrityPass config &&
    decide (results.launchRatePps ≥ config.targetPps * (99 / 100 : ℚ))

end HftPipeline.Host.StressTest
