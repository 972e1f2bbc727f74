import HftPipeline.Host.StressTest

/-!
# The stress test beside the batch test

Transfer by transfer both tests see the same answers and count the same packets. Only the
clock tells them apart, and no counter of the data depends on it.
-/

namespace HftPipeline.Host.StressTest

open HftPipeline.Std HftPipeline.Std.Slots HftPipeline.Wire
open BatchTest (Config Answer Engine receiveInto expectedBatch)
open LiveReceiver (joinPackets)

/-- The constants of a batch test with batches of one packet. -/
def single (config : Config) : Config := { config with batchPackets := 1 }

/-- What both tests have counted about the data. -/
structure Agrees (batch : BatchTest.Test) (stress : Test) : Prop where
  batches : batch.completedBatches = stress.completedPackets
  completed : batch.completedPackets = stress.completedPackets
  mismatched : batch.mismatchedPackets = stress.mismatchedPackets
  errors : batch.dmaErrors = stress.dmaErrors
  examples : batch.mismatchExamples = stress.mismatchExamples

section Transfer

variable {config : Config} {packets : List Payload} {index : Nat} {packet : Payload}

theorem packetCount_single (inside : index < config.totalPackets) :
    (single config).packetCount index = 1 := by
  simp only [Config.packetCount, single]
  omega

/-- A batch of one packet is the packet. -/
theorem expectedBatch_single (whole : packets.length = config.totalPackets)
    (at_ : packets[index]? = some packet) :
    expectedBatch (single config) (joinPackets packets) index = packet.1 := by
  obtain ⟨inside, found⟩ := List.getElem?_eq_some_iff.mp at_
  have one : (single config).packetCount index = 1 := packetCount_single (whole ▸ inside)
  rw [BatchTest.expectedBatch_joinPackets, Config.batch, one]
  simp only [single, Nat.mul_one]
  rw [List.drop_eq_getElem_cons inside, List.take_succ_cons, List.take_zero, found]
  simp [joinPackets]

/-- The comparison of one packet. -/
theorem compareBatch_single {received : List Byte} (size : received.length = packetSize)
    (first : Nat) : LiveReceiver.compareBatch packet.1 received first =
      if received ≠ packet.1 then (1, [⟨first, packet.1, received⟩]) else (0, []) := by
  have sent : LiveReceiver.packetSlice packet.1 0 = packet.1 := by
    rw [LiveReceiver.packetSlice_zero, List.take_of_length_le packet.2.le]
  have returned : LiveReceiver.packetSlice received 0 = received := by
    rw [LiveReceiver.packetSlice_zero, List.take_of_length_le size.le]
  rw [LiveReceiver.compareBatch, packet.2, Nat.div_self (by decide), List.range_one,
    List.foldl_cons, List.foldl_nil, LiveReceiver.compareSlot, sent, returned]
  by_cases same : received = packet.1
  · simp [same]
  · simp [same, Ne.symm same]

/-- What is compared does not depend on what the buffer held. -/
theorem load_receiveInto {rxBuffer : List Byte} (room : packetSize ≤ rxBuffer.length)
    (bytes : List Byte) : load (receiveInto rxBuffer packetSize bytes) 0 packetSize =
      bytes.take packetSize ++
        List.replicate (packetSize - (bytes.take packetSize).length) 0#8 :=
  load_cleared room (List.length_take_le _ _)

end Transfer

section Loop

variable {config : Config} {engine : Engine} {packets : List Payload} {packet : Payload}
  {index : Nat} {batch : BatchTest.Test} {stress : Test}

/-- Both tests have room for a packet. -/
structure Rooms (batch : BatchTest.Test) (stress : Test) : Prop where
  batch : packetSize ≤ batch.rxBuffer.length
  stress : packetSize ≤ stress.rxBuffer.length

/-- A stored transfer is counted alike. -/
theorem Agrees.complete (agrees : Agrees batch stress) (rooms : Rooms batch stress)
    (whole : packets.length = config.totalPackets) (at_ : packets[index]? = some packet)
    (bytes : List Byte) :
    Agrees (BatchTest.complete (single config) (joinPackets packets) batch index bytes)
        (StressTest.complete stress index packet bytes) ∧
      Rooms (BatchTest.complete (single config) (joinPackets packets) batch index bytes)
        (StressTest.complete stress index packet bytes) := by
  have inside := (List.getElem?_eq_some_iff.mp at_).1
  have one : (single config).packetCount index = 1 := packetCount_single (whole ▸ inside)
  have size : (bytes.take packetSize ++
      List.replicate (packetSize - (bytes.take packetSize).length) 0#8).length = packetSize := by
    rw [List.length_append, List.length_replicate, List.length_take]
    omega
  have place : index * (single config).batchPackets = index := Nat.mul_one index
  constructor
  · constructor <;>
      simp only [BatchTest.complete, StressTest.complete, one, place, Nat.one_mul,
        expectedBatch_single whole at_, load_receiveInto rooms.batch,
        load_receiveInto rooms.stress, compareBatch_single size]
    · exact congrArg Nat.succ agrees.batches
    · exact congrArg Nat.succ agrees.completed
    · rw [agrees.mismatched]
      split_ifs <;> rfl
    · exact agrees.errors
    · rw [agrees.examples]
      generalize bytes.take packetSize ++ _ = received
      by_cases same : received = packet.1
      · simp [same]
      · by_cases few : stress.mismatchExamples.length < 10
        · simp [same, few, List.take_of_length_le (show [_].length ≤ _ from Nat.sub_pos_of_lt few)]
        · have full : 10 - stress.mismatchExamples.length = 0 := by omega
          simp [few, full]
  · constructor
    · simp only [BatchTest.complete, one, Nat.one_mul, BatchTest.length_receiveInto rooms.batch]
      exact rooms.batch
    · simp only [StressTest.complete, BatchTest.length_receiveInto rooms.stress]
      exact rooms.stress

/-- How the two tests end: both with an exception, or with the same counts. -/
theorem runs_agree (whole : packets.length = config.totalPackets)
    {ticks batchTicks : Nat → Nat} {fuel batchFuel start batchStart : Nat} {rest : List Payload}
    (behind : packets.drop index = rest) (agrees : Agrees batch stress) (rooms : Rooms batch stress)
    {left : Option BatchTest.Test} {right : Option Test}
    (batchEnded : BatchTest.runBatches (single config) engine batchTicks batchFuel
      (joinPackets packets) batchStart batch (List.range' index rest.length) = some left)
    (ended : runPackets config engine ticks fuel start stress (rest.zipIdx index) = some right) :
    Option.Rel Agrees left right := by
  induction rest generalizing index batch stress with
  | nil =>
      cases batchEnded
      cases ended
      exact .some agrees
  | cons packet rest ih =>
      have at_ : packets[index]? = some packet := by
        rw [← List.head?_drop, behind]
        rfl
      have later : packets.drop (index + 1) = rest := by
        rw [← List.drop_drop, behind]
        rfl
      rw [List.length_cons, List.range'_succ] at batchEnded
      rw [List.zipIdx_cons] at ended
      simp only [BatchTest.runBatches, Option.bind_eq_bind, Option.bind_eq_some_iff] at batchEnded
      simp only [runPackets, Option.bind_eq_bind, Option.bind_eq_some_iff] at ended
      obtain ⟨batchTurn, batchTurned, batchRest⟩ := batchEnded
      obtain ⟨turn, turned, tail⟩ := ended
      rw [BatchTest.runBatch, expectedBatch_single whole at_] at batchTurned
      rw [runPacket] at turned
      cases answer : engine (index + 1) packet.1 with
      | refused =>
          rw [answer] at turned batchTurned
          cases turned
          cases batchTurned
          cases tail
          cases batchRest
          exact .none
      | failed =>
          rw [answer] at turned batchTurned
          simp only [Option.bind_eq_bind, Option.bind_eq_some_iff] at turned batchTurned
          obtain ⟨_, _, here⟩ := turned
          obtain ⟨_, _, batchHere⟩ := batchTurned
          cases here
          cases batchHere
          cases tail
          cases batchRest
          exact .some ⟨agrees.batches, agrees.completed, agrees.mismatched,
            congrArg Nat.succ agrees.errors, agrees.examples⟩
      | stored bytes =>
          rw [answer] at turned batchTurned
          simp only [Option.bind_eq_bind, Option.bind_eq_some_iff] at turned batchTurned
          obtain ⟨ready, _, here⟩ := turned
          obtain ⟨batchReady, _, batchHere⟩ := batchTurned
          cases here
          cases batchHere
          have launched : Agrees (BatchTest.launch (single config) batchTicks batchStart batch index
              batchReady) (launch config ticks start stress index ready) :=
            ⟨agrees.batches, agrees.completed, agrees.mismatched, agrees.errors, agrees.examples⟩
          have roomy : Rooms (BatchTest.launch (single config) batchTicks batchStart batch index
              batchReady) (launch config ticks start stress index ready) :=
            ⟨rooms.batch, rooms.stress⟩
          obtain ⟨counted, kept⟩ := launched.complete roomy whole at_ bytes
          exact ih later counted kept batchRest tail

end Loop

section Main

variable {config : Config} {engine : Engine} {packets : List Payload}

/-- Both warm-ups end with an exception, or both leave room for a packet. -/
theorem warmUp_agrees {packet : Payload} (first : packets.head? = some packet)
    {rxBuffer batchBuffer : List Byte} (room : packetSize ≤ rxBuffer.length)
    (batchRoom : packetSize ≤ batchBuffer.length) :
    Option.Rel (fun batch stress => packetSize ≤ batch.length ∧ packetSize ≤ stress.length)
      (BatchTest.warmUp engine (joinPackets packets) batchBuffer)
      (warmUp engine packets rxBuffer) := by
  have front : (joinPackets packets).take packetSize = packet.1 := by
    cases packets with
    | nil => cases first
    | cons other packets =>
        cases first
        rw [LiveReceiver.joinPackets_cons, List.take_left' packet.2]
  rw [BatchTest.warmUp, warmUp, first, front]
  simp only
  cases engine 0 packet.1 with
  | refused => exact .none
  | failed => exact .none
  | stored bytes =>
      simp only [load_receiveInto room, load_receiveInto batchRoom]
      split_ifs
      · exact .some ⟨(BatchTest.length_receiveInto batchRoom).symm ▸ batchRoom,
          (BatchTest.length_receiveInto room).symm ▸ room⟩
      · exact .none

/-- What both tests print about the data. -/
structure SameVerdict (config : Config) (batch : BatchTest.Results) (stress : Results) : Prop where
  counts : Agrees batch.test stress.test
  integrity : batch.integrityPass (single config) = stress.integrityPass config

theorem Agrees.verdict {batch : BatchTest.Results} {stress : Results}
    (agrees : Agrees batch.test stress.test) : SameVerdict config batch stress := by
  have batches : (single config).totalBatches = config.totalPackets := by
    simp [Config.totalBatches, single]
  refine ⟨agrees, ?_⟩
  have total : (single config).totalPackets = config.totalPackets := rfl
  rw [BatchTest.Results.integrityPass, Results.integrityPass, batches, total, agrees.batches,
    agrees.completed, agrees.mismatched, agrees.errors, Bool.and_self]

/-- The stress test is the batch test with one packet in a batch: over the same engine, and
whatever their clocks and buffers hold, either both end with an exception or both count the
same packets and come to the same verdict on the data. -/
theorem stress_agrees_with_batch (config : Config) (some_ : 0 < config.totalPackets)
    (engine : Engine) (ticks batchTicks : Nat → Nat) (fuel batchFuel : Nat)
    (rxBuffer batchBuffer : List Byte) (room : packetSize ≤ rxBuffer.length)
    (batchRoom : packetSize ≤ batchBuffer.length) (left : Option BatchTest.Results)
    (right : Option Results)
    (batchEnded : BatchTest.main (single config) engine batchTicks batchFuel
      batchBuffer = some left)
    (ended : main config engine ticks fuel rxBuffer = some right) :
    Option.Rel (SameVerdict config) left right := by
  have same : (single config).packets = config.packets := rfl
  rw [BatchTest.main, same] at batchEnded
  rw [main] at ended
  cases built : config.packets with
  | none =>
      rw [built] at batchEnded ended
      cases batchEnded
      cases ended
      exact .none
  | some packets =>
      have whole := (BatchTest.packets_spec built).1
      obtain ⟨packet, first⟩ : ∃ packet, packets.head? = some packet := by
        cases packets with
        | nil => exact absurd whole some_.ne
        | cons packet packets => exact ⟨packet, rfl⟩
      have batches : (single config).totalBatches = packets.length := by
        simp [Config.totalBatches, single, whole]
      rw [built] at batchEnded ended
      dsimp only at batchEnded ended
      have warmed : Option.Rel _ (BatchTest.warmUp engine (joinPackets packets) batchBuffer)
          (warmUp engine packets rxBuffer) := warmUp_agrees first room batchRoom
      generalize BatchTest.warmUp engine (joinPackets packets) batchBuffer = batchWarm
        at warmed batchEnded
      generalize warmUp engine packets rxBuffer = warm at warmed ended
      cases warmed with
      | none =>
          cases batchEnded
          cases ended
          exact .none
      | some rooms =>
          simp only [Option.bind_eq_bind, Option.bind_eq_some_iff, Option.pure_def,
            Option.some.injEq, batches, List.range_eq_range'] at batchEnded ended
          obtain ⟨batchTest, batchLooped, rfl⟩ := batchEnded
          obtain ⟨test, looped, rfl⟩ := ended
          have agree := runs_agree whole List.drop_zero ⟨rfl, rfl, rfl, rfl, rfl⟩
            ⟨rooms.1, rooms.2⟩ batchLooped looped
          cases agree with
          | none => exact .none
          | some agrees => exact .some agrees.verdict

/-- Three packets, of which the second one comes back with another last byte. -/
theorem stress_agrees_with_batch_short : ∃ batch stress,
    SameVerdict ⟨3, 1, 2⟩ batch stress ∧ stress.integrityPass ⟨3, 1, 2⟩ = false := by
  let engine : Engine := fun transfer bytes =>
    .stored (if transfer = 2 then bytes.dropLast ++ [0xFF#8] else bytes)
  let clock (reading : Nat) : Nat := reading * 10 ^ 10
  have batchEnds : (BatchTest.main (single ⟨3, 1, 2⟩) engine clock 1
      (List.replicate 32 0xFF#8)).join.isSome = true := by decide +kernel
  have ends : (main ⟨3, 1, 2⟩ engine clock 1 (List.replicate 32 0xEE#8)).join.any
      (fun results => results.integrityPass ⟨3, 1, 2⟩ == false) = true := by decide +kernel
  obtain ⟨batch, batchEnded⟩ := Option.isSome_iff_exists.mp batchEnds
  obtain ⟨stress, ended, failed⟩ := (Option.any_eq_true _ _).mp ends
  have verdicts := stress_agrees_with_batch ⟨3, 1, 2⟩ (by decide) engine clock clock 1 1
    (List.replicate 32 0xEE#8) (List.replicate 32 0xFF#8) (by decide) (by decide) _ _
    (Option.join_eq_some_iff.mp batchEnded) (Option.join_eq_some_iff.mp ended)
  cases verdicts with
  | some verdict => exact ⟨batch, stress, verdict, by simpa using failed⟩

end Main

end HftPipeline.Host.StressTest
