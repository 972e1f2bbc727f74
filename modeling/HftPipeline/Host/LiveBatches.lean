import HftPipeline.Std.Groups
import HftPipeline.Host.LiveReceiver

/-!
# The DMA batches of the live receiver

While the DMA completes every transfer, the payloads queued so far are cut into
consecutive batches: the full ones have been transferred, and a flush transfers
the rest.
-/

namespace HftPipeline.Host.LiveReceiver

open HftPipeline.Std.Groups HftPipeline.Wire

section Comparison

/-- A slot that came back as sent adds no mismatch. -/
theorem compareSlot_same (bytes : List Byte) (firstStreamIndex localIndex : Nat)
    (result : Nat × List MismatchExample) :
    compareSlot bytes bytes firstStreamIndex result localIndex = result := by
  simp [compareSlot]

/-- Bytes that come back unchanged have no mismatch. -/
theorem compareBatch_same (bytes : List Byte) (firstStreamIndex : Nat) :
    compareBatch bytes bytes firstStreamIndex = (0, []) := by
  unfold compareBatch
  induction List.range (bytes.length / packetSize) with
  | nil => rfl
  | cons index indices ih => rw [List.foldl_cons, compareSlot_same, ih]

end Comparison

/-- The byte stream is 32 bytes for each packet. -/
theorem length_joinPackets (packets : List Payload) :
    (joinPackets packets).length = packets.length * packetSize := by
  induction packets with
  | nil => simp [joinPackets]
  | cons packet packets ih =>
      simp only [joinPackets] at ih
      simp only [joinPackets, List.flatMap_cons, List.length_append, packet.2, ih,
        List.length_cons]
      rw [Nat.add_mul, Nat.one_mul, Nat.add_comm]

/-- No transfer raises. -/
def Completes (dma : Dma) : Prop := ∀ attempt bytes, (dma attempt bytes).isSome

/-- Every transfer returns the bytes that it was given. -/
def Returns (dma : Dma) : Prop := ∀ attempt bytes, dma attempt bytes = some bytes

/-- A path that returns every batch completes every transfer. -/
theorem Returns.completes {dma : Dma} (returns : Returns dma) : Completes dma := by
  intro attempt bytes
  rw [returns]
  rfl

/-- The design under test, which sends back what it receives. -/
def loopback : Dma := fun _ bytes => some bytes

/-- The loopback returns every batch. -/
theorem returns_loopback : Returns loopback := fun _ _ => rfl

/-- The counters of the transfers made. -/
structure Counted (dma : Dma) (delivery : Delivery) : Prop where
  batches : delivery.dmaBatches = delivery.transfers.length
  packets : delivery.dmaPackets = delivery.transfers.flatten.length
  errors : delivery.dmaErrors = 0
  matched : Returns dma → delivery.mismatchedPackets = 0

/-- Between two datagrams: full batches are transferred, the rest is pending. -/
structure Accumulates (dma : Dma) (batchPackets : Nat) (payloads : List Payload)
    (delivery : Delivery) : Prop where
  counted : Counted dma delivery
  transfers : delivery.transfers = groups batchPackets payloads
  pending : delivery.pendingPackets = remainder batchPackets payloads

/-- Behind a final flush: everything is transferred. -/
structure Settled (dma : Dma) (batchPackets : Nat) (payloads : List Payload)
    (delivery : Delivery) : Prop where
  counted : Counted dma delivery
  transfers : delivery.transfers = batches batchPackets payloads
  pending : delivery.pendingPackets = []

/-- Nothing is lost or sent twice. -/
theorem Settled.flatten {dma : Dma} {batchPackets : Nat} {payloads : List Payload}
    {delivery : Delivery} (settled : Settled dma batchPackets payloads delivery) :
    delivery.transfers.flatten = payloads := by
  rw [settled.transfers, flatten_batches]

section Flushing

variable {dma : Dma} {batchPackets receivedPackets : Nat} {delivery : Delivery}

/-- Batches of at most the configured size fit the allocated buffer. -/
theorem joinPackets_fits {packets : List Payload} (short : packets.length ≤ batchPackets) :
    (joinPackets packets).length ≤ maxBatchBytes batchPackets := by
  rw [length_joinPackets, maxBatchBytes]
  exact Nat.mul_le_mul_right packetSize short

/-- With nothing pending a flush does nothing. -/
theorem flushPending_empty (empty : delivery.pendingPackets = []) :
    flushPending dma batchPackets receivedPackets delivery = (delivery, true) := by
  simp [flushPending, empty]

/-- A batch that fits is transferred when no transfer raises. -/
theorem Completes.transferBatch (completes : Completes dma) (attempt : Nat) {packets : List Payload}
    (short : packets.length ≤ batchPackets) :
    ∃ answer, transferBatch dma (maxBatchBytes batchPackets) attempt packets = some answer := by
  obtain ⟨received, answer⟩ := Option.isSome_iff_exists.mp
    (completes attempt (joinPackets packets))
  have fits : ¬maxBatchBytes batchPackets < (joinPackets packets).length :=
    Nat.not_lt.mpr (joinPackets_fits short)
  exact ⟨_, by rw [LiveReceiver.transferBatch, if_neg fits, answer, Option.map_some]⟩

/-- What a transfer is compared with is what was sent. -/
theorem transferBatch_eq_some {attempt : Nat} {packets : List Payload}
    {expected received : List Byte}
    (answered : transferBatch dma (maxBatchBytes batchPackets) attempt packets =
      some (expected, received)) :
    expected = joinPackets packets ∧ ∃ buffer, dma attempt expected = some buffer ∧
      received = buffer.take expected.length := by
  rw [transferBatch] at answered
  split_ifs at answered
  cases sent : dma attempt (joinPackets packets) with
  | none => simp [sent] at answered
  | some buffer =>
      simp only [sent, Option.map_some, Option.some.injEq, Prod.mk.injEq] at answered
      obtain ⟨rfl, rfl⟩ := answered
      exact ⟨rfl, buffer, sent, rfl⟩

/-- An answered flush transfers the pending batch and counts it. -/
theorem flushPending_answered (receivedPackets : Nat) (pending : delivery.pendingPackets ≠ [])
    (counted : Counted dma delivery) {answer : List Byte × List Byte}
    (answered : transferBatch dma (maxBatchBytes batchPackets) delivery.transfers.length
      delivery.pendingPackets = some answer) :
    let flushed := flushPending dma batchPackets receivedPackets delivery
    flushed.2 = true ∧ flushed.1.pendingPackets = [] ∧
      flushed.1.transfers = delivery.transfers ++ [delivery.pendingPackets] ∧
      Counted dma flushed.1 := by
  obtain ⟨expected, received⟩ := answer
  simp only [flushPending, if_neg pending, answered]
  refine ⟨trivial, trivial, trivial, ?_⟩
  constructor
  · simp [counted.batches]
  · simp [counted.packets]
  · exact counted.errors
  · intro returns
    obtain ⟨_, buffer, sent, slice⟩ := transferBatch_eq_some answered
    rw [returns, Option.some.injEq] at sent
    rw [← sent, List.take_length] at slice
    simp [counted.matched returns, slice, compareBatch_same]

/-- A flush whose transfer raises only logs it and counts the error. -/
theorem flushPending_raises (receivedPackets : Nat) (pending : delivery.pendingPackets ≠ [])
    (raises : transferBatch dma (maxBatchBytes batchPackets) delivery.transfers.length
      delivery.pendingPackets = none) :
    flushPending dma batchPackets receivedPackets delivery =
      ({ delivery with
          transfers := delivery.transfers ++ [delivery.pendingPackets]
          dmaErrors := delivery.dmaErrors + 1 }, false) := by
  simp only [flushPending, if_neg pending, raises]

/-- Flushing what has accumulated settles it. -/
theorem Accumulates.flush {payloads : List Payload} (receivedPackets : Nat)
    (completes : Completes dma)
    (positive : 0 < batchPackets) (accumulates : Accumulates dma batchPackets payloads delivery) :
    let flushed := flushPending dma batchPackets receivedPackets delivery
    flushed.2 = true ∧ Settled dma batchPackets payloads flushed.1 := by
  obtain ⟨counted, transfers, pending⟩ := accumulates
  by_cases empty : delivery.pendingPackets = []
  · rw [flushPending_empty empty]
    rw [empty] at pending
    exact ⟨rfl, counted, by rw [transfers, batches_of_complete pending.symm], empty⟩
  · have short : delivery.pendingPackets.length ≤ batchPackets := by
      rw [pending, length_remainder]
      exact (Nat.mod_lt _ positive).le
    obtain ⟨answer, answered⟩ := completes.transferBatch delivery.transfers.length short
    obtain ⟨completed, emptied, sent, recounted⟩ :=
      flushPending_answered receivedPackets empty counted answered
    refine ⟨completed, recounted, ?_, emptied⟩
    rw [pending] at empty
    rw [sent, transfers, pending, batches, if_neg empty]

/-- A queued payload that does not fill the batch stays pending. -/
theorem Accumulates.queue {payloads : List Payload} (receivedPackets : Nat)
    (positive : 0 < batchPackets)
    (accumulates : Accumulates dma batchPackets payloads delivery) (payload : Payload)
    (short : (delivery.queue receivedPackets payload).pendingPackets.length ≠ batchPackets) :
    Accumulates dma batchPackets (payloads ++ [payload])
      (delivery.queue receivedPackets payload) := by
  obtain ⟨counted, transfers, pending⟩ := accumulates
  have bound : (remainder batchPackets payloads).length < batchPackets := by
    rw [length_remainder]
    exact Nat.mod_lt _ positive
  simp only [Delivery.queue, pending, List.length_append, List.length_singleton] at short
  obtain ⟨cut, rest⟩ := groups_snoc_of_short payload
    (show (remainder batchPackets payloads).length + 1 < batchPackets by omega)
  constructor
  · exact ⟨counted.batches, counted.packets, counted.errors, counted.matched⟩
  · simp [Delivery.queue, transfers, cut]
  · simp [Delivery.queue, pending, rest]

/-- A payload is queued behind less than a batch. -/
theorem Accumulates.length_queue_le {payloads : List Payload} (receivedPackets : Nat)
    (positive : 0 < batchPackets) (accumulates : Accumulates dma batchPackets payloads delivery)
    (payload : Payload) :
    (delivery.queue receivedPackets payload).pendingPackets.length ≤ batchPackets := by
  have bound := Nat.mod_lt payloads.length positive
  rw [← length_remainder, ← accumulates.pending] at bound
  rw [Delivery.queue, List.length_append, List.length_singleton]
  omega

/-- Queueing a payload and flushing settles everything up to it when the transfer is
answered, and a batch that it fills is a complete one. -/
theorem Accumulates.queue_flush {payloads : List Payload} (receivedPackets : Nat)
    (positive : 0 < batchPackets) (accumulates : Accumulates dma batchPackets payloads delivery)
    (payload : Payload) {answer : List Byte × List Byte}
    (answered : transferBatch dma (maxBatchBytes batchPackets) delivery.transfers.length
      (delivery.queue receivedPackets payload).pendingPackets = some answer) :
    let queued := delivery.queue receivedPackets payload
    let flushed := flushPending dma batchPackets receivedPackets queued
    flushed.2 = true ∧ Settled dma batchPackets (payloads ++ [payload]) flushed.1 ∧
      (queued.pendingPackets.length = batchPackets →
        Accumulates dma batchPackets (payloads ++ [payload]) flushed.1) := by
  obtain ⟨counted, transfers, pending⟩ := accumulates
  have queued : (delivery.queue receivedPackets payload).pendingPackets =
      remainder batchPackets payloads ++ [payload] := by
    rw [Delivery.queue, pending]
  have recount : Counted dma (delivery.queue receivedPackets payload) :=
    ⟨counted.batches, counted.packets, counted.errors, counted.matched⟩
  have nonempty : (delivery.queue receivedPackets payload).pendingPackets ≠ [] := by simp [queued]
  obtain ⟨completed, emptied, sent, recounted⟩ :=
    flushPending_answered receivedPackets nonempty recount answered
  have cut : (flushPending dma batchPackets receivedPackets
      (delivery.queue receivedPackets payload)).1.transfers =
        batches batchPackets (payloads ++ [payload]) := by
    rw [sent, queued, batches_snoc positive, Delivery.queue, transfers]
  refine ⟨completed, ⟨recounted, cut, emptied⟩, ?_⟩
  intro full
  have rest : remainder batchPackets (payloads ++ [payload]) = [] := by
    rw [queued, List.length_append, List.length_singleton] at full
    exact (groups_snoc_of_full payload full).2
  exact ⟨recounted, by rw [cut, batches_of_complete rest], by rw [emptied, rest]⟩

end Flushing

end HftPipeline.Host.LiveReceiver
