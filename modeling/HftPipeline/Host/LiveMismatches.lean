import Mathlib.Data.List.Flatten
import HftPipeline.Wire.Senders
import HftPipeline.Host.LiveDelivery

/-!
# The mismatch reports of the live receiver

Every submitted payload is compared with the bytes that come back in its place. A
mismatch is reported under the index of the first datagram of its batch plus its place
in the batch, which is the index of its datagram as long as no datagram of another
length arrives between the two.
-/

namespace HftPipeline.Host.LiveReceiver

open HftPipeline.Std.EarlyExit HftPipeline.Std.Groups HftPipeline.Wire

/-- A payload and the zero-based index of its datagram among all received ones. -/
structure Numbered where
  arrival : Nat
  payload : Payload

/-- The correctly sized payloads with their indices, in order. -/
def numbered (read : List Datagram) : List Numbered :=
  read.zipIdx.filterMap fun (datagram, index) => (datagramPayload datagram).map (Numbered.mk index)

/-- A payload of a batch and the bytes returned in its place. -/
structure Comparison where
  batchArrival : Nat
  offset : Nat
  arrival : Nat
  submitted : List Byte
  returned : List Byte

def Comparison.Differs (comparison : Comparison) : Prop :=
  comparison.submitted ≠ comparison.returned

instance (comparison : Comparison) : Decidable comparison.Differs :=
  inferInstanceAs (Decidable (_ ≠ _))

/-- The example that is reported for a comparison. -/
def Comparison.report (comparison : Comparison) : MismatchExample :=
  ⟨comparison.batchArrival + comparison.offset, comparison.submitted, comparison.returned⟩

/-- The example under the index of the datagram itself. -/
def Comparison.exact (comparison : Comparison) : MismatchExample :=
  ⟨comparison.arrival, comparison.submitted, comparison.returned⟩

def payloadsIn (batch : List Numbered) : List Payload := batch.map Numbered.payload

/-- The index of the first datagram of a batch. -/
def firstArrival (batch : List Numbered) : Nat := (batch.head?.map Numbered.arrival).getD 0

/-- A batch beside the bytes returned for it. -/
def comparisons (returned : List Byte) (batch : List Numbered) : List Comparison :=
  batch.mapIdx fun offset entry =>
    ⟨firstArrival batch, offset, entry.arrival, entry.payload.1, packetSlice returned offset⟩

/-- The bytes returned for a batch. -/
def returnedBytes (dma : Dma) (attempt : Nat) (batch : List Numbered) : List Byte :=
  ((dma attempt (joinPackets (payloadsIn batch))).getD []).take
    (joinPackets (payloadsIn batch)).length

/-- All submitted batches beside what is returned for them. -/
def compared (dma : Dma) (sent : List (List Numbered)) : List (List Comparison) :=
  sent.mapIdx fun attempt batch => comparisons (returnedBytes dma attempt batch) batch

/-- The reported mismatches: the first five of every batch, and of these the first ten. -/
def reported (batches : List (List Comparison)) : List Comparison :=
  (batches.flatMap fun batch => (batch.filter (·.Differs)).take 5).take 10

section Slices

/-- The byte stream begins with the bytes of the first packet. -/
theorem joinPackets_cons (packet : Payload) (packets : List Payload) :
    joinPackets (packet :: packets) = packet.1 ++ joinPackets packets := rfl

/-- The first slice is the first packet's worth of bytes. -/
theorem packetSlice_zero (bytes : List Byte) : packetSlice bytes 0 = bytes.take packetSize := by
  simp [packetSlice]

/-- Each further slice is one of the bytes behind the first packet. -/
theorem packetSlice_succ (bytes : List Byte) (index : Nat) :
    packetSlice bytes (index + 1) = packetSlice (bytes.drop packetSize) index := by
  rw [packetSlice, packetSlice, List.drop_drop, Nat.add_mul, Nat.one_mul, Nat.add_comm]

/-- The slices of the joined packets are the packets. -/
theorem packetSlice_joinPackets {packets : List Payload} {index : Nat}
    (inside : index < packets.length) :
    packetSlice (joinPackets packets) index = packets[index].1 := by
  induction packets generalizing index with
  | nil => cases inside
  | cons packet packets ih =>
      rw [joinPackets_cons]
      cases index with
      | zero =>
          rw [packetSlice_zero, List.take_left' packet.2]
          rfl
      | succ index =>
          rw [packetSlice_succ, List.drop_left' packet.2]
          exact ih (Nat.lt_of_succ_lt_succ inside)

/-- Bytes whose slices are the packets are the joined packets. -/
theorem eq_joinPackets_of_slices {packets : List Payload} {bytes : List Byte}
    (short : bytes.length ≤ packets.length * packetSize)
    (slices : ∀ index (inside : index < packets.length),
      packets[index].1 = packetSlice bytes index) : bytes = joinPackets packets := by
  induction packets generalizing bytes with
  | nil => simpa [joinPackets] using short
  | cons packet packets ih =>
      have first : packet.1 = bytes.take packetSize := by
        rw [← packetSlice_zero]
        exact slices 0 (Nat.zero_lt_succ _)
      have later : bytes.drop packetSize = joinPackets packets := by
        apply ih
        · rw [List.length_cons, Nat.add_mul, Nat.one_mul] at short
          rw [List.length_drop]
          omega
        · intro index inside
          rw [← packetSlice_succ]
          exact slices (index + 1) (Nat.succ_lt_succ inside)
      rw [joinPackets_cons, first, ← later, List.take_append_drop]

end Slices

section Comparisons

variable {returned : List Byte} {batch : List Numbered}

/-- Every packet of a batch is compared once. -/
@[simp] theorem length_comparisons : (comparisons returned batch).length = batch.length := by
  simp [comparisons]

/-- A packet is compared with the slice at its place in the batch. -/
theorem getElem_comparisons {index : Nat} (inside : index < (comparisons returned batch).length)
    (bound : index < batch.length) : (comparisons returned batch)[index] =
      ⟨firstArrival batch, index, batch[index].arrival, batch[index].payload.1,
        packetSlice returned index⟩ :=
  List.getElem_mapIdx

/-- The comparisons of a batch, by their place in the joined packets. -/
theorem comparisons_eq : comparisons returned batch =
    (List.range ((joinPackets (payloadsIn batch)).length / packetSize)).map fun index =>
      ⟨firstArrival batch, index, (batch[index]?.map Numbered.arrival).getD 0,
        packetSlice (joinPackets (payloadsIn batch)) index, packetSlice returned index⟩ := by
  have count : (joinPackets (payloadsIn batch)).length / packetSize = batch.length := by
    rw [length_joinPackets, Nat.mul_div_cancel _ (by decide), payloadsIn, List.length_map]
  rw [count]
  apply List.ext_getElem
  · simp
  · intro index inside within
    have bound : index < batch.length := by simpa using inside
    have slice : packetSlice (joinPackets (payloadsIn batch)) index = batch[index].payload.1 := by
      rw [packetSlice_joinPackets (by simpa [payloadsIn] using bound)]
      simp [payloadsIn]
    simp [comparisons, slice, bound]

/-- The indices among some at which the loop of `compare_batch` finds a mismatch. -/
def differing (expected received : List Byte) (indices : List Nat) : List Nat :=
  indices.filter fun index => packetSlice expected index ≠ packetSlice received index

/-- The example of an index. -/
def exampleAt (expected received : List Byte) (firstStreamIndex index : Nat) : MismatchExample :=
  ⟨firstStreamIndex + index, packetSlice expected index, packetSlice received index⟩

/-- The loop of `compare_batch` counts the differing places and keeps five of them. -/
theorem foldl_compareSlot (expected received : List Byte) (first : Nat) (indices : List Nat)
    (result : Nat × List MismatchExample) (few : result.2.length ≤ 5) :
    indices.foldl (compareSlot expected received first) result =
      (result.1 + (differing expected received indices).length,
        (result.2 ++ (differing expected received indices).map
          (exampleAt expected received first)).take 5) := by
  induction indices generalizing result with
  | nil => simp [differing, List.take_of_length_le few]
  | cons index indices ih =>
      rw [List.foldl_cons, compareSlot]
      split_ifs with differs room
      · have more : differing expected received (index :: indices) =
            index :: differing expected received indices := by simp [differing, differs]
        rw [ih _ (by simpa using Nat.succ_le_of_lt room), more]
        simp [exampleAt, Nat.add_assoc, Nat.add_comm]
      · have more : differing expected received (index :: indices) =
            index :: differing expected received indices := by simp [differing, differs]
        have full : result.2.length = 5 := by omega
        rw [ih (result.1 + 1, result.2) few, more]
        simp [full, Nat.add_assoc, Nat.add_comm]
      · have same : differing expected received (index :: indices) =
            differing expected received indices := by
          simp only [differing, List.filter_cons, differs, decide_false,
            Bool.false_eq_true, if_false]
        rw [ih _ few, same]

/-- `compare_batch` counts the differing comparisons and reports the first five. -/
theorem compareBatch_eq (returned : List Byte) (batch : List Numbered) :
    compareBatch (joinPackets (payloadsIn batch)) returned (firstArrival batch) =
      (((comparisons returned batch).filter (·.Differs)).length,
        (((comparisons returned batch).filter (·.Differs)).take 5).map Comparison.report) := by
  rw [compareBatch, foldl_compareSlot _ _ _ _ _ (by simp), comparisons_eq, List.filter_map,
    List.length_map, ← List.map_take, List.map_map, List.nil_append, ← List.map_take, Nat.zero_add]
  rfl

/-- No comparison differs exactly when what was sent is returned. -/
theorem comparisons_clean_iff (short : returned.length ≤ (joinPackets (payloadsIn batch)).length) :
    (∀ comparison ∈ comparisons returned batch, ¬comparison.Differs) ↔
      returned = joinPackets (payloadsIn batch) := by
  have sizes : (payloadsIn batch).length = batch.length := List.length_map _
  constructor
  · intro clean
    apply eq_joinPackets_of_slices
    · rwa [length_joinPackets] at short
    · intro index inside
      have bound : index < (comparisons returned batch).length := by simpa [sizes] using inside
      have same := clean _ (List.getElem_mem bound)
      simpa [Comparison.Differs, comparisons, payloadsIn] using same
  · rintro rfl comparison member differs
    obtain ⟨index, inside, rfl⟩ := List.getElem_of_mem member
    have bound : index < (payloadsIn batch).length := by simpa [sizes] using inside
    have slice := packetSlice_joinPackets bound
    apply differs
    simp only [comparisons, List.getElem_mapIdx]
    rw [slice]
    simp [payloadsIn]

end Comparisons

/-- The reports so far are those of the batches sent, the rest being queued. -/
structure Reports (dma : Dma) (sent : List (List Numbered)) (queued : List Numbered)
    (delivery : Delivery) : Prop where
  transfers : delivery.transfers = sent.map payloadsIn
  pending : delivery.pendingPackets = payloadsIn queued
  first : queued ≠ [] → delivery.pendingFirstIndex = firstArrival queued
  mismatched : delivery.mismatchedPackets =
    ((compared dma sent).flatten.filter (·.Differs)).length
  examples : delivery.mismatchExamples = (reported (compared dma sent)).map Comparison.report

section Reporting

variable {dma : Dma} {batchPackets : Nat} {sent : List (List Numbered)} {queued : List Numbered}
  {delivery : Delivery}

/-- The payload of a datagram is queued under the index of the datagram. -/
theorem Reports.queue (reports : Reports dma sent queued delivery) (arrival : Nat)
    (payload : Payload) :
    Reports dma sent (queued ++ [⟨arrival, payload⟩]) (delivery.queue (arrival + 1) payload) := by
  obtain ⟨transfers, pending, first, mismatched, examples⟩ := reports
  refine ⟨transfers, by simp [Delivery.queue, pending, payloadsIn], ?_, mismatched, examples⟩
  intro _
  cases queued with
  | nil =>
      have empty : delivery.pendingPackets = [] := pending
      simp [Delivery.queue, empty, firstArrival]
  | cons entry queued =>
      have some : delivery.pendingPackets ≠ [] := by simp [pending, payloadsIn]
      simpa [Delivery.queue, some, firstArrival] using first

/-- One more batch is compared with what is returned for it. -/
theorem compared_snoc (dma : Dma) (sent : List (List Numbered)) (batch : List Numbered) :
    compared dma (sent ++ [batch]) =
      compared dma sent ++ [comparisons (returnedBytes dma sent.length batch) batch] :=
  List.mapIdx_concat

/-- A batch adds at most five examples, and no more than ten are kept in all. -/
theorem reported_snoc (before : List (List Comparison)) (batch : List Comparison) :
    reported (before ++ [batch]) = reported before ++
      ((batch.filter (·.Differs)).take 5).take (10 - (reported before).length) := by
  have few : ∀ items : List Comparison, 10 - (items.take 10).length = 10 - items.length := by
    intro items
    rw [List.length_take]
    omega
  rw [reported, List.flatMap_append, List.take_append, List.flatMap_singleton, reported, few]

/-- An answered flush compares the queued batch. -/
theorem Reports.flush (reports : Reports dma sent queued delivery) (receivedPackets : Nat)
    (nonempty : queued ≠ []) {answer : List Byte × List Byte}
    (answered : transferBatch dma (maxBatchBytes batchPackets) delivery.transfers.length
      delivery.pendingPackets = some answer) :
    Reports dma (sent ++ [queued]) []
      (flushPending dma batchPackets receivedPackets delivery).1 := by
  obtain ⟨transfers, pending, first, mismatched, examples⟩ := reports
  obtain ⟨expected, received⟩ := answer
  obtain ⟨rfl, buffer, returned, slice⟩ := transferBatch_eq_some answered
  have busy : delivery.pendingPackets ≠ [] := by simpa [pending, payloadsIn] using nonempty
  have attempt : delivery.transfers.length = sent.length := by rw [transfers, List.length_map]
  have bytes : received = returnedBytes dma sent.length queued := by
    rw [attempt, pending] at returned
    rw [returnedBytes, returned, slice, pending]
    rfl
  have report : compareBatch (joinPackets delivery.pendingPackets) received
      delivery.pendingFirstIndex =
        (((comparisons received queued).filter (·.Differs)).length,
          (((comparisons received queued).filter (·.Differs)).take 5).map Comparison.report) := by
    rw [pending, first nonempty]
    exact compareBatch_eq received queued
  simp only [flushPending, if_neg busy, answered, report]
  constructor
  · simp [transfers, pending]
  · rfl
  · intro empty
    exact absurd rfl empty
  · rw [compared_snoc, List.flatten_append, List.filter_append, List.length_append, ← mismatched,
      bytes]
    simp
  · rw [compared_snoc, reported_snoc, List.map_append, ← bytes, examples, List.length_map]
    simp only [List.map_take]

/-- The submitted batches and the queued payloads are those of the datagrams so far. -/
def Labelled (dma : Dma) (read : List Datagram) (delivery : Delivery) : Prop :=
  ∃ sent queued, Reports dma sent queued delivery ∧ sent.flatten ++ queued = numbered read

/-- A payload is numbered by the datagrams read before it. -/
theorem numbered_snoc (read : List Datagram) (datagram : Datagram) :
    numbered (read ++ [datagram]) = numbered read ++
      ((datagramPayload datagram).map (Numbered.mk read.length)).toList := by
  cases sized : datagramPayload datagram <;>
    simp [numbered, List.zipIdx_append, List.filterMap_append, sized]

/-- Numbering the payloads changes none of them. -/
theorem payloadsIn_numbered (read : List Datagram) :
    payloadsIn (numbered read) = payloadsOf read := by
  induction read using List.reverseRecOn with
  | nil => rfl
  | append_singleton read datagram ih =>
      rw [payloadsIn] at ih
      rw [numbered_snoc, payloadsOf_snoc, payloadsIn, List.map_append, ih]
      cases datagramPayload datagram <;> rfl

/-- A flush whose transfer is answered leaves nothing queued. -/
theorem Labelled.flush {read : List Datagram} (labelled : Labelled dma read delivery)
    (receivedPackets : Nat) (completes : Completes dma)
    (short : delivery.pendingPackets.length ≤ batchPackets) :
    Labelled dma read (flushPending dma batchPackets receivedPackets delivery).1 := by
  obtain ⟨sent, queued, reports, whole⟩ := labelled
  by_cases nonempty : queued = []
  · have idle : delivery.pendingPackets = [] := by rw [reports.pending, nonempty]; rfl
    rw [flushPending_empty idle]
    exact ⟨sent, queued, reports, whole⟩
  · obtain ⟨answer, answered⟩ := completes.transferBatch delivery.transfers.length short
    exact ⟨sent ++ [queued], [],
      reports.flush receivedPackets nonempty answered, by simpa using whole⟩

/-- Every datagram keeps the labels. -/
theorem Labelled.processSlot {state : State} {read : List Datagram}
    (labelled : Labelled dma read state.delivery) (accounts : Accounts dma batchPackets state read)
    (completes : Completes dma) (positive : 0 < batchPackets) (active : state.stopped = false)
    (datagram : Datagram) :
    Labelled dma (read ++ [datagram])
      (processSlot dma batchPackets state (receiveSlot datagram)).delivery := by
  obtain ⟨sent, queued, reports, whole⟩ := labelled
  cases sized : datagramPayload datagram with
  | none =>
      rw [processSlot_malformed dma batchPackets state sized]
      exact ⟨sent, queued, reports, by simp [numbered_snoc, sized, whole]⟩
  | some payload =>
      have counted : (arrive state datagram.sender).receivedPackets = read.length + 1 := by
        simp [arrive, accounts.counts.received]
      have unended := (State.stopped_eq_false_iff.mp active).1
      have room := (accounts.accumulates unended).length_queue_le (read.length + 1) positive payload
      have next : Labelled dma (read ++ [datagram])
          (state.delivery.queue (read.length + 1) payload) :=
        ⟨sent, queued ++ [⟨read.length, payload⟩], reports.queue read.length payload, by
          rw [← List.append_assoc, whole, numbered_snoc, sized]
          rfl⟩
      rw [processSlot_sized dma batchPackets state sized, processPayload]
      simp only [classify_receivedPackets, classify_delivery, counted]
      split_ifs
      · exact next.flush _ completes room
      · exact next

end Reporting

section Run

variable {dma : Dma} {batchPackets : Nat}

/-- Between two datagrams less than the buffer is pending. -/
theorem Accounts.length_pending_le {state : State} {read : List Datagram}
    (accounts : Accounts dma batchPackets state read) (positive : 0 < batchPackets) :
    state.delivery.pendingPackets.length ≤ batchPackets := by
  cases ended : state.streamEndSeen with
  | false =>
      rw [(accounts.accumulates ended).pending, length_remainder]
      exact (Nat.mod_lt _ positive).le
  | true =>
      rw [(accounts.settled ended).pending]
      exact Nat.zero_le _

/-- Batches that are labelled like the payloads are the batches of the labels. -/
theorem sent_eq_batches {sent : List (List Numbered)} {items : List Numbered}
    (whole : sent.flatten = items)
    (cut : sent.map payloadsIn = batches batchPackets (payloadsIn items)) :
    sent = batches batchPackets items := by
  refine List.eq_iff_flatten_eq.mpr ⟨by rw [whole, flatten_batches], ?_⟩
  have lengths := congrArg (List.map List.length) cut
  rw [show payloadsIn items = items.map Numbered.payload from rfl, batches_map] at lengths
  simpa [payloadsIn, Function.comp_def] using lengths

/-- A run that has come to its end reports the mismatches of all its batches. -/
theorem main_reports (completes : Completes dma) (positive : 0 < batchPackets)
    (results : List ReceiveResult) (finished : (main dma batchPackets results).ending = .finished) :
    Reports dma
      (batches batchPackets (numbered (takeThrough isStreamEnd (datagramsOf results)))) []
      (main dma batchPackets results).state.delivery := by
  have concludes := main_concludes completes positive results finished
  obtain ⟨last, reads, ends⟩ := main_reads completes positive results
  obtain ⟨accounts, labelled⟩ := reads.invariant
    (fun state read => Accounts dma batchPackets state read ∧ Labelled dma read state.delivery)
    ⟨accounts_initial dma batchPackets, [], [],
      ⟨rfl, rfl, fun nonempty => absurd rfl nonempty, rfl, rfl⟩, rfl⟩
    fun state read datagram ⟨accounts, labelled⟩ active =>
      ⟨(accounts.step completes positive active datagram).1,
        labelled.processSlot accounts completes positive active datagram⟩
  rw [List.nil_append] at accounts labelled
  have flushed :=
    labelled.flush last.receivedPackets completes (accounts.length_pending_le positive)
  have final : Labelled dma (takeThrough isStreamEnd (datagramsOf results))
      (main dma batchPackets results).state.delivery := by
    generalize main dma batchPackets results = outcome at ends finished ⊢
    cases ends with
    | stopped =>
        rw [(accounts.finalFlush completes positive last.timedOut).1]
        exact flushed
    | waiting => cases finished
    | timeout =>
        rw [(accounts.finalFlush completes positive true).1]
        exact flushed
    | failed => cases finished
    | keyboardInterrupt => exact flushed
  obtain ⟨sent, queued, reports, whole⟩ := final
  have settled := concludes.settled
  have none : queued = [] := by
    have pending := reports.pending
    rw [settled.pending] at pending
    simpa [payloadsIn] using pending.symm
  subst none
  rw [List.append_nil] at whole
  have cut : sent.map payloadsIn = batches batchPackets
      (payloadsIn (numbered (takeThrough isStreamEnd (datagramsOf results)))) := by
    rw [payloadsIn_numbered, ← settled.transfers, reports.transfers]
  rwa [sent_eq_batches whole cut] at reports

end Run

section Indices

/-- The payloads before a numbered one arrive before its datagram. -/
theorem numbered_split {read : List Datagram} {front back : List Numbered} {entry : Numbered}
    (split : numbered read = front ++ entry :: back) :
    entry.arrival ≤ read.length ∧ (payloadsOf (read.take entry.arrival)).length = front.length := by
  induction read using List.reverseRecOn generalizing back with
  | nil => simp [numbered] at split
  | append_singleton read datagram ih =>
      have earlier : ∀ {rest}, numbered read = front ++ entry :: rest →
          entry.arrival ≤ (read ++ [datagram]).length ∧
            (payloadsOf ((read ++ [datagram]).take entry.arrival)).length = front.length := by
        intro rest before
        obtain ⟨inside, count⟩ := ih before
        rw [List.take_append_of_le_length inside, List.length_append]
        exact ⟨Nat.le_add_right_of_le inside, count⟩
      rw [numbered_snoc] at split
      cases sized : datagramPayload datagram with
      | none => exact earlier (by simpa [sized] using split)
      | some payload =>
          rcases List.eq_nil_or_concat back with rfl | ⟨rest, last, rfl⟩
          · -- The entry is that of the last datagram.
            have lasts : numbered read ++ [Numbered.mk read.length payload] = front ++ [entry] := by
              simpa [sized] using split
            obtain ⟨rfl, same⟩ := List.append_inj' lasts rfl
            obtain rfl := List.singleton_inj.mp same
            refine ⟨by simp, ?_⟩
            rw [List.take_left, ← payloadsIn_numbered, payloadsIn, List.length_map]
          · have lasts : numbered read ++ [Numbered.mk read.length payload] =
                (front ++ entry :: rest) ++ [last] := by
              simpa [sized] using split
            exact earlier (List.append_inj' lasts rfl).1

/-- A datagram that is a packet. -/
def IsSized (datagram : Datagram) : Prop := datagram.bytes.length = packetSize

instance (datagram : Datagram) : Decidable (IsSized datagram) :=
  inferInstanceAs (Decidable (_ = _))

/-- A datagram is of packet size exactly when it has a payload. -/
theorem isSized_iff (datagram : Datagram) :
    IsSized datagram ↔ (datagramPayload datagram).isSome = true := by
  rw [Option.isSome_iff_exists]
  constructor
  · intro sized
    exact ⟨⟨datagram.bytes, sized⟩, datagramPayload_eq_some.mpr rfl⟩
  · rintro ⟨payload, held⟩
    rw [IsSized, datagramPayload_eq_some.mp held]
    exact payload.2

/-- All datagrams are packets exactly when there are as many payloads. -/
theorem length_payloadsOf_iff (read : List Datagram) :
    (payloadsOf read).length = read.length ↔ ∀ datagram ∈ read, IsSized datagram := by
  rw [payloadsOf, List.length_filterMap_eq_countP, List.countP_eq_length]
  exact forall₂_congr fun datagram _ => (isSized_iff datagram).symm

/-- Between two payloads of a batch, the indices count the payloads exactly when all
datagrams between them are packets. -/
theorem arrival_eq_iff {read : List Datagram} {front middle back : List Numbered}
    {first entry : Numbered}
    (split : numbered read = front ++ first :: (middle ++ entry :: back)) :
    first.arrival + (middle.length + 1) = entry.arrival ↔
      ∀ datagram ∈ (read.take entry.arrival).drop first.arrival, IsSized datagram := by
  obtain ⟨_, before⟩ := numbered_split split
  have later : numbered read = (front ++ first :: middle) ++ entry :: back := by simpa using split
  obtain ⟨inside, count⟩ := numbered_split later
  rw [List.length_append, List.length_cons] at count
  have ordered : first.arrival ≤ entry.arrival := by
    by_contra reversed
    have fewer := ((List.take_prefix_take_left (l := read) (by omega :
      entry.arrival ≤ first.arrival)).sublist.filterMap datagramPayload).length_le
    simp only [payloadsOf] at before count
    omega
  have parts : read.take entry.arrival =
      read.take first.arrival ++ (read.take entry.arrival).drop first.arrival := by
    conv_lhs => rw [← List.take_append_drop first.arrival (read.take entry.arrival)]
    rw [List.take_take, min_eq_left ordered]
  have between : (payloadsOf ((read.take entry.arrival).drop first.arrival)).length =
      middle.length + 1 := by
    rw [parts, payloadsOf, List.filterMap_append, List.length_append] at count
    simp only [payloadsOf] at before ⊢
    omega
  have distance : ((read.take entry.arrival).drop first.arrival).length =
      entry.arrival - first.arrival := by
    rw [List.length_drop, List.length_take, min_eq_left inside]
  rw [← length_payloadsOf_iff, between, distance]
  omega

/-- A comparison is reported under its own index exactly when no datagram of another
length arrives between the first of its batch and its own. -/
theorem report_eq_exact_iff {read : List Datagram} {sent : List (List Numbered)}
    (whole : sent.flatten = numbered read) {batch : List Numbered} (member : batch ∈ sent)
    {returned : List Byte} {comparison : Comparison}
    (inside : comparison ∈ comparisons returned batch) :
    comparison.report = comparison.exact ↔
      ∀ datagram ∈ (read.take comparison.arrival).drop comparison.batchArrival,
        IsSized datagram := by
  obtain ⟨before, after, rfl⟩ := List.append_of_mem member
  rw [List.flatten_append, List.flatten_cons] at whole
  obtain ⟨offset, bound, rfl⟩ := List.getElem_of_mem inside
  have within : offset < batch.length := by simpa using bound
  rw [getElem_comparisons bound within]
  simp only [Comparison.report, Comparison.exact, MismatchExample.mk.injEq, and_true]
  cases batch with
  | nil => cases within
  | cons first rest =>
      have start : firstArrival (first :: rest) = first.arrival := rfl
      cases offset with
      | zero => simp [start]
      | succ offset =>
          have later : offset < rest.length := Nat.lt_of_succ_lt_succ within
          have parts : numbered read = before.flatten ++ first :: (rest.take offset ++
              rest[offset] :: (rest.drop (offset + 1) ++ after.flatten)) := by
            have cut : rest.take offset ++ rest[offset] :: rest.drop (offset + 1) = rest := by
              rw [← List.drop_eq_getElem_cons later, List.take_append_drop]
            have tail : rest.take offset ++
                rest[offset] :: (rest.drop (offset + 1) ++ after.flatten) =
                  rest ++ after.flatten := by
              rw [← List.cons_append, ← List.append_assoc, cut]
            rw [tail, ← whole]
            rfl
          have exact := arrival_eq_iff parts
          rw [List.length_take, min_eq_left later.le] at exact
          rw [start, List.getElem_cons_succ]
          exact exact

end Indices

section Exactness

variable {dma : Dma} {sent : List (List Numbered)}

/-- A comparison belongs to a submitted batch. -/
theorem mem_compared {batch : List Comparison} (member : batch ∈ compared dma sent) :
    ∃ attempt submitted, sent[attempt]? = some submitted ∧
      batch = comparisons (returnedBytes dma attempt submitted) submitted := by
  obtain ⟨attempt, inside, rfl⟩ := List.mem_mapIdx.mp member
  exact ⟨attempt, sent[attempt], List.getElem?_eq_getElem inside, rfl⟩

/-- No comparison differs exactly when every batch comes back as it was submitted. -/
theorem compared_clean_iff : ((compared dma sent).flatten.filter (·.Differs)).length = 0 ↔
    ∀ attempt batch, sent[attempt]? = some batch →
      returnedBytes dma attempt batch = joinPackets (payloadsIn batch) := by
  have short (attempt : Nat) (batch : List Numbered) :
      (returnedBytes dma attempt batch).length ≤ (joinPackets (payloadsIn batch)).length :=
    List.length_take_le _ _
  simp only [List.length_eq_zero_iff, List.filter_eq_nil_iff, decide_eq_true_eq, List.mem_flatten]
  constructor
  · intro clean attempt batch held
    obtain ⟨inside, rfl⟩ := List.getElem?_eq_some_iff.mp held
    exact (comparisons_clean_iff (short attempt _)).mp fun comparison member =>
      clean comparison ⟨_, List.mem_mapIdx.mpr ⟨attempt, inside, rfl⟩, member⟩
  · rintro intact comparison ⟨batch, member, inside⟩
    obtain ⟨attempt, submitted, held, rfl⟩ := mem_compared member
    exact (comparisons_clean_iff (short attempt submitted)).mpr (intact attempt submitted held)
      comparison inside

/-- Every reported example is a comparison of some batch. -/
theorem mem_reported {comparison : Comparison}
    (member : comparison ∈ reported (compared dma sent)) :
    ∃ batch returned, batch ∈ sent ∧ comparison ∈ comparisons returned batch := by
  obtain ⟨batch, inside, first⟩ := List.mem_flatMap.mp (List.mem_of_mem_take member)
  obtain ⟨attempt, submitted, held, rfl⟩ := mem_compared inside
  exact ⟨submitted, _, List.mem_of_getElem? held,
    (List.mem_filter.mp (List.mem_of_mem_take first)).1⟩

/-- The counter and the examples describe the mismatches, each under its own index. -/
structure Delivery.ShowsMismatches (delivery : Delivery) (dma : Dma)
    (sent : List (List Numbered)) : Prop where
  mismatched : delivery.mismatchedPackets =
    ((compared dma sent).flatten.filter (·.Differs)).length
  intact : delivery.mismatchedPackets = 0 ↔ ∀ attempt batch, sent[attempt]? = some batch →
    returnedBytes dma attempt batch = joinPackets (payloadsIn batch)
  atMost : delivery.mismatchExamples.length ≤ 10
  examples : delivery.mismatchExamples = (reported (compared dma sent)).map Comparison.exact

/-- For all datagrams, batch sizes and returned bytes: the mismatches are counted
exactly, and the first five of every batch are reported, of these the first ten, under
the index of the first datagram of the batch plus their place in the batch. That index
is their own exactly when no datagram of another length arrives between the two. -/
theorem mismatch_reports_iff (completes : Completes dma) {batchPackets : Nat}
    (positive : 0 < batchPackets) (results : List ReceiveResult)
    (finished : (main dma batchPackets results).ending = .finished) :
    let delivery := (main dma batchPackets results).state.delivery
    let received := takeThrough isStreamEnd (datagramsOf results)
    let sent := batches batchPackets (numbered received)
    delivery.transfers = sent.map payloadsIn ∧
      delivery.mismatchedPackets = ((compared dma sent).flatten.filter (·.Differs)).length ∧
      delivery.mismatchExamples = (reported (compared dma sent)).map Comparison.report ∧
      (delivery.ShowsMismatches dma sent ↔
        ∀ comparison ∈ reported (compared dma sent),
          ∀ datagram ∈ (received.take comparison.arrival).drop comparison.batchArrival,
            IsSized datagram) := by
  intro delivery received sent
  have reports : Reports dma sent [] delivery := main_reports completes positive results finished
  refine ⟨reports.transfers, reports.mismatched, reports.examples, ?_⟩
  have whole : sent.flatten = numbered received := flatten_batches _ _
  have indices : delivery.mismatchExamples = (reported (compared dma sent)).map Comparison.exact ↔
      ∀ comparison ∈ reported (compared dma sent),
        ∀ datagram ∈ (received.take comparison.arrival).drop comparison.batchArrival,
          IsSized datagram := by
    rw [reports.examples, List.map_inj_left]
    refine forall₂_congr fun comparison member => ?_
    obtain ⟨batch, returned, inside, compared⟩ := mem_reported member
    exact report_eq_exact_iff whole inside compared
  constructor
  · exact fun shows => indices.mp shows.examples
  · intro unbroken
    refine ⟨reports.mismatched, ?_, ?_, indices.mpr unbroken⟩
    · rw [reports.mismatched]
      exact compared_clean_iff
    · rw [reports.examples, List.length_map]
      exact List.length_take_le _ _

end Exactness

section Sessions

/-- A quote, two stray bytes and the end of the stream. -/
def brokenBatch : List ReceiveResult :=
  let sender : Address := ⟨0#32, 5005#16⟩
  [.messages [⟨(senderFields messageQuoteUpdate 0 1 0 1 1 1).layout, sender⟩,
    ⟨[1#8, 2#8], sender⟩, ⟨(senderFields messageStreamEnd 0 2 0 0 0 0).layout, sender⟩]]

/-- A path that alters every byte. -/
def inverting : Dma := fun _ bytes => some (bytes.map fun byte => ~~~byte)

/-- The altering path answers every transfer. -/
theorem completes_inverting : Completes inverting := fun _ _ => rfl

/-- In batches of one packet, both mismatches are reported under their indices. -/
theorem mismatch_reports_single :
    (main inverting 1 brokenBatch).state.delivery.ShowsMismatches inverting
      (batches 1 (numbered (takeThrough isStreamEnd (datagramsOf brokenBatch)))) := by
  have reports := mismatch_reports_iff completes_inverting (by decide) brokenBatch
    (show (main inverting 1 brokenBatch).ending = .finished by decide)
  exact reports.2.2.2.mpr (by decide)

/-- In a batch of two, the end of the stream is reported under the index of the stray
bytes. -/
theorem stray_bytes_shift_index :
    let delivery := (main inverting 2 brokenBatch).state.delivery
    let received := takeThrough isStreamEnd (datagramsOf brokenBatch)
    (main inverting 2 brokenBatch).ending = .finished ∧
      (numbered received).map Numbered.arrival = [0, 2] ∧
      delivery.mismatchExamples.map MismatchExample.packetIndex = [0, 1] ∧
      ¬delivery.ShowsMismatches inverting (batches 2 (numbered received)) := by
  intro delivery received
  have shown : delivery.mismatchExamples.map MismatchExample.packetIndex = [0, 1] := by decide
  refine ⟨by decide, by decide, shown, ?_⟩
  intro shows
  have exact : (reported (compared inverting (batches 2 (numbered received)))).map
      (fun comparison => comparison.exact.packetIndex) = [0, 2] := by decide
  rw [shows.examples, List.map_map] at shown
  exact absurd (exact.symm.trans shown) (by decide)

end Sessions

end HftPipeline.Host.LiveReceiver
