import HftPipeline.Wire.Senders
import HftPipeline.Host.FailedBatches

/-!
# `phase4_9_live_udp_dma_test.py`

The earlier live receiver reads one datagram at a time with `recvfrom`. Its checks,
counters, batches and `flush_pending` are those of the `recvmmsg` receiver, but it has
no `dma_failed`: a failed flush leaves the loop, and the flush behind the loop finds
the same batch still pending. The docstring at the head of the source is read as closed
in front of its imports.
-/

namespace HftPipeline.Host.LiveDmaTest

open HftPipeline.Std.EarlyExit HftPipeline.Std.Groups HftPipeline.Wire
open LiveReceiver hiding ReceiveResult Outcome receiveLoop main overallPass datagramsOf

/-- What one call of `recvfrom` ends with. -/
inductive ReceiveResult where
  | datagram (datagram : Datagram)
  | timeout
  | failed (errno : Nat)
  | keyboardInterrupt

/-- The size passed to `recvfrom`. -/
def receiveSize : Nat := 65535

/-- The packet of a received datagram, when its length is `PACKET_SIZE`. -/
def receivedPayload (datagram : Datagram) : Option Payload :=
  if sized : (datagram.bytes.take receiveSize).length = packetSize then
    some ⟨datagram.bytes.take receiveSize, sized⟩
  else none

/-- A run after a number of receive calls. The variables are those of the `recvmmsg`
receiver, of which `dmaFailed` does not exist here and is neither read nor written. -/
structure Outcome where
  ending : Ending
  state : State

/-- The rest of the loop body for a payload of the right size, and whether it leaves the
loop because of a failed flush. -/
def processPayload (dma : Dma) (batchPackets : Nat) (state : State) (payload : Payload) :
    State × Bool :=
  let classified := classify state (unpack payload)
  let queued :=
    { classified with
      delivery := classified.delivery.queue classified.receivedPackets payload }
  if queued.delivery.pendingPackets.length = batchPackets ∨ queued.streamEndSeen = true then
    let flushed := flushPending dma batchPackets queued.receivedPackets queued.delivery
    ({ queued with delivery := flushed.1 }, !flushed.2)
  else (queued, false)

/-- The loop body. -/
def processDatagram (dma : Dma) (batchPackets : Nat) (state : State) (datagram : Datagram) :
    State × Bool :=
  let arrived := arrive state datagram.sender
  match receivedPayload datagram with
  | none =>
      ({ arrived with
          malformedLengths := state.malformedLengths + 1
          invalidPackets := state.invalidPackets + 1 }, false)
  | some payload => processPayload dma batchPackets arrived payload

/-- The last `flush_pending()`, behind the loop or in the handler of the interrupt. -/
def lastFlush (dma : Dma) (batchPackets : Nat) (state : State) : State :=
  { state with
    delivery := (flushPending dma batchPackets state.receivedPackets state.delivery).1 }

/-- The receive loop and what follows it. -/
def receiveLoop (dma : Dma) (batchPackets : Nat) (state : State) : List ReceiveResult → Outcome
  | [] =>
      if state.streamEndSeen then ⟨.finished, lastFlush dma batchPackets state⟩
      else ⟨.waiting, state⟩
  | result :: results =>
      if state.streamEndSeen then ⟨.finished, lastFlush dma batchPackets state⟩
      else match result with
        | .datagram datagram =>
            let processed := processDatagram dma batchPackets state datagram
            if processed.2 then ⟨.finished, lastFlush dma batchPackets processed.1⟩
            else receiveLoop dma batchPackets processed.1 results
        | .timeout => ⟨.finished, lastFlush dma batchPackets { state with timedOut := true }⟩
        | .failed errno => ⟨.raised errno, state⟩
        | .keyboardInterrupt => ⟨.finished, lastFlush dma batchPackets state⟩

/-- `main`, behind its argument checks, for the results of its receive calls. -/
def main (dma : Dma) (batchPackets : Nat) (results : List ReceiveResult) : Outcome :=
  receiveLoop dma batchPackets .initial results

/-- `overall_pass`. -/
def overallPass (state : State) : Bool :=
  state.streamEndSeen && !state.timedOut && decide (state.receivedPackets > 0) &&
    state.validPackets == state.receivedPackets && state.malformedLengths == 0 &&
    state.sequences.missing == 0 && state.sequences.duplicate == 0 &&
    state.sequences.outOfOrder == 0 && state.delivery.dmaPackets == state.receivedPackets &&
    state.delivery.mismatchedPackets == 0 && state.delivery.dmaErrors == 0 &&
    plannedCountMatches state

/-- The datagrams that the calls return before the socket times out or the program is
interrupted. -/
def datagramsOf : List ReceiveResult → List Datagram
  | .datagram datagram :: results => datagram :: datagramsOf results
  | _ => []

/-- Both receivers see the same packets. -/
theorem receivedPayload_eq (datagram : Datagram) :
    receivedPayload datagram = datagramPayload datagram := by
  unfold receivedPayload
  split_ifs with sized
  · have exact : datagram.bytes.length = packetSize := by
      rw [List.length_take, receiveSize, packetSize] at sized
      rw [packetSize]
      omega
    refine (datagramPayload_eq_some.mpr (List.take_of_length_le ?_).symm).symm
    rw [exact]
    decide
  · cases held : datagramPayload datagram with
    | none => rfl
    | some payload =>
        have exact : datagram.bytes.length = packetSize := by
          rw [datagramPayload_eq_some.mp held, payload.2]
        refine absurd ?_ sized
        rw [List.length_take, exact]
        decide

/-- The batches flushed inside the loop: the full ones, and the one that a `STREAM_END`
closes. -/
def loopBatches (batchPackets : Nat) (read : List Datagram) : List (List Payload) :=
  if read.any isStreamEnd then batches batchPackets (payloadsOf read)
  else groups batchPackets (payloadsOf read)

section Batches

variable {batchPackets : Nat} {read : List Datagram} {datagram : Datagram}

/-- Without an END the loop transfers the full groups only. -/
theorem loopBatches_of_unended (unended : read.any isStreamEnd = false) :
    loopBatches batchPackets read = groups batchPackets (payloadsOf read) := by
  rw [loopBatches, unended]
  rfl

/-- A datagram of another length completes no batch. -/
theorem loopBatches_snoc_malformed (wrong : datagramPayload datagram = none) :
    loopBatches batchPackets (read ++ [datagram]) = loopBatches batchPackets read := by
  have silent : isStreamEnd datagram = false := by simp [isStreamEnd, wrong]
  simp [loopBatches, silent, payloadsOf_snoc_malformed read wrong]

variable {payload : Payload}

/-- Neither does a payload that leaves room in its batch. -/
theorem loopBatches_snoc_short (sized : datagramPayload datagram = some payload)
    (unended : (read ++ [datagram]).any isStreamEnd = false)
    (short : (remainder batchPackets (payloadsOf read)).length + 1 < batchPackets) :
    loopBatches batchPackets (read ++ [datagram]) = groups batchPackets (payloadsOf read) := by
  rw [loopBatches_of_unended unended, payloadsOf_snoc_sized read sized]
  exact (groups_snoc_of_short payload short).1

/-- A payload that fills its batch or ends the stream completes the batch. -/
theorem loopBatches_snoc_flush (positive : 0 < batchPackets)
    (sized : datagramPayload datagram = some payload)
    (flushes : (remainder batchPackets (payloadsOf read)).length + 1 = batchPackets ∨
      (read ++ [datagram]).any isStreamEnd = true) :
    loopBatches batchPackets (read ++ [datagram]) = groups batchPackets (payloadsOf read) ++
      [remainder batchPackets (payloadsOf read) ++ [payload]] := by
  rw [← batches_snoc positive, loopBatches, payloadsOf_snoc_sized read sized]
  split_ifs with ended
  · rfl
  · have full := flushes.resolve_right ended
    rw [batches_of_complete (groups_snoc_of_full payload full).2]

/-- Reading on only adds batches. -/
theorem loopBatches_append (positive : 0 < batchPackets) (unended : read.any isStreamEnd = false)
    (rest : List Datagram) :
    loopBatches batchPackets read <+: loopBatches batchPackets (read ++ rest) := by
  have grown : groups batchPackets (payloadsOf read) <+:
      groups batchPackets (payloadsOf (read ++ rest)) :=
    groups_mono positive ((List.prefix_append read rest).filterMap datagramPayload)
  rw [loopBatches_of_unended unended, loopBatches]
  split_ifs
  · exact grown.trans (List.prefix_append _ _)
  · exact grown

end Batches

/-- Between two datagrams: no transfer has raised, and the loop has flushed its batches. -/
structure Running (dma : Dma) (batchPackets : Nat) (state : State) (read : List Datagram) :
    Prop where
  counts : Counts state read
  unfailed : Unfailed dma batchPackets (payloadsOf read) state.delivery
  transfers : state.delivery.transfers = loopBatches batchPackets read

section Step

variable {dma : Dma} {batchPackets : Nat} {state : State} {read : List Datagram}

/-- The loop starts with nothing read. -/
theorem running_initial (dma : Dma) (batchPackets : Nat) :
    Running dma batchPackets .initial [] where
  counts := (accounts_initial dma batchPackets).counts
  unfailed := unfailed_initial dma batchPackets
  transfers := by simp [loopBatches, payloadsOf, State.initial, Delivery.initial]

/-- The loop has seen an END exactly when one was read. -/
theorem Running.streamEndSeen (running : Running dma batchPackets state read) :
    state.streamEndSeen = read.any isStreamEnd := by
  rw [running.counts.tallies.ended, any_payloadsOf]

/-- What is pending does not fill a batch. -/
theorem Running.pending (running : Running dma batchPackets state read)
    (active : state.streamEndSeen = false) :
    state.delivery.transfers = groups batchPackets (payloadsOf read) ∧
      state.delivery.pendingPackets = remainder batchPackets (payloadsOf read) := by
  have cut : state.delivery.transfers = groups batchPackets (payloadsOf read) := by
    rw [running.transfers, loopBatches_of_unended (running.streamEndSeen.symm.trans active)]
  refine ⟨cut, ?_⟩
  have kept := running.unfailed.kept
  rw [cut] at kept
  exact List.append_cancel_left (kept.trans (groups_append_remainder _ _).symm)

/-- Behind one more datagram the loop goes on, or it is left behind the first transfer that
raises. -/
def Proceeds (dma : Dma) (batchPackets : Nat) (processed : State × Bool) (read : List Datagram) :
    Prop :=
  processed.2 = false ∧ Running dma batchPackets processed.1 read ∨
    processed.2 = true ∧ ∃ completed batch,
      Failed dma batchPackets (payloadsOf read) completed batch processed.1.delivery ∧
      completed ++ [batch] = loopBatches batchPackets read

variable {datagram : Datagram}

/-- A datagram of another length is only counted. -/
theorem Running.malformed_step (running : Running dma batchPackets state read)
    (malformed : datagramPayload datagram = none) :
    Proceeds dma batchPackets (processDatagram dma batchPackets state datagram)
      (read ++ [datagram]) := by
  rw [processDatagram, receivedPayload_eq, malformed]
  refine .inl ⟨rfl, running.counts.malformed_datagram malformed, ?_, ?_⟩
  · rw [payloadsOf_snoc_malformed read malformed]
    exact running.unfailed
  · rw [loopBatches_snoc_malformed malformed]
    exact running.transfers

variable {payload : Payload}

/-- A payload joins what is pending. -/
theorem Running.queue (running : Running dma batchPackets state read)
    (active : state.streamEndSeen = false) (sized : datagramPayload datagram = some payload)
    (receivedPackets : Nat) :
    let queued := state.delivery.queue receivedPackets payload
    Unfailed dma batchPackets (payloadsOf (read ++ [datagram])) queued ∧
      queued.transfers = groups batchPackets (payloadsOf read) ∧
      queued.pendingPackets = remainder batchPackets (payloadsOf read) ++ [payload] := by
  obtain ⟨cut, pending⟩ := running.pending active
  rw [payloadsOf_snoc_sized read sized, Delivery.queue, cut, pending, ← cut]
  refine ⟨?_, rfl, rfl⟩
  have queued := running.unfailed.queue receivedPackets payload
  rwa [Delivery.queue, pending] at queued

/-- A payload that fills its batch or ends the stream is flushed with the batch. -/
theorem Running.sized_step (running : Running dma batchPackets state read)
    (positive : 0 < batchPackets) (active : state.streamEndSeen = false)
    (sized : datagramPayload datagram = some payload) :
    Proceeds dma batchPackets (processDatagram dma batchPackets state datagram)
      (read ++ [datagram]) := by
  have counted := running.counts.classify sized
  have ended : (classify (arrive state datagram.sender) (unpack payload)).streamEndSeen =
      (read ++ [datagram]).any isStreamEnd := by
    rw [counted.tallies.ended, any_payloadsOf]
  have held : (classify (arrive state datagram.sender) (unpack payload)).delivery =
      state.delivery := classify_delivery _ _
  rw [processDatagram, receivedPayload_eq, sized]
  simp only [processPayload]
  generalize classify (arrive state datagram.sender) (unpack payload) = next at *
  rw [held]
  obtain ⟨unfailed, log, pending⟩ := running.queue active sized next.receivedPackets
  generalize state.delivery.queue next.receivedPackets payload = queued at *
  simp only [pending, List.length_append, List.length_singleton]
  split_ifs with flushes
  · rw [ended] at flushes
    have batch := loopBatches_snoc_flush positive sized flushes
    rcases unfailed.flush_pending next.receivedPackets (by simp [pending]) with
      ⟨completed, settled, sent⟩ | ⟨raised, failed⟩
    · refine .inl ⟨by simp [completed], counted.frame _ next.timedOut next.dmaFailed, settled, ?_⟩
      rw [batch, ← pending, ← log]
      exact sent
    · refine .inr ⟨by simp [raised], _, _, failed, ?_⟩
      rw [batch, pending, log]
  · rw [not_or, ended, Bool.not_eq_true] at flushes
    have room := Nat.mod_lt (payloadsOf read).length positive
    rw [← length_remainder] at room
    refine .inl ⟨rfl, counted.frame _ next.timedOut next.dmaFailed, unfailed, ?_⟩
    rw [loopBatches_snoc_short sized flushes.2 (by omega)]
    exact log

/-- A datagram read while no END was seen keeps the loop running or ends it. -/
theorem Running.step (running : Running dma batchPackets state read) (positive : 0 < batchPackets)
    (active : state.streamEndSeen = false) (datagram : Datagram) :
    Proceeds dma batchPackets (processDatagram dma batchPackets state datagram)
      (read ++ [datagram]) := by
  cases sized : datagramPayload datagram with
  | none => exact running.malformed_step sized
  | some payload => exact running.sized_step positive active sized

end Step

section Run

variable {dma : Dma} {batchPackets : Nat}

/-- The loop ran without a failed flush, so that only the last flush can have failed. -/
def Completed (dma : Dma) (batchPackets : Nat) (received : List Datagram) (delivery : Delivery) :
    Prop :=
  Answers dma batchPackets (loopBatches batchPackets received) ∧
    (Unfailed dma batchPackets (payloadsOf received) delivery ∨
      ∃ completed batch, Failed dma batchPackets (payloadsOf received) completed batch delivery)

/-- A flush inside the loop failed, and its batch has been submitted twice. -/
def Resubmitted (dma : Dma) (batchPackets : Nat) (received : List Datagram) (delivery : Delivery) :
    Prop :=
  ∃ completed batch, delivery.transfers = completed ++ [batch] ++ [batch] ∧
    completed ++ [batch] <+: loopBatches batchPackets received ∧
    transferBatch dma (maxBatchBytes batchPackets) completed.length batch = none

/-- The last flush completes the transfers of what was read. -/
theorem Running.lastFlush {state : State} {read : List Datagram}
    (running : Running dma batchPackets state read) :
    Completed dma batchPackets read (lastFlush dma batchPackets state).delivery := by
  refine ⟨running.transfers ▸ running.unfailed.answers, ?_⟩
  exact (running.unfailed.flush state.receivedPackets).imp And.right fun ⟨_, failed⟩ =>
    ⟨_, _, failed⟩

/-- A loop that has not been left by a failed flush. -/
theorem Running.waits {state : State} {read : List Datagram}
    (running : Running dma batchPackets state read) :
    Completed dma batchPackets read state.delivery :=
  ⟨running.transfers ▸ running.unfailed.answers, .inl running.unfailed⟩

/-- The datagrams up to the first `STREAM_END`, from the first of them on. -/
theorem read_datagram {read : List Datagram} (unended : read.any isStreamEnd = false)
    (datagram : Datagram) (later : List Datagram) :
    read ++ takeThrough isStreamEnd (datagram :: later) = read ++ [datagram] ++
      if (read ++ [datagram]).any isStreamEnd then [] else takeThrough isStreamEnd later := by
  cases ends : isStreamEnd datagram <;> simp [takeThrough, ends, unended]

/-- A run goes through its loop, or it submits the failed batch again. -/
theorem receiveLoop_cases (positive : 0 < batchPackets) {state : State} {read : List Datagram}
    (running : Running dma batchPackets state read) (results : List ReceiveResult) :
    let received := read ++
      if state.streamEndSeen then [] else takeThrough isStreamEnd (datagramsOf results)
    let final := (receiveLoop dma batchPackets state results).state.delivery
    Completed dma batchPackets received final ∨ Resubmitted dma batchPackets received final := by
  induction results generalizing state read with
  | nil =>
      cases ended : state.streamEndSeen with
      | true => simpa [receiveLoop, ended] using Or.inl running.lastFlush
      | false => simpa [receiveLoop, ended, datagramsOf, takeThrough] using Or.inl running.waits
  | cons result results ih =>
      cases ended : state.streamEndSeen with
      | true => simpa [receiveLoop, ended] using Or.inl running.lastFlush
      | false =>
          have unended : read.any isStreamEnd = false := running.streamEndSeen.symm.trans ended
          cases result with
          | datagram datagram =>
              have reading := read_datagram unended datagram (datagramsOf results)
              simp only [receiveLoop, ended, datagramsOf, Bool.false_eq_true, if_false]
              rcases running.step positive ended datagram with
                ⟨goesOn, next⟩ | ⟨breaks, completed, batch, failed, cut⟩
              · have whole := ih next
                rw [next.streamEndSeen, ← reading] at whole
                rw [goesOn]
                exact whole
              · refine .inr ⟨completed, batch, ?_, ?_, failed.raises⟩
                · rw [breaks]
                  exact failed.flush_again _
                · rw [cut, reading]
                  cases ends : (read ++ [datagram]).any isStreamEnd with
                  | true => simp
                  | false => exact loopBatches_append positive ends _
          | timeout =>
              have timedOut : Running dma batchPackets { state with timedOut := true } read :=
                ⟨running.counts.frame state.delivery true state.dmaFailed, running.unfailed,
                  running.transfers⟩
              simpa [receiveLoop, ended, datagramsOf, takeThrough] using Or.inl timedOut.lastFlush
          | failed errno =>
              simpa [receiveLoop, ended, datagramsOf, takeThrough] using Or.inl running.waits
          | keyboardInterrupt =>
              simpa [receiveLoop, ended, datagramsOf, takeThrough] using Or.inl running.lastFlush

/-- A DMA error is never a pass. -/
theorem overallPass_of_errors {state : State} (errors : state.delivery.dmaErrors ≠ 0) :
    overallPass state = false := by
  simp [overallPass, errors]

/-- The run stops behind a failed batch exactly when no flush inside the loop fails. -/
theorem main_stopsAtFailure_iff (dma : Dma) (positive : 0 < batchPackets)
    (results : List ReceiveResult) :
    let final := (main dma batchPackets results).state
    StopsAtFailure dma batchPackets (payloadsOf (datagramsOf results)) final.delivery
        (overallPass final) ↔
      Answers dma batchPackets
        (loopBatches batchPackets (takeThrough isStreamEnd (datagramsOf results))) := by
  intro final
  rcases receiveLoop_cases positive (running_initial dma batchPackets) results with
    ⟨answers, ending⟩ | ⟨completed, batch, transfers, inside, raises⟩
  · refine iff_of_true ?_ answers
    rcases ending with unfailed | ⟨completed, batch, failed⟩
    · exact unfailed.stops _ _
    · exact failed.stops ((takeThrough_isPrefix _ _).filterMap datagramPayload)
        fun errors => overallPass_of_errors errors
  · refine iff_of_false ?_ ?_
    · intro stops
      have held : final.delivery.transfers[completed.length]? = some batch := by
        rw [show final.delivery.transfers = _ from transfers]
        simp
      have short := (stops _ _ held raises).1
      rw [show final.delivery.transfers = _ from transfers] at short
      simp at short
    · intro answers
      obtain ⟨rest, whole⟩ := inside
      have submitted : loopBatches batchPackets (takeThrough isStreamEnd (datagramsOf results)) =
          completed ++ [batch] ++ rest := whole.symm
      have answered := answers completed.length batch (by rw [submitted]; simp)
      rw [raises] at answered
      cases answered

/-- For every DMA, every positive batch size and all results of the receive calls: the
`recvmmsg` receiver starts no transfer behind one that raises, and the DMA test starts
none exactly when no flush inside its loop fails, that is, when the transfers of its
full batches and of the batch that a `STREAM_END` closes are answered. -/
theorem failed_batch_is_last_iff (dma : Dma) (positive : 0 < batchPackets)
    (calls : List LiveReceiver.ReceiveResult) (results : List ReceiveResult) :
    let received := (LiveReceiver.main dma batchPackets calls).state
    let tested := (main dma batchPackets results).state
    StopsAtFailure dma batchPackets (payloadsOf (LiveReceiver.datagramsOf calls)) received.delivery
        (LiveReceiver.overallPass received) ∧
      (StopsAtFailure dma batchPackets (payloadsOf (datagramsOf results)) tested.delivery
          (overallPass tested) ↔
        Answers dma batchPackets
          (loopBatches batchPackets (takeThrough isStreamEnd (datagramsOf results)))) :=
  ⟨LiveReceiver.main_stopsAtFailure dma batchPackets calls,
    main_stopsAtFailure_iff dma positive results⟩

/-- A DMA whose first transfer raises. -/
def failsOnce : Dma := fun attempt bytes => if attempt = 0 then none else some bytes

def quote : Payload :=
  ⟨(senderFields messageQuoteUpdate 0 1 0 1 1 1).layout, by decide⟩

/-- One quote, and then nothing until the timeout. -/
def oneQuote : List ReceiveResult := [.datagram ⟨quote.1, ⟨0#32, 5005#16⟩⟩, .timeout]

/-- A failed partial batch is flushed behind the loop, and not again. -/
theorem failed_partial_batch_is_last :
    StopsAtFailure failsOnce 2 (payloadsOf (datagramsOf oneQuote))
      (main failsOnce 2 oneQuote).state.delivery
      (overallPass (main failsOnce 2 oneQuote).state) := by
  have nothing : loopBatches 2 (takeThrough isStreamEnd (datagramsOf oneQuote)) = [] := by decide
  refine (failed_batch_is_last_iff failsOnce (by decide) [] oneQuote).2.mpr ?_
  rw [nothing]
  intro attempt batch held
  cases held

/-- A failed full batch is submitted twice, and the second transfer counts its packet. -/
theorem failed_full_batch_submitted_again :
    let final := (main failsOnce 1 oneQuote).state
    final.delivery.transfers = [[quote], [quote]] ∧ final.delivery.dmaErrors = 1 ∧
      final.delivery.dmaPackets = 1 ∧
      ¬StopsAtFailure failsOnce 1 (payloadsOf (datagramsOf oneQuote)) final.delivery
        (overallPass final) := by
  intro final
  have twice : final.delivery.transfers = [[quote], [quote]] := by decide
  refine ⟨twice, by decide, by decide, ?_⟩
  intro stops
  have alone := (stops 0 [quote] (by rw [twice]; rfl) (by decide)).1
  rw [twice] at alone
  cases alone

end Run

end HftPipeline.Host.LiveDmaTest
