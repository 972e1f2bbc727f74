import HftPipeline.Host.LiveDelivery

/-!
# Batches whose transfer raises

A batch stays pending when its transfer raises, so that whatever flushes next submits
it once more. The live receiver flushes nothing behind a failed transfer: both of its
loops are left, and `dma_failed` guards the flush behind them.
-/

namespace HftPipeline.Host.LiveReceiver

open HftPipeline.Std.Groups HftPipeline.Wire

/-- Every transfer of some batches is answered. -/
def Answers (dma : Dma) (batchPackets : Nat) (transfers : List (List Payload)) : Prop :=
  ∀ attempt batch, transfers[attempt]? = some batch →
    (transferBatch dma (maxBatchBytes batchPackets) attempt batch).isSome = true

/-- No transfer has raised, and every payload is submitted or pending. -/
structure Unfailed (dma : Dma) (batchPackets : Nat) (payloads : List Payload)
    (delivery : Delivery) : Prop where
  counted : Counted dma delivery
  answers : Answers dma batchPackets delivery.transfers
  kept : delivery.transfers.flatten ++ delivery.pendingPackets = payloads

/-- The transfer of the last batch has raised, and the batch is still pending. -/
structure Failed (dma : Dma) (batchPackets : Nat) (payloads : List Payload)
    (completed : List (List Payload)) (batch : List Payload) (delivery : Delivery) : Prop where
  answers : Answers dma batchPackets completed
  raises : transferBatch dma (maxBatchBytes batchPackets) completed.length batch = none
  transfers : delivery.transfers = completed ++ [batch]
  pending : delivery.pendingPackets = batch
  nonempty : batch ≠ []
  errors : delivery.dmaErrors = 1
  packets : delivery.dmaPackets = completed.flatten.length
  kept : completed.flatten ++ batch = payloads

/-- Behind a transfer that raises no other is started, so that no payload is submitted
twice; the error is counted once, the packets are those of the batches before, and the
verdict is FAIL. -/
def StopsAtFailure (dma : Dma) (batchPackets : Nat) (payloads : List Payload)
    (delivery : Delivery) (passed : Bool) : Prop :=
  ∀ attempt batch, delivery.transfers[attempt]? = some batch →
    transferBatch dma (maxBatchBytes batchPackets) attempt batch = none →
      delivery.transfers.length = attempt + 1 ∧
        delivery.transfers.flatten <+: payloads ∧
        delivery.dmaErrors = 1 ∧
        delivery.dmaPackets = (delivery.transfers.take attempt).flatten.length ∧
        passed = false

section Flushing

variable {dma : Dma} {batchPackets : Nat} {payloads : List Payload} {delivery : Delivery}

/-- A transfer is an earlier one or the last. -/
theorem transfer_cases {transfers : List (List Payload)} {last batch : List Payload} {attempt : Nat}
    (held : (transfers ++ [last])[attempt]? = some batch) :
    transfers[attempt]? = some batch ∨ attempt = transfers.length ∧ batch = last := by
  rw [List.getElem?_append] at held
  split_ifs at held with earlier
  · exact .inl held
  · obtain ⟨single, same⟩ := List.getElem?_eq_some_iff.mp held
    rw [List.length_singleton] at single
    have bottom : attempt - transfers.length = 0 := by omega
    simp only [bottom, List.getElem_cons_zero] at same
    exact .inr ⟨by omega, same.symm⟩

/-- A further answered batch keeps all transfers answered. -/
theorem Answers.snoc {transfers : List (List Payload)} {batch : List Payload}
    (answers : Answers dma batchPackets transfers)
    (answered : (transferBatch dma (maxBatchBytes batchPackets) transfers.length batch).isSome) :
    Answers dma batchPackets (transfers ++ [batch]) := by
  intro attempt other held
  rcases transfer_cases held with earlier | ⟨rfl, rfl⟩
  · exact answers attempt other earlier
  · exact answered

/-- Before the first payload nothing is pending and no transfer has failed. -/
theorem unfailed_initial (dma : Dma) (batchPackets : Nat) :
    Unfailed dma batchPackets [] .initial := by
  refine ⟨⟨rfl, rfl, rfl, fun _ => rfl⟩, ?_, rfl⟩
  intro attempt batch held
  cases held

/-- A queued payload waits behind the transfers made so far. -/
theorem Unfailed.queue (unfailed : Unfailed dma batchPackets payloads delivery)
    (receivedPackets : Nat) (payload : Payload) :
    Unfailed dma batchPackets (payloads ++ [payload]) (delivery.queue receivedPackets payload) := by
  obtain ⟨counted, answers, kept⟩ := unfailed
  refine ⟨⟨counted.batches, counted.packets, counted.errors, counted.matched⟩, answers, ?_⟩
  rw [← kept, Delivery.queue, List.append_assoc]

/-- A flush of a pending batch is answered, or it is the first whose transfer raises. -/
theorem Unfailed.flush_pending (unfailed : Unfailed dma batchPackets payloads delivery)
    (receivedPackets : Nat) (pending : delivery.pendingPackets ≠ []) :
    let flushed := flushPending dma batchPackets receivedPackets delivery
    flushed.2 = true ∧ Unfailed dma batchPackets payloads flushed.1 ∧
        flushed.1.transfers = delivery.transfers ++ [delivery.pendingPackets] ∨
      flushed.2 = false ∧ Failed dma batchPackets payloads delivery.transfers
        delivery.pendingPackets flushed.1 := by
  obtain ⟨counted, answers, kept⟩ := unfailed
  cases outcome : transferBatch dma (maxBatchBytes batchPackets) delivery.transfers.length
      delivery.pendingPackets with
  | none =>
      rw [flushPending_raises receivedPackets pending outcome]
      exact .inr ⟨rfl, answers, outcome, rfl, rfl, pending, by simp [counted.errors],
        counted.packets, kept⟩
  | some answer =>
      obtain ⟨completed, emptied, sent, recounted⟩ :=
        flushPending_answered receivedPackets pending counted outcome
      refine .inl ⟨completed, ⟨recounted, ?_, ?_⟩, sent⟩
      · rw [sent]
        exact answers.snoc (by rw [outcome]; rfl)
      · rw [sent, emptied, List.flatten_append, List.flatten_singleton, List.append_nil]
        exact kept

/-- A flush transfers what is pending or is the first to fail. -/
theorem Unfailed.flush (unfailed : Unfailed dma batchPackets payloads delivery)
    (receivedPackets : Nat) :
    let flushed := flushPending dma batchPackets receivedPackets delivery
    flushed.2 = true ∧ Unfailed dma batchPackets payloads flushed.1 ∨
      flushed.2 = false ∧ Failed dma batchPackets payloads delivery.transfers
        delivery.pendingPackets flushed.1 := by
  by_cases empty : delivery.pendingPackets = []
  · rw [flushPending_empty empty]
    exact .inl ⟨rfl, unfailed⟩
  · exact (unfailed.flush_pending receivedPackets empty).imp_left fun ⟨completed, settled, _⟩ =>
      ⟨completed, settled⟩

/-- Any further flush submits a failed batch once more. -/
theorem Failed.flush_again {completed : List (List Payload)} {batch : List Payload}
    (failed : Failed dma batchPackets payloads completed batch delivery) (receivedPackets : Nat) :
    (flushPending dma batchPackets receivedPackets delivery).1.transfers =
      completed ++ [batch] ++ [batch] := by
  have pending : delivery.pendingPackets ≠ [] := failed.pending ▸ failed.nonempty
  simp only [flushPending, if_neg pending]
  split
  · rw [failed.transfers, failed.pending]
  · rw [failed.transfers, failed.pending]

/-- Without a failure there is nothing to stop behind. -/
theorem Unfailed.stops (unfailed : Unfailed dma batchPackets payloads delivery)
    (all : List Payload) (passed : Bool) :
    StopsAtFailure dma batchPackets all delivery passed := by
  intro attempt batch held raises
  have answered := unfailed.answers attempt batch held
  rw [raises] at answered
  cases answered

/-- A failed batch that is the last one submitted stops the run. -/
theorem Failed.stops {completed : List (List Payload)} {batch : List Payload}
    (failed : Failed dma batchPackets payloads completed batch delivery) {all : List Payload}
    (received : payloads <+: all) {passed : Bool}
    (rejected : delivery.dmaErrors ≠ 0 → passed = false) :
    StopsAtFailure dma batchPackets all delivery passed := by
  intro attempt other held raises
  rw [failed.transfers] at held ⊢
  rcases transfer_cases held with earlier | ⟨rfl, rfl⟩
  · have answered := failed.answers attempt other earlier
    rw [raises] at answered
    cases answered
  · refine ⟨by simp, ?_, failed.errors, ?_, rejected (by simp [failed.errors])⟩
    · rwa [List.flatten_append, List.flatten_singleton, failed.kept]
    · rw [failed.packets, List.take_left]

end Flushing

section Run

variable {dma : Dma} {batchPackets : Nat}

/-- The verdict needs a run without DMA errors. -/
theorem overallPass_of_errors {state : State} (errors : state.delivery.dmaErrors ≠ 0) :
    overallPass state = false := by
  simp [overallPass, errors]

/-- Between two datagrams: `dma_failed` tells whether a transfer has raised. -/
def Guarded (dma : Dma) (batchPackets : Nat) (state : State) (read : List Datagram) : Prop :=
  state.dmaFailed = false ∧ Unfailed dma batchPackets (payloadsOf read) state.delivery ∨
    state.dmaFailed = true ∧ ∃ completed batch,
      Failed dma batchPackets (payloadsOf read) completed batch state.delivery

/-- A flush sets `dma_failed` exactly when its transfer raises. -/
theorem Guarded.flush {state : State} {read : List Datagram} (running : state.dmaFailed = false)
    (unfailed : Unfailed dma batchPackets (payloadsOf read) state.delivery) :
    Guarded dma batchPackets (state.flush dma batchPackets) read := by
  rcases unfailed.flush state.receivedPackets with ⟨completed, settled⟩ | ⟨raised, failed⟩
  · exact .inl ⟨by simp [State.flush, running, completed], settled⟩
  · exact .inr ⟨by simp [State.flush, running, raised], _, _, failed⟩

/-- As long as the loops run no transfer has raised. -/
theorem Guarded.active {state : State} {read : List Datagram}
    (guarded : Guarded dma batchPackets state read) (active : state.stopped = false) :
    state.dmaFailed = false ∧ Unfailed dma batchPackets (payloadsOf read) state.delivery := by
  have running := (State.stopped_eq_false_iff.mp active).2
  rcases guarded with unfailed | ⟨failed, _⟩
  · exact unfailed
  · rw [running] at failed
    cases failed

/-- A slot of an active state keeps the reception guarded. -/
theorem Guarded.processSlot {state : State} {read : List Datagram}
    (guarded : Guarded dma batchPackets state read) (active : state.stopped = false)
    (datagram : Datagram) :
    Guarded dma batchPackets (processSlot dma batchPackets state (receiveSlot datagram))
      (read ++ [datagram]) := by
  obtain ⟨running, unfailed⟩ := guarded.active active
  cases sized : datagramPayload datagram with
  | none =>
      rw [processSlot_malformed dma batchPackets state sized]
      refine .inl ⟨running, ?_⟩
      rw [payloadsOf_snoc_malformed read sized]
      exact unfailed
  | some payload =>
      have grown := payloadsOf_snoc_sized read sized
      have kept :=
        (classify_dmaFailed (arrive state datagram.sender) (unpack payload)).trans running
      have held : (classify (arrive state datagram.sender) (unpack payload)).delivery =
          state.delivery := classify_delivery _ _
      rw [processSlot_sized dma batchPackets state sized, processPayload]
      generalize classify (arrive state datagram.sender) (unpack payload) = next at *
      have queued : Unfailed dma batchPackets (payloadsOf (read ++ [datagram]))
          (next.delivery.queue next.receivedPackets payload) := by
        rw [grown, held]
        exact unfailed.queue _ payload
      simp only
      split_ifs
      · exact Guarded.flush kept queued
      · exact .inl ⟨kept, queued⟩

/-- The flush behind the loop leaves a failed batch alone. -/
theorem Guarded.finalFlush {state : State} {read : List Datagram}
    (guarded : Guarded dma batchPackets state read) :
    Guarded dma batchPackets (finalFlush dma batchPackets state) read := by
  unfold LiveReceiver.finalFlush
  rcases guarded with ⟨running, unfailed⟩ | ⟨stopped, failed⟩
  · rw [if_neg (by simp [running])]
    exact Guarded.flush running unfailed
  · rw [if_pos stopped]
    exact .inr ⟨stopped, failed⟩

/-- A guarded reception has stopped at its first failure. -/
theorem Guarded.stops {state : State} {read all : List Datagram}
    (guarded : Guarded dma batchPackets state read) (received : read <+: all) :
    StopsAtFailure dma batchPackets (payloadsOf all) state.delivery (overallPass state) := by
  rcases guarded with ⟨_, unfailed⟩ | ⟨_, completed, batch, failed⟩
  · exact unfailed.stops _ _
  · exact failed.stops (received.filterMap datagramPayload) overallPass_of_errors

/-- The reception starts guarded. -/
theorem guarded_initial (dma : Dma) (batchPackets : Nat) : Guarded dma batchPackets .initial [] :=
  .inl ⟨rfl, unfailed_initial dma batchPackets⟩

/-- The live receiver never submits a batch behind one whose transfer has raised. -/
theorem main_stopsAtFailure (dma : Dma) (batchPackets : Nat) (results : List ReceiveResult) :
    let point := (main dma batchPackets results).state
    StopsAtFailure dma batchPackets (payloadsOf (datagramsOf results)) point.delivery
      (overallPass point) := by
  obtain ⟨front, last, before, reads, _, ends⟩ :=
    receiveLoop_reads dma batchPackets .initial .initial results
  have guarded : Guarded dma batchPackets last front :=
    reads.invariant (Guarded dma batchPackets) (guarded_initial dma batchPackets)
      fun _ _ datagram guarded active => guarded.processSlot active datagram
  unfold main
  generalize receiveLoop dma batchPackets .initial .initial results = outcome at ends ⊢
  cases ends with
  | stopped => exact guarded.finalFlush.stops before
  | waiting => exact guarded.stops before
  | timeout =>
      have timedOut : Guarded dma batchPackets { last with timedOut := true } front := guarded
      exact timedOut.finalFlush.stops before
  | failed => exact guarded.stops before
  | keyboardInterrupt _ active =>
      obtain ⟨_, unfailed⟩ := guarded.active active
      rcases unfailed.flush last.receivedPackets with ⟨_, settled⟩ | ⟨_, failed⟩
      · exact settled.stops _ _
      · exact failed.stops (before.filterMap datagramPayload) fun errors =>
          overallPass_of_errors errors

end Run

end HftPipeline.Host.LiveReceiver
