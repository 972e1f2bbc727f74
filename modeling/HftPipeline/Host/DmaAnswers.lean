import HftPipeline.Host.FailedBatches

/-!
# What a run asks the DMA

A run asks the DMA for the transfers in its log and for nothing else, and every one of
them has a packet. Two engines that give the same answers to these are therefore the
same engine for the run.
-/

namespace HftPipeline.Host.LiveReceiver

open HftPipeline.Std.EarlyExit HftPipeline.Wire

/-- Two DMA engines answer the transfers of a log alike. -/
def AgreeOn (dma other : Dma) (transfers : List (List Payload)) : Prop :=
  ∀ attempt batch, transfers[attempt]? = some batch →
    dma attempt (joinPackets batch) = other attempt (joinPackets batch)

/-- Two engines that agree on some transfers agree on the first of them. -/
theorem AgreeOn.mono {dma other : Dma} {front whole : List (List Payload)}
    (agree : AgreeOn dma other whole) (inside : front <+: whole) : AgreeOn dma other front := by
  obtain ⟨rest, rfl⟩ := inside
  intro attempt batch held
  obtain ⟨within, _⟩ := List.getElem?_eq_some_iff.mp held
  exact agree attempt batch ((List.getElem?_append_left within).trans held)

section Flushing

variable (dma other : Dma) (batchPackets : Nat)

/-- A flush submits the pending packets, if there are any. -/
theorem flushPending_transfers (receivedPackets : Nat) (delivery : Delivery) :
    (flushPending dma batchPackets receivedPackets delivery).1.transfers =
      if delivery.pendingPackets = [] then delivery.transfers
      else delivery.transfers ++ [delivery.pendingPackets] := by
  unfold flushPending
  split_ifs
  · rfl
  · simp only
    split <;> rfl

variable {dma other}

/-- A flush depends on the DMA only through the answer to the batch that it submits. -/
theorem flushPending_congr {receivedPackets : Nat} {delivery : Delivery}
    (agree : AgreeOn dma other
      (flushPending dma batchPackets receivedPackets delivery).1.transfers) :
    flushPending dma batchPackets receivedPackets delivery =
      flushPending other batchPackets receivedPackets delivery := by
  by_cases empty : delivery.pendingPackets = []
  · rw [flushPending_empty empty, flushPending_empty empty]
  · rw [flushPending_transfers, if_neg empty] at agree
    have same := agree delivery.transfers.length delivery.pendingPackets (by simp)
    simp only [flushPending, if_neg empty, transferBatch, same]

end Flushing

section Run

variable {dma other : Dma} {batchPackets : Nat}

/-- A flush depends on the engine only through its answers to the transfers made. -/
theorem flush_congr {state : State}
    (agree : AgreeOn dma other (state.flush dma batchPackets).delivery.transfers) :
    state.flush dma batchPackets = state.flush other batchPackets := by
  rw [State.flush, State.flush, flushPending_congr batchPackets agree]

/-- A slot is processed alike by engines that answer its transfers alike. -/
theorem processSlot_congr {state : State} {slot : ReceivedSlot}
    (agree : AgreeOn dma other (processSlot dma batchPackets state slot).delivery.transfers) :
    processSlot dma batchPackets state slot = processSlot other batchPackets state slot := by
  unfold processSlot processPayload at agree ⊢
  simp only at agree ⊢
  split_ifs at agree ⊢
  · rfl
  · exact flush_congr agree
  · rfl

/-- The final flush is the same for engines that answer its transfers alike. -/
theorem finalFlush_congr {state : State}
    (agree : AgreeOn dma other (finalFlush dma batchPackets state).delivery.transfers) :
    finalFlush dma batchPackets state = finalFlush other batchPackets state := by
  unfold finalFlush at agree ⊢
  split_ifs at agree ⊢
  · rfl
  · exact flush_congr agree

variable (dma batchPackets)

/-- The log of a run holds batches of at least one packet, and only grows. -/
structure Extends (before after : Delivery) : Prop where
  log : before.transfers <+: after.transfers
  nonempty : (∀ batch ∈ before.transfers, batch ≠ []) → ∀ batch ∈ after.transfers, batch ≠ []

/-- Every delivery extends itself. -/
theorem Extends.refl (delivery : Delivery) : Extends delivery delivery :=
  ⟨List.prefix_refl _, id⟩

/-- What extends an extension extends the delivery itself. -/
theorem Extends.trans {before middle after : Delivery} (first : Extends before middle)
    (second : Extends middle after) : Extends before after :=
  ⟨first.log.trans second.log, second.nonempty ∘ first.nonempty⟩

/-- A flush extends the log by a batch with a packet or not at all. -/
theorem flushPending_extends (receivedPackets : Nat) (delivery : Delivery) :
    Extends delivery (flushPending dma batchPackets receivedPackets delivery).1 := by
  have sent := flushPending_transfers dma batchPackets receivedPackets delivery
  by_cases empty : delivery.pendingPackets = []
  · rw [if_pos empty] at sent
    exact ⟨sent ▸ List.prefix_refl _, fun nonempty => sent ▸ nonempty⟩
  · rw [if_neg empty] at sent
    refine ⟨sent ▸ List.prefix_append _ _, fun nonempty batch member => ?_⟩
    rw [sent, List.mem_append, List.mem_singleton] at member
    rcases member with earlier | rfl
    · exact nonempty batch earlier
    · exact empty

/-- Processing a slot only adds transfers. -/
theorem processSlot_extends (state : State) (slot : ReceivedSlot) :
    Extends state.delivery (processSlot dma batchPackets state slot).delivery := by
  have kept : (classify (arrive state slot.sender) (unpack slot.payload)).delivery =
      state.delivery := classify_delivery _ _
  unfold processSlot processPayload
  simp only
  generalize classify (arrive state slot.sender) (unpack slot.payload) = next at kept ⊢
  have queued : Extends state.delivery (next.delivery.queue next.receivedPackets slot.payload) :=
    kept ▸ ⟨List.prefix_refl _, id⟩
  split_ifs
  · exact Extends.refl _
  · exact queued.trans (flushPending_extends dma batchPackets _ _)
  · exact queued

/-- The final flush only adds transfers. -/
theorem finalFlush_extends (state : State) :
    Extends state.delivery (finalFlush dma batchPackets state).delivery := by
  unfold finalFlush
  split_ifs
  · exact Extends.refl _
  · exact flushPending_extends dma batchPackets _ _

/-- Reading datagrams only adds transfers. -/
theorem Reads.extends {state last : State} {read : List Datagram}
    (reads : Reads dma batchPackets state read last) : Extends state.delivery last.delivery := by
  induction reads with
  | refl => exact Extends.refl _
  | step _ _ datagram ih => exact ih.trans (processSlot_extends dma batchPackets _ _)

/-- Ending the reception only adds transfers. -/
theorem Ends.extends {state : State} {outcome : Outcome}
    (ends : Ends dma batchPackets state outcome) :
    Extends state.delivery outcome.state.delivery := by
  cases ends with
  | stopped => exact finalFlush_extends dma batchPackets state
  | waiting => exact Extends.refl _
  | timeout => exact finalFlush_extends dma batchPackets { state with timedOut := true }
  | failed => exact Extends.refl _
  | keyboardInterrupt => exact flushPending_extends dma batchPackets _ _

/-- The receive loop only adds transfers. -/
theorem receiveLoop_extends (calls : Calls) (state : State) (results : List ReceiveResult) :
    Extends state.delivery
      (receiveLoop dma batchPackets calls state results).state.delivery := by
  obtain ⟨_, last, _, reads, _, ends⟩ := receiveLoop_reads dma batchPackets calls state results
  exact (reads.extends dma batchPackets).trans (ends.extends dma batchPackets)

/-- Processing the slots of a call only adds transfers. -/
theorem processSlots_extends {state : State} (slots : List ReceivedSlot) :
    Extends state.delivery (processSlots dma batchPackets state slots).delivery := by
  unfold processSlots
  induction slots generalizing state with
  | nil => exact Extends.refl _
  | cons slot slots ih =>
      have first := processSlot_extends dma batchPackets state slot
      unfold runUntil
      split_ifs
      · exact first
      · exact first.trans ih

variable {dma batchPackets}

/-- The slots of a call are processed alike by engines that answer alike. -/
theorem processSlots_congr {state : State} {slots : List ReceivedSlot}
    (agree : AgreeOn dma other (processSlots dma batchPackets state slots).delivery.transfers) :
    processSlots dma batchPackets state slots = processSlots other batchPackets state slots := by
  unfold processSlots at agree ⊢
  induction slots generalizing state with
  | nil => rfl
  | cons slot slots ih =>
      have log : (processSlot dma batchPackets state slot).delivery.transfers <+:
          (runUntil (processSlot dma batchPackets) State.stopped state
            (slot :: slots)).delivery.transfers := by
        unfold runUntil
        split_ifs
        · exact List.prefix_refl _
        · exact (processSlots_extends dma batchPackets slots).log
      have first := processSlot_congr (agree.mono log)
      unfold runUntil at agree ⊢
      rw [← first]
      split_ifs at agree ⊢
      · rfl
      · exact ih agree

/-- The receive loop depends on the DMA only through its answers to the logged
transfers. -/
theorem receiveLoop_congr {calls : Calls} {state : State} {results : List ReceiveResult}
    (agree : AgreeOn dma other
      (receiveLoop dma batchPackets calls state results).state.delivery.transfers) :
    receiveLoop dma batchPackets calls state results =
      receiveLoop other batchPackets calls state results := by
  induction results generalizing calls state with
  | nil =>
      unfold receiveLoop at agree ⊢
      split_ifs at agree ⊢
      · rw [finalFlush_congr agree]
      · rfl
  | cons result results ih =>
      unfold receiveLoop at agree ⊢
      split_ifs at agree ⊢
      · rw [finalFlush_congr agree]
      · cases result with
        | messages datagrams =>
            have log := (receiveLoop_extends dma batchPackets (calls.returned datagrams.length)
              (processSlots dma batchPackets state (datagrams.map receiveSlot)) results).log
            have group := processSlots_congr (agree.mono log)
            simp only at agree ⊢
            rw [← group]
            exact ih agree
        | interrupted => exact ih agree
        | timeout => simp only [finalFlush_congr agree]
        | failed => rfl
        | keyboardInterrupt => simp only [flushPending_congr batchPackets agree]

/-- The program depends on the engine only through the answers it was given. -/
theorem main_congr {results : List ReceiveResult}
    (agree : AgreeOn dma other (main dma batchPackets results).state.delivery.transfers) :
    main dma batchPackets results = main other batchPackets results :=
  receiveLoop_congr agree

/-- No transfer of a run is empty. -/
theorem main_nonempty (dma : Dma) (batchPackets : Nat) (results : List ReceiveResult) :
    ∀ batch ∈ (main dma batchPackets results).state.delivery.transfers, batch ≠ [] :=
  (receiveLoop_extends dma batchPackets .initial .initial results).nonempty (by
    simp [State.initial, Delivery.initial])

end Run

end HftPipeline.Host.LiveReceiver
