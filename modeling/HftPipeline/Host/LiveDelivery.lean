import HftPipeline.Host.LiveBatches
import HftPipeline.Host.LiveRuns

/-!
# What the live receiver delivers

`Accounts` says what the variables of `main` hold after any list of datagrams has
been read, while the DMA completes every transfer. The receive loop reads the
datagrams up to the first `STREAM_END` whatever their grouping into calls, so its
final state accounts for exactly these.
-/

namespace HftPipeline.Host.LiveReceiver

open HftPipeline.Std HftPipeline.Std.EarlyExit HftPipeline.Std.Groups HftPipeline.Wire

/-- A protocol-valid packet of one type. -/
def isOfType (messageType : Nat) (payload : Payload) : Bool :=
  protocolIsValid (unpack payload) && (unpack payload).messageType == messageType

/-- A datagram with a protocol-valid `STREAM_END`. -/
def isStreamEnd (datagram : Datagram) : Bool :=
  (datagramPayload datagram).any (isOfType messageStreamEnd)

/-- The correctly sized payloads, in order. -/
def payloadsOf (datagrams : List Datagram) : List Payload := datagrams.filterMap datagramPayload

/-- The fields of the protocol-valid payloads, in order. -/
def validFields (payloads : List Payload) : List Fields :=
  (payloads.map unpack).filter protocolIsValid

/-- The effect of a valid packet on what is announced. -/
def Announced.record (announced : Announced) (fields : Fields) : Announced :=
  if fields.messageType = messageStreamStart then
    ⟨some fields.quantity, some fields.instrumentId, some fields.priceTicks⟩
  else announced

/-- A further payload adds its fields when they pass the protocol check. -/
theorem validFields_snoc (payloads : List Payload) (payload : Payload) :
    validFields (payloads ++ [payload]) = validFields payloads ++
      if protocolIsValid (unpack payload) then [unpack payload] else [] := by
  cases valid : protocolIsValid (unpack payload) <;> simp [validFields, valid]

/-- A further datagram adds its payload when it has one. -/
theorem payloadsOf_snoc (read : List Datagram) (datagram : Datagram) :
    payloadsOf (read ++ [datagram]) = payloadsOf read ++ (datagramPayload datagram).toList := by
  cases sized : datagramPayload datagram <;> simp [payloadsOf, sized]

/-- A datagram of 32 bytes adds its payload. -/
theorem payloadsOf_snoc_sized (read : List Datagram) {datagram : Datagram} {payload : Payload}
    (sized : datagramPayload datagram = some payload) :
    payloadsOf (read ++ [datagram]) = payloadsOf read ++ [payload] := by
  rw [payloadsOf_snoc, sized, Option.toList_some]

/-- A datagram of another length adds no payload. -/
theorem payloadsOf_snoc_malformed (read : List Datagram) {datagram : Datagram}
    (malformed : datagramPayload datagram = none) :
    payloadsOf (read ++ [datagram]) = payloadsOf read := by
  rw [payloadsOf_snoc, malformed, Option.toList_none, List.append_nil]

/-- An END is among the payloads exactly when it is among the datagrams. -/
theorem any_payloadsOf (read : List Datagram) :
    (payloadsOf read).any (isOfType messageStreamEnd) = read.any isStreamEnd := by
  induction read with
  | nil => rfl
  | cons datagram read ih =>
      simp only [payloadsOf] at ih
      cases sized : datagramPayload datagram <;> simp [payloadsOf, isStreamEnd, sized, ih]

/-- The slot of a datagram of the right length holds its payload. -/
theorem processSlot_sized (dma : Dma) (batchPackets : Nat) (state : State) {datagram : Datagram}
    {payload : Payload} (sized : datagramPayload datagram = some payload) :
    processSlot dma batchPackets state (receiveSlot datagram) =
      processPayload dma batchPackets (arrive state datagram.sender) payload := by
  have same := datagramPayload_eq_some.mp sized
  have exact : datagram.bytes.length = packetSize := by rw [same, payload.2]
  have stored := Datagram.stored_of_length exact
  have fits : datagram.stored.length = packetSize ∧
      ¬maxDatagramSize < datagram.bytes.length := by
    rw [stored, exact]
    decide
  have held : (⟨datagram.stored, fits.1⟩ : Payload) = payload := Subtype.ext (stored.trans same)
  simp [processSlot, receiveSlot, fits, held]

/-- A datagram of any other length is only counted. -/
theorem processSlot_malformed (dma : Dma) (batchPackets : Nat) (state : State) {datagram : Datagram}
    (malformed : datagramPayload datagram = none) :
    processSlot dma batchPackets state (receiveSlot datagram) =
      { arrive state datagram.sender with
        malformedLengths := state.malformedLengths + 1
        invalidPackets := state.invalidPackets + 1 } := by
  have wrong : datagram.stored.length ≠ packetSize := by
    intro stored
    rw [datagramPayload, dif_pos stored] at malformed
    cases malformed
  simp [processSlot, receiveSlot, wrong]

/-- The counters of the payloads classified so far. -/
structure Tallies (state : State) (payloads : List Payload) : Prop where
  valid : state.validPackets = (validFields payloads).length
  quotes : state.quotePackets = payloads.countP (isOfType messageQuoteUpdate)
  starts : state.streamStartPackets = payloads.countP (isOfType messageStreamStart)
  ends : state.streamEndPackets = payloads.countP (isOfType messageStreamEnd)
  sequences : state.sequences =
    ((validFields payloads).map Fields.sequence).foldl Sequences.record .initial
  announced : state.announced = (validFields payloads).foldl Announced.record .initial
  ended : state.streamEndSeen = payloads.any (isOfType messageStreamEnd)

/-- The counters of the datagrams received so far. -/
structure Counts (state : State) (read : List Datagram) : Prop where
  received : state.receivedPackets = read.length
  malformed : state.malformedLengths + (payloadsOf read).length = read.length
  invalid : state.invalidPackets + state.validPackets = read.length
  tallies : Tallies state (payloadsOf read)

/-- The variables of `main` between two datagrams. -/
structure Accounts (dma : Dma) (batchPackets : Nat) (state : State) (read : List Datagram) :
    Prop where
  counts : Counts state read
  running : state.dmaFailed = false
  waiting : state.timedOut = false
  accumulates : state.streamEndSeen = false →
    Accumulates dma batchPackets (payloadsOf read) state.delivery
  settled : state.streamEndSeen = true →
    Settled dma batchPackets (payloadsOf read) state.delivery

/-- Before the first datagram nothing is counted and nothing is queued. -/
theorem accounts_initial (dma : Dma) (batchPackets : Nat) :
    Accounts dma batchPackets .initial [] where
  counts := ⟨rfl, rfl, rfl, rfl, rfl, rfl, rfl, rfl, rfl, rfl⟩
  running := rfl
  waiting := rfl
  accumulates := by
    intro _
    refine ⟨⟨rfl, rfl, rfl, fun _ => rfl⟩, ?_, ?_⟩ <;>
      simp [payloadsOf, State.initial, Delivery.initial]
  settled := by simp [State.initial]

/-- The tallies say nothing about the other variables. -/
theorem Tallies.frame {state : State} {payloads : List Payload} (tallies : Tallies state payloads)
    (receivedPackets invalidPackets malformedLengths : Nat) (delivery : Delivery)
    (senderAddress : Option Address) (timedOut dmaFailed : Bool) :
    Tallies
      { state with
        receivedPackets := receivedPackets
        invalidPackets := invalidPackets
        malformedLengths := malformedLengths
        delivery := delivery
        senderAddress := senderAddress
        timedOut := timedOut
        dmaFailed := dmaFailed } payloads :=
  ⟨tallies.valid, tallies.quotes, tallies.starts, tallies.ends, tallies.sequences,
    tallies.announced, tallies.ended⟩

/-- Classifying the next payload adds it to every counter. -/
theorem Tallies.classify {state : State} {payloads : List Payload}
    (tallies : Tallies state payloads)
    (payload : Payload) :
    Tallies (classify state (unpack payload)) (payloads ++ [payload]) := by
  obtain ⟨valid, quotes, starts, ends, sequences, announced, ended⟩ := tallies
  have grown := validFields_snoc payloads payload
  cases accepted : protocolIsValid (unpack payload) with
  | false =>
      have other (messageType : Nat) : isOfType messageType payload = false := by
        simp [isOfType, accepted]
      constructor <;> simp [LiveReceiver.classify, accepted, grown, other, valid, quotes, starts,
        ends, sequences, announced, ended]
  | true =>
      have same (messageType : Nat) :
          isOfType messageType payload = ((unpack payload).messageType == messageType) := by
        simp [isOfType, accepted]
      have types := ((protocolIsValid_iff _).mp accepted).2.2.2
      rcases types with ⟨quote, _⟩ | ⟨start | finish, _⟩
      · constructor <;> simp [LiveReceiver.classify, recordType, accepted, grown, same, quote,
          messageQuoteUpdate, messageStreamStart, messageStreamEnd, Announced.record, valid, quotes,
          starts, ends, sequences, announced, ended]
      · constructor <;> simp [LiveReceiver.classify, recordType, accepted, grown, same, start,
          messageQuoteUpdate, messageStreamStart, messageStreamEnd, Announced.record, valid, quotes,
          starts, ends, sequences, ended]
      · constructor <;> simp [LiveReceiver.classify, recordType, accepted, grown, same, finish,
          messageQuoteUpdate, messageStreamStart, messageStreamEnd, Announced.record, valid, quotes,
          starts, ends, sequences, announced]

section Classification

variable (state : State) (fields : Fields)

/-! Classifying a packet changes none of the following, and counts it once. -/

/-- Classifying a payload does not count it a second time as received. -/
@[simp] theorem classify_receivedPackets :
    (classify state fields).receivedPackets = state.receivedPackets := by
  unfold classify recordType; split_ifs <;> rfl

/-- Classifying a payload reports no malformed length. -/
@[simp] theorem classify_malformedLengths :
    (classify state fields).malformedLengths = state.malformedLengths := by
  unfold classify recordType; split_ifs <;> rfl

/-- Classifying a payload does not touch the batch or the transfers. -/
@[simp] theorem classify_delivery : (classify state fields).delivery = state.delivery := by
  unfold classify recordType; split_ifs <;> rfl

/-- Classifying a payload does not end the reception by time. -/
@[simp] theorem classify_timedOut : (classify state fields).timedOut = state.timedOut := by
  unfold classify recordType; split_ifs <;> rfl

/-- Classifying a payload does not touch the DMA failure. -/
@[simp] theorem classify_dmaFailed : (classify state fields).dmaFailed = state.dmaFailed := by
  unfold classify recordType; split_ifs <;> rfl

/-- Every payload is counted once, as valid or as invalid. -/
theorem classify_counts : (classify state fields).invalidPackets +
    (classify state fields).validPackets = state.invalidPackets + state.validPackets + 1 := by
  unfold classify recordType
  split_ifs <;> simp only <;> omega

end Classification

section Step

variable {dma : Dma} {batchPackets : Nat} {state : State} {read : List Datagram}
  {datagram : Datagram}

/-- A datagram of the wrong length is only counted. -/
theorem Counts.malformed_datagram (counts : Counts state read)
    (wrong : datagramPayload datagram = none) :
    Counts
      { arrive state datagram.sender with
        malformedLengths := state.malformedLengths + 1
        invalidPackets := state.invalidPackets + 1 } (read ++ [datagram]) := by
  have same := payloadsOf_snoc_malformed read wrong
  obtain ⟨received, malformed, invalid, tallies⟩ := counts
  constructor <;> simp only [same, List.length_append, List.length_singleton, LiveReceiver.arrive]
  · rw [received]
  · omega
  · omega
  · exact tallies.frame _ _ _ _ _ _ _

/-- A datagram of the right length is counted and its payload classified. -/
theorem Counts.classify (counts : Counts state read) {payload : Payload}
    (sized : datagramPayload datagram = some payload) :
    Counts (classify (arrive state datagram.sender) (unpack payload)) (read ++ [datagram]) := by
  have grown := payloadsOf_snoc_sized read sized
  obtain ⟨received, malformed, invalid, tallies⟩ := counts
  have verdicts := classify_counts (arrive state datagram.sender) (unpack payload)
  constructor <;> simp only [grown, List.length_append, List.length_singleton,
    classify_receivedPackets, classify_malformedLengths]
  · simp only [arrive, received]
  · simp only [arrive]
    omega
  · simp only [arrive] at verdicts ⊢
    omega
  · exact (tallies.frame _ _ _ _ _ _ _).classify payload

/-- The counts do not depend on the transfers nor on how the reception ends. -/
theorem Counts.frame (counts : Counts state read) (delivery : Delivery)
    (timedOut dmaFailed : Bool) :
    Counts { state with delivery := delivery, timedOut := timedOut, dmaFailed := dmaFailed } read :=
  ⟨counts.received, counts.malformed, counts.invalid, counts.tallies.frame _ _ _ _ _ _ _⟩

/-- Every datagram is counted once, whatever the DMA does. -/
theorem Counts.processSlot (counts : Counts state read) (datagram : Datagram) :
    Counts (processSlot dma batchPackets state (receiveSlot datagram)) (read ++ [datagram]) := by
  cases sized : datagramPayload datagram with
  | none =>
      rw [processSlot_malformed dma batchPackets state sized]
      exact counts.malformed_datagram sized
  | some payload =>
      rw [processSlot_sized dma batchPackets state sized, processPayload]
      split_ifs
      · exact (counts.classify sized).frame _ _ _
      · exact (counts.classify sized).frame _ _ _

/-- The final flush changes no count. -/
theorem Counts.finalFlush (counts : Counts state read) :
    Counts (finalFlush dma batchPackets state) read := by
  unfold LiveReceiver.finalFlush
  split_ifs
  · exact counts
  · exact counts.frame _ _ _

/-- A payload of the right size is queued, and the batch is flushed when it is full
or the stream has ended. -/
theorem Accounts.sized_step (accounts : Accounts dma batchPackets state read)
    (completes : Completes dma) (positive : 0 < batchPackets)
    (active : state.streamEndSeen = false) {payload : Payload}
    (sized : datagramPayload datagram = some payload) :
    Accounts dma batchPackets
      (processSlot dma batchPackets state (receiveSlot datagram)) (read ++ [datagram]) := by
  have grown := payloadsOf_snoc_sized read sized
  obtain ⟨counts, running, waiting, accumulates, settled⟩ := accounts
  have pending := accumulates active
  have counted := counts.classify sized
  have failed := (classify_dmaFailed (arrive state datagram.sender) (unpack payload)).trans running
  have untimed := (classify_timedOut (arrive state datagram.sender) (unpack payload)).trans waiting
  have kept : (classify (arrive state datagram.sender) (unpack payload)).delivery =
      state.delivery := classify_delivery _ _
  rw [processSlot_sized dma batchPackets state sized, processPayload]
  generalize classify (arrive state datagram.sender) (unpack payload) = next at *
  simp only [kept]
  obtain ⟨answer, answered⟩ := completes.transferBatch state.delivery.transfers.length
    (pending.length_queue_le next.receivedPackets positive payload)
  obtain ⟨completed, flushed, refilled⟩ :=
    pending.queue_flush next.receivedPackets positive payload answered
  split_ifs with full
  · simp only [State.flush, completed]
    refine ⟨counted.frame _ _ _, by simp [failed], untimed, ?_, ?_⟩
    · intro continues
      rw [grown]
      exact refilled (full.resolve_right (Bool.eq_false_iff.mp continues))
    · intro _
      rw [grown]
      exact flushed
  · rw [not_or, Bool.not_eq_true] at full
    refine ⟨counted.frame _ _ _, failed, untimed, ?_, ?_⟩
    · intro _
      rw [grown]
      exact pending.queue _ positive payload full.1
    · intro ended
      exact absurd ended (by simp [full.2])

/-- One datagram: the account follows, and only a `STREAM_END` stops the loops. -/
theorem Accounts.step (accounts : Accounts dma batchPackets state read)
    (completes : Completes dma) (positive : 0 < batchPackets) (active : state.stopped = false)
    (datagram : Datagram) :
    let next := processSlot dma batchPackets state (receiveSlot datagram)
    Accounts dma batchPackets next (read ++ [datagram]) ∧ next.stopped = isStreamEnd datagram := by
  have unended := (State.stopped_eq_false_iff.mp active).1
  have next : Accounts dma batchPackets (processSlot dma batchPackets state (receiveSlot datagram))
      (read ++ [datagram]) := by
    cases sized : datagramPayload datagram with
    | some payload => exact accounts.sized_step completes positive unended sized
    | none =>
        have same := payloadsOf_snoc_malformed read sized
        rw [processSlot_malformed dma batchPackets state sized]
        refine ⟨accounts.counts.malformed_datagram sized, accounts.running,
          accounts.waiting, ?_, ?_⟩
        · rw [same]
          exact accounts.accumulates
        · rw [same]
          exact accounts.settled
  refine ⟨next, ?_⟩
  have before := accounts.counts.tallies.ended
  have after := next.counts.tallies.ended
  rw [any_payloadsOf] at before after
  rw [State.stopped, next.running, after, List.any_append, ← before, unended]
  simp

end Step

section Run

variable {dma : Dma} {batchPackets : Nat}

/-- The loops read datagrams up to the first `STREAM_END`, and account for them. -/
theorem Accounts.reads {state last : State} {read front : List Datagram}
    (accounts : Accounts dma batchPackets state read) (completes : Completes dma)
    (positive : 0 < batchPackets) (active : state.stopped = false)
    (reads : Reads dma batchPackets state front last) :
    Accounts dma batchPackets last (read ++ front) ∧ last.stopped = front.any isStreamEnd ∧
      (last.stopped = true → ∀ rest, takeThrough isStreamEnd (front ++ rest) = front) := by
  induction reads with
  | refl => exact ⟨by simpa using accounts, by simpa using active, by simp [active]⟩
  | @step before current prior running datagram ih =>
      obtain ⟨account, halts, _⟩ := ih
      obtain ⟨next, stops⟩ := account.step completes positive running datagram
      have none : before.any isStreamEnd = false := halts.symm.trans running
      refine ⟨by rwa [List.append_assoc] at next, by simpa [none] using stops, ?_⟩
      intro ended rest
      rw [stops] at ended
      rw [List.append_assoc, takeThrough_append]
      simp [none, takeThrough, ended]

/-- The variables of `main` behind the final flush. -/
structure Concludes (dma : Dma) (batchPackets : Nat) (state : State) (read : List Datagram) :
    Prop where
  counts : Counts state read
  running : state.dmaFailed = false
  inTime : state.streamEndSeen = true → state.timedOut = false
  settled : Settled dma batchPackets (payloadsOf read) state.delivery

/-- The final flush completes and settles the payloads. -/
theorem Accounts.finalFlush {state : State} {read : List Datagram}
    (accounts : Accounts dma batchPackets state read) (completes : Completes dma)
    (positive : 0 < batchPackets) (timedOut : Bool) :
    let flushed := flushPending dma batchPackets state.receivedPackets state.delivery
    finalFlush dma batchPackets { state with timedOut := timedOut } =
        { state with timedOut := timedOut, delivery := flushed.1 } ∧
      Settled dma batchPackets (payloadsOf read) flushed.1 := by
  have flushed : (flushPending dma batchPackets state.receivedPackets state.delivery).2 = true ∧
      Settled dma batchPackets (payloadsOf read)
        (flushPending dma batchPackets state.receivedPackets state.delivery).1 := by
    cases ended : state.streamEndSeen with
    | false => exact (accounts.accumulates ended).flush _ completes positive
    | true =>
        have settled := accounts.settled ended
        rw [flushPending_empty settled.pending]
        exact ⟨rfl, settled⟩
  refine ⟨?_, flushed.2⟩
  simp [LiveReceiver.finalFlush, State.flush, accounts.running, flushed.1]

/-- From accounts kept up to the end the final flush concludes the reception. -/
theorem Accounts.conclude {state : State} {read : List Datagram}
    (accounts : Accounts dma batchPackets state read) (completes : Completes dma)
    (positive : 0 < batchPackets) (timedOut : Bool)
    (inTime : state.streamEndSeen = true → timedOut = false) :
    Concludes dma batchPackets
      (LiveReceiver.finalFlush dma batchPackets { state with timedOut := timedOut }) read := by
  obtain ⟨flushed, settled⟩ := accounts.finalFlush completes positive timedOut
  rw [flushed]
  exact ⟨accounts.counts.frame _ _ state.dmaFailed, accounts.running, inTime, settled⟩

/-- While the DMA completes every transfer, a run reads the datagrams up to the first
`STREAM_END`. -/
theorem main_reads (completes : Completes dma) (positive : 0 < batchPackets)
    (results : List ReceiveResult) :
    ∃ last, Reads dma batchPackets .initial (takeThrough isStreamEnd (datagramsOf results)) last ∧
      Ends dma batchPackets last (main dma batchPackets results) := by
  obtain ⟨front, last, ⟨rest, before⟩, reads, whole, ends⟩ :=
    receiveLoop_reads dma batchPackets .initial .initial results
  obtain ⟨_, halts, through⟩ :=
    (accounts_initial dma batchPackets).reads completes positive rfl reads
  have reading : takeThrough isStreamEnd (datagramsOf results) = front := by
    cases stops : last.stopped with
    | true => rw [← before, through stops rest]
    | false =>
        rw [← whole stops]
        exact takeThrough_of_none (halts.symm.trans stops)
  exact ⟨last, reading ▸ reads, ends⟩

/-- A run that has come to its end accounts for the datagrams up to the first
`STREAM_END`. -/
theorem main_concludes (completes : Completes dma) (positive : 0 < batchPackets)
    (results : List ReceiveResult) (finished : (main dma batchPackets results).ending = .finished) :
    Concludes dma batchPackets (main dma batchPackets results).state
      (takeThrough isStreamEnd (datagramsOf results)) := by
  obtain ⟨last, reads, ends⟩ := main_reads completes positive results
  obtain ⟨account, _⟩ := (accounts_initial dma batchPackets).reads completes positive rfl reads
  rw [List.nil_append] at account
  have inTime : last.streamEndSeen = true → last.timedOut = false := fun _ => account.waiting
  generalize main dma batchPackets results = outcome at ends finished ⊢
  cases ends with
  | stopped => exact account.conclude completes positive _ inTime
  | waiting => cases finished
  | timeout _ running =>
      have unended := (State.stopped_eq_false_iff.mp running).1
      exact account.conclude completes positive true (by simp [unended])
  | failed => cases finished
  | keyboardInterrupt =>
      have final := account.conclude completes positive _ inTime
      rwa [(account.finalFlush completes positive _).1] at final

/-- At every point of `main` the variables count the datagrams received so far. -/
theorem main_counts (dma : Dma) (batchPackets : Nat) (results : List ReceiveResult) :
    let point := (main dma batchPackets results).state
    Counts point ((datagramsOf results).take point.receivedPackets) := by
  obtain ⟨front, last, before, reads, _, ends⟩ :=
    receiveLoop_reads dma batchPackets .initial .initial results
  have counts : Counts last front :=
    reads.invariant Counts (accounts_initial dma batchPackets).counts
      fun _ _ datagram counts _ => counts.processSlot datagram
  have final : Counts (main dma batchPackets results).state front := by
    unfold main
    generalize receiveLoop dma batchPackets .initial .initial results = outcome at ends ⊢
    cases ends with
    | stopped => exact counts.finalFlush
    | waiting => exact counts
    | timeout => exact (counts.frame last.delivery true last.dmaFailed).finalFlush
    | failed => exact counts
    | keyboardInterrupt => exact counts.frame _ last.timedOut last.dmaFailed
  intro point
  rwa [final.received, ← List.prefix_iff_eq_take.mp before]

end Run

section Grouping

variable (dma : Dma) (batchPackets : Nat)

end Grouping

end HftPipeline.Host.LiveReceiver
