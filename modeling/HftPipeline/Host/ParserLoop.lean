import HftPipeline.Rtl.Forwarding
import HftPipeline.Std.Frames
import HftPipeline.Host.DmaAnswers
import HftPipeline.Host.LiveParser
import HftPipeline.Host.LiveVerdict

/-!
# The DMA loop through the design

One channel of the AXI DMA presents the transfers to the design, the other stores what
comes back, up to the beat with TLAST. The design forwards every beat once, in order
and with its TLAST, so each transfer is answered with its own bytes, and a stream that
arrives undisturbed passes.
-/

namespace HftPipeline.Host.LiveReceiver

open HftPipeline.Rtl HftPipeline.Rtl.PacketParser HftPipeline.Std HftPipeline.Std.EarlyExit
  HftPipeline.Std.Frames HftPipeline.Std.Handshake HftPipeline.Wire

section Beats

/-- Fewer than four bytes are no whole number of beats. -/
theorem eq_nil_of_short {bytes : List Byte}
    (short : ∀ first second third fourth rest, bytes = first :: second :: third :: fourth :: rest →
      False) (whole : bytes.length % 4 = 0) : bytes = [] := by
  rcases bytes with _ | ⟨first, _ | ⟨second, _ | ⟨third, _ | ⟨fourth, rest⟩⟩⟩⟩
  · rfl
  · simp at whole
  · simp at whole
  · simp at whole
  · exact (short first second third fourth rest rfl).elim

/-- The bytes of a transfer come back out of its beats. -/
theorem bytes_dmaBeats {bytes : List Byte} (whole : bytes.length % 4 = 0) :
    (dmaBeats bytes).flatMap Beat.bytes = bytes := by
  induction bytes using dmaBeats.induct with
  | case1 first second third fourth bytes ih =>
      simp only [List.length_cons] at whole
      obtain ⟨one, two, three, four⟩ := lanes_of_header first second third fourth rfl
      rw [dmaBeats, List.flatMap_cons, ih (by omega), Beat.bytes, one, two, three, four]
      rfl
  | case2 bytes short =>
      rw [eq_nil_of_short short whole]
      rfl

/-- The beats of a transfer are one frame. -/
theorem isFrame_dmaBeats {bytes : List Byte} (whole : bytes.length % 4 = 0)
    (nonempty : bytes ≠ []) :
    IsFrame Beat.last (dmaBeats bytes) := by
  induction bytes using dmaBeats.induct with
  | case1 first second third fourth bytes ih =>
      simp only [List.length_cons] at whole
      rw [dmaBeats]
      cases bytes with
      | nil => exact .single rfl
      | cons byte bytes => exact .cons rfl (ih (by omega) (by simp))
  | case2 bytes short => exact absurd (eq_nil_of_short short whole) nonempty

/-- A transfer is a whole number of bus words. -/
theorem whole_joinPackets (transfer : List Payload) : (joinPackets transfer).length % 4 = 0 := by
  rw [length_joinPackets, packetSize]
  omega

end Beats

/-- The two channels of the DMA around a design. The first presents the transfers one
after the other. The second has stored an answer once the beat with TLAST has left the
design, and it has a buffer for each transfer. -/
structure LoopsThrough (source sink : Port Beat) (dma : Dma) (transfers : List (List Payload)) :
    Prop where
  presents : ∀ cycle, source.transferred cycle <+: presented transfers
  stores : ∀ attempt transfer, transfers[attempt]? = some transfer → ∃ cycle frame,
    (frames Beat.last (sink.transferred cycle))[attempt]? = some frame ∧
      dma attempt (joinPackets transfer) = some (frame.flatMap Beat.bytes)

/-- The beats of each transfer. -/
def transferFrames (transfers : List (List Payload)) : List (List Beat) :=
  transfers.map fun transfer => dmaBeats (joinPackets transfer)

/-- The frames of the transfers are the beats presented. -/
theorem flatten_transferFrames (transfers : List (List Payload)) :
    (transferFrames transfers).flatten = presented transfers := by
  rw [presented, List.flatMap_def, transferFrames]

/-- Each transfer of some packets is one frame, closed by its TLAST. -/
theorem areFrames_transferFrames {transfers : List (List Payload)}
    (nonempty : ∀ transfer ∈ transfers, transfer ≠ []) :
    ∀ beats ∈ transferFrames transfers, IsFrame Beat.last beats := by
  intro beats member
  obtain ⟨transfer, inside, rfl⟩ := List.mem_map.mp member
  refine isFrame_dmaBeats (whole_joinPackets transfer) fun empty => nonempty transfer inside ?_
  have size := congrArg List.length empty
  rw [length_joinPackets, packetSize] at size
  simpa using size

section Loop

variable {source sink : Port Beat} {dma : Dma} {transfers : List (List Payload)}

/-- Behind a lossless design every transfer is answered with its own bytes. -/
theorem LoopsThrough.returns (lossless : Lossless source sink)
    (loops : LoopsThrough source sink dma transfers)
    (nonempty : ∀ transfer ∈ transfers, transfer ≠ []) : AgreeOn dma loopback transfers := by
  intro attempt transfer held
  obtain ⟨cycle, frame, stored, answer⟩ := loops.stores attempt transfer held
  have arrived := (lossless.inOrder cycle).trans (loops.presents cycle)
  rw [← flatten_transferFrames] at arrived
  obtain ⟨rest, cut⟩ := received_frames (areFrames_transferFrames nonempty) arrived
  obtain ⟨within, _⟩ := List.getElem?_eq_some_iff.mp stored
  have same := (List.getElem?_append_left within).symm.trans (congrArg (·[attempt]?) cut)
  rw [stored, transferFrames, List.getElem?_map, held, Option.map_some, Option.some.injEq] at same
  rw [answer, same, bytes_dmaBeats (whole_joinPackets transfer), loopback]

/-- A design that has passed on all beats of some transfers has answered them. -/
theorem loopsThrough_of_passed (cycle : Nat) (nonempty : ∀ transfer ∈ transfers, transfer ≠ [])
    (presents : ∀ cycle, source.transferred cycle <+: presented transfers)
    (passed : sink.transferred cycle = presented transfers) :
    LoopsThrough source sink loopback transfers where
  presents := presents
  stores := by
    intro attempt transfer held
    refine ⟨cycle, dmaBeats (joinPackets transfer), ?_, ?_⟩
    · rw [passed, ← flatten_transferFrames, frames_flatten (areFrames_transferFrames nonempty),
        transferFrames, List.getElem?_map, held, Option.map_some]
    · rw [bytes_dmaBeats (whole_joinPackets transfer), loopback]

end Loop

section Offered

variable (tlastPerPacket : Bool)

/-- What goes through the input port is the beats the parser accepts. -/
theorem transferred_sAxis (input : Nat → Input) (cycle : Nat) :
    (sAxis tlastPerPacket input).transferred cycle =
      acceptedBefore tlastPerPacket reset input cycle := by
  have transfer : (sAxis tlastPerPacket input).transfer =
      beatAt tlastPerPacket reset input := by
    funext cycle
    simp [Port.transfer, sAxis, beatAt, acceptedBeat, axisFire]
  rw [Port.transferred, transfer, acceptedBefore]

/-- A schedule without gaps and stalls passes on every transfer. -/
theorem loopsThrough_offered {transfers : List (List Payload)}
    (nonempty : ∀ transfer ∈ transfers, transfer ≠ []) :
    LoopsThrough (sAxis tlastPerPacket (offered (presented transfers)))
      (mAxis tlastPerPacket (offered (presented transfers))) loopback transfers := by
  let beats := presented transfers
  have register := elasticRegister tlastPerPacket (offered beats)
  have accepted (cycle : Nat) :
      (sAxis tlastPerPacket (offered beats)).transferred cycle = beats.take cycle := by
    rw [transferred_sAxis, acceptedBefore_offered]
  have ready (cycle : Nat) : (sAxis tlastPerPacket (offered beats)).ready cycle = true := by
    have free : (offered beats cycle).mAxisTready = true := by
      unfold offered
      split <;> rfl
    simp [sAxis, sAxisTready, free]
  have behind : (sAxis tlastPerPacket (offered beats)).valid beats.length = false := by
    simp [sAxis, offered]
  have drained := (register.valid beats.length (ready _)).trans behind
  have conserved := register.conservation (beats.length + 1)
  rw [accepted, Port.waiting, drained, List.take_of_length_le (Nat.le_succ _)] at conserved
  refine loopsThrough_of_passed (beats.length + 1) nonempty ?_ ?_
  · intro cycle
    rw [accepted]
    exact List.take_prefix _ _
  · simpa using conserved.symm

end Offered

section Run

variable {dma : Dma} {batchPackets : Nat}

/-- At every point of a run with a DMA that completes every transfer, the counters are
those of the logged transfers. -/
theorem main_counted (completes : Completes dma) (positive : 0 < batchPackets)
    (results : List ReceiveResult) :
    Counted dma (main dma batchPackets results).state.delivery := by
  obtain ⟨last, reads, ends⟩ := main_reads completes positive results
  obtain ⟨account, _⟩ := (accounts_initial dma batchPackets).reads completes positive rfl reads
  have untransferred (active : last.stopped = false) : Counted dma last.delivery :=
    (account.accumulates (State.stopped_eq_false_iff.mp active).1).counted
  generalize main dma batchPackets results = outcome at ends ⊢
  cases ends with
  | stopped =>
      have settled := (account.finalFlush completes positive last.timedOut).2
      rw [(account.finalFlush completes positive last.timedOut).1]
      exact settled.counted
  | waiting _ active => exact untransferred active
  | timeout =>
      have settled := (account.finalFlush completes positive true).2
      rw [(account.finalFlush completes positive true).1]
      exact settled.counted
  | failed _ _ active => exact untransferred active
  | keyboardInterrupt => exact (account.finalFlush completes positive last.timedOut).2.counted

/-- While the calls return a `STREAM_END`, a run comes to its end by itself. -/
theorem main_finishes (completes : Completes dma) (positive : 0 < batchPackets)
    {results : List ReceiveResult} (ended : (datagramsOf results).any isStreamEnd = true) :
    (main dma batchPackets results).ending = .finished := by
  obtain ⟨last, reads, ends⟩ := main_reads completes positive results
  obtain ⟨_, stops, _⟩ := (accounts_initial dma batchPackets).reads completes positive rfl reads
  rw [any_takeThrough, ended] at stops
  generalize main dma batchPackets results = outcome at ends ⊢
  cases ends with
  | stopped => rfl
  | waiting _ active => rw [stops] at active; cases active
  | timeout => rfl
  | failed _ _ active => rw [stops] at active; cases active
  | keyboardInterrupt => rfl

/-- The live receiver cannot tell the DMA loop through the parser from a loopback: for
any datagrams and any schedule of the streams every transfer comes back as it was sent. -/
theorem parser_loop_is_transparent (tlastPerPacket : Bool) (input : Nat → Input) (dma : Dma)
    (batchPackets : Nat) (positive : 0 < batchPackets) (results : List ReceiveResult)
    (loops : LoopsThrough (sAxis tlastPerPacket input) (mAxis tlastPerPacket input) dma
      (main dma batchPackets results).state.delivery.transfers) :
    main dma batchPackets results = main loopback batchPackets results ∧
      (main dma batchPackets results).state.delivery.mismatchedPackets = 0 ∧
      (main dma batchPackets results).state.delivery.dmaErrors = 0 ∧
      (main dma batchPackets results).state.delivery.dmaPackets =
        (main dma batchPackets results).state.delivery.transfers.flatten.length := by
  have same := main_congr (loops.returns (elasticRegister tlastPerPacket input).lossless
    (main_nonempty dma batchPackets results))
  have counted := main_counted returns_loopback.completes positive results
  rw [same]
  exact ⟨rfl, counted.matched returns_loopback, counted.errors, counted.packets⟩

/-- A session with a short datagram through a schedule without gaps. -/
theorem parser_loop_is_transparent_session :
    let transfers := (main loopback 2 (shortSession ⟨0#32, 5005#16⟩)).state.delivery.transfers
    LoopsThrough (sAxis false (offered (presented transfers)))
        (mAxis false (offered (presented transfers))) loopback transfers ∧
      (main loopback 2 (shortSession ⟨0#32, 5005#16⟩)).state.delivery.mismatchedPackets = 0 := by
  intro transfers
  have loops := loopsThrough_offered false
    (main_nonempty loopback 2 (shortSession ⟨0#32, 5005#16⟩))
  exact ⟨loops, (parser_loop_is_transparent false _ loopback 2 (by decide) _ loops).2.1⟩

section Stream

variable {totalPackets targetPps durationMs : Nat} {clock : Nat → Nat} {payloads : List Payload}

/-- Nothing but the last packet of a stream ends the reading. -/
theorem takeThrough_stream
    (sends : SendsStream totalPackets targetPps durationMs clock payloads)
    (several : 2 ≤ totalPackets) (sender : Address) :
    let stream : List Datagram := payloads.map fun payload => ⟨payload.1, sender⟩
    takeThrough isStreamEnd stream = stream := by
  intro stream
  have size : stream.length = totalPackets := by simp [stream, sends.count]
  have quiet : (stream.take (totalPackets - 1)).any isStreamEnd = false := by
    rw [List.any_eq_false]
    intro datagram member ends
    obtain ⟨index, inside, rfl⟩ := List.mem_take_iff_getElem.mp member
    have within : index < payloads.length := by rw [sends.count]; omega
    have sized : datagramPayload stream[index] = some payloads[index] :=
      datagramPayload_eq_some.mpr (by simp [stream])
    rw [isStreamEnd, sized, Option.any_some, isOfType, Bool.and_eq_true, beq_iff_eq,
      sends.isEnd several within] at ends
    omega
  obtain ⟨last, single⟩ : ∃ last, stream.drop (totalPackets - 1) = [last] :=
    List.length_eq_one_iff.mp (by rw [List.length_drop]; omega)
  calc takeThrough isStreamEnd stream
      = takeThrough isStreamEnd (stream.take (totalPackets - 1) ++ [last]) := by
        rw [← single, List.take_append_drop]
    _ = stream.take (totalPackets - 1) ++ [last] := by
        rw [takeThrough_append, quiet, if_neg (by decide)]
        simp [takeThrough]
    _ = stream := by rw [← single, List.take_append_drop]

/-- A stream that arrives whole and in order, in calls of any sizes and with anything
behind it, ends the run by itself, and through any schedule of the parser it passes. -/
theorem undisturbed_stream_passes
    (sends : SendsStream totalPackets targetPps durationMs clock payloads)
    (several : 2 ≤ totalPackets) (sender : Address) (results : List ReceiveResult)
    (behind : List Datagram) (arrives : datagramsOf results =
      payloads.map (fun payload => ⟨payload.1, sender⟩) ++ behind)
    (tlastPerPacket : Bool) (input : Nat → Input) (dma : Dma) (batchPackets : Nat)
    (positive : 0 < batchPackets)
    (loops : LoopsThrough (sAxis tlastPerPacket input) (mAxis tlastPerPacket input) dma
      (main dma batchPackets results).state.delivery.transfers) :
    (main dma batchPackets results).ending = .finished ∧
      overallPass (main dma batchPackets results).state = true ∧
      (main dma batchPackets results).state.delivery.transfers =
        Groups.batches batchPackets payloads := by
  let stream : List Datagram := payloads.map fun payload => ⟨payload.1, sender⟩
  have sized : payloadsOf stream = payloads := by
    simp only [payloadsOf, stream, List.filterMap_map]
    refine (List.filterMap_congr ?_).trans List.filterMap_some
    intro payload _
    exact datagramPayload_eq_some.mpr rfl
  have unaltered : Unaltered payloads stream := by
    intro datagram member
    obtain ⟨payload, sent, rfl⟩ := List.mem_map.mp member
    exact ⟨payload, sent, rfl⟩
  have ended : stream.any isStreamEnd = true := by
    have final := any_isEnd_drop sends several (show 0 < totalPackets by omega)
    rwa [List.drop_zero, ← sized, any_payloadsOf] at final
  have read : takeThrough isStreamEnd (datagramsOf results) = takeThrough isStreamEnd stream := by
    rw [arrives, takeThrough_append, if_pos ended]
  have same := main_congr (loops.returns (elasticRegister tlastPerPacket input).lossless
    (main_nonempty dma batchPackets results))
  rw [same]
  have finished := main_finishes returns_loopback.completes positive
    (show (datagramsOf results).any isStreamEnd = true by rw [arrives, List.any_append, ended]; rfl)
  have concludes := main_concludes returns_loopback.completes positive results finished
  rw [read] at concludes
  have whole : payloadsOf (takeThrough isStreamEnd stream) = payloads := by
    rw [takeThrough_stream sends several sender, sized]
  refine ⟨finished, ?_, by rw [concludes.settled.transfers, whole]⟩
  exact (overallPass_stream sends several unaltered returns_loopback concludes).mpr
    ⟨0, by omega, by rw [whole, List.drop_zero]⟩

/-- Both packets of the shortest stream in one call, and a quote behind them. -/
theorem undisturbed_stream_passes_startAndEnd :
    let results := [arrival (startAndEnd ++ [bidPayload])]
    (main loopback 1 results).ending = .finished ∧
      overallPass (main loopback 1 results).state = true := by
  intro results
  have passes := undisturbed_stream_passes sends_startAndEnd (by decide) ⟨0#32, 5005#16⟩ results
    [⟨bidPayload.1, ⟨0#32, 5005#16⟩⟩] rfl false _ loopback 1 (by decide)
    (loopsThrough_offered false (main_nonempty loopback 1 results))
  exact ⟨passes.1, passes.2.1⟩

end Stream

end Run

end HftPipeline.Host.LiveReceiver
