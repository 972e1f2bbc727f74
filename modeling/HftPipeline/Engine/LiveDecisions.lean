import HftPipeline.Engine.SignalProperties
import HftPipeline.Host.FailedBatches
import HftPipeline.Host.LiveParser

/-!
# From datagrams to signals

The live receiver and the block design behind its DMA are one system: datagrams enter
at the socket and signals appear at the engine. What the engine shows is what a session
decides on the payloads up to the first `STREAM_END`, one after the other, so neither
the grouping into calls and batches nor the schedule of the streams can be seen in it.
-/

namespace HftPipeline.Rtl.BlockDesign

open HftPipeline.Spec HftPipeline.Std HftPipeline.Std.Groups HftPipeline.Wire

/-- What a session decides on a list of payloads. -/
def payloadSignals (ids : PacketFilter.Ids) (payloads : List Payload) : List Signal :=
  (Session.initial.decisions ⟨4, 1, 2, 100⟩ (payloads.filterMap (payloadMessage ids))).map
    decisionSignal

section Growing

variable (ids : PacketFilter.Ids)

/-- Later payloads change no earlier signal. -/
theorem payloadSignals_mono {front whole : List Payload} (inside : front <+: whole) :
    payloadSignals ids front <+: payloadSignals ids whole := by
  obtain ⟨rest, rfl⟩ := inside
  rw [payloadSignals, payloadSignals, List.filterMap_append, Session.decisions_append,
    List.map_append]
  exact List.prefix_append _ _

/-- Later beats change no earlier signal. -/
theorem reference_mono {front whole : List PacketParser.Beat} (inside : front <+: whole) :
    reference ids front <+: reference ids whole := by
  obtain ⟨rest, cut⟩ := groups_mono (show 0 < 8 by decide) inside
  rw [reference, reference, ← cut, List.filterMap_append, Session.decisions_append, List.map_append]
  exact List.prefix_append _ _

end Growing

end HftPipeline.Rtl.BlockDesign

namespace HftPipeline.Host.LiveReceiver

open HftPipeline.Rtl HftPipeline.Rtl.BlockDesign HftPipeline.Std HftPipeline.Std.EarlyExit
  HftPipeline.Std.Groups HftPipeline.Wire

/-- What a session decides on the datagrams that the calls of a run return, up to the
first `STREAM_END`. -/
def datagramSignals (ids : PacketFilter.Ids) (results : List ReceiveResult) : List Signal :=
  payloadSignals ids (payloadsOf (takeThrough isStreamEnd (datagramsOf results)))

/-- The beats of consecutive transfers carry the messages of their payloads. -/
theorem reference_presented (ids : PacketFilter.Ids) (transfers : List (List Payload)) :
    reference ids (presented transfers) = payloadSignals ids transfers.flatten := by
  have messages : (groups 8 (presented transfers)).filterMap (groupMessage ids) =
      transfers.flatten.filterMap (payloadMessage ids) := by
    rw [(groups_presented transfers).1, List.filterMap_flatMap]
    induction transfers with
    | nil => rfl
    | cons transfer transfers ih =>
        rw [List.flatMap_cons, ih, transferGroups, filterMap_streamBeats, List.flatten_cons,
          List.filterMap_append]
  rw [reference, messages, payloadSignals]

section Submitted

variable {dma : Dma} {batchPackets : Nat}

/-- Whatever the DMA does, the submitted payloads are the first of those received. -/
theorem Guarded.submitted {state : State} {read : List Datagram}
    (guarded : Guarded dma batchPackets state read) :
    state.delivery.transfers.flatten <+: payloadsOf read := by
  rcases guarded with ⟨_, unfailed⟩ | ⟨_, completed, batch, failed⟩
  · rw [← unfailed.kept]
    exact List.prefix_append _ _
  · rw [failed.transfers, List.flatten_append, List.flatten_singleton, failed.kept]

theorem Guarded.reads {last : State} {read : List Datagram}
    (reads : Reads dma batchPackets .initial read last) : Guarded dma batchPackets last read :=
  reads.invariant (Guarded dma batchPackets) (guarded_initial dma batchPackets)
    fun _ _ datagram guarded active => guarded.processSlot active datagram

/-- However a run ends, what it has submitted are the first of the payloads that its
loops have read. -/
theorem Guarded.ends_submitted {last : State} {read : List Datagram}
    (guarded : Guarded dma batchPackets last read) {outcome : Outcome}
    (ends : Ends dma batchPackets last outcome) :
    outcome.state.delivery.transfers.flatten <+: payloadsOf read := by
  cases ends with
  | stopped => exact guarded.finalFlush.submitted
  | waiting => exact guarded.submitted
  | timeout =>
      have timedOut : Guarded dma batchPackets { last with timedOut := true } read := guarded
      exact timedOut.finalFlush.submitted
  | failed => exact guarded.submitted
  | keyboardInterrupt _ active =>
      obtain ⟨running, unfailed⟩ := guarded.active active
      exact (Guarded.flush running unfailed).submitted

/-- The loops read nothing behind a `STREAM_END`, whatever the DMA does. -/
theorem Reads.upTo_end {last : State} {read : List Datagram}
    (reads : Reads dma batchPackets .initial read last) (rest : List Datagram) :
    read <+: takeThrough isStreamEnd (read ++ rest) := by
  cases reads with
  | refl => exact List.nil_prefix
  | @step front current prior active datagram =>
      have counts : Counts current front :=
        prior.invariant Counts (accounts_initial dma batchPackets).counts
          fun _ _ datagram counts _ => counts.processSlot datagram
      have unended : front.any isStreamEnd = false := by
        rw [← any_payloadsOf, ← counts.tallies.ended]
        exact (State.stopped_eq_false_iff.mp active).1
      rw [List.append_assoc, takeThrough_append, unended, if_neg (by decide),
        List.prefix_append_right_inj, List.singleton_append, takeThrough]
      split_ifs
      · exact List.prefix_refl _
      · exact ⟨_, rfl⟩

/-- At every point of `main` the submitted payloads are the first of those received up
to the first `STREAM_END`. -/
theorem main_submitted (dma : Dma) (batchPackets : Nat) (results : List ReceiveResult) :
    (main dma batchPackets results).state.delivery.transfers.flatten <+:
      payloadsOf (takeThrough isStreamEnd (datagramsOf results)) := by
  obtain ⟨read, last, ⟨rest, before⟩, reads, _, ends⟩ :=
    receiveLoop_reads dma batchPackets .initial .initial results
  have upTo := reads.upTo_end rest
  rw [before] at upTo
  exact ((Guarded.reads reads).ends_submitted ends).trans (upTo.filterMap datagramPayload)

end Submitted

/-- At every point of a run and whatever the DMA does, the signals shown are the first
of those that a session decides on the datagrams up to the first `STREAM_END`; when the
DMA completes every transfer and the run has ended they are all of them, nine cycles
behind the last beat. The batch size, the grouping into calls and the schedule of the
streams do not matter. -/
theorem datagrams_drive_signals (dma : Dma) (batchPackets : Nat) (results : List ReceiveResult)
    (params : EngineWrapper.Params) (before : BlockDesign.State) (held : PacketParser.Input)
    (input : Nat → PacketParser.Input) :
    let outcome := main dma batchPackets results
    let transfers := outcome.state.delivery.transfers
    (∀ cycle, acceptedBeats input cycle <+: presented transfers →
      signalsBefore params before held input cycle <+: datagramSignals params.ids results) ∧
    (Completes dma → 0 < batchPackets → outcome.ending = .finished →
      ∀ cycle, acceptedBeats input cycle = presented transfers →
        signalsBefore params before held input (cycle + 9) =
          datagramSignals params.ids results) := by
  intro outcome transfers
  constructor
  · intro cycle sent
    have shown : signalsBefore params before held input cycle <+:
        reference params.ids (acceptedBeats input cycle) := by
      rw [← signalsBefore_add params before held input cycle]
      exact Clocked.seen_mono _ (Nat.le_add_right cycle 9)
    have called := reference_mono params.ids sent
    rw [reference_presented] at called
    exact (shown.trans called).trans
      (payloadSignals_mono _ (main_submitted dma batchPackets results))
  · intro completes positive finished cycle sent
    have concludes := main_concludes completes positive results finished
    rw [signalsBefore_add, sent, reference_presented, concludes.settled.flatten, datagramSignals]

/-- Quotes on both sides of one instrument, in one call. -/
def twoSidedSession (sender : Address) : List ReceiveResult :=
  [.messages ((twoSidedPayloads 1 1 10000).map fun payload => ⟨payload.1, sender⟩)]

/-- In batches of eight the 32nd sample is decided, with neither trend nor imbalance and
a spread of two ticks. -/
theorem datagrams_drive_signals_twoSided :
    let transfers := (main loopback 8 (twoSidedSession ⟨0#32, 5005#16⟩)).state.delivery.transfers
    let beats := presented transfers
    signalsBefore .default ⟨PacketParser.reset, EngineWrapper.stale 7#33⟩
        (PacketParser.offered beats 0) (PacketParser.offered beats) (beats.length + 9) =
      [⟨0#3, 32#64, 0#2, 0, 104⟩] := by
  intro transfers beats
  have called : datagramSignals PacketFilter.Ids.default (twoSidedSession ⟨0#32, 5005#16⟩) =
      [⟨0#3, 32#64, 0#2, 0, 104⟩] := by decide +kernel
  have driven := datagrams_drive_signals loopback 8 (twoSidedSession ⟨0#32, 5005#16⟩) .default
    ⟨PacketParser.reset, EngineWrapper.stale 7#33⟩ (PacketParser.offered beats 0)
    (PacketParser.offered beats)
  exact (driven.2 returns_loopback.completes (by decide) (by decide +kernel) _
    (acceptedBeats_offered beats)).trans called

end HftPipeline.Host.LiveReceiver
