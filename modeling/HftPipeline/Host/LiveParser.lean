import HftPipeline.Rtl.WireAgreement
import HftPipeline.Host.LiveDelivery

/-!
# The transferred batches at the packet parser

The AXI DMA presents a transfer four bytes to a beat, with TLAST behind the last
byte. Every transfer of the live receiver is a whole number of packets, so the
eight-beat counter of the parser stays aligned, and its pulses count the packets
as the receiver does.
-/

namespace HftPipeline.Rtl.PacketParser

open HftPipeline.Std.Groups HftPipeline.Wire

section Pulses

variable (input : Nat → Input)

/-- The number of cycles in which an output of the parser is high. -/
def pulses (shown : State → Bool) (cycles : Nat) : Nat :=
  (List.range cycles).countP fun cycle => shown (run false reset input cycle)

end Pulses

section Payloads

end Payloads

end HftPipeline.Rtl.PacketParser

namespace HftPipeline.Host.LiveReceiver

open HftPipeline.Std.EarlyExit HftPipeline.Std.Groups HftPipeline.Wire
open HftPipeline.Rtl.PacketParser (Beat payloadBeats streamBeats)

/-- The beats of one transfer: four bytes to a beat in order, the first in the lowest
lane, with full TKEEP and with TLAST on the last beat only. -/
def dmaBeats : List Byte → List Beat
  | first :: second :: third :: fourth :: bytes =>
      ⟨fourth ++ third ++ second ++ first, 0xF#4, bytes.isEmpty⟩ :: dmaBeats bytes
  | _ => []

/-- The next payload of a transfer takes eight beats. -/
theorem dmaBeats_payload (payload : Payload) (bytes : List Byte) :
    dmaBeats (payload.1 ++ bytes) = payloadBeats payload bytes.isEmpty ++ dmaBeats bytes := by
  rw [← Rtl.PacketParser.Payload.bytes_eq payload]
  simp [packetSize, List.range_succ, dmaBeats, payloadBeats, Rtl.PacketParser.payloadWord]

/-- The beats of a transfer, packet by packet. -/
def transferGroups (transfer : List Payload) : List (List Beat) :=
  streamBeats (fun index => index + 1 == transfer.length) transfer

/-- The beats of a transfer are the beats of its payloads. -/
theorem dmaBeats_joinPackets (transfer : List Payload) :
    dmaBeats (joinPackets transfer) = (transferGroups transfer).flatten := by
  induction transfer with
  | nil => rfl
  | cons payload transfer ih =>
      have last : (joinPackets transfer).isEmpty = (0 == transfer.length) := by
        rw [Bool.eq_iff_iff, List.isEmpty_iff, ← List.length_eq_zero_iff, length_joinPackets,
          packetSize, beq_iff_eq]
        omega
      have split : joinPackets (payload :: transfer) = payload.1 ++ joinPackets transfer := rfl
      rw [split, dmaBeats_payload, ih, last]
      simp [transferGroups, streamBeats, List.mapIdx_cons]

/-- The beats of consecutive transfers. -/
def presented (transfers : List (List Payload)) : List Beat :=
  transfers.flatMap fun transfer => dmaBeats (joinPackets transfer)

/-- What the DMA presents is the packets of its transfers in order. -/
theorem presented_eq (transfers : List (List Payload)) :
    presented transfers = (transfers.flatMap transferGroups).flatten := by
  induction transfers with
  | nil => rfl
  | cons transfer transfers ih =>
      rw [presented, List.flatMap_cons, ← presented, ih, dmaBeats_joinPackets, List.flatMap_cons,
        List.flatten_append]

/-- Transfers of whole packets are cut into exactly their packets. -/
theorem groups_presented (transfers : List (List Payload)) :
    groups 8 (presented transfers) = transfers.flatMap transferGroups ∧
      remainder 8 (presented transfers) = [] := by
  rw [presented_eq]
  refine groups_of_flatten (by decide) ?_
  intro group member
  obtain ⟨transfer, _, inside⟩ := List.mem_flatMap.mp member
  exact Rtl.PacketParser.length_of_mem_streamBeats inside

section Delivery

open HftPipeline.Rtl.PacketParser

def endPayload : Payload :=
  ⟨(senderFields messageStreamEnd 0 16 1000000008 0 0 0).layout, by decide⟩

/-- A quote and a `STREAM_END`, with a short datagram between them and a quote behind. -/
def shortSession (sender : Address) : List ReceiveResult :=
  [.messages [⟨bidPayload.1, sender⟩, ⟨[1#8, 2#8], sender⟩],
    .messages [⟨endPayload.1, sender⟩, ⟨bidPayload.1, sender⟩]]

end Delivery

end HftPipeline.Host.LiveReceiver
