import HftPipeline.Rtl.PacketDecoding
import HftPipeline.Wire.Senders

/-!
# Payloads on the AXI4-Stream

A payload travels as eight beats, byte `4 i` in the lowest lane of beat `i`.
The parser completes it to the tuple that the software unpacks, and pulses
`packet_valid` exactly for the tuples that the software accepts.
-/

namespace HftPipeline.Rtl.PacketParser

open HftPipeline.Std HftPipeline.Std.Groups HftPipeline.Wire

/-- The data word of one beat of a payload. -/
def payloadWord (payload : Payload) (position : Nat) : BitVec 32 :=
  payload.byte (4 * position + 3) ++ payload.byte (4 * position + 2) ++
    payload.byte (4 * position + 1) ++ payload.byte (4 * position)

/-- The beats of a payload, with TLAST on the eighth beat or on none. -/
def payloadBeats (payload : Payload) (last : Bool) : List Beat :=
  (List.range 8).map fun position =>
    ⟨payloadWord payload position, 0xF#4, last && decide (position = 7)⟩

/-- A payload goes over the bus in eight beats. -/
@[simp] theorem length_payloadBeats (payload : Payload) (last : Bool) :
    (payloadBeats payload last).length = 8 := by
  simp [payloadBeats]

/-- The bytes of a beat are the payload's at its place. -/
theorem bytes_payloadWord (payload : Payload) (position : Nat) (keep : BitVec 4) (last : Bool) :
    (Beat.mk (payloadWord payload position) keep last).bytes =
      (List.range 4).map fun lane => payload.byte (4 * position + lane) := by
  obtain ⟨first, second, third, fourth⟩ := lanes_of_header (payload.byte (4 * position))
    (payload.byte (4 * position + 1)) (payload.byte (4 * position + 2))
    (payload.byte (4 * position + 3)) (rfl : _ = payloadWord payload position)
  simp [Beat.bytes, first, second, third, fourth, List.range_succ]

/-- A payload is the list of its bytes. -/
theorem Payload.bytes_eq (payload : Payload) :
    (List.range packetSize).map payload.byte = payload.1 := by
  apply List.ext_getElem
  · simp [payload.2]
  · intro offset inside within
    simp [Payload.byte, List.getElem?_eq_getElem within]

/-- The beats of a payload hold the payload. -/
theorem groupPayload_payloadBeats (payload : Payload) (last : Bool) :
    groupPayload (payloadBeats payload last) (length_payloadBeats payload last) = payload := by
  apply Subtype.ext
  rw [← Payload.bytes_eq payload]
  simp [groupPayload, payloadBeats, bytes_payloadWord, packetSize, List.range_succ]

/-- The beats of a payload are framed without error. -/
theorem cleanFraming_payloadBeats (payload : Payload) (last : Bool) :
    CleanFraming (payloadBeats payload last) := by
  constructor <;> simp [payloadBeats, List.range_succ]

/-- The beats of a payload are clean exactly when the software accepts it. -/
theorem packetErrorsOf_payloadBeats (payload : Payload) (last : Bool) :
    packetErrorsOf false (payloadBeats payload last) = 0#8 ↔
      protocolIsValid (unpack payload) = true := by
  rw [packetErrorsOf_batch (length_payloadBeats payload last), groupPayload_payloadBeats]
  simp [cleanFraming_payloadBeats]

/-- A counter at zero stands at a packet boundary. -/
theorem Tracks.remainder_eq_nil {tlastPerPacket : Bool} {state : State} {accepted : List Beat}
    (tracks : Tracks tlastPerPacket state accepted) (aligned : state.wordIndex = 0#3) :
    remainder 8 accepted = [] := by
  apply List.length_eq_zero_iff.mp
  rw [← tracks.wordIndex_toNat, aligned]
  rfl

/-- A source that offers a list of beats without a gap to a sink that is always
ready. -/
def offered (beats : List Beat) (cycle : Nat) : Input :=
  match beats[cycle]? with
  | some beat => ⟨beat.data, beat.keep, true, beat.last, true⟩
  | none => ⟨0#32, 0#4, false, false, true⟩

/-- Offered beats are accepted one in each cycle. -/
theorem beatAt_offered (tlastPerPacket : Bool) (initial : State) (beats : List Beat) (cycle : Nat) :
    beatAt tlastPerPacket initial (offered beats) cycle = beats[cycle]? := by
  unfold beatAt acceptedBeat axisFire sAxisTready offered
  cases beats[cycle]? <;> simp [Input.beat]

/-- A sink that is always ready accepts every beat as it is offered. -/
theorem acceptedBefore_offered (tlastPerPacket : Bool) (initial : State) (beats : List Beat)
    (cycle : Nat) :
    acceptedBefore tlastPerPacket initial (offered beats) cycle = beats.take cycle := by
  induction cycle with
  | zero => rfl
  | succ cycle ih =>
      rw [acceptedBefore, Clocked.seen_succ, beatAt_offered, List.take_add_one, ← ih]
      rfl

section Run

variable (input : Nat → Input)

/-- A payload accepted behind a boundary is the group that its last beat completes. -/
theorem completedAt_payload {tlastPerPacket : Bool} {start finish : Nat} {beats : List Beat}
    (size : beats.length = 8) (aligned : (run tlastPerPacket reset input start).wordIndex = 0#3)
    (sent : acceptedBefore tlastPerPacket reset input (finish + 1) =
      acceptedBefore tlastPerPacket reset input start ++ beats)
    (last : (beatAt tlastPerPacket reset input finish).isSome) :
    completedAt tlastPerPacket reset input finish = some beats := by
  have boundary := (tracks_run tlastPerPacket input atBoundary_reset start).remainder_eq_nil aligned
  obtain ⟨beat, fired⟩ := Option.isSome_iff_exists.mp last
  have snoc : acceptedBefore tlastPerPacket reset input finish ++ [beat] =
      acceptedBefore tlastPerPacket reset input start ++ beats := by
    rw [← sent, acceptedBefore, acceptedBefore, Clocked.seen_succ, fired]
    rfl
  obtain ⟨front, final, rfl⟩ : ∃ front final, beats = front ++ [final] :=
    ⟨beats.dropLast, beats.getLast (by rintro rfl; simp at size),
      (List.dropLast_append_getLast _).symm⟩
  rw [← List.append_assoc] at snoc
  obtain ⟨before, same⟩ := List.append_inj' snoc rfl
  have short : front.length < 8 := by
    simp only [List.length_append, List.length_singleton] at size
    omega
  have rest : remainder 8 (acceptedBefore tlastPerPacket reset input finish) = front := by
    rw [before, (groups_append (by omega) front boundary).2, (groups_of_short short).2]
  have seven : front.length = 7 := by
    simp only [List.length_append, List.length_singleton] at size
    omega
  simp only [completedAt, fired, completedBy, rest, seven, if_true, Option.some.injEq]
  rw [List.singleton_inj.mp same]

/-- In the completion cycle of a payload sent from a packet boundary, under any
schedule, the decoded outputs are the unpacked fields (so what a sender packed),
and exactly one of the two pulses reports the verdict of the software validator. -/
theorem parser_agrees_with_software (start finish : Nat) (payload : Payload) (tlast : Bool)
    (aligned : (run false reset input start).wordIndex = 0#3)
    (sent : acceptedBefore false reset input (finish + 1) =
      acceptedBefore false reset input start ++ payloadBeats payload tlast)
    (last : (beatAt false reset input finish).isSome) :
    let done := run false reset input (finish + 1)
    done.fields = unpack payload ∧
      (done.packetValid = true ↔ protocolIsValid (unpack payload) = true) ∧
      (done.packetError = true ↔ protocolIsValid (unpack payload) = false) ∧
      ∀ messageType side sequence timestampNs instrumentId priceTicks quantity,
        packPacketInto messageType side sequence timestampNs instrumentId priceTicks quantity =
          some payload →
        done.fields =
          senderFields messageType side sequence timestampNs instrumentId priceTicks quantity := by
  have completed := completedAt_payload input (length_payloadBeats payload tlast) aligned sent last
  have reports := reports_run false input atBoundary_reset finish
  obtain ⟨size, stores⟩ := reports.words _ completed
  have fields : (run false reset input (finish + 1)).fields = unpack payload := by
    rw [stores.fields_eq size, groupPayload_payloadBeats]
  refine ⟨fields, ?_, ?_, ?_⟩
  · rw [reports.valid _ completed, packetErrorsOf_payloadBeats]
  · rw [reports.error _ completed, ne_eq, packetErrorsOf_payloadBeats, Bool.not_eq_true]
  · intro messageType side sequence timestampNs instrumentId priceTicks quantity packed
    rw [fields, unpack_pack packed]

/-- The payload of a bid for instrument 1. -/
def bidPayload : Payload :=
  ⟨(senderFields messageQuoteUpdate 0 15 1000000007 1 18525 100).layout, by decide⟩

/-- A packed quote comes out of the parser eight cycles after its first beat. -/
theorem parser_agrees_on_bid :
    let done := run false reset (offered (payloadBeats bidPayload true)) 8
    done.fields = senderFields messageQuoteUpdate 0 15 1000000007 1 18525 100 ∧
      (done.packetValid = true ↔ protocolIsValid (unpack bidPayload) = true) := by
  have agrees := parser_agrees_with_software (offered (payloadBeats bidPayload true)) 0 7 bidPayload
    true (by decide) (by decide) (by decide)
  exact ⟨agrees.2.2.2 _ _ _ _ _ _ _ (by decide), agrees.2.1⟩

end Run

/-- The beats of a list of payloads, with TLAST behind any of them. -/
def streamBeats (tlast : Nat → Bool) (payloads : List Payload) : List (List Beat) :=
  payloads.mapIdx fun index payload => payloadBeats payload (tlast index)

/-- Each payload of the stream has its own eight beats. -/
theorem length_of_mem_streamBeats {tlast : Nat → Bool} {payloads : List Payload} {group : List Beat}
    (member : group ∈ streamBeats tlast payloads) : group.length = 8 := by
  obtain ⟨index, inside, rfl⟩ := List.mem_mapIdx.mp member
  exact length_payloadBeats _ _

/-- A completed group is one of the groups of the accepted beats. -/
theorem mem_groups_of_completedAt {tlastPerPacket : Bool} {initial : State} {input : Nat → Input}
    {cycle : Nat} {group : List Beat}
    (completed : completedAt tlastPerPacket initial input cycle = some group) :
    group ∈ groups 8 (acceptedBefore tlastPerPacket initial input (cycle + 1)) := by
  rw [← seen_completedAt, Clocked.seen_succ, completed]
  simp

/-- While payloads are fed to the parser, it completes no other groups. -/
theorem mem_streamBeats_of_completedAt {input : Nat → Input} {tlast : Nat → Bool}
    {payloads : List Payload}
    (fed : ∀ cycle, acceptedBefore false reset input cycle <+: (streamBeats tlast payloads).flatten)
    {cycle : Nat} {group : List Beat}
    (completed : completedAt false reset input cycle = some group) :
    group ∈ streamBeats tlast payloads := by
  have member := mem_groups_of_completedAt completed
  have cut := (groups_of_flatten (show 0 < 8 by decide)
    (fun _ => length_of_mem_streamBeats :
      ∀ part ∈ streamBeats tlast payloads, part.length = 8)).1
  rw [← cut]
  exact (groups_mono (by decide) (fed (cycle + 1))).subset member

end HftPipeline.Rtl.PacketParser
