import HftPipeline.Rtl.WireAgreement
import HftPipeline.Host.SenderLock
import HftPipeline.Host.StreamStart

/-!
# Header checks in hardware and software

The parser checks the side and the reserved byte of every message. The stream
receivers look at them only behind the control messages, so that they act on a
`STREAM_START` and a `STREAM_END` that the parser flags: the first is printed and starts
its stream, even where the same stream has just been started, and the second ends the
stream of its sender. On everything else they agree: what the parser flags is at most
counted as invalid, and a quote that it accepts is recorded.
-/

namespace HftPipeline.Rtl.PacketParser

open HftPipeline.Std HftPipeline.Wire

/-- The registers in the cycle that completes a payload, sent from a packet boundary in
full beats, with TLAST on no other than the eighth beat, and there when it is required. -/
structure CompletesFramed (tlastPerPacket : Bool) (payload : Payload) (done : State) : Prop where
  accepted : ∃ input start finish tlast, (tlastPerPacket = true → tlast = true) ∧
    (run tlastPerPacket reset input start).wordIndex = 0#3 ∧
    acceptedBefore tlastPerPacket reset input (finish + 1) =
      acceptedBefore tlastPerPacket reset input start ++ payloadBeats payload tlast ∧
    (beatAt tlastPerPacket reset input finish).isSome ∧
    done = run tlastPerPacket reset input (finish + 1)

/-- A framed beat raises no framing error in either mode. -/
theorem framingErrors_framed {mode tlast : Bool} (framed : mode = true → tlast = true)
    {position : Nat} (inside : position < 8) :
    framingErrors mode (BitVec.ofNat 3 position) 0xF#4 (tlast && decide (position = 7)) = 0#8 := by
  cases mode <;> cases tlast <;> interval_cases position <;> first | rfl | simp at framed

/-- A packet framed right has no error exactly when it passes the protocol check. -/
theorem packetErrorsOf_framed {tlastPerPacket tlast : Bool}
    (framed : tlastPerPacket = true → tlast = true) (payload : Payload) :
    packetErrorsOf tlastPerPacket (payloadBeats payload tlast) = 0#8 ↔
      protocolIsValid (unpack payload) = true := by
  have complete := length_payloadBeats payload tlast
  have framing (position : Nat) (inside : position < (payloadBeats payload tlast).length) :
      framingErrors tlastPerPacket (BitVec.ofNat 3 position)
        (payloadBeats payload tlast)[position].keep
        (payloadBeats payload tlast)[position].last = 0#8 := by
    have beat : (payloadBeats payload tlast)[position] =
        ⟨payloadWord payload position, 0xF#4, tlast && decide (position = 7)⟩ := by
      simp [payloadBeats]
    rw [beat]
    exact framingErrors_framed framed (by rwa [complete] at inside)
  have fields := fieldErrors_iff complete
  rw [groupPayload_payloadBeats] at fields
  rw [packetErrorsOf_eq_zero, ← fields]
  simp only [currentErrors, BitVec.or_eq_zero_iff]
  exact forall₂_congr fun position inside => and_iff_right (framing position inside)

namespace CompletesFramed

variable {tlastPerPacket : Bool} {payload : Payload} {done : State}
  (framed : CompletesFramed tlastPerPacket payload done)

include framed

/-- The parser reports the fields that `unpack` reads. -/
theorem fields : done.fields = unpack payload := by
  obtain ⟨input, start, finish, tlast, _, aligned, sent, last, rfl⟩ := framed.accepted
  have completed := completedAt_payload input (length_payloadBeats payload tlast) aligned sent last
  obtain ⟨size, stores⟩ :=
    (reports_run tlastPerPacket input atBoundary_reset finish).words _ completed
  rw [stores.fields_eq size, groupPayload_payloadBeats]

/-- The parser calls a packet valid exactly when it passes the protocol check. -/
theorem valid_iff : done.packetValid = true ↔ protocolIsValid (unpack payload) = true := by
  obtain ⟨input, start, finish, tlast, fits, aligned, sent, last, rfl⟩ := framed.accepted
  have completed := completedAt_payload input (length_payloadBeats payload tlast) aligned sent last
  rw [(reports_run tlastPerPacket input atBoundary_reset finish).valid _ completed,
    packetErrorsOf_framed fits]

/-- The parser calls a packet wrong exactly when it fails the protocol check. -/
theorem error_iff : done.packetError = true ↔ protocolIsValid (unpack payload) = false := by
  obtain ⟨input, start, finish, tlast, fits, aligned, sent, last, rfl⟩ := framed.accepted
  have completed := completedAt_payload input (length_payloadBeats payload tlast) aligned sent last
  rw [(reports_run tlastPerPacket input atBoundary_reset finish).error _ completed, ne_eq,
    packetErrorsOf_framed fits, Bool.not_eq_true]

end CompletesFramed

end HftPipeline.Rtl.PacketParser

namespace HftPipeline.Host

open HftPipeline.Wire HftPipeline.Rtl.PacketParser

/-- A `STREAM_START` in range, whatever its side and its reserved byte. -/
structure StartInRange (fields : Fields) : Prop where
  magic : fields.magic = magicBytes
  version : fields.version = 1
  messageType : fields.messageType = messageStreamStart
  announced : 1 ≤ fields.instrumentId ∧ 1 ≤ fields.priceTicks ∧ 1 ≤ fields.quantity ∧
    fields.quantity ≤ largestStream

/-- A `STREAM_END`, whatever its side and its reserved byte. -/
structure EndMarker (fields : Fields) : Prop where
  magic : fields.magic = magicBytes
  version : fields.version = 1
  messageType : fields.messageType = messageStreamEnd

/-- A START in range is no END. -/
theorem StartInRange.not_endMarker {fields : Fields} (starts : StartInRange fields) :
    ¬ EndMarker fields := by
  intro ends
  have types := starts.messageType.symm.trans ends.messageType
  simp [messageStreamStart, messageStreamEnd] at types

/-- What a flagged packet asks for, by its fields. -/
theorem requestOf_flagged {payload : Payload} (flagged : protocolIsValid (unpack payload) = false) :
    (StartInRange (unpack payload) ∧ ∃ rate bounded, requestOf payload =
      .start (unpack payload).instrumentId (unpack payload).priceTicks (unpack payload).quantity
        rate bounded) ∨
    (EndMarker (unpack payload) ∧ ∃ range, requestOf payload =
      .finish (unpack payload).quantity (unpack payload).sequence range) ∨
    ((¬ StartInRange (unpack payload) ∧ ¬ EndMarker (unpack payload)) ∧
      (requestOf payload = .invalid ∨ requestOf payload = .ignored)) := by
  have fits := unpack_fits payload
  unfold requestOf
  by_cases header : (unpack payload).magic ≠ magicBytes ∨ (unpack payload).version ≠ 1
  · simp only [if_pos header]
    have outside : ¬((unpack payload).magic = magicBytes ∧ (unpack payload).version = 1) :=
      fun inside => header.elim (fun magic => magic inside.1) fun version => version inside.2
    exact .inr (.inr ⟨⟨fun starts => outside ⟨starts.magic, starts.version⟩,
      fun ends => outside ⟨ends.magic, ends.version⟩⟩, .inl trivial⟩)
  simp only [if_neg header]
  rw [not_or, not_not, not_not] at header
  obtain ⟨magic, version⟩ := header
  by_cases start : (unpack payload).messageType = messageStreamStart
  · simp only [if_pos start]
    split_ifs with announced
    · exact .inl ⟨⟨magic, version, start, announced⟩, fits.instrumentId, announced.2.2.2, rfl⟩
    · refine .inr (.inr ⟨⟨fun starts => announced starts.announced, fun ends => ?_⟩, .inr rfl⟩)
      have types := start.symm.trans ends.messageType
      simp [messageStreamStart, messageStreamEnd] at types
  simp only [if_neg start]
  by_cases finish : (unpack payload).messageType = messageStreamEnd
  · simp only [if_pos finish]
    exact .inr (.inl ⟨⟨magic, version, finish⟩, ⟨fits.quantity, fits.sequence⟩, trivial⟩)
  simp only [if_neg finish]
  split_ifs with quote
  · have valid := (protocolIsValid_iff _).mpr
      ⟨magic, version, quote.2.2, .inl ⟨quote.1, quote.2.1⟩⟩
    rw [flagged] at valid
    cases valid
  · exact .inr (.inr ⟨⟨fun starts => start starts.messageType,
      fun ends => finish ends.messageType⟩, .inl rfl⟩)

namespace PythonReceiver

/-- A datagram of one payload is answered through the payload's request. -/
theorem receive_datagramOf (state : State) (payload : Payload) (sender : Address)
    (allocated : Bool) : receive state ⟨datagramOf payload sender, allocated⟩ =
      respond state sender allocated (requestOf payload) := by
  rw [receive_eq, request_datagramOf]
  rfl

/-- A receiver leaves a packet alone that neither starts a stream nor, against the lock,
ends the running one. -/
structure Spared (state : State) (sender : Address) (fields : Fields) : Prop where
  start : ¬ StartInRange fields
  finish : EndMarker fields → ¬ state.Owned sender

/-- The receiver leaves a flagged packet alone exactly when it is spared. -/
theorem flagged_undisturbed_iff {payload : Payload}
    (flagged : protocolIsValid (unpack payload) = false) (state : State) (sender : Address)
    (allocated : Bool) : Undisturbed state ⟨datagramOf payload sender, allocated⟩ ↔
      Spared state sender (unpack payload) := by
  rw [Undisturbed, receive_datagramOf]
  rcases requestOf_flagged flagged with ⟨starts, rate, bounded, requested⟩ |
    ⟨ends, range, requested⟩ | ⟨⟨noStart, noEnd⟩, requested⟩
  · rw [requested]
    refine iff_of_false ?_ fun spared => spared.start starts
    rintro ⟨next, received, unchanged⟩
    cases allocated with
    | false => cases received
    | true =>
        -- The start is printed once more.
        cases received
        have printed := congrArg (fun state => state.starts.length) unchanged
        simp [startStream] at printed
  · rw [requested]
    by_cases own : state.Owned sender
    · refine iff_of_false ?_ fun spared => spared.finish ends own
      rintro ⟨next, received, unchanged⟩
      rw [respond_finish own] at received
      cases received
      have printed := congrArg (fun state => state.summaries.length) unchanged
      simp [endStream] at printed
    · rw [respond_finish_foreign own]
      exact iff_of_true ⟨state, rfl, rfl⟩ ⟨fun starts => starts.not_endMarker ends, fun _ => own⟩
  · refine iff_of_true ?_ ⟨noStart, fun ends => absurd ends noEnd⟩
    rcases requested with invalid | ignored
    · rw [invalid]
      exact ⟨state.countInvalid, rfl, countInvalid_eq state⟩
    · rw [ignored]
      exact ⟨state, rfl, rfl⟩

end PythonReceiver

namespace CReceiver

/-- A datagram of one payload is answered through the payload's request. -/
theorem processDatagram_datagramOf (state : State) (payload : Payload) (sender : Address)
    (allocated : Bool) : processDatagram state ⟨datagramOf payload sender, allocated⟩ =
      respond state sender allocated (requestOf payload) := by
  rw [processDatagram_eq, request_datagramOf]
  rfl

/-- A receiver leaves a packet alone that neither starts a stream nor, against the lock,
ends the running one. -/
structure Spared (state : State) (sender : Address) (fields : Fields) : Prop where
  start : ¬ StartInRange fields
  finish : EndMarker fields → ¬ state.Owned sender

/-- The receiver leaves a flagged packet alone exactly when it is spared. -/
theorem flagged_undisturbed_iff {payload : Payload}
    (flagged : protocolIsValid (unpack payload) = false) (state : State) (sender : Address)
    (allocated : Bool) : Undisturbed state ⟨datagramOf payload sender, allocated⟩ ↔
      Spared state sender (unpack payload) := by
  rw [Undisturbed, processDatagram_datagramOf]
  rcases requestOf_flagged flagged with ⟨starts, rate, bounded, requested⟩ |
    ⟨ends, range, requested⟩ | ⟨⟨noStart, noEnd⟩, requested⟩
  · rw [requested]
    refine iff_of_false ?_ fun spared => spared.start starts
    rintro ⟨next, processed, unchanged⟩
    cases allocated with
    | false => cases processed
    | true =>
        -- The start is printed once more.
        cases processed
        have printed := congrArg (fun state => state.starts.length) unchanged
        simp [printStreamStart] at printed
  · rw [requested]
    by_cases own : state.Owned sender
    · refine iff_of_false ?_ fun spared => spared.finish ends own
      rintro ⟨next, processed, unchanged⟩
      rw [respond_finish own] at processed
      cases processed
      have printed := congrArg (fun state => state.reports.length) unchanged
      simp [finishStream] at printed
    · rw [respond_finish_foreign own]
      exact iff_of_true ⟨state, rfl, rfl⟩ ⟨fun starts => starts.not_endMarker ends, fun _ => own⟩
  · refine iff_of_true ?_ ⟨noStart, fun ends => absurd ends noEnd⟩
    rcases requested with invalid | ignored
    · rw [invalid]
      exact ⟨state.countInvalid, rfl, countInvalid_eq state⟩
    · rw [ignored]
      exact ⟨state, rfl, rfl⟩

end CReceiver

/-- A quote that the parser accepts asks the receivers to record its number. -/
theorem requestOf_accepted {payload : Payload} (valid : protocolIsValid (unpack payload) = true)
    (quote : (unpack payload).messageType = messageQuoteUpdate) :
    ∃ range, requestOf payload = .quote (unpack payload).sequence range := by
  obtain ⟨magic, version, reserved, form⟩ := (protocolIsValid_iff _).mp valid
  have side : (unpack payload).side = 0 ∨ (unpack payload).side = 1 := by
    rcases form with ⟨_, quoted⟩ | ⟨_, none⟩
    · exact quoted
    · exact .inl none
  refine ⟨(unpack_fits payload).sequence, ?_⟩
  simp [requestOf, magic, version, reserved, quote, side, messageQuoteUpdate, messageStreamStart,
    messageStreamEnd]

/-- For a correctly framed payload: when the parser flags it, each receiver changes
nothing but its invalid count exactly when it is spared the effect of a control message;
when the parser accepts it as a quote, a running stream of its sender looks its number up
if that is in range. -/
theorem flagged_packets_ignored_iff {tlastPerPacket : Bool} {payload : Payload}
    {done : Rtl.PacketParser.State} (framed : CompletesFramed tlastPerPacket payload done)
    (sender : Address) (allocated : Bool) :
    (done.packetError = true →
      (∀ state, PythonReceiver.Undisturbed state ⟨datagramOf payload sender, allocated⟩ ↔
        PythonReceiver.Spared state sender (unpack payload)) ∧
      ∀ state, CReceiver.Undisturbed state ⟨datagramOf payload sender, allocated⟩ ↔
        CReceiver.Spared state sender (unpack payload)) ∧
    (done.packetValid = true → done.messageType = 1#8 →
      (∀ state : PythonReceiver.State, state.Owned sender → 1 ≤ done.seq.toNat →
        done.seq.toNat ≤ state.plannedPackets →
        PythonReceiver.receive state ⟨datagramOf payload sender, allocated⟩ =
          PythonReceiver.recordQuote state done.seq.toNat) ∧
      ∀ state : CReceiver.State, state.Owned sender → ¬ done.seq < 1#32 →
        ¬ done.seq > state.plannedPackets →
        CReceiver.processDatagram state ⟨datagramOf payload sender, allocated⟩ =
          CReceiver.recordQuote state done.seq) := by
  constructor
  · intro flagged
    have invalid := framed.error_iff.mp flagged
    exact ⟨fun state => PythonReceiver.flagged_undisturbed_iff invalid state sender allocated,
      fun state => CReceiver.flagged_undisturbed_iff invalid state sender allocated⟩
  · intro accepted type
    have quote : (unpack payload).messageType = messageQuoteUpdate := by
      rw [← framed.fields, Rtl.PacketParser.State.fields, type]
      rfl
    have number : done.seq.toNat = (unpack payload).sequence := by
      rw [← framed.fields]
      rfl
    obtain ⟨range, requested⟩ := requestOf_accepted (framed.valid_iff.mp accepted) quote
    constructor
    · intro state own above below
      rw [number] at above below ⊢
      rw [PythonReceiver.receive_datagramOf, requested,
        PythonReceiver.respond_quote own ⟨above, below⟩]
    · intro state own above below
      have word : done.seq = BitVec.ofNat 32 (unpack payload).sequence := by
        rw [← number, BitVec.ofNat_toNat, BitVec.setWidth_eq]
      rw [word] at above below ⊢
      rw [CReceiver.processDatagram_datagramOf, requested,
        CReceiver.respond_quote own ⟨above, below⟩]

section Sided

/-- The registers of the parser behind a payload, from reset and without gaps. -/
def parsed (payload : Payload) : Rtl.PacketParser.State :=
  run true reset (offered (payloadBeats payload true)) 8

/-- They complete the payload. -/
theorem completesFramed_parsed (payload : Payload) :
    CompletesFramed true payload (parsed payload) := by
  have size := length_payloadBeats payload true
  refine ⟨offered (payloadBeats payload true), 0, 7, true, fun _ => rfl, rfl, ?_, ?_, rfl⟩
  · rw [acceptedBefore_offered, acceptedBefore_offered, List.take_of_length_le size.le,
      List.take_zero, List.nil_append]
  · rw [beatAt_offered, List.getElem?_eq_getElem (by omega), Option.isSome_some]

/-- A `STREAM_START` with a side, which no message of this type has. -/
def sidedStart : Payload :=
  ⟨(senderFields messageStreamStart 7 0 0 1000 1 1).layout, by decide⟩

/-- The parser flags the packet, and both receivers start the stream. -/
theorem flagged_start_accepted :
    CompletesFramed true sidedStart (parsed sidedStart) ∧
      (parsed sidedStart).packetError = true ∧
      PythonReceiver.receive .initial ⟨datagramOf sidedStart tester, true⟩ =
        .ok (PythonReceiver.startStream .initial tester 1000 1 1) ∧
      (PythonReceiver.startStream .initial tester 1000 1 1).streamActive = true ∧
      ∃ next, CReceiver.processDatagram .initial ⟨datagramOf sidedStart tester, true⟩ = .ok next ∧
        next.active = true :=
  ⟨completesFramed_parsed sidedStart, by decide, by decide, rfl, _, rfl, rfl⟩

/-- A quote with a side that is neither of the two. -/
def sidedQuote : Payload :=
  ⟨(senderFields messageQuoteUpdate 7 1 0 1 10000 100).layout, by decide⟩

/-- The parser flags the quote, and the receivers that are measuring its stream count it as
invalid and do nothing else. -/
theorem flagged_quote_counted :
    (parsed sidedQuote).packetError = true ∧
      PythonReceiver.Undisturbed (PythonReceiver.startStream .initial tester 1000 1 1)
        ⟨datagramOf sidedQuote tester, true⟩ ∧
      ∃ running, CReceiver.resetStream true .initial tester 1000#32 1#32 = .ok running ∧
        CReceiver.Undisturbed running ⟨datagramOf sidedQuote tester, true⟩ := by
  have flagged : (parsed sidedQuote).packetError = true := by decide
  obtain ⟨python, c⟩ :=
    (flagged_packets_ignored_iff (completesFramed_parsed sidedQuote) tester true).1 flagged
  have noStart : ¬ StartInRange (unpack sidedQuote) :=
    fun starts => absurd starts.messageType (by decide)
  have noEnd : ¬ EndMarker (unpack sidedQuote) := fun ends => absurd ends.messageType (by decide)
  exact ⟨flagged, (python _).mpr ⟨noStart, fun ends => absurd ends noEnd⟩, _, rfl,
    (c _).mpr ⟨noStart, fun ends => absurd ends noEnd⟩⟩

end Sided

end HftPipeline.Host
