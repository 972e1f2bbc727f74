import HftPipeline.Host.PacedReceiver
import HftPipeline.Host.PythonRefinement
import HftPipeline.Host.StreamSender

/-!
# Streams that the receivers agree to measure

The senders bound the planned packets and the announced milliseconds from above, and
the receivers also refuse zero milliseconds. A stream is therefore measured exactly
when it lasts more than half a millisecond, and behind the paced sender only when its
planned count is also within the receiver's bound.
-/

namespace HftPipeline.Host

open HftPipeline.Wire

/-- A `STREAM_START` in range asks for a new stream. -/
theorem requestOf_start {payload : Payload} {timeNs targetPps durationMs planned : Nat}
    (fields : unpack payload =
      senderFields messageStreamStart 0 0 timeNs targetPps durationMs planned)
    (announced : 1 ≤ targetPps ∧ 1 ≤ durationMs ∧ 1 ≤ planned ∧ planned ≤ largestStream) :
    ∃ rate bounded, requestOf payload = .start targetPps durationMs planned rate bounded := by
  have fits := unpack_fits payload
  rw [fields] at fits
  refine ⟨fits.instrumentId, announced.2.2.2, ?_⟩
  simp [requestOf, fields, senderFields, messageStreamStart, announced]

/-- Outside the range it asks for nothing. -/
theorem requestOf_ignored {payload : Payload} {timeNs targetPps durationMs planned : Nat}
    (fields : unpack payload =
      senderFields messageStreamStart 0 0 timeNs targetPps durationMs planned)
    (refused : ¬(1 ≤ targetPps ∧ 1 ≤ durationMs ∧ 1 ≤ planned ∧ planned ≤ largestStream)) :
    requestOf payload = .ignored := by
  simp [requestOf, fields, senderFields, messageStreamStart, refused]

/-- The datagram of a packet from a sender. -/
def datagramOf (payload : Payload) (sender : Address) : Datagram := ⟨payload.1, sender⟩

/-- A datagram made from a payload carries it. -/
@[simp] theorem datagramPayload_datagramOf (payload : Payload) (sender : Address) :
    datagramPayload (datagramOf payload sender) = some payload :=
  datagramPayload_eq_some.mpr rfl

/-- A datagram made from a payload makes the payload's request. -/
@[simp] theorem request_datagramOf (payload : Payload) (sender : Address) :
    request (datagramOf payload sender) = requestOf payload := by
  simp [request]

namespace OptimizedSender

variable {arguments : Arguments}

/-- The `STREAM_START` starts the stream that it announces, whatever the receiver has
been doing. -/
def Measured (arguments : Arguments) : Prop :=
  ∀ timeNs payload, startPacket arguments timeNs = some payload → ∀ state sender,
    PythonReceiver.receive state ⟨datagramOf payload sender, true⟩ =
      .ok (PythonReceiver.startStream state sender arguments.pps.toNat
        arguments.durationMs.toNat arguments.plannedPackets.toNat)

/-- Arguments that pass the checks leave only the milliseconds open. -/
theorem announced_iff (checked : checkArguments arguments = .ok ()) :
    (1 ≤ arguments.pps.toNat ∧ 1 ≤ arguments.durationMs.toNat ∧
        1 ≤ arguments.plannedPackets.toNat ∧ arguments.plannedPackets.toNat ≤ largestStream) ↔
      1 / 2000 < arguments.duration := by
  obtain ⟨rate, _, _, planned, _⟩ := checkArguments_eq_ok.mp checked
  rw [← Arguments.durationMs_pos_iff]
  simp only [maxPlannedPackets, largestStream] at planned ⊢
  omega

/-- Arguments that pass the check give packets that fit their fields. -/
theorem fit (checked : checkArguments arguments = .ok ()) : packets.Fit arguments := by
  obtain ⟨rate, positive, _, planned, duration⟩ := checkArguments_eq_ok.mp checked
  simp only [maxPps, maxPlannedPackets] at rate planned
  constructor
  · intro timeNs clock
    exact makeControlPacket_isSome (by decide) (by decide) (by omega) (by omega) (by omega) clock
  · intro sequence timeNs first last clock
    exact makeQuotePacket_isSome (by omega) clock
  · intro sent timeNs atMost clock
    exact makeControlPacket_isSome (by decide) (by omega) (by omega) (by omega) (by omega) clock

/-- A checked run is measured exactly above half a millisecond. -/
theorem measured_iff (checked : checkArguments arguments = .ok ()) :
    Measured arguments ↔ 1 / 2000 < arguments.duration := by
  obtain ⟨payload, packed⟩ :=
    Option.isSome_iff_exists.mp ((fit checked).start 0 (by decide))
  rw [← announced_iff checked]
  constructor
  · intro measured
    by_contra refused
    -- A receiver at rest would have to be active.
    have started := measured 0 payload packed .initial ⟨0#32, 0#16⟩
    rw [PythonReceiver.receive_eq, request_datagramOf,
      requestOf_ignored (unpack_pack packed) refused] at started
    cases started
  · intro announced timeNs other stamped state sender
    obtain ⟨rate, bounded, requested⟩ := requestOf_start (unpack_pack stamped) announced
    rw [PythonReceiver.receive_eq, request_datagramOf, requested]
    rfl

end OptimizedSender

namespace PacedSender

variable {arguments : Arguments}

/-- The start control passes the check of the receiver and starts the stream that it
announces, whatever the receiver has been doing. -/
def Measured (arguments : Arguments) : Prop :=
  ∀ timeNs payload, startPacket arguments timeNs = some payload →
    PacedReceiver.validStartControl (unpack payload).instrumentId (unpack payload).priceTicks
        (unpack payload).quantity = true ∧
      ∀ test sender now,
        PacedReceiver.receive test (.received ⟨datagramOf payload sender, true⟩ now) =
          .ok (test.start sender arguments.pps.toNat arguments.plannedPackets.toNat now)

/-- Arguments that pass the checks leave the milliseconds and the planned count open. -/
theorem validStartControl_iff (validated : validateArguments arguments = .ok ()) :
    PacedReceiver.validStartControl arguments.pps.toNat arguments.durationMs.toNat
        arguments.plannedPackets.toNat = true ↔
      1 / 2000 < arguments.duration ∧
        (arguments.pps : ℚ) * arguments.duration ≤ 20000001 / 2 := by
  obtain ⟨rate, _, _, planned, _⟩ := validateArguments_eq_ok.mp validated
  rw [← Arguments.durationMs_pos_iff, ← Arguments.plannedPackets_le_iff]
  simp only [PacedReceiver.validStartControl, Bool.and_eq_true, decide_eq_true_eq]
  rw [PacedReceiver.maxPlannedPackets]
  omega

/-- Arguments that pass the check give packets that fit their fields. -/
theorem fit (validated : validateArguments arguments = .ok ()) : packets.Fit arguments := by
  obtain ⟨rate, _, _, planned, duration⟩ := validateArguments_eq_ok.mp validated
  simp only [maxPps] at rate planned
  constructor
  · intro timeNs clock
    exact makeControlPacket_isSome (by decide) (by decide) (by omega) (by omega) (by omega) clock
  · intro sequence timeNs first last clock
    exact makeQuotePacket_isSome (by omega) clock
  · intro sent timeNs atMost clock
    exact makeControlPacket_isSome (by decide) (by omega) (by omega) (by omega) (by omega) clock

/-- The fields of the start control, as the receiver unpacks them. -/
theorem unpack_startPacket {timeNs : Nat} {payload : Payload}
    (packed : startPacket arguments timeNs = some payload) :
    unpack payload = senderFields controlStart 0 0 timeNs arguments.pps.toNat
      arguments.durationMs.toNat arguments.plannedPackets.toNat :=
  unpack_pack packed

/-- A checked run is measured above half a millisecond and up to the largest stream. -/
theorem measured_iff (validated : validateArguments arguments = .ok ()) :
    Measured arguments ↔ 1 / 2000 < arguments.duration ∧
      (arguments.pps : ℚ) * arguments.duration ≤ 20000001 / 2 := by
  obtain ⟨payload, packed⟩ :=
    Option.isSome_iff_exists.mp ((fit validated).start 0 (by decide))
  rw [← validStartControl_iff validated]
  constructor
  · intro measured
    have passed := (measured 0 payload packed).1
    rwa [unpack_startPacket packed] at passed
  · intro valid timeNs other stamped
    have fields := unpack_startPacket stamped
    refine ⟨by rw [fields]; exact valid, ?_⟩
    intro test sender now
    simp only [PacedReceiver.receive, datagramPayload_datagramOf, PacedReceiver.processPacket,
      fields]
    simp [senderFields, controlStart, PacedReceiver.controlStart, valid, datagramOf]

end PacedSender

/-- Arguments that pass the checks of a sender: every packet of the run fits its fields,
and the start is measured for more than half a millisecond; the paced receiver also
bounds the planned count. -/
theorem streams_measured_iff (arguments : Arguments) :
    (OptimizedSender.checkArguments arguments = .ok () →
      (OptimizedSender.packets.Fit arguments ∧ OptimizedSender.Measured arguments ↔
        1 / 2000 < arguments.duration)) ∧
    (PacedSender.validateArguments arguments = .ok () →
      (PacedSender.packets.Fit arguments ∧ PacedSender.Measured arguments ↔
        1 / 2000 < arguments.duration ∧
          (arguments.pps : ℚ) * arguments.duration ≤ 20000001 / 2)) := by
  constructor
  · intro checked
    rw [OptimizedSender.measured_iff checked]
    exact and_iff_right (OptimizedSender.fit checked)
  · intro validated
    rw [PacedSender.measured_iff validated]
    exact and_iff_right (PacedSender.fit validated)

/-- The default arguments of both senders. -/
def defaultArguments : Arguments := ⟨7500, 10, 5001⟩

/-- Both senders' default stream passes the checks and is measured. -/
theorem default_stream_measured :
    OptimizedSender.checkArguments defaultArguments = .ok () ∧
      PacedSender.validateArguments defaultArguments = .ok () ∧
      OptimizedSender.Measured defaultArguments ∧ PacedSender.Measured defaultArguments := by
  have checked : OptimizedSender.checkArguments defaultArguments = .ok () := by decide +kernel
  have validated : PacedSender.validateArguments defaultArguments = .ok () := by decide +kernel
  obtain ⟨optimized, paced⟩ := streams_measured_iff defaultArguments
  exact ⟨checked, validated, ((optimized checked).mpr (by norm_num [defaultArguments])).2,
    ((paced validated).mpr (by norm_num [defaultArguments])).2⟩

/-- Three packets in less than half a millisecond, and fifteen million packets. -/
def shortRun : Arguments := ⟨7500, 1 / 2500, 5001⟩

def longRun : Arguments := ⟨7500, 2000, 5001⟩

/-- Both receivers ignore the start of a run that their senders round to no
milliseconds, and the paced one also ignores the start of a long run. -/
theorem started_streams_ignored :
    (OptimizedSender.checkArguments shortRun = .ok () ∧ shortRun.plannedPackets = 3 ∧
        shortRun.durationMs = 0 ∧ ¬ OptimizedSender.Measured shortRun) ∧
      (PacedSender.validateArguments shortRun = .ok () ∧ ¬ PacedSender.Measured shortRun) ∧
      PacedSender.validateArguments longRun = .ok () ∧ longRun.plannedPackets = 15000000 ∧
        ¬ PacedSender.Measured longRun := by
  have checked : OptimizedSender.checkArguments shortRun = .ok () := by decide +kernel
  have validated : PacedSender.validateArguments shortRun = .ok () := by decide +kernel
  have long : PacedSender.validateArguments longRun = .ok () := by decide +kernel
  refine ⟨⟨checked, by decide +kernel, by decide +kernel, ?_⟩, ⟨validated, ?_⟩, long,
    by decide +kernel, ?_⟩
  · rw [OptimizedSender.measured_iff checked]
    norm_num [shortRun]
  · rw [PacedSender.measured_iff validated]
    norm_num [shortRun]
  · rw [PacedSender.measured_iff long]
    norm_num [longRun]

end HftPipeline.Host
