import HftPipeline.Engine.Signals
import HftPipeline.Rtl.BlockDesign
import HftPipeline.Rtl.WireAgreement

/-!
# From beats to signals

The parser completes at most one packet in eight cycles, so no control message
ever overtakes a quote and the engine behind it is the sequential session. The
reference reads the accepted beats group by group and never mentions a clock.
-/

namespace HftPipeline.Rtl.BlockDesign

open HftPipeline.Spec HftPipeline.Std HftPipeline.Wire

/-- The message of accepted fields. -/
def fieldsMessage (ids : PacketFilter.Ids) (fields : Fields) : Option Message :=
  if fields.messageType = messageStreamStart then some (.control .start)
  else if fields.messageType = messageStreamEnd then some (.control .stop)
  else if fields.messageType = messageQuoteUpdate then
    (ids.slotOf (BitVec.ofNat 32 fields.instrumentId)).map fun slot =>
      .quote
        { slot := slot
          side := BitVec.ofNat 8 fields.side
          seq := BitVec.ofNat 32 fields.sequence
          timestamp := BitVec.ofNat 64 fields.timestampNs
          price := BitVec.ofNat 32 fields.priceTicks
          quantity := BitVec.ofNat 32 fields.quantity }
  else none

/-- The message of a group of eight beats. A group with a framing error or a field
error carries none. -/
def groupMessage (ids : PacketFilter.Ids) (beats : List PacketParser.Beat) : Option Message :=
  if complete : beats.length = 8 then
    if PacketParser.CleanFraming beats ∧
        protocolIsValid (unpack (PacketParser.groupPayload beats complete)) = true then
      fieldsMessage ids (unpack (PacketParser.groupPayload beats complete))
    else none
  else none

/-- The messages that a list of beats carries. -/
def beatMessages (ids : PacketFilter.Ids) (beats : List PacketParser.Beat) : List Message :=
  (Groups.groups 8 beats).filterMap (groupMessage ids)

/-- The message of a payload. One that the validator rejects carries none. -/
def payloadMessage (ids : PacketFilter.Ids) (payload : Payload) : Option Message :=
  if protocolIsValid (unpack payload) then fieldsMessage ids (unpack payload) else none

/-- The beats of a payload carry its message. -/
theorem groupMessage_payloadBeats (ids : PacketFilter.Ids) (payload : Payload) (last : Bool) :
    groupMessage ids (PacketParser.payloadBeats payload last) = payloadMessage ids payload := by
  rw [groupMessage, dif_pos (PacketParser.length_payloadBeats payload last),
    PacketParser.groupPayload_payloadBeats, payloadMessage]
  simp only [PacketParser.cleanFraming_payloadBeats, true_and]

/-- The beats of payloads mean the messages of the payloads. -/
theorem filterMap_streamBeats (ids : PacketFilter.Ids) (tlast : Nat → Bool)
    (payloads : List Payload) :
    (PacketParser.streamBeats tlast payloads).filterMap (groupMessage ids) =
      payloads.filterMap (payloadMessage ids) := by
  induction payloads generalizing tlast with
  | nil => rfl
  | cons payload payloads ih =>
      have tail := ih fun index => tlast (index + 1)
      simp only [PacketParser.streamBeats] at tail
      simp only [PacketParser.streamBeats, List.mapIdx_cons, List.filterMap_cons,
        groupMessage_payloadBeats, tail]

/-- The beats of payloads carry the messages of the payloads. -/
theorem beatMessages_streamBeats (ids : PacketFilter.Ids) (tlast : Nat → Bool)
    (payloads : List Payload) :
    beatMessages ids (PacketParser.streamBeats tlast payloads).flatten =
      payloads.filterMap (payloadMessage ids) := by
  rw [beatMessages, (Groups.groups_of_flatten (by decide)
    fun _ => PacketParser.length_of_mem_streamBeats).1, filterMap_streamBeats]

/-- What the output ports show while `signal_valid` is high. -/
structure Signal where
  slot : BitVec 3
  timestamp : BitVec 64
  tradeSignal : BitVec 2
  directionScore : Int
  requiredScore : Int
deriving DecidableEq

def signalOf (output : EngineWrapper.Output) : Option Signal :=
  if output.signalValid then
    some ⟨output.signalInstrumentSlot, output.signalTimestampNs, output.tradeSignal,
      output.directionScore.toInt, output.requiredScore.toInt⟩
  else none

def decisionSignal (decision : Decision) : Signal :=
  ⟨decision.slot.1, decision.timestamp, decision.signal.bits, decision.score, decision.required⟩

/-- The signals of a list of beats: one message at a time, from an inactive session,
with the weights 4, 1 and 2 and the base threshold 100. -/
def reference (ids : PacketFilter.Ids) (beats : List PacketParser.Beat) : List Signal :=
  (Session.initial.decisions ⟨4, 1, 2, 100⟩
    ((Groups.groups 8 beats).filterMap (groupMessage ids))).map decisionSignal

/-- The reference on the beats of payloads is the session on their messages. -/
theorem reference_streamBeats (ids : PacketFilter.Ids) (tlast : Nat → Bool)
    (payloads : List Payload) :
    reference ids (PacketParser.streamBeats tlast payloads).flatten =
      (Session.initial.decisions ⟨4, 1, 2, 100⟩
        (payloads.filterMap (payloadMessage ids))).map decisionSignal := by
  rw [← beatMessages_streamBeats ids tlast payloads]
  rfl

/-- What the output shows is the signal of the decision. -/
theorem signalOf_of_shows {output : EngineWrapper.Output} {decision : Option Decision}
    (shown : output.Shows decision) : signalOf output = decision.map decisionSignal := by
  cases decision with
  | none =>
      have silent : output.signalValid = false := shown
      simp [signalOf, silent]
  | some decision =>
      obtain ⟨valid, slot, timestamp, score, required, signal⟩ := shown
      simp [signalOf, decisionSignal, valid, slot, timestamp, score, required, signal]

/-- The packet ports carry the message of the decoded fields while a packet is valid. -/
theorem message_packetPorts (ids : PacketFilter.Ids) (parser : PacketParser.State) :
    (packetPorts parser).message ids =
      if parser.packetValid && !parser.packetError then fieldsMessage ids parser.fields
      else none := by
  have kind (number : Nat) (small : number < 256) :
      parser.messageType.toNat = number ↔ parser.messageType = BitVec.ofNat 8 number := by
    rw [← BitVec.toNat_inj, BitVec.toNat_ofNat, Nat.mod_eq_of_lt small]
  have accepted : (packetPorts parser).accepted = (parser.packetValid && !parser.packetError) := rfl
  rw [PacketFilter.Input.message, accepted]
  cases parser.packetValid && !parser.packetError with
  | false => rfl
  | true =>
      simp only [if_true, fieldsMessage, PacketParser.State.fields, messageStreamStart,
        messageStreamEnd, messageQuoteUpdate, kind 4 (by decide), kind 5 (by decide),
        kind 1 (by decide), BitVec.ofNat_toNat, BitVec.setWidth_eq]
      rfl

/-- The packet ports carry the message of the group that the parser reports. -/
theorem message_of_reports (ids : PacketFilter.Ids) {parser : PacketParser.State}
    {group : Option (List PacketParser.Beat)} (reports : PacketParser.Reports false parser group) :
    (packetPorts parser).message ids = group.bind (groupMessage ids) := by
  rw [message_packetPorts]
  cases group with
  | none => simp [(reports.idle rfl).1]
  | some beats =>
      obtain ⟨complete, stores⟩ := reports.words beats rfl
      have valid := reports.valid beats rfl
      have error := reports.error beats rfl
      rw [ne_eq, PacketParser.packetErrorsOf_batch complete] at error
      rw [PacketParser.packetErrorsOf_batch complete] at valid
      rw [stores.fields_eq complete, Option.bind_some, groupMessage, dif_pos complete]
      by_cases clean : PacketParser.CleanFraming beats ∧
          protocolIsValid (unpack (PacketParser.groupPayload beats complete)) = true
      · have errorFree : parser.packetError = false :=
          Bool.eq_false_iff.mpr fun raised => error.mp raised clean
        rw [if_pos clean, valid.mpr clean, errorFree]
        rfl
      · have invalid : parser.packetValid = false :=
          Bool.eq_false_iff.mpr fun raised => clean (valid.mp raised)
        rw [if_neg clean, invalid]
        rfl

section Run

variable (params : EngineWrapper.Params) (before : State) (held : PacketParser.Input)
  (input : Nat → PacketParser.Input)

/-- The registers in every cycle after a cycle of reset. -/
def run (cycle : Nat) : State :=
  Clocked.stateAt (BlockDesign.next params true) (BlockDesign.next params false before held)
    input cycle

/-- The beats accepted before a cycle. -/
def acceptedBeats (cycle : Nat) : List PacketParser.Beat :=
  PacketParser.acceptedBefore false PacketParser.reset input cycle

/-- The signals shown before a cycle. -/
def signalsBefore (cycle : Nat) : List Signal :=
  Clocked.seen (fun n => signalOf (EngineWrapper.output (run params before held input n).engine))
    cycle

/-- Inside the design the parser runs on the design's own input. -/
theorem parser_run (cycle : Nat) : (run params before held input cycle).parser =
    PacketParser.run false PacketParser.reset input cycle := by
  apply Clocked.simulates (fun (state : State) parser => state.parser = parser) Eq
  · rfl
  · rintro state _ input _ rfl rfl
    rfl
  · exact fun _ => rfl

/-- What the parser drives into the engine. -/
def packets (cycle : Nat) : EngineWrapper.Input :=
  packetPorts (PacketParser.run false PacketParser.reset input cycle)

/-- Inside the design the engine runs on the packets of the parser. -/
theorem engine_run (cycle : Nat) : (run params before held input cycle).engine =
    EngineWrapper.run params before.engine (packetPorts before.parser) (packets input) cycle := by
  induction cycle with
  | zero => rfl
  | succ cycle ih =>
      have step : (run params before held input (cycle + 1)).engine =
          EngineWrapper.next params true (run params before held input cycle).engine
            (packetPorts (run params before held input cycle).parser) := rfl
      rw [step, ih, parser_run]
      rfl

/-- The message of a cycle is that of the group completed in the cycle before. -/
theorem messages_succ (cycle : Nat) :
    EngineWrapper.messages params (packets input) (cycle + 1) =
      (PacketParser.completedAt false PacketParser.reset input cycle).bind
        (groupMessage params.ids) :=
  message_of_reports params.ids
    (PacketParser.reports_run false input PacketParser.atBoundary_reset cycle)

/-- In the first cycle after reset no message is there yet. -/
theorem messages_zero : EngineWrapper.messages params (packets input) 0 = none := rfl

/-- The messages before a cycle are those of the groups of the accepted beats. -/
theorem seen_messages (cycle : Nat) :
    Clocked.seen (EngineWrapper.messages params (packets input)) (cycle + 1) =
      (Groups.groups 8 (acceptedBeats input cycle)).filterMap (groupMessage params.ids) := by
  rw [acceptedBeats, ← PacketParser.seen_completedAt, ← Clocked.seen_bind]
  apply Clocked.seen_delayed
  · intro n first
    obtain rfl : n = 0 := by omega
    exact messages_zero params input
  · exact messages_succ params input

/-- A message has no other within eight cycles, so no control message overtakes it. -/
theorem undisturbed_of_message {cycle : Nat} {message : Message}
    (held : EngineWrapper.messages params (packets input) cycle = some message) :
    Pipe.Undisturbed (EngineWrapper.messages params (packets input)) cycle := by
  cases cycle with
  | zero => rw [messages_zero] at held; cases held
  | succ cycle =>
      rw [messages_succ] at held
      obtain ⟨group, completed, -⟩ := Option.bind_eq_some_iff.mp held
      have quiet (delay : Nat) (positive : 0 < delay) (near : delay < 8) :
          Pipe.controlAt (EngineWrapper.messages params (packets input)) (cycle + 1 + delay) =
            none := by
        have next := PacketParser.completedAt_spaced false input
          (show cycle < cycle + delay by omega) (show cycle + delay < cycle + 8 by omega) completed
        rw [Pipe.controlAt, Nat.add_right_comm, messages_succ, next]
        rfl
      exact ⟨quiet 1 (by decide) (by decide), quiet 2 (by decide) (by decide),
        quiet 3 (by decide) (by decide)⟩

/-- Every message leads to the decision of the sequential session. -/
theorem decisionAt_packets (cycle : Nat) :
    Pipe.decisionAt EngineWrapper.weights (EngineWrapper.messages params (packets input)) cycle =
      (Pipe.sessionAt (EngineWrapper.messages params (packets input)) cycle).decision
        EngineWrapper.weights (EngineWrapper.messages params (packets input) cycle) := by
  unfold Pipe.decisionAt
  cases held : EngineWrapper.messages params (packets input) cycle with
  | none => simp [Session.decision]
  | some message => rw [if_pos (undisturbed_of_message params input held)]

/-- The signals of any number of cycles are those of the beats accepted nine cycles before. -/
theorem signalsBefore_add (cycle : Nat) : signalsBefore params before held input (cycle + 9) =
    reference params.ids (acceptedBeats input cycle) := by
  let messages := EngineWrapper.messages params (packets input)
  have silent (n : Nat) (early : n < 8) :
      signalOf (EngineWrapper.output (run params before held input n).engine) = none := by
    rw [engine_run]
    have low := EngineWrapper.silent_early params before.engine (packetPorts before.parser)
      (packets input) early
    simp [signalOf, low]
  have repeats (n : Nat) :
      signalOf (EngineWrapper.output (run params before held input (n + 8)).engine) =
        ((Pipe.sessionAt messages n).decision EngineWrapper.weights (messages n)).map
          decisionSignal := by
    rw [engine_run, ← decisionAt_packets]
    exact signalOf_of_shows (EngineWrapper.shows_decisionAt params before.engine
      (packetPorts before.parser) (packets input) n)
  calc signalsBefore params before held input (cycle + 9)
      = Clocked.seen (fun n => ((Pipe.sessionAt messages n).decision EngineWrapper.weights
          (messages n)).map decisionSignal) (cycle + 1) := Clocked.seen_delayed silent repeats _
    _ = (Session.initial.decisions EngineWrapper.weights
          (Clocked.seen messages (cycle + 1))).map decisionSignal := by
        rw [Clocked.seen_map, Pipe.seen_decision]
    _ = reference params.ids (acceptedBeats input cycle) := by
        rw [seen_messages]
        rfl

/-- For any schedule of both streams and any contents of the registers before
reset, the signals shown are always a prefix of the reference on the accepted
beats, and nine cycles after the last accepted beat they are all of it. -/
theorem signals_refine_reference (cycle : Nat) :
    signalsBefore params before held input cycle <+:
        reference params.ids (acceptedBeats input cycle) ∧
      ∀ last, last + 9 < cycle →
        (∀ later, last < later → later < cycle →
          PacketParser.beatAt false PacketParser.reset input later = none) →
        signalsBefore params before held input cycle =
          reference params.ids (acceptedBeats input cycle) := by
  constructor
  · rw [← signalsBefore_add params before held input cycle]
    exact Clocked.seen_mono _ (Nat.le_add_right cycle 9)
  · intro last late quiet
    obtain ⟨early, rfl⟩ : ∃ early, cycle = early + 9 := ⟨cycle - 9, by omega⟩
    have settled : acceptedBeats input (early + 9) = acceptedBeats input early :=
      Clocked.seen_of_silent (Nat.le_add_right early 9)
        fun n low high => quiet n (by omega) high
    rw [signalsBefore_add, settled]

end Run

/-- A board that is always ready accepts every beat as it is offered. -/
theorem acceptedBeats_offered (beats : List PacketParser.Beat) :
    acceptedBeats (PacketParser.offered beats) beats.length = beats := by
  rw [acceptedBeats, PacketParser.acceptedBefore_offered, List.take_length]

/-- A board before its reset, with the same word in all of its memories. -/
def staleBoard (word : BitVec 33) : State := ⟨PacketParser.reset, EngineWrapper.stale word⟩

/-- A quote of an instrument that is not followed, and 34 quotes of instrument 3 that alternate
between a large bid and a small ask. -/
def lopsidedPayloads : List Payload :=
  (packPacketInto messageStreamStart 0 0 0 0 0 0).toList ++
    (packPacketInto messageQuoteUpdate 0 1 7 9 10000 500).toList ++
    (List.range 34).flatMap (fun index =>
      (packPacketInto messageQuoteUpdate (index % 2) (index + 2) index 3
        (10000 + 2 * (index % 2)) (500 - 490 * (index % 2))).toList) ++
    (packPacketInto messageStreamEnd 0 0 0 0 0 0).toList

/-- These packets without gaps. -/
def lopsidedBeats : List PacketParser.Beat :=
  (PacketParser.streamBeats (fun _ => false) lopsidedPayloads).flatten

/-- The board advises to buy twice, for the two quotes that follow the warm-up. -/
theorem signals_refine_reference_buys :
    signalsBefore .default (staleBoard 7#33) (PacketParser.offered lopsidedBeats 0)
        (PacketParser.offered lopsidedBeats) (lopsidedBeats.length + 10) =
      [⟨2#3, 32#64, TradeSignal.buy.bits, 490, 104⟩,
        ⟨2#3, 33#64, TradeSignal.buy.bits, 490, 104⟩] := by
  have accepted : acceptedBeats (PacketParser.offered lopsidedBeats) (lopsidedBeats.length + 10) =
      lopsidedBeats := by
    rw [acceptedBeats, PacketParser.acceptedBefore_offered,
      List.take_of_length_le (Nat.le_add_right _ _)]
  have shown := (signals_refine_reference .default (staleBoard 7#33)
    (PacketParser.offered lopsidedBeats 0) (PacketParser.offered lopsidedBeats)
    (lopsidedBeats.length + 10)).2 lopsidedBeats.length (Nat.add_lt_add_left (by decide) _)
    fun later behind _ => by
      rw [PacketParser.beatAt_offered, List.getElem?_eq_none (Nat.le_of_lt behind)]
  rw [shown, accepted, lopsidedBeats, EngineWrapper.Params.default, reference_streamBeats]
  decide +kernel

end HftPipeline.Rtl.BlockDesign
