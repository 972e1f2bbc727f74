import HftPipeline.Engine.EndToEnd
import HftPipeline.Engine.Isolation
import HftPipeline.Rtl.WireAgreement
import HftPipeline.Spec.OneSided

/-!
# The live sender never completes a book

The live sender takes the side of a quote from the parity of its sequence number
and the instrument from the packet index modulo four. Both have the parity of the
index, so instruments 1 and 3 are only ever asked and instruments 2 and 4 only
ever bid.
-/

namespace HftPipeline.Rtl.BlockDesign

open HftPipeline.Spec HftPipeline.Std HftPipeline.Wire

/-- The only side that the live sender quotes for the instrument of a slot. -/
def liveSide (slot : Slot) : BitVec 8 := if slot.1 = 0#3 ∨ slot.1 = 2#3 then 1#8 else 0#8

/-- The default instruments are numbered from 1 in the order of the slots. -/
theorem slotOf_default (number : Fin 5) :
    PacketFilter.Ids.default.slotOf (BitVec.ofNat 32 (1 + number.1)) =
      some (Slot.ofFin number) := by
  revert number
  decide

/-- The side and the instrument of a packet index go together. -/
theorem liveSide_of_index {index : Nat} {slot : Slot}
    (matched : PacketFilter.Ids.default.slotOf (BitVec.ofNat 32 (1 + index % 4)) = some slot) :
    BitVec.ofNat 8 ((index + 1) &&& 1) = liveSide slot := by
  rw [Nat.and_one_is_mod]
  have residue : index % 4 < 4 := Nat.mod_lt _ (by decide)
  have parity : (index + 1) % 2 = (index % 4 + 1) % 2 := by omega
  obtain ⟨number, same⟩ : ∃ number : Fin 5, number.1 = index % 4 := ⟨⟨index % 4, by omega⟩, rfl⟩
  rw [← same] at residue parity matched
  rw [slotOf_default, Option.some.injEq] at matched
  rw [parity, ← matched]
  revert residue
  clear same matched parity
  revert number
  decide

/-- Every quote of the live sender keeps to the side of its instrument. -/
theorem keepsSide_buildFields (index totalPackets targetPps durationMs timestampNs : Nat) :
    KeepsSide liveSide (fieldsMessage PacketFilter.Ids.default
      (buildFields index totalPackets targetPps durationMs timestampNs)) := by
  intro quote held
  unfold buildFields at held
  simp only at held
  split_ifs at held
  · simp [fieldsMessage, senderFields] at held
  · simp [fieldsMessage, senderFields, messageStreamEnd, messageStreamStart] at held
  · simp only [fieldsMessage, senderFields, messageQuoteUpdate, messageStreamEnd,
      messageStreamStart] at held
    obtain ⟨slot, matched, same⟩ := Option.map_eq_some_iff.mp held
    cases same
    exact liveSide_of_index matched

section Run

variable {totalPackets targetPps durationMs : Nat} {clock : Nat → Nat} {payloads : List Payload}
  (sends : SendsStream totalPackets targetPps durationMs clock payloads) {tlast : Nat → Bool}
  {input : Nat → PacketParser.Input}
  (fed : ∀ cycle,
    acceptedBeats input cycle <+: (PacketParser.streamBeats tlast payloads).flatten)
include sends fed

/-- The engine receives no message that would complete a book. -/
theorem keepsSide_messages (cycle : Nat) : KeepsSide liveSide
    (EngineWrapper.messages EngineWrapper.Params.default (packets input) cycle) := by
  cases cycle with
  | zero =>
      rw [messages_zero]
      rintro quote ⟨⟩
  | succ cycle =>
      rw [messages_succ]
      intro quote held
      obtain ⟨group, completed, message⟩ := Option.bind_eq_some_iff.mp held
      obtain ⟨index, inside, rfl⟩ := List.mem_mapIdx.mp
        (PacketParser.mem_streamBeats_of_completedAt fed completed)
      have built := sends.packet index inside
      rw [groupMessage, dif_pos (PacketParser.length_payloadBeats _ _)] at message
      split_ifs at message
      rw [PacketParser.groupPayload_payloadBeats, unpack_pack built] at message
      exact keepsSide_buildFields _ _ _ _ _ quote message

/-- So no book is ever two-sided and nothing reaches the decision stages. -/
theorem oneSided_pipe (cycle : Nat) : Pipe.OneSided liveSide (Pipe.run EngineWrapper.weights
    (EngineWrapper.messages EngineWrapper.Params.default (packets input)) cycle) :=
  Pipe.oneSided_run EngineWrapper.weights (keepsSide_messages sends fed) cycle

end Run

/-- The book of a slot holds both a bid and an ask. -/
def twoSided (state : State) (slot : Slot) : Bool :=
  state.engine.instrumentBook.bidInitializedMem slot.1 &&
    state.engine.instrumentBook.askInitializedMem slot.1

/-- The live sender quotes the instrument of a slot. -/
def Quotes (payloads : List Payload) (slot : Slot) : Prop :=
  ∃ payload ∈ payloads, (unpack payload).messageType = messageQuoteUpdate ∧
    (unpack payload).instrumentId = (PacketFilter.Ids.default.id slot).toNat

/-- A run in which every quoted instrument obtains both sides and a signal appears. -/
def DrivesDecisions (payloads : List Payload) (before : State) (held : PacketParser.Input)
    (input : Nat → PacketParser.Input) : Prop :=
  (∀ slot, Quotes payloads slot →
    ∃ cycle, twoSided (run EngineWrapper.Params.default before held input cycle) slot = true) ∧
  ∃ cycle, (EngineWrapper.output
    (run EngineWrapper.Params.default before held input cycle).engine).signalValid = true

/-- A book with one side in the pipeline has one side in the memories. -/
theorem twoSided_eq_false {state : State} {pipe : Pipe}
    (refines : EngineWrapper.Refines state.engine pipe)
    {sideOf : Slot → BitVec 8} (oneSided : Pipe.OneSided sideOf pipe) (slot : Slot) :
    twoSided state slot = false := by
  have bidHolds := refines.book.books.bid slot
  have askHolds := refines.book.books.ask slot
  rcases (oneSided.books slot).not_both with bid | ask
  · rw [bid] at bidHolds
    have empty : state.engine.instrumentBook.bidInitializedMem slot.1 = false := bidHolds
    rw [twoSided, empty, Bool.false_and]
  · rw [ask] at askHolds
    have empty : state.engine.instrumentBook.askInitializedMem slot.1 = false := askHolds
    rw [twoSided, empty, Bool.and_false]

section Run

variable {totalPackets targetPps durationMs : Nat} {clock : Nat → Nat} {payloads : List Payload}
  (sends : SendsStream totalPackets targetPps durationMs clock payloads) {tlast : Nat → Bool}
  (before : State) (held : PacketParser.Input) {input : Nat → PacketParser.Input}
  (fed : ∀ cycle,
    acceptedBeats input cycle <+: (PacketParser.streamBeats tlast payloads).flatten)
include sends fed

/-- No book is two-sided and no signal is shown in any cycle. -/
theorem idle_run (cycle : Nat) :
    (∀ slot, twoSided (run EngineWrapper.Params.default before held input cycle) slot = false) ∧
    (EngineWrapper.output
      (run EngineWrapper.Params.default before held input cycle).engine).signalValid = false := by
  have oneSided := oneSided_pipe sends fed cycle
  have refines := EngineWrapper.refines_run EngineWrapper.Params.default before.engine
    (packetPorts before.parser) (packets input) cycle
  rw [← engine_run] at refines
  refine ⟨fun slot => twoSided_eq_false refines oneSided slot, ?_⟩
  have shown := EngineWrapper.shows_signal refines
  rwa [oneSided.signal] at shown

/-- This sender drives no decision. -/
theorem not_drivesDecisions : ¬DrivesDecisions payloads before held input := by
  rintro ⟨-, cycle, signalled⟩
  rw [(idle_run sends before held fed cycle).2] at signalled
  cases signalled

end Run

/-- In no run that is fed the datagrams of the live sender does any instrument obtain
both sides, and none shows a signal. -/
theorem live_sender_never_decides {totalPackets targetPps durationMs : Nat} {clock : Nat → Nat}
    {payloads : List Payload}
    (sends : SendsStream totalPackets targetPps durationMs clock payloads) (tlast : Nat → Bool)
    (before : State) (held : PacketParser.Input) (input : Nat → PacketParser.Input)
    (fed : ∀ cycle,
      acceptedBeats input cycle <+: (PacketParser.streamBeats tlast payloads).flatten) :
    ¬DrivesDecisions payloads before held input ∧
    ∀ cycle,
      (∀ slot, twoSided (run EngineWrapper.Params.default before held input cycle) slot = false) ∧
      (EngineWrapper.output
        (run EngineWrapper.Params.default before held input cycle).engine).signalValid = false :=
  ⟨not_drivesDecisions sends before held fed, idle_run sends before held fed⟩

/-- The board before its first reset, with stale contents in every memory. -/
def powerUp : State := ⟨PacketParser.reset, EngineWrapper.stale 7#33⟩

/-- The datagrams offered back to back. -/
def backToBack (payloads : List Payload) : Nat → PacketParser.Input :=
  PacketParser.offered (PacketParser.streamBeats (fun _ => true) payloads).flatten

/-- Beats offered back to back are those of the payloads in order. -/
theorem fed_backToBack (payloads : List Payload) (cycle : Nat) :
    acceptedBeats (backToBack payloads) cycle <+:
      (PacketParser.streamBeats (fun _ => true) payloads).flatten := by
  rw [acceptedBeats, backToBack, PacketParser.acceptedBefore_offered]
  exact List.take_prefix _ _

/-- 20,000 packets per second for 20 milliseconds, on a clock that counts packets. -/
theorem sends_400 : ∃ payloads, SendsStream 400 20000 20 (fun index => index) payloads :=
  sendsStream_exists ⟨by decide, by decide, by decide⟩ fun index inside => by omega

/-- The stream of 400 packets at 20000 a second, fed back to back. -/
theorem live_sender_never_decides_400 : ∃ payloads,
    SendsStream 400 20000 20 (fun index => index) payloads ∧ ∀ cycle,
      (EngineWrapper.output (run EngineWrapper.Params.default powerUp (backToBack payloads 0)
        (backToBack payloads) cycle).engine).signalValid = false := by
  obtain ⟨payloads, sends⟩ := sends_400
  exact ⟨payloads, sends, fun cycle => ((live_sender_never_decides sends (fun _ => true) powerUp
    (backToBack payloads 0) (backToBack payloads) (fed_backToBack payloads)).2 cycle).2⟩

/-- 400 packets are all accepted in order, and neither both sides nor a signal appear. -/
theorem live_sender_drives_nothing : ∃ payloads,
    SendsStream 400 20000 20 (fun index => index) payloads ∧
    (∃ cycle, acceptedBeats (backToBack payloads) cycle =
      (PacketParser.streamBeats (fun _ => true) payloads).flatten) ∧
    ¬DrivesDecisions payloads powerUp (backToBack payloads 0) (backToBack payloads) := by
  obtain ⟨payloads, sends⟩ := sends_400
  let beats := (PacketParser.streamBeats (fun _ => true) payloads).flatten
  have all : acceptedBeats (backToBack payloads) beats.length = beats := by
    rw [acceptedBeats, backToBack, PacketParser.acceptedBefore_offered, List.take_length]
  exact ⟨payloads, sends, ⟨beats.length, all⟩,
    not_drivesDecisions sends _ _ (fed_backToBack payloads)⟩

end HftPipeline.Rtl.BlockDesign
