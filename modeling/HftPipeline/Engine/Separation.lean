import HftPipeline.Engine.Signals
import HftPipeline.Spec.Separation

/-!
# The signals of an instrument depend on its own quotes only

The two runs may differ in everything that the quotes of other instruments say
apart from their sequence numbers.
-/

namespace HftPipeline.Rtl.EngineWrapper

open HftPipeline.Spec HftPipeline.Std

/-- Two inputs that differ at most in the side, the price, the quantity and the
time of a packet of another instrument. -/
structure SameFor (params : Params) (slot : Slot) (left right : Input) : Prop where
  packetValid : left.packetValid = right.packetValid
  packetError : left.packetError = right.packetError
  messageType : left.messageType = right.messageType
  seq : left.seq = right.seq
  instrumentId : left.instrumentId = right.instrumentId
  own : left.instrumentId = params.ids.id slot → left.side = right.side ∧
    left.priceTicks = right.priceTicks ∧ left.qntity = right.qntity ∧
    left.timestampNs = right.timestampNs

variable {params : Params} {slot : Slot}

theorem SameFor.message {left right : Input} (same : SameFor params slot left right) :
    AgreeOnMessage slot (left.message params.ids) (right.message params.ids) := by
  have accepted : left.accepted = right.accepted := by
    rw [PacketFilter.Input.accepted, PacketFilter.Input.accepted, same.packetValid,
      same.packetError]
  unfold PacketFilter.Input.message
  rw [accepted, same.messageType, same.instrumentId]
  split_ifs
  · exact rfl
  · exact rfl
  · cases matched : params.ids.slotOf right.instrumentId with
    | none => trivial
    | some found =>
        refine ⟨rfl, same.seq, fun own => ?_⟩
        obtain rfl : found = slot := own
        obtain ⟨side, price, quantity, timestamp⟩ :=
          same.own (same.instrumentId.trans (PacketFilter.Ids.id_of_slotOf matched))
        simp [PacketFilter.Input.quote, side, same.seq, timestamp, price, quantity]
  · trivial
  · trivial

/-- The output ports show one decision only. -/
theorem Output.Shows.eq {left right : Output} {decision : Decision}
    (leftShows : left.Shows (some decision)) (rightShows : right.Shows (some decision)) :
    left = right := by
  obtain ⟨leftValid, leftSlot, leftTimestamp, leftScore, leftRequired, leftSignal⟩ := leftShows
  obtain ⟨rightValid, rightSlot, rightTimestamp, rightScore, rightRequired, rightSignal⟩ :=
    rightShows
  have score : left.directionScore = right.directionScore :=
    BitVec.eq_of_toInt_eq (leftScore.trans rightScore.symm)
  have required : left.requiredScore = right.requiredScore :=
    BitVec.eq_of_toInt_eq (leftRequired.trans rightRequired.symm)
  cases left
  cases right
  simp_all

/-- What one run signals for the instrument, the other run signals as well. -/
theorem signals_transfer {left right : Nat → Input}
    (same : ∀ n, SameFor params slot (left n) (right n)) (leftBefore rightBefore : State)
    (leftHeld rightHeld : Input) (cycle : Nat)
    (signalled : (output (run params leftBefore leftHeld left cycle)).signalValid = true)
    (own : (output (run params leftBefore leftHeld left cycle)).signalInstrumentSlot = slot.1) :
    output (run params rightBefore rightHeld right cycle) =
      output (run params leftBefore leftHeld left cycle) := by
  by_cases early : cycle < 8
  · rw [silent_early params leftBefore leftHeld left early] at signalled
    cases signalled
  · obtain ⟨quoted, rfl⟩ : ∃ quoted, cycle = quoted + 8 := ⟨cycle - 8, by omega⟩
    have leftShows := shows_decisionAt params leftBefore leftHeld left quoted
    have rightShows := shows_decisionAt params rightBefore rightHeld right quoted
    cases decided : Pipe.decisionAt weights (messages params left) quoted with
    | none =>
        rw [decided] at leftShows
        rw [leftShows] at signalled
        cases signalled
    | some decision =>
        rw [decided] at leftShows
        have about : decision.slot = slot := Subtype.ext (leftShows.2.1.symm.trans own)
        have agreed : Pipe.decisionAt weights (messages params right) quoted = some decision :=
          decisionAt_agrees (fun n => (same n).message) weights quoted about decided
        rw [agreed] at rightShows
        exact rightShows.eq leftShows

theorem SameFor.symm {left right : Input} (same : SameFor params slot left right) :
    SameFor params slot right left where
  packetValid := same.packetValid.symm
  packetError := same.packetError.symm
  messageType := same.messageType.symm
  seq := same.seq.symm
  instrumentId := same.instrumentId.symm
  own matched := by
    obtain ⟨side, price, quantity, timestamp⟩ := same.own (same.instrumentId.trans matched)
    exact ⟨side.symm, price.symm, quantity.symm, timestamp.symm⟩

/-- Two runs from reset that agree on one instrument signal for it in the same
cycles and show the same outputs there. -/
theorem signals_separate (params : Params) (slot : Slot) (leftBefore rightBefore : State)
    (leftHeld rightHeld : Input) (left right : Nat → Input)
    (same : ∀ n, SameFor params slot (left n) (right n)) (cycle : Nat) :
    let leftOutput := output (run params leftBefore leftHeld left cycle)
    let rightOutput := output (run params rightBefore rightHeld right cycle)
    (leftOutput.signalValid = true ∧ leftOutput.signalInstrumentSlot = slot.1 ↔
      rightOutput.signalValid = true ∧ rightOutput.signalInstrumentSlot = slot.1) ∧
    (leftOutput.signalValid = true ∧ leftOutput.signalInstrumentSlot = slot.1 →
      leftOutput = rightOutput) := by
  intro leftOutput rightOutput
  constructor
  · constructor
    · rintro ⟨signalled, own⟩
      have equal := signals_transfer same leftBefore rightBefore leftHeld rightHeld cycle
        signalled own
      exact ⟨(congrArg Output.signalValid equal).trans signalled,
        (congrArg Output.signalInstrumentSlot equal).trans own⟩
    · rintro ⟨signalled, own⟩
      have equal := signals_transfer (fun n => (same n).symm) rightBefore leftBefore rightHeld
        leftHeld cycle signalled own
      exact ⟨(congrArg Output.signalValid equal).trans signalled,
        (congrArg Output.signalInstrumentSlot equal).trans own⟩
  · rintro ⟨signalled, own⟩
    exact (signals_transfer same leftBefore rightBefore leftHeld rightHeld cycle signalled
      own).symm

/-- The steady stream for instrument 1 and, in every third cycle, a quote of
instrument 2 with some price. -/
def interleaved (price : BitVec 32) (cycle : Nat) : Input :=
  if cycle % 3 = 2 then { steadyPacket cycle with instrumentId := 2#32, priceTicks := price }
  else steadyPacket cycle

theorem sameFor_interleaved (first second : BitVec 32) (cycle : Nat) :
    SameFor Params.default firstSlot (interleaved first cycle) (interleaved second cycle) := by
  have other : ¬2#32 = Params.default.ids.id firstSlot := by decide
  unfold interleaved
  split_ifs
  · exact ⟨rfl, rfl, rfl, rfl, rfl, fun own => absurd own other⟩
  · exact ⟨rfl, rfl, rfl, rfl, rfl, fun _ => ⟨rfl, rfl, rfl, rfl⟩⟩

/-- The quote of cycle 51 is decided on. -/
theorem decisionAt_interleaved :
    Pipe.decisionAt weights (messages Params.default (interleaved 7#32)) 51 =
      some ⟨firstSlot, 51#64, 490, 102⟩ := by
  decide +kernel

set_option maxRecDepth 1024 in
/-- Both boards signal for instrument 1 in cycle 59, and the prices of instrument 2 do not
reach what they show. -/
theorem signals_separate_interleaved :
    let left := output (run Params.default (stale 5#33) (steadyPacket 1) (interleaved 7#32) 59)
    let right := output (run Params.default (stale 9#33) (steadyPacket 1) (interleaved 8#32) 59)
    (left.signalValid = true ∧ left.signalInstrumentSlot = firstSlot.1) ∧
      (right.signalValid = true ∧ right.signalInstrumentSlot = firstSlot.1) ∧ left = right := by
  intro left right
  have shown : left.Shows (some ⟨firstSlot, 51#64, 490, 102⟩) := by
    rw [← decisionAt_interleaved]
    exact shows_decisionAt Params.default (stale 5#33) (steadyPacket 1) (interleaved 7#32) 51
  have signalled : left.signalValid = true ∧ left.signalInstrumentSlot = firstSlot.1 :=
    ⟨shown.1, shown.2.1⟩
  obtain ⟨together, equal⟩ := signals_separate Params.default firstSlot (stale 5#33) (stale 9#33)
    (steadyPacket 1) (steadyPacket 1) (interleaved 7#32) (interleaved 8#32)
    (sameFor_interleaved 7#32 8#32) 59
  exact ⟨signalled, together.mp signalled, equal signalled⟩

end HftPipeline.Rtl.EngineWrapper
