import HftPipeline.Engine.Signals

/-!
# A start isolates a stream from everything before it

Two engines in any states whatsoever that accept the same start and then receive
the same inputs show the same outputs. From two cycles after the start their
front modules refine the same pipeline, and the feature registers, which feed the
decision stages even while they are not valid, are equal.
-/

namespace HftPipeline.Rtl.EngineWrapper

open HftPipeline.Spec HftPipeline.Std

/-- Two engines that no later input can tell apart at the feature ports. -/
def Indistinguishable (left right : State) : Prop :=
  (∃ pipe, RefinesFront left pipe ∧ RefinesFront right pipe) ∧
    left.featureEngine.toFeature = right.featureEngine.toFeature

/-- The features that stage 2 loads are a function of the pipeline. -/
theorem stage2_eq {left right : FeatureEngine.State} {pipe : Pipe}
    (leftRefines : FeatureEngine.Refines left pipe)
    (rightRefines : FeatureEngine.Refines right pipe)
    (same : left.toFeature = right.toFeature) :
    FeatureEngine.stage2 left = FeatureEngine.stage2 right := by
  have leftDue := leftRefines.pending
  have rightDue := rightRefines.pending
  unfold FeatureEngine.stage2
  cases pending : pipe.pending with
  | none =>
      rw [pending] at leftDue rightDue
      have leftSilent : left.calculationValidS1 = false := leftDue
      have rightSilent : right.calculationValidS1 = false := rightDue
      simp [leftSilent, rightSilent, same]
  | some sample =>
      rw [pending] at leftDue rightDue
      obtain ⟨leftValid, leftSlot, leftTimestamp, leftImbalance, leftSpread⟩ := leftDue
      obtain ⟨rightValid, rightSlot, rightTimestamp, rightImbalance, rightSpread⟩ := rightDue
      have trend : (left.lanes sample.slot.1).trend = (right.lanes sample.slot.1).trend := by
        apply BitVec.eq_of_toInt_eq
        rw [(leftRefines.history sample.slot).trend, (rightRefines.history sample.slot).trend]
      have imbalance : left.quantityImbalanceS1 = right.quantityImbalanceS1 :=
        BitVec.eq_of_toInt_eq (leftImbalance.trans rightImbalance.symm)
      have spread : left.spreadS1 = right.spreadS1 := by
        apply BitVec.eq_of_toNat_eq
        exact_mod_cast leftSpread.trans rightSpread.symm
      simp [leftValid, rightValid, leftSlot, rightSlot, leftTimestamp, rightTimestamp, trend,
        imbalance, spread]

/-- The feature registers stay equal, because the pulses and the accepted updates
of both engines are those of one pipeline. -/
theorem toFeature_next_eq {left right : State} {pipe : Pipe} (leftRefines : RefinesFront left pipe)
    (rightRefines : RefinesFront right pipe)
    (same : left.featureEngine.toFeature = right.featureEngine.toFeature) (params : Params)
    (input : Input) : (next params true left input).featureEngine.toFeature =
      (next params true right input).featureEngine.toFeature := by
  have loads := stage2_eq leftRefines.features rightRefines.features same
  have leftPulse := leftRefines.filter.pulse
  have rightPulse := rightRefines.filter.pulse
  simp only [next, FeatureEngine.next, featureInput, if_true]
  rcases pulse : pipe.pulse with _ | _ | _
  · rw [pulse] at leftPulse rightPulse
    simp only [leftPulse.1, leftPulse.2, rightPulse.1, rightPulse.2, Bool.false_eq_true, if_false]
    split_ifs <;> exact loads
  · rw [pulse] at leftPulse rightPulse
    simp only [leftPulse.1, rightPulse.1, if_true]
    rfl
  · rw [pulse] at leftPulse rightPulse
    simp only [leftPulse.1, leftPulse.2, rightPulse.1, rightPulse.2, Bool.false_eq_true, if_false,
      if_true]
    rw [same]

theorem Indistinguishable.next {left right : State} (same : Indistinguishable left right)
    (params : Params) (input : Input) :
    Indistinguishable (next params true left input) (next params true right input) := by
  obtain ⟨⟨pipe, leftRefines, rightRefines⟩, features⟩ := same
  exact ⟨⟨_, leftRefines.next params input, rightRefines.next params input⟩,
    toFeature_next_eq leftRefines rightRefines features params input⟩

/-- The pipeline one cycle after a start, as the filter shows it. -/
def startedPipe : Pipe := { Pipe.initial with active := true, pulse := some .start }

theorem refines_startedPipe (params : Params) (state : State) {input : Input}
    (accepted : input.packetValid = true ∧ input.packetError = false)
    (started : input.messageType = PacketFilter.messageStreamStart) :
    PacketFilter.Refines (next params true state input).packetFilter startedPipe := by
  simp only [next, PacketFilter.next, accepted.1, accepted.2, started, if_true, Bool.not_false,
    Bool.and_self]
  exact ⟨rfl, ⟨rfl, rfl⟩, rfl⟩

/-- In the cycle after a start, everything behind the filter is cleared. -/
theorem refinesFront_start {state : State}
    (filter : PacketFilter.Refines state.packetFilter startedPipe) (params : Params)
    (input : Input) :
    RefinesFront (next params true state input)
        (startedPipe.next weights (input.message params.ids)) ∧
      (next params true state input).featureEngine.toFeature = FeatureEngine.Feature.zero := by
  obtain ⟨features, cleared⟩ := FeatureEngine.Refines.start filter rfl
    state.instrumentBook.toSnapshot state.featureEngine weights (input.message params.ids)
  exact ⟨⟨filter.next params.ids weights input, SequenceTracker.Refines.start filter rfl _ _ _,
    InstrumentBook.Refines.start filter rfl _ _ _ _, features⟩, cleared⟩

/-- Two engines are indistinguishable two cycles after they accept the same start. -/
theorem indistinguishable_of_start (params : Params) (left right : State) {first : Input}
    (accepted : first.packetValid = true ∧ first.packetError = false)
    (started : first.messageType = PacketFilter.messageStreamStart) (second : Input) :
    Indistinguishable (next params true (next params true left first) second)
      (next params true (next params true right first) second) := by
  obtain ⟨leftRefines, leftCleared⟩ :=
    refinesFront_start (refines_startedPipe params left accepted started) params second
  obtain ⟨rightRefines, rightCleared⟩ :=
    refinesFront_start (refines_startedPipe params right accepted started) params second
  exact ⟨⟨_, leftRefines, rightRefines⟩, leftCleared.trans rightCleared.symm⟩

/-- The outputs are a function of the feature registers three cycles earlier. -/
theorem output_eq_of_features {left right : State}
    (same : left.featureEngine.toFeature = right.featureEngine.toFeature) (params : Params)
    (first second third : Input) :
    output (next params true (next params true (next params true left first) second) third) =
      output (next params true (next params true (next params true right first) second) third) := by
  simp only [output, next, WeightedDecision.next, if_true, same]

/-- Two engines in any states that accept the same start and then receive the same
inputs show the same six outputs from the fifth cycle on. -/
theorem outputs_agree_after_start (params : Params) (left right : State) (input : Nat → Input)
    (accepted : (input 0).packetValid = true ∧ (input 0).packetError = false)
    (started : (input 0).messageType = PacketFilter.messageStreamStart) (cycle : Nat)
    (late : 5 ≤ cycle) :
    output (Clocked.stateAt (next params true) left input cycle) =
      output (Clocked.stateAt (next params true) right input cycle) := by
  obtain ⟨after, rfl⟩ : ∃ after, cycle = 2 + after + 3 := ⟨cycle - 5, by omega⟩
  have same : Indistinguishable (Clocked.stateAt (next params true) left input (2 + after))
      (Clocked.stateAt (next params true) right input (2 + after)) := by
    rw [Clocked.stateAt_add, Clocked.stateAt_add]
    apply Clocked.simulates Indistinguishable Eq
    · exact indistinguishable_of_start params left right accepted started (input 1)
    · rintro left right input _ same rfl
      exact same.next params input
    · exact fun _ => rfl
  exact output_eq_of_features same.2 params _ _ _

/-- Two engines with different stale contents agree from the start of the steady stream. -/
theorem outputs_agree_after_start_stale :
    output (Clocked.stateAt (next Params.default true) (stale 5#33) steadyPacket 41) =
      output (Clocked.stateAt (next Params.default true) (stale 9#33) steadyPacket 41) :=
  outputs_agree_after_start Params.default (stale 5#33) (stale 9#33) steadyPacket ⟨rfl, rfl⟩ rfl 41
    (by decide)

end HftPipeline.Rtl.EngineWrapper
