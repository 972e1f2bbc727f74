import HftPipeline.Refinement.Books
import HftPipeline.Rtl.FeatureLanes

/-!
# From samples to features

The lanes hold the histories of the pipeline, stage 1 carries the sample whose
features are due, and the output registers carry the features of the one before.
-/

namespace HftPipeline.Rtl.FeatureEngine

open HftPipeline.Spec HftPipeline.Std.RingWindow HftPipeline.Std.Signed

/-- The registers of stage 1 carry the sample whose features are due. -/
def CarriesPending (state : State) : Option Sample → Prop
  | none => state.calculationValidS1 = false
  | some sample =>
      state.calculationValidS1 = true ∧ state.instrumentSlotS1 = sample.slot.1 ∧
        state.timestampS1 = sample.timestamp ∧
        state.quantityImbalanceS1.toInt =
          (sample.bid.quantity.toNat : Int) - sample.ask.quantity.toNat ∧
        (state.spreadS1.toNat : Int) = sample.ask.price.toNat - sample.bid.price.toNat

/-- The output registers carry optional features. -/
def Feature.Carries (feature : Feature) : Option Features → Prop
  | none => feature.featureValid = false
  | some features =>
      feature.featureValid = true ∧ feature.featureInstrumentSlot = features.slot.1 ∧
        feature.featureTimestampNs = features.timestamp ∧
        feature.trend.toInt = features.trend ∧
        feature.quantityImbalance.toInt = features.imbalance ∧
        (feature.spread.toNat : Int) = features.spread

/-- Stage 2 shows the features of the sample in stage 1. -/
theorem carries_stage2 {state : State} {history : Slot → List Nat} {pending : Option Sample}
    (holds : HoldsHistory state history) (carried : CarriesPending state pending) :
    (stage2 state).Carries (Pipe.extract none pending history) := by
  cases pending with
  | none =>
      have silent : state.calculationValidS1 = false := carried
      simp [stage2, silent, Pipe.extract, Feature.Carries]
  | some sample =>
      obtain ⟨valid, slot, timestamp, imbalance, spread⟩ := carried
      have trend := (holds sample.slot).trend
      simp only [stage2, valid, if_true, Pipe.extract, Option.map_some]
      refine ⟨rfl, slot, timestamp, ?_, imbalance, spread⟩
      rw [slot]
      exact trend

/-- The book ports carry an optional sample. -/
def Input.Carries (input : Input) : Option Sample → Prop
  | none => input.processBookUpdate = false
  | some sample =>
      input.processBookUpdate = true ∧ input.bookInstrumentSlot = sample.slot.1 ∧
        input.bookTimestampNs = sample.timestamp ∧
        input.bookBidPrice = sample.bid.price ∧ input.bookBidQuantity = sample.bid.quantity ∧
        input.bookAskPrice = sample.ask.price ∧ input.bookAskQuantity = sample.ask.quantity

/-- The midpoint adds both prices without wrapping. -/
theorem midpoint2_toNat {input : Input} {sample : Sample} (carried : input.Carries (some sample)) :
    input.midpoint2.toNat = sample.midpoint2 := by
  obtain ⟨-, -, -, bid, -, ask, -⟩ := carried
  rw [midpoint2_eq, bid, ask]
  rfl

/-- Without a pulse the engine accepts exactly the sample at its ports. -/
theorem accepts_carried {input : Input} {sample : Option Sample} (carried : input.Carries sample)
    (pulsed : CarriesPulse input.streamStartPulse input.streamEndPulse none) :
    input.accepts = sample.isSome := by
  obtain ⟨unstarted, unstopped⟩ := pulsed
  cases sample with
  | none => simp [Input.accepts, show input.processBookUpdate = false from carried]
  | some sample => simp [Input.accepts, unstarted, unstopped, carried.1]

/-- The lanes record what the pipeline stores. -/
theorem record_carried {input : Input} {pulse : Option Control} {sample : Option Sample}
    (pulsed : CarriesPulse input.streamStartPulse input.streamEndPulse pulse)
    (carried : input.Carries sample) (history : Slot → List Nat) :
    (fun slot => input.record slot (history slot)) = Pipe.storeHistory pulse sample history := by
  funext other
  rcases pulse with _ | _ | _
  · have accepts := accepts_carried carried pulsed
    cases sample with
    | none => simp [Input.record, pulsed.1, accepts, Pipe.storeHistory]
    | some sample =>
        have midpoint := midpoint2_toNat carried
        rw [midpoint2_eq] at midpoint
        rw [Option.isSome_some] at accepts
        simp only [Input.record, pulsed.1, accepts, carried.2.1, midpoint, Pipe.storeHistory]
        by_cases same : other = sample.slot
        · simp [same]
        · have differs : ¬ sample.slot.1 = other.1 := fun equal => same (Subtype.ext equal.symm)
          simp [same, differs]
  · simp [Input.record, pulsed.1, Pipe.storeHistory]
  · simp [Input.record, Input.accepts, pulsed.1, pulsed.2, Pipe.storeHistory]

/-- One clock of the feature engine, for any pulse and sample at its ports. -/
theorem extracts {state : State} (input : Input) {pulse : Option Control}
    {sample pending : Option Sample} {history : Slot → List Nat}
    (holds : HoldsHistory state history) (due : CarriesPending state pending)
    (pulsed : CarriesPulse input.streamStartPulse input.streamEndPulse pulse)
    (carried : input.Carries sample) :
    HoldsHistory (next true state input) (Pipe.storeHistory pulse sample history) ∧
      CarriesPending (next true state input) (Pipe.calculate pulse sample history) ∧
      (next true state input).toFeature.Carries (Pipe.extract pulse pending history) := by
  have recorded := holds.next input
  rw [record_carried pulsed carried] at recorded
  refine ⟨recorded, ?_⟩
  rcases pulse with _ | _ | _
  · have shown := carries_stage2 holds due
    have accepts := accepts_carried carried pulsed
    cases sample with
    | none =>
        rw [next_of_rejected pulsed.1 pulsed.2 accepts]
        exact ⟨rfl, shown⟩
    | some sample =>
        obtain ⟨_, slot, timestamp, bid, bidQuantity, ask, askQuantity⟩ := carried
        rw [next_of_accepted accepts]
        refine ⟨?_, shown⟩
        have uncrossed := BitVec.le_def.mp sample.uncrossed
        simp only [slot, Pipe.calculate, (holds sample.slot).calculates]
        by_cases full : 32 ≤ (history sample.slot).length + 1
        · rw [Option.filter_some, decide_eq_true full, if_pos rfl]
          refine ⟨rfl, rfl, timestamp, ?_, ?_⟩
          · rw [bidQuantity, askQuantity, toInt_zero_append_sub]
          · rw [bid, ask, BitVec.toNat_sub_of_le sample.uncrossed, Nat.cast_sub uncrossed]
        · rw [Option.filter_some, decide_eq_false full, if_neg (by decide)]
          rfl
  · rw [next_of_start pulsed.1]
    exact ⟨rfl, rfl⟩
  · rw [next_of_end pulsed.1 pulsed.2]
    exact ⟨rfl, rfl⟩

/-- The feature registers show the fourth and fifth stages of the pipeline. -/
structure Refines (state : State) (pipe : Pipe) : Prop where
  history : HoldsHistory state pipe.history
  pending : CarriesPending state pipe.pending
  feature : state.toFeature.Carries pipe.feature

theorem Refines.reset (state : State) : Refines (clearStream state) Pipe.initial :=
  ⟨HoldsHistory.clear state, rfl, rfl⟩

theorem Refines.next {filter : PacketFilter.State} {book : InstrumentBook.State} {state : State}
    {pipe : Pipe} (refines : Refines state pipe) (pulses : PacketFilter.Refines filter pipe)
    (feeds : InstrumentBook.Refines book pipe) (weights : Weights) (message : Option Message) :
    Refines (next true state (EngineWrapper.featureInput filter book.toSnapshot))
      (pipe.next weights message) := by
  have carried : (EngineWrapper.featureInput filter book.toSnapshot).Carries pipe.sample := by
    have shown := feeds.sample
    revert shown
    cases pipe.sample <;> exact id
  obtain ⟨history, pending, feature⟩ :=
    extracts (EngineWrapper.featureInput filter book.toSnapshot) refines.history refines.pending
      pulses.pulse carried
  exact ⟨history, pending, feature⟩

/-- A start pulse empties the stages, whatever the registers and the buffers held. -/
theorem Refines.start {filter : PacketFilter.State} {pipe : Pipe}
    (pulses : PacketFilter.Refines filter pipe) (started : pipe.pulse = some .start)
    (book : InstrumentBook.Snapshot) (state : State) (weights : Weights)
    (message : Option Message) :
    Refines (FeatureEngine.next true state (EngineWrapper.featureInput filter book))
        (pipe.next weights message) ∧
      (FeatureEngine.next true state (EngineWrapper.featureInput filter book)).toFeature =
        Feature.zero := by
  have pulse := pulses.pulse
  rw [started] at pulse
  unfold FeatureEngine.next EngineWrapper.featureInput
  simp only [pulse.1, if_true]
  refine ⟨⟨?_, ?_, ?_⟩, rfl⟩
  · simpa [Pipe.next, started, Pipe.storeHistory] using HoldsHistory.clear state
  · simp [Pipe.next, started, Pipe.calculate, CarriesPending, clearStream]
  · simp [Pipe.next, started, Pipe.extract, Feature.Carries, clearStream, Feature.zero]

end HftPipeline.Rtl.FeatureEngine
