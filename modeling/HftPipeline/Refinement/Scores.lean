import HftPipeline.Refinement.Windows
import HftPipeline.Rtl.DecisionArithmetic

/-!
# From features to decisions

The three stages of `weighted_decision` compute the weighted sums of the
decision rule exactly: no product or sum of in-range features leaves the 64-bit
registers.
-/

namespace HftPipeline.Spec.TradeSignal

open HftPipeline.Rtl

/-- The encoding of a signal on the port `trade_signal`. -/
def bits : TradeSignal → BitVec 2
  | .hold => WeightedDecision.signalHold
  | .buy => WeightedDecision.signalBuy
  | .sell => WeightedDecision.signalSell

end HftPipeline.Spec.TradeSignal

namespace HftPipeline.Rtl.WeightedDecision

open HftPipeline.Spec HftPipeline.Std.Signed

/-- The weights as integers. The spread weight is the only unsigned one. -/
def Params.weights (params : Params) : Weights where
  trend := params.trendWeight.toInt
  imbalance := params.imbalanceWeight.toInt
  spread := params.spreadWeight.toNat
  base := params.baseThreshold.toInt

/-- The base threshold leaves room for every weighted spread. -/
def Params.Moderate (params : Params) : Prop :=
  0 ≤ params.baseThreshold.toInt ∧ params.baseThreshold.toInt < 2 ^ 62

/-- A decision whose numbers are in the range of the score registers. -/
def InRange (decision : Decision) : Prop :=
  Fits 64 decision.score ∧ 0 ≤ decision.required ∧ decision.required < 2 ^ 63

/-- Stage 1 holds the products of a decision. -/
def CarriesWeighed (params : Params) (state : State) : Option Decision → Prop
  | none => state.validS1 = false
  | some decision =>
      state.validS1 = true ∧ state.instrumentSlotS1 = decision.slot.1 ∧
        state.timestampS1 = decision.timestamp ∧ InRange decision ∧
        state.trendProductS1.toInt + state.imbalanceProductS1.toInt = decision.score ∧
        params.baseThreshold.toInt + state.spreadProductS1.toInt = decision.required

/-- Stage 2 holds the scores of a decision. -/
def CarriesScored (state : State) : Option Decision → Prop
  | none => state.validS2 = false
  | some decision =>
      state.validS2 = true ∧ state.instrumentSlotS2 = decision.slot.1 ∧
        state.timestampS2 = decision.timestamp ∧ InRange decision ∧
        state.directionScoreS2.toInt = decision.score ∧
        state.requiredScoreS2.toInt = decision.required

/-- The output registers show a decision. -/
def CarriesSignal (state : State) : Option Decision → Prop
  | none => state.signalValid = false
  | some decision =>
      state.signalValid = true ∧ state.signalInstrumentSlot = decision.slot.1 ∧
        state.signalTimestampNs = decision.timestamp ∧
        state.directionScore.toInt = decision.score ∧
        state.requiredScore.toInt = decision.required ∧
        state.tradeSignal = decision.signal.bits

/-- The scores of any features that the feature ports can carry are in range. -/
theorem inRange_decide {params : Params} (moderate : params.Moderate)
    {feature : FeatureEngine.Feature} {features : Features}
    (carried : feature.Carries (some features)) : InRange (params.weights.decide features) := by
  obtain ⟨-, -, -, trend, imbalance, spread⟩ := carried
  have bounded : params.Bounded := ⟨moderate.1, moderate.2.le⟩
  have score : (params.weights.decide features).score =
      params.direction (EngineWrapper.decisionInput feature) := by
    rw [Params.direction, EngineWrapper.decisionInput, trend, imbalance]
    rfl
  have required : (params.weights.decide features).required =
      params.required (EngineWrapper.decisionInput feature) := by
    rw [Params.required, EngineWrapper.decisionInput, spread]
    rfl
  rw [InRange, score, required]
  exact ⟨fits_direction params _, required_bounds params _ bounded⟩

/-- Stage 1 computes the products of a decision. -/
theorem carriesWeighed_next {params : Params} (moderate : params.Moderate) (state : State)
    {feature : FeatureEngine.Feature} {features : Option Features}
    (carried : feature.Carries features) :
    CarriesWeighed params (next params true state (EngineWrapper.decisionInput feature))
      (features.map params.weights.decide) := by
  cases features with
  | none => exact carried
  | some features =>
      have inRange := inRange_decide moderate carried
      obtain ⟨valid, slot, timestamp, trend, imbalance, spread⟩ := carried
      refine ⟨valid, slot, timestamp, inRange, ?_, ?_⟩
      · rw [trendProductS1_next, imbalanceProductS1_next, EngineWrapper.decisionInput, trend,
          imbalance]
        rfl
      · rw [spreadProductS1_next, EngineWrapper.decisionInput, spread]
        rfl

/-- Stage 2 adds the products of stage 1. -/
theorem carriesScored_next {params : Params} {state : State} (input : Input)
    {decision : Option Decision} (weighed : CarriesWeighed params state decision) :
    CarriesScored (next params true state input) decision := by
  cases decision with
  | none => exact weighed
  | some decision =>
      obtain ⟨valid, slot, timestamp, inRange, score, required⟩ := weighed
      have requiredFits : Fits 64 decision.required := ⟨by have := inRange.2.1; omega, inRange.2.2⟩
      refine ⟨valid, slot, timestamp, inRange, ?_, ?_⟩
      · exact (toInt_add_of_fits (by decide) (score ▸ inRange.1)).trans score
      · exact (toInt_add_of_fits (by decide) (required ▸ requiredFits)).trans required

/-- Stage 3 compares the score with the threshold of both signs. -/
theorem decide3_eq {directionScore requiredScore : BitVec 64} {decision : Decision}
    (inRange : InRange decision) (score : directionScore.toInt = decision.score)
    (required : requiredScore.toInt = decision.required) :
    decide3 true directionScore requiredScore = decision.signal.bits := by
  rw [decide3_exact _ (required ▸ inRange.2.1), if_pos rfl, score, required]
  unfold Decision.signal
  split_ifs <;> rfl

theorem carriesSignal_next (params : Params) {state : State} (input : Input)
    {decision : Option Decision} (scored : CarriesScored state decision) :
    CarriesSignal (next params true state input) decision := by
  cases decision with
  | none => exact scored
  | some decision =>
      obtain ⟨valid, slot, timestamp, inRange, score, required⟩ := scored
      refine ⟨valid, slot, timestamp, score, required, ?_⟩
      simp only [next, if_true, valid]
      exact decide3_eq inRange score required

/-- The decision registers show the last three stages of the pipeline. -/
structure Refines (params : Params) (state : State) (pipe : Pipe) : Prop where
  weighed : CarriesWeighed params state pipe.weighed
  scored : CarriesScored state pipe.scored
  signal : CarriesSignal state pipe.signal

theorem Refines.reset (params : Params) : Refines params reset Pipe.initial := ⟨rfl, rfl, rfl⟩

theorem Refines.next {params : Params} (moderate : params.Moderate)
    {features : FeatureEngine.State} {state : State} {pipe : Pipe}
    (refines : Refines params state pipe) (feeds : FeatureEngine.Refines features pipe)
    (message : Option Message) :
    Refines params (next params true state (EngineWrapper.decisionInput features.toFeature))
      (pipe.next params.weights message) where
  weighed := carriesWeighed_next moderate state feeds.feature
  scored := carriesScored_next _ refines.weighed
  signal := carriesSignal_next params _ refines.scored

end HftPipeline.Rtl.WeightedDecision
