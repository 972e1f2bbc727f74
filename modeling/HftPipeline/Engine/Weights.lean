import HftPipeline.Engine.Signals

/-!
# The weights of the decisions

The wrapper declares four weight parameters, and the constants at the instance of
`weighted_decision` stand in their place. Every decision weighs the features that
the feature engine showed three cycles earlier with these constants, whatever the
parameters are, and nothing else in the wrapper reads them.
-/

namespace HftPipeline.Rtl.EngineWrapper

open HftPipeline.Spec HftPipeline.Std

/-- A decision weighs features with the given weights and compares the two scores. -/
structure Weighs (output : Output) (feature : FeatureEngine.Feature)
    (weights : Weights) : Prop where
  direction : output.directionScore.toInt =
    weights.trend * feature.trend.toInt + weights.imbalance * feature.quantityImbalance.toInt
  required : output.requiredScore.toInt = weights.base + weights.spread * feature.spread.toNat
  signal : output.tradeSignal = signalFor output.directionScore.toInt output.requiredScore.toInt

/-- The weight parameters of the wrapper, as its users set them. -/
def Params.weights (params : Params) : Weights :=
  ⟨params.trendWeight, params.imbalanceWeight, params.spreadWeight, params.baseThreshold⟩

/-- A decision shown for carried features weighs these features. -/
theorem weighs_of_shows {feature : FeatureEngine.Feature} {features : Features}
    (carried : feature.Carries (some features)) {shown : Output}
    (showsDecision : shown.Shows (some (weights.decide features))) :
      Weighs shown feature weights := by
  obtain ⟨-, -, -, trend, imbalance, spread⟩ := carried
  obtain ⟨-, -, -, score, required, signal⟩ := showsDecision
  refine ⟨?_, ?_, ?_⟩
  · rw [score, trend, imbalance]
    rfl
  · rw [required, spread]
    rfl
  · rw [signal, bits_signal, score, required]

/-- No module reads a parameter other than the instrument IDs. -/
theorem next_eq_of_ids {params other : Params} (same : other.ids = params.ids) :
    next other = next params := by
  funext resetn state input
  simp only [next, same]

section Run

variable (params : Params) (before : State) (held : Input) (input : Nat → Input)

/-- The three stages of `weighted_decision` weigh the features of three cycles before. -/
theorem signal_three_later (cycle : Nat) :
    (Pipe.run weights (messages params input) (cycle + 3)).signal =
      (Pipe.run weights (messages params input) cycle).feature.map weights.decide := rfl

/-- Every decision has its features in the registers of three cycles before. -/
theorem weighs_run {cycle : Nat}
    (signalled : (output (run params before held input (cycle + 3))).signalValid = true) :
    (run params before held input cycle).featureEngine.featureValid = true ∧
      Weighs (output (run params before held input (cycle + 3)))
        (run params before held input cycle).featureEngine.toFeature weights := by
  have carried := (refines_run params before held input cycle).features.feature
  have shown := shows_signal (refines_run params before held input (cycle + 3))
  rw [signal_three_later] at shown
  cases feature : (Pipe.run weights (messages params input) cycle).feature with
  | none =>
      rw [feature] at shown
      exact absurd (signalled.symm.trans shown) (by decide)
  | some features =>
      rw [feature] at shown carried
      exact ⟨carried.1, weighs_of_shows carried shown⟩

end Run

/-- Whatever the weight parameters are, every decision of every run after reset is
`4 * trend + imbalance` against `100 + 2 * spread`, for the features that the feature
engine showed three cycles before. Two wrappers for the same instruments show the same
outputs in every cycle. -/
theorem weights_are_constants (params : Params) (before : State) (held : Input)
    (input : Nat → Input) (cycle : Nat) :
    (cycle < 3 → (output (run params before held input cycle)).signalValid = false) ∧
      ((output (run params before held input (cycle + 3))).signalValid = true →
        (run params before held input cycle).featureEngine.featureValid = true ∧
          Weighs (output (run params before held input (cycle + 3)))
            (run params before held input cycle).featureEngine.toFeature ⟨4, 1, 2, 100⟩) ∧
      ∀ other : Params, other.ids = params.ids →
        output (run other before held input cycle) =
          output (run params before held input cycle) := by
  refine ⟨?_, ?_, ?_⟩
  · intro early
    exact silent_early params before held input (by omega)
  · intro signalled
    rw [← weights_eq]
    exact weighs_run params before held input signalled
  · intro other same
    rw [run, run, next_eq_of_ids same]

/-- The default weights with a threshold of 104. -/
def tuned : Params := { Params.default with baseThreshold := 104 }

/-- The steady stream decides in cycle 41 against `100 + 2 * spread`, not against the
threshold that the parameter sets. -/
theorem base_threshold_ignored :
    (output (run tuned (stale 7#33) (steadyPacket 1) steadyPacket 41)).signalValid = true ∧
      ¬ Weighs (output (run tuned (stale 7#33) (steadyPacket 1) steadyPacket 41))
        (run tuned (stale 7#33) (steadyPacket 1) steadyPacket 38).featureEngine.toFeature
        tuned.weights := by
  have decided : Pipe.decisionAt weights (messages tuned steadyPacket) 33 =
      some ⟨firstSlot, 33#64, 490, 102⟩ := by
    have triggered := (decisionAt_eq_some distinct_default steadyPacket 33 _).mpr
      ⟨firstSlot, steadyBid, steadyAsk, steady_triggers, rfl⟩
    rw [directionScore_steady] at triggered
    exact triggered
  have shown := shows_decisionAt tuned (stale 7#33) (steadyPacket 1) steadyPacket 33
  rw [decided] at shown
  refine ⟨shown.1, fun honoured => ?_⟩
  have signalled : (output (run tuned (stale 7#33) (steadyPacket 1) steadyPacket
    (38 + 3))).signalValid = true := shown.1
  have actual := (weighs_run tuned (stale 7#33) (steadyPacket 1) steadyPacket signalled).2
  have equal := actual.required.symm.trans honoured.required
  simp only [weights_eq, Params.weights, tuned, Params.default] at equal
  omega

end HftPipeline.Rtl.EngineWrapper
