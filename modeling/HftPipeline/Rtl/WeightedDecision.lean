import Mathlib.Data.BitVec

/-!
# `weighted_decision`

Three registered stages multiply the features by their weights, add the
products, and compare the score with the threshold. All arithmetic is signed and
64 bits wide.
-/

namespace HftPipeline.Rtl.WeightedDecision

/-- The module parameters, with their declared widths. -/
structure Params where
  trendWeight : BitVec 16
  imbalanceWeight : BitVec 16
  spreadWeight : BitVec 16
  baseThreshold : BitVec 64
deriving DecidableEq

structure Input where
  featureValid : Bool
  instrumentSlot : BitVec 3
  featureTimestampNs : BitVec 64
  trend : BitVec 34
  quantityImbalance : BitVec 33
  spread : BitVec 32
deriving DecidableEq

structure State where
  trendProductS1 : BitVec 64
  imbalanceProductS1 : BitVec 64
  spreadProductS1 : BitVec 64
  validS1 : Bool
  instrumentSlotS1 : BitVec 3
  timestampS1 : BitVec 64
  directionScoreS2 : BitVec 64
  requiredScoreS2 : BitVec 64
  validS2 : Bool
  instrumentSlotS2 : BitVec 3
  timestampS2 : BitVec 64
  signalValid : Bool
  signalInstrumentSlot : BitVec 3
  signalTimestampNs : BitVec 64
  tradeSignal : BitVec 2
  directionScore : BitVec 64
  requiredScore : BitVec 64
deriving DecidableEq

def signalHold : BitVec 2 := 0b00#2
def signalBuy : BitVec 2 := 0b01#2
def signalSell : BitVec 2 := 0b10#2

/-- The registers after a cycle with `resetn` low. -/
def reset : State where
  trendProductS1 := 0#64
  imbalanceProductS1 := 0#64
  spreadProductS1 := 0#64
  validS1 := false
  instrumentSlotS1 := 0#3
  timestampS1 := 0#64
  directionScoreS2 := 0#64
  requiredScoreS2 := 0#64
  validS2 := false
  instrumentSlotS2 := 0#3
  timestampS2 := 0#64
  signalValid := false
  signalInstrumentSlot := 0#3
  signalTimestampNs := 0#64
  tradeSignal := signalHold
  directionScore := 0#64
  requiredScore := 0#64

/-- The comparison of stage 3. -/
def decide3 (valid : Bool) (directionScore requiredScore : BitVec 64) : BitVec 2 :=
  if valid then
    if requiredScore.slt directionScore then signalBuy
    else if directionScore.slt (-requiredScore) then signalSell
    else signalHold
  else
    signalHold

/-- The clocked block. -/
def next (params : Params) (resetn : Bool) (state : State) (input : Input) : State :=
  if resetn then
    { trendProductS1 := input.trend.signExtend 64 * params.trendWeight.signExtend 64
      imbalanceProductS1 :=
        input.quantityImbalance.signExtend 64 * params.imbalanceWeight.signExtend 64
      spreadProductS1 :=
        (0#1 ++ input.spread).signExtend 64 * (0#1 ++ params.spreadWeight).signExtend 64
      validS1 := input.featureValid
      instrumentSlotS1 := input.instrumentSlot
      timestampS1 := input.featureTimestampNs
      directionScoreS2 := state.trendProductS1 + state.imbalanceProductS1
      requiredScoreS2 := params.baseThreshold + state.spreadProductS1
      validS2 := state.validS1
      instrumentSlotS2 := state.instrumentSlotS1
      timestampS2 := state.timestampS1
      signalValid := state.validS2
      signalInstrumentSlot := state.instrumentSlotS2
      signalTimestampNs := state.timestampS2
      directionScore := state.directionScoreS2
      requiredScore := state.requiredScoreS2
      tradeSignal := decide3 state.validS2 state.directionScoreS2 state.requiredScoreS2 }
  else
    reset

end HftPipeline.Rtl.WeightedDecision
