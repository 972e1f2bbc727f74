import HftPipeline.Rtl.SlotArray

/-!
# `hft_feature_engine`

Every accepted book update adds one midpoint sample to the windows of its
instrument; once 32 samples exist, each one yields the three features. The
per-instrument arrays of the source are the fields of `Lane`, so `fast_sum[slot]`
is `(lanes slot).fastSum`.
-/

namespace HftPipeline.Rtl.FeatureEngine

structure Input where
  streamStartPulse : Bool
  streamEndPulse : Bool
  bookUpdateValid : Bool
  bookInstrumentSlot : BitVec 3
  bookTimestampNs : BitVec 64
  bookBidPrice : BitVec 32
  bookBidQuantity : BitVec 32
  bookAskPrice : BitVec 32
  bookAskQuantity : BitVec 32
  bookValid : Bool
  crossedBook : Bool

/-- `feature_state_t`, with the encoding `2'b11` that the two-bit register can
hold but the typedef does not name. -/
inductive FeatureState where
  | warmupFast
  | warmupSlow
  | featureReady
  | unnamed
deriving DecidableEq

/-- The state of one instrument. -/
structure Lane where
  fastBuffer : BitVec 3 → BitVec 33
  fastPointer : BitVec 3
  fastSum : BitVec 36
  slowBuffer : BitVec 5 → BitVec 33
  slowPointer : BitVec 5
  slowSum : BitVec 38
  sampleCount : BitVec 6
  currentState : FeatureState

/-- The registered outputs. -/
structure Feature where
  featureValid : Bool
  featureInstrumentSlot : BitVec 3
  featureTimestampNs : BitVec 64
  trend : BitVec 34
  quantityImbalance : BitVec 33
  spread : BitVec 32
deriving DecidableEq

structure State extends Feature where
  lanes : SlotArray Lane
  calculationValidS1 : Bool
  instrumentSlotS1 : BitVec 3
  timestampS1 : BitVec 64
  quantityImbalanceS1 : BitVec 33
  spreadS1 : BitVec 32

/-- `process_book_update`. -/
def Input.processBookUpdate (input : Input) : Bool :=
  input.bookUpdateValid && input.bookValid && !input.crossedBook &&
    decide (input.bookInstrumentSlot < 5#3)

/-- `midpoint2`. -/
def Input.midpoint2 (input : Input) : BitVec 33 :=
  (0#1 ++ input.bookBidPrice) + (0#1 ++ input.bookAskPrice)

/-- The assignments to one instrument in reset and in the `stream_start_pulse`
branch. The buffers are not cleared. -/
def Lane.clear (lane : Lane) : Lane :=
  { lane with
    fastSum := 0#36
    slowSum := 0#38
    fastPointer := 0#3
    slowPointer := 0#5
    sampleCount := 0#6
    currentState := .warmupFast }

/-- `next_state` of the selected instrument under `process_book_update`. -/
def Lane.nextState (lane : Lane) : FeatureState :=
  match lane.currentState with
  | .warmupFast => if lane.sampleCount = 7#6 then .warmupSlow else .warmupFast
  | .warmupSlow => if lane.sampleCount = 31#6 then .featureReady else .warmupSlow
  | .featureReady => .featureReady
  | .unnamed => .warmupFast

/-- The buffer writes and pointer increments shared by the three named states. -/
def Lane.store (lane : Lane) (midpoint2 : BitVec 33) : Lane :=
  { lane with
    fastBuffer := Function.update lane.fastBuffer lane.fastPointer midpoint2
    slowBuffer := Function.update lane.slowBuffer lane.slowPointer midpoint2
    fastPointer := lane.fastPointer + 1#3
    slowPointer := lane.slowPointer + 1#5 }

/-- `fast_sum[slot] - fast_buffer[slot][fast_pointer[slot]] + midpoint2`. -/
def Lane.rolledFast (lane : Lane) (midpoint2 : BitVec 33) : BitVec 36 :=
  lane.fastSum - (lane.fastBuffer lane.fastPointer).setWidth 36 + midpoint2.setWidth 36

/-- `slow_sum[slot] - slow_buffer[slot][slow_pointer[slot]] + midpoint2`. -/
def Lane.rolledSlow (lane : Lane) (midpoint2 : BitVec 33) : BitVec 38 :=
  lane.slowSum - (lane.slowBuffer lane.slowPointer).setWidth 38 + midpoint2.setWidth 38

/-- The datapath of the selected instrument, without its state register. -/
def Lane.datapath (lane : Lane) (midpoint2 : BitVec 33) : Lane :=
  match lane.currentState with
  | .warmupFast =>
      { lane.store midpoint2 with
        fastSum := lane.fastSum + midpoint2.setWidth 36
        slowSum := lane.slowSum + midpoint2.setWidth 38
        sampleCount := lane.sampleCount + 1#6 }
  | .warmupSlow =>
      { lane.store midpoint2 with
        fastSum := lane.rolledFast midpoint2
        slowSum := lane.slowSum + midpoint2.setWidth 38
        sampleCount := lane.sampleCount + 1#6 }
  | .featureReady =>
      { lane.store midpoint2 with
        fastSum := lane.rolledFast midpoint2
        slowSum := lane.rolledSlow midpoint2
        sampleCount := 32#6 }
  | .unnamed =>
      { lane with
        fastSum := 0#36
        slowSum := 0#38
        fastPointer := 0#3
        slowPointer := 0#5
        sampleCount := 0#6 }

/-- The value assigned to `calculation_valid_s1` for an accepted update. -/
def Lane.calculates (lane : Lane) : Bool :=
  match lane.currentState with
  | .warmupFast => false
  | .warmupSlow => lane.sampleCount = 31#6
  | .featureReady => true
  | .unnamed => false

/-- The selected instrument after an accepted update. -/
def Lane.advance (lane : Lane) (midpoint2 : BitVec 33) : Lane :=
  { lane.datapath midpoint2 with currentState := lane.nextState }

/-- The trend that stage 2 reads from the registered sums of one instrument. -/
def Lane.trend (lane : Lane) : BitVec 34 :=
  (0#1 ++ lane.fastSum.extractLsb' 3 33) - (0#1 ++ lane.slowSum.extractLsb' 5 33)

/-- The output registers after reset and after `stream_start_pulse`. -/
def Feature.zero : Feature where
  featureValid := false
  featureInstrumentSlot := 0#3
  featureTimestampNs := 0#64
  trend := 0#34
  quantityImbalance := 0#33
  spread := 0#32

/-- Reset and `stream_start_pulse` make the same assignments. -/
def clearStream (state : State) : State where
  toFeature := Feature.zero
  lanes := fun slot => if slot < 5#3 then (state.lanes slot).clear else state.lanes slot
  calculationValidS1 := false
  instrumentSlotS1 := 0#3
  timestampS1 := 0#64
  quantityImbalanceS1 := 0#33
  spreadS1 := 0#32

/-- Stage 2: the outputs read the registers of stage 1. -/
def stage2 (state : State) : Feature :=
  if state.calculationValidS1 then
    { featureValid := true
      featureInstrumentSlot := state.instrumentSlotS1
      featureTimestampNs := state.timestampS1
      trend := (state.lanes state.instrumentSlotS1).trend
      quantityImbalance := state.quantityImbalanceS1
      spread := state.spreadS1 }
  else
    { state.toFeature with featureValid := false }

/-- The clocked block. -/
def next (resetn : Bool) (state : State) (input : Input) : State :=
  if resetn then
    if input.streamStartPulse then
      clearStream state
    else if input.streamEndPulse then
      { state with calculationValidS1 := false, featureValid := false }
    else if input.processBookUpdate then
      let slot := input.bookInstrumentSlot
      { toFeature := stage2 state
        lanes := state.lanes.write slot ((state.lanes slot).advance input.midpoint2)
        calculationValidS1 := (state.lanes slot).calculates
        instrumentSlotS1 := slot
        timestampS1 := input.bookTimestampNs
        quantityImbalanceS1 := (0#1 ++ input.bookBidQuantity) - (0#1 ++ input.bookAskQuantity)
        spreadS1 := input.bookAskPrice - input.bookBidPrice }
    else
      { state with toFeature := stage2 state, calculationValidS1 := false }
  else
    clearStream state

end HftPipeline.Rtl.FeatureEngine
