import HftPipeline.Rtl.WeightedDecision
import HftPipeline.Std.Clocked
import HftPipeline.Std.Signed

/-!
# The arithmetic of the decision pipeline

Whatever the registers held before, every cycle shows the decision on the inputs of
three cycles earlier. No product or sum leaves its 64 bits, so that the scores are
those of the integers, and the comparison has the symmetries of the integers.
-/

namespace HftPipeline.Rtl.WeightedDecision

open HftPipeline.Std HftPipeline.Std.Signed

/-- The threshold is not negative and leaves room for every weighted spread. -/
structure Params.Bounded (params : Params) : Prop where
  nonneg : 0 ≤ params.baseThreshold.toInt
  room : params.baseThreshold.toInt ≤ 2 ^ 62

/-- The weighted direction of the inputs, as an integer. -/
def Params.direction (params : Params) (input : Input) : Int :=
  params.trendWeight.toInt * input.trend.toInt +
    params.imbalanceWeight.toInt * input.quantityImbalance.toInt

/-- What the direction is compared with, as an integer. -/
def Params.required (params : Params) (input : Input) : Int :=
  params.baseThreshold.toInt + params.spreadWeight.toNat * input.spread.toNat

/-! The three products of stage 1 are exact for all inputs. -/

/-- The first stage holds the exact product of the trend. -/
theorem trendProductS1_next (params : Params) (state : State) (input : Input) :
    (next params true state input).trendProductS1.toInt =
      params.trendWeight.toInt * input.trend.toInt := by
  rw [mul_comm]
  exact toInt_signExtend_mul _ _ (by decide) (by decide) (by decide)

/-- The first stage holds the exact product of the imbalance. -/
theorem imbalanceProductS1_next (params : Params) (state : State) (input : Input) :
    (next params true state input).imbalanceProductS1.toInt =
      params.imbalanceWeight.toInt * input.quantityImbalance.toInt := by
  rw [mul_comm]
  exact toInt_signExtend_mul _ _ (by decide) (by decide) (by decide)

/-- The first stage holds the exact product of the spread. -/
theorem spreadProductS1_next (params : Params) (state : State) (input : Input) :
    (next params true state input).spreadProductS1.toInt =
      params.spreadWeight.toNat * input.spread.toNat := by
  refine (toInt_signExtend_mul _ _ (by decide) (by decide) (by decide)).trans ?_
  rw [toInt_zero_append, toInt_zero_append, mul_comm]

section Bounds

variable (params : Params) (input : Input)

/-- The direction score fits its 64 signed bits. -/
theorem fits_direction : Fits 64 (params.direction input) := by
  have trend := Int.natAbs_mul params.trendWeight.toInt input.trend.toInt ▸
    Nat.mul_le_mul (natAbs_toInt_le params.trendWeight) (natAbs_toInt_le input.trend)
  have imbalance :=
    Int.natAbs_mul params.imbalanceWeight.toInt input.quantityImbalance.toInt ▸
      Nat.mul_le_mul (natAbs_toInt_le params.imbalanceWeight)
        (natAbs_toInt_le input.quantityImbalance)
  unfold Fits Params.direction
  omega

/-- The required score is not negative in its 64 bits, so that it can be negated. -/
theorem required_bounds (bounded : params.Bounded) :
    0 ≤ params.required input ∧ params.required input < 2 ^ 63 := by
  have spread : params.spreadWeight.toNat * input.spread.toNat ≤ 2 ^ 16 * 2 ^ 32 :=
    Nat.mul_le_mul params.spreadWeight.isLt.le input.spread.isLt.le
  obtain ⟨nonneg, room⟩ := bounded
  unfold Params.required
  zify at spread
  constructor
  · exact add_nonneg nonneg (mul_nonneg (Int.natCast_nonneg _) (Int.natCast_nonneg _))
  · omega

end Bounds

/-- Stage 3 compares the scores as integers, in both directions. -/
theorem decide3_exact (valid : Bool) {direction required : BitVec 64}
    (nonneg : 0 ≤ required.toInt) : decide3 valid direction required =
      if valid then
        if required.toInt < direction.toInt then signalBuy
        else if direction.toInt < -required.toInt then signalSell
        else signalHold
      else signalHold := by
  have negated : (-required).toInt = -required.toInt := by
    apply toInt_neg_of_fits (by decide)
    have below : required.toInt < 2 ^ (64 - 1) := BitVec.toInt_lt
    constructor <;> omega
  simp only [decide3, BitVec.slt_iff_toInt_lt, negated]

/-- The outputs are the decision on some inputs. -/
structure Decides (params : Params) (input : Input) (state : State) : Prop where
  valid : state.signalValid = input.featureValid
  slot : state.signalInstrumentSlot = input.instrumentSlot
  timestampNs : state.signalTimestampNs = input.featureTimestampNs
  direction : state.directionScore.toInt = params.direction input
  required : state.requiredScore.toInt = params.required input
  signal : state.tradeSignal =
    if input.featureValid then
      if params.required input < params.direction input then signalBuy
      else if params.direction input < -params.required input then signalSell
      else signalHold
    else signalHold

section Run

variable (params : Params) (initial : State) (input : Nat → Input)

/-- The registers in every cycle of a run without reset. -/
def run (cycle : Nat) : State := Clocked.stateAt (next params true) initial input cycle

/-- A run goes one clock at a time. -/
theorem run_succ (cycle : Nat) :
    run params initial input (cycle + 1) =
      next params true (run params initial input cycle) (input cycle) :=
  Clocked.stateAt_succ _ _ _ _

/-- Three stages carry the inputs of a cycle to the outputs. -/
theorem decides_run {params : Params} (bounded : params.Bounded) (cycle : Nat) :
    Decides params (input cycle) (run params initial input (cycle + 3)) := by
  rw [run_succ, run_succ, run_succ]
  generalize run params initial input cycle = state
  obtain ⟨nonneg, small⟩ := required_bounds params (input cycle) bounded
  have direction : (next params true (next params true state (input cycle))
      (input (cycle + 1))).directionScoreS2.toInt = params.direction (input cycle) := by
    have exact := congrArg₂ (· + ·) (trendProductS1_next params state (input cycle))
      (imbalanceProductS1_next params state (input cycle))
    refine (toInt_add_of_fits (by decide) ?_).trans exact
    rw [show _ + _ = _ from exact]
    exact fits_direction params (input cycle)
  have required : (next params true (next params true state (input cycle))
      (input (cycle + 1))).requiredScoreS2.toInt = params.required (input cycle) := by
    have exact := congrArg (params.baseThreshold.toInt + ·)
      (spreadProductS1_next params state (input cycle))
    refine (toInt_add_of_fits (by decide) ?_).trans exact
    rw [show _ + _ = _ from exact]
    constructor <;> unfold Params.required at nonneg small <;> omega
  refine ⟨rfl, rfl, rfl, direction, required, ?_⟩
  refine (decide3_exact _ ?_).trans ?_
  · rw [required]
    exact nonneg
  · rw [required, direction]
    rfl

end Run

/-- The same features with the opposite trend and imbalance. -/
structure Input.Mirrors (mirrored input : Input) : Prop where
  valid : mirrored.featureValid = input.featureValid
  trend : mirrored.trend.toInt = -input.trend.toInt
  imbalance : mirrored.quantityImbalance.toInt = -input.quantityImbalance.toInt
  spread : mirrored.spread = input.spread

/-- The same features with at least the spread. -/
structure Input.Widens (wider input : Input) : Prop where
  valid : wider.featureValid = input.featureValid
  trend : wider.trend = input.trend
  imbalance : wider.quantityImbalance = input.quantityImbalance
  spread : input.spread ≤ wider.spread

namespace Decides

variable {params : Params} {input other : Input} {state after : State}
  (decides : Decides params input state)

include decides

/-- The register holds BUY exactly when the direction exceeds what is required. -/
theorem buys_iff : state.tradeSignal = signalBuy ↔
    input.featureValid = true ∧ params.required input < params.direction input := by
  rw [decides.signal]
  split_ifs <;> simp_all [signalBuy, signalSell, signalHold]

/-- The register holds SELL exactly when the direction falls below its negation. -/
theorem sells_iff (bounded : params.Bounded) : state.tradeSignal = signalSell ↔
    input.featureValid = true ∧ params.direction input < -params.required input := by
  have nonneg := (required_bounds params input bounded).1
  rw [decides.signal]
  split_ifs with valid buys sells
  · -- A direction above the threshold is not below its negation.
    have notBelow : ¬ params.direction input < -params.required input := by omega
    simp [notBelow, signalBuy, signalSell]
  · simp [valid, sells]
  · simp [sells, signalHold, signalSell]
  · simp [valid, signalHold, signalSell]

/-- The register holds HOLD exactly when a valid direction lies between the two. -/
theorem holds_iff : state.tradeSignal = signalHold ↔
    (input.featureValid = true →
      params.direction input ≤ params.required input ∧
        -params.required input ≤ params.direction input) := by
  rw [decides.signal]
  split_ifs <;> simp_all [signalBuy, signalSell, signalHold]

/-- Mirrored features exchange the two trades. -/
theorem mirrors (bounded : params.Bounded) (opposite : Decides params other after)
    (mirrored : other.Mirrors input) :
    (after.tradeSignal = signalBuy ↔ state.tradeSignal = signalSell) ∧
      (after.tradeSignal = signalSell ↔ state.tradeSignal = signalBuy) := by
  have direction : params.direction other = -params.direction input := by
    rw [Params.direction, mirrored.trend, mirrored.imbalance, mul_neg, mul_neg, ← neg_add,
      Params.direction]
  have required : params.required other = params.required input := by
    rw [Params.required, mirrored.spread, Params.required]
  rw [opposite.buys_iff, decides.sells_iff bounded, opposite.sells_iff bounded, decides.buys_iff,
    mirrored.valid, direction, required]
  constructor
  · exact and_congr_right fun _ => lt_neg
  · exact and_congr_right fun _ => neg_lt_neg_iff

/-- A larger spread never turns a hold into a trade. -/
theorem widens (wide : Decides params other after) (wider : other.Widens input)
    (held : state.tradeSignal = signalHold) : after.tradeSignal = signalHold := by
  have direction : params.direction other = params.direction input := by
    rw [Params.direction, wider.trend, wider.imbalance, Params.direction]
  have required : params.required input ≤ params.required other := by
    have spread : input.spread.toNat ≤ other.spread.toNat := BitVec.le_def.mp wider.spread
    unfold Params.required
    exact add_le_add_right (mul_le_mul_of_nonneg_left (Int.ofNat_le.mpr spread)
      (Int.natCast_nonneg _)) _
  rw [wide.holds_iff, wider.valid, direction]
  rw [decides.holds_iff] at held
  intro valid
  obtain ⟨notAbove, notBelow⟩ := held valid
  constructor <;> omega

end Decides

/-- For every threshold up to 2^62, all weights, and any registers and inputs, features
in every cycle included: each cycle shows the decision of the integers on the inputs of
three cycles before, mirrored features exchange its two trades, which exclude each
other, and no larger spread makes a trade of a hold. -/
theorem decisions_exact {params : Params} (bounded : params.Bounded) (initial : State)
    (input : Nat → Input) (cycle : Nat) :
    let shown := run params initial input (cycle + 3)
    Decides params (input cycle) shown ∧
      (shown.tradeSignal = signalBuy ↔ (input cycle).featureValid = true ∧
        params.required (input cycle) < params.direction (input cycle)) ∧
      (shown.tradeSignal = signalSell ↔ (input cycle).featureValid = true ∧
        params.direction (input cycle) < -params.required (input cycle)) ∧
      ¬(shown.tradeSignal = signalBuy ∧ shown.tradeSignal = signalSell) ∧
      ∀ (before : State) (other : Nat → Input) (later : Nat),
        let otherShown := run params before other (later + 3)
        ((other later).Mirrors (input cycle) →
          (otherShown.tradeSignal = signalBuy ↔ shown.tradeSignal = signalSell) ∧
            (otherShown.tradeSignal = signalSell ↔ shown.tradeSignal = signalBuy)) ∧
        ((other later).Widens (input cycle) → shown.tradeSignal = signalHold →
          otherShown.tradeSignal = signalHold) := by
  have decides := decides_run initial input bounded cycle
  refine ⟨decides, decides.buys_iff, decides.sells_iff bounded, ?_, ?_⟩
  · rintro ⟨buys, sells⟩
    exact absurd (buys.symm.trans sells) (by decide)
  · intro before other later
    have others := decides_run before other bounded later
    exact ⟨decides.mirrors bounded others, decides.widens others⟩

/-- The largest weights and threshold. -/
def extremeParams : Params := ⟨0x8000#16, 0x8000#16, 0xFFFF#16, 0x4000000000000000#64⟩

/-- The features that are furthest from zero. -/
def extremeInput : Input := ⟨true, 4#3, 7#64, 0x200000000#34, 0x100000000#33, 0xFFFFFFFF#32⟩

/-- The scores of the largest weights and features, with no wrap. -/
theorem decisions_exact_extreme :
    (run extremeParams reset (fun _ => extremeInput) 3).directionScore.toInt =
        2 ^ 48 + 2 ^ 47 ∧
      (run extremeParams reset (fun _ => extremeInput) 3).requiredScore.toInt =
        2 ^ 62 + (2 ^ 16 - 1) * (2 ^ 32 - 1) := by
  have bounded : extremeParams.Bounded := ⟨by decide, by decide⟩
  have exact := (decisions_exact bounded reset (fun _ => extremeInput) 0).1
  exact ⟨exact.direction.trans (by decide), exact.required.trans (by decide)⟩

end HftPipeline.Rtl.WeightedDecision
