import Mathlib.Algebra.Order.Field.Rat
import Mathlib.Data.Nat.Cast.Order.Field
import Mathlib.Tactic.Linarith
import HftPipeline.Rtl.FeatureLanes
import HftPipeline.Std.Clocked

/-!
# The rolling windows of any run

The feature engine on its own, with arbitrary ports: every lane is an exact
function of the updates its instrument accepted since the last start pulse, and an
accepted update shows its features two cycles later, once 32 samples exist and
unless a pulse intervenes.
-/

namespace HftPipeline.Rtl.FeatureEngine

open HftPipeline.Std HftPipeline.Std.RingWindow HftPipeline.Std.Signed

/-- The samples that one instrument accepted since the last start pulse, or reset. -/
def samplesBefore (input : Nat → Input) (slot : Slot) : Nat → List Nat
  | 0 => []
  | cycle + 1 => (input cycle).record slot (samplesBefore input slot cycle)

/-- The registers in every cycle after a reset, whatever they and the buffers held. -/
def run (power : State) (input : Nat → Input) (cycle : Nat) : State :=
  Clocked.stateAt (next true) (clearStream power) input cycle

section Step

variable {state : State} {input : Input}

/-- Stage 1 calculates exactly for an accepted update that completes or rolls a window. -/
theorem calculationValidS1_next : (next true state input).calculationValidS1 =
    (input.accepts && (state.lanes input.bookInstrumentSlot).calculates) := by
  cases started : input.streamStartPulse with
  | true =>
      rw [next_of_start started]
      simp [clearStream, Input.accepts, started]
  | false =>
      cases ended : input.streamEndPulse with
      | true =>
          rw [next_of_end started ended]
          simp [Input.accepts, ended]
      | false =>
          cases accepted : input.accepts with
          | true => simp [next_of_accepted accepted]
          | false => simp [next_of_rejected started ended accepted]

/-- Stage 2 shows a feature exactly when stage 1 calculated it and no pulse intervenes. -/
theorem featureValid_next : (next true state input).featureValid =
    (state.calculationValidS1 && !input.streamStartPulse && !input.streamEndPulse) := by
  have stage : (stage2 state).featureValid = state.calculationValidS1 := by
    unfold stage2
    cases valid : state.calculationValidS1 <;> simp
  cases started : input.streamStartPulse with
  | true => simp [next_of_start started, clearStream, Feature.zero]
  | false =>
      cases ended : input.streamEndPulse with
      | true => simp [next_of_end started ended]
      | false =>
          cases accepted : input.accepts with
          | true => simp [next_of_accepted accepted, stage]
          | false => simp [next_of_rejected started ended accepted, stage]

/-- Without a pulse the outputs are those of stage 2. -/
theorem toFeature_next (unstarted : input.streamStartPulse = false)
    (unended : input.streamEndPulse = false) :
    (next true state input).toFeature = stage2 state := by
  cases accepted : input.accepts with
  | true => rw [next_of_accepted accepted]
  | false => rw [next_of_rejected unstarted unended accepted]

end Step

/-- A lane is exact for the samples of its instrument. -/
structure Lane.Exact (lane : Lane) (samples : List Nat) : Prop where
  sampleCount : lane.sampleCount.toNat = min samples.length 32
  warmupFast : lane.currentState = .warmupFast ↔ samples.length < 8
  warmupSlow : lane.currentState = .warmupSlow ↔ 8 ≤ samples.length ∧ samples.length < 32
  featureReady : lane.currentState = .featureReady ↔ 32 ≤ samples.length
  named : lane.currentState ≠ .unnamed
  fastPointer : lane.fastPointer.toNat = samples.length % 8
  slowPointer : lane.slowPointer.toNat = samples.length % 32
  fastBuffer : ∀ age, (recorded : age < samples.length) → age < 8 →
    (lane.fastBuffer (BitVec.ofNat 3 (samples.length - 1 - age))).toNat = samples[age]
  slowBuffer : ∀ age, (recorded : age < samples.length) → age < 32 →
    (lane.slowBuffer (BitVec.ofNat 5 (samples.length - 1 - age))).toNat = samples[age]
  fastSum : lane.fastSum.toNat = (samples.take 8).sum
  slowSum : lane.slowSum.toNat = (samples.take 32).sum

theorem Lane.Holds.exact {lane : Lane} {samples : List Nat} (holds : lane.Holds samples) :
    lane.Exact samples where
  sampleCount := holds.sampleCount
  warmupFast := by
    rw [holds.currentState, stateFor]
    split_ifs <;> simp <;> omega
  warmupSlow := by
    rw [holds.currentState, stateFor]
    split_ifs <;> simp <;> omega
  featureReady := by
    rw [holds.currentState, stateFor]
    split_ifs <;> simp <;> omega
  named := by
    rw [holds.currentState, stateFor]
    split_ifs <;> simp
  fastPointer := by rw [holds.fastPointer, BitVec.toNat_ofNat]
  slowPointer := by rw [holds.slowPointer, BitVec.toNat_ofNat]
  fastBuffer := holds.fast
  slowBuffer := holds.slow
  fastSum := holds.fastSum
  slowSum := holds.slowSum

/-- The outputs show the features of one accepted update. -/
structure Feature.Shows (feature : Feature) (input : Input) (samples : List Nat) : Prop where
  slot : feature.featureInstrumentSlot = input.bookInstrumentSlot
  timestampNs : feature.featureTimestampNs = input.bookTimestampNs
  trend : feature.trend.toInt = ((samples.take 8).sum / 8 : Nat) -
    ((samples.take 32).sum / 32 : Nat)
  nearTrend : |(feature.trend.toInt : ℚ) -
    (((samples.take 8).sum : ℚ) / 8 - ((samples.take 32).sum : ℚ) / 32)| < 1
  imbalance : feature.quantityImbalance.toInt =
    (input.bookBidQuantity.toNat : Int) - input.bookAskQuantity.toNat
  spread : feature.spread = input.bookAskPrice - input.bookBidPrice
  exactSpread : input.bookBidPrice ≤ input.bookAskPrice →
    (feature.spread.toNat : Int) = (input.bookAskPrice.toNat : Int) - input.bookBidPrice.toNat

/-- Rounding both averages down moves their difference by less than one. -/
theorem floor_sub_floor_near (fast slow : Nat) :
    |((((fast / 8 : Nat) : Int) - ((slow / 32 : Nat) : Int) : Int) : ℚ) -
      ((fast : ℚ) / 8 - (slow : ℚ) / 32)| < 1 := by
  have fastSplit : (fast : ℚ) = 8 * (fast / 8 : Nat) + (fast % 8 : Nat) := by
    exact_mod_cast (Nat.div_add_mod fast 8).symm
  have slowSplit : (slow : ℚ) = 32 * (slow / 32 : Nat) + (slow % 32 : Nat) := by
    exact_mod_cast (Nat.div_add_mod slow 32).symm
  have fastRest : ((fast % 8 : Nat) : ℚ) < 8 := by exact_mod_cast Nat.mod_lt fast (by omega)
  have slowRest : ((slow % 32 : Nat) : ℚ) < 32 := by exact_mod_cast Nat.mod_lt slow (by omega)
  have fastNonneg : (0 : ℚ) ≤ (fast % 8 : Nat) := Nat.cast_nonneg _
  have slowNonneg : (0 : ℚ) ≤ (slow % 32 : Nat) := Nat.cast_nonneg _
  rw [Int.cast_sub, Int.cast_natCast, Int.cast_natCast, abs_lt]
  constructor <;> linarith

/-- Stage 2 shows the features of the update that stage 1 accepted. -/
theorem shows_stage2 {state : State} {history : Slot → List Nat} {input : Input} {slot : Slot}
    (holds : HoldsHistory state history) (named : input.bookInstrumentSlot = slot.1)
    (accepted : input.accepts = true)
    (calculated : (next true state input).calculationValidS1 = true) :
    (stage2 (next true state input)).Shows input (input.record slot (history slot)) := by
  have lane := holds.next input slot
  have trend := lane.trend
  rw [recentSum, recentSum] at trend
  have shown : stage2 (next true state input) =
      { featureValid := true
        featureInstrumentSlot := input.bookInstrumentSlot
        featureTimestampNs := input.bookTimestampNs
        trend := ((next true state input).lanes slot.1).trend
        quantityImbalance := (0#1 ++ input.bookBidQuantity) - (0#1 ++ input.bookAskQuantity)
        spread := input.bookAskPrice - input.bookBidPrice } := by
    rw [stage2, if_pos calculated, ← named]
    rw [next_of_accepted accepted]
  rw [shown]
  refine ⟨rfl, rfl, trend, ?_, toInt_zero_append_sub _ _, rfl, ?_⟩
  · rw [trend]
    exact floor_sub_floor_near _ _
  · intro uncrossed
    rw [BitVec.toNat_sub_of_le uncrossed, Nat.cast_sub (BitVec.le_def.mp uncrossed)]

/-- The windows of every run after reset: each lane is exact for the updates its
instrument accepted since the last start pulse, and an accepted update shows its
features two cycles later exactly when 32 samples exist and no pulse intervenes. -/
theorem rolling_windows_exact (power : State) (input : Nat → Input) (cycle : Nat) (slot : Slot) :
    ((run power input cycle).lanes slot.1).Exact (samplesBefore input slot cycle) ∧
      ((input cycle).accepts = false → (run power input (cycle + 2)).featureValid = false) ∧
      ((input cycle).accepts = true → (input cycle).bookInstrumentSlot = slot.1 →
        ((run power input (cycle + 2)).featureValid = true ↔
          32 ≤ (samplesBefore input slot (cycle + 1)).length ∧
            (input (cycle + 1)).streamStartPulse = false ∧
            (input (cycle + 1)).streamEndPulse = false) ∧
        ((run power input (cycle + 2)).featureValid = true →
          (run power input (cycle + 2)).toFeature.Shows (input cycle)
            (samplesBefore input slot (cycle + 1)))) := by
  have holds (n : Nat) : HoldsHistory (run power input n) fun slot =>
      samplesBefore input slot n := by
    induction n with
    | zero => exact HoldsHistory.clear power
    | succ n ih => exact ih.next (input n)
  have first : run power input (cycle + 1) = next true (run power input cycle) (input cycle) :=
    Clocked.stateAt_succ _ _ _ _
  have second : run power input (cycle + 2) =
      next true (run power input (cycle + 1)) (input (cycle + 1)) := Clocked.stateAt_succ _ _ _ _
  refine ⟨(holds cycle slot).exact, ?_, ?_⟩
  · intro rejected
    rw [second, featureValid_next, first, calculationValidS1_next, rejected]
    rfl
  · intro accepted named
    have unstarted : (input cycle).streamStartPulse = false := by
      simp only [Input.accepts, Bool.and_eq_true, Bool.not_eq_true'] at accepted
      exact accepted.1.1
    have grown : (samplesBefore input slot (cycle + 1)).length =
        (samplesBefore input slot cycle).length + 1 := by
      simp [samplesBefore, Input.record, unstarted, accepted, named]
    have calculated : (run power input (cycle + 1)).calculationValidS1 =
        decide (32 ≤ (samplesBefore input slot (cycle + 1)).length) := by
      rw [first, calculationValidS1_next, accepted, named, (holds cycle slot).calculates, grown,
        Bool.true_and]
    have valid : (run power input (cycle + 2)).featureValid = true ↔
        32 ≤ (samplesBefore input slot (cycle + 1)).length ∧
          (input (cycle + 1)).streamStartPulse = false ∧
          (input (cycle + 1)).streamEndPulse = false := by
      rw [second, featureValid_next, calculated]
      simp [and_assoc]
    refine ⟨valid, fun shown => ?_⟩
    obtain ⟨full, noStart, noEnd⟩ := valid.mp shown
    rw [second, toFeature_next noStart noEnd, first]
    rw [first] at calculated
    exact shows_stage2 (holds cycle) named accepted (calculated.trans (decide_eq_true full))

end HftPipeline.Rtl.FeatureEngine
