import HftPipeline.Rtl.FeatureEngine
import HftPipeline.Std.RingWindow
import HftPipeline.Std.Signed

/-!
# The lanes of the feature engine

Each lane keeps the two windows of its instrument in circular buffers with
rolling sums. The buffers are never cleared: a lane that has recorded few
samples since the last start holds old values in the other cells, and its state
decides that none of them is subtracted.
-/

namespace HftPipeline.Rtl.FeatureEngine

open HftPipeline.Std.RingWindow HftPipeline.Std.Signed

/-- The state that a lane is in after a number of samples. -/
def stateFor (samples : Nat) : FeatureState :=
  if samples < 8 then .warmupFast else if samples < 32 then .warmupSlow else .featureReady

/-- A lane holds the history of its instrument since the last start. -/
structure Lane.Holds (lane : Lane) (history : List Nat) : Prop where
  fast : Retains (BitVec.toNat ∘ lane.fastBuffer) history
  slow : Retains (BitVec.toNat ∘ lane.slowBuffer) history
  fastPointer : lane.fastPointer = BitVec.ofNat 3 history.length
  slowPointer : lane.slowPointer = BitVec.ofNat 5 history.length
  fastSum : lane.fastSum.toNat = recentSum 8 history
  slowSum : lane.slowSum.toNat = recentSum 32 history
  sampleCount : lane.sampleCount.toNat = min history.length 32
  currentState : lane.currentState = stateFor history.length
  bounded : ∀ value ∈ history, value ≤ 2 ^ 33 - 1

/-- Clearing a lane forgets its history, whatever its buffers contain. -/
theorem Lane.Holds.clear (lane : Lane) : lane.clear.Holds [] where
  fast := Retains.empty _
  slow := Retains.empty _
  fastPointer := rfl
  slowPointer := rfl
  fastSum := rfl
  slowSum := rfl
  sampleCount := rfl
  currentState := rfl
  bounded := by simp

namespace Lane.Holds

variable {lane : Lane} {history : List Nat} (holds : lane.Holds history)
include holds

/-- A new midpoint keeps every value of the history within 33 bits. -/
theorem bounded_push (midpoint2 : BitVec 33) :
    ∀ value ∈ midpoint2.toNat :: history, value ≤ 2 ^ 33 - 1 := by
  intro value member
  rcases List.mem_cons.mp member with rfl | member
  · exact Nat.le_pred_of_lt midpoint2.isLt
  · exact holds.bounded value member

/-- Both windows fit their sum registers after another sample. -/
theorem fits_push (midpoint2 : BitVec 33) :
    recentSum 8 (midpoint2.toNat :: history) < 2 ^ 36 ∧
      recentSum 32 (midpoint2.toNat :: history) < 2 ^ 38 := by
  have fast : recentSum 8 (midpoint2.toNat :: history) ≤ 8 * (2 ^ 33 - 1) :=
    recentSum_le (holds.bounded_push midpoint2)
  have slow : recentSum 32 (midpoint2.toNat :: history) ≤ 32 * (2 ^ 33 - 1) :=
    recentSum_le (holds.bounded_push midpoint2)
  omega

/-- While the fast window fills, adding the midpoint gives its sum. -/
theorem fast_grows (room : history.length < 8) (midpoint2 : BitVec 33) :
    (lane.fastSum + midpoint2.setWidth 36).toNat = recentSum 8 (midpoint2.toNat :: history) := by
  have width : (midpoint2.setWidth 36).toNat = midpoint2.toNat :=
    BitVec.toNat_setWidth_of_le (by decide)
  rw [← width]
  exact toNat_grow holds.fastSum room (by rw [width]; exact (holds.fits_push midpoint2).1)

/-- While the slow window fills, adding the midpoint gives its sum. -/
theorem slow_grows (room : history.length < 32) (midpoint2 : BitVec 33) :
    (lane.slowSum + midpoint2.setWidth 38).toNat = recentSum 32 (midpoint2.toNat :: history) := by
  have width : (midpoint2.setWidth 38).toNat = midpoint2.toNat :=
    BitVec.toNat_setWidth_of_le (by decide)
  rw [← width]
  exact toNat_grow holds.slowSum room (by rw [width]; exact (holds.fits_push midpoint2).2)

/-- A full fast window gives up its oldest midpoint for the new one. -/
theorem fast_rolls (full : 7 < history.length) (midpoint2 : BitVec 33) :
    (lane.rolledFast midpoint2).toNat = recentSum 8 (midpoint2.toNat :: history) := by
  have width : (midpoint2.setWidth 36).toNat = midpoint2.toNat :=
    BitVec.toNat_setWidth_of_le (by decide)
  have oldest : ((lane.fastBuffer lane.fastPointer).setWidth 36).toNat = history[8 - 1] := by
    rw [BitVec.toNat_setWidth_of_le (by decide), holds.fastPointer]
    exact holds.fast.oldest full
  rw [Lane.rolledFast, ← width]
  exact toNat_roll holds.fastSum full (by decide) oldest
    (by rw [width]; exact (holds.fits_push midpoint2).1)

/-- A full slow window gives up its oldest midpoint for the new one. -/
theorem slow_rolls (full : 31 < history.length) (midpoint2 : BitVec 33) :
    (lane.rolledSlow midpoint2).toNat = recentSum 32 (midpoint2.toNat :: history) := by
  have width : (midpoint2.setWidth 38).toNat = midpoint2.toNat :=
    BitVec.toNat_setWidth_of_le (by decide)
  have oldest : ((lane.slowBuffer lane.slowPointer).setWidth 38).toNat = history[32 - 1] := by
    rw [BitVec.toNat_setWidth_of_le (by decide), holds.slowPointer]
    exact holds.slow.oldest full
  rw [Lane.rolledSlow, ← width]
  exact toNat_roll holds.slowSum full (by decide) oldest
    (by rw [width]; exact (holds.fits_push midpoint2).2)

/-- The writes of the three named states record the sample in both buffers. -/
theorem stores (midpoint2 : BitVec 33) :
    Retains (BitVec.toNat ∘ (lane.store midpoint2).fastBuffer) (midpoint2.toNat :: history) ∧
      Retains (BitVec.toNat ∘ (lane.store midpoint2).slowBuffer) (midpoint2.toNat :: history) := by
  simp only [Lane.store, Function.comp_update, holds.fastPointer, holds.slowPointer]
  exact ⟨holds.fast.push midpoint2.toNat, holds.slow.push midpoint2.toNat⟩

/-- The sample counter meets its comparisons exactly at the last sample of a window. -/
theorem sampleCount_eq (count : BitVec 6) (small : count.toNat < 32) :
    lane.sampleCount = count ↔ history.length = count.toNat := by
  have counted := holds.sampleCount
  rw [← BitVec.toNat_inj, counted]
  omega

/-- Recording a sample leaves the sums, the counter and the state to be settled. -/
theorem push (midpoint2 : BitVec 33) {fastSum : BitVec 36} {slowSum : BitVec 38}
    {sampleCount : BitVec 6} {currentState : FeatureState}
    (fast : fastSum.toNat = recentSum 8 (midpoint2.toNat :: history))
    (slow : slowSum.toNat = recentSum 32 (midpoint2.toNat :: history))
    (counted : sampleCount.toNat = min (history.length + 1) 32)
    (current : currentState = stateFor (history.length + 1)) :
    Lane.Holds { lane.store midpoint2 with fastSum, slowSum, sampleCount, currentState }
      (midpoint2.toNat :: history) where
  fast := (holds.stores midpoint2).1
  slow := (holds.stores midpoint2).2
  fastPointer := by simp [Lane.store, holds.fastPointer, BitVec.ofNat_add]
  slowPointer := by simp [Lane.store, holds.slowPointer, BitVec.ofNat_add]
  fastSum := fast
  slowSum := slow
  sampleCount := counted
  currentState := current
  bounded := holds.bounded_push midpoint2

/-- The state register follows the number of samples. -/
theorem nextState : lane.nextState = stateFor (history.length + 1) := by
  have current := holds.currentState
  unfold Lane.nextState
  by_cases early : history.length < 8
  · rw [stateFor, if_pos early] at current
    simp only [current, holds.sampleCount_eq 7#6 (by decide), BitVec.toNat_ofNat]
    by_cases last : history.length = 7
    · simp [last, stateFor]
    · rw [if_neg last, stateFor, if_pos (by omega)]
  · by_cases warm : history.length < 32
    · rw [stateFor, if_neg early, if_pos warm] at current
      simp only [current, holds.sampleCount_eq 31#6 (by decide), BitVec.toNat_ofNat]
      by_cases last : history.length = 31
      · simp [last, stateFor]
      · rw [if_neg last, stateFor, if_neg (by omega), if_pos (by omega)]
    · rw [stateFor, if_neg early, if_neg warm] at current
      simp only [current]
      rw [stateFor, if_neg (by omega), if_neg (by omega)]

/-- An accepted update adds its midpoint to the history. -/
theorem advance (midpoint2 : BitVec 33) :
    (lane.advance midpoint2).Holds (midpoint2.toNat :: history) := by
  have current := holds.currentState
  have counted := holds.sampleCount
  have increment (below : history.length < 32) :
      (lane.sampleCount + 1#6).toNat = min (history.length + 1) 32 := by
    rw [BitVec.toNat_add]
    simp only [BitVec.toNat_ofNat]
    omega
  unfold Lane.advance Lane.datapath
  by_cases early : history.length < 8
  · -- both windows still fill
    rw [stateFor, if_pos early] at current
    simp only [current]
    exact holds.push midpoint2 (holds.fast_grows early midpoint2)
      (holds.slow_grows (by omega) midpoint2) (increment (by omega)) holds.nextState
  · by_cases warm : history.length < 32
    · -- the fast window rolls while the slow one fills
      rw [stateFor, if_neg early, if_pos warm] at current
      simp only [current]
      exact holds.push midpoint2 (holds.fast_rolls (by omega) midpoint2)
        (holds.slow_grows warm midpoint2) (increment warm) holds.nextState
    · rw [stateFor, if_neg early, if_neg warm] at current
      simp only [current]
      have full : (32#6).toNat = min (history.length + 1) 32 := by
        simp only [BitVec.toNat_ofNat]
        omega
      exact holds.push midpoint2 (holds.fast_rolls (by omega) midpoint2)
        (holds.slow_rolls (by omega) midpoint2) full holds.nextState

/-- A calculation starts with the sample that completes a window. -/
theorem calculates : lane.calculates = decide (32 ≤ history.length + 1) := by
  have current := holds.currentState
  unfold Lane.calculates
  by_cases early : history.length < 8
  · rw [stateFor, if_pos early] at current
    simp only [current]
    exact (decide_eq_false (by omega)).symm
  · by_cases warm : history.length < 32
    · rw [stateFor, if_neg early, if_pos warm] at current
      simp only [current, holds.sampleCount_eq 31#6 (by decide), BitVec.toNat_ofNat]
      exact decide_eq_decide.mpr (by omega)
    · rw [stateFor, if_neg early, if_neg warm] at current
      simp only [current]
      exact (decide_eq_true (by omega)).symm

/-- The trend is the difference of the two averages, without wrapping. -/
theorem trend : lane.trend.toInt =
    (recentSum 8 history / 8 : Nat) - (recentSum 32 history / 32 : Nat) := by
  have fastBound : recentSum 8 history ≤ 8 * (2 ^ 33 - 1) := recentSum_le holds.bounded
  have slowBound : recentSum 32 history ≤ 32 * (2 ^ 33 - 1) := recentSum_le holds.bounded
  have fast : (lane.fastSum.extractLsb' 3 33).toNat = recentSum 8 history / 8 := by
    rw [BitVec.extractLsb'_toNat, holds.fastSum, Nat.shiftRight_eq_div_pow]
    exact Nat.mod_eq_of_lt (by omega)
  have slow : (lane.slowSum.extractLsb' 5 33).toNat = recentSum 32 history / 32 := by
    rw [BitVec.extractLsb'_toNat, holds.slowSum, Nat.shiftRight_eq_div_pow]
    exact Nat.mod_eq_of_lt (by omega)
  rw [Lane.trend, toInt_zero_append_sub, fast, slow]

end Lane.Holds

/-- Every lane holds the history of its instrument. -/
def HoldsHistory (state : State) (history : Slot → List Nat) : Prop :=
  ∀ slot : Slot, (state.lanes slot.1).Holds (history slot)

/-- A start pulse leaves lanes that hold no history. -/
theorem HoldsHistory.clear (state : State) : HoldsHistory (clearStream state) fun _ => [] := by
  intro slot
  simp only [clearStream, slot.2, if_true]
  exact Lane.Holds.clear _

/-- An update that the clocked block acts on: no pulse takes precedence. -/
def Input.accepts (input : Input) : Bool :=
  !input.streamStartPulse && !input.streamEndPulse && input.processBookUpdate

/-- The samples of one instrument after a cycle, newest first. -/
def Input.record (input : Input) (slot : Slot) (samples : List Nat) : List Nat :=
  if input.streamStartPulse then []
  else if input.accepts ∧ input.bookInstrumentSlot = slot.1 then
    (input.bookBidPrice.toNat + input.bookAskPrice.toNat) :: samples
  else samples

/-- The doubled midpoint is the sum of the two prices, with no wrap. -/
theorem midpoint2_eq (input : Input) :
    input.midpoint2.toNat = input.bookBidPrice.toNat + input.bookAskPrice.toNat := by
  have bidBound := input.bookBidPrice.isLt
  have askBound := input.bookAskPrice.isLt
  unfold Input.midpoint2
  rw [BitVec.toNat_add_of_lt] <;> simp only [toNat_zero_append]
  omega

/-- An accepted update names one of the five instruments. -/
theorem Input.accepts_slot {input : Input} (accepted : input.accepts = true) :
    ∃ slot : Slot, input.bookInstrumentSlot = slot.1 := by
  simp only [Input.accepts, Input.processBookUpdate, Bool.and_eq_true,
    decide_eq_true_eq] at accepted
  exact ⟨⟨_, accepted.2.2⟩, rfl⟩

section Step

variable {state : State} {input : Input}

/-- The cycle of a start pulse clears the lanes and the first stage. -/
theorem next_of_start (started : input.streamStartPulse = true) :
    next true state input = clearStream state := by
  simp [next, started]

/-- The cycle of an end pulse withdraws both stages and keeps the lanes. -/
theorem next_of_end (unstarted : input.streamStartPulse = false)
    (ended : input.streamEndPulse = true) :
    next true state input = { state with calculationValidS1 := false, featureValid := false } := by
  simp [next, unstarted, ended]

/-- The cycle of an accepted book moves both stages on. -/
theorem next_of_accepted (accepted : input.accepts = true) :
    next true state input =
      { toFeature := stage2 state
        lanes := state.lanes.write input.bookInstrumentSlot
          ((state.lanes input.bookInstrumentSlot).advance input.midpoint2)
        calculationValidS1 := (state.lanes input.bookInstrumentSlot).calculates
        instrumentSlotS1 := input.bookInstrumentSlot
        timestampS1 := input.bookTimestampNs
        quantityImbalanceS1 := (0#1 ++ input.bookBidQuantity) - (0#1 ++ input.bookAskQuantity)
        spreadS1 := input.bookAskPrice - input.bookBidPrice } := by
  simp only [Input.accepts, Bool.and_eq_true, Bool.not_eq_true'] at accepted
  simp [next, accepted.1.1, accepted.1.2, accepted.2]

/-- A cycle without an accepted book empties the first stage. -/
theorem next_of_rejected (unstarted : input.streamStartPulse = false)
    (unended : input.streamEndPulse = false) (rejected : input.accepts = false) :
    next true state input =
      { state with toFeature := stage2 state, calculationValidS1 := false } := by
  simp only [Input.accepts, unstarted, unended, Bool.not_false, Bool.true_and] at rejected
  simp [next, unstarted, unended, rejected]

/-- One clock records an accepted update in its own lane and touches no other. -/
theorem HoldsHistory.next {history : Slot → List Nat} (holds : HoldsHistory state history)
    (input : Input) :
    HoldsHistory (next true state input) fun slot => input.record slot (history slot) := by
  cases started : input.streamStartPulse with
  | true =>
      rw [next_of_start started]
      simp only [Input.record, started, if_true]
      exact HoldsHistory.clear state
  | false =>
      cases accepted : input.accepts with
      | true =>
          obtain ⟨updated, named⟩ := Input.accepts_slot accepted
          rw [next_of_accepted accepted]
          intro slot
          simp only [named, SlotArray.write_slot, Input.record, started, accepted]
          by_cases same : slot = updated
          · subst same
            simpa [midpoint2_eq] using (holds slot).advance input.midpoint2
          · have differs : ¬ updated.1 = slot.1 := fun equal => same (Subtype.ext equal.symm)
            simpa [same, differs] using holds slot
      | false =>
          have kept : (FeatureEngine.next true state input).lanes = state.lanes := by
            cases ended : input.streamEndPulse with
            | true => rw [next_of_end started ended]
            | false => rw [next_of_rejected started ended accepted]
          intro slot
          simpa [Input.record, started, accepted, kept] using holds slot

end Step

end HftPipeline.Rtl.FeatureEngine
