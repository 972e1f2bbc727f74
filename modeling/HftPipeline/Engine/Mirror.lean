import HftPipeline.Engine.SignalProperties
import HftPipeline.Spec.Mirror

/-!
# The signals of opposite markets

Two boards that see mirror images of one market, on any schedules and with any contents of
their memories, signal at the same quotes with the same thresholds. Their trades are
opposite, except within four points of a threshold, where one of the boards can hold; they
are never the same.
-/

namespace HftPipeline.Rtl.BlockDesign

open HftPipeline.Spec HftPipeline.Std HftPipeline.Wire

/-- BUY and SELL taken for each other. -/
def oppositeTrade (trade : BitVec 2) : BitVec 2 :=
  if trade = WeightedDecision.signalBuy then WeightedDecision.signalSell
  else if trade = WeightedDecision.signalSell then WeightedDecision.signalBuy
  else trade

theorem bits_opposite (signal : TradeSignal) :
    signal.opposite.bits = oppositeTrade signal.bits := by
  cases signal <;> rfl

theorem bits_injective : Function.Injective TradeSignal.bits := by
  intro first second same
  cases first <;> cases second <;> first | rfl | cases same

/-- Signals of one quote of opposite markets. -/
structure Signal.Opposed (left right : Signal) : Prop where
  slot : right.slot = left.slot
  timestamp : right.timestamp = left.timestamp
  requiredScore : right.requiredScore = left.requiredScore
  scores : |left.directionScore + right.directionScore| ≤ 4
  clear : |left.directionScore| + 4 ≤ left.requiredScore ∨
    left.requiredScore + 4 < |left.directionScore| →
      right.tradeSignal = oppositeTrade left.tradeSignal
  apart : right.tradeSignal = left.tradeSignal → left.tradeSignal = WeightedDecision.signalHold

theorem opposed_of_mirrored {left right : Decision}
    (mirrored : left.Mirrored ⟨4, 1, 2, 100⟩ right) :
    (decisionSignal left).Opposed (decisionSignal right) where
  slot := congrArg Subtype.val mirrored.slot
  timestamp := mirrored.timestamp
  requiredScore := mirrored.required
  scores := mirrored.score
  clear beyond := by
    have opposite := mirrored.signal_of_clear (by decide) (by decide) beyond
    exact (congrArg TradeSignal.bits opposite).trans (bits_opposite left.signal)
  apart same := by
    have held := mirrored.hold_of_same (by decide) (by decide) (bits_injective same)
    exact congrArg TradeSignal.bits held

/-- Two boards whose accepted beats carry mirrored messages signal in opposition nine
cycles later. -/
theorem signals_oppose (params : EngineWrapper.Params) (leftBefore rightBefore : State)
    (leftHeld rightHeld : PacketParser.Input) (left right : Nat → PacketParser.Input)
    (leftCycle rightCycle : Nat) (total : Slot → Nat)
    (mirrored : List.Forall₂ (Message.Alike (Quote.Mirrored total))
      (beatMessages params.ids (acceptedBeats left leftCycle))
      (beatMessages params.ids (acceptedBeats right rightCycle))) :
    List.Forall₂ Signal.Opposed
      (signalsBefore params leftBefore leftHeld left (leftCycle + 9))
      (signalsBefore params rightBefore rightHeld right (rightCycle + 9)) := by
  have decisions := Session.decisions_mirrored ⟨4, 1, 2, 100⟩ mirrored
  rw [signalsBefore_add, signalsBefore_add]
  exact List.forall₂_map_left_iff.mpr (List.forall₂_map_right_iff.mpr
    (decisions.imp fun _ _ => opposed_of_mirrored))

/-- A start, 33 quotes of a rising market with more bids than asks, or their mirror images,
and an end. -/
def risingPayloads (mirror : Bool) : List Payload :=
  (packPacketInto messageStreamStart 0 0 0 0 0 0).toList ++
    (List.range 33).filterMap (fun index =>
      let side := index % 2
      let price := 10000 + index + 2 * side
      packPacketInto messageQuoteUpdate (if mirror then 1 - side else side) (index + 1) index 1
        (if mirror then 20100 - price else price) (400 - 300 * side)) ++
    (packPacketInto messageStreamEnd 0 0 0 0 0 0).toList

/-- These packets without gaps. -/
def risingBeats (mirror : Bool) : List PacketParser.Beat :=
  (PacketParser.streamBeats (fun _ => true) (risingPayloads mirror)).flatten

theorem beatMessages_rising (mirror : Bool) : beatMessages PacketFilter.Ids.default (acceptedBeats
      (PacketParser.offered (risingBeats mirror)) (risingBeats mirror).length) =
    (risingPayloads mirror).filterMap (payloadMessage PacketFilter.Ids.default) := by
  rw [acceptedBeats_offered, risingBeats, beatMessages_streamBeats]

/-- The rising market and its mirror image. -/
theorem signals_oppose_rising :
    let rising := risingBeats false
    let falling := risingBeats true
    List.Forall₂ Signal.Opposed
      (signalsBefore .default (staleBoard 7#33) (PacketParser.offered rising 0)
        (PacketParser.offered rising) (rising.length + 9))
      (signalsBefore .default (staleBoard 9#33) (PacketParser.offered falling 0)
        (PacketParser.offered falling) (falling.length + 9)) := by
  intro rising falling
  have risingMessages := beatMessages_rising false
  have fallingMessages := beatMessages_rising true
  exact signals_oppose .default (staleBoard 7#33) (staleBoard 9#33) _ _ _ _ _ _ (fun _ => 20100)
    (by rw [EngineWrapper.Params.default, risingMessages, fallingMessages]; decide +kernel)

end HftPipeline.Rtl.BlockDesign
