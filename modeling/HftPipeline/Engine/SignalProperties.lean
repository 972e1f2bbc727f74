import HftPipeline.Engine.EndToEnd
import HftPipeline.Spec.Effective
import HftPipeline.Spec.Prices

/-!
# What the signals do not depend on

The properties of the session hold of the board, whatever the schedule of its streams
and the contents of its memories: two boards whose beats carry the same messages as far
as a session can tell show the same signals, and a market that has not moved for 32
samples is held unless the quantities are out of balance.
-/

namespace HftPipeline.Rtl.BlockDesign

open HftPipeline.Spec HftPipeline.Std HftPipeline.Wire

/-- A start, 33 quotes that alternate between the two sides of instrument 1, and an end.
The numbers of the quotes are multiples of the spacing, each is sent some times, and the
bid has some price. -/
def twoSidedPayloads (spacing copies price : Nat) : List Payload :=
  (packPacketInto messageStreamStart 0 0 0 0 0 0).toList ++
    (List.range 33).flatMap (fun index => List.replicate copies index |>.filterMap fun index =>
      packPacketInto messageQuoteUpdate (index % 2) (spacing * (index + 1)) index 1
        (price + 2 * (index % 2)) 100) ++
    (packPacketInto messageStreamEnd 0 0 0 0 0 0).toList

/-- These packets without gaps. -/
def twoSidedBeats (spacing copies price : Nat) : List PacketParser.Beat :=
  (PacketParser.streamBeats (fun _ => true) (twoSidedPayloads spacing copies price)).flatten

section TwoBoards

variable (params : EngineWrapper.Params) (leftBefore rightBefore : State)
  (leftHeld rightHeld : PacketParser.Input) (left right : Nat → PacketParser.Input)
  (leftCycle rightCycle : Nat)

/-- Two boards whose accepted beats carry the same messages that count, up to an
increasing renumbering, show the same signals nine cycles later. -/
theorem signals_ignore_ineffective
    (leftNumbered : ∀ message ∈ beatMessages params.ids (acceptedBeats left leftCycle),
      message.Numbered)
    (rightNumbered : ∀ message ∈ beatMessages params.ids (acceptedBeats right rightCycle),
      message.Numbered)
    (same :
      (effective (beatMessages params.ids (acceptedBeats left leftCycle))).map
          Message.unnumbered =
        (effective (beatMessages params.ids (acceptedBeats right rightCycle))).map
          Message.unnumbered) :
    signalsBefore params leftBefore leftHeld left (leftCycle + 9) =
      signalsBefore params rightBefore rightHeld right (rightCycle + 9) := by
  have decisions :=
    Session.decisions_of_effective ⟨4, 1, 2, 100⟩ leftNumbered rightNumbered same
  rw [signalsBefore_add, signalsBefore_add]
  exact congrArg (List.map decisionSignal) decisions

/-- Two boards whose accepted beats carry the same messages, except that the prices of
every instrument are moved by the same distance, show the same signals nine cycles
later. -/
theorem signals_ignore_price_level (distance : Slot → Int)
    (moved : List.Forall₂ (Message.Moved distance)
      (beatMessages params.ids (acceptedBeats left leftCycle))
      (beatMessages params.ids (acceptedBeats right rightCycle))) :
    signalsBefore params leftBefore leftHeld left (leftCycle + 9) =
      signalsBefore params rightBefore rightHeld right (rightCycle + 9) := by
  have decisions := Session.decisions_moved ⟨4, 1, 2, 100⟩ moved
  rw [signalsBefore_add, signalsBefore_add]
  exact congrArg (List.map decisionSignal) decisions

end TwoBoards

/-- The messages of the packets. -/
def twoSidedMessages (spacing copies price : Nat) : List Message :=
  (twoSidedPayloads spacing copies price).filterMap (payloadMessage PacketFilter.Ids.default)

theorem beatMessages_twoSided (spacing copies price : Nat) :
    beatMessages PacketFilter.Ids.default (acceptedBeats
        (PacketParser.offered (twoSidedBeats spacing copies price))
        (twoSidedBeats spacing copies price).length) =
      twoSidedMessages spacing copies price := by
  rw [acceptedBeats_offered, twoSidedBeats, beatMessages_streamBeats, twoSidedMessages]

/-- Every quote twice, and every third number: nothing changes. -/
theorem signals_ignore_ineffective_repeats :
    let once := twoSidedBeats 1 1 10000
    let twice := twoSidedBeats 3 2 10000
    signalsBefore .default (staleBoard 7#33) (PacketParser.offered once 0)
        (PacketParser.offered once) (once.length + 9) =
      signalsBefore .default (staleBoard 9#33) (PacketParser.offered twice 0)
        (PacketParser.offered twice) (twice.length + 9) := by
  intro once twice
  have onceMessages := beatMessages_twoSided 1 1 10000
  have twiceMessages := beatMessages_twoSided 3 2 10000
  exact signals_ignore_ineffective .default (staleBoard 7#33) (staleBoard 9#33) _ _ _ _ _ _
    (by rw [EngineWrapper.Params.default, onceMessages]; decide +kernel)
    (by rw [EngineWrapper.Params.default, twiceMessages]; decide +kernel)
    (by rw [EngineWrapper.Params.default, onceMessages, twiceMessages]; decide +kernel)

/-- Instrument 1 quoted 9000 ticks lower: nothing changes. -/
theorem signals_ignore_price_level_lower :
    let high := twoSidedBeats 1 1 10000
    let low := twoSidedBeats 1 1 1000
    signalsBefore .default (staleBoard 7#33) (PacketParser.offered high 0)
        (PacketParser.offered high) (high.length + 9) =
      signalsBefore .default (staleBoard 9#33) (PacketParser.offered low 0)
        (PacketParser.offered low) (low.length + 9) := by
  intro high low
  have highMessages := beatMessages_twoSided 1 1 10000
  have lowMessages := beatMessages_twoSided 1 1 1000
  exact signals_ignore_price_level .default (staleBoard 7#33) (staleBoard 9#33) _ _ _ _ _ _
    (fun _ => -9000)
    (by rw [EngineWrapper.Params.default, highMessages, lowMessages]; decide +kernel)

section Quiet

variable (params : EngineWrapper.Params) (before : State) (held : PacketParser.Input)
  (input : Nat → PacketParser.Input) (cycle : Nat)

/-- A decision that is not HOLD has a score beyond its threshold. -/
theorem hold_of_abs_le {decision : Decision} (within : |decision.score| ≤ decision.required) :
    (decisionSignal decision).tradeSignal = 0#2 := by
  obtain ⟨low, high⟩ := abs_le.mp within
  have hold : decision.signal = .hold := by
    rw [Decision.signal, if_neg (by omega), if_neg (by omega)]
  rw [decisionSignal, hold]
  rfl

/-- Every signal ever shown comes from a sample of the quotes accepted so far, with the
threshold of its spread. Its score is further from the imbalance of the quantities than
four times the range of the last 32 midpoints for no sample, and as long as range and
imbalance together stay within the threshold the market is held. -/
theorem quiet_market_is_held {signal : Signal}
    (shown : signal ∈ signalsBefore params before held input cycle) :
    ∃ front quote rest sample,
      beatMessages params.ids (acceptedBeats input cycle) = front ++ .quote quote :: rest ∧
      (Session.initial.after front).sample quote = some sample ∧
      let spread : Int := sample.ask.price.toNat - sample.bid.price.toNat
      let imbalance : Int := sample.bid.quantity.toNat - sample.ask.quantity.toNat
      signal.slot = quote.slot.1 ∧ signal.timestamp = quote.timestamp ∧
      signal.requiredScore = 100 + 2 * spread ∧
      ∀ low high : Nat,
        (∀ midpoint ∈ ((Session.initial.after front).historyWith sample).take 32,
          low ≤ midpoint ∧ midpoint ≤ high) →
        |signal.directionScore - imbalance| ≤ 4 * (high - low) ∧
          (4 * (high - low) + |imbalance| ≤ 100 + 2 * spread → signal.tradeSignal = 0#2) := by
  have early : signalsBefore params before held input cycle <+:
      signalsBefore params before held input (cycle + 9) :=
    Clocked.seen_mono _ (Nat.le_add_right cycle 9)
  have called := early.subset shown
  rw [signalsBefore_add] at called
  obtain ⟨decision, decided, rfl⟩ := List.mem_map.mp called
  obtain ⟨front, message, rest, split, triggered⟩ := Session.mem_decisions decided
  obtain ⟨quote, sample, rfl, sampled, made⟩ := Session.decision_madeOf triggered
  obtain ⟨_, _, slot, timestamp⟩ := Session.sample_eq_some.mp sampled
  have required : decision.required =
      100 + 2 * (sample.ask.price.toNat - sample.bid.price.toNat) := made.required
  refine ⟨front, quote, rest, sample, split, sampled, ?_, ?_, required, ?_⟩
  · exact congrArg Subtype.val (made.slot.trans slot)
  · exact made.timestamp.trans timestamp
  · intro low high within
    have bound : |decision.score - (sample.bid.quantity.toNat - sample.ask.quantity.toNat)| ≤
        4 * (high - low) := by
      have scored := made.score low high within
      rwa [one_mul] at scored
    refine ⟨bound, fun quiet => hold_of_abs_le ?_⟩
    have triangle := abs_sub_abs_le_abs_sub decision.score
      (sample.bid.quantity.toNat - sample.ask.quantity.toNat)
    rw [required]
    omega

end Quiet

/-- The sample that is decided has neither trend nor imbalance, and is held. -/
theorem quiet_market_is_held_twoSided :
    let beats := twoSidedBeats 1 1 10000
    let signal : Signal := ⟨0#3, 32#64, 0#2, 0, 104⟩
    signal ∈ signalsBefore .default (staleBoard 7#33) (PacketParser.offered beats 0)
        (PacketParser.offered beats) (beats.length + 9) ∧
      ∃ front quote rest, beatMessages PacketFilter.Ids.default (acceptedBeats
          (PacketParser.offered beats) (beats.length + 9)) = front ++ .quote quote :: rest ∧
        signal.timestamp = quote.timestamp := by
  intro beats signal
  have decided : signal ∈ (Session.initial.decisions ⟨4, 1, 2, 100⟩
      (twoSidedMessages 1 1 10000)).map decisionSignal := by decide +kernel
  have shown : signal ∈ signalsBefore .default (staleBoard 7#33) (PacketParser.offered beats 0)
      (PacketParser.offered beats) (beats.length + 9) := by
    rw [signalsBefore_add]
    rw [← beatMessages_twoSided] at decided
    exact decided
  obtain ⟨front, quote, rest, _, split, _, _, timestamp, _⟩ :=
    quiet_market_is_held .default (staleBoard 7#33) (PacketParser.offered beats 0)
      (PacketParser.offered beats) (beats.length + 9) shown
  exact ⟨shown, front, quote, rest, split, timestamp⟩

end HftPipeline.Rtl.BlockDesign
