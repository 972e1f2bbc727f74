import HftPipeline.Engine.SignalProperties
import HftPipeline.Spec.Restart

/-!
# Restarting a board

A board that is started in the middle of a stream shows, for each instrument, the last
signals of a board that has seen the stream from the beginning. A restart changes no
signal: those that it loses are in front of the first one that the restarted board
shows, which needs both sides of its book and full windows. From the quote on that brings
the second side it loses at most 31 of them. Whatever a board has missed before is
forgotten with that signal.
-/

namespace HftPipeline.Rtl.BlockDesign

open HftPipeline.Spec HftPipeline.Std HftPipeline.Wire

/-- The signals of one instrument. -/
def signalsFor (slot : Slot) (signals : List Signal) : List Signal :=
  signals.filter (·.slot = slot.1)

/-- Behind nine cycles the board has shown the decisions for the instrument. -/
theorem signalsFor_signalsBefore (params : EngineWrapper.Params) (before : State)
    (held : PacketParser.Input) (input : Nat → PacketParser.Input) (cycle : Nat) (slot : Slot) :
    signalsFor slot (signalsBefore params before held input (cycle + 9)) =
      (Session.initial.decisionsFor slot ⟨4, 1, 2, 100⟩
        (beatMessages params.ids (acceptedBeats input cycle))).map decisionSignal := by
  have shown : signalsBefore params before held input (cycle + 9) =
      (Session.initial.decisions ⟨4, 1, 2, 100⟩
        (beatMessages params.ids (acceptedBeats input cycle))).map decisionSignal :=
    signalsBefore_add params before held input cycle
  rw [shown, signalsFor, Session.decisionsFor, List.filter_map]
  refine congrArg _ (List.filter_congr fun decision _ => decide_eq_decide.mpr ?_)
  exact Subtype.ext_iff.symm

/-- A board restarted in front of a quote that counts shows the last signals for each
instrument, and behind the point where its book has both sides it lacks at most 31. -/
theorem restart_keeps_last_signals (params : EngineWrapper.Params) (leftBefore rightBefore : State)
    (leftHeld rightHeld : PacketParser.Input) (left right : Nat → PacketParser.Input)
    (leftCycle rightCycle : Nat) (past : List Message) (first : Quote) (messages : List Message)
    (seen : beatMessages params.ids (acceptedBeats left leftCycle) =
      past ++ .quote first :: messages)
    (counts : (Session.initial.after past).forwards first = true)
    (restarted : beatMessages params.ids (acceptedBeats right rightCycle) =
      .control .start :: .quote first :: messages) (slot : Slot) :
    let late := signalsFor slot (signalsBefore params rightBefore rightHeld right (rightCycle + 9))
    let whole := signalsFor slot (signalsBefore params leftBefore leftHeld left (leftCycle + 9))
    late <:+ whole ∧
      ∀ front back, messages = front ++ back →
        ((Session.initial.after (.control .start :: .quote first :: front)).books slot).TwoSided →
        whole.length ≤ (Session.initial.decisionsFor slot ⟨4, 1, 2, 100⟩
          (past ++ .quote first :: front)).length + 31 + late.length := by
  intro late whole
  have lateFor : late = _ := signalsFor_signalsBefore params rightBefore rightHeld right _ slot
  have wholeFor : whole = _ := signalsFor_signalsBefore params leftBefore leftHeld left _ slot
  rw [lateFor, wholeFor, seen, restarted, Session.decisionsFor_append]
  refine ⟨?_, ?_⟩
  · rw [List.map_append]
    exact ((Session.decisionsFor_restart counts slot _ messages).map _).trans
      (List.suffix_append _ _)
  · rintro front back rfl sides
    have few := Session.length_decisionsFor_restart counts slot ⟨4, 1, 2, 100⟩ front back sides
    rw [Session.decisionsFor_append, List.length_map, List.length_map, List.length_append,
      List.length_append]
    omega

/-- The quotes of a stream of instrument 1, each side in turn. -/
def turnQuote (index : Nat) : Quote :=
  ⟨EngineWrapper.firstSlot, BitVec.ofNat 8 (index % 2), BitVec.ofNat 32 (index + 1),
    BitVec.ofNat 64 index, BitVec.ofNat 32 (10000 + index % 2), 100#32⟩

/-- A start and the quotes of the stream from some index on. -/
def turnPayloads (first count : Nat) : List Payload :=
  (packPacketInto messageStreamStart 0 0 0 0 0 0).toList ++
    (List.range' first count).filterMap fun index =>
      packPacketInto messageQuoteUpdate (index % 2) (index + 1) index 1 (10000 + index % 2) 100

/-- These packets without gaps. -/
def turnBeats (first count : Nat) : List PacketParser.Beat :=
  (PacketParser.streamBeats (fun _ => true) (turnPayloads first count)).flatten

theorem beatMessages_turns (first count : Nat) :
    beatMessages PacketFilter.Ids.default (acceptedBeats
      (PacketParser.offered (turnBeats first count)) (turnBeats first count).length) =
    (turnPayloads first count).filterMap (payloadMessage PacketFilter.Ids.default) := by
  rw [acceptedBeats_offered, turnBeats, beatMessages_streamBeats]

/-- A board that is started behind seven quotes shows one signal at the end of its warm-up,
and the other board shows it as the last of at most 32. -/
theorem restart_keeps_last_signals_turns :
    let whole := turnBeats 0 40
    let later := turnBeats 7 33
    let lateSignals := signalsFor EngineWrapper.firstSlot (signalsBefore .default (staleBoard 9#33)
      (PacketParser.offered later 0) (PacketParser.offered later) (later.length + 9))
    let wholeSignals := signalsFor EngineWrapper.firstSlot (signalsBefore .default (staleBoard 7#33)
      (PacketParser.offered whole 0) (PacketParser.offered whole) (whole.length + 9))
    lateSignals <:+ wholeSignals ∧ wholeSignals.length ≤ 31 + lateSignals.length := by
  intro whole later lateSignals wholeSignals
  have wholeMessages := beatMessages_turns 0 40
  have laterMessages := beatMessages_turns 7 33
  obtain ⟨last, few⟩ := restart_keeps_last_signals .default (staleBoard 7#33) (staleBoard 9#33)
    _ _ _ _ _ _ (.control .start :: (List.range 7).map fun index => .quote (turnQuote index))
    (turnQuote 7) ((List.range' 8 32).map fun index => .quote (turnQuote index))
    (by rw [EngineWrapper.Params.default, wholeMessages]; decide +kernel) (by decide +kernel)
    (by rw [EngineWrapper.Params.default, laterMessages]; decide +kernel) EngineWrapper.firstSlot
  refine ⟨last, ?_⟩
  have lost := few [.quote (turnQuote 8)]
    ((List.range' 9 31).map fun index => .quote (turnQuote index)) (by decide +kernel)
    ⟨by decide +kernel, by decide +kernel⟩
  have unwarmed : (Session.initial.decisionsFor EngineWrapper.firstSlot ⟨4, 1, 2, 100⟩
      ((.control .start :: (List.range 7).map fun index => .quote (turnQuote index)) ++
        .quote (turnQuote 7) :: [.quote (turnQuote 8)])).length = 0 := by decide +kernel
  rwa [unwarmed, Nat.zero_add] at lost

end HftPipeline.Rtl.BlockDesign
