import HftPipeline.Refinement.Scores

/-!
# The engine refines the pipeline

The five refinements share one pipeline, so the wrapper refines it cycle by
cycle, from reset on and for any inputs. What leaves the wrapper in a cycle is
then the decision that the sequential session makes for the message eight cycles
earlier, when no control message overtakes it.
-/

namespace HftPipeline.Rtl.EngineWrapper

open HftPipeline.Spec HftPipeline.Std

/-- The four modules that a start clears show their stages of the pipeline. -/
structure RefinesFront (state : State) (pipe : Pipe) : Prop where
  filter : PacketFilter.Refines state.packetFilter pipe
  tracker : SequenceTracker.Refines state.sequenceTracker pipe
  book : InstrumentBook.Refines state.instrumentBook pipe
  features : FeatureEngine.Refines state.featureEngine pipe

/-- Every module shows its stages of the pipeline. -/
structure Refines (state : State) (pipe : Pipe) : Prop extends RefinesFront state pipe where
  decision : WeightedDecision.Refines decisionParams state.weightedDecision pipe

/-- The weights that the wrapper instantiates. -/
def weights : Weights := decisionParams.weights

/-- The weights of the specification are the constants the instance is given. -/
theorem weights_eq : weights = ⟨4, 1, 2, 100⟩ := rfl

/-- With these constants no score can wrap. -/
theorem moderate_decisionParams : decisionParams.Moderate := by
  constructor <;> decide

/-- One cycle with `resetn` low empties the pipeline, whatever the registers held. -/
theorem Refines.reset (params : Params) (before : State) (held : Input) :
    Refines (next params false before held) Pipe.initial where
  filter := PacketFilter.Refines.reset
  tracker := SequenceTracker.Refines.reset
  book := InstrumentBook.Refines.reset _
  features := FeatureEngine.Refines.reset _
  decision := WeightedDecision.Refines.reset _

/-- One clock keeps the front stages a refinement of the pipe's. -/
theorem RefinesFront.next {state : State} {pipe : Pipe} (refines : RefinesFront state pipe)
    (params : Params) (input : Input) :
    RefinesFront (next params true state input) (pipe.next weights (input.message params.ids)) where
  filter := refines.filter.next params.ids weights input
  tracker := refines.tracker.next refines.filter weights _
  book := refines.book.next refines.filter refines.tracker weights _
  features := refines.features.next refines.filter refines.book weights _

/-- One clock of the wrapper is one clock of the pipeline. -/
theorem Refines.next {state : State} {pipe : Pipe} (refines : Refines state pipe) (params : Params)
    (input : Input) :
    Refines (next params true state input) (pipe.next weights (input.message params.ids)) where
  toRefinesFront := refines.toRefinesFront.next params input
  decision := refines.decision.next moderate_decisionParams refines.features _

section Run

variable (params : Params) (before : State) (held : Input) (input : Nat → Input)

/-- The registers in every cycle after a cycle with `resetn` low. The state
before that cycle is arbitrary, and so are the contents of the history buffers. -/
def run (cycle : Nat) : State :=
  Clocked.stateAt (EngineWrapper.next params true) (EngineWrapper.next params false before held)
    input cycle

/-- The messages that the input ports carry. -/
def messages (cycle : Nat) : Option Message := (input cycle).message params.ids

/-- Every run of the wrapper refines the pipe on its messages. -/
theorem refines_run (cycle : Nat) :
    Refines (run params before held input cycle)
      (Pipe.run weights (messages params input) cycle) := by
  apply Clocked.simulates Refines (fun input message => message = input.message params.ids)
  · exact Refines.reset params before held
  · rintro state pipe input _ refines rfl
    exact refines.next params input
  · exact fun _ => rfl

/-- The output ports show an optional decision. -/
def Output.Shows (output : Output) : Option Decision → Prop
  | none => output.signalValid = false
  | some decision =>
      output.signalValid = true ∧ output.signalInstrumentSlot = decision.slot.1 ∧
        output.signalTimestampNs = decision.timestamp ∧
        output.directionScore.toInt = decision.score ∧
        output.requiredScore.toInt = decision.required ∧
        output.tradeSignal = decision.signal.bits

/-- The outputs show the signal of the pipe. -/
theorem shows_signal {state : State} {pipe : Pipe} (refines : Refines state pipe) :
    (output state).Shows pipe.signal := by
  have signal := refines.decision.signal
  revert signal
  cases pipe.signal <;> exact id

/-- Nothing is signalled in the first eight cycles. -/
theorem silent_early {cycle : Nat} (early : cycle < 8) :
    (output (run params before held input cycle)).signalValid = false := by
  have shown := shows_signal (refines_run params before held input cycle)
  rwa [Pipe.signal_early weights (messages params input) early] at shown

/-- Every later cycle shows what the message eight cycles before led to. -/
theorem shows_decisionAt (cycle : Nat) :
    (output (run params before held input (cycle + 8))).Shows
      (Pipe.decisionAt weights (messages params input) cycle) := by
  have shown := shows_signal (refines_run params before held input (cycle + 8))
  rwa [Pipe.signal_run] at shown

end Run

end HftPipeline.Rtl.EngineWrapper
