import HftPipeline.Rtl.AxisPassthrough
import HftPipeline.Rtl.PacketFraming

/-!
# Lossless forwarding

The parser decodes on the side: its forwarding path is the register of
`axis_passthrough` with a `tkeep` added, and neither path loses, repeats, changes
or reorders a beat.
-/

namespace HftPipeline.Rtl

open HftPipeline.Std HftPipeline.Std.Handshake

namespace PacketParser

variable (tlastPerPacket : Bool) (input : Nat → Input)

/-- The slave port of a run from reset. -/
def sAxis : Port Beat where
  valid cycle := (input cycle).sAxisTvalid
  ready cycle := sAxisTready (run tlastPerPacket reset input cycle) (input cycle)
  beat cycle := (input cycle).beat

/-- The beat at the output register. -/
def State.outputBeat (state : State) : Beat :=
  ⟨state.mAxisTdata, state.mAxisTkeep, state.mAxisTlast⟩

/-- The master port of a run from reset. -/
def mAxis : Port Beat where
  valid cycle := (run tlastPerPacket reset input cycle).mAxisTvalid
  ready cycle := (input cycle).mAxisTready
  beat cycle := (run tlastPerPacket reset input cycle).outputBeat

/-! Decoding a beat changes no output of the elastic register. -/

/-- Clearing the pulses does not touch the output's valid line. -/
@[simp] theorem clearPulses_mAxisTvalid (state : State) :
    (clearPulses state).mAxisTvalid = state.mAxisTvalid := rfl

/-- Clearing the pulses does not touch the beat held at the output. -/
@[simp] theorem clearPulses_outputBeat (state : State) :
    (clearPulses state).outputBeat = state.outputBeat := rfl

/-- Storing a word does not touch the output's valid line. -/
@[simp] theorem storeFields_mAxisTvalid (state : State) (data : BitVec 32) :
    (storeFields state data).mAxisTvalid = state.mAxisTvalid := by
  unfold storeFields; split_ifs <;> rfl

/-- Storing a word does not touch the beat held at the output. -/
@[simp] theorem storeFields_outputBeat (state : State) (data : BitVec 32) :
    (storeFields state data).outputBeat = state.outputBeat := by
  unfold storeFields; split_ifs <;> rfl

/-- Closing a beat does not touch the output's valid line. -/
@[simp] theorem closeBeat_mAxisTvalid (state : State) (errors : BitVec 8) :
    (closeBeat state errors).mAxisTvalid = state.mAxisTvalid := by
  unfold closeBeat; split_ifs <;> rfl

/-- Closing a beat does not touch the beat held at the output. -/
@[simp] theorem closeBeat_outputBeat (state : State) (errors : BitVec 8) :
    (closeBeat state errors).outputBeat = state.outputBeat := by
  unfold closeBeat; split_ifs <;> rfl

/-- The output registers after a cycle, without the decoder. -/
theorem next_output (state : State) (input : Input) :
    (next tlastPerPacket true state input).mAxisTvalid =
        (if sAxisTready state input then input.sAxisTvalid else state.mAxisTvalid) ∧
      (next tlastPerPacket true state input).outputBeat =
        if sAxisTready state input && input.sAxisTvalid then input.beat else state.outputBeat := by
  cases free : sAxisTready state input with
  | false => simp [next, forward, axisFire, free]
  | true =>
      cases offered : input.sAxisTvalid with
      | false => simp [next, forward, axisFire, free, offered, State.outputBeat, clearPulses]
      | true => simp [next, forward, free, offered, State.outputBeat, Input.beat]

/-- The parser's output is an elastic register behind its input. -/
theorem elasticRegister :
    ElasticRegister (sAxis tlastPerPacket input) (mAxis tlastPerPacket input) := by
  have step (cycle : Nat) :=
    next_output tlastPerPacket (run tlastPerPacket reset input cycle) (input cycle)
  constructor
  · rfl
  · intro cycle
    rfl
  · intro cycle free
    exact (step cycle).1.trans (if_pos free)
  · intro cycle free offered
    have taken : (sAxisTready (run tlastPerPacket reset input cycle) (input cycle) &&
        (input cycle).sAxisTvalid) = true := by
      rw [Bool.and_eq_true]
      exact ⟨free, offered⟩
    exact (step cycle).2.trans (if_pos taken)
  · intro cycle closed
    have refused : ¬ (sAxisTready (run tlastPerPacket reset input cycle) (input cycle) &&
        (input cycle).sAxisTvalid) = true := by
      rw [Bool.and_eq_true]
      rintro ⟨free, -⟩
      exact Bool.noConfusion (closed.symm.trans free)
    refine ⟨(step cycle).1.trans (if_neg ?_), (step cycle).2.trans (if_neg refused)⟩
    rw [Bool.not_eq_true]
    exact closed

end PacketParser

/-- Both forwarding paths are lossless from reset on, whatever the two neighbours do. -/
theorem forwarding_is_lossless {dataWidth : Nat}
    (passed : Nat → AxisPassthrough.Input dataWidth) (tlastPerPacket : Bool)
    (parsed : Nat → PacketParser.Input) :
    Lossless (AxisPassthrough.sAxis passed) (AxisPassthrough.mAxis passed) ∧
      Lossless (PacketParser.sAxis tlastPerPacket parsed)
        (PacketParser.mAxis tlastPerPacket parsed) :=
  ⟨(AxisPassthrough.elasticRegister passed).lossless,
    (PacketParser.elasticRegister tlastPerPacket parsed).lossless⟩

end HftPipeline.Rtl
