import Mathlib.Data.BitVec
import HftPipeline.Std.Handshake

/-!
# `axis_passthrough`

The Phase 3 loopback block: one register between the two DMA channels, loaded
whenever it is empty or being drained.
-/

namespace HftPipeline.Rtl.AxisPassthrough

open HftPipeline.Std HftPipeline.Std.Handshake

/-- The AXI4-Stream ports driven by the two DMA channels in one cycle. -/
structure Input (dataWidth : Nat) where
  sAxisTdata : BitVec dataWidth
  sAxisTvalid : Bool
  sAxisTlast : Bool
  mAxisTready : Bool
deriving DecidableEq

structure State (dataWidth : Nat) where
  mAxisTdata : BitVec dataWidth
  mAxisTvalid : Bool
  mAxisTlast : Bool
deriving DecidableEq

variable {dataWidth : Nat}

/-- Ready when the output register is empty or being drained. -/
def sAxisTready (state : State dataWidth) (input : Input dataWidth) : Bool :=
  !state.mAxisTvalid || input.mAxisTready

/-- The registers after a cycle with `aresetn` low. -/
def reset : State dataWidth := ⟨BitVec.ofNat dataWidth 0, false, false⟩

/-- The clocked block. -/
def next (aresetn : Bool) (state : State dataWidth) (input : Input dataWidth) : State dataWidth :=
  if aresetn = false then
    reset
  else if sAxisTready state input then
    if input.sAxisTvalid then
      { mAxisTvalid := true, mAxisTdata := input.sAxisTdata, mAxisTlast := input.sAxisTlast }
    else
      { state with mAxisTvalid := false }
  else
    state

/-- The registers in every cycle of a run from reset. -/
def run (input : Nat → Input dataWidth) (cycle : Nat) : State dataWidth :=
  Clocked.stateAt (next true) reset input cycle

/-- The slave port of a run, with `tdata` and `tlast` as its beats. -/
def sAxis (input : Nat → Input dataWidth) : Port (BitVec dataWidth × Bool) where
  valid cycle := (input cycle).sAxisTvalid
  ready cycle := sAxisTready (run input cycle) (input cycle)
  beat cycle := ((input cycle).sAxisTdata, (input cycle).sAxisTlast)

/-- The master port of a run. -/
def mAxis (input : Nat → Input dataWidth) : Port (BitVec dataWidth × Bool) where
  valid cycle := (run input cycle).mAxisTvalid
  ready cycle := (input cycle).mAxisTready
  beat cycle := ((run input cycle).mAxisTdata, (run input cycle).mAxisTlast)

theorem elasticRegister (input : Nat → Input dataWidth) :
    ElasticRegister (sAxis input) (mAxis input) := by
  have step (cycle : Nat) : run input (cycle + 1) = next true (run input cycle) (input cycle) :=
    Clocked.stateAt_succ _ _ _ _
  constructor
  · rfl
  · intro cycle
    rfl
  · intro cycle free
    have free : sAxisTready (run input cycle) (input cycle) = true := free
    cases offered : (input cycle).sAxisTvalid <;> simp [mAxis, sAxis, step, next, free, offered]
  · intro cycle free offered
    have free : sAxisTready (run input cycle) (input cycle) = true := free
    have offered : (input cycle).sAxisTvalid = true := offered
    simp [mAxis, sAxis, step, next, free, offered]
  · intro cycle closed
    have closed : sAxisTready (run input cycle) (input cycle) = false := closed
    simp [mAxis, step, next, closed]

end HftPipeline.Rtl.AxisPassthrough
