import HftPipeline.Rtl.PacketParser
import HftPipeline.Rtl.EngineWrapper

/-!
# The parser wired to the engine

The block design drives the packet ports of the engine from the registers of the
parser in batch mode. Both share clock and reset.
-/

namespace HftPipeline.Rtl.BlockDesign

structure State where
  parser : PacketParser.State
  engine : EngineWrapper.State

/-- The connections from the parser to the engine. -/
def packetPorts (parser : PacketParser.State) : EngineWrapper.Input where
  packetValid := parser.packetValid
  packetError := parser.packetError
  messageType := parser.messageType
  side := parser.side
  seq := parser.seq
  timestampNs := parser.timestampNs
  instrumentId := parser.instrumentId
  priceTicks := parser.priceTicks
  qntity := parser.quantity

/-- One clock. `hft_packet_parser_wrapper` instantiates the parser with
`TLAST_PER_PACKET = 0`. -/
def next (params : EngineWrapper.Params) (resetn : Bool) (state : State)
    (input : PacketParser.Input) : State where
  parser := PacketParser.next false resetn state.parser input
  engine := EngineWrapper.next params resetn state.engine (packetPorts state.parser)

end HftPipeline.Rtl.BlockDesign
