import HftPipeline.Host.LiveDelivery

/-!
# `phase5_decision_ila_test.py`

The test sends one packet to a transfer: the start of a stream, quotes at two fixed prices
that warm the features up, three quotes that are to show each of the signals, and the end
of the stream. Each transfer has to come back unchanged before the next packet is sent.
-/

namespace HftPipeline.Host.DecisionTest

open HftPipeline.Wire
open LiveReceiver (Dma)

/-- The constants of the module and the quantities of its quotes. -/
structure Constants where
  instrumentId : Nat
  bidPrice : Nat
  askPrice : Nat
  quantity : Nat
  buyQuantity : Nat
  sellQuantity : Nat

/-- The values they have. -/
def constants : Constants := ⟨1, 10000, 10002, 100, 300, 500⟩

/-- The arguments of a call of `send`. -/
structure Call where
  messageType : Nat
  side : Nat
  priceTicks : Nat
  quantity : Nat

/-- Why a run is left. -/
inductive Stop where
  | structError
  | dmaError
  | loopbackMismatch
deriving DecidableEq

/-- The variables of `main` and the packets that it has sent. -/
structure Test where
  sequence : Nat
  timestampNs : Nat
  sent : List Payload

section Main

variable (constants : Constants) (dma : Dma)

/-- `send` for a quote of one side, at the price of the side. -/
def quoteCall (isAsk : Bool) (quantity : Nat) : Call where
  messageType := messageQuoteUpdate
  side := if isAsk then 1 else 0
  priceTicks := if isAsk then constants.askPrice else constants.bidPrice
  quantity := quantity

/-- The calls of `send` in `main`, in order. -/
def calls : List Call :=
  ⟨messageStreamStart, 0, 0, 0⟩ ::
    quoteCall constants false constants.quantity ::
    ((List.range' 1 32).map fun sample =>
      quoteCall constants (sample % 2 == 1) constants.quantity) ++
    [quoteCall constants true constants.quantity,
      quoteCall constants false constants.buyQuantity,
      quoteCall constants true constants.sellQuantity,
      ⟨messageStreamEnd, 0, 0, 0⟩]

/-- `build_packet`, as `send` calls it. -/
def buildPacket (sequence timestampNs : Nat) (call : Call) : Option Payload :=
  pack ⟨magicBytes, 1, call.messageType, call.side, 0, sequence, timestampNs,
    constants.instrumentId, call.priceTicks, call.quantity⟩

/-- `dma_transfer`. The receive buffer is as long as the packet and has been cleared. -/
def dmaTransfer (transfer : Nat) (packet : Payload) : Except Stop Unit :=
  match dma transfer packet.1 with
  | none => .error .dmaError
  | some bytes =>
      let received := bytes.take packetSize ++
        List.replicate (packetSize - (bytes.take packetSize).length) 0#8
      if received = packet.1 then .ok () else .error .loopbackMismatch

/-- `send`. -/
def send (test : Test) (call : Call) : Except Stop Test :=
  match buildPacket constants test.sequence test.timestampNs call with
  | none => .error .structError
  | some packet => do
      dmaTransfer dma test.sent.length packet
      return ⟨test.sequence + 1, test.timestampNs + 100, test.sent ++ [packet]⟩

/-- `main` up to some number of its calls, between which it waits for the user. -/
def run (count : Nat) : Except Stop Test :=
  ((calls constants).take count).foldlM (send constants dma) ⟨1, 1000, []⟩

end Main

end HftPipeline.Host.DecisionTest
