import HftPipeline.Wire.Packet

/-!
# Datagrams

Every receiver of the repository reads a datagram into a buffer of 2048 bytes and
looks at its bytes only when their number is the packet size.
-/

namespace HftPipeline.Host

open HftPipeline.Wire

/-- A sender: the IPv4 address and the port of its socket. -/
structure Address where
  ip : BitVec 32
  port : BitVec 16
deriving DecidableEq

/-- One UDP datagram, of any length. -/
structure Datagram where
  bytes : List Byte
  sender : Address
deriving DecidableEq

/-- A datagram, and whether an allocation made while it is processed succeeds. -/
structure Arrival where
  datagram : Datagram
  allocated : Bool
deriving DecidableEq

/-- `MAX_DATAGRAM_SIZE`. -/
def maxDatagramSize : Nat := 2048

/-- What a receive call stores: the kernel shortens a datagram to the buffer. -/
def Datagram.stored (datagram : Datagram) : List Byte := datagram.bytes.take maxDatagramSize

/-- The packet in the buffer, when the received length is `PACKET_SIZE`. -/
def datagramPayload (datagram : Datagram) : Option Payload :=
  if sized : datagram.stored.length = packetSize then some ⟨datagram.stored, sized⟩ else none

theorem Datagram.stored_of_length {datagram : Datagram}
    (sized : datagram.bytes.length = packetSize) : datagram.stored = datagram.bytes := by
  apply List.take_of_length_le
  rw [sized]
  decide

/-- Only datagrams of exactly the packet size hold a packet. -/
theorem datagramPayload_eq_some {datagram : Datagram} {payload : Payload} :
    datagramPayload datagram = some payload ↔ datagram.bytes = payload.1 := by
  constructor
  · intro sized
    unfold datagramPayload at sized
    split at sized
    case isFalse => cases sized
    case isTrue stored =>
      have exact : datagram.bytes.length = packetSize := by
        rw [Datagram.stored, List.length_take, maxDatagramSize, packetSize] at stored
        rw [packetSize]
        omega
      cases sized
      exact (Datagram.stored_of_length exact).symm
  · intro same
    have exact : datagram.bytes.length = packetSize := by rw [same, payload.2]
    have stored := Datagram.stored_of_length exact
    rw [datagramPayload, dif_pos (by rw [stored]; exact exact)]
    exact congrArg some (Subtype.ext (stored.trans same))

end HftPipeline.Host
