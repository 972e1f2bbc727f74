import HftPipeline.Wire.Packet

/-!
# Packets of the senders

`packPacketInto` is the only packer of the optimized stream sender and
`buildPacket` is the whole stream of the live integration sender, one packet per
index. Both read the clock, so the timestamp is an argument here.
-/

namespace HftPipeline.Wire

/-- The tuple that `pack_packet_into` hands to the struct. -/
def senderFields (messageType side sequence timestampNs instrumentId priceTicks quantity : Nat) :
    Fields where
  magic := magicBytes
  version := 1
  messageType := messageType
  side := side
  reserved := 0
  sequence := sequence
  timestampNs := timestampNs
  instrumentId := instrumentId
  priceTicks := priceTicks
  quantity := quantity

/-- `pack_packet_into` of `send_market_stream_optimized.py`. -/
def packPacketInto (messageType side sequence timestampNs instrumentId priceTicks quantity : Nat) :
    Option Payload :=
  pack (senderFields messageType side sequence timestampNs instrumentId priceTicks quantity)

/-- The tuple that `build_packet` of `phase4_9_live_udp_sender.py` packs. -/
def buildFields (packetIndex totalPackets targetPps durationMs timestampNs : Nat) : Fields :=
  let sequence := packetIndex + 1
  if packetIndex = 0 then
    senderFields messageStreamStart 0 sequence timestampNs targetPps durationMs totalPackets
  else if packetIndex = totalPackets - 1 then
    senderFields messageStreamEnd 0 sequence timestampNs 0 0 0
  else
    senderFields messageQuoteUpdate (sequence &&& 1) sequence timestampNs (1 + packetIndex % 4)
      (100000 + packetIndex % 1000) (1 + packetIndex % 100)

/-- `build_packet`, with `time.time_ns()` as the last argument. -/
def buildPacket (packetIndex totalPackets targetPps durationMs timestampNs : Nat) :
    Option Payload :=
  pack (buildFields packetIndex totalPackets targetPps durationMs timestampNs)

/-- The arguments for which every packet of a run fits its struct fields. -/
structure SenderRange (totalPackets targetPps durationMs : Nat) : Prop where
  total : totalPackets < 2 ^ 32
  pps : targetPps < 2 ^ 32
  duration : durationMs < 2 ^ 32

/-- Every packet of a run in range can be packed. -/
theorem buildFields_fits {packetIndex totalPackets targetPps durationMs timestampNs : Nat}
    (range : SenderRange totalPackets targetPps durationMs) (inside : packetIndex < totalPackets)
    (clock : timestampNs < 2 ^ 64) :
    (buildFields packetIndex totalPackets targetPps durationMs timestampNs).Fits := by
  obtain ⟨total, pps, duration⟩ := range
  have side : (packetIndex + 1) &&& 1 < 256 := by
    rw [Nat.and_one_is_mod]
    omega
  unfold buildFields
  simp only
  split
  · constructor <;> simp [senderFields, magicBytes, messageStreamStart] <;> omega
  · split
    · constructor <;> simp [senderFields, magicBytes, messageStreamEnd] <;> omega
    · constructor <;> simp [senderFields, magicBytes, messageQuoteUpdate] <;> omega

theorem buildPacket_eq {packetIndex totalPackets targetPps durationMs timestampNs : Nat}
    (range : SenderRange totalPackets targetPps durationMs) (inside : packetIndex < totalPackets)
    (clock : timestampNs < 2 ^ 64) :
    ∃ payload,
      buildPacket packetIndex totalPackets targetPps durationMs timestampNs = some payload ∧
      unpack payload = buildFields packetIndex totalPackets targetPps durationMs timestampNs := by
  have fits := buildFields_fits range inside clock
  have packed : buildPacket packetIndex totalPackets targetPps durationMs timestampNs =
      some ⟨_, Fields.length_layout fits⟩ := by
    rw [buildPacket, pack, dif_pos fits]
  exact ⟨_, packed, unpack_pack packed⟩

/-- The datagrams that the live sender emits, one for each index, with the clock
values that its calls read. -/
structure SendsStream (totalPackets targetPps durationMs : Nat) (clock : Nat → Nat)
    (payloads : List Payload) : Prop where
  count : payloads.length = totalPackets
  packet : ∀ index, (inside : index < payloads.length) →
    buildPacket index totalPackets targetPps durationMs (clock index) = some payloads[index]

namespace SendsStream

variable {totalPackets targetPps durationMs : Nat} {clock : Nat → Nat} {payloads : List Payload}
  (sends : SendsStream totalPackets targetPps durationMs clock payloads)

include sends

theorem unpack {index : Nat} (inside : index < payloads.length) : Wire.unpack payloads[index] =
    buildFields index totalPackets targetPps durationMs (clock index) :=
  unpack_pack (sends.packet index inside)

/-- The sequence numbers count from one. -/
theorem sequence {index : Nat} (inside : index < payloads.length) :
    (Wire.unpack payloads[index]).sequence = index + 1 := by
  rw [sends.unpack inside, buildFields]
  split_ifs <;> rfl

/-- The receiver accepts every packet of the sender. -/
theorem valid {index : Nat} (inside : index < payloads.length) :
    protocolIsValid (Wire.unpack payloads[index]) = true := by
  have parity : (index + 1) % 2 = 0 ∨ (index + 1) % 2 = 1 := by omega
  rw [sends.unpack inside, protocolIsValid_iff]
  unfold buildFields
  split_ifs <;> simp [senderFields, messageQuoteUpdate, messageStreamStart,
    messageStreamEnd, parity]

/-- Only the first packet is a `STREAM_START`, and it announces their number. -/
theorem isStart {index : Nat} (inside : index < payloads.length) :
    (Wire.unpack payloads[index]).messageType = messageStreamStart ↔ index = 0 := by
  rw [sends.unpack inside]
  unfold buildFields
  split_ifs with first last <;>
    simp [senderFields, messageQuoteUpdate, messageStreamStart, messageStreamEnd, first]

theorem planned (inside : 0 < payloads.length) :
    (Wire.unpack payloads[0]).quantity = totalPackets := by
  rw [sends.unpack inside]
  rfl

/-- Only the last packet of several is a `STREAM_END`. -/
theorem isEnd (several : 2 ≤ totalPackets) {index : Nat} (inside : index < payloads.length) :
    (Wire.unpack payloads[index]).messageType = messageStreamEnd ↔ index + 1 = totalPackets := by
  rw [sends.unpack inside]
  unfold buildFields
  split_ifs with first last <;>
    simp [senderFields, messageQuoteUpdate, messageStreamStart, messageStreamEnd] <;> omega

end SendsStream

/-- In range, the sender emits all of its packets. -/
theorem sendsStream_exists {totalPackets targetPps durationMs : Nat} {clock : Nat → Nat}
    (range : SenderRange totalPackets targetPps durationMs)
    (bounded : ∀ index < totalPackets, clock index < 2 ^ 64) :
    ∃ payloads, SendsStream totalPackets targetPps durationMs clock payloads := by
  choose payload built using fun index : Fin totalPackets =>
    (buildPacket_eq range index.2 (bounded index index.2)).imp fun _ => And.left
  refine ⟨List.ofFn payload, List.length_ofFn, ?_⟩
  intro index inside
  rw [List.length_ofFn] at inside
  rw [List.getElem_ofFn]
  exact built ⟨index, inside⟩

end HftPipeline.Wire
