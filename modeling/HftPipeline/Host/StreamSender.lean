import HftPipeline.Std.HalfEven
import HftPipeline.Wire.Senders

/-!
# The paced stream senders

`send_market_stream_optimized.py` and `send_market_stream_2.py` derive the planned
packet count and the announced milliseconds from the rate and the duration, check
their arguments, and pack the same three kinds of packets. The duration is an exact
rational here, and `time.time_ns()` is the last argument of every packet.
-/

namespace HftPipeline.Host

open HftPipeline.Std HftPipeline.Wire

/-- The command line of both senders, without the destination address. -/
structure Arguments where
  pps : Int
  duration : ℚ
  port : Int

namespace Arguments

variable (arguments : Arguments)

/-- `int(round(args.pps * args.duration))`. -/
def plannedPackets : Int := HalfEven.round (arguments.pps * arguments.duration)

/-- `int(round(args.duration * 1_000))`. -/
def durationMs : Int := HalfEven.round (arguments.duration * 1000)

variable {arguments}

/-- The announced milliseconds are positive for more than half a millisecond. -/
theorem durationMs_pos_iff : 1 ≤ arguments.durationMs ↔ 1 / 2000 < arguments.duration := by
  rw [durationMs, HalfEven.le_round_iff, if_neg (by decide)]
  push_cast
  constructor <;> intro bound <;> linarith

/-- The planned count has the even bound of ten million up to the tie above it. -/
theorem plannedPackets_le_iff : arguments.plannedPackets ≤ 10000000 ↔
    (arguments.pps : ℚ) * arguments.duration ≤ 20000001 / 2 := by
  rw [plannedPackets, HalfEven.round_le_iff, if_pos (by decide)]
  push_cast
  constructor <;> intro bound <;> linarith

end Arguments

/-- The quote both senders make of a sequence number. -/
def makeQuotePacket (sequence timeNs : Nat) : Option Payload :=
  packPacketInto messageQuoteUpdate (sequence &&& 1) sequence timeNs (1 + (sequence - 1) % 3)
    (18500 + sequence % 101) (1 + (sequence * 10) % 1000)

/-- `make_control_packet` of `send_market_stream_2.py`. -/
def makeControlPacket (messageType sequence targetPps durationMs count timeNs : Nat) :
    Option Payload :=
  packPacketInto messageType 0 sequence timeNs targetPps durationMs count

theorem packPacketInto_isSome_iff
    (messageType side sequence timeNs instrumentId priceTicks quantity : Nat) :
    (packPacketInto messageType side sequence timeNs instrumentId priceTicks quantity).isSome ↔
      (senderFields messageType side sequence timeNs instrumentId priceTicks quantity).Fits := by
  unfold packPacketInto pack
  split <;> simp [*]

/-- Every quote of a 32-bit sequence number can be packed. -/
theorem makeQuotePacket_isSome {sequence timeNs : Nat} (numbered : sequence < 2 ^ 32)
    (clock : timeNs < 2 ^ 64) : (makeQuotePacket sequence timeNs).isSome := by
  have side : sequence &&& 1 < 256 := by
    rw [Nat.and_one_is_mod]
    omega
  rw [makeQuotePacket, packPacketInto_isSome_iff]
  constructor <;> simp only [senderFields, messageQuoteUpdate, magicBytes] <;> first | rfl | omega

/-- Every control packet of 32-bit numbers can be packed. -/
theorem makeControlPacket_isSome {messageType sequence targetPps durationMs count timeNs : Nat}
    (control : messageType < 256) (numbered : sequence < 2 ^ 32) (rate : targetPps < 2 ^ 32)
    (duration : durationMs < 2 ^ 32) (counted : count < 2 ^ 32) (clock : timeNs < 2 ^ 64) :
    (makeControlPacket messageType sequence targetPps durationMs count timeNs).isSome := by
  rw [makeControlPacket, packPacketInto_isSome_iff]
  constructor <;> simp only [senderFields, magicBytes] <;> first | rfl | omega

/-- The packets of one sender. -/
structure StreamPackets where
  start : Arguments → Nat → Option Payload
  quote : Nat → Nat → Option Payload
  stop : Arguments → Nat → Nat → Option Payload

/-- Every packet that a run can reach fits its struct fields, at any time of the clock
that fits 64 bits. -/
structure StreamPackets.Fit (packets : StreamPackets) (arguments : Arguments) : Prop where
  start : ∀ timeNs, timeNs < 2 ^ 64 → (packets.start arguments timeNs).isSome
  quote : ∀ sequence timeNs, 1 ≤ sequence → sequence ≤ arguments.plannedPackets.toNat →
    timeNs < 2 ^ 64 → (packets.quote sequence timeNs).isSome
  stop : ∀ sent timeNs, sent ≤ arguments.plannedPackets.toNat → timeNs < 2 ^ 64 →
    (packets.stop arguments sent timeNs).isSome

namespace OptimizedSender

/-- `MAX_PPS`. -/
def maxPps : Int := 100000

/-- `MAX_PLANNED_PACKETS`. -/
def maxPlannedPackets : Int := 10000000

/-- The checks of `main`, with the errors that it prints. -/
def checkArguments (arguments : Arguments) : Except String Unit :=
  if ¬(1 ≤ arguments.pps ∧ arguments.pps ≤ maxPps) then
    .error "Error: --pps must be between 1 and 100,000"
  else if arguments.duration ≤ 0 then
    .error "Error: --duration must be greater than zero"
  else if ¬(1 ≤ arguments.port ∧ arguments.port ≤ 65535) then
    .error "Error: --port must be between 1 and 65535"
  else if ¬(1 ≤ arguments.plannedPackets ∧ arguments.plannedPackets ≤ maxPlannedPackets) then
    .error "Error: planned packet count must be between 1 and 10,000,000"
  else if arguments.durationMs > 0xFFFFFFFF then
    .error "Error: duration exceeds the protocol field"
  else .ok ()

theorem checkArguments_eq_ok {arguments : Arguments} : checkArguments arguments = .ok () ↔
    (1 ≤ arguments.pps ∧ arguments.pps ≤ maxPps) ∧ 0 < arguments.duration ∧
      (1 ≤ arguments.port ∧ arguments.port ≤ 65535) ∧
      (1 ≤ arguments.plannedPackets ∧ arguments.plannedPackets ≤ maxPlannedPackets) ∧
      arguments.durationMs ≤ 0xFFFFFFFF := by
  unfold checkArguments
  split_ifs <;> simp_all

/-! The packets of a run. Behind the checks no number is negative. -/

def startPacket (arguments : Arguments) (timeNs : Nat) : Option Payload :=
  packPacketInto messageStreamStart 0 0 timeNs arguments.pps.toNat arguments.durationMs.toNat
    arguments.plannedPackets.toNat

def endPacket (arguments : Arguments) (sentPackets timeNs : Nat) : Option Payload :=
  packPacketInto messageStreamEnd 0 sentPackets timeNs arguments.pps.toNat
    arguments.durationMs.toNat sentPackets

def packets : StreamPackets := ⟨startPacket, makeQuotePacket, endPacket⟩

/-- `END_MARKER_REPEATS`. -/
def endMarkerRepeats : Nat := 5

/-- The count of the sending loop, with the packets sent so far. -/
structure Progress where
  sentPackets : Nat
  sent : List Payload

/-- One turn of the sending loop. -/
def sendQuote (clock : Nat → Nat) (progress : Progress) (sequence : Nat) : Option Progress := do
  let packet ← makeQuotePacket sequence (clock sequence)
  return ⟨sequence, progress.sent ++ [packet]⟩

/-- The packets that `main` sends behind its checks, with the clock values that it reads
one after the other, when `KeyboardInterrupt` leaves the loop behind that many quotes. -/
def main (arguments : Arguments) (clock : Nat → Nat) (interruption : Nat) :
    Option (List Payload) := do
  let start ← startPacket arguments (clock 0)
  let sequences := List.range' 1 arguments.plannedPackets.toNat
  let progress ← (sequences.take interruption).foldlM (sendQuote clock) ⟨0, [start]⟩
  let stop ← endPacket arguments progress.sentPackets (clock (progress.sentPackets + 1))
  return progress.sent ++ List.replicate endMarkerRepeats stop

end OptimizedSender

namespace PacedSender

/-- `MAX_PPS`. -/
def maxPps : Int := 7500

def controlStart : Nat := 254
def controlEnd : Nat := 255

/-- `validate_arguments`, with the text of each `ValueError`. -/
def validateArguments (arguments : Arguments) : Except String Unit :=
  if arguments.pps ≤ 0 then
    .error "--pps must be greater than zero"
  else if arguments.pps > maxPps then
    .error "--pps cannot exceed the validated cap of 7,500 packets/s"
  else if arguments.duration ≤ 0 then
    .error "--duration must be greater than zero"
  else if ¬(1 ≤ arguments.port ∧ arguments.port ≤ 65535) then
    .error "--port must be between 1 and 65535"
  else if arguments.plannedPackets ≤ 0 then
    .error "the selected rate and duration produce no packets"
  else if arguments.plannedPackets > 0xFFFFFFFF then
    .error "planned packet count exceeds the 32-bit control field"
  else if arguments.durationMs > 0xFFFFFFFF then
    .error "duration exceeds the 32-bit control field"
  else .ok ()

theorem validateArguments_eq_ok {arguments : Arguments} : validateArguments arguments = .ok () ↔
    (0 < arguments.pps ∧ arguments.pps ≤ maxPps) ∧ 0 < arguments.duration ∧
      (1 ≤ arguments.port ∧ arguments.port ≤ 65535) ∧
      (0 < arguments.plannedPackets ∧ arguments.plannedPackets ≤ 0xFFFFFFFF) ∧
      arguments.durationMs ≤ 0xFFFFFFFF := by
  unfold validateArguments
  split_ifs <;> simp_all

def startPacket (arguments : Arguments) (timeNs : Nat) : Option Payload :=
  makeControlPacket controlStart 0 arguments.pps.toNat arguments.durationMs.toNat
    arguments.plannedPackets.toNat timeNs

def endPacket (arguments : Arguments) (sentPackets timeNs : Nat) : Option Payload :=
  makeControlPacket controlEnd sentPackets arguments.pps.toNat arguments.durationMs.toNat
    sentPackets timeNs

def packets : StreamPackets := ⟨startPacket, makeQuotePacket, endPacket⟩

end PacedSender

end HftPipeline.Host
