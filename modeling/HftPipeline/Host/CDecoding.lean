import Mathlib.Tactic.IntervalCases
import HftPipeline.Host.CReceiver
import HftPipeline.Host.StreamAccount

/-!
# Raw offsets of the C receiver

`process_datagram` reads bytes and big-endian words at fixed offsets and compares
unsigned numbers of 8 and 32 bits. Its branches are those of the unpacked fields,
so that it can be sorted by what the datagram requests.
-/

namespace HftPipeline.Host.CReceiver

open HftPipeline.Std HftPipeline.Wire

section Words

variable {width first second : Nat}

/-- Numbers that fit a word are compared as the words are. -/
theorem ofNat_lt_ofNat (firstFits : first < 2 ^ width) (secondFits : second < 2 ^ width) :
    BitVec.ofNat width first < BitVec.ofNat width second ↔ first < second := by
  rw [BitVec.lt_def, BitVec.toNat_ofNat, BitVec.toNat_ofNat, Nat.mod_eq_of_lt firstFits,
    Nat.mod_eq_of_lt secondFits]

/-- A word that holds a number that fits it stands for this number. -/
theorem toNat_eq {word : BitVec width} {number : Nat} (holds : word = BitVec.ofNat width number)
    (fits : number < 2 ^ width) : word.toNat = number := by
  rw [holds, BitVec.toNat_ofNat, Nat.mod_eq_of_lt fits]

/-- Words of numbers that fit are equal exactly when the numbers are. -/
theorem ofNat_eq_ofNat (firstFits : first < 2 ^ width) (secondFits : second < 2 ^ width) :
    BitVec.ofNat width first = BitVec.ofNat width second ↔ first = second := by
  rw [← BitVec.toNat_inj, BitVec.toNat_ofNat, BitVec.toNat_ofNat, Nat.mod_eq_of_lt firstFits,
    Nat.mod_eq_of_lt secondFits]

end Words

section Bytes

variable (packet : Payload)

/-- Four bytes inside the packet are the four `byte` reads. -/
theorem take_drop_four {offset : Nat} (inside : offset + 4 ≤ packetSize) :
    (packet.1.drop offset).take 4 =
      [packet.byte offset, packet.byte (offset + 1), packet.byte (offset + 2),
        packet.byte (offset + 3)] := by
  have size := packet.2
  apply List.ext_getElem
  · rw [List.length_take, List.length_drop, size]
    simp only [List.length_cons, List.length_nil]
    omega
  · intro place shorter within
    simp only [List.length_cons, List.length_nil] at within
    have held : offset + place < packet.1.length := by omega
    have byte : packet.1[offset + place] = packet.byte (offset + place) := by
      simp [Payload.byte, List.getElem?_eq_getElem held]
    rw [List.getElem_take, List.getElem_drop, byte]
    have four : place < 4 := within
    interval_cases place <;> rfl

/-- `load_be32` reads the number at its offset. -/
theorem loadBe32_eq {offset : Nat} (inside : offset + 4 ≤ packetSize) :
    loadBe32 packet offset = BitVec.ofNat 32 (packet.number offset 4) := by
  have bound := packet.number_lt offset 4
  apply BitVec.eq_of_toNat_eq
  rw [loadBe32, BigEndian.toNat_word, Payload.number, take_drop_four packet inside,
    BitVec.toNat_ofNat, Nat.mod_eq_of_lt]
  rwa [← take_drop_four packet inside]

/-- A byte is compared as the number of its field. -/
theorem byte_eq_iff {offset value : Nat} (inside : offset < packetSize) (small : value < 256) :
    packet.byte offset = BitVec.ofNat 8 value ↔ packet.number offset 1 = value := by
  rw [Payload.number_one packet inside, ← BitVec.toNat_inj, BitVec.toNat_ofNat,
    Nat.mod_eq_of_lt small]

/-- The comparison of `magic` and `version`. -/
theorem header_iff : (packet.1.take 4 ≠ magicBytes ∨ packet.byte 4 ≠ 1#8) ↔
    ((unpack packet).magic ≠ magicBytes ∨ (unpack packet).version ≠ 1) := by
  rw [ne_eq, ne_eq, byte_eq_iff packet (by decide) (by decide : 1 < 256)]
  rfl

/-- Comparing byte 5 is comparing the unpacked message type. -/
theorem messageType_iff {value : Nat} (small : value < 256) :
    packet.byte 5 = BitVec.ofNat 8 value ↔ (unpack packet).messageType = value :=
  byte_eq_iff packet (by decide) small

/-- The comparisons of the type, the side and the flags of a quote. -/
theorem quoteForm_iff : (packet.byte 5 ≠ 1#8 ∨ packet.byte 6 > 1#8 ∨ packet.byte 7 ≠ 0#8) ↔
    ¬((unpack packet).messageType = messageQuoteUpdate ∧
      ((unpack packet).side = 0 ∨ (unpack packet).side = 1) ∧ (unpack packet).reserved = 0) := by
  have type := messageType_iff packet (by decide : messageQuoteUpdate < 256)
  have flags : packet.byte 7 = 0#8 ↔ (unpack packet).reserved = 0 :=
    byte_eq_iff packet (by decide) (by decide : 0 < 256)
  have number : (unpack packet).side = (packet.byte 6).toNat := packet.number_one (by decide)
  have side : packet.byte 6 > 1#8 ↔ ¬((unpack packet).side = 0 ∨ (unpack packet).side = 1) := by
    rw [number, gt_iff_lt, BitVec.lt_def]
    simp only [BitVec.toNat_ofNat]
    omega
  rw [ne_eq, ne_eq, side, flags, show packet.byte 5 = 1#8 ↔ _ from type, not_and_or, not_and_or]

/-- The comparisons of a `STREAM_START`. -/
theorem announced_iff : (loadBe32 packet 20 < 1#32 ∨ loadBe32 packet 24 < 1#32 ∨
      loadBe32 packet 28 < 1#32 ∨ loadBe32 packet 28 > maxPlannedPackets) ↔
    ¬(1 ≤ (unpack packet).instrumentId ∧ 1 ≤ (unpack packet).priceTicks ∧
      1 ≤ (unpack packet).quantity ∧ (unpack packet).quantity ≤ largestStream) := by
  have fits := unpack_fits packet
  have pps := fits.instrumentId
  have duration := fits.priceTicks
  have planned := fits.quantity
  simp only [unpack] at pps duration planned
  rw [loadBe32_eq packet (by decide), loadBe32_eq packet (by decide),
    loadBe32_eq packet (by decide), maxPlannedPackets, gt_iff_lt,
    ofNat_lt_ofNat pps (by decide), ofNat_lt_ofNat duration (by decide),
    ofNat_lt_ofNat planned (by decide), ofNat_lt_ofNat (by decide) planned]
  simp only [unpack, largestStream]
  omega

end Bytes

/-- `process_datagram`, sorted by what the datagram requests. -/
def respond (state : State) (sender : Address) (allocated : Bool) : Request → Except Stop State
  | .invalid => .ok state.countInvalid
  | .ignored => .ok state
  | .start targetPps durationMs planned _ _ =>
      (resetStream allocated state sender (BitVec.ofNat 32 targetPps)
        (BitVec.ofNat 32 planned)).map (printStreamStart (BitVec.ofNat 32 durationMs))
  | .finish quantity sequence _ =>
      if state.active = false ∨ sameSender sender state.sender = false then .ok state
      else .ok (finishStream state (BitVec.ofNat 32 sequence) (BitVec.ofNat 32 quantity))
  | .quote sequence _ =>
      if state.active = true ∧ sameSender sender state.sender = true ∧
          ¬BitVec.ofNat 32 sequence < 1#32 ∧
          ¬BitVec.ofNat 32 sequence > state.plannedPackets then
        recordQuote state (BitVec.ofNat 32 sequence)
      else .ok state.countInvalid

section Branches

variable (state : State) (sender : Address) (allocated : Bool) {packet : Payload}

/-- The test for a START reads the unpacked message type. -/
theorem starts_iff (packet : Payload) :
    packet.byte 5 = 4#8 ↔ (unpack packet).messageType = messageStreamStart :=
  messageType_iff packet (by decide)

/-- The test for an END reads the unpacked message type. -/
theorem finishes_iff (packet : Payload) :
    packet.byte 5 = 5#8 ↔ (unpack packet).messageType = messageStreamEnd :=
  messageType_iff packet (by decide)

/-- A `STREAM_START` is announced, or ignored. -/
theorem processPacket_start
    (header : ¬((unpack packet).magic ≠ magicBytes ∨ (unpack packet).version ≠ 1))
    (start : (unpack packet).messageType = messageStreamStart) :
    processPacket state sender allocated packet =
      respond state sender allocated (requestOf packet) := by
  have quantityWord : loadBe32 packet 28 = BitVec.ofNat 32 (unpack packet).quantity :=
    loadBe32_eq packet (by decide)
  have ppsWord : loadBe32 packet 20 = BitVec.ofNat 32 (unpack packet).instrumentId :=
    loadBe32_eq packet (by decide)
  have durationWord : loadBe32 packet 24 = BitVec.ofNat 32 (unpack packet).priceTicks :=
    loadBe32_eq packet (by decide)
  rw [processPacket, if_neg (mt (header_iff packet).mp header), requestOf]
  simp only [if_neg header]
  rw [if_pos ((starts_iff packet).mpr start), if_pos start]
  by_cases announced : 1 ≤ (unpack packet).instrumentId ∧ 1 ≤ (unpack packet).priceTicks ∧
      1 ≤ (unpack packet).quantity ∧ (unpack packet).quantity ≤ largestStream
  · rw [if_neg (mt (announced_iff packet).mp (not_not_intro announced)), dif_pos announced,
      ppsWord, durationWord, quantityWord]
    rfl
  · rw [if_pos ((announced_iff packet).mpr announced), dif_neg announced]
    rfl

/-- What is left behind the stream messages is a quote, or it is invalid. -/
theorem processPacket_quote
    (header : ¬((unpack packet).magic ≠ magicBytes ∨ (unpack packet).version ≠ 1))
    (start : (unpack packet).messageType ≠ messageStreamStart)
    (finish : (unpack packet).messageType ≠ messageStreamEnd) :
    processPacket state sender allocated packet =
      respond state sender allocated (requestOf packet) := by
  have sequenceWord : loadBe32 packet 8 = BitVec.ofNat 32 (unpack packet).sequence :=
    loadBe32_eq packet (by decide)
  have form := quoteForm_iff packet
  rw [processPacket, if_neg (mt (header_iff packet).mp header), requestOf]
  simp only [if_neg header]
  rw [if_neg (mt (starts_iff packet).mp start), if_neg start,
    if_neg (mt (finishes_iff packet).mp finish), if_neg finish, sequenceWord]
  by_cases quote : (unpack packet).messageType = messageQuoteUpdate ∧
      ((unpack packet).side = 0 ∨ (unpack packet).side = 1) ∧ (unpack packet).reserved = 0
  · have plain := mt form.mp (not_not_intro quote)
    simp only [not_or, not_not] at plain
    obtain ⟨type, side, flags⟩ := plain
    rw [if_pos quote, respond]
    cases active : state.active with
    | false => simp [State.countInvalid, active]
    | true =>
        cases same : sameSender sender state.sender with
        | false => simp [State.countInvalid, active]
        | true =>
            by_cases within : ¬BitVec.ofNat 32 (unpack packet).sequence < 1#32 ∧
                ¬BitVec.ofNat 32 (unpack packet).sequence > state.plannedPackets
            · simp [type, side, flags, within]
            · have outside : BitVec.ofNat 32 (unpack packet).sequence < 1#32 ∨
                  BitVec.ofNat 32 (unpack packet).sequence > state.plannedPackets := by
                simpa only [not_and_or, not_not] using within
              rw [if_pos (Or.inr (Or.inr (Or.inr outside)))]
              simp only [Bool.true_eq_false, if_false, true_and, if_neg within, State.countInvalid,
                active, if_true]
  · have refused : packet.byte 5 ≠ 1#8 ∨ packet.byte 6 > 1#8 ∨ packet.byte 7 ≠ 0#8 ∨
        BitVec.ofNat 32 (unpack packet).sequence < 1#32 ∨
        BitVec.ofNat 32 (unpack packet).sequence > state.plannedPackets := by
      rcases form.mpr quote with type | side | flags
      · exact Or.inl type
      · exact Or.inr (Or.inl side)
      · exact Or.inr (Or.inr (Or.inl flags))
    rw [if_neg quote, respond, if_pos refused]
    cases active : state.active with
    | false => simp [State.countInvalid, active]
    | true => simp [State.countInvalid, active]

end Branches

/-- The program answers a packet through the request it amounts to. -/
theorem processPacket_eq (state : State) (sender : Address) (allocated : Bool) (packet : Payload) :
    processPacket state sender allocated packet =
      respond state sender allocated (requestOf packet) := by
  by_cases header : (unpack packet).magic ≠ magicBytes ∨ (unpack packet).version ≠ 1
  · rw [processPacket, if_pos ((header_iff packet).mpr header), requestOf]
    simp only [if_pos header, respond]
  by_cases start : (unpack packet).messageType = messageStreamStart
  · exact processPacket_start state sender allocated header start
  by_cases finish : (unpack packet).messageType = messageStreamEnd
  · have sequenceWord : loadBe32 packet 8 = BitVec.ofNat 32 (unpack packet).sequence :=
      loadBe32_eq packet (by decide)
    have quantityWord : loadBe32 packet 28 = BitVec.ofNat 32 (unpack packet).quantity :=
      loadBe32_eq packet (by decide)
    rw [processPacket, if_neg (mt (header_iff packet).mp header), requestOf]
    simp only [if_neg header]
    rw [if_neg (mt (starts_iff packet).mp start), if_neg start,
      if_pos ((finishes_iff packet).mpr finish), if_pos finish, sequenceWord, quantityWord]
    rfl
  · exact processPacket_quote state sender allocated header start finish

/-- The program answers a datagram through the request it amounts to. -/
theorem processDatagram_eq (state : State) (arrival : Arrival) : processDatagram state arrival =
    respond state arrival.datagram.sender arrival.allocated (request arrival.datagram) := by
  unfold processDatagram request
  cases datagramPayload arrival.datagram with
  | none => rfl
  | some payload => exact processPacket_eq _ _ _ _

/-- The state behind a lookup. -/
def State.counted (state : State) (sequence : BitVec 32) : Option (List Byte) → State
  | none => { state with duplicatePackets := state.duplicatePackets + 1#64 }
  | some seen => recordFirst state seen sequence

/-- The byte map alone decides what becomes of a quote. -/
theorem recordQuote_eq (state : State) (sequence : BitVec 32) : recordQuote state sequence =
      (lookUp .undefinedBehaviour state.seenSequences sequence.toNat).map
        (state.counted sequence) := by
  unfold recordQuote lookUp
  cases mapped : state.seenSequences with
  | none => rfl
  | some seen =>
      cases found : seen[sequence.toNat]? with
      | none => simp [found, Except.map]
      | some mark =>
          by_cases marked : mark = 0#8 <;> simp [found, marked, mapped, Except.map, State.counted]

/-- The running stream is that of the sender. -/
def State.Owned (state : State) (sender : Address) : Prop :=
  state.active = true ∧ sameSender sender state.sender = true

section Branches

variable {state : State} {sender : Address} {allocated : Bool} {quantity sequence : Nat}

/-- An END of the active sender finishes its stream. -/
theorem respond_finish {range : quantity < 2 ^ 32 ∧ sequence < 2 ^ 32} (own : state.Owned sender) :
    respond state sender allocated (.finish quantity sequence range) =
      .ok (finishStream state (BitVec.ofNat 32 sequence) (BitVec.ofNat 32 quantity)) :=
  if_neg (by simp [own.1, own.2])

/-- An END of another address changes nothing. -/
theorem respond_finish_foreign {range : quantity < 2 ^ 32 ∧ sequence < 2 ^ 32}
    (foreign : ¬ state.Owned sender) :
    respond state sender allocated (.finish quantity sequence range) = .ok state := by
  refine if_pos ?_
  by_contra owned
  rw [not_or, Bool.not_eq_false, Bool.not_eq_false] at owned
  exact foreign owned

/-- A planned quote of the active sender is recorded. -/
theorem respond_quote {range : sequence < 2 ^ 32} (own : state.Owned sender)
    (within : ¬BitVec.ofNat 32 sequence < 1#32 ∧
      ¬BitVec.ofNat 32 sequence > state.plannedPackets) :
    respond state sender allocated (.quote sequence range) =
      recordQuote state (BitVec.ofNat 32 sequence) :=
  if_pos ⟨own.1, own.2, within⟩

/-- Any other quote is counted as invalid. -/
theorem respond_quote_refused {range : sequence < 2 ^ 32}
    (refused : ¬(state.Owned sender ∧ ¬BitVec.ofNat 32 sequence < 1#32 ∧
      ¬BitVec.ofNat 32 sequence > state.plannedPackets)) :
    respond state sender allocated (.quote sequence range) = .ok state.countInvalid :=
  if_neg fun counted => refused ⟨⟨counted.1, counted.2.1⟩, counted.2.2⟩

end Branches

/-- A datagram that neither opens a stream nor comes from the sender of the running one
is at most counted as invalid. -/
theorem processDatagram_foreign {state : State} {arrival : Arrival}
    (foreign : ¬ state.Owned arrival.datagram.sender)
    (opensNone : opensStream arrival.datagram = false) :
    processDatagram state arrival = .ok state ∨
      processDatagram state arrival = .ok state.countInvalid := by
  rw [processDatagram_eq]
  cases requested : request arrival.datagram with
  | invalid => exact Or.inr rfl
  | ignored => exact Or.inl rfl
  | start targetPps durationMs planned rate bounded => simp [opensStream, requested] at opensNone
  | finish quantity sequence range => exact Or.inl (respond_finish_foreign foreign)
  | quote sequence range => exact Or.inr (respond_quote_refused fun counted => foreign counted.1)

end HftPipeline.Host.CReceiver
