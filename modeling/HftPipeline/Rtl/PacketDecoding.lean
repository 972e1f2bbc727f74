import HftPipeline.Rtl.PacketFraming
import HftPipeline.Wire.Packet

/-!
# Decoding a group of beats

Eight beats carry 32 bytes, lowest lane first. The registers that store the
words of a group hold the fields of the big-endian layout of these bytes, and
the collected errors vanish exactly when the framing is clean and the software
validator accepts the fields.
-/

namespace HftPipeline.Rtl.PacketParser

open HftPipeline.Std HftPipeline.Wire

/-- The bytes of a beat in stream order. -/
def Beat.bytes (beat : Beat) : List Byte :=
  [byteLane beat.data 0, byteLane beat.data 1, byteLane beat.data 2, byteLane beat.data 3]

/-- Each beat carries four bytes. -/
theorem length_flatMap_bytes (beats : List Beat) :
    (beats.flatMap Beat.bytes).length = 4 * beats.length := by
  induction beats with
  | nil => rfl
  | cons beat beats ih =>
      simp only [List.flatMap_cons, List.length_append, ih, Beat.bytes, List.length_cons,
        List.length_nil]
      omega

/-- The payload of a complete group. -/
def groupPayload (beats : List Beat) (complete : beats.length = 8) : Payload :=
  ⟨beats.flatMap Beat.bytes, by rw [length_flatMap_bytes, complete]; rfl⟩

/-- The decoded outputs as the tuple of the software layout. -/
def State.fields (state : State) : Fields where
  magic := BigEndian.bytes 4 state.magic.toNat
  version := state.version.toNat
  messageType := state.messageType.toNat
  side := state.side.toNat
  reserved := state.reservedField.toNat
  sequence := state.seq.toNat
  timestampNs := state.timestampNs.toNat
  instrumentId := state.instrumentId.toNat
  priceTicks := state.priceTicks.toNat
  quantity := state.quantity.toNat

/-- Byte-swapping a beat reads its bytes as a big-endian number. -/
theorem toNat_byteSwap32 (beat : Beat) :
    (byteSwap32 beat.data).toNat = BigEndian.value beat.bytes := by
  rw [byteSwap32, BigEndian.toNat_word, Beat.bytes]

/-- The four bytes of a payload that one beat carries. -/
theorem beat_slice {beats : List Beat} (position : Nat) (inside : position < beats.length) :
    ((beats.flatMap Beat.bytes).drop (4 * position)).take 4 = beats[position].bytes := by
  induction beats generalizing position with
  | nil => simp at inside
  | cons beat beats ih =>
      cases position with
      | zero => simp [Beat.bytes]
      | succ position =>
          have skip : 4 * (position + 1) = beat.bytes.length + 4 * position := by
            simp only [Beat.bytes, List.length_cons, List.length_nil]
            omega
          simp only [List.length_cons] at inside
          rw [List.flatMap_cons, skip, List.drop_append,
            List.drop_eq_nil_of_le (Nat.le_add_right _ _), List.nil_append,
            Nat.add_sub_cancel_left]
          exact ih position (by omega)

/-- A four-byte field is the number of the beat that carries it. -/
theorem groupPayload_number {beats : List Beat} (complete : beats.length = 8) (position : Nat)
    (inside : position < beats.length) :
    (groupPayload beats complete).number (4 * position) 4 =
      (byteSwap32 beats[position].data).toNat := by
  rw [Payload.number, groupPayload, beat_slice position inside, toNat_byteSwap32]

/-- A one-byte field is a lane of the beat that carries it. -/
theorem groupPayload_lane {beats : List Beat} (complete : beats.length = 8) (position lane : Nat)
    (inside : position < beats.length) (isLane : lane < 4) :
    (groupPayload beats complete).number (4 * position + lane) 1 =
      (byteLane beats[position].data lane).toNat := by
  have slice := congrArg (fun bytes => (bytes.drop lane).take 1) (beat_slice position inside)
  simp only [List.drop_take, List.drop_drop, List.take_take] at slice
  have one : min 1 (4 - lane) = 1 := by omega
  rw [Payload.number, groupPayload]
  rw [one] at slice
  rw [slice]
  interval_cases lane <;> simp [Beat.bytes, BigEndian.value]

/-- A field that spans two beats is the concatenation of their numbers. -/
theorem Payload.number_add (payload : Payload) (offset first second : Nat)
    (inside : offset + first + second ≤ packetSize) :
    payload.number offset (first + second) =
      payload.number offset first * 256 ^ second + payload.number (offset + first) second := by
  have long : ((payload.1.drop (offset + first)).take second).length = second := by
    rw [List.length_take, List.length_drop, payload.2]
    omega
  rw [Payload.number, List.take_add, List.drop_drop, BigEndian.value_append, long]
  rfl

section Lanes

variable (version messageType side reserved : BitVec 8)

/-- The lanes of the header word are its four fields. -/
theorem lanes_of_header {data : BitVec 32}
    (header : reserved ++ side ++ messageType ++ version = data) :
    byteLane data 0 = version ∧ byteLane data 1 = messageType ∧ byteLane data 2 = side ∧
      byteLane data 3 = reserved := by
  subst header
  refine ⟨?_, ?_, ?_, ?_⟩ <;>
    · simp only [byteLane]
      ext index inside
      simp only [BitVec.getElem_extractLsb', BitVec.getLsbD_append]
      grind

end Lanes

/-- Registers that store the words of a group hold the fields of its bytes. -/
theorem Stores.fields_eq {state : State} {beats : List Beat} (stores : Stores state beats)
    (complete : beats.length = 8) :
    state.fields = unpack (groupPayload beats complete) := by
  have word (position : Nat) (inside : position < 8) :
      storedWord state position = beats[position].data := stores position (by omega)
  have swapped {register : BitVec 32} (position : Nat) (inside : position < 8)
      (stored : byteSwap32 register = beats[position].data) :
      register.toNat = (groupPayload beats complete).number (4 * position) 4 := by
    rw [groupPayload_number complete position (by omega), ← stored, byteSwap32_byteSwap32]
  obtain ⟨version, messageType, side, reserved⟩ :=
    lanes_of_header _ _ _ _ (word 1 (by omega))
  have lane (register : BitVec 8) (index : Nat) (isLane : index < 4)
      (held : byteLane beats[1].data index = register) :
      register.toNat = (groupPayload beats complete).number (4 + index) 1 := by
    rw [← held, ← groupPayload_lane complete 1 index (by omega) isLane]
  have timestamp : state.timestampNs.toNat = (groupPayload beats complete).number 12 8 := by
    have halves : state.timestampNs.toNat =
        (state.timestampNs.extractLsb' 32 32).toNat * 2 ^ 32 +
          (state.timestampNs.extractLsb' 0 32).toNat := by
      have bound := state.timestampNs.isLt
      simp only [BitVec.extractLsb'_toNat, Nat.shiftRight_eq_div_pow]
      omega
    have joined := Payload.number_add (groupPayload beats complete) 12 4 4 (by decide)
    rw [halves, joined, swapped 3 (by omega) (word 3 (by omega)),
      swapped 4 (by omega) (word 4 (by omega))]
    norm_num
  have magic : BigEndian.bytes 4 state.magic.toNat =
      (groupPayload beats complete).1.take 4 := by
    rw [swapped 0 (by omega) (word 0 (by omega))]
    have four : ((groupPayload beats complete).1.take 4).length = 4 := by
      rw [List.length_take, (groupPayload beats complete).2]
      rfl
    have back := BigEndian.bytes_value ((groupPayload beats complete).1.take 4)
    rwa [four] at back
  simp only [State.fields, unpack, magic, timestamp, lane _ 0 (by omega) version,
    lane _ 1 (by omega) messageType, lane _ 2 (by omega) side, lane _ 3 (by omega) reserved,
    swapped 2 (by omega) (word 2 (by omega)), swapped 5 (by omega) (word 5 (by omega)),
    swapped 6 (by omega) (word 6 (by omega)), swapped 7 (by omega) (word 7 (by omega))]

/-- A group is clean exactly when every beat is clean at its position. -/
theorem packetErrorsOf_eq_zero (tlastPerPacket : Bool) (beats : List Beat) :
    packetErrorsOf tlastPerPacket beats = 0#8 ↔ ∀ position, (inside : position < beats.length) →
      currentErrors tlastPerPacket (BitVec.ofNat 3 position) beats[position].data
        beats[position].keep beats[position].last = 0#8 := by
  constructor
  · intro clean position inside
    refine BitVec.eq_of_getLsbD_eq fun index _ => ?_
    rw [BitVec.getLsbD_zero, ← Bool.not_eq_true]
    intro raised
    have flagged := (packetErrorsOf_bit tlastPerPacket beats index).mpr ⟨position, inside, raised⟩
    simp [clean] at flagged
  · intro clean
    refine BitVec.eq_of_getLsbD_eq fun index _ => ?_
    rw [BitVec.getLsbD_zero, ← Bool.not_eq_true, packetErrorsOf_bit]
    rintro ⟨position, inside, raised⟩
    simp [clean position inside] at raised

/-- The framing that batch mode asks of a group: full beats, and TLAST on none
but the last. -/
structure CleanFraming (beats : List Beat) : Prop where
  keep : ∀ beat ∈ beats, beat.keep = 0xF#4
  last : ∀ beat ∈ beats.take 7, beat.last = false

instance (beats : List Beat) : Decidable (CleanFraming beats) :=
  decidable_of_iff ((∀ beat ∈ beats, beat.keep = 0xF#4) ∧ ∀ beat ∈ beats.take 7, beat.last = false)
    ⟨fun ⟨keep, last⟩ => ⟨keep, last⟩, fun ⟨keep, last⟩ => ⟨keep, last⟩⟩

/-- In batch mode a beat is framed right with all its bytes and no early TLAST. -/
theorem framingErrors_batch (wordIndex : BitVec 3) (keep : BitVec 4) (last : Bool) :
    framingErrors false wordIndex keep last = 0#8 ↔
      keep = 0xF#4 ∧ (wordIndex ≠ 7#3 → last = false) := by
  unfold framingErrors
  split_ifs <;> simp_all [errorKeep, errorEarlyTlast]

/-- The first word is right exactly when it is the magic number. -/
theorem fieldErrors_magic (data : BitVec 32) :
    fieldErrors 0#3 data = 0#8 ↔ byteSwap32 data = 0x48465431#32 := by
  simp [fieldErrors, errorMagic]

/-- A quote has side 0 or 1, and a control message side 0. -/
theorem typeErrors_eq_zero (messageType side : BitVec 8) :
    typeErrors messageType side = 0#8 ↔
      messageType = 1#8 ∧ (side = 0#8 ∨ side = 1#8) ∨
        (messageType = 4#8 ∨ messageType = 5#8) ∧ side = 0#8 := by
  unfold typeErrors
  by_cases quote : messageType = 1#8
  · simp only [quote, if_true]
    split_ifs <;> simp_all [errorSide, or_iff_not_imp_left]
  · split_ifs <;> simp_all [errorSide, errorMessageType]

/-- The header word is right exactly when its version, type, side and padding are. -/
theorem fieldErrors_header (data : BitVec 32) :
    fieldErrors 1#3 data = 0#8 ↔ byteLane data 0 = 1#8 ∧
      typeErrors (byteLane data 1) (byteLane data 2) = 0#8 ∧ byteLane data 3 = 0#8 := by
  simp [fieldErrors, errorVersion, errorReserved, and_assoc]

/-- The words behind the header carry no error of their own. -/
theorem fieldErrors_body {wordIndex : BitVec 3} (data : BitVec 32) (notMagic : wordIndex ≠ 0#3)
    (notHeader : wordIndex ≠ 1#3) : fieldErrors wordIndex data = 0#8 := by
  simp [fieldErrors, notMagic, notHeader]

/-- The magic check on the first beat is the magic check on the first four bytes. -/
theorem magic_iff {beats : List Beat} (complete : beats.length = 8) :
    byteSwap32 beats[0].data = 0x48465431#32 ↔
      (unpack (groupPayload beats complete)).magic = magicBytes := by
  have four : ((groupPayload beats complete).1.take 4).length = 4 := by
    rw [List.length_take, (groupPayload beats complete).2]
    rfl
  have digits : BigEndian.bytes 4 (byteSwap32 beats[0].data).toNat =
      (unpack (groupPayload beats complete)).magic := by
    rw [← groupPayload_number complete 0 (by omega)]
    have back := BigEndian.bytes_value ((groupPayload beats complete).1.take 4)
    rwa [four] at back
  constructor
  · intro equal
    rw [← digits, equal]
    decide
  · intro equal
    rw [equal] at digits
    apply BitVec.eq_of_toNat_eq
    have values := congrArg BigEndian.value digits
    rw [BigEndian.value_bytes (by exact (byteSwap32 _).isLt)] at values
    rw [values]
    decide

/-- In batch mode no beat of a group raises a framing error exactly when its framing
is clean. -/
theorem framingErrors_iff {beats : List Beat} (complete : beats.length = 8) :
    (∀ position, (inside : position < beats.length) →
      framingErrors false (BitVec.ofNat 3 position) beats[position].keep
        beats[position].last = 0#8) ↔ CleanFraming beats := by
  simp only [framingErrors_batch]
  constructor
  · intro clean
    constructor
    · intro beat member
      obtain ⟨position, inside, rfl⟩ := List.mem_iff_getElem.mp member
      exact (clean position inside).1
    · intro beat member
      obtain ⟨position, inside, rfl⟩ := List.mem_iff_getElem.mp member
      rw [List.length_take] at inside
      rw [List.getElem_take]
      refine (clean position (by omega)).2 ?_
      have bound : position < 7 := by omega
      interval_cases position <;> decide
  · intro framing position inside
    refine ⟨framing.keep _ (List.getElem_mem inside), fun notLast => ?_⟩
    refine framing.last _ (List.mem_take_iff_getElem.mpr ⟨position, ?_, rfl⟩)
    have differs : position ≠ 7 := by
      rintro rfl
      exact notLast rfl
    omega

/-- No beat of a group raises a field error exactly when the software validator accepts
its fields. -/
theorem fieldErrors_iff {beats : List Beat} (complete : beats.length = 8) :
    (∀ position, (inside : position < beats.length) →
      fieldErrors (BitVec.ofNat 3 position) beats[position].data = 0#8) ↔
        protocolIsValid (unpack (groupPayload beats complete)) = true := by
  have lane (index : Nat) (isLane : index < 4) (number : Nat) (small : number < 256) :
      byteLane beats[1].data index = BitVec.ofNat 8 number ↔
        (groupPayload beats complete).number (4 + index) 1 = number := by
    have value := groupPayload_lane complete 1 index (by omega) isLane
    rw [show 4 * 1 + index = 4 + index by omega] at value
    rw [value, ← BitVec.toNat_inj, BitVec.toNat_ofNat]
    omega
  rw [protocolIsValid_iff, ← magic_iff complete]
  simp only [unpack, messageQuoteUpdate, messageStreamStart, messageStreamEnd,
    ← lane 0 (by omega) 1 (by omega), ← lane 3 (by omega) 0 (by omega),
    ← lane 1 (by omega) 1 (by omega), ← lane 1 (by omega) 4 (by omega),
    ← lane 1 (by omega) 5 (by omega), ← lane 2 (by omega) 0 (by omega),
    ← lane 2 (by omega) 1 (by omega), ← typeErrors_eq_zero]
  constructor
  · intro clean
    have magic := (fieldErrors_magic _).mp (clean 0 (by omega))
    have header := (fieldErrors_header _).mp (clean 1 (by omega))
    exact ⟨magic, header.1, header.2.2, header.2.1⟩
  · rintro ⟨magic, version, reserved, types⟩ position inside
    by_cases first : position = 0
    · subst first
      exact (fieldErrors_magic _).mpr magic
    · by_cases second : position = 1
      · subst second
        exact (fieldErrors_header _).mpr ⟨version, types, reserved⟩
      · apply fieldErrors_body
        · intro zero
          have value := congrArg BitVec.toNat zero
          simp at value
          omega
        · intro one
          have value := congrArg BitVec.toNat one
          simp at value
          omega

/-- In batch mode a group is clean exactly when its framing is and the software
validator accepts its fields. -/
theorem packetErrorsOf_batch {beats : List Beat} (complete : beats.length = 8) :
    packetErrorsOf false beats = 0#8 ↔
      CleanFraming beats ∧ protocolIsValid (unpack (groupPayload beats complete)) = true := by
  rw [packetErrorsOf_eq_zero, ← framingErrors_iff complete, ← fieldErrors_iff complete]
  simp only [currentErrors, BitVec.or_eq_zero_iff]
  exact forall₂_and

end HftPipeline.Rtl.PacketParser
