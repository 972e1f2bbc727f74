import Mathlib.Tactic.Tauto
import HftPipeline.Std.BigEndian

/-!
# The HFT1 packet

Every program of the repository packs and unpacks the layout `!4sBBBBIQIII`.
`pack` fails exactly where `struct.pack` raises, so a packet exists only for
fields that fit, and `unpack` reads any 32 bytes. `protocolIsValid` is the
software validator of the live receiver.
-/

namespace HftPipeline.Wire

open HftPipeline.Std

abbrev Byte := BigEndian.Byte

/-- `PACKET_SIZE = PACKET_STRUCT.size`. -/
def packetSize : Nat := 32

/-- A correctly sized payload. -/
abbrev Payload := {bytes : List Byte // bytes.length = packetSize}

/-- The byte at a fixed offset. -/
def Payload.byte (payload : Payload) (offset : Nat) : Byte := payload.1.getD offset 0

/-- The unsigned field of `count` bytes at a fixed offset. -/
def Payload.number (payload : Payload) (offset count : Nat) : Nat :=
  BigEndian.value ((payload.1.drop offset).take count)

def messageQuoteUpdate : Nat := 1
def messageStreamStart : Nat := 4
def messageStreamEnd : Nat := 5

/-- `b"HFT1"`. -/
def magicBytes : List Byte := [0x48, 0x46, 0x54, 0x31]

/-- The tuple that `PACKET_STRUCT` packs and unpacks. -/
structure Fields where
  magic : List Byte
  version : Nat
  messageType : Nat
  side : Nat
  reserved : Nat
  sequence : Nat
  timestampNs : Nat
  instrumentId : Nat
  priceTicks : Nat
  quantity : Nat
deriving DecidableEq, Repr

/-- The ranges outside which `struct.pack` raises `struct.error`. The `4s` field
is only ever given four bytes. -/
structure Fields.Fits (fields : Fields) : Prop where
  magic : fields.magic.length = 4
  version : fields.version < 256
  messageType : fields.messageType < 256
  side : fields.side < 256
  reserved : fields.reserved < 256
  sequence : fields.sequence < 2 ^ 32
  timestampNs : fields.timestampNs < 2 ^ 64
  instrumentId : fields.instrumentId < 2 ^ 32
  priceTicks : fields.priceTicks < 2 ^ 32
  quantity : fields.quantity < 2 ^ 32

instance (fields : Fields) : Decidable fields.Fits :=
  decidable_of_iff (fields.magic.length = 4 ∧ fields.version < 256 ∧ fields.messageType < 256 ∧
    fields.side < 256 ∧ fields.reserved < 256 ∧ fields.sequence < 2 ^ 32 ∧
    fields.timestampNs < 2 ^ 64 ∧ fields.instrumentId < 2 ^ 32 ∧ fields.priceTicks < 2 ^ 32 ∧
    fields.quantity < 2 ^ 32)
    ⟨fun ⟨a, b, c, d, e, f, g, h, i, j⟩ => ⟨a, b, c, d, e, f, g, h, i, j⟩,
      fun ⟨a, b, c, d, e, f, g, h, i, j⟩ => ⟨a, b, c, d, e, f, g, h, i, j⟩⟩

/-- The packed bytes of fields that fit. -/
def Fields.layout (fields : Fields) : List Byte :=
  fields.magic ++ BigEndian.bytes 1 fields.version ++ BigEndian.bytes 1 fields.messageType ++
    BigEndian.bytes 1 fields.side ++ BigEndian.bytes 1 fields.reserved ++
    BigEndian.bytes 4 fields.sequence ++ BigEndian.bytes 8 fields.timestampNs ++
    BigEndian.bytes 4 fields.instrumentId ++ BigEndian.bytes 4 fields.priceTicks ++
    BigEndian.bytes 4 fields.quantity

theorem Fields.length_layout {fields : Fields} (fits : fields.Fits) :
    fields.layout.length = packetSize := by
  simp [layout, packetSize, fits.magic]

/-- `PACKET_STRUCT.pack`, with `none` for `struct.error`. -/
def pack (fields : Fields) : Option Payload :=
  if fits : fields.Fits then some ⟨fields.layout, fields.length_layout fits⟩ else none

/-- `PACKET_STRUCT.unpack`. -/
def unpack (payload : Payload) : Fields where
  magic := payload.1.take 4
  version := payload.number 4 1
  messageType := payload.number 5 1
  side := payload.number 6 1
  reserved := payload.number 7 1
  sequence := payload.number 8 4
  timestampNs := payload.number 12 8
  instrumentId := payload.number 20 4
  priceTicks := payload.number 24 4
  quantity := payload.number 28 4

/-- `SUPPORTED_TYPES` of the live receiver. -/
def supportedTypes : List Nat := [messageQuoteUpdate, messageStreamStart, messageStreamEnd]

/-- `protocol_is_valid` of the live receiver. -/
def protocolIsValid (fields : Fields) : Bool :=
  if fields.magic ≠ magicBytes || fields.version ≠ 1 || fields.reserved ≠ 0 then
    false
  else if fields.messageType ∉ supportedTypes then
    false
  else if fields.messageType = messageQuoteUpdate then
    fields.side == 0 || fields.side == 1
  else
    fields.side == 0

/-- The accepted packets, as one condition on the fields. -/
theorem protocolIsValid_iff (fields : Fields) :
    protocolIsValid fields = true ↔
      fields.magic = magicBytes ∧ fields.version = 1 ∧ fields.reserved = 0 ∧
        (fields.messageType = messageQuoteUpdate ∧ (fields.side = 0 ∨ fields.side = 1) ∨
          (fields.messageType = messageStreamStart ∨ fields.messageType = messageStreamEnd) ∧
            fields.side = 0) := by
  by_cases header : fields.magic = magicBytes ∧ fields.version = 1 ∧ fields.reserved = 0
  · obtain ⟨magic, version, reserved⟩ := header
    by_cases quote : fields.messageType = messageQuoteUpdate
    · simp [protocolIsValid, supportedTypes, magic, version, reserved, quote, messageQuoteUpdate,
        messageStreamStart, messageStreamEnd]
    · by_cases control : fields.messageType = messageStreamStart ∨
          fields.messageType = messageStreamEnd
      · simp [protocolIsValid, supportedTypes, magic, version, reserved, quote, control]
      · simp [protocolIsValid, supportedTypes, magic, version, reserved, quote, control]
  · have rejected : protocolIsValid fields = false := by
      simp only [not_and_or] at header
      simp [protocolIsValid, or_assoc, header]
    rw [rejected]
    tauto

theorem Payload.number_lt (payload : Payload) (offset count : Nat) :
    payload.number offset count < 256 ^ count := by
  have bound := BigEndian.value_lt ((payload.1.drop offset).take count)
  have short : ((payload.1.drop offset).take count).length ≤ count := by
    rw [List.length_take]
    omega
  exact Nat.lt_of_lt_of_le bound (Nat.pow_le_pow_right (by omega) short)

/-- A one-byte field is its byte. -/
theorem Payload.number_one (payload : Payload) {offset : Nat} (inside : offset < packetSize) :
    payload.number offset 1 = (payload.byte offset).toNat := by
  have within : offset < payload.1.length := by rw [payload.2]; exact inside
  simp [number, byte, List.take_one_drop_eq_of_lt_length within, BigEndian.value,
    List.getElem?_eq_getElem within]

/-- Every unpacked tuple is in range. -/
theorem unpack_fits (payload : Payload) : (unpack payload).Fits where
  magic := by simp [unpack, payload.2, packetSize]
  version := payload.number_lt 4 1
  messageType := payload.number_lt 5 1
  side := payload.number_lt 6 1
  reserved := payload.number_lt 7 1
  sequence := payload.number_lt 8 4
  timestampNs := payload.number_lt 12 8
  instrumentId := payload.number_lt 20 4
  priceTicks := payload.number_lt 24 4
  quantity := payload.number_lt 28 4

/-- A field is read from wherever its bytes stand in the payload. -/
theorem Payload.number_of_split {payload : Payload} {front digits back : List Byte}
    {offset count : Nat} (split : payload.1 = front ++ (digits ++ back))
    (start : front.length = offset) (size : digits.length = count) :
    payload.number offset count = BigEndian.value digits := by
  subst start size
  simp [number, split]

/-- A packed number that fits its field is read back. -/
theorem Payload.number_of_packed {payload : Payload} (front : List Byte) {back : List Byte}
    {offset count number : Nat}
    (split : payload.1 = front ++ (BigEndian.bytes count number ++ back))
    (start : front.length = offset) (fits : number < 256 ^ count) :
    payload.number offset count = number := by
  rw [number_of_split split start (BigEndian.length_bytes count number),
    BigEndian.value_bytes fits]

/-- Unpacking a packed tuple returns the tuple. -/
theorem unpack_pack {fields : Fields} {payload : Payload} (packed : pack fields = some payload) :
    unpack payload = fields := by
  unfold pack at packed
  split at packed
  case isFalse => cases packed
  case isTrue fits =>
    have layout : payload.1 = fields.layout := by cases packed; rfl
    obtain ⟨magic, version, messageType, side, reserved, sequence, timestampNs, instrumentId,
      priceTicks, quantity⟩ := fields
    have four : magic.length = 4 := fits.magic
    simp only [Fields.layout, List.append_assoc] at layout
    -- Each field is found behind the lengths of the fields before it.
    let types := magic ++ BigEndian.bytes 1 version
    let sides := types ++ BigEndian.bytes 1 messageType
    let flags := sides ++ BigEndian.bytes 1 side
    let head := flags ++ BigEndian.bytes 1 reserved
    let times := head ++ BigEndian.bytes 4 sequence
    let instruments := times ++ BigEndian.bytes 8 timestampNs
    let prices := instruments ++ BigEndian.bytes 4 instrumentId
    let quantities := prices ++ BigEndian.bytes 4 priceTicks
    have atMagic : payload.1.take 4 = magic := by rw [layout, ← four, List.take_left]
    have atVersion : payload.number 4 1 = version :=
      Payload.number_of_packed magic layout four fits.version
    have atType : payload.number 5 1 = messageType :=
      Payload.number_of_packed types (by simpa [types] using layout) (by simp [types, four])
        fits.messageType
    have atSide : payload.number 6 1 = side :=
      Payload.number_of_packed sides (by simpa [sides, types] using layout)
        (by simp [sides, types, four]) fits.side
    have atReserved : payload.number 7 1 = reserved :=
      Payload.number_of_packed flags (by simpa [flags, sides, types] using layout)
        (by simp [flags, sides, types, four]) fits.reserved
    have eight : head.length = 8 := by simp [head, flags, sides, types, four]
    have body : payload.1 = head ++ (BigEndian.bytes 4 sequence ++
        (BigEndian.bytes 8 timestampNs ++ (BigEndian.bytes 4 instrumentId ++
          (BigEndian.bytes 4 priceTicks ++ BigEndian.bytes 4 quantity)))) := by
      simpa [head, flags, sides, types] using layout
    have atSequence : payload.number 8 4 = sequence :=
      Payload.number_of_packed head body eight fits.sequence
    have atTimestamp : payload.number 12 8 = timestampNs :=
      Payload.number_of_packed times (by simpa [times] using body) (by simp [times, eight])
        fits.timestampNs
    have atInstrument : payload.number 20 4 = instrumentId :=
      Payload.number_of_packed instruments (by simpa [instruments, times] using body)
        (by simp [instruments, times, eight]) fits.instrumentId
    have atPrice : payload.number 24 4 = priceTicks :=
      Payload.number_of_packed prices (by simpa [prices, instruments, times] using body)
        (by simp [prices, instruments, times, eight]) fits.priceTicks
    have tail : payload.1 = quantities ++ (BigEndian.bytes 4 quantity ++ []) := by
      simpa [quantities, prices, instruments, times] using body
    have atQuantity : payload.number 28 4 = quantity :=
      Payload.number_of_packed quantities tail
        (by simp [quantities, prices, instruments, times, eight]) fits.quantity
    simp only [unpack, atMagic, atVersion, atType, atSide, atReserved, atSequence, atTimestamp,
      atInstrument, atPrice, atQuantity]

end HftPipeline.Wire
