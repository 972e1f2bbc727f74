import HftPipeline.Host.ReceiveLibrary

/-!
# What Python reads from the library

One call copies every datagram into its own result slot. Whatever the arrays and the
result memory held before, the caller reads in each slot the datagram of that slot, and
the slots behind the last datagram keep their bytes.
-/

namespace HftPipeline.Host.ReceiveLibrary

open HftPipeline.Std HftPipeline.Std.Slots HftPipeline.Wire Recvmmsg

/-- A number is stored in the bytes of its field. -/
@[simp] theorem length_hostBytes (count number : Nat) :
    (hostBytes count number).length = count := by
  rw [hostBytes, List.length_reverse, BigEndian.length_bytes]

/-- Reading back the stored bytes of a number that fits gives the number. -/
theorem hostValue_hostBytes {count number : Nat} (fits : number < 256 ^ count) :
    hostValue (hostBytes count number) = number := by
  rw [hostValue, hostBytes, List.reverse_reverse, BigEndian.value_bytes fits]

/-- `MSG_TRUNC` is set exactly for a shortened datagram. -/
theorem markFlags_and (flags : BitVec 32) (truncated : Bool) :
    markFlags flags truncated &&& msgTrunc = if truncated then msgTrunc else 0#32 := by
  cases truncated with
  | true =>
      have absorbed : (flags ||| msgTrunc) &&& msgTrunc = msgTrunc := by
        ext index
        simp only [BitVec.getElem_and, BitVec.getElem_or]
        cases flags[index] <;> simp
      exact absorbed
  | false =>
      have cleared : (flags &&& ~~~msgTrunc) &&& msgTrunc = 0#32 := by
        rw [BitVec.and_assoc]
        simp
      exact cleared

/-- `MSG_TRUNC` is read back exactly for a truncated datagram. -/
theorem markFlags_eq_zero (flags : BitVec 32) (truncated : Bool) :
    markFlags flags truncated &&& msgTrunc = 0#32 ↔ truncated = false := by
  rw [markFlags_and]
  cases truncated <;> simp [msgTrunc]

/-- The fields of the result slot of a datagram. -/
def slotFields (delivery : Delivery) : List (List Byte) :=
  [hostBytes 4 delivery.datagram.stored.length,
    hostBytes 4 (markFlags delivery.flags
      (decide (maxDatagramSize < delivery.datagram.bytes.length))).toNat,
    BigEndian.bytes 4 delivery.datagram.sender.ip.toNat,
    hostBytes 2 delivery.datagram.sender.port.toNat, hostBytes 2 0,
    (LiveReceiver.receiveSlot delivery.datagram).payload.1]

/-- The bytes of the result slot of a datagram. -/
def slotBytes (delivery : Delivery) : List Byte := (slotFields delivery).flatten

/-- Each delivery fills exactly one slot. -/
@[simp] theorem length_slotBytes (delivery : Delivery) :
    (slotBytes delivery).length = slotSize := by
  simp [slotBytes, slotFields, slotSize, (LiveReceiver.receiveSlot delivery.datagram).payload.2,
    packetSize]

/-- The payload branch of the copy is the one of the slot. -/
theorem payload_eq (delivery : Delivery) :
    (if delivery.datagram.stored.length = packetSize ∧
        markFlags delivery.flags (decide (maxDatagramSize < delivery.datagram.bytes.length)) &&&
          msgTrunc = 0#32 then
      delivery.datagram.stored.take packetSize
    else List.replicate packetSize 0#8) =
      (LiveReceiver.receiveSlot delivery.datagram).payload.1 := by
  have whole : markFlags delivery.flags
      (decide (maxDatagramSize < delivery.datagram.bytes.length)) &&& msgTrunc = 0#32 ↔
      ¬maxDatagramSize < delivery.datagram.bytes.length :=
    (markFlags_eq_zero _ _).trans decide_eq_false_iff_not
  by_cases sized : delivery.datagram.stored.length = packetSize ∧
      ¬maxDatagramSize < delivery.datagram.bytes.length
  · rw [if_pos (sized.imp_right whole.mpr), List.take_of_length_le sized.1.le]
    simp only [LiveReceiver.receiveSlot, dif_pos sized]
  · rw [if_neg (mt (And.imp_right whole.mp) sized)]
    simp only [LiveReceiver.receiveSlot, dif_neg sized, LiveReceiver.zeroPayload]

section Copy

variable {arrays before : Arrays} {batchSize : Nat} {deliveries : List Delivery}
  {results : List Byte}

/-- The fields of a slot are stored side by side. -/
theorem copySlot_eq (holds : arrays.Holds before batchSize 0 deliveries)
    (prepared : before.Prepared batchSize) (room : deliveries.length ≤ batchSize) {index : Nat}
    {delivery : Delivery} (at_ : deliveries[index]? = some delivery)
    (inside : index * slotSize + slotSize ≤ results.length) :
    copySlot arrays results index =
      some (store results (index * slotSize) (slotBytes delivery)) := by
  have address : load arrays.senders (index * sockaddrSize + 4) 4 = _ :=
    holds.load_sender prepared room at_ (by decide)
  have port : load arrays.senders (index * sockaddrSize + 2) 2 = _ :=
    holds.load_sender prepared room at_ (by decide)
  have portFits : delivery.datagram.sender.port.toNat < 256 ^ 2 :=
    delivery.datagram.sender.port.isLt
  rw [load_sinAddr] at address
  rw [load_sinPort] at port
  have payload : (if delivery.datagram.stored.length = packetSize ∧
        markFlags delivery.flags (decide (maxDatagramSize < delivery.datagram.bytes.length)) &&&
          msgTrunc = 0#32 then
      load arrays.buffers (index * maxDatagramSize) packetSize
    else List.replicate packetSize 0#8) =
      (LiveReceiver.receiveSlot delivery.datagram).payload.1 := by
    rw [← payload_eq]
    split_ifs with sized
    · exact holds.load_buffer prepared room at_ sized.1.ge
    · rfl
  simp only [copySlot, holds.message at_, Option.bind_eq_bind, Option.bind_some,
    headerOf, if_pos inside, payload, address, port, BigEndian.value_bytes portFits]
  have fields : storeFields results (index * slotSize) (slotFields delivery) =
      store results (index * slotSize) (slotBytes delivery) := by
    apply storeFields_eq
    exact (congrArg (index * slotSize + ·) (length_slotBytes delivery)).trans_le inside
  rw [← fields]
  simp [slotFields, storeFields, lengthOffset, flagsOffset, senderIpOffset, senderPortOffset,
    reservedOffset, payloadOffset, Nat.add_assoc]

/-- The copy of a call fills one slot after another. -/
theorem copySlots_eq (holds : arrays.Holds before batchSize 0 deliveries)
    (prepared : before.Prepared batchSize) (room : deliveries.length ≤ batchSize) {index : Nat}
    {rest : List Delivery} (remaining : deliveries.drop index = rest)
    (inside : deliveries.length * slotSize ≤ results.length) :
    copySlots arrays results index rest.length =
      some (storeAll slotSize results index (rest.map slotBytes)) := by
  induction rest generalizing index results with
  | nil => rfl
  | cons delivery rest ih =>
      have bound : index < deliveries.length := by
        have length := congrArg List.length remaining
        rw [List.length_drop, List.length_cons] at length
        omega
      have found : deliveries[index]? = some delivery := by
        have first := congrArg (·[0]?) remaining
        rwa [List.getElem?_drop, Nat.add_zero] at first
      have tail : deliveries.drop (index + 1) = rest := by
        have dropped := congrArg (List.drop 1) remaining
        rwa [List.drop_drop, List.drop_succ_cons, List.drop_zero] at dropped
      have span : index * slotSize + slotSize ≤ results.length := by
        rw [← Nat.succ_mul]
        exact (Nat.mul_le_mul_right _ bound).trans inside
      have stored : (store results (index * slotSize) (slotBytes delivery)).length =
          results.length := length_store (by rwa [length_slotBytes])
      rw [List.length_cons, copySlots, copySlot_eq holds prepared room found span,
        Option.bind_eq_bind, Option.bind_some, ih tail (by rwa [stored]), List.map_cons, storeAll]

end Copy

/-- Every field of a slot is loaded from its offset. -/
theorem load_slotBytes {delivery : Delivery} (index : Nat) {offset length : Nat}
    {field : List Byte} (at_ : (slotFields delivery)[index]? = some field)
    (front : ((slotFields delivery).take index).flatten.length = offset)
    (size : field.length = length) : load (slotBytes delivery) offset length = field :=
  load_flatten at_ front size

/-- A slot that holds the bytes of a datagram reads as its slot. -/
theorem readSlot_eq {results : List Byte} {index : Nat} {delivery : Delivery}
    (holds : ∀ start length, start + length ≤ slotSize →
      load results (index * slotSize + start) length = load (slotBytes delivery) start length) :
    readSlot results index = some (LiveReceiver.receiveSlot delivery.datagram) := by
  have small : delivery.datagram.stored.length < 256 ^ 4 := by
    have short : delivery.datagram.stored.length ≤ maxDatagramSize := List.length_take_le _ _
    rw [maxDatagramSize] at short
    omega
  have ipFits : delivery.datagram.sender.ip.toNat < 256 ^ 4 := delivery.datagram.sender.ip.isLt
  have portFits : delivery.datagram.sender.port.toNat < 256 ^ 2 :=
    delivery.datagram.sender.port.isLt
  have length : load results (index * slotSize + lengthOffset) 4 =
      hostBytes 4 delivery.datagram.stored.length :=
    (holds _ _ (by decide)).trans (load_slotBytes 0 rfl rfl (length_hostBytes _ _))
  have flags : load results (index * slotSize + flagsOffset) 4 = hostBytes 4 (markFlags
      delivery.flags (decide (maxDatagramSize < delivery.datagram.bytes.length))).toNat :=
    (holds _ _ (by decide)).trans (load_slotBytes 1 rfl rfl (length_hostBytes _ _))
  have ip : load results (index * slotSize + senderIpOffset) 4 =
      BigEndian.bytes 4 delivery.datagram.sender.ip.toNat :=
    (holds _ _ (by decide)).trans (load_slotBytes 2 rfl rfl (BigEndian.length_bytes _ _))
  have port : load results (index * slotSize + senderPortOffset) 2 =
      hostBytes 2 delivery.datagram.sender.port.toNat :=
    (holds _ _ (by decide)).trans (load_slotBytes 3 rfl rfl (length_hostBytes _ _))
  have payload : load results (index * slotSize + payloadOffset) packetSize =
      (LiveReceiver.receiveSlot delivery.datagram).payload.1 :=
    (holds _ _ (by decide)).trans
      (load_slotBytes 5 rfl rfl (LiveReceiver.receiveSlot delivery.datagram).payload.2)
  have flagsFit : (markFlags delivery.flags
      (decide (maxDatagramSize < delivery.datagram.bytes.length))).toNat < 256 ^ 4 :=
    BitVec.isLt _
  have marked : (markFlags delivery.flags
      (decide (maxDatagramSize < delivery.datagram.bytes.length)) &&& msgTrunc != 0#32) =
      decide (maxDatagramSize < delivery.datagram.bytes.length) := by
    rw [markFlags_and]
    cases decide (maxDatagramSize < delivery.datagram.bytes.length) <;> rfl
  simp only [readSlot, length, flags, ip, port, payload, dif_pos
    (LiveReceiver.receiveSlot delivery.datagram).payload.2, hostValue_hostBytes small,
    hostValue_hostBytes portFits, hostValue_hostBytes flagsFit, BigEndian.value_bytes ipFits,
    BitVec.ofNat_toNat, BitVec.setWidth_eq, marked]
  rfl

/-- A receiver that `hft_receiver_open` has returned, after any calls. -/
structure Receiver.Opened (receiver : Receiver) : Prop where
  allocated : (receiver.messages.isNone || receiver.vectors.isNone || receiver.senders.isNone ||
    receiver.buffers.isNone) = false
  prepared : receiver.arrays.Prepared receiver.batchSize

/-- A receiver differs from another only in what its arrays hold. -/
def Receiver.SameBlocks (receiver before : Receiver) : Prop :=
  receiver = { before with arrays := receiver.arrays }

variable {receiver : Receiver} {results : List Byte} {resultCapacity : Nat}

/-- A failed call changes no result slot. -/
theorem receive_error (opened : receiver.Opened) (room : receiver.batchSize ≤ resultCapacity)
    (results : List Byte) (errno : Nat) :
    ∃ received, hftReceiverReceive receiver results resultCapacity (.error errno) = some received ∧
      received.returned = .error errno ∧ received.results = results ∧
      received.receiver.Opened ∧ received.receiver.SameBlocks receiver := by
  have ready := opened.prepared.ready.toPrepared
  refine ⟨⟨.error errno, { receiver with arrays := receiver.arrays.reset }, results⟩, ?_, rfl, rfl,
    ⟨opened.allocated, ready⟩, rfl⟩
  rw [hftReceiverReceive, if_neg (Nat.not_lt.mpr room)]
  simp only [opened.allocated]
  rfl

/-- A call that returns datagrams leaves each in the result slot of its index. -/
theorem receive_ok (opened : receiver.Opened) (room : receiver.batchSize ≤ resultCapacity)
    (memory : resultCapacity * slotSize ≤ results.length) {deliveries : List Delivery}
    (answered : deliveries.length ≤ receiver.batchSize) :
    ∃ received,
      hftReceiverReceive receiver results resultCapacity (.ok deliveries) = some received ∧
      received.returned = .ok deliveries.length ∧
      received.results.length = results.length ∧
      (∀ (index : Nat) (delivery : Delivery), deliveries[index]? = some delivery →
        readSlot received.results index = some (LiveReceiver.receiveSlot delivery.datagram)) ∧
      (∀ index ≥ deliveries.length, ∀ start length, start + length ≤ slotSize →
        load received.results (index * slotSize + start) length =
          load results (index * slotSize + start) length) ∧
      received.receiver.Opened ∧ received.receiver.SameBlocks receiver := by
  obtain ⟨arrays, written, holds⟩ := opened.prepared.recvmmsg answered
  have ready := opened.prepared.ready.toPrepared
  have inside : deliveries.length * slotSize ≤ results.length :=
    (Nat.mul_le_mul_right _ (answered.trans room)).trans memory
  have fits : Fits slotSize results 0 (deliveries.map slotBytes) := by
    constructor
    · intro item member
      obtain ⟨source, -, rfl⟩ := List.mem_map.mp member
      exact (length_slotBytes source).le
    · rwa [List.length_map, Nat.zero_add]
  refine ⟨⟨.ok deliveries.length, { receiver with arrays := arrays },
    storeAll slotSize results 0 (deliveries.map slotBytes)⟩, ?_, rfl, length_storeAll fits, ?_, ?_,
    ⟨opened.allocated, holds.toPrepared⟩, rfl⟩
  · rw [hftReceiverReceive, if_neg (Nat.not_lt.mpr room)]
    simp only [opened.allocated, written, Option.bind_eq_bind, Option.bind_some,
      copySlots_eq holds ready answered (List.drop_zero) inside]
    rfl
  · intro index delivery at_
    apply readSlot_eq
    intro start length within
    have item : (deliveries.map slotBytes)[index]? = some (slotBytes delivery) := by
      rw [List.getElem?_map, at_]
      rfl
    have found := load_storeAll fits item (within.trans_eq (length_slotBytes delivery).symm)
    rwa [Nat.zero_add] at found
  · intro index behind start length within
    exact load_storeAll_apart fits (Or.inr (by rwa [List.length_map, Nat.zero_add])) within

end HftPipeline.Host.ReceiveLibrary
