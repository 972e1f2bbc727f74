import HftPipeline.Std.Slots
import HftPipeline.Host.Datagram

/-!
# `recvmmsg`

Both C programs prepare one header, one vector, one address and one buffer of 2048 bytes
for each datagram of a call, and the kernel writes the datagrams of the call through
them. Pointers into an array are offsets into it, and an access outside is `none`.
-/

namespace HftPipeline.Host.Recvmmsg

open HftPipeline.Std HftPipeline.Std.Slots HftPipeline.Wire

/-- `sizeof(struct sockaddr_in)`. -/
def sockaddrSize : Nat := 16

/-- `MSG_TRUNC`. -/
def msgTrunc : BitVec 32 := 0x20#32

/-- `struct sockaddr_in`: the family in host order, the port and the address in network
order, and padding. -/
def sockaddr (address : Address) : List Byte :=
  [2#8, 0#8] ++ BigEndian.bytes 2 address.port.toNat ++ BigEndian.bytes 4 address.ip.toNat ++
    List.replicate 8 0#8

@[simp] theorem length_sockaddr (address : Address) : (sockaddr address).length = sockaddrSize := by
  simp [sockaddr, sockaddrSize]

/-- `struct iovec`. -/
structure Iovec where
  iovBase : Nat
  iovLen : Nat
deriving DecidableEq

/-- The fields of `struct mmsghdr` and of its `msg_hdr` that the programs touch. -/
structure Mmsghdr where
  msgName : Nat
  msgNamelen : Nat
  msgIov : Nat
  msgIovlen : Nat
  msgFlags : BitVec 32
  msgLen : Nat
deriving DecidableEq

/-- The four arrays of a receiver. -/
structure Arrays where
  messages : List Mmsghdr
  vectors : List Iovec
  senders : List Byte
  buffers : List Byte
deriving DecidableEq

/-- The arrays as `calloc` returns them. -/
def Arrays.zero (batchSize : Nat) : Arrays where
  messages := List.replicate batchSize ⟨0, 0, 0, 0, 0#32, 0⟩
  vectors := List.replicate batchSize ⟨0, 0⟩
  senders := List.replicate (batchSize * sockaddrSize) 0#8
  buffers := List.replicate (batchSize * maxDatagramSize) 0#8

/-- The loop behind the allocations. -/
def Arrays.prepare (arrays : Arrays) : Arrays where
  messages := arrays.messages.mapIdx fun index message =>
    { message with
      msgName := index * sockaddrSize
      msgNamelen := sockaddrSize
      msgIov := index
      msgIovlen := 1 }
  vectors := arrays.vectors.mapIdx fun index _ => ⟨index * maxDatagramSize, maxDatagramSize⟩
  senders := arrays.senders
  buffers := arrays.buffers

/-- The loop in front of a call, over the fields that the last call has changed. -/
def Arrays.reset (arrays : Arrays) : Arrays :=
  { arrays with
    messages := arrays.messages.map fun message =>
      { message with
        msgLen := 0
        msgNamelen := sockaddrSize
        msgFlags := 0#32 } }

/-- A datagram as the kernel hands it over. Only `MSG_TRUNC` of its flags depends on the
buffer. -/
structure Delivery where
  datagram : Datagram
  flags : BitVec 32
deriving DecidableEq

/-- `msg_flags` behind the call. -/
def markFlags (flags : BitVec 32) (truncated : Bool) : BitVec 32 :=
  if truncated then flags ||| msgTrunc else flags &&& ~~~msgTrunc

/-- The bytes of a datagram fill the buffers of its vectors one after another. -/
def scatter (buffers : List Byte) : List Iovec → List Byte → Option (List Byte)
  | [], _ => some buffers
  | vector :: vectors, bytes =>
      let part := bytes.take vector.iovLen
      if vector.iovBase + part.length ≤ buffers.length then
        scatter (store buffers vector.iovBase part) vectors (bytes.drop vector.iovLen)
      else none

/-- The kernel writes a datagram through the header at an index. -/
def Arrays.deliver (arrays : Arrays) (index : Nat) (delivery : Delivery) : Option Arrays := do
  let message ← arrays.messages[index]?
  let vectors := (arrays.vectors.drop message.msgIov).take message.msgIovlen
  let room := (vectors.map Iovec.iovLen).sum
  let name := (sockaddr delivery.datagram.sender).take message.msgNamelen
  let buffers ← scatter arrays.buffers vectors delivery.datagram.bytes
  if message.msgName + name.length ≤ arrays.senders.length then
    some { arrays with
      messages := arrays.messages.set index { message with
        msgNamelen := sockaddrSize
        msgFlags := markFlags delivery.flags (decide (room < delivery.datagram.bytes.length))
        msgLen := min room delivery.datagram.bytes.length }
      senders := store arrays.senders message.msgName name
      buffers := buffers }
  else none

/-- The datagrams of a call are written from some header on. -/
def Arrays.deliverFrom (arrays : Arrays) (index : Nat) : List Delivery → Option Arrays
  | [] => some arrays
  | delivery :: deliveries => do
      let delivered ← arrays.deliver index delivery
      delivered.deliverFrom (index + 1) deliveries

/-- `recvmmsg`, when it returns datagrams. -/
def Arrays.recvmmsg (arrays : Arrays) (deliveries : List Delivery) : Option Arrays :=
  arrays.deliverFrom 0 deliveries

/-- The arrays of an open receiver, whatever the last call has left in them. -/
structure Arrays.Prepared (arrays : Arrays) (batchSize : Nat) : Prop where
  messages : arrays.messages.length = batchSize
  header : ∀ index message, arrays.messages[index]? = some message →
    message.msgName = index * sockaddrSize ∧ message.msgIov = index ∧ message.msgIovlen = 1
  vectors : ∀ index < batchSize, arrays.vectors[index]? =
    some ⟨index * maxDatagramSize, maxDatagramSize⟩
  senders : arrays.senders.length = batchSize * sockaddrSize
  buffers : arrays.buffers.length = batchSize * maxDatagramSize

/-- The arrays in front of a call. -/
structure Arrays.Ready (arrays : Arrays) (batchSize index : Nat) : Prop
    extends arrays.Prepared batchSize where
  namelen : ∀ other ≥ index, ∀ message, arrays.messages[other]? = some message →
    message.msgNamelen = sockaddrSize

variable {arrays : Arrays} {batchSize : Nat}

/-- `hft_receiver_open` prepares its arrays. -/
theorem prepared_zero (batchSize : Nat) : ((Arrays.zero batchSize).prepare).Prepared batchSize where
  messages := by simp [Arrays.zero, Arrays.prepare]
  header := by
    intro index message at_
    simp only [Arrays.zero, Arrays.prepare, List.getElem?_mapIdx, Option.map_eq_some_iff] at at_
    obtain ⟨zero, -, rfl⟩ := at_
    exact ⟨rfl, rfl, rfl⟩
  vectors := by
    intro index inside
    simp [Arrays.zero, Arrays.prepare, inside]
  senders := by simp [Arrays.zero, Arrays.prepare]
  buffers := by simp [Arrays.zero, Arrays.prepare]

/-- The reset prepares the headers for the next call. -/
theorem Arrays.Prepared.ready (prepared : arrays.Prepared batchSize) :
    arrays.reset.Ready batchSize 0 where
  messages := by simpa [Arrays.reset] using prepared.messages
  header := by
    intro index message at_
    simp only [Arrays.reset, List.getElem?_map, Option.map_eq_some_iff] at at_
    obtain ⟨stale, found, rfl⟩ := at_
    exact prepared.header index stale found
  vectors := prepared.vectors
  senders := prepared.senders
  buffers := prepared.buffers
  namelen := by
    intro other _ message at_
    simp only [Arrays.reset, List.getElem?_map, Option.map_eq_some_iff] at at_
    obtain ⟨stale, -, rfl⟩ := at_
    rfl

/-- What the header of a datagram says behind the call. -/
def headerOf (index : Nat) (delivery : Delivery) : Mmsghdr where
  msgName := index * sockaddrSize
  msgNamelen := sockaddrSize
  msgIov := index
  msgIovlen := 1
  msgFlags := markFlags delivery.flags
    (decide (maxDatagramSize < delivery.datagram.bytes.length))
  msgLen := delivery.datagram.stored.length

/-- The kernel writes one datagram into the slot of its header. -/
theorem Arrays.Ready.deliver {index : Nat} (ready : arrays.Ready batchSize index)
    (inside : index < batchSize) (delivery : Delivery) :
    arrays.deliver index delivery = some {
      messages := arrays.messages.set index (headerOf index delivery)
      vectors := arrays.vectors
      senders := store arrays.senders (index * sockaddrSize) (sockaddr delivery.datagram.sender)
      buffers := store arrays.buffers (index * maxDatagramSize) delivery.datagram.stored } := by
  obtain ⟨message, at_⟩ : ∃ message, arrays.messages[index]? = some message :=
    ⟨_, List.getElem?_eq_getElem (ready.messages ▸ inside)⟩
  obtain ⟨name, iov, iovlen⟩ := ready.header index message at_
  have namelen := ready.namelen index (Nat.le_refl _) message at_
  have vectors : (arrays.vectors.drop index).take 1 =
      [⟨index * maxDatagramSize, maxDatagramSize⟩] := by
    have vector := ready.vectors index inside
    have bound : index < arrays.vectors.length := (List.getElem?_eq_some_iff.mp vector).1
    rw [List.drop_eq_getElem_cons bound, List.take_succ_cons, List.take_zero]
    rw [List.getElem?_eq_getElem bound] at vector
    exact congrArg (· :: []) (Option.some.inj vector)
  have span (size : Nat) : index * size + size ≤ batchSize * size := by
    rw [← Nat.succ_mul]
    exact Nat.mul_le_mul_right size inside
  have small : delivery.datagram.stored.length ≤ maxDatagramSize := List.length_take_le _ _
  have buffers : index * maxDatagramSize + delivery.datagram.stored.length ≤
      arrays.buffers.length := by
    rw [ready.buffers]
    exact (Nat.add_le_add_left small _).trans (span _)
  have senders : index * sockaddrSize + sockaddrSize ≤ arrays.senders.length := by
    rw [ready.senders]
    exact span _
  have whole : (sockaddr delivery.datagram.sender).take sockaddrSize =
      sockaddr delivery.datagram.sender := by
    rw [← length_sockaddr delivery.datagram.sender, List.take_length]
  simp only [Arrays.deliver, at_, Option.bind_eq_bind, Option.bind_some, name, iov, iovlen, vectors,
    namelen, whole, scatter, List.map_cons, List.map_nil, List.sum_cons, List.sum_nil, Nat.add_zero]
  have stored : delivery.datagram.bytes.take maxDatagramSize = delivery.datagram.stored := rfl
  rw [stored, if_pos buffers, Option.bind_some, if_pos (by rwa [length_sockaddr])]
  have length : min maxDatagramSize delivery.datagram.bytes.length =
      delivery.datagram.stored.length := List.length_take.symm
  rw [length]
  rfl

/-- The headers behind a written one are still ready. -/
theorem Arrays.Ready.next {index : Nat} (ready : arrays.Ready batchSize index)
    (inside : index < batchSize) (delivery : Delivery) :
    Arrays.Ready {
      messages := arrays.messages.set index (headerOf index delivery)
      vectors := arrays.vectors
      senders := store arrays.senders (index * sockaddrSize) (sockaddr delivery.datagram.sender)
      buffers := store arrays.buffers (index * maxDatagramSize) delivery.datagram.stored }
      batchSize (index + 1) where
  messages := by simpa using ready.messages
  header := by
    intro other message at_
    rw [List.getElem?_set] at at_
    split_ifs at at_ with same
    · cases at_
      subst same
      exact ⟨rfl, rfl, rfl⟩
    · exact ready.header other message at_
  vectors := ready.vectors
  senders := by
    have span : (index + 1) * sockaddrSize ≤ batchSize * sockaddrSize :=
      Nat.mul_le_mul_right _ inside
    rw [Nat.succ_mul] at span
    rw [length_store (by rwa [length_sockaddr, ready.senders]), ready.senders]
  buffers := by
    have span : (index + 1) * maxDatagramSize ≤ batchSize * maxDatagramSize :=
      Nat.mul_le_mul_right _ inside
    have small : delivery.datagram.stored.length ≤ maxDatagramSize := List.length_take_le _ _
    rw [Nat.succ_mul] at span
    rw [length_store (by rw [ready.buffers]; omega), ready.buffers]
  namelen := by
    intro other behind message at_
    rw [List.getElem?_set_ne (by omega)] at at_
    exact ready.namelen other (by omega) message at_

/-- What a call leaves behind: every datagram stands in its own slot. -/
structure Arrays.Holds (arrays before : Arrays) (batchSize index : Nat)
    (deliveries : List Delivery) : Prop extends arrays.Prepared batchSize where
  written : ∀ offset delivery, deliveries[offset]? = some delivery →
    arrays.messages[index + offset]? = some (headerOf (index + offset) delivery)
  kept : ∀ other < index, arrays.messages[other]? = before.messages[other]?
  addresses : arrays.senders = storeAll sockaddrSize before.senders index
    (deliveries.map fun delivery => sockaddr delivery.datagram.sender)
  contents : arrays.buffers = storeAll maxDatagramSize before.buffers index
    (deliveries.map fun delivery => delivery.datagram.stored)

/-- The kernel stays inside the arrays for every call it may answer. -/
theorem Arrays.Ready.deliverFrom {index : Nat} (ready : arrays.Ready batchSize index)
    (deliveries : List Delivery) (room : index + deliveries.length ≤ batchSize) :
    ∃ after, arrays.deliverFrom index deliveries = some after ∧
      after.Holds arrays batchSize index deliveries := by
  induction deliveries generalizing arrays index with
  | nil =>
      refine ⟨arrays, rfl, ⟨ready.toPrepared, ?_, fun _ _ => rfl, rfl, rfl⟩⟩
      intro offset delivery at_
      cases at_
  | cons delivery deliveries ih =>
      rw [List.length_cons] at room
      have inside : index < batchSize := by omega
      obtain ⟨after, delivered, holds⟩ := ih (ready.next inside delivery) (by omega)
      refine ⟨after, ?_, ⟨holds.toPrepared, ?_, ?_, holds.addresses, holds.contents⟩⟩
      · rw [Arrays.deliverFrom, ready.deliver inside, Option.bind_eq_bind, Option.bind_some,
          delivered]
      · intro offset other at_
        cases offset with
        | zero =>
            cases at_
            rw [Nat.add_zero, holds.kept index (Nat.lt_succ_self _)]
            exact List.getElem?_set_self (ready.messages ▸ inside)
        | succ offset =>
            have written := holds.written offset other at_
            rwa [Nat.add_assoc, Nat.add_comm 1] at written
      · intro other before
        rw [holds.kept other (by omega)]
        exact List.getElem?_set_ne (by omega)

/-- `recvmmsg` answers every prepared call, whatever the last call has left. -/
theorem Arrays.Prepared.recvmmsg (prepared : arrays.Prepared batchSize)
    {deliveries : List Delivery} (room : deliveries.length ≤ batchSize) :
    ∃ after, arrays.reset.recvmmsg deliveries = some after ∧
      after.Holds arrays.reset batchSize 0 deliveries :=
  prepared.ready.deliverFrom deliveries (by omega)

section Read

variable {before : Arrays} {deliveries : List Delivery} {index : Nat} {delivery : Delivery}

theorem Arrays.Holds.message (holds : arrays.Holds before batchSize 0 deliveries)
    (at_ : deliveries[index]? = some delivery) :
    arrays.messages[index]? = some (headerOf index delivery) := by
  have written := holds.written index delivery at_
  rwa [Nat.zero_add] at written

/-- The buffer of a datagram holds what was received of it. -/
theorem Arrays.Holds.load_buffer (holds : arrays.Holds before batchSize 0 deliveries)
    (prepared : before.Prepared batchSize) (room : deliveries.length ≤ batchSize)
    (at_ : deliveries[index]? = some delivery) {length : Nat}
    (within : length ≤ delivery.datagram.stored.length) :
    load arrays.buffers (index * maxDatagramSize) length =
      delivery.datagram.stored.take length := by
  have fits : Fits maxDatagramSize before.buffers 0
      (deliveries.map fun delivery => delivery.datagram.stored) := by
    constructor
    · intro item member
      obtain ⟨source, -, rfl⟩ := List.mem_map.mp member
      exact List.length_take_le _ _
    · rw [List.length_map, prepared.buffers, Nat.zero_add]
      exact Nat.mul_le_mul_right _ room
  have item : (deliveries.map fun delivery => delivery.datagram.stored)[index]? =
      some delivery.datagram.stored := by
    rw [List.getElem?_map, at_]
    rfl
  have found := load_storeAll fits item ((Nat.zero_add length).trans_le within)
  rwa [Nat.zero_add, Nat.add_zero, ← holds.contents] at found

/-- The address slot of a datagram holds its sender. -/
theorem Arrays.Holds.load_sender (holds : arrays.Holds before batchSize 0 deliveries)
    (prepared : before.Prepared batchSize) (room : deliveries.length ≤ batchSize)
    (at_ : deliveries[index]? = some delivery) {start length : Nat}
    (within : start + length ≤ sockaddrSize) :
    load arrays.senders (index * sockaddrSize + start) length =
      load (sockaddr delivery.datagram.sender) start length := by
  have fits : Fits sockaddrSize before.senders 0
      (deliveries.map fun delivery => sockaddr delivery.datagram.sender) := by
    constructor
    · intro item member
      obtain ⟨source, -, rfl⟩ := List.mem_map.mp member
      rw [length_sockaddr]
    · rw [List.length_map, prepared.senders, Nat.zero_add]
      exact Nat.mul_le_mul_right _ room
  have item : (deliveries.map fun delivery => sockaddr delivery.datagram.sender)[index]? =
      some (sockaddr delivery.datagram.sender) := by
    rw [List.getElem?_map, at_]
    rfl
  have found := load_storeAll fits item (within.trans_eq (length_sockaddr _).symm)
  rwa [Nat.zero_add, ← holds.addresses] at found

end Read

/-- `sin_port`. -/
theorem load_sinPort (address : Address) :
    load (sockaddr address) 2 2 = BigEndian.bytes 2 address.port.toNat := by
  have front : load (sockaddr address) 2 2 =
      (BigEndian.bytes 2 address.port.toNat ++ (BigEndian.bytes 4 address.ip.toNat ++
        List.replicate 8 0#8)).take 2 := by
    simp [load, sockaddr]
  rw [front, List.take_left' (BigEndian.length_bytes 2 _)]

/-- `sin_addr`. -/
theorem load_sinAddr (address : Address) :
    load (sockaddr address) 4 4 = BigEndian.bytes 4 address.ip.toNat := by
  have front : load (sockaddr address) 4 4 =
      ((BigEndian.bytes 2 address.port.toNat ++ (BigEndian.bytes 4 address.ip.toNat ++
        List.replicate 8 0#8)).drop 2).take 4 := by
    simp [load, sockaddr]
  rw [front, List.drop_left' (BigEndian.length_bytes 2 _),
    List.take_left' (BigEndian.length_bytes 4 _)]

end HftPipeline.Host.Recvmmsg
