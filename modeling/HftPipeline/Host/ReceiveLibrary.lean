import HftPipeline.Std.Pool
import HftPipeline.Host.LiveReceiver
import HftPipeline.Host.Recvmmsg

/-!
# `receive_udp_dma.c`

The library behind the live receiver. It owns a socket and the receive arrays, and copies
what one `recvmmsg` call returns into the result slots of its caller. The outcome of each
system call is an argument. A release of something that is not live and an access outside
an array are `none`.
-/

namespace HftPipeline.Host.ReceiveLibrary

open HftPipeline.Std HftPipeline.Std.Slots HftPipeline.Wire Recvmmsg

/-- `MAX_RECEIVE_BATCH`. -/
def maxReceiveBatch : Nat := 256

def eintr : Nat := 4
def eagain : Nat := 11
def enomem : Nat := 12
def einval : Nat := 22

/-- `struct timeval`. -/
structure Timeval where
  tvSec : Nat
  tvUsec : Nat
deriving DecidableEq

/-- What the kernel is told about a socket. -/
inductive Setting where
  | reuseAddress
  | receiveBuffer (bytes : Int)
  | receiveTimeout (timeout : Timeval)
  | bound (address : Address)
deriving DecidableEq

/-- The process as the library sees it: its heap blocks, its descriptors, what it has told
the kernel about them, and `errno`. -/
structure System where
  heap : Pool
  descriptors : Pool
  settings : List (Nat × Setting)
  errno : Nat

namespace System

/-- `calloc`. -/
def calloc (system : System) (succeeds : Bool) : Option Nat × System :=
  if succeeds then (some system.heap.fresh, { system with heap := system.heap.acquire })
  else (none, { system with errno := enomem })

/-- `free`, which ignores a null pointer. -/
def free (system : System) : Option Nat → Option System
  | none => some system
  | some block => (system.heap.release block).map fun heap => { system with heap := heap }

/-- `socket`. -/
def socket (system : System) (failure : Option Nat) : Option Nat × System :=
  match failure with
  | some errno => (none, { system with errno := errno })
  | none =>
      (some system.descriptors.fresh, { system with descriptors := system.descriptors.acquire })

/-- `close`. Its failure is recorded in `errno`, and the descriptor is gone. -/
def close (system : System) (descriptor : Nat) (failure : Option Nat) : Option System :=
  (system.descriptors.release descriptor).map fun descriptors =>
    { system with descriptors := descriptors, errno := failure.getD system.errno }

/-- `if (socket_fd >= 0) close(socket_fd)`. -/
def closeOpen (system : System) (socketFd failure : Option Nat) : Option System :=
  match socketFd with
  | none => some system
  | some descriptor => system.close descriptor failure

/-- Calls on a socket that are made until one of them fails. -/
def configure (system : System) (descriptor : Nat) :
    List (Setting × Option Nat) → Bool × System
  | [] => (true, system)
  | (setting, none) :: calls =>
      { system with settings := system.settings ++ [(descriptor, setting)] }.configure
        descriptor calls
  | (_, some errno) :: _ => (false, { system with errno := errno })

end System

/-- `struct hft_receiver`. The pointers are heap blocks, and `arrays` is what stands in
them. -/
structure Receiver where
  block : Nat
  socketFd : Option Nat
  batchSize : Nat
  messages : Option Nat
  vectors : Option Nat
  senders : Option Nat
  buffers : Option Nat
  arrays : Arrays
deriving DecidableEq

/-- `hft_receiver_close`. -/
def hftReceiverClose (system : System) (receiver : Option Receiver) (closing : Option Nat) :
    Option System :=
  match receiver with
  | none => some system
  | some receiver => do
      let system ← system.closeOpen receiver.socketFd closing
      let system ← system.free receiver.messages
      let system ← system.free receiver.vectors
      let system ← system.free receiver.senders
      let system ← system.free receiver.buffers
      system.free (some receiver.block)

/-- The arguments of `hft_receiver_open`. -/
structure OpenArguments where
  listenIp : Option String
  listenPort : BitVec 16
  batchSize : Nat
  timeoutMs : Nat
  requestedSocketBuffer : Int
deriving DecidableEq

/-- The check in front of everything else. -/
def OpenArguments.refused (arguments : OpenArguments) : Bool :=
  arguments.listenIp.isNone || arguments.listenPort == 0#16 || arguments.batchSize == 0 ||
    decide (arguments.batchSize > maxReceiveBatch) || arguments.timeoutMs == 0 ||
    decide (arguments.requestedSocketBuffer ≤ 0)

/-- How the system calls of one `hft_receiver_open` end: whether an allocation succeeds,
which address `inet_pton` reads out of a string, and the error of any other call that
fails. -/
structure Outcomes where
  receiver : Bool
  messages : Bool
  vectors : Bool
  senders : Bool
  buffers : Bool
  socket : Option Nat
  reuseAddress : Option Nat
  receiveBuffer : Option Nat
  receiveTimeout : Option Nat
  inetPton : String → Option (BitVec 32)
  bind : Option Nat
  close : Option Nat

/-- `inet_pton(AF_INET, listen_ip, ...)`. -/
def Outcomes.listenAddress (outcomes : Outcomes) (arguments : OpenArguments) :
    Option (BitVec 32) :=
  arguments.listenIp.bind outcomes.inetPton

/-- The label `fail`. -/
def failOpen (system : System) (receiver : Receiver) (outcomes : Outcomes) :
    Option (Option Receiver × System) :=
  (hftReceiverClose system (some receiver) outcomes.close).map fun closed =>
    (none, { closed with errno := system.errno })

/-- The four allocations behind the one of the receiver itself. -/
def allocateArrays (system : System) (block batchSize : Nat) (outcomes : Outcomes) :
    Receiver × System :=
  let (messages, system) := system.calloc outcomes.messages
  let (vectors, system) := system.calloc outcomes.vectors
  let (senders, system) := system.calloc outcomes.senders
  let (buffers, system) := system.calloc outcomes.buffers
  (⟨block, none, batchSize, messages, vectors, senders, buffers, .zero batchSize⟩, system)

/-- `struct timeval timeout`. -/
def timevalOf (timeoutMs : Nat) : Timeval := ⟨timeoutMs / 1000, timeoutMs % 1000 * 1000⟩

/-- The part of `hft_receiver_open` that opens the socket. -/
def openSocket (system : System) (receiver : Receiver) (arguments : OpenArguments)
    (outcomes : Outcomes) : Option (Option Receiver × System) :=
  match system.socket outcomes.socket with
  | (none, system) => failOpen system receiver outcomes
  | (some descriptor, system) =>
      let receiver := { receiver with socketFd := some descriptor }
      match system.configure descriptor
          [(.reuseAddress, outcomes.reuseAddress),
            (.receiveBuffer arguments.requestedSocketBuffer, outcomes.receiveBuffer),
            (.receiveTimeout (timevalOf arguments.timeoutMs), outcomes.receiveTimeout)] with
      | (false, system) => failOpen system receiver outcomes
      | (true, system) =>
          match outcomes.listenAddress arguments with
          | none => failOpen { system with errno := einval } receiver outcomes
          | some ip =>
              match system.configure descriptor
                  [(.bound ⟨ip, arguments.listenPort⟩, outcomes.bind)] with
              | (false, system) => failOpen system receiver outcomes
              | (true, system) => some (some receiver, system)

/-- The part of `hft_receiver_open` behind the allocations. -/
def openArrays (system : System) (receiver : Receiver) (arguments : OpenArguments)
    (outcomes : Outcomes) : Option (Option Receiver × System) :=
  if receiver.messages.isNone || receiver.vectors.isNone || receiver.senders.isNone ||
      receiver.buffers.isNone then
    failOpen system receiver outcomes
  else openSocket system { receiver with arrays := receiver.arrays.prepare } arguments outcomes

/-- `hft_receiver_open`. -/
def hftReceiverOpen (system : System) (arguments : OpenArguments) (outcomes : Outcomes) :
    Option (Option Receiver × System) :=
  if arguments.refused then some (none, { system with errno := einval })
  else
    match system.calloc outcomes.receiver with
    | (none, system) => some (none, system)
    | (some block, system) =>
        let (receiver, system) := allocateArrays system block arguments.batchSize outcomes
        openArrays system receiver arguments outcomes

/-! ### Result slots -/

/-- `sizeof(struct hft_rx_slot)`. -/
def slotSize : Nat := 48

/-- The offsets of the fields, which are naturally aligned in C and in `ctypes`. -/
def lengthOffset : Nat := 0
def flagsOffset : Nat := 4
def senderIpOffset : Nat := 8
def senderPortOffset : Nat := 12
def reservedOffset : Nat := 14
def payloadOffset : Nat := 16

/-- An unsigned number in host order, least significant byte first. -/
def hostBytes (count number : Nat) : List Byte := (BigEndian.bytes count number).reverse

/-- The number that bytes in host order denote. -/
def hostValue (bytes : List Byte) : Nat := BigEndian.value bytes.reverse

/-- The loop body of `hft_receiver_receive` behind the call. -/
def copySlot (arrays : Arrays) (results : List Byte) (index : Nat) : Option (List Byte) := do
  let message ← arrays.messages[index]?
  let slot := index * slotSize
  let port := BigEndian.value (load arrays.senders (index * sockaddrSize + 2) 2)
  if slot + slotSize ≤ results.length then
    let results := store results (slot + lengthOffset) (hostBytes 4 message.msgLen)
    let results := store results (slot + flagsOffset) (hostBytes 4 message.msgFlags.toNat)
    let results := store results (slot + senderIpOffset)
      (load arrays.senders (index * sockaddrSize + 4) 4)
    let results := store results (slot + senderPortOffset) (hostBytes 2 port)
    let results := store results (slot + reservedOffset) (hostBytes 2 0)
    some (store results (slot + payloadOffset)
      (if message.msgLen = packetSize ∧ message.msgFlags &&& msgTrunc = 0#32 then
        load arrays.buffers (index * maxDatagramSize) packetSize
      else List.replicate packetSize 0#8))
  else none

/-- The loop of `hft_receiver_receive` behind the call, from an index on. -/
def copySlots (arrays : Arrays) (results : List Byte) (index : Nat) : Nat → Option (List Byte)
  | 0 => some results
  | count + 1 => do
      let copied ← copySlot arrays results index
      copySlots arrays copied (index + 1) count

/-- What `hft_receiver_receive` returns and leaves behind. -/
structure Received where
  returned : Except Nat Nat
  receiver : Receiver
  results : List Byte

/-- `hft_receiver_receive`, for a result array that is not null. -/
def hftReceiverReceive (receiver : Receiver) (results : List Byte) (resultCapacity : Nat)
    (kernel : Except Nat (List Delivery)) : Option Received :=
  if resultCapacity < receiver.batchSize then some ⟨.error einval, receiver, results⟩
  else if receiver.messages.isNone || receiver.vectors.isNone || receiver.senders.isNone ||
      receiver.buffers.isNone then
    none
  else
    let reset := receiver.arrays.reset
    match kernel with
    | .error errno => some ⟨.error errno, { receiver with arrays := reset }, results⟩
    | .ok deliveries => do
        let arrays ← reset.recvmmsg deliveries
        let copied ← copySlots arrays results 0 deliveries.length
        some ⟨.ok deliveries.length, { receiver with arrays := arrays }, copied⟩

/-- `slots[index]` in Python. -/
def readSlot (results : List Byte) (index : Nat) : Option LiveReceiver.ReceivedSlot :=
  let slot := index * slotSize
  let payload := load results (slot + payloadOffset) packetSize
  if sized : payload.length = packetSize then
    some {
      length := hostValue (load results (slot + lengthOffset) 4)
      truncated :=
        BitVec.ofNat 32 (hostValue (load results (slot + flagsOffset) 4)) &&& msgTrunc != 0#32
      sender := {
        ip := BitVec.ofNat 32 (BigEndian.value (load results (slot + senderIpOffset) 4))
        port := BitVec.ofNat 16 (hostValue (load results (slot + senderPortOffset) 2)) }
      payload := ⟨payload, sized⟩ }
  else none

end HftPipeline.Host.ReceiveLibrary
