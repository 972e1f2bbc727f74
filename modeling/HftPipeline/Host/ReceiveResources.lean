import HftPipeline.Host.ReceiveSlots

/-!
# The resources of the receivers

Every block and every socket that `hft_receiver_open` acquires belongs to the receiver it
returns, and on each of its failing paths all of them are released before it returns.
-/

namespace HftPipeline.Host.ReceiveLibrary

open HftPipeline.Std HftPipeline.Wire Recvmmsg

/-- The heap blocks of a receiver, in the order of their release. -/
def Receiver.blocks (receiver : Receiver) : List Nat :=
  receiver.messages.toList ++ (receiver.vectors.toList ++ (receiver.senders.toList ++
    (receiver.buffers.toList ++ [receiver.block])))

/-- The process owns what the lists name, besides what another process state owns. -/
structure System.Owns (system before : System) (blocks sockets : List Nat) : Prop where
  heap : system.heap.live.Perm (blocks ++ before.heap.live)
  descriptors : system.descriptors.live.Perm (sockets ++ before.descriptors.live)

variable {system before : System} {blocks sockets : List Nat}

/-- A system owns nothing beyond itself. -/
theorem System.Owns.refl (system : System) : system.Owns system [] [] := ⟨.refl _, .refl _⟩

/-- Nothing but the resources counts. -/
theorem System.Owns.congr (owns : system.Owns before blocks sockets) {other : System}
    (heap : other.heap = system.heap) (descriptors : other.descriptors = system.descriptors) :
    other.Owns before blocks sockets :=
  ⟨heap ▸ owns.heap, descriptors ▸ owns.descriptors⟩

/-- The order of the resources does not matter. -/
theorem System.Owns.perm (owns : system.Owns before blocks sockets) {others : List Nat}
    (same : blocks.Perm others) {othersSockets : List Nat}
    (sameSockets : sockets.Perm othersSockets) :
    system.Owns before others othersSockets :=
  ⟨owns.heap.trans (same.append_right _), owns.descriptors.trans (sameSockets.append_right _)⟩

/-- An allocation changes no socket setting. -/
@[simp] theorem calloc_settings (system : System) (succeeds : Bool) :
    (system.calloc succeeds).2.settings = system.settings := by
  cases succeeds <;> rfl

/-- An allocation sets the error number only when it fails. -/
@[simp] theorem calloc_errno (system : System) (succeeds : Bool) :
    (system.calloc succeeds).2.errno = if succeeds then system.errno else enomem := by
  cases succeeds <;> rfl

/-- An allocation gives no block exactly when it fails. -/
@[simp] theorem calloc_isNone (system : System) (succeeds : Bool) :
    (system.calloc succeeds).1.isNone = !succeeds := by
  cases succeeds <;> rfl

/-- An allocation adds its block. -/
theorem System.Owns.calloc (owns : system.Owns before blocks sockets) (succeeds : Bool) :
    (system.calloc succeeds).2.Owns before ((system.calloc succeeds).1.toList ++ blocks)
      sockets := by
  cases succeeds with
  | true => exact ⟨owns.heap.cons _, owns.descriptors⟩
  | false => exact owns.congr rfl rfl

/-- A release of an owned block, or of a null pointer, takes it away. -/
theorem System.Owns.free {pointer : Option Nat}
    (owns : system.Owns before (pointer.toList ++ blocks) sockets) :
    ∃ after, system.free pointer = some after ∧ after.Owns before blocks sockets ∧
      after.settings = system.settings ∧ after.errno = system.errno := by
  cases pointer with
  | none => exact ⟨system, rfl, owns, rfl, rfl⟩
  | some block =>
      obtain ⟨heap, released, left⟩ := Pool.release_of_perm owns.heap
      refine ⟨{ system with heap := heap }, ?_, ⟨left, owns.descriptors⟩, rfl, rfl⟩
      rw [System.free, released, Option.map_some]

/-- Closing an owned socket, if there is one, takes it away. -/
theorem System.Owns.closeOpen {socketFd : Option Nat}
    (owns : system.Owns before blocks (socketFd.toList ++ sockets)) (closing : Option Nat) :
    ∃ after, system.closeOpen socketFd closing = some after ∧
      after.Owns before blocks sockets ∧ after.settings = system.settings := by
  cases socketFd with
  | none => exact ⟨system, rfl, owns, rfl⟩
  | some descriptor =>
      obtain ⟨descriptors, released, left⟩ := Pool.release_of_perm owns.descriptors
      refine ⟨{ system with
        descriptors := descriptors
        errno := closing.getD system.errno }, ?_, ⟨owns.heap, left⟩, rfl⟩
      rw [System.closeOpen]
      simp only [System.close, released, Option.map_some]

/-- `hft_receiver_close` releases what its receiver owns, each once. -/
theorem System.Owns.closeReceiver {receiver : Receiver}
    (owns : system.Owns before (receiver.blocks ++ blocks) (receiver.socketFd.toList ++ sockets))
    (closing : Option Nat) :
    ∃ after, hftReceiverClose system (some receiver) closing = some after ∧
      after.Owns before blocks sockets ∧ after.settings = system.settings := by
  obtain ⟨first, socket, owned, settings⟩ := owns.closeOpen closing
  simp only [Receiver.blocks, List.append_assoc] at owned
  obtain ⟨second, messages, owned, kept, -⟩ := owned.free
  obtain ⟨third, vectors, owned, kept', -⟩ := owned.free
  obtain ⟨fourth, senders, owned, kept'', -⟩ := owned.free
  obtain ⟨fifth, buffers, owned, kept''', -⟩ := owned.free
  have own : fifth.Owns before ((some receiver.block).toList ++ blocks) sockets := owned
  obtain ⟨after, block, owned, last, -⟩ := own.free
  refine ⟨after, ?_, owned, by rw [last, kept''', kept'', kept', kept, settings]⟩
  simp only [hftReceiverClose, Option.bind_eq_bind, socket, Option.bind_some, messages, vectors,
    senders, buffers, block]

/-- The error of the first call behind the allocations that fails. -/
def socketError (arguments : OpenArguments) (outcomes : Outcomes) : Option Nat :=
  outcomes.socket <|> outcomes.reuseAddress <|> outcomes.receiveBuffer <|>
    outcomes.receiveTimeout <|>
      (if (outcomes.listenAddress arguments).isNone then some einval else none) <|>
        outcomes.bind

/-- All four allocations succeed. -/
def Outcomes.allocated (outcomes : Outcomes) : Bool :=
  outcomes.messages && outcomes.vectors && outcomes.senders && outcomes.buffers

/-- The error of the first check or call of an open that fails. -/
def openError (arguments : OpenArguments) (outcomes : Outcomes) : Option Nat :=
  if arguments.refused then some einval
  else if outcomes.receiver && outcomes.allocated then socketError arguments outcomes
  else some enomem

/-- What the kernel has been told about the socket of a receiver. -/
def socketSettings (arguments : OpenArguments) (ip : BitVec 32) : List Setting :=
  [.reuseAddress, .receiveBuffer arguments.requestedSocketBuffer,
    .receiveTimeout (timevalOf arguments.timeoutMs), .bound ⟨ip, arguments.listenPort⟩]

/-- The returned receiver owns the new blocks and the new socket. -/
structure Opens (system before after : System) (blocks sockets : List Nat)
    (arguments : OpenArguments) (outcomes : Outcomes) (receiver : Receiver) : Prop where
  opened : receiver.Opened
  batchSize : receiver.batchSize = arguments.batchSize
  owns : after.Owns before (receiver.blocks ++ blocks) (receiver.socketFd.toList ++ sockets)
  socket : ∃ descriptor ip, receiver.socketFd = some descriptor ∧
    outcomes.listenAddress arguments = some ip ∧
    after.settings =
      system.settings ++ (socketSettings arguments ip).map fun setting => (descriptor, setting)

/-- How an open may end: with a receiver that works, or with the first error and nothing
left behind. -/
def Answers (system before after : System) (blocks sockets : List Nat)
    (arguments : OpenArguments) (outcomes : Outcomes) (result : Option Receiver) :
    Option Nat → Prop
  | none => ∃ receiver, result = some receiver ∧
      Opens system before after blocks sockets arguments outcomes receiver
  | some errno => result = none ∧ after.errno = errno ∧ after.Owns before blocks sockets

variable {receiver : Receiver} {arguments : OpenArguments} {outcomes : Outcomes}

/-- Only the settings so far matter of where the calls started. -/
theorem Answers.congr {after other : System} {result : Option Receiver} {error : Option Nat}
    (answers : Answers other before after blocks sockets arguments outcomes result error)
    (settings : other.settings = system.settings) :
    Answers system before after blocks sockets arguments outcomes result error := by
  cases error with
  | some errno => exact answers
  | none =>
      obtain ⟨receiver, returned, opens⟩ := answers
      obtain ⟨descriptor, ip, socket, address, told⟩ := opens.socket
      exact ⟨receiver, returned, opens.opened, opens.batchSize, opens.owns, descriptor, ip, socket,
        address, settings ▸ told⟩

/-- The failure path releases what was acquired and keeps the error number. -/
theorem System.Owns.failOpen
    (owns : system.Owns before (receiver.blocks ++ blocks) (receiver.socketFd.toList ++ sockets))
    (outcomes : Outcomes) :
    ∃ after, failOpen system receiver outcomes = some (none, after) ∧
      after.errno = system.errno ∧ after.Owns before blocks sockets := by
  obtain ⟨closed, released, owned, -⟩ := owns.closeReceiver outcomes.close
  exact ⟨{ closed with errno := system.errno },
    by rw [ReceiveLibrary.failOpen, released, Option.map_some], rfl, owned.congr rfl rfl⟩

/-- A new socket is added to what is owned. -/
theorem System.Owns.socket (owns : system.Owns before blocks sockets) :
    (system.socket none).2.Owns before blocks (system.descriptors.fresh :: sockets) :=
  ⟨owns.heap, owns.descriptors.cons _⟩

/-- The socket of a receiver is opened, or the receiver is closed. -/
theorem System.Owns.openSocket (owns : system.Owns before (receiver.blocks ++ blocks) sockets)
    (opened : receiver.Opened) (batchSize : receiver.batchSize = arguments.batchSize)
    (closed : receiver.socketFd = none) :
    ∃ result after, openSocket system receiver arguments outcomes = some (result, after) ∧
      Answers system before after blocks sockets arguments outcomes result
        (socketError arguments outcomes) := by
  unfold ReceiveLibrary.openSocket socketError
  cases socket : outcomes.socket with
  | some errno =>
      have failed : ({ system with errno := errno } : System).Owns before
          (receiver.blocks ++ blocks) (receiver.socketFd.toList ++ sockets) := by
        rw [closed]
        exact owns.congr rfl rfl
      obtain ⟨after, ended, error, owned⟩ := failed.failOpen outcomes
      exact ⟨none, after, ended, rfl, error, owned⟩
  | none =>
      let bound := { receiver with socketFd := some system.descriptors.fresh }
      have fails (failed : System) (heap : failed.heap = system.heap)
          (descriptors : failed.descriptors = system.descriptors.acquire) :
          ∃ result after, ReceiveLibrary.failOpen failed bound outcomes = some (result, after) ∧
            Answers system before after blocks sockets arguments outcomes result
              (some failed.errno) := by
        have owned : failed.Owns before (bound.blocks ++ blocks)
            (bound.socketFd.toList ++ sockets) := owns.socket.congr heap descriptors
        obtain ⟨after, ended, error, left⟩ := owned.failOpen outcomes
        exact ⟨none, after, ended, rfl, error, left⟩
      cases reuse : outcomes.reuseAddress with
      | some errno => exact fails { system with descriptors := _, errno := errno } rfl rfl
      | none =>
      cases buffer : outcomes.receiveBuffer with
      | some errno =>
          exact fails { system with descriptors := _, settings := _, errno := errno } rfl rfl
      | none =>
      cases timeout : outcomes.receiveTimeout with
      | some errno =>
          exact fails { system with descriptors := _, settings := _, errno := errno } rfl rfl
      | none =>
      cases address : outcomes.listenAddress arguments with
      | none =>
          exact fails { system with descriptors := _, settings := _, errno := einval } rfl rfl
      | some ip =>
      cases bind : outcomes.bind with
      | some errno =>
          exact fails { system with descriptors := _, settings := _, errno := errno } rfl rfl
      | none =>
          -- Every call has succeeded, and the receiver keeps its socket.
          refine ⟨some bound, _, rfl, bound, rfl, ⟨opened.allocated, opened.prepared⟩, batchSize,
            owns.socket.congr rfl rfl, system.descriptors.fresh, ip, rfl, address, ?_⟩
          simp [socketSettings]

/-- A receiver behind its allocations, of which some may have failed. -/
structure Allocated (system before after : System) (blocks sockets : List Nat) (batchSize : Nat)
    (outcomes : Outcomes) (receiver : Receiver) : Prop where
  owns : after.Owns before (receiver.blocks ++ blocks) sockets
  settings : after.settings = system.settings
  errno : after.errno = if outcomes.allocated then system.errno else enomem
  missing : (receiver.messages.isNone || receiver.vectors.isNone || receiver.senders.isNone ||
    receiver.buffers.isNone) = !outcomes.allocated
  arrays : receiver.arrays = .zero batchSize
  batchSize : receiver.batchSize = batchSize
  closed : receiver.socketFd = none

/-- The allocations of the arrays belong to the receiver, those that failed excepted. -/
theorem System.Owns.allocateArrays {block : Nat}
    (owns : system.Owns before (block :: blocks) sockets) (batchSize : Nat)
    (outcomes : Outcomes) :
    Allocated system before (allocateArrays system block batchSize outcomes).2 blocks sockets
      batchSize outcomes (allocateArrays system block batchSize outcomes).1 where
  owns := by
    have first := owns.calloc outcomes.messages
    have second := first.calloc outcomes.vectors
    have third := second.calloc outcomes.senders
    have fourth := third.calloc outcomes.buffers
    refine fourth.perm ?_ (.refl _)
    rw [List.perm_iff_count]
    intro other
    simp only [Receiver.blocks, ReceiveLibrary.allocateArrays, List.count_append, List.count_cons,
      List.count_nil]
    omega
  settings := by simp [ReceiveLibrary.allocateArrays]
  errno := by
    obtain ⟨_, messages, vectors, senders, buffers, _, _, _, _, _, _, _⟩ := outcomes
    simp only [ReceiveLibrary.allocateArrays, calloc_errno, Outcomes.allocated]
    cases messages <;> cases vectors <;> cases senders <;> cases buffers <;> rfl
  missing := by simp [ReceiveLibrary.allocateArrays, Outcomes.allocated]
  arrays := rfl
  batchSize := rfl
  closed := rfl

/-- Behind the allocations the receiver gets its socket, or is closed. -/
theorem Allocated.openArrays {after : System}
    (allocated : Allocated system before after blocks sockets arguments.batchSize outcomes
      receiver) :
    ∃ result last, openArrays after receiver arguments outcomes = some (result, last) ∧
      Answers after before last blocks sockets arguments outcomes result
        (if outcomes.allocated then socketError arguments outcomes else some enomem) := by
  have missing := allocated.missing
  have errno := allocated.errno
  unfold ReceiveLibrary.openArrays
  cases complete : outcomes.allocated with
  | false =>
      rw [complete] at missing errno
      have owned : after.Owns before (receiver.blocks ++ blocks)
          (receiver.socketFd.toList ++ sockets) := by
        rw [allocated.closed]
        exact allocated.owns
      obtain ⟨last, ended, error, left⟩ := owned.failOpen outcomes
      exact ⟨none, last, (if_pos missing).trans ended, rfl, error.trans errno, left⟩
  | true =>
      rw [complete] at missing
      have prepared : (receiver.arrays.prepare).Prepared receiver.batchSize := by
        rw [allocated.arrays, allocated.batchSize]
        exact prepared_zero arguments.batchSize
      have opened : ({ receiver with arrays := receiver.arrays.prepare } : Receiver).Opened :=
        ⟨missing, prepared⟩
      have owned : after.Owns before
          (({ receiver with arrays := receiver.arrays.prepare } : Receiver).blocks ++ blocks)
          sockets := allocated.owns
      obtain ⟨result, last, ended, answered⟩ :=
        owned.openSocket opened allocated.batchSize allocated.closed
      exact ⟨result, last, (if_neg (by rw [missing]; decide)).trans ended, answered⟩

/-- `hft_receiver_open` never faults. It returns a receiver exactly when every check and every
call succeeds, and otherwise leaves nothing behind but the first error. -/
theorem System.Owns.hftReceiverOpen (owns : system.Owns before blocks sockets)
    (arguments : OpenArguments) (outcomes : Outcomes) :
    ∃ result after, hftReceiverOpen system arguments outcomes = some (result, after) ∧
      Answers system before after blocks sockets arguments outcomes result
        (openError arguments outcomes) := by
  unfold ReceiveLibrary.hftReceiverOpen openError
  cases refused : arguments.refused with
  | true => exact ⟨none, _, rfl, rfl, rfl, owns.congr rfl rfl⟩
  | false =>
      cases receiver : outcomes.receiver with
      | false => exact ⟨none, _, rfl, rfl, rfl, owns.calloc false⟩
      | true =>
          have allocated := (owns.calloc true).allocateArrays arguments.batchSize outcomes
          obtain ⟨result, after, ended, answered⟩ := allocated.openArrays
          exact ⟨result, after, ended, answered.congr allocated.settings⟩

end HftPipeline.Host.ReceiveLibrary
