import HftPipeline.Std.HalfEven
import HftPipeline.Host.ReceiveClients

/-!
# The live receiver over its library

`main` of `phase4_9_live_udp_recvmmsg_dma.py` with the memory it shares with
`receive_udp_dma.c`: it opens a receiver, reads each datagram from a result slot that the
library has filled, and closes the receiver. Whatever that memory held before, the run is
the one over the datagrams themselves.
-/

namespace HftPipeline.Host.LiveProgram

open HftPipeline.Std HftPipeline.Wire Recvmmsg ReceiveLibrary

/-- The command line. -/
structure Arguments where
  bindIp : String
  port : Int
  batchPackets : Int
  receiveBatch : Int
  timeout : ℚ

/-- `timeout_ms`. -/
def Arguments.timeoutMs (arguments : Arguments) : Int := HalfEven.round (arguments.timeout * 1000)

/-- The checks of `main`, with the text of each `ValueError`. -/
def checkArguments (arguments : Arguments) : Except String Unit :=
  if arguments.batchPackets ≤ 0 then .error "--batch-packets must be positive"
  else if arguments.timeout ≤ 0 then .error "--timeout must be positive"
  else if ¬(1 ≤ arguments.receiveBatch ∧ arguments.receiveBatch ≤ 256) then
    .error "--receive-batch must be between 1 and 256"
  else if ¬(1 ≤ arguments.port ∧ arguments.port ≤ 65535) then
    .error "--port must be between 1 and 65535"
  else if ¬(1 ≤ arguments.timeoutMs ∧ arguments.timeoutMs ≤ 0xFFFFFFFF) then
    .error "--timeout is outside the supported range"
  else .ok ()

/-- `SOCKET_BUFFER_BYTES`. -/
def socketBufferBytes : Int := 4 * 1024 * 1024

/-- The arguments of `hft_receiver_open`. -/
def Arguments.openArguments (arguments : Arguments) : OpenArguments where
  listenIp := some arguments.bindIp
  listenPort := BitVec.ofInt 16 arguments.port
  batchSize := arguments.receiveBatch.toNat
  timeoutMs := arguments.timeoutMs.toNat
  requestedSocketBuffer := socketBufferBytes

/-- How one call of `hft_receiver_receive` is answered, or that Ctrl-C ends it. -/
inductive SystemCall where
  | answered (kernel : Except Nat (List Delivery))
  | keyboardInterrupt

/-- The datagrams of a call, or what `main` makes of its error. -/
def resultOf (receiveBatch : Nat) : SystemCall → LiveReceiver.ReceiveResult
  | .keyboardInterrupt => .keyboardInterrupt
  | .answered (.ok waiting) => .messages ((waiting.take receiveBatch).map Delivery.datagram)
  | .answered (.error errno) =>
      if errno = eagain then .timeout
      else if errno = eintr then .interrupted
      else .failed errno

/-- `for index in range(count)`, from an index on. -/
def processRange (dma : LiveReceiver.Dma) (batchPackets : Nat) (slots : List Byte)
    (state : LiveReceiver.State) (index : Nat) : Nat → Option LiveReceiver.State
  | 0 => some state
  | count + 1 => do
      let slot ← readSlot slots index
      let next := LiveReceiver.processSlot dma batchPackets state slot
      if next.stopped then some next
      else processRange dma batchPackets slots next (index + 1) count

/-- The receive loop and what follows it, with the receiver it leaves. -/
def receiveLoop (dma : LiveReceiver.Dma) (batchPackets receiveBatch : Nat) (receiver : Receiver)
    (slots : List Byte) (calls : LiveReceiver.Calls) (state : LiveReceiver.State) :
    List SystemCall → Option (LiveReceiver.Outcome × Receiver)
  | [] =>
      if state.stopped then
        some (⟨.finished, calls, LiveReceiver.finalFlush dma batchPackets state⟩, receiver)
      else some (⟨.waiting, calls, state⟩, receiver)
  | call :: rest =>
      if state.stopped then
        some (⟨.finished, calls, LiveReceiver.finalFlush dma batchPackets state⟩, receiver)
      else match call with
        | .keyboardInterrupt =>
            some (⟨.finished, calls,
              { state with
                delivery := (LiveReceiver.flushPending dma batchPackets state.receivedPackets
                  state.delivery).1 }⟩, receiver)
        | .answered kernel => do
            let received ← hftReceiverReceive receiver slots receiveBatch
              (answer receiver.batchSize kernel)
            match received.returned with
            | .ok count =>
                let next ← processRange dma batchPackets received.results state 0 count
                receiveLoop dma batchPackets receiveBatch received.receiver received.results
                  (calls.returned count) next rest
            | .error errno =>
                if errno = eagain then
                  some (⟨.finished, calls,
                    LiveReceiver.finalFlush dma batchPackets { state with timedOut := true }⟩,
                    received.receiver)
                else if errno = eintr then
                  receiveLoop dma batchPackets receiveBatch received.receiver received.results
                    calls state rest
                else some (⟨.raised errno, calls, state⟩, received.receiver)

/-- How far `main` has come. -/
inductive Exit where
  | valueError (message : String)
  | osError (errno : Nat)
  | entered (outcome : LiveReceiver.Outcome)

/-- `main`, for the answers of its calls. The receiver is closed when the loop is left. -/
def main (dma : LiveReceiver.Dma) (arguments : Arguments) (system : System) (outcomes : Outcomes)
    (closing : Option Nat) (calls : List SystemCall) : Option (Exit × System) :=
  match checkArguments arguments with
  | .error message => some (.valueError message, system)
  | .ok () => do
      let (opened, system) ← hftReceiverOpen system arguments.openArguments outcomes
      match opened with
      | none => some (.osError system.errno, system)
      | some receiver => do
          let slots := List.replicate (arguments.receiveBatch.toNat * slotSize) 0#8
          let (outcome, left) ← receiveLoop dma arguments.batchPackets.toNat
            arguments.receiveBatch.toNat receiver slots .initial .initial calls
          if outcome.ending = .waiting then some (.entered outcome, system)
          else
            let system ← hftReceiverClose system (some left) closing
            some (.entered outcome, system)

variable {dma : LiveReceiver.Dma} {batchPackets receiveBatch : Nat} {slots : List Byte}

/-- The loop over the slots is the loop over the datagrams behind them. -/
theorem processRange_eq {deliveries : List Delivery}
    (reads : ∀ (index : Nat) (delivery : Delivery), deliveries[index]? = some delivery →
      readSlot slots index = some (LiveReceiver.receiveSlot delivery.datagram))
    (state : LiveReceiver.State) {index : Nat} {rest : List Delivery}
    (remaining : deliveries.drop index = rest) :
    processRange dma batchPackets slots state index rest.length =
      some (LiveReceiver.processSlots dma batchPackets state
        ((rest.map Delivery.datagram).map LiveReceiver.receiveSlot)) := by
  induction rest generalizing index state with
  | nil => rfl
  | cons delivery rest ih =>
      have found : deliveries[index]? = some delivery := by
        have first := congrArg (·[0]?) remaining
        rwa [List.getElem?_drop, Nat.add_zero] at first
      have tail : deliveries.drop (index + 1) = rest := by
        have dropped := congrArg (List.drop 1) remaining
        rwa [List.drop_drop, List.drop_succ_cons, List.drop_zero] at dropped
      rw [List.length_cons, processRange, reads index delivery found, Option.bind_eq_bind,
        Option.bind_some, List.map_cons, List.map_cons, LiveReceiver.processSlots,
        EarlyExit.runUntil]
      simp only
      split_ifs with stops
      · rfl
      · exact ih _ tail

/-- Over any arrays and any result memory, the loop is the one over the datagrams. -/
theorem receiveLoop_eq {receiver : Receiver} (opened : receiver.Opened)
    (batchSize : receiver.batchSize = receiveBatch)
    (memory : slots.length = receiveBatch * slotSize) (counted : LiveReceiver.Calls)
    (state : LiveReceiver.State) (calls : List SystemCall) :
    ∃ left, receiveLoop dma batchPackets receiveBatch receiver slots counted state calls =
        some (LiveReceiver.receiveLoop dma batchPackets counted state
          (calls.map (resultOf receiveBatch)), left) ∧ left.SameBlocks receiver := by
  induction calls generalizing receiver slots counted state with
  | nil =>
      refine ⟨receiver, ?_, rfl⟩
      simp only [receiveLoop, List.map_nil, LiveReceiver.receiveLoop]
      split_ifs <;> rfl
  | cons call calls ih =>
      cases stopped : state.stopped with
      | true => exact ⟨receiver, by simp [receiveLoop, LiveReceiver.receiveLoop, stopped], rfl⟩
      | false =>
        cases call with
        | keyboardInterrupt =>
            exact ⟨receiver, by
              simp [receiveLoop, LiveReceiver.receiveLoop, stopped, resultOf], rfl⟩
        | answered kernel =>
            cases kernel with
            | error errno =>
                obtain ⟨received, ended, returned, kept, works, same⟩ :=
                  receive_error opened batchSize.le slots errno
                simp only [List.map_cons, receiveLoop, LiveReceiver.receiveLoop, stopped,
                  Bool.false_eq_true, if_false, answer, ended, Option.bind_eq_bind,
                  Option.bind_some, returned, resultOf]
                split_ifs with again interrupted
                · exact ⟨received.receiver, rfl, same⟩
                · have size : received.receiver.batchSize = receiveBatch := by
                    rw [same]
                    exact batchSize
                  obtain ⟨left, rest, sameRest⟩ :=
                    ih works size (kept ▸ memory) counted state
                  exact ⟨left, rest, by rw [sameRest, same]; rfl⟩
                · exact ⟨received.receiver, rfl, same⟩
            | ok waiting =>
                have room : (waiting.take receiver.batchSize).length ≤ receiver.batchSize :=
                  List.length_take_le _ _
                obtain ⟨received, ended, returned, kept, reads, -, works, same⟩ :=
                  receive_ok opened batchSize.le memory.ge room
                have size : received.receiver.batchSize = receiveBatch := by
                  rw [same]
                  exact batchSize
                have processed : processRange dma batchPackets received.results state 0 _ = _ :=
                  processRange_eq reads state List.drop_zero
                simp only [List.map_cons, receiveLoop, LiveReceiver.receiveLoop, stopped,
                  Bool.false_eq_true, if_false, answer, ended, Option.bind_eq_bind,
                  Option.bind_some, returned, resultOf, processed]
                obtain ⟨left, rest, sameRest⟩ := ih works size (kept.trans memory)
                  (counted.returned (waiting.take receiver.batchSize).length) _
                refine ⟨left, ?_, ?_⟩
                · rw [rest, List.length_map, batchSize]
                · rw [sameRest, same]
                  rfl

/-- The accepted ranges, as one condition. -/
theorem checkArguments_eq_ok {arguments : Arguments} :
    checkArguments arguments = .ok () ↔
      0 < arguments.batchPackets ∧ 0 < arguments.timeout ∧
        (1 ≤ arguments.receiveBatch ∧ arguments.receiveBatch ≤ 256) ∧
        (1 ≤ arguments.port ∧ arguments.port ≤ 65535) ∧
        (1 ≤ arguments.timeoutMs ∧ arguments.timeoutMs ≤ 0xFFFFFFFF) := by
  unfold checkArguments
  split_ifs <;> simp_all

end HftPipeline.Host.LiveProgram
