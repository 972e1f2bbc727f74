import Mathlib.Data.List.DropRight
import HftPipeline.Host.Recvmmsg
import HftPipeline.Host.CRefinement

/-!
# The receive calls of the C receiver

The loop of `main` over its four arrays, with the signals and errors that end it. It
processes exactly the datagrams of its calls, and what it counts about them belongs to the
calls begun since the stream was opened.
-/

namespace HftPipeline.Host.CReceiver

open HftPipeline.Std HftPipeline.Std.Slots HftPipeline.Wire Recvmmsg

/-- `EINTR`. -/
def eintr : Nat := 4

/-- One round of the loop: whether a signal has come before its test, how the kernel answers
from the waiting datagrams, and whether a signal has come behind the call. -/
structure Round where
  stopRequested : Bool
  kernel : Except Nat (List (Delivery × Bool))
  stopMeanwhile : Bool

/-- The address that a `struct sockaddr_in` holds. -/
def addressAt (senders : List Byte) (index : Nat) : Address where
  ip := BitVec.ofNat 32 (BigEndian.value (load senders (index * sockaddrSize + 4) 4))
  port := BitVec.ofNat 16 (BigEndian.value (load senders (index * sockaddrSize + 2) 2))

/-- `process_datagram(&state, buffers + index * MAX_DATAGRAM_SIZE, messages[index].msg_len,
&senders[index], ..)`. -/
def processSlot (arrays : Arrays) (state : State) (index : Nat) (allocated : Bool) :
    Except Stop State :=
  match arrays.messages[index]? with
  | none => .error .undefinedBehaviour
  | some message =>
      if message.msgLen ≠ packetSize then .ok state.countInvalid
      else
        let packet := load arrays.buffers (index * maxDatagramSize) packetSize
        if sized : packet.length = packetSize then
          processPacket state (addressAt arrays.senders index) allocated ⟨packet, sized⟩
        else .error .undefinedBehaviour

/-- The loop over the slots of one call, from an index on. -/
def processSlots (arrays : Arrays) (state : State) (index : Nat) : List Bool → Except Stop State
  | [] => .ok state
  | allocated :: rest => do
      let next ← processSlot arrays state index allocated
      processSlots arrays next (index + 1) rest

/-- The loop of `main`. -/
def receiveLoop (batchSize : Nat) (arrays : Arrays) (state : State) :
    List Round → Except Stop State
  | [] => .ok state
  | round :: rounds =>
      if round.stopRequested then .ok state
      else match round.kernel with
        | .error errno =>
            if errno = eintr ∧ round.stopMeanwhile = true then .ok state
            else if errno = eintr then receiveLoop batchSize arrays.reset state rounds
            else .ok state
        | .ok waiting =>
            let taken := waiting.take batchSize
            match arrays.reset.recvmmsg (taken.map Prod.fst) with
            | none => .error .undefinedBehaviour
            | some arrays => do
                let next ← processSlots arrays (state.countCall taken.length) 0
                  (taken.map Prod.snd)
                receiveLoop batchSize arrays next rounds

/-- The datagrams of the calls up to the end of the loop. -/
def answeredCalls (batchSize : Nat) : List Round → List (List Arrival)
  | [] => []
  | round :: rounds =>
      if round.stopRequested then []
      else match round.kernel with
        | .error errno =>
            if errno = eintr ∧ round.stopMeanwhile = false then answeredCalls batchSize rounds
            else []
        | .ok waiting =>
            ((waiting.take batchSize).map fun taken => ⟨taken.1.datagram, taken.2⟩) ::
              answeredCalls batchSize rounds

section Slots

variable {arrays before : Arrays} {batchSize : Nat} {taken : List (Delivery × Bool)}

/-- The address slot of a datagram reads as its sender. -/
theorem addressAt_eq (holds : arrays.Holds before batchSize 0 (taken.map Prod.fst))
    (prepared : before.Prepared batchSize) (room : (taken.map Prod.fst).length ≤ batchSize)
    {index : Nat} {delivery : Delivery} (at_ : (taken.map Prod.fst)[index]? = some delivery) :
    addressAt arrays.senders index = delivery.datagram.sender := by
  have ipFits : delivery.datagram.sender.ip.toNat < 256 ^ 4 := delivery.datagram.sender.ip.isLt
  have portFits : delivery.datagram.sender.port.toNat < 256 ^ 2 :=
    delivery.datagram.sender.port.isLt
  have ip : load arrays.senders (index * sockaddrSize + 4) 4 = _ :=
    holds.load_sender prepared room at_ (by decide)
  have port : load arrays.senders (index * sockaddrSize + 2) 2 = _ :=
    holds.load_sender prepared room at_ (by decide)
  rw [addressAt, ip, port, load_sinAddr, load_sinPort, BigEndian.value_bytes ipFits,
    BigEndian.value_bytes portFits, BitVec.ofNat_toNat, BitVec.ofNat_toNat, BitVec.setWidth_eq,
    BitVec.setWidth_eq]

/-- The slot of a datagram is processed as the datagram. -/
theorem processSlot_eq (holds : arrays.Holds before batchSize 0 (taken.map Prod.fst))
    (prepared : before.Prepared batchSize) (room : (taken.map Prod.fst).length ≤ batchSize)
    (state : State) {index : Nat} {delivery : Delivery} {allocated : Bool}
    (at_ : taken[index]? = some (delivery, allocated)) :
    processSlot arrays state index allocated =
      processDatagram state ⟨delivery.datagram, allocated⟩ := by
  have first : (taken.map Prod.fst)[index]? = some delivery := by
    rw [List.getElem?_map, at_]
    rfl
  simp only [processSlot, holds.message first, headerOf, processDatagram, datagramPayload]
  by_cases sized : delivery.datagram.stored.length = packetSize
  · have packet : load arrays.buffers (index * maxDatagramSize) packetSize =
        delivery.datagram.stored := by
      rw [holds.load_buffer prepared room first sized.ge, List.take_of_length_le sized.le]
    simp only [sized, ne_eq, not_true_eq_false, if_false, packet, dite_true,
      addressAt_eq holds prepared room first]
  · simp only [ne_eq, sized, not_false_eq_true, if_true, dite_false]

/-- The slots of a call are processed as its datagrams. -/
theorem processSlots_eq (holds : arrays.Holds before batchSize 0 (taken.map Prod.fst))
    (prepared : before.Prepared batchSize) (room : (taken.map Prod.fst).length ≤ batchSize)
    (state : State) {index : Nat} {rest : List (Delivery × Bool)}
    (remaining : taken.drop index = rest) :
    processSlots arrays state index (rest.map Prod.snd) =
      (rest.map fun taken => (⟨taken.1.datagram, taken.2⟩ : Arrival)).foldlM processDatagram
        state := by
  induction rest generalizing index state with
  | nil => rfl
  | cons entry rest ih =>
      have found : taken[index]? = some entry := by
        have first := congrArg (·[0]?) remaining
        rwa [List.getElem?_drop, Nat.add_zero] at first
      have tail : taken.drop (index + 1) = rest := by
        have dropped := congrArg (List.drop 1) remaining
        rwa [List.drop_drop, List.drop_succ_cons, List.drop_zero] at dropped
      rw [List.map_cons, List.map_cons, List.foldlM_cons, processSlots,
        processSlot_eq holds prepared room state found]
      congr 1
      funext next
      exact ih next tail

end Slots

/-- The loop over the arrays is the one over the datagrams of its calls. -/
theorem receiveLoop_eq {arrays : Arrays} {batchSize : Nat} (prepared : arrays.Prepared batchSize)
    (state : State) (rounds : List Round) :
    receiveLoop batchSize arrays state rounds =
      (answeredCalls batchSize rounds).foldlM receiveCall state := by
  induction rounds generalizing arrays state with
  | nil => rfl
  | cons round rounds ih =>
      rw [receiveLoop, answeredCalls]
      split_ifs with stops
      · rfl
      · cases kernel : round.kernel with
        | error errno =>
            cases meanwhile : round.stopMeanwhile <;> by_cases interrupted : errno = eintr
            · simp [interrupted, ih prepared.ready.toPrepared state]
            · simp [interrupted, pure, Except.pure]
            · simp [interrupted, pure, Except.pure]
            · simp [interrupted, pure, Except.pure]
        | ok waiting =>
            have room : ((waiting.take batchSize).map Prod.fst).length ≤ batchSize := by
              rw [List.length_map]
              exact List.length_take_le _ _
            obtain ⟨after, written, holds⟩ := prepared.recvmmsg room
            have processed := processSlots_eq holds prepared.ready.toPrepared room
              (state.countCall (waiting.take batchSize).length) List.drop_zero
            simp only [written, List.foldlM_cons, receiveCall, List.length_map, ← processed]
            congr 1
            funext next
            exact ih holds.toPrepared next

/-- `main`, behind the set-up of its socket and its arrays. -/
def program (batchSize : Int) (rounds : List Round) : Option (Except Stop State) :=
  if batchSize < 1 ∨ batchSize > 256 then none
  else some (receiveLoop batchSize.toNat (Arrays.zero batchSize.toNat).prepare .initial rounds)

/-! ### What is counted about the calls -/

/-- The counters that only the calls change. -/
def State.batches (state : State) : BitVec 64 × BitVec 64 × BitVec 32 :=
  (state.recvmmsgCalls, state.messagesReturned, state.maximumBatchReturned)

/-- The counters of some calls. -/
def batchesOf (sizes : List Nat) : BitVec 64 × BitVec 64 × BitVec 32 :=
  (BitVec.ofNat 64 sizes.length, BitVec.ofNat 64 sizes.sum, BitVec.ofNat 32 (sizes.foldl max 0))

/-- The state is that of a newly opened stream. -/
def State.JustOpened (state : State) : Prop := state.active = true ∧ state.batches = batchesOf []

/-- A datagram that opens no stream leaves the counters of the calls alone. -/
structure State.Continues (state before : State) : Prop where
  batches : state.batches = before.batches
  active : state.active = true → before.active = true

/-- Every state continues itself. -/
theorem State.Continues.refl (state : State) : state.Continues state := ⟨rfl, id⟩

/-- What continues a continuation continues the first state. -/
theorem State.Continues.trans {first second third : State} (left : second.Continues first)
    (right : third.Continues second) : third.Continues first :=
  ⟨right.batches.trans left.batches, left.active ∘ right.active⟩

/-- Counting an invalid packet continues the stream. -/
theorem State.Continues.countInvalid (state : State) : state.countInvalid.Continues state := by
  unfold State.countInvalid
  split_ifs with running
  · exact ⟨rfl, id⟩
  · exact .refl state

/-- Recording a quote continues the stream. -/
theorem recordQuote_continues {state next : State} {sequence : BitVec 32}
    (recorded : recordQuote state sequence = .ok next) : next.Continues state := by
  unfold recordQuote at recorded
  split at recorded
  · cases recorded
  · split at recorded
    · cases recorded
    · split_ifs at recorded
      · cases recorded
        exact ⟨rfl, id⟩
      · cases recorded
        exact ⟨rfl, id⟩

/-- One datagram either opens a stream or continues. -/
theorem processDatagram_batches {state next : State} {arrival : Arrival}
    (processed : processDatagram state arrival = .ok next) :
    if opensStream arrival.datagram then next.JustOpened else next.Continues state := by
  rw [processDatagram_eq] at processed
  cases requested : request arrival.datagram with
  | start targetPps durationMs planned rate bounded =>
      have opens : opensStream arrival.datagram = true := by simp [opensStream, requested]
      rw [if_pos opens]
      rw [requested, respond, resetStream] at processed
      split_ifs at processed
      · cases processed
        exact ⟨rfl, rfl⟩
      · cases processed
  | invalid =>
      rw [if_neg (by simp [opensStream, requested])]
      rw [requested] at processed
      cases processed
      exact .countInvalid state
  | ignored =>
      rw [if_neg (by simp [opensStream, requested])]
      rw [requested] at processed
      cases processed
      exact .refl state
  | finish quantity sequence range =>
      rw [if_neg (by simp [opensStream, requested])]
      rw [requested, respond] at processed
      split_ifs at processed
      · cases processed
        exact .refl state
      · cases processed
        exact ⟨rfl, Bool.noConfusion⟩
  | quote sequence range =>
      rw [if_neg (by simp [opensStream, requested])]
      rw [requested, respond] at processed
      split_ifs at processed
      · exact recordQuote_continues processed
      · cases processed
        exact .countInvalid state

/-- A datagram of some list opens a stream. -/
def opensAny (arrivals : List Arrival) : Bool :=
  arrivals.any fun arrival => opensStream arrival.datagram

/-- A list of datagrams resets the counters or leaves them alone. -/
theorem foldlM_batches {state next : State} {arrivals : List Arrival}
    (processed : arrivals.foldlM processDatagram state = .ok next) :
    (opensAny arrivals = true → next.batches = batchesOf []) ∧
      (opensAny arrivals = false → next.Continues state) := by
  induction arrivals generalizing state with
  | nil =>
      cases processed
      exact ⟨fun opens => (nomatch opens), fun _ => .refl _⟩
  | cons arrival arrivals ih =>
      rw [List.foldlM_cons] at processed
      cases first : processDatagram state arrival with
      | error stop =>
          rw [first] at processed
          cases processed
      | ok middle =>
          rw [first] at processed
          obtain ⟨reset, continued⟩ := ih processed
          have step := processDatagram_batches first
          have either : opensAny (arrival :: arrivals) =
              (opensStream arrival.datagram || opensAny arrivals) := List.any_cons
          rw [either]
          cases later : opensAny arrivals with
          | true => exact ⟨fun _ => reset later, fun opensNone => by simp at opensNone⟩
          | false =>
              rw [Bool.or_false]
              constructor
              · intro opens
                rw [if_pos opens] at step
                exact (continued later).batches.trans step.2
              · intro opensNone
                rw [if_neg (by rw [opensNone]; decide)] at step
                exact step.trans (continued later)

/-- The largest of sizes below a bound is below it. -/
theorem foldl_max_lt {sizes : List Nat} {start bound : Nat} (starts : start < bound)
    (small : ∀ size ∈ sizes, size < bound) : sizes.foldl max start < bound := by
  induction sizes generalizing start with
  | nil => exact starts
  | cons size sizes ih =>
      exact ih (Nat.max_lt.mpr ⟨starts, small size List.mem_cons_self⟩)
        fun other member => small other (List.mem_cons_of_mem _ member)

/-- A call of a running stream is added to its counters. -/
theorem countCall_batches {state : State} {sizes : List Nat} (running : state.active = true)
    (shows : state.batches = batchesOf sizes) (small : ∀ size ∈ sizes, size < 2 ^ 32)
    {received : Nat} (fits : received < 2 ^ 32) :
    (state.countCall received).batches = batchesOf (sizes ++ [received]) := by
  have largest : sizes.foldl max 0 < 2 ^ 32 := foldl_max_lt (by decide) small
  simp only [State.batches, batchesOf, Prod.mk.injEq] at shows
  obtain ⟨calls, messages, maximum⟩ := shows
  simp only [State.countCall, if_pos running, State.batches, batchesOf, calls, messages, maximum,
    List.length_append, List.length_singleton, List.sum_append, List.sum_singleton,
    List.foldl_append, List.foldl_cons, List.foldl_nil, BitVec.ofNat_add, gt_iff_lt,
    ofNat_lt_ofNat largest fits, Prod.mk.injEq, true_and]
  split_ifs with more
  · rw [Nat.max_eq_right more.le]
  · rw [Nat.max_eq_left (Nat.le_of_not_lt more)]

/-- The calls begun since the last one that opened a stream. -/
def sinceOpened (calls : List (List Arrival)) : List (List Arrival) :=
  calls.rtakeWhile fun call => !opensAny call

/-- The calls since the stream was opened are among the calls. -/
theorem mem_of_mem_sinceOpened {calls : List (List Arrival)} {call : List Arrival}
    (member : call ∈ sinceOpened calls) : call ∈ calls :=
  (List.rtakeWhile_suffix (fun call => !opensAny call) calls).mem member

/-- A call that opens no stream follows the ones before it. -/
theorem sinceOpened_concat (calls : List (List Arrival)) (call : List Arrival) :
    sinceOpened (calls ++ [call]) = if opensAny call then [] else sinceOpened calls ++ [call] := by
  rw [sinceOpened, List.rtakeWhile_concat]
  cases opensAny call <;> rfl

/-- Inside a call, the counters are those of the calls begun since the stream was opened. -/
theorem receiveCall_batches {calls : List (List Arrival)} {received : List Arrival}
    {processed : List Arrival} {state next : State}
    (small : ∀ call ∈ calls, call.length < 2 ^ 32) (fits : received.length < 2 ^ 32)
    (shows : state.active = true →
      state.batches = batchesOf ((sinceOpened calls).map List.length))
    (reached : processed.foldlM processDatagram (state.countCall received.length) = .ok next)
    (running : next.active = true) :
    next.batches = batchesOf
      (if opensAny processed then []
      else (sinceOpened calls).map List.length ++ [received.length]) := by
  obtain ⟨reset, continued⟩ := foldlM_batches reached
  cases opens : opensAny processed with
  | true => exact reset opens
  | false =>
      have continues := continued opens
      have counted := continues.active running
      have before : state.active = true := by
        by_contra idle
        rw [State.countCall, if_neg idle] at counted
        exact idle counted
      have sizes : ∀ size ∈ (sinceOpened calls).map List.length, size < 2 ^ 32 := by
        intro size member
        obtain ⟨call, called, rfl⟩ := List.mem_map.mp member
        exact small call (mem_of_mem_sinceOpened called)
      rw [continues.batches, countCall_batches before (shows before) sizes fits]
      rfl

/-- Behind whole calls, a running stream has counted those begun since it was opened. -/
theorem main_batches {calls : List (List Arrival)} (small : ∀ call ∈ calls, call.length < 2 ^ 32)
    {state : State} (reached : main calls = .ok state) (running : state.active = true) :
    state.batches = batchesOf ((sinceOpened calls).map List.length) := by
  induction calls using List.reverseRecOn generalizing state with
  | nil =>
      cases reached
      cases running
  | append_singleton calls call ih =>
      rw [main, List.foldlM_append] at reached
      cases before : calls.foldlM receiveCall .initial with
      | error stop =>
          rw [before] at reached
          cases reached
      | ok middle =>
          rw [before] at reached
          have processed : call.foldlM processDatagram (middle.countCall call.length) =
              .ok state := by
            have single : [call].foldlM receiveCall middle = .ok state := reached
            simp only [List.foldlM_cons, List.foldlM_nil, bind_pure, receiveCall] at single
            exact single
          have earlier : ∀ other ∈ calls, other.length < 2 ^ 32 :=
            fun other member => small other (List.mem_append_left _ member)
          have shows := receiveCall_batches earlier (small call (by simp))
            (ih earlier before) processed running
          rw [shows, sinceOpened_concat]
          cases opensAny call <;> simp

/-- No call returns more datagrams than it has slots. -/
theorem length_le_of_mem_answeredCalls {batchSize : Nat} {rounds : List Round}
    {call : List Arrival} (member : call ∈ answeredCalls batchSize rounds) :
    call.length ≤ batchSize := by
  induction rounds with
  | nil => cases member
  | cons round rounds ih =>
      rw [answeredCalls] at member
      split_ifs at member with stops
      · cases member
      · cases kernel : round.kernel with
        | error errno =>
            rw [kernel] at member
            simp only at member
            split_ifs at member
            · exact ih member
            · cases member
        | ok waiting =>
            rw [kernel] at member
            rcases List.mem_cons.mp member with rfl | later
            · rw [List.length_map]
              exact List.length_take_le _ _
            · exact ih later

/-- The C receiver over its arrays processes the datagrams of its calls, in order and each
once, without ever leaving an array. While a stream runs, what it has counted about its calls
is exact for those begun since the stream was opened, also where a report prints it. -/
theorem receive_calls_exact (batchSize : Int) (rounds : List Round) :
    (program batchSize rounds = none ↔ ¬(1 ≤ batchSize ∧ batchSize ≤ 256)) ∧
      ∀ result, program batchSize rounds = some result →
        result = main (answeredCalls batchSize.toNat rounds) ∧
        result ≠ .error .undefinedBehaviour ∧
        ∀ calls received later processed state,
          answeredCalls batchSize.toNat rounds = calls ++ received :: later →
          mainWithin calls received processed = .ok state → state.active = true →
          state.batches = batchesOf
            (if opensAny (received.take processed) then []
            else (sinceOpened calls).map List.length ++ [received.length]) := by
  unfold program
  by_cases outside : batchSize < 1 ∨ batchSize > 256
  · rw [if_pos outside]
    exact ⟨iff_of_true rfl (by omega), fun result ran => nomatch ran⟩
  rw [if_neg outside]
  refine ⟨iff_of_false (fun ran => nomatch ran) (by omega), ?_⟩
  rintro result ran
  have equal := receiveLoop_eq (prepared_zero batchSize.toNat) .initial rounds
  cases ran
  refine ⟨equal, ?_, ?_⟩
  · rw [equal]
    intro undefined
    rcases main_keeps (answeredCalls batchSize.toNat rounds) with
      ⟨state, ran, -⟩ | ⟨arrival, -, -, ran⟩
    · exact nomatch ran.symm.trans undefined
    · exact nomatch ran.symm.trans undefined
  · intro calls received later processed state answered reached running
    have small : ∀ call ∈ calls ++ received :: later, call.length < 2 ^ 32 := by
      intro call member
      rw [← answered] at member
      have bound := length_le_of_mem_answeredCalls member
      omega
    have earlier : ∀ call ∈ calls, call.length < 2 ^ 32 :=
      fun call member => small call (List.mem_append_left _ member)
    rw [mainWithin] at reached
    cases before : main calls with
    | error stop =>
        rw [before] at reached
        cases reached
    | ok middle =>
        rw [before] at reached
        exact receiveCall_batches earlier (small received (by simp))
          (fun active => main_batches earlier before active) reached running

end HftPipeline.Host.CReceiver
