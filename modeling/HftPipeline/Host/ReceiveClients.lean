import HftPipeline.Host.ReceiveResources

/-!
# Programs over the receive library

A program opens receivers, receives into arrays of its own and closes receivers, in any
order and with any outcome of the system calls. At every point the process owns what its
open receivers are made of, and nothing else it did not own before.
-/

namespace HftPipeline.Host.ReceiveLibrary

open HftPipeline.Std HftPipeline.Std.Slots HftPipeline.Wire Recvmmsg

/-- A call into the library. A receiver is named by its place among the open ones. The
kernel answers a receive call with an error or from the datagrams that wait. -/
inductive Operation where
  | openReceiver (arguments : OpenArguments) (outcomes : Outcomes)
  | receive (index : Nat) (results : List Byte) (kernel : Except Nat (List Delivery))
  | closeReceiver (index : Nat) (closing : Option Nat)
  | closeNull (closing : Option Nat)

/-- A program and its process. -/
structure Client where
  system : System
  receivers : List Receiver

/-- At most `vlen` datagrams are taken from the waiting ones. -/
def answer (vlen : Nat) : Except Nat (List Delivery) → Except Nat (List Delivery)
  | .error errno => .error errno
  | .ok waiting => .ok (waiting.take vlen)

/-- One call. Only an open receiver is passed to the library, and a result array with the
number of its slots. -/
def Client.step (client : Client) : Operation → Option Client
  | .openReceiver arguments outcomes => do
      let (receiver, system) ← hftReceiverOpen client.system arguments outcomes
      some ⟨system, client.receivers ++ receiver.toList⟩
  | .receive index results kernel =>
      match client.receivers[index]? with
      | none => some client
      | some receiver => do
          let received ← hftReceiverReceive receiver results (results.length / slotSize)
            (answer receiver.batchSize kernel)
          some ⟨client.system, client.receivers.set index received.receiver⟩
  | .closeReceiver index closing =>
      match client.receivers[index]? with
      | none => some client
      | some receiver => do
          let system ← hftReceiverClose client.system (some receiver) closing
          some ⟨system, client.receivers.eraseIdx index⟩
  | .closeNull closing => do
      let system ← hftReceiverClose client.system none closing
      some { client with system := system }

/-- A run of calls, `none` where one of them faults. -/
def Client.run (client : Client) (operations : List Operation) : Option Client :=
  operations.foldlM Client.step client

/-- The process owns the blocks and sockets of the open receivers, besides those it owned
before the run, and every open receiver works. -/
structure Client.Accounts (client : Client) (before : System) : Prop where
  owns : client.system.Owns before (client.receivers.flatMap Receiver.blocks)
    (client.receivers.flatMap fun receiver => receiver.socketFd.toList)
  opened : ∀ receiver ∈ client.receivers, receiver.Opened ∧ receiver.socketFd.isSome

variable {client : Client} {before : System}

/-- An open adds its receiver, or reports its error. -/
theorem Client.Accounts.openReceiver (accounts : client.Accounts before) (arguments : OpenArguments)
    (outcomes : Outcomes) :
    ∃ result system, hftReceiverOpen client.system arguments outcomes = some (result, system) ∧
      Client.Accounts ⟨system, client.receivers ++ result.toList⟩ before ∧
      Answers client.system before system (client.receivers.flatMap Receiver.blocks)
        (client.receivers.flatMap fun receiver => receiver.socketFd.toList) arguments outcomes
        result (openError arguments outcomes) := by
  obtain ⟨result, system, ended, answered⟩ := accounts.owns.hftReceiverOpen arguments outcomes
  refine ⟨result, system, ended, ?_, answered⟩
  cases error : openError arguments outcomes with
  | some errno =>
      rw [error] at answered
      obtain ⟨rfl, -, owned⟩ := answered
      rw [Option.toList_none, List.append_nil]
      exact ⟨owned, accounts.opened⟩
  | none =>
      rw [error] at answered
      obtain ⟨receiver, rfl, opens⟩ := answered
      obtain ⟨descriptor, ip, socket, -, -⟩ := opens.socket
      constructor
      · simp only [Option.toList_some, List.flatMap_append, List.flatMap_singleton]
        exact opens.owns.perm List.perm_append_comm List.perm_append_comm
      · intro other member
        rcases List.mem_append.mp member with old | new
        · exact accounts.opened other old
        · rw [Option.toList_some, List.mem_singleton] at new
          subst new
          exact ⟨opens.opened, by rw [socket]; rfl⟩

/-- An entry that counts as much as the one it replaces changes no sum. -/
theorem flatMap_set {Item : Type} {items : List Item} {index : Nat} {old new : Item}
    {parts : Item → List Nat} (at_ : items[index]? = some old) (same : parts new = parts old) :
    (items.set index new).flatMap parts = items.flatMap parts := by
  have kept : (items.map parts).set index (parts old) = items.map parts := by
    apply List.ext_getElem?
    intro other
    rw [List.getElem?_set]
    split_ifs with here inside
    · rw [← here, List.getElem?_map, at_]
      rfl
    · rw [← here, List.getElem?_eq_none (Nat.le_of_not_lt inside)]
    · rfl
  rw [List.flatMap_def, List.flatMap_def, List.map_set, same, kept]

/-- A receive call leaves the resources alone. -/
theorem Client.Accounts.receive (accounts : client.Accounts before) {index : Nat}
    {receiver : Receiver} (at_ : client.receivers[index]? = some receiver) (results : List Byte)
    (kernel : Except Nat (List Delivery)) :
    ∃ received, hftReceiverReceive receiver results (results.length / slotSize)
        (answer receiver.batchSize kernel) = some received ∧
      Client.Accounts ⟨client.system, client.receivers.set index received.receiver⟩ before := by
  have opened := accounts.opened receiver (List.mem_of_getElem? at_)
  have answered : ∃ received, hftReceiverReceive receiver results (results.length / slotSize)
        (answer receiver.batchSize kernel) = some received ∧
      received.receiver.Opened ∧ received.receiver.SameBlocks receiver := by
    by_cases room : receiver.batchSize ≤ results.length / slotSize
    · cases kernel with
      | error errno =>
          obtain ⟨received, ended, -, -, works, same⟩ :=
            receive_error opened.1 room results errno
          exact ⟨received, ended, works, same⟩
      | ok waiting =>
          obtain ⟨received, ended, -, -, -, -, works, same⟩ :=
            receive_ok opened.1 room (Nat.div_mul_le_self _ _)
              (List.length_take_le receiver.batchSize waiting)
          exact ⟨received, ended, works, same⟩
    · refine ⟨⟨.error einval, receiver, results⟩, ?_, opened.1, rfl⟩
      rw [hftReceiverReceive, if_pos (Nat.lt_of_not_le room)]
  obtain ⟨received, ended, works, same⟩ := answered
  have blocks : received.receiver.blocks = receiver.blocks := by
    rw [same]
    rfl
  have socket : received.receiver.socketFd = receiver.socketFd := by
    rw [same]
  refine ⟨received, ended, ?_, ?_⟩
  · have owns := accounts.owns
    rw [← flatMap_set at_ blocks, ← flatMap_set at_ (congrArg Option.toList socket)] at owns
    exact owns
  · intro other member
    rcases List.mem_or_eq_of_mem_set member with old | rfl
    · exact accounts.opened other old
    · exact ⟨works, by rw [socket]; exact opened.2⟩

/-- Taking an entry out takes its parts out. -/
theorem flatMap_eraseIdx {Item : Type} {items : List Item} {index : Nat} {old : Item}
    (parts : Item → List Nat) (at_ : items[index]? = some old) :
    (items.flatMap parts).Perm (parts old ++ (items.eraseIdx index).flatMap parts) := by
  obtain ⟨bound, rfl⟩ := List.getElem?_eq_some_iff.mp at_
  rw [← List.flatMap_cons]
  exact (List.getElem_cons_eraseIdx_perm bound).symm.flatMap_right parts

/-- Closing a receiver gives back what it is made of. -/
theorem Client.Accounts.closeReceiver (accounts : client.Accounts before) {index : Nat}
    {receiver : Receiver} (at_ : client.receivers[index]? = some receiver)
    (closing : Option Nat) :
    ∃ system, hftReceiverClose client.system (some receiver) closing = some system ∧
      Client.Accounts ⟨system, client.receivers.eraseIdx index⟩ before := by
  have owns := accounts.owns.perm (flatMap_eraseIdx Receiver.blocks at_)
    (flatMap_eraseIdx (fun receiver => receiver.socketFd.toList) at_)
  obtain ⟨system, ended, owned, -⟩ := owns.closeReceiver closing
  exact ⟨system, ended, owned,
    fun other member => accounts.opened other (List.mem_of_mem_eraseIdx member)⟩

/-- One call keeps the account. -/
theorem Client.Accounts.step (accounts : client.Accounts before) (operation : Operation) :
    ∃ after, client.step operation = some after ∧ after.Accounts before := by
  cases operation with
  | openReceiver arguments outcomes =>
      obtain ⟨result, system, ended, kept, -⟩ := accounts.openReceiver arguments outcomes
      exact ⟨_, by simp only [Client.step, ended, Option.bind_eq_bind, Option.bind_some], kept⟩
  | receive index results kernel =>
      cases at_ : client.receivers[index]? with
      | none => exact ⟨client, by simp only [Client.step, at_], accounts⟩
      | some receiver =>
          obtain ⟨received, ended, kept⟩ := accounts.receive at_ results kernel
          exact ⟨_, by simp only [Client.step, at_, ended, Option.bind_eq_bind, Option.bind_some],
            kept⟩
  | closeReceiver index closing =>
      cases at_ : client.receivers[index]? with
      | none => exact ⟨client, by simp only [Client.step, at_], accounts⟩
      | some receiver =>
          obtain ⟨system, ended, kept⟩ := accounts.closeReceiver at_ closing
          exact ⟨_, by simp only [Client.step, at_, ended, Option.bind_eq_bind, Option.bind_some],
            kept⟩
  | closeNull closing => exact ⟨client, rfl, accounts⟩

/-- A run keeps the account. -/
theorem Client.Accounts.run (accounts : client.Accounts before) (operations : List Operation) :
    ∃ after, client.run operations = some after ∧ after.Accounts before := by
  induction operations generalizing client with
  | nil => exact ⟨client, rfl, accounts⟩
  | cons operation operations ih =>
      obtain ⟨next, stepped, kept⟩ := accounts.step operation
      obtain ⟨after, ended, last⟩ := ih kept
      refine ⟨after, ?_, last⟩
      rw [Client.run, List.foldlM_cons, stepped, Option.bind_eq_bind, Option.bind_some]
      exact ended

/-- A normalized time of a number of milliseconds. -/
def Timeval.Denotes (timeout : Timeval) (milliseconds : Nat) : Prop :=
  timeout.tvUsec < 1000000 ∧ timeout.tvSec * 1000000 + timeout.tvUsec = milliseconds * 1000

theorem timevalOf_denotes (timeoutMs : Nat) : (timevalOf timeoutMs).Denotes timeoutMs := by
  simp only [timevalOf, Timeval.Denotes]
  omega

/-- What an open does at some point of a run: it adds a receiver that works on a new socket,
told exactly what was asked for, or adds nothing and reports the first error. -/
def Client.Opening (client after : Client) (arguments : OpenArguments) (outcomes : Outcomes) :
    Option Nat → Prop
  | none => ∃ receiver descriptor ip, after.receivers = client.receivers ++ [receiver] ∧
      receiver.Opened ∧ receiver.batchSize = arguments.batchSize ∧
      receiver.socketFd = some descriptor ∧ outcomes.listenAddress arguments = some ip ∧
      ∃ timeout : Timeval, timeout.Denotes arguments.timeoutMs ∧
        after.system.settings = client.system.settings ++ [(descriptor, .reuseAddress),
          (descriptor, .receiveBuffer arguments.requestedSocketBuffer),
          (descriptor, .receiveTimeout timeout),
          (descriptor, .bound ⟨ip, arguments.listenPort⟩)]
  | some errno => after.receivers = client.receivers ∧ after.system.errno = errno

/-- A run over the library never faults, and the process owns at every point exactly what its
open receivers are made of: nothing leaks on any failing path, and nothing is released
twice. -/
theorem receivers_keep_resources (system : System) (operations : List Operation) :
    ∃ client, Client.run ⟨system, []⟩ operations = some client ∧ client.Accounts system ∧
      ∀ arguments outcomes, ∃ after, client.step (.openReceiver arguments outcomes) = some after ∧
        after.Accounts system ∧
        client.Opening after arguments outcomes (openError arguments outcomes) := by
  have start : Client.Accounts ⟨system, []⟩ system := ⟨.refl system, fun _ member => nomatch member⟩
  obtain ⟨client, ended, accounts⟩ := start.run operations
  refine ⟨client, ended, accounts, ?_⟩
  intro arguments outcomes
  obtain ⟨result, last, opened, kept, answered⟩ := accounts.openReceiver arguments outcomes
  refine ⟨⟨last, client.receivers ++ result.toList⟩, ?_, kept, ?_⟩
  · simp only [Client.step, opened, Option.bind_eq_bind, Option.bind_some]
  · cases error : openError arguments outcomes with
    | some errno =>
        rw [error] at answered
        obtain ⟨rfl, errno, -⟩ := answered
        exact ⟨List.append_nil _, errno⟩
    | none =>
        rw [error] at answered
        obtain ⟨receiver, rfl, opens⟩ := answered
        obtain ⟨descriptor, ip, socket, address, told⟩ := opens.socket
        exact ⟨receiver, descriptor, ip, rfl, opens.opened, opens.batchSize, socket, address,
          timevalOf arguments.timeoutMs, timevalOf_denotes _, told⟩

end HftPipeline.Host.ReceiveLibrary
