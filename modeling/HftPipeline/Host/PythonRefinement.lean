import HftPipeline.Std.Fallible
import HftPipeline.Host.PythonReceiver
import HftPipeline.Host.StreamAccount

/-!
# The Python receiver keeps the account

Every variable of the loop is a function of the account: the counters count the
quotes of the stream, the byte map marks them, and the summaries are those of the
closed streams. The loop raises nothing but `MemoryError`.
-/

namespace HftPipeline.Host.PythonReceiver

open HftPipeline.Std HftPipeline.Std.Fallible HftPipeline.Wire

/-- The summary of a closed stream. -/
def summaryOf (stream : Stream) (actualSent : Nat) : Summary where
  targetPps := stream.targetPps
  actualSent := actualSent
  validPackets := Arrivals.distinct stream.quotes
  missingPackets := actualSent - Arrivals.distinct stream.quotes
  invalidPackets := stream.invalid
  duplicatePackets := stream.repeated
  outOfOrderPackets := Arrivals.late stream.quotes
  highestSequence := Arrivals.highest stream.quotes
  integrityOk :=
    actualSent == stream.planned && actualSent - Arrivals.distinct stream.quotes == 0 &&
      stream.invalid == 0 && stream.repeated == 0 && Arrivals.late stream.quotes == 0

/-- The variables of `main` for an account. -/
structure Refines (account : Account) (state : State) : Prop where
  active : state.streamActive = account.sender.isSome
  sender : state.activeSender = account.sender
  targetPps : state.targetPps = account.stream.targetPps
  planned : state.plannedPackets = account.stream.planned
  seen : account.sender.isSome = true →
    state.seenSequences = some (bitmap account.stream.planned account.stream.quotes)
  valid : state.validPackets = Arrivals.distinct account.stream.quotes
  invalid : state.invalidPackets = account.stream.invalid
  duplicate : state.duplicatePackets = account.stream.repeated
  outOfOrder : state.outOfOrderPackets = Arrivals.late account.stream.quotes
  highest : state.highestSequence = Arrivals.highest account.stream.quotes
  summaries : state.summaries = account.closed.map fun (stream, sent) => summaryOf stream sent

/-- The receiver starts with an empty account. -/
theorem Refines.initial : Refines .initial .initial where
  active := rfl
  sender := rfl
  targetPps := rfl
  planned := rfl
  seen := by simp [Account.initial]
  valid := rfl
  invalid := rfl
  duplicate := rfl
  outOfOrder := rfl
  highest := rfl
  summaries := rfl

/-- The loop body, sorted by what the datagram requests. -/
def respond (state : State) (sender : Address) (allocated : Bool) : Request → Except Stop State
  | .invalid => .ok state.countInvalid
  | .ignored => .ok state
  | .start targetPps durationMs planned _ _ =>
      if allocated then .ok (startStream state sender targetPps durationMs planned)
      else .error .memoryError
  | .finish quantity sequence _ =>
      if state.streamActive = false ∨ some sender ≠ state.activeSender then .ok state
      else .ok (endStream state quantity sequence)
  | .quote sequence _ =>
      if state.streamActive = true ∧ some sender = state.activeSender ∧ 1 ≤ sequence ∧
          sequence ≤ state.plannedPackets then
        recordQuote state sequence
      else .ok state.countInvalid

/-- The program answers a payload through the request it amounts to. -/
theorem processPacket_eq (state : State) (sender : Address) (allocated : Bool) (payload : Payload) :
    processPacket state sender allocated (unpack payload) =
      respond state sender allocated (requestOf payload) := by
  by_cases header : (unpack payload).magic ≠ magicBytes ∨ (unpack payload).version ≠ 1
  · simp only [processPacket, requestOf, if_pos header, respond]
  simp only [processPacket, requestOf, if_neg header]
  by_cases start : (unpack payload).messageType = messageStreamStart
  · simp only [if_pos start]
    by_cases announced : 1 ≤ (unpack payload).instrumentId ∧ 1 ≤ (unpack payload).priceTicks ∧
        1 ≤ (unpack payload).quantity ∧ (unpack payload).quantity ≤ largestStream
    · have accepted : ¬((unpack payload).instrumentId < 1 ∨ (unpack payload).priceTicks < 1 ∨
          (unpack payload).quantity < 1 ∨ (unpack payload).quantity > maxPlannedPackets) := by
        simp only [largestStream, maxPlannedPackets] at announced ⊢
        omega
      simp only [if_neg accepted, dif_pos announced, respond]
    · have refused : (unpack payload).instrumentId < 1 ∨ (unpack payload).priceTicks < 1 ∨
          (unpack payload).quantity < 1 ∨ (unpack payload).quantity > maxPlannedPackets := by
        simp only [largestStream, maxPlannedPackets] at announced ⊢
        omega
      simp only [if_pos refused, dif_neg announced, respond]
  simp only [if_neg start]
  by_cases finish : (unpack payload).messageType = messageStreamEnd
  · simp only [if_pos finish, respond]
  simp only [if_neg finish]
  cases active : state.streamActive with
  | false =>
      by_cases quote : (unpack payload).messageType = messageQuoteUpdate ∧
          ((unpack payload).side = 0 ∨ (unpack payload).side = 1) ∧ (unpack payload).reserved = 0
      · simp [quote, active, State.countInvalid, respond]
      · simp [quote, active, State.countInvalid, respond]
  | true =>
      by_cases quote : (unpack payload).messageType = messageQuoteUpdate ∧
          ((unpack payload).side = 0 ∨ (unpack payload).side = 1) ∧ (unpack payload).reserved = 0
      · obtain ⟨type, side, reserved⟩ := quote
        by_cases same : some sender = state.activeSender
        · by_cases within : 1 ≤ (unpack payload).sequence ∧
              (unpack payload).sequence ≤ state.plannedPackets
          · simp [type, side, reserved, same, within, active, respond]
          · simp [type, side, reserved, same, within, State.countInvalid, active, respond]
        · simp [type, side, reserved, same, State.countInvalid, active, respond]
      · have refused : (unpack payload).messageType ≠ messageQuoteUpdate ∨
            ¬((unpack payload).side = 0 ∨ (unpack payload).side = 1) ∨
            (unpack payload).reserved ≠ 0 ∨ ¬(1 ≤ (unpack payload).sequence ∧
              (unpack payload).sequence ≤ state.plannedPackets) := by tauto
        by_cases same : some sender = state.activeSender
        · simp only [if_neg quote, if_pos refused, same, ne_eq, not_true_eq_false, if_false,
            State.countInvalid, active, if_true, Bool.true_eq_false, respond]
        · simp [quote, same, State.countInvalid, active, respond]

/-- The program answers a datagram through the request it amounts to. -/
theorem receive_eq (state : State) (arrival : Arrival) : receive state arrival =
    respond state arrival.datagram.sender arrival.allocated (request arrival.datagram) := by
  unfold receive request
  cases datagramPayload arrival.datagram with
  | none => rfl
  | some payload => exact processPacket_eq _ _ _ _

/-- The state behind a lookup. -/
def State.counted (state : State) (sequence : Nat) : Option (List Byte) → State
  | none => { state with duplicatePackets := state.duplicatePackets + 1 }
  | some seen => recordFirst state seen sequence

/-- The byte map alone decides what becomes of a quote. -/
theorem recordQuote_eq (state : State) (sequence : Nat) : recordQuote state sequence =
    (lookUp .subscriptError state.seenSequences sequence).map (state.counted sequence) := by
  unfold recordQuote lookUp
  cases mapped : state.seenSequences with
  | none => rfl
  | some seen =>
      cases found : seen[sequence]? with
      | none => simp [found, Except.map]
      | some mark =>
          by_cases marked : mark = 0#8 <;> simp [found, marked, mapped, Except.map, State.counted]

/-- The running stream is that of the sender. -/
def State.Owned (state : State) (sender : Address) : Prop :=
  state.streamActive = true ∧ state.activeSender = some sender

section Branches

variable {state : State} {sender : Address} {allocated : Bool} {quantity sequence : Nat}

/-- An END of the active sender ends its stream. -/
theorem respond_finish {range : quantity < 2 ^ 32 ∧ sequence < 2 ^ 32} (own : state.Owned sender) :
    respond state sender allocated (.finish quantity sequence range) =
      .ok (endStream state quantity sequence) :=
  if_neg (by simp [own.1, own.2])

/-- An END of another address changes nothing. -/
theorem respond_finish_foreign {range : quantity < 2 ^ 32 ∧ sequence < 2 ^ 32}
    (foreign : ¬ state.Owned sender) :
    respond state sender allocated (.finish quantity sequence range) = .ok state := by
  refine if_pos ?_
  by_contra owned
  rw [not_or, Bool.not_eq_false, not_ne_iff] at owned
  exact foreign ⟨owned.1, owned.2.symm⟩

/-- A planned quote of the active sender is recorded. -/
theorem respond_quote {range : sequence < 2 ^ 32} (own : state.Owned sender)
    (within : 1 ≤ sequence ∧ sequence ≤ state.plannedPackets) :
    respond state sender allocated (.quote sequence range) = recordQuote state sequence :=
  if_pos ⟨own.1, own.2.symm, within⟩

/-- Any other quote is counted as invalid. -/
theorem respond_quote_refused {range : sequence < 2 ^ 32}
    (refused : ¬(state.Owned sender ∧ 1 ≤ sequence ∧ sequence ≤ state.plannedPackets)) :
    respond state sender allocated (.quote sequence range) = .ok state.countInvalid :=
  if_neg fun counted => refused ⟨⟨counted.1, counted.2.1.symm⟩, counted.2.2⟩

end Branches

/-- A datagram that neither opens a stream nor comes from the sender of the running one
is at most counted as invalid. -/
theorem receive_foreign {state : State} {arrival : Arrival}
    (foreign : ¬ state.Owned arrival.datagram.sender)
    (opensNone : opensStream arrival.datagram = false) :
    receive state arrival = .ok state ∨ receive state arrival = .ok state.countInvalid := by
  rw [receive_eq]
  cases requested : request arrival.datagram with
  | invalid => exact Or.inr rfl
  | ignored => exact Or.inl rfl
  | start targetPps durationMs planned rate bounded => simp [opensStream, requested] at opensNone
  | finish quantity sequence range => exact Or.inl (respond_finish_foreign foreign)
  | quote sequence range => exact Or.inr (respond_quote_refused fun counted => foreign counted.1)

section Step

variable {account : Account} {state : State}

/-- The stream belongs to an address exactly when its account does. -/
theorem Refines.owned_iff (refines : Refines account state) (sender : Address) :
    state.Owned sender ↔ account.sender = some sender := by
  rw [State.Owned, refines.active, refines.sender]
  constructor
  · exact And.right
  · intro own
    exact ⟨by rw [own]; rfl, own⟩

/-- Counting an invalid packet is a rejection in the account. -/
theorem Refines.countInvalid (refines : Refines account state) :
    Refines account.reject state.countInvalid := by
  have active := refines.active
  cases running : account.sender.isSome with
  | false =>
      rw [running] at active
      simpa [State.countInvalid, Account.reject, active, running] using refines
  | true =>
      rw [running] at active
      rw [State.countInvalid, if_pos active, Account.reject, if_pos running]
      exact { refines with invalid := congrArg (· + 1) refines.invalid }

/-- An accepted START opens an empty stream in the account. -/
theorem Refines.startStream (refines : Refines account state) (sender : Address)
    (targetPps durationMs planned : Nat) (rate : targetPps < 2 ^ 32)
    (bounded : planned ≤ largestStream) :
    Refines
      { account with
        sender := some sender
        stream := .opened targetPps planned rate bounded }
      (startStream state sender targetPps durationMs planned) where
  active := rfl
  sender := rfl
  targetPps := rfl
  planned := rfl
  seen := fun _ => congrArg some (bitmap_nil planned).symm
  valid := rfl
  invalid := rfl
  duplicate := rfl
  outOfOrder := rfl
  highest := rfl
  summaries := refines.summaries

/-- The sent count read off an END is the one the account resolves. -/
theorem actualSent_eq (quantity sequence planned : Nat) :
    actualSent quantity sequence planned = resolveSent quantity sequence planned := by
  by_cases counted : 1 ≤ quantity ∧ quantity ≤ planned
  · simp [actualSent, resolveSent, counted]
  · by_cases numbered : 1 ≤ sequence ∧ sequence ≤ planned
    · simp [actualSent, resolveSent, counted, numbered]
    · simp [actualSent, resolveSent, counted, numbered]

/-- The printed summary is that of the stream. -/
theorem Refines.printSummary (refines : Refines account state) (actualSent : Nat) :
    printSummary state actualSent = summaryOf account.stream actualSent := by
  unfold PythonReceiver.printSummary summaryOf
  rw [refines.targetPps, refines.planned, refines.valid, refines.invalid, refines.duplicate,
    refines.outOfOrder, refines.highest]

/-- A `STREAM_END` adds the summary of the stream. -/
theorem Refines.summaries_endStream (refines : Refines account state) (quantity sequence : Nat) :
    (endStream state quantity sequence).summaries = state.summaries ++
      [summaryOf account.stream (resolveSent quantity sequence account.stream.planned)] := by
  rw [endStream, refines.planned, actualSent_eq, refines.printSummary]

/-- Ending a stream closes it in the account. -/
theorem Refines.endStream (refines : Refines account state) (quantity sequence : Nat) :
    Refines
      { account with
        sender := none
        closed := account.closed ++
          [(account.stream, resolveSent quantity sequence account.stream.planned)] }
      (endStream state quantity sequence) where
  active := rfl
  sender := rfl
  targetPps := refines.targetPps
  planned := refines.planned
  seen := by simp
  valid := refines.valid
  invalid := refines.invalid
  duplicate := refines.duplicate
  outOfOrder := refines.outOfOrder
  highest := refines.highest
  summaries := by
    rw [refines.summaries_endStream, refines.summaries, List.map_append]
    rfl

/-- A quote of the running stream is looked up inside the map and counted once. -/
theorem Refines.recordQuote (refines : Refines account state)
    (running : account.sender.isSome = true) {sequence : Nat}
    (within : 1 ≤ sequence ∧ sequence ≤ account.stream.planned) :
    ∃ next, recordQuote state sequence = .ok next ∧
      Refines { account with stream := account.stream.record sequence within } next := by
  have look := bitmap_getElem? account.stream.quotes within.2
  by_cases seen : sequence ∈ account.stream.quotes
  · rw [if_pos seen] at look
    obtain ⟨distinct, late, highest, repeats, map⟩ := account.stream.record_seen within seen
    refine ⟨{ state with duplicatePackets := state.duplicatePackets + 1 }, ?_, ?_⟩
    · simp [PythonReceiver.recordQuote, refines.seen running, look]
    · exact
        { refines with
          seen := fun _ => (refines.seen running).trans (congrArg some map.symm)
          valid := refines.valid.trans distinct.symm
          duplicate := (congrArg (· + 1) refines.duplicate).trans repeats.symm
          outOfOrder := refines.outOfOrder.trans late.symm
          highest := refines.highest.trans highest.symm }
  · rw [if_neg seen] at look
    obtain ⟨distinct, late, highest, repeats, map⟩ := account.stream.record_first within seen
    refine ⟨recordFirst state (bitmap account.stream.planned account.stream.quotes) sequence,
      ?_, ?_⟩
    · simp [PythonReceiver.recordQuote, refines.seen running, look]
    · exact
        { refines with
          seen := fun _ => congrArg some map.symm
          valid := (congrArg (· + 1) refines.valid).trans distinct.symm
          duplicate := refines.duplicate.trans repeats.symm
          outOfOrder := by rw [recordFirst, refines.highest, refines.outOfOrder, late]
          highest := by rw [recordFirst, refines.highest, highest] }

/-- Each turn of the loop keeps the account, unless an allocation fails. -/
theorem receive_follows :
    Follows Refines (fun arrival stop => arrival.allocated = false ∧ stop = .memoryError) receive
      (fun account arrival => account.next arrival.datagram) := by
  intro account state arrival refines
  simp only [receive_eq, Account.next]
  cases request arrival.datagram with
  | invalid => exact Or.inl ⟨_, rfl, refines.countInvalid⟩
  | ignored => exact Or.inl ⟨_, rfl, refines⟩
  | start targetPps durationMs planned rate bounded =>
      cases allocated : arrival.allocated with
      | true => exact Or.inl ⟨_, rfl, refines.startStream _ _ _ _ rate bounded⟩
      | false => exact Or.inr ⟨_, rfl, rfl, rfl⟩
  | finish quantity sequence _ =>
      left
      have owned := refines.owned_iff arrival.datagram.sender
      by_cases own : account.sender = some arrival.datagram.sender
      · refine ⟨endStream state quantity sequence, respond_finish (owned.mpr own), ?_⟩
        rw [Account.handle, if_pos own]
        exact refines.endStream quantity sequence
      · refine ⟨state, respond_finish_foreign (mt owned.mp own), ?_⟩
        rw [Account.handle, if_neg own]
        exact refines
  | quote sequence _ =>
      left
      have owned := refines.owned_iff arrival.datagram.sender
      by_cases counted : account.sender = some arrival.datagram.sender ∧ 1 ≤ sequence ∧
          sequence ≤ account.stream.planned
      · obtain ⟨after, recorded, kept⟩ := refines.recordQuote (by simp [counted.1]) counted.2
        refine ⟨after, ?_, ?_⟩
        · rw [respond_quote (owned.mpr counted.1) (refines.planned ▸ counted.2), recorded]
        · rw [Account.handle, dif_pos counted]
          exact kept
      · refine ⟨state.countInvalid, respond_quote_refused ?_, ?_⟩
        · rw [owned, refines.planned]
          exact counted
        · rw [Account.handle, dif_neg counted]
          exact refines.countInvalid

end Step

/-- The whole loop keeps it. -/
theorem run_keeps (arrivals : List Arrival) :
    (∃ state, run arrivals = .ok state ∧
      Refines (.after (arrivals.map Arrival.datagram)) state) ∨
    ∃ arrival ∈ arrivals, arrival.allocated = false ∧ run arrivals = .error .memoryError := by
  rw [Account.after, List.foldl_map]
  rcases receive_follows.foldlM .initial arrivals with
    done | ⟨arrival, member, stop, failed, refused, rfl⟩
  · exact Or.inl done
  · exact Or.inr ⟨arrival, member, refused, failed⟩

end HftPipeline.Host.PythonReceiver
