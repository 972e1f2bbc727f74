import HftPipeline.Std.Fallible
import HftPipeline.Host.PacedAccount
import HftPipeline.Host.StreamIntegrity

/-!
# The paced receiver keeps the account

Every variable of `StreamTest` is a function of the account, the timeouts included, and
the loop raises nothing but `MemoryError`. From this the counters and the verdicts are
read off: which report an event prints is decided by the stream that runs in the events
before it.
-/

namespace HftPipeline.Host.PacedReceiver

open HftPipeline.Std HftPipeline.Std.Fallible HftPipeline.Wire
open PythonReceiver (Stop)

/-- The report of a closed stream. -/
def reportOf (closing : Closing) : Report where
  timedOut := closing.timedOut
  targetRate := closing.stream.targetPps
  packetsSent := closing.packetsSent
  validPackets := Arrivals.distinct closing.stream.quotes
  missingPackets := closing.packetsSent - Arrivals.distinct closing.stream.quotes
  invalidPackets := closing.stream.invalid
  duplicatePackets := closing.stream.repeated
  outOfOrderPackets := Arrivals.late closing.stream.quotes
  highestSequence := Arrivals.highest closing.stream.quotes
  integrityOk :=
    closing.packetsSent == closing.stream.planned &&
      closing.packetsSent - Arrivals.distinct closing.stream.quotes == 0 &&
      closing.stream.invalid == 0 && closing.stream.repeated == 0 &&
      Arrivals.late closing.stream.quotes == 0

/-- The report is in order exactly for an intact stream. -/
theorem reportOf_integrityOk (closing : Closing) :
    (reportOf closing).integrityOk = true ↔ closing.stream.Intact closing.packetsSent := by
  rw [← closing.stream.intact_iff, reportOf]
  simp only [Bool.and_eq_true, beq_iff_eq, and_assoc]

/-- The variables of `StreamTest` for an account. -/
structure Refines (account : Account) (test : StreamTest) : Prop where
  active : test.active = account.sender.isSome
  sender : test.sender = account.sender
  targetRate : test.targetRate = account.stream.targetPps
  planned : test.plannedPackets = account.stream.planned
  seen : account.sender.isSome = true →
    test.seen = some (bitmap account.stream.planned account.stream.quotes)
  valid : test.validPackets = Arrivals.distinct account.stream.quotes
  invalid : test.invalidPackets = account.stream.invalid
  duplicate : test.duplicatePackets = account.stream.repeated
  outOfOrder : test.outOfOrderPackets = Arrivals.late account.stream.quotes
  highest : test.highestSequence = Arrivals.highest account.stream.quotes
  lastActivity : test.lastActivityTime = account.lastActivity
  reports : test.reports = account.closed.map reportOf

/-- The receiver starts with an empty account. -/
theorem Refines.initial : Refines .initial .initial where
  active := rfl
  sender := rfl
  targetRate := rfl
  planned := rfl
  seen := by simp [Account.initial]
  valid := rfl
  invalid := rfl
  duplicate := rfl
  outOfOrder := rfl
  highest := rfl
  lastActivity := rfl
  reports := rfl

/-- A datagram that counts as invalid when a test is active. -/
def StreamTest.countInvalid (test : StreamTest) (now : ℚ) : StreamTest :=
  if test.active then test.recordInvalidPacket now else test

/-- The loop body, sorted by what the datagram requests. -/
def respond (test : StreamTest) (sender : Address) (allocated : Bool) (now : ℚ) :
    Request → Except Stop StreamTest
  | .invalid => .ok (test.countInvalid now)
  | .ignored => .ok test
  | .start targetRate _ planned _ _ =>
      if allocated then .ok (test.start sender targetRate planned now) else .error .memoryError
  | .finish quantity _ _ =>
      if test.active = true ∧ some sender = test.sender then
        .ok ({ test with lastActivityTime := some now }.finish (some quantity) false)
      else .ok test
  | .quote sequence _ =>
      if test.active = true ∧ some sender = test.sender ∧ 1 ≤ sequence ∧
          sequence ≤ test.plannedPackets then
        test.recordValidPacket sequence now
      else .ok (test.countInvalid now)

/-- The check of the source is the one of the account. -/
theorem validStartControl_iff (targetRate durationMs planned : Nat) :
    validStartControl targetRate durationMs planned = true ↔
      1 ≤ targetRate ∧ 1 ≤ durationMs ∧ 1 ≤ planned ∧ planned ≤ largestStream := by
  have same : maxPlannedPackets = largestStream := rfl
  simp only [validStartControl, same, Bool.and_eq_true, decide_eq_true_eq]
  omega

/-- The program answers a payload through the request it amounts to. -/
theorem processPacket_eq (test : StreamTest) (sender : Address) (allocated : Bool) (now : ℚ)
    (payload : Payload) : processPacket test sender allocated now (unpack payload) =
      respond test sender allocated now (requestOf payload) := by
  by_cases header : (unpack payload).magic ≠ magicBytes ∨ (unpack payload).version ≠ 1
  · simp only [processPacket, requestOf, if_pos header, respond, StreamTest.countInvalid]
  simp only [processPacket, requestOf, if_neg header]
  by_cases start : (unpack payload).messageType = controlStart
  · simp only [if_pos start]
    by_cases announced : 1 ≤ (unpack payload).instrumentId ∧ 1 ≤ (unpack payload).priceTicks ∧
        1 ≤ (unpack payload).quantity ∧ (unpack payload).quantity ≤ largestStream
    · rw [if_pos ((validStartControl_iff _ _ _).mpr announced), dif_pos announced]
      rfl
    · rw [if_neg (announced ∘ (validStartControl_iff _ _ _).mp), dif_neg announced]
      rfl
  simp only [if_neg start]
  by_cases finish : (unpack payload).messageType = controlEnd
  · simp only [if_pos finish, respond]
  simp only [if_neg finish]
  cases active : test.active with
  | false =>
      by_cases quote : (unpack payload).messageType = messageQuote ∧
          ((unpack payload).side = 0 ∨ (unpack payload).side = 1)
      · simp [quote, active, StreamTest.countInvalid, respond]
      · simp [quote, active, StreamTest.countInvalid, respond]
  | true =>
      by_cases quote : (unpack payload).messageType = messageQuote ∧
          ((unpack payload).side = 0 ∨ (unpack payload).side = 1)
      · obtain ⟨type, side⟩ := quote
        by_cases same : some sender = test.sender
        · by_cases within : 1 ≤ (unpack payload).sequence ∧
              (unpack payload).sequence ≤ test.plannedPackets
          · simp [type, side, same, within, active, respond]
          · simp [type, side, same, within, StreamTest.countInvalid, active, respond]
        · simp [type, side, same, StreamTest.countInvalid, active, respond]
      · have refused : (unpack payload).messageType ≠ messageQuote ∨
            ¬((unpack payload).side = 0 ∨ (unpack payload).side = 1) ∨
            ¬(1 ≤ (unpack payload).sequence ∧
              (unpack payload).sequence ≤ test.plannedPackets) := by tauto
        by_cases same : some sender = test.sender
        · simp only [if_neg quote, if_pos refused, same, ne_eq, not_true_eq_false, if_false,
            StreamTest.countInvalid, active, if_true, Bool.true_eq_false, respond]
        · simp [quote, same, StreamTest.countInvalid, active, respond]

/-- The program answers a datagram through the request it amounts to. -/
theorem receive_eq (test : StreamTest) (arrival : Arrival) (now : ℚ) :
    receive test (.received arrival now) =
      respond test arrival.datagram.sender arrival.allocated now (request arrival.datagram) := by
  simp only [receive, request]
  cases datagramPayload arrival.datagram with
  | none => rfl
  | some payload => exact processPacket_eq _ _ _ _ _

section Step

variable {account : Account} {test : StreamTest}

/-- A stream is the sender's exactly when the account says so. -/
theorem Refines.owned_iff (refines : Refines account test) (sender : Address) :
    (test.active = true ∧ some sender = test.sender) ↔ account.sender = some sender := by
  rw [refines.active, refines.sender]
  constructor
  · exact fun own => own.2.symm
  · intro own
    exact ⟨by rw [own]; rfl, own.symm⟩

/-- Counting an invalid packet is a rejection in the account. -/
theorem Refines.countInvalid (refines : Refines account test) (now : ℚ) :
    Refines (account.reject now) (test.countInvalid now) := by
  have active := refines.active
  cases running : account.sender.isSome with
  | false =>
      rw [running] at active
      simpa [StreamTest.countInvalid, Account.reject, active, running] using refines
  | true =>
      rw [running] at active
      rw [StreamTest.countInvalid, if_pos active, Account.reject, if_pos running]
      exact
        { refines with
          invalid := congrArg (· + 1) refines.invalid
          lastActivity := rfl }

/-- An accepted START opens an empty stream in the account. -/
theorem Refines.start (refines : Refines account test) (sender : Address) (now : ℚ)
    (targetRate durationMs planned : Nat) (rate : targetRate < 2 ^ 32)
    (bounded : planned ≤ largestStream) :
    Refines (account.handle sender now (.start targetRate durationMs planned rate bounded))
      (test.start sender targetRate planned now) where
  active := rfl
  sender := rfl
  targetRate := rfl
  planned := rfl
  seen := fun _ => congrArg some (bitmap_nil planned).symm
  valid := rfl
  invalid := rfl
  duplicate := rfl
  outOfOrder := rfl
  highest := rfl
  lastActivity := rfl
  reports := refines.reports

/-- The report of `finish` is that of the running stream. -/
theorem Refines.finish (refines : Refines account test) (running : account.sender.isSome = true)
    (packetsSent : Option Nat) (timedOut : Bool) :
    Refines
      (account.close (min (packetsSent.getD account.stream.planned) account.stream.planned)
        timedOut)
      (test.finish packetsSent timedOut) := by
  have active : ¬ test.active = false := by
    rw [refines.active, running]
    decide
  rw [StreamTest.finish, if_neg active]
  exact
    { active := rfl
      sender := rfl
      targetRate := refines.targetRate
      planned := refines.planned
      seen := fun still => by cases still
      valid := refines.valid
      invalid := refines.invalid
      duplicate := refines.duplicate
      outOfOrder := refines.outOfOrder
      highest := refines.highest
      lastActivity := refines.lastActivity
      reports := by
        simp only [Account.close, List.map_append, List.map_singleton, reportOf, refines.reports,
          refines.targetRate, refines.planned, refines.valid, refines.invalid, refines.duplicate,
          refines.outOfOrder, refines.highest] }

/-- A quote of the running stream is looked up inside the map and counted once. -/
theorem Refines.recordValidPacket (refines : Refines account test)
    (running : account.sender.isSome = true) {sequence : Nat}
    (within : 1 ≤ sequence ∧ sequence ≤ account.stream.planned) (now : ℚ) :
    ∃ next, test.recordValidPacket sequence now = .ok next ∧
      Refines
        { account with
          stream := account.stream.record sequence within
          lastActivity := some now } next := by
  have look := bitmap_getElem? account.stream.quotes within.2
  by_cases seen : sequence ∈ account.stream.quotes
  · rw [if_pos seen] at look
    obtain ⟨distinct, late, highest, repeats, map⟩ := account.stream.record_seen within seen
    refine ⟨{ test with
      duplicatePackets := test.duplicatePackets + 1
      lastActivityTime := some now }, ?_, ?_⟩
    · simp [StreamTest.recordValidPacket, refines.seen running, look]
    · exact
        { refines with
          seen := fun _ => (refines.seen running).trans (congrArg some map.symm)
          valid := refines.valid.trans distinct.symm
          duplicate := (congrArg (· + 1) refines.duplicate).trans repeats.symm
          outOfOrder := refines.outOfOrder.trans late.symm
          highest := refines.highest.trans highest.symm
          lastActivity := rfl }
  · rw [if_neg seen] at look
    obtain ⟨distinct, late, highest, repeats, map⟩ := account.stream.record_first within seen
    refine ⟨test.recordFirst (bitmap account.stream.planned account.stream.quotes) sequence now,
      ?_, ?_⟩
    · simp [StreamTest.recordValidPacket, refines.seen running, look]
    · exact
        { refines with
          seen := fun _ => congrArg some map.symm
          valid := (congrArg (· + 1) refines.valid).trans distinct.symm
          duplicate := refines.duplicate.trans repeats.symm
          outOfOrder := by
            rw [StreamTest.recordFirst, refines.highest, refines.outOfOrder, late]
          highest := by rw [StreamTest.recordFirst, refines.highest, highest]
          lastActivity := rfl }

/-- A timeout closes the running stream exactly when it has been silent for too long. -/
theorem Refines.timeout (refines : Refines account test) (now : ℚ) :
    ∃ next, receive test (.timeout now) = .ok next ∧
      Refines (account.next (.timeout now)) next := by
  have same := refines.lastActivity
  by_cases silent : account.Silent now
  · obtain ⟨running, last, active, long⟩ := silent
    rw [Option.mem_def] at active
    have closes : test.active = true ∧ now - last ≥ inactivityTimeoutSeconds :=
      ⟨refines.active.trans running, long⟩
    refine ⟨test.finish none true, ?_, ?_⟩
    · simp only [receive, same, active, if_pos closes]
    · have finished := refines.finish running none true
      rw [Account.next, if_pos ⟨running, last, active, long⟩]
      simpa using finished
  · refine ⟨test, ?_, by rwa [Account.next, if_neg silent]⟩
    simp only [receive, same]
    cases active : account.lastActivity with
    | none => rfl
    | some last =>
        refine if_neg fun closes => silent ⟨refines.active.symm.trans closes.1, last, ?_, closes.2⟩
        exact active

/-- Whether an event is a `START` in range whose byte map cannot be allocated. -/
def OutOfMemory (event : Event) : Prop :=
  ∃ arrival now targetRate durationMs planned rate bounded, event = .received arrival now ∧
    request arrival.datagram = .start targetRate durationMs planned rate bounded ∧
    arrival.allocated = false

/-- Each turn of the loop keeps the account, unless an allocation fails. -/
theorem receive_follows :
    Follows Refines (fun event stop => OutOfMemory event ∧ stop = .memoryError) receive
      Account.next := by
  intro account test event refines
  cases event with
  | timeout now => exact Or.inl (refines.timeout now)
  | received arrival now =>
      rw [receive_eq, Account.next]
      cases requested : request arrival.datagram with
      | invalid => exact Or.inl ⟨_, rfl, refines.countInvalid now⟩
      | ignored => exact Or.inl ⟨_, rfl, refines⟩
      | start targetRate durationMs planned rate bounded =>
          cases allocated : arrival.allocated with
          | true => exact Or.inl ⟨_, rfl, refines.start _ now _ _ _ rate bounded⟩
          | false =>
              exact Or.inr ⟨_, rfl,
                ⟨arrival, now, targetRate, durationMs, planned, rate, bounded, rfl, requested,
                  allocated⟩, rfl⟩
      | finish quantity sequence range =>
          left
          have owned := refines.owned_iff arrival.datagram.sender
          by_cases own : account.sender = some arrival.datagram.sender
          · have counted : Refines { account with lastActivity := some now }
                { test with lastActivityTime := some now } :=
              { refines with lastActivity := rfl }
            have finished := counted.finish (by simp [own]) (some quantity) false
            refine ⟨_, if_pos (owned.mpr own), ?_⟩
            rw [Account.handle, if_pos own]
            exact finished
          · exact ⟨test, if_neg (own ∘ owned.mp), by rwa [Account.handle, if_neg own]⟩
      | quote sequence range =>
          left
          have owned := refines.owned_iff arrival.datagram.sender
          by_cases counted : account.sender = some arrival.datagram.sender ∧ 1 ≤ sequence ∧
              sequence ≤ account.stream.planned
          · obtain ⟨own, within⟩ := counted
            obtain ⟨active, same⟩ := owned.mpr own
            obtain ⟨next, recorded, kept⟩ :=
              refines.recordValidPacket (by simp [own]) within now
            refine ⟨next, ?_, by rwa [Account.handle, dif_pos ⟨own, within⟩]⟩
            exact (if_pos ⟨active, same, within.1, refines.planned ▸ within.2⟩).trans recorded
          · refine ⟨test.countInvalid now, ?_, ?_⟩
            · refine if_neg fun accepted => counted ⟨owned.mp ⟨accepted.1, accepted.2.1⟩, ?_⟩
              rw [← refines.planned]
              exact accepted.2.2
            · rw [Account.handle, dif_neg counted]
              exact refines.countInvalid now

end Step

/-- A run keeps the account, or stops at a `START` for want of memory. -/
theorem run_keeps (events : List Event) :
    (∃ test, run events = .ok test ∧ Refines (.after events) test) ∨
      (run events = .error .memoryError ∧ ∃ event ∈ events, OutOfMemory event) := by
  rcases receive_follows.foldlM Refines.initial events with
    kept | ⟨event, member, stop, failed, without, rfl⟩
  · exact Or.inl kept
  · exact Or.inr ⟨failed, event, member, without⟩

end HftPipeline.Host.PacedReceiver
