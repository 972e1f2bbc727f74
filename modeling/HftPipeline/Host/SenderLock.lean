import HftPipeline.Std.Noninterference
import HftPipeline.Host.StreamIntegrity

/-!
# The active-sender lock

Both receivers lock a running stream to the address and port of its sender. The lock
is on everything but a `STREAM_START` in range, which takes the receiver over from
whatever address it comes. Without such a takeover, foreign traffic changes nothing
but the invalid count and the verdict that depends on it.
-/

namespace HftPipeline.Host

open HftPipeline.Std.Noninterference HftPipeline.Wire

/-- A summary without its invalid count and the verdict that depends on it. -/
def PythonReceiver.Summary.figures (summary : PythonReceiver.Summary) : PythonReceiver.Summary :=
  { summary with
    invalidPackets := 0
    integrityOk := false }

def CReceiver.Report.figures (report : CReceiver.Report) : CReceiver.Report :=
  { report with
    invalidPackets := 0#64
    integrityOk := false }

namespace PythonReceiver

/-- Everything but the invalid counts and what depends on them. -/
def State.figures (state : State) : State :=
  { state with
    invalidPackets := 0
    summaries := state.summaries.map Summary.figures }

/-- Nothing but the invalid count changes. -/
def Undisturbed (state : State) (arrival : Arrival) : Prop :=
  ∃ next, receive state arrival = .ok next ∧
    next = { state with invalidPackets := next.invalidPackets }

/-- Counting an invalid packet changes no other field. -/
theorem countInvalid_eq (state : State) :
    state.countInvalid = { state with invalidPackets := state.countInvalid.invalidPackets } := by
  unfold State.countInvalid
  split_ifs <;> rfl

/-- A packet that is only counted as invalid disturbs nothing. -/
theorem undisturbed_of_counted {state : State} {arrival : Arrival}
    (counted : receive state arrival = .ok state.countInvalid) : Undisturbed state arrival :=
  ⟨state.countInvalid, counted, countInvalid_eq state⟩

/-- Another address that opens no stream disturbs nothing. -/
theorem undisturbed_of_foreign {state : State} {arrival : Arrival}
    (foreign : ¬ state.Owned arrival.datagram.sender)
    (opensNone : opensStream arrival.datagram = false) : Undisturbed state arrival := by
  rcases receive_foreign foreign opensNone with same | counted
  · exact ⟨state, same, rfl⟩
  · exact undisturbed_of_counted counted

/-- A `STREAM_START` in range starts its stream or ends the receiver. -/
theorem receive_opens {state next : State} {arrival : Arrival}
    (opens : opensStream arrival.datagram = true) (received : receive state arrival = .ok next) :
    next.activeSender = some arrival.datagram.sender := by
  rw [receive_eq] at received
  cases requested : request arrival.datagram with
  | start targetPps durationMs planned rate bounded =>
      rw [requested] at received
      cases allocated : arrival.allocated with
      | true =>
          rw [allocated] at received
          cases received
          rfl
      | false =>
          rw [allocated] at received
          cases received
  | _ => simp [opensStream, requested] at opens

/-- For a foreign datagram the lock holds exactly when it starts no stream. -/
theorem undisturbed_iff {state : State} {arrival : Arrival}
    (foreign : state.activeSender ≠ some arrival.datagram.sender) :
    Undisturbed state arrival ↔ opensStream arrival.datagram = false := by
  constructor
  · rintro ⟨next, received, unchanged⟩
    rw [← Bool.not_eq_true]
    intro opens
    have taken := receive_opens opens received
    rw [unchanged] at taken
    exact foreign taken
  · exact undisturbed_of_foreign fun owned => foreign owned.2

/-- No figure depends on an invalid count. -/
theorem respects_figures : Respects State.figures receive := by
  intro state arrival
  rw [receive_eq, receive_eq]
  cases request arrival.datagram with
  | invalid =>
      cases active : state.streamActive <;>
        simp [respond, State.countInvalid, State.figures, active, Except.map, Summary.figures]
  | ignored => simp [respond, State.figures, Except.map, Summary.figures]
  | start targetPps durationMs planned rate bounded =>
      cases allocated : arrival.allocated <;>
        simp [respond, startStream, State.figures, Except.map, Summary.figures]
  | finish quantity sequence range =>
      by_cases own : state.Owned arrival.datagram.sender
      · have same : state.figures.Owned arrival.datagram.sender := own
        rw [respond_finish own, respond_finish same]
        simp [endStream, printSummary, State.figures, Except.map, Summary.figures]
      · have same : ¬ state.figures.Owned arrival.datagram.sender := own
        rw [respond_finish_foreign own, respond_finish_foreign same]
        simp [State.figures, Except.map, Summary.figures]
  | quote sequence range =>
      by_cases counted : state.Owned arrival.datagram.sender ∧ 1 ≤ sequence ∧
          sequence ≤ state.plannedPackets
      · have same : state.figures.Owned arrival.datagram.sender := counted.1
        rw [respond_quote counted.1 counted.2, respond_quote same counted.2, recordQuote_eq,
          recordQuote_eq]
        simp only [State.figures]
        rcases lookUp Stop.subscriptError state.seenSequences sequence with stop | found
        · rfl
        · cases found <;>
            simp [State.counted, recordFirst, State.figures, Except.map, Summary.figures]
      · have same : ¬(state.figures.Owned arrival.datagram.sender ∧ 1 ≤ sequence ∧
            sequence ≤ state.figures.plannedPackets) := counted
        rw [respond_quote_refused counted, respond_quote_refused same]
        cases active : state.streamActive <;>
          simp [State.countInvalid, State.figures, active, Except.map, Summary.figures]

/-- Counting an invalid packet leaves the lock with its owner. -/
theorem countInvalid_owner (state : State) :
    state.countInvalid.streamActive = state.streamActive ∧
      state.countInvalid.activeSender = state.activeSender := by
  rw [countInvalid_eq]
  exact ⟨rfl, rfl⟩

/-- Only a `STREAM_START` changes the sender of a running stream. -/
theorem receive_sender {state next : State} {arrival : Arrival}
    (opensNone : opensStream arrival.datagram = false) (received : receive state arrival = .ok next)
    (running : next.streamActive = true) :
    state.streamActive = true ∧ next.activeSender = state.activeSender := by
  obtain ⟨activity, owner⟩ := countInvalid_owner state
  rw [receive_eq] at received
  cases requested : request arrival.datagram with
  | invalid =>
      rw [requested] at received
      cases received
      exact ⟨activity ▸ running, owner⟩
  | ignored =>
      rw [requested] at received
      cases received
      exact ⟨running, rfl⟩
  | start targetPps durationMs planned rate bounded => simp [opensStream, requested] at opensNone
  | finish quantity sequence range =>
      rw [requested] at received
      by_cases own : state.Owned arrival.datagram.sender
      · rw [respond_finish own] at received
        cases received
        cases running
      · rw [respond_finish_foreign own] at received
        cases received
        exact ⟨running, rfl⟩
  | quote sequence range =>
      rw [requested] at received
      by_cases counted : state.Owned arrival.datagram.sender ∧ 1 ≤ sequence ∧
          sequence ≤ state.plannedPackets
      · rw [respond_quote counted.1 counted.2, recordQuote_eq] at received
        refine ⟨counted.1.1, ?_⟩
        cases looked : lookUp Stop.subscriptError state.seenSequences sequence with
        | error stop =>
            rw [looked] at received
            cases received
        | ok found =>
            rw [looked] at received
            cases found <;> cases received <;> rfl
      · rw [respond_quote_refused counted] at received
        cases received
        exact ⟨activity ▸ running, owner⟩

/-- No other stream is running than that of the sender. -/
def State.LockedTo (sender : Address) (state : State) : Prop :=
  state.streamActive = true → state.activeSender = some sender

/-- Between takeovers, foreign traffic can be left out of a run. -/
theorem figures_without_foreign {sender : Address} {arrivals : List Arrival}
    (opensNone : ∀ arrival ∈ arrivals, arrival.datagram.sender ≠ sender →
      opensStream arrival.datagram = false)
    {state : State} (locked : state.LockedTo sender) :
    (arrivals.foldlM receive state).map State.figures =
      ((arrivals.filter fun arrival => arrival.datagram.sender = sender).foldlM receive state).map
        State.figures := by
  refine respects_figures.foldlM_filter (State.LockedTo sender) ?_ ?_ locked
  · intro state locked arrival member other
    rw [decide_eq_false_iff_not] at other
    have foreign : ¬ state.Owned arrival.datagram.sender := fun owned =>
      other (Option.some.inj (owned.2.symm.trans (locked owned.1)))
    obtain ⟨next, received, unchanged⟩ :=
      undisturbed_of_foreign foreign (opensNone arrival member other)
    rw [received, unchanged]
    rfl
  · intro state locked arrival member next received running
    by_cases own : arrival.datagram.sender = sender
    · cases opens : opensStream arrival.datagram with
      | true => rw [receive_opens opens received, own]
      | false =>
          obtain ⟨before, owner⟩ := receive_sender opens received running
          rw [owner, locked before]
    · obtain ⟨before, owner⟩ := receive_sender (opensNone arrival member own) received running
      rw [owner, locked before]

end PythonReceiver

namespace CReceiver

/-- Everything but the invalid counts, what depends on them, and the counters of the
`recvmmsg` calls. -/
def State.figures (state : State) : State :=
  { state with
    invalidPackets := 0#64
    recvmmsgCalls := 0#64
    messagesReturned := 0#64
    maximumBatchReturned := 0#32
    reports := state.reports.map Report.figures }

/-- Nothing but the invalid count changes. -/
def Undisturbed (state : State) (arrival : Arrival) : Prop :=
  ∃ next, processDatagram state arrival = .ok next ∧
    next = { state with invalidPackets := next.invalidPackets }

/-- Counting an invalid packet changes no other field. -/
theorem countInvalid_eq (state : State) :
    state.countInvalid = { state with invalidPackets := state.countInvalid.invalidPackets } := by
  unfold State.countInvalid
  split_ifs <;> rfl

/-- A packet that is only counted as invalid disturbs nothing. -/
theorem undisturbed_of_counted {state : State} {arrival : Arrival}
    (counted : processDatagram state arrival = .ok state.countInvalid) :
    Undisturbed state arrival :=
  ⟨state.countInvalid, counted, countInvalid_eq state⟩

/-- Another address that opens no stream disturbs nothing. -/
theorem undisturbed_of_foreign {state : State} {arrival : Arrival}
    (foreign : ¬ state.Owned arrival.datagram.sender)
    (opensNone : opensStream arrival.datagram = false) : Undisturbed state arrival := by
  rcases processDatagram_foreign foreign opensNone with same | counted
  · exact ⟨state, same, rfl⟩
  · exact undisturbed_of_counted counted

/-- A `STREAM_START` in range starts its stream or ends the receiver. -/
theorem processDatagram_opens {state next : State} {arrival : Arrival}
    (opens : opensStream arrival.datagram = true)
    (processed : processDatagram state arrival = .ok next) :
    next.sender = arrival.datagram.sender := by
  rw [processDatagram_eq] at processed
  cases requested : request arrival.datagram with
  | start targetPps durationMs planned rate bounded =>
      rw [requested] at processed
      cases allocated : arrival.allocated with
      | true =>
          rw [allocated] at processed
          cases processed
          rfl
      | false =>
          rw [allocated] at processed
          cases processed
  | _ => simp [opensStream, requested] at opens

/-- For a foreign datagram the lock holds exactly when it starts no stream. -/
theorem undisturbed_iff {state : State} {arrival : Arrival}
    (foreign : state.sender ≠ arrival.datagram.sender) :
    Undisturbed state arrival ↔ opensStream arrival.datagram = false := by
  constructor
  · rintro ⟨next, processed, unchanged⟩
    rw [← Bool.not_eq_true]
    intro opens
    have taken := processDatagram_opens opens processed
    rw [unchanged] at taken
    exact foreign taken
  · exact undisturbed_of_foreign fun owned => foreign ((sameSender_iff _ _).mp owned.2).symm

/-- No figure depends on an invalid count. -/
theorem respects_figures : Respects State.figures processDatagram := by
  intro state arrival
  rw [processDatagram_eq, processDatagram_eq]
  cases request arrival.datagram with
  | invalid =>
      cases active : state.active <;>
        simp [respond, State.countInvalid, State.figures, active, Except.map, Report.figures]
  | ignored => simp [respond, State.figures, Except.map, Report.figures]
  | start targetPps durationMs planned rate bounded =>
      cases allocated : arrival.allocated <;>
        simp [respond, resetStream, printStreamStart, State.figures, Except.map, Report.figures]
  | finish quantity sequence range =>
      by_cases own : state.Owned arrival.datagram.sender
      · have same : state.figures.Owned arrival.datagram.sender := own
        rw [respond_finish own, respond_finish same]
        simp [finishStream, report, State.figures, Except.map, Report.figures]
      · have same : ¬ state.figures.Owned arrival.datagram.sender := own
        rw [respond_finish_foreign own, respond_finish_foreign same]
        simp [State.figures, Except.map, Report.figures]
  | quote sequence range =>
      by_cases counted : state.Owned arrival.datagram.sender ∧
          ¬BitVec.ofNat 32 sequence < 1#32 ∧ ¬BitVec.ofNat 32 sequence > state.plannedPackets
      · have same : state.figures.Owned arrival.datagram.sender := counted.1
        rw [respond_quote counted.1 counted.2, respond_quote same counted.2, recordQuote_eq,
          recordQuote_eq]
        simp only [State.figures]
        rcases lookUp Stop.undefinedBehaviour state.seenSequences
          (BitVec.ofNat 32 sequence).toNat with stop | found
        · rfl
        · cases found <;>
            simp [State.counted, recordFirst, State.figures, Except.map, Report.figures]
      · have same : ¬(state.figures.Owned arrival.datagram.sender ∧
            ¬BitVec.ofNat 32 sequence < 1#32 ∧
            ¬BitVec.ofNat 32 sequence > state.figures.plannedPackets) := counted
        rw [respond_quote_refused counted, respond_quote_refused same]
        cases active : state.active <;>
          simp [State.countInvalid, State.figures, active, Except.map, Report.figures]

/-- Counting an invalid packet leaves the lock with its owner. -/
theorem countInvalid_owner (state : State) :
    state.countInvalid.active = state.active ∧ state.countInvalid.sender = state.sender := by
  rw [countInvalid_eq]
  exact ⟨rfl, rfl⟩

/-- Only a `STREAM_START` changes the sender of a running stream. -/
theorem processDatagram_sender {state next : State} {arrival : Arrival}
    (opensNone : opensStream arrival.datagram = false)
    (processed : processDatagram state arrival = .ok next) (running : next.active = true) :
    state.active = true ∧ next.sender = state.sender := by
  obtain ⟨activity, owner⟩ := countInvalid_owner state
  rw [processDatagram_eq] at processed
  cases requested : request arrival.datagram with
  | invalid =>
      rw [requested] at processed
      cases processed
      exact ⟨activity ▸ running, owner⟩
  | ignored =>
      rw [requested] at processed
      cases processed
      exact ⟨running, rfl⟩
  | start targetPps durationMs planned rate bounded => simp [opensStream, requested] at opensNone
  | finish quantity sequence range =>
      rw [requested] at processed
      by_cases own : state.Owned arrival.datagram.sender
      · rw [respond_finish own] at processed
        cases processed
        cases running
      · rw [respond_finish_foreign own] at processed
        cases processed
        exact ⟨running, rfl⟩
  | quote sequence range =>
      rw [requested] at processed
      by_cases counted : state.Owned arrival.datagram.sender ∧
          ¬BitVec.ofNat 32 sequence < 1#32 ∧ ¬BitVec.ofNat 32 sequence > state.plannedPackets
      · rw [respond_quote counted.1 counted.2, recordQuote_eq] at processed
        refine ⟨counted.1.1, ?_⟩
        cases looked : lookUp Stop.undefinedBehaviour state.seenSequences
          (BitVec.ofNat 32 sequence).toNat with
        | error stop =>
            rw [looked] at processed
            cases processed
        | ok found =>
            rw [looked] at processed
            cases found <;> cases processed <;> rfl
      · rw [respond_quote_refused counted] at processed
        cases processed
        exact ⟨activity ▸ running, owner⟩

/-- The grouping into calls is no figure. -/
theorem figures_of_calls (calls : List (List Arrival)) (state : State) :
    (calls.foldlM receiveCall state).map State.figures =
      (calls.flatten.foldlM processDatagram state).map State.figures := by
  induction calls generalizing state with
  | nil => rfl
  | cons received calls ih =>
      have uncounted : (state.countCall received.length).figures = state.figures := by
        unfold State.countCall
        split_ifs <;> rfl
      rw [List.foldlM_cons, List.flatten_cons, List.foldlM_append, receiveCall]
      refine map_bind_congr (respects_figures.foldlM uncounted received) fun left right same => ?_
      exact (ih left).trans (respects_figures.foldlM same _)

/-- No other stream is running than that of the sender. -/
def State.LockedTo (sender : Address) (state : State) : Prop :=
  state.active = true → state.sender = sender

/-- Between takeovers, foreign traffic can be left out of a run, and the calls of
`recvmmsg` may then group the datagrams in another way. -/
theorem figures_without_foreign {sender : Address} {calls ownCalls : List (List Arrival)}
    (opensNone : ∀ arrival ∈ calls.flatten, arrival.datagram.sender ≠ sender →
      opensStream arrival.datagram = false)
    (own : ownCalls.flatten =
      calls.flatten.filter fun arrival => arrival.datagram.sender = sender)
    {state : State} (locked : state.LockedTo sender) :
    (calls.foldlM receiveCall state).map State.figures =
      (ownCalls.foldlM receiveCall state).map State.figures := by
  rw [figures_of_calls, figures_of_calls, own]
  refine respects_figures.foldlM_filter (State.LockedTo sender) ?_ ?_ locked
  · intro state locked arrival member other
    rw [decide_eq_false_iff_not] at other
    have foreign : ¬ state.Owned arrival.datagram.sender := fun owned =>
      other (((sameSender_iff _ _).mp owned.2).trans (locked owned.1))
    obtain ⟨next, processed, unchanged⟩ :=
      undisturbed_of_foreign foreign (opensNone arrival member other)
    rw [processed, unchanged]
    rfl
  · intro state locked arrival member next processed running
    by_cases own : arrival.datagram.sender = sender
    · cases opens : opensStream arrival.datagram with
      | true => rw [processDatagram_opens opens processed, own]
      | false =>
          obtain ⟨before, owner⟩ := processDatagram_sender opens processed running
          rw [owner, locked before]
    · obtain ⟨before, owner⟩ :=
        processDatagram_sender (opensNone arrival member own) processed running
      rw [owner, locked before]

end CReceiver

/-- A datagram from another address or port than the active sender's changes nothing but
the invalid count, unless it is a `STREAM_START` in range, which never does so. In a run
without such takeovers, everything but the invalid counts and the verdicts that depend
on them is the same with and without the foreign traffic. -/
theorem active_sender_lock :
    (∀ (state : PythonReceiver.State) (arrival : Arrival), state.streamActive = true →
      state.activeSender ≠ some arrival.datagram.sender →
      (PythonReceiver.Undisturbed state arrival ↔ opensStream arrival.datagram = false)) ∧
    (∀ (state : CReceiver.State) (arrival : Arrival), state.active = true →
      state.sender ≠ arrival.datagram.sender →
      (CReceiver.Undisturbed state arrival ↔ opensStream arrival.datagram = false)) ∧
    (∀ (state : PythonReceiver.State) (sender : Address) (arrivals : List Arrival),
      state.LockedTo sender →
      (∀ arrival ∈ arrivals, arrival.datagram.sender ≠ sender →
        opensStream arrival.datagram = false) →
      (arrivals.foldlM PythonReceiver.receive state).map PythonReceiver.State.figures =
        ((arrivals.filter fun arrival => arrival.datagram.sender = sender).foldlM
          PythonReceiver.receive state).map PythonReceiver.State.figures) ∧
    ∀ (state : CReceiver.State) (sender : Address) (calls ownCalls : List (List Arrival)),
      state.LockedTo sender →
      (∀ arrival ∈ calls.flatten, arrival.datagram.sender ≠ sender →
        opensStream arrival.datagram = false) →
      ownCalls.flatten = calls.flatten.filter (fun arrival => arrival.datagram.sender = sender) →
      (calls.foldlM CReceiver.receiveCall state).map CReceiver.State.figures =
        (ownCalls.foldlM CReceiver.receiveCall state).map CReceiver.State.figures :=
  ⟨fun _ _ _ foreign => PythonReceiver.undisturbed_iff foreign,
    fun _ _ _ foreign => CReceiver.undisturbed_iff foreign,
    fun _ _ _ locked opensNone => PythonReceiver.figures_without_foreign opensNone locked,
    fun _ _ _ _ locked opensNone own => CReceiver.figures_without_foreign opensNone own locked⟩

section Intrusion

/-- Another sender on the test network. -/
def intruder : Address := ⟨0xC0A80203#32, 6006#16⟩

/-- A quote of it. -/
def foreignQuote : Arrival :=
  ⟨⟨(senderFields messageQuoteUpdate 0 1 0 1 100 1).layout, intruder⟩, true⟩

/-- In the middle of a test, the quote of another sender is counted as invalid. -/
theorem foreign_quote_harmless :
    ∃ state, PythonReceiver.run [announcement] = .ok state ∧ state.streamActive = true ∧
      state.activeSender ≠ some foreignQuote.datagram.sender ∧
      PythonReceiver.Undisturbed state foreignQuote := by
  refine ⟨_, rfl, rfl, by decide, ?_⟩
  exact (active_sender_lock.1 _ foreignQuote rfl (by decide)).mpr (by decide)

/-- Its `STREAM_START`. -/
def intrusion : Arrival :=
  ⟨⟨(senderFields messageStreamStart 0 0 0 1000 1 5).layout, intruder⟩, true⟩

/-- In the middle of a test, the announcement of another sender ends it and discards
the packet received so far. -/
theorem foreign_start_takes_over :
    (∃ state next, PythonReceiver.run [announcement, onlyQuote] = .ok state ∧
      state.streamActive = true ∧ state.activeSender = some tester ∧ state.validPackets = 1 ∧
      PythonReceiver.receive state intrusion = .ok next ∧
      next.activeSender = some intruder ∧ next.plannedPackets = 5 ∧ next.validPackets = 0) ∧
    ∃ state next, CReceiver.main [[announcement, onlyQuote]] = .ok state ∧
      state.active = true ∧ state.sender = tester ∧ state.validPackets = 1#64 ∧
      CReceiver.processDatagram state intrusion = .ok next ∧
      next.sender = intruder ∧ next.plannedPackets = 5#32 ∧ next.validPackets = 0#64 :=
  ⟨⟨_, _, rfl, rfl, rfl, rfl, rfl, rfl, rfl, rfl⟩, ⟨_, _, rfl, rfl, rfl, rfl, rfl, rfl, rfl, rfl⟩⟩

end Intrusion

end HftPipeline.Host
